import Sluice.Duration
import Sluice.Status
import Sluice.Topology.Validation

set_option autoImplicit false

/-! What is written to the log: one constructor per kind of line, each with its level, its text, its
fields, and the span that work on its subject runs in. -/

namespace Sluice

inductive LogLevel where
  | trace
  | debug
  | info
  | warn
  | error
deriving DecidableEq

def LogLevel.label : LogLevel → String
  | .trace => "TRACE"
  | .debug => "DEBUG"
  | .info => "INFO"
  | .warn => "WARN"
  | .error => "ERROR"

inductive LogField where
  | number (number : Nat)
  | text (text : String)
deriving DecidableEq

structure LogRecord where
  level : LogLevel
  message : String
  fields : List (String × LogField)
deriving DecidableEq

structure LogSpan where
  name : String
  level : LogLevel
  fields : List (String × LogField)
deriving DecidableEq

inductive Notice where
  | pipelineStarting (stageCount linkCount : Nat)
  | linkBound (source sourceKey target targetKey : String)
  | pipelineStopped (stageCount : Nat) (duration : Duration)
  | workerJoinFailed (stage error : String)
  | workerStarted (stage kind input output : String)
  | workerStopped (stage : String) (iterations : Nat)
  | lifecycleChanged (stage before after : String)
  | unexpectedRequest (stage request state : String)
  | waitInterrupted (stage : String)
  | callCompleted (stage : String) (sequenceId requestSize responseSize : Nat) (duration : Duration)
  | serviceUnavailable (stage : String) (status : Status)
  | stageFailed (stage error : String)
  | staleDiscarded (link : String) (sequenceId : Nat)
  | backoffStarted (stage : String) (stageCount : Nat) (backoff : Duration)
  | stagesResumed (stageCount : Nat)
  | reportsLagged (skipped : Nat)
  | topologyRejected (faultCount : Nat) (first : TopologyFault)
  | buildingStage (stage kind method endpoint : String)
  | requestIgnored (stage request : String)
  | reportAbsorbed (stage : String)
  | monitorStopped
deriving DecidableEq

namespace Notice

def level : Notice → LogLevel
  | .staleDiscarded .. | .requestIgnored .. => .trace
  | .linkBound .. | .lifecycleChanged .. | .callCompleted .. | .buildingStage ..
  | .reportAbsorbed .. | .monitorStopped => .debug
  | .pipelineStarting .. | .pipelineStopped .. | .workerStarted .. | .workerStopped ..
  | .waitInterrupted .. | .stagesResumed .. => .info
  | .unexpectedRequest .. | .serviceUnavailable .. | .backoffStarted .. | .reportsLagged .. => .warn
  | .workerJoinFailed .. | .stageFailed .. | .topologyRejected .. => .error

/-- A binding key in a text: the whole message shows as a star. -/
def shownKey (key : String) : String :=
  if key = wholeMessage then "*" else key

def text : Notice → String
  | .pipelineStarting stageCount linkCount =>
      s!"Starting pipeline: {stageCount} stages, {linkCount} links"
  | .linkBound source sourceKey target targetKey =>
      "Bound link " ++ source ++ "[" ++ shownKey sourceKey ++ "] -> " ++ target ++ "[" ++
        shownKey targetKey ++ "]"
  | .pipelineStopped stageCount duration =>
      s!"Pipeline stopped: {stageCount} stages ran for " ++ duration.text
  | .workerJoinFailed stage error => s!"Worker for stage '{stage}' ended abnormally: {error}"
  | .workerStarted stage kind input output =>
      s!"Stage '{stage}' started: kind={kind}, input={input}, output={output}"
  | .workerStopped stage iterations => s!"Stage '{stage}' stopped after {iterations} iterations"
  | .lifecycleChanged stage before after => s!"Stage '{stage}' {before} -> {after}"
  | .unexpectedRequest stage request state =>
      s!"Ignoring {request} request for stage '{stage}' in state {state}"
  | .waitInterrupted stage => s!"Stage '{stage}' interrupted, pausing"
  | .callCompleted stage sequenceId requestSize responseSize duration =>
      s!"Stage '{stage}' call #{sequenceId} completed: request={requestSize} bytes, " ++
        s!"response={responseSize} bytes, duration=" ++ duration.text
  | .serviceUnavailable stage status =>
      s!"Stage '{stage}' remote service unavailable: " ++ status.message
  | .stageFailed stage error => s!"Stage '{stage}' failed fatally: {error}"
  | .staleDiscarded link sequenceId => s!"Link '{link}' discarded stale state #{sequenceId}"
  | .backoffStarted stage stageCount backoff =>
      s!"Stage '{stage}' reported its service unavailable; pausing {stageCount} stages for " ++
        backoff.text
  | .stagesResumed stageCount => s!"Backoff elapsed; resumed {stageCount} stages"
  | .reportsLagged skipped => s!"Failure monitor skipped {skipped} unavailable-service events"
  | .topologyRejected faultCount first =>
      s!"Topology rejected with {faultCount} error(s), first: " ++ first.text
  | .buildingStage .. => "Building stage"
  | .requestIgnored .. => "lifecycle request was a no-op"
  | .reportAbsorbed .. => "Report absorbed by running backoff"
  | .monitorStopped => "Failure monitor stopped"

def fields : Notice → List (String × LogField)
  | .pipelineStarting stageCount linkCount =>
      [("stage_count", .number stageCount), ("link_count", .number linkCount)]
  | .linkBound source sourceKey target targetKey =>
      [("from", .text source), ("source_key", .text sourceKey), ("to", .text target),
        ("target_key", .text targetKey)]
  | .pipelineStopped stageCount duration =>
      [("stage_count", .number stageCount), ("duration_ms", .number duration.millis)]
  | .workerJoinFailed stage error => [("stage_name", .text stage), ("error", .text error)]
  | .workerStarted stage kind input output =>
      [("stage_name", .text stage), ("kind", .text kind), ("input", .text input),
        ("output", .text output)]
  | .workerStopped stage iterations =>
      [("stage_name", .text stage), ("iterations", .number iterations)]
  | .lifecycleChanged stage before after =>
      [("stage_name", .text stage), ("from", .text before), ("to", .text after)]
  | .unexpectedRequest stage request state =>
      [("stage_name", .text stage), ("request", .text request), ("state", .text state)]
  | .waitInterrupted stage => [("stage_name", .text stage)]
  | .callCompleted stage sequenceId requestSize responseSize duration =>
      [("stage_name", .text stage), ("sequence_id", .number sequenceId),
        ("request_size", .number requestSize), ("response_size", .number responseSize),
        ("duration_us", .number duration.micros)]
  | .serviceUnavailable stage status =>
      [("stage_name", .text stage), ("code", .text status.code.name)]
  | .stageFailed stage error => [("stage_name", .text stage), ("error", .text error)]
  | .staleDiscarded link sequenceId =>
      [("link", .text link), ("sequence_id", .number sequenceId)]
  | .backoffStarted stage stageCount backoff =>
      [("stage_name", .text stage), ("stage_count", .number stageCount),
        ("backoff_ms", .number backoff.millis)]
  | .stagesResumed stageCount => [("stage_count", .number stageCount)]
  | .reportsLagged skipped => [("skipped", .number skipped)]
  | .topologyRejected faultCount first =>
      [("error_count", .number faultCount), ("first_error", .text first.text)]
  | .buildingStage stage kind method endpoint =>
      [("stage_name", .text stage), ("kind", .text kind), ("method", .text method),
        ("endpoint", .text endpoint)]
  | .requestIgnored stage request => [("stage_name", .text stage), ("request", .text request)]
  | .reportAbsorbed stage => [("stage_name", .text stage)]
  | .monitorStopped => []

def record (notice : Notice) : LogRecord :=
  { level := notice.level, message := notice.text, fields := notice.fields }

/-- Work on most subjects runs in a plain span; pipelines, workers and backoffs have their own. -/
def span (notice : Notice) (name : String) : LogSpan :=
  let named : String × LogField := ("span_name", .text name)
  match notice with
  | .pipelineStarting stageCount linkCount =>
      { name := "pipeline", level := .info
        fields := [named, ("stage_count", .number stageCount), ("link_count", .number linkCount)] }
  | .workerStarted stage kind _ _ =>
      { name := "stage", level := .info
        fields := [named, ("stage_name", .text stage), ("kind", .text kind)] }
  | .backoffStarted stage _ _ =>
      { name := "backoff", level := .warn, fields := [named, ("stage_name", .text stage)] }
  | _ => { name := "switchyard", level := .debug, fields := [named] }

end Sluice.Notice
