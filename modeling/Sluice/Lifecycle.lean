import Sluice.Cancellation
import Sluice.Notice

set_option autoImplicit false

/-! A stage's state of life and the requests on it. Finished is final. Beside the state stands the
token that every blocking wait of the stage listens to: `finish` fires it for good, `interrupt` fires
it once, and the next change from paused to running puts a fresh one in its place. -/

namespace Sluice

inductive Phase where
  | running
  | paused
  | finished
deriving DecidableEq

namespace Phase

def label : Phase → String
  | .running => "running"
  | .paused => "paused"
  | .finished => "finished"

def title : Phase → String
  | .running => "Running"
  | .paused => "Paused"
  | .finished => "Finished"

end Phase

inductive LifecycleRequest where
  | pause
  | resume
  | finish
  | interrupt
deriving DecidableEq

def LifecycleRequest.label : LifecycleRequest → String
  | .pause => "pause"
  | .resume => "resume"
  | .finish => "finish"
  | .interrupt => "interrupt"

structure Lifecycle where
  stage : String
  phase : Phase
  tokens : TokenPool
  current : TokenId
deriving DecidableEq

namespace Lifecycle

def fresh (stage : String) : Lifecycle :=
  { stage := stage, phase := .running, tokens := .single, current := 0 }

def isFinished (life : Lifecycle) : Bool :=
  life.phase = .finished

def currentFired (life : Lifecycle) : Bool :=
  life.tokens.isFired life.current

/-- An interrupt is pending on a stage that is still alive. -/
def isInterrupted (life : Lifecycle) : Bool :=
  !life.isFinished && life.currentFired

def cancellation (life : Lifecycle) : TokenId :=
  life.current

def changed (life : Lifecycle) (target : Phase) : Notice :=
  .lifecycleChanged life.stage life.phase.label target.label

def ignored (life : Lifecycle) (request : LifecycleRequest) : Notice :=
  .requestIgnored life.stage request.label

def unexpected (life : Lifecycle) (request : LifecycleRequest) : Notice :=
  .unexpectedRequest life.stage request.label life.phase.label

def pause (life : Lifecycle) : Lifecycle × List Notice :=
  match life.phase with
  | .running => ({ life with phase := .paused }, [life.changed .paused])
  | .paused => (life, [life.ignored .pause])
  | .finished => (life, [life.unexpected .pause, life.ignored .pause])

/-- A fired token is replaced only on a change from paused to running, so an interrupt that is
pending on a running stage stays. -/
def rearm (life : Lifecycle) : Lifecycle :=
  if life.currentFired then
    { life with tokens := life.tokens.issue, current := life.tokens.fresh }
  else life

def resume (life : Lifecycle) : Lifecycle × List Notice :=
  match life.phase with
  | .paused => ({ life.rearm with phase := .running }, [life.changed .running])
  | .running => (life, [life.ignored .resume])
  | .finished => (life, [life.unexpected .resume, life.ignored .resume])

def fireCurrent (life : Lifecycle) : Lifecycle :=
  { life with tokens := life.tokens.fire life.current }

def interrupt (life : Lifecycle) : Lifecycle :=
  life.fireCurrent

def finish (life : Lifecycle) : Lifecycle × List Notice :=
  match life.phase with
  | .finished => (life.fireCurrent, [life.ignored .finish])
  | _ => ({ life.fireCurrent with phase := .finished }, [life.changed .finished])

def request (life : Lifecycle) : LifecycleRequest → Lifecycle × List Notice
  | .pause => life.pause
  | .resume => life.resume
  | .finish => life.finish
  | .interrupt => (life.interrupt, [])

/-- A wait for the end of a pause yields the state that ended it, `none` while it is blocked. -/
def waitWhilePaused (life : Lifecycle) : Option Phase :=
  if life.phase = .paused then none else some life.phase

def inspect (life : Lifecycle) : String :=
  "StageHandle \x7b name: " ++ Text.quoted life.stage ++ ", state: " ++ life.phase.title ++ " \x7d"

end Sluice.Lifecycle
