import Sluice.Input
import Sluice.Lifecycle
import Sluice.Message.EncodedSize
import Sluice.Output
import Sluice.ReportBus

set_option autoImplicit false

/-! A stage's worker: the loop that fetches packets, calls the remote method and delivers its results,
broken into the steps between which other tasks may run. A step that needs an answer from the remote
service, a packet, or the end of a pause is blocked until it is there.

Each round starts at a checkpoint: a pending interrupt pauses the stage, a pause is sat out, and a
finished stage ends the loop. A failure that means an unreachable service pauses the stage and is then
reported on the bus; any other failure ends it. -/

namespace Sluice

inductive StageKind where
  | unary
  | serverStreaming
  | oneShotUnary
deriving DecidableEq

namespace StageKind

def select (stage : String) : MethodShape → ExecutionMode → Except StageError StageKind
  | .unary, .continuous => .ok .unary
  | .unary, .oneShot => .ok .oneShotUnary
  | .serverStreaming, .continuous => .ok .serverStreaming
  | .serverStreaming, .oneShot => .error (.unsupportedShape stage .serverStreaming .oneShot)

def label : StageKind → String
  | .unary => "unary"
  | .serverStreaming => "server_streaming"
  | .oneShotUnary => "one_shot_unary"

def requiresSource : StageKind → Bool
  | .unary => false
  | .serverStreaming | .oneShotUnary => true

end StageKind

/-- Items of a remote stream that have arrived and were not read, and whether more can come. -/
structure OpenStream where
  ready : List (Except Status Message)
  complete : Bool

/-- A stream being read: the size of the request that opened it and when the wait for the next item
began. -/
structure Reading where
  stream : OpenStream
  requestSize : Nat
  since : Duration

inductive Control where
  /-- At the top of a round. -/
  | checking
  /-- Saw a pending interrupt and is about to pause. -/
  | parking
  /-- Sitting out a pause. -/
  | gated
  /-- Past the gate, about to look for a finish once more. -/
  | passing
  | fetching (token : TokenId) (call : InputCall)
  /-- A unary call waits for its answer. -/
  | calling (request : Packet) (since : Duration)
  /-- A streaming call waits to be opened. -/
  | opening (request : Packet)
  | answered (request : Packet) (since : Duration) (response : Message)
  | reading (stream : Reading)
  /-- Results on their way to the links, and the stream that is read on afterwards. -/
  | delivering (rest : List Delivery) (stream : Option Reading)
  /-- A call, an opening or an item failed. -/
  | failed (status : Status)
  /-- The service is unreachable: about to pause. -/
  | withdrawing
  /-- Paused: about to report. -/
  | reporting
  /-- A one-shot stage sits out its own pause before it ends. -/
  | lingering
  /-- About to hand over a failure that ends the stage. -/
  | failing (error : StageError)
  /-- The failure was handed over: about to finish. -/
  | condemned
  | stopping
  | ended
  /-- Torn down by the failure handler without finishing its stage. -/
  | crashed

structure Worker where
  stage : String
  kind : StageKind
  unavailable : Status → Bool
  input : Input
  output : Output
  iterations : Nat
  nextId : Nat
  control : Control

structure FatalFailure where
  stage : String
  error : StageError
deriving DecidableEq

inductive Effect where
  | noted (notice : Notice)
  | called (request : Message)
  | dispatched (packet : Packet)
  | stored (link : LinkId) (packet : Packet)
  | reported (stage : String)
  | failed (failure : FatalFailure)

structure WorkerStep where
  worker : Worker
  lifecycle : Lifecycle
  links : LinkStore
  bus : ReportBus
  effects : List Effect

namespace Effect

def ofNotices (notices : List Notice) : List Effect :=
  notices.map .noted

end Effect

namespace Worker

def create (stage : String) (kind : StageKind) (unavailable : Status → Bool) (input : Input)
    (output : Output) : Worker :=
  { stage := stage, kind := kind, unavailable := unavailable, input := input, output := output
    iterations := 0, nextId := 0, control := .checking }

def isOver (worker : Worker) : Bool :=
  match worker.control with
  | .ended | .crashed => true
  | .fetching _ call => call.hasCollapsed
  | _ => false

def started (worker : Worker) : Notice :=
  .workerStarted worker.stage worker.kind.label worker.input.label worker.output.label

/-- After a fetch that brought nothing, or a failure that the stage survives. -/
def nextRound (worker : Worker) : Control :=
  match worker.kind with
  | .oneShotUnary => .stopping
  | .unary | .serverStreaming => .checking

def begin (worker : Worker) (now : Duration) (packet : Packet) : Worker × List Effect :=
  ({ worker with
      iterations := worker.iterations + 1
      control := match worker.kind with
        | .serverStreaming => .opening packet
        | .unary | .oneShotUnary => .calling packet now },
    [.called packet.message])

/-- Turns a result into deliveries; a result that cannot be split ends the stage. -/
def dispatch (worker : Worker) (packet : Packet) (stream : Option Reading) :
    Worker × List Effect :=
  match worker.output.route packet with
  | .ok deliveries =>
      ({ worker with control := .delivering deliveries stream }, [.dispatched packet])
  | .error cause => ({ worker with control := .failing (.dispatch worker.stage cause) }, [])

def completed (worker : Worker) (id requestSize : Nat) (response : Message) (elapsed : Duration) :
    Notice :=
  .callCompleted worker.stage id requestSize response.encodedSize elapsed

def step (now : Duration) (cancelFirst : Bool) (life : Lifecycle) (links : LinkStore)
    (bus : ReportBus) (worker : Worker) : Option WorkerStep :=
  let goTo (control : Control) (effects : List Effect) : Option WorkerStep :=
    some { worker := { worker with control := control }, lifecycle := life, links := links
           bus := bus, effects := effects }
  match worker.control with
  | .checking =>
      if life.isInterrupted then goTo .parking [.noted (.waitInterrupted worker.stage)]
      else goTo .gated []
  | .parking =>
      let paused := life.pause
      some { worker := { worker with control := .gated }, lifecycle := paused.1, links := links
             bus := bus, effects := Effect.ofNotices paused.2 }
  | .gated =>
      match life.waitWhilePaused with
      | none => none
      | some .running => goTo .passing []
      | some _ => goTo .stopping []
  | .passing =>
      if life.isFinished then goTo .stopping []
      else goTo (.fetching life.cancellation worker.input.call) []
  | .fetching token call =>
      match worker.input.step (life.tokens.isFired token) cancelFirst links call with
      | none => none
      | some fetched =>
          let held := { worker with input := fetched.input }
          let next : Worker × List Effect :=
            match fetched.outcome with
            | .inl later => ({ held with control := .fetching token later }, [])
            | .inr none => ({ held with control := held.nextRound }, [])
            | .inr (some packet) => held.begin now packet
          some { worker := next.1, lifecycle := life, links := fetched.links, bus := bus
                 effects := Effect.ofNotices fetched.notices ++ next.2 }
  | .calling .. => none
  | .opening _ => none
  | .answered request since response =>
      let notice := worker.completed request.id request.message.encodedSize response
        { nanos := now.nanos - since.nanos }
      let next := worker.dispatch (request.carry response) none
      some { worker := next.1, lifecycle := life, links := links, bus := bus
             effects := .noted notice :: next.2 }
  | .reading reading =>
      match reading.stream.ready with
      | [] => if reading.stream.complete then goTo .checking [] else none
      | .error status :: _ => goTo (.failed status) []
      | .ok response :: later =>
          let notice := worker.completed worker.nextId reading.requestSize response
            { nanos := now.nanos - reading.since.nanos }
          let rest : Reading :=
            { reading with stream := { reading.stream with ready := later }, since := now }
          let counted := { worker with nextId := worker.nextId + 1 }
          let next := counted.dispatch { id := worker.nextId, message := response } (some rest)
          some { worker := next.1, lifecycle := life, links := links, bus := bus
                 effects := .noted notice :: next.2 }
  | .delivering [] (some reading) => goTo (.reading reading) []
  | .delivering [] none => goTo worker.nextRound []
  | .delivering ((link, packet) :: rest) stream =>
      let stored := links.put link packet
      some { worker := { worker with control := .delivering rest stream }, lifecycle := life
             links := stored.1, bus := bus
             effects := .stored link packet :: Effect.ofNotices stored.2.2 }
  | .failed status =>
      if worker.unavailable status then
        goTo .withdrawing [.noted (.serviceUnavailable worker.stage status)]
      else goTo (.failing (.remoteCall worker.stage status)) []
  | .withdrawing =>
      let paused := life.pause
      some { worker := { worker with control := .reporting }, lifecycle := paused.1, links := links
             bus := bus, effects := Effect.ofNotices paused.2 }
  | .reporting =>
      let next := match worker.kind with
        | .oneShotUnary => Control.lingering
        | .unary | .serverStreaming => .checking
      some { worker := { worker with control := next }, lifecycle := life, links := links
             bus := bus.publish worker.stage, effects := [.reported worker.stage] }
  | .lingering =>
      match life.waitWhilePaused with
      | none => none
      | some _ => goTo .stopping []
  | .failing error =>
      goTo .condemned
        [.noted (.stageFailed worker.stage error.text),
          .failed { stage := worker.stage, error := error }]
  | .condemned =>
      let finished := life.finish
      some { worker := { worker with control := .stopping }, lifecycle := finished.1, links := links
             bus := bus, effects := Effect.ofNotices finished.2 }
  | .stopping =>
      let finished := life.finish
      some { worker := { worker with control := .ended }, lifecycle := finished.1, links := links
             bus := bus
             effects := Effect.ofNotices
               (finished.2 ++ [.workerStopped worker.stage worker.iterations]) }
  | .ended => none
  | .crashed => none

inductive Answer where
  | response (message : Message)
  | failure (status : Status)
  | stream (stream : OpenStream)

def answer (now : Duration) (worker : Worker) (given : Answer) : Option Worker :=
  match worker.control, given with
  | .calling request since, .response message =>
      some { worker with control := .answered request since message }
  | .calling .., .failure status => some { worker with control := .failed status }
  | .opening request, .stream stream =>
      some { worker with
        control := .reading
          { stream := stream, requestSize := request.message.encodedSize, since := now } }
  | .opening _, .failure status => some { worker with control := .failed status }
  | _, _ => none

def onStream (change : OpenStream → OpenStream) (worker : Worker) : Option Worker :=
  let changed (reading : Reading) : Reading := { reading with stream := change reading.stream }
  match worker.control with
  | .reading reading =>
      if reading.stream.complete then none
      else some { worker with control := .reading (changed reading) }
  | .delivering rest (some reading) =>
      if reading.stream.complete then none
      else some { worker with control := .delivering rest (some (changed reading)) }
  | _ => none

def feed (item : Except Status Message) (worker : Worker) : Option Worker :=
  worker.onStream fun stream => { stream with ready := stream.ready ++ [item] }

def endStream (worker : Worker) : Option Worker :=
  worker.onStream fun stream => { stream with complete := true }

end Sluice.Worker
