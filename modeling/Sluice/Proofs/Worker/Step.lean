import Sluice.Worker

set_option autoImplicit false

/-! What one step of a worker does, case by case. Most steps only move its control; the others pause or
finish the stage, report, fetch, hand a result to the output, or put one packet on a link. -/

namespace Sluice
namespace Worker

/-- Moves of a worker's control that touch nothing else. -/
inductive Turns (life : Lifecycle) (worker : Worker) : Control → Control → List Effect → Prop
  | interrupted (pending : life.isInterrupted = true) :
      Turns life worker .checking .parking [.noted (.waitInterrupted worker.stage)]
  | checked (calm : life.isInterrupted = false) : Turns life worker .checking .gated []
  | passed (running : life.phase = .running) : Turns life worker .gated .passing []
  | released (finished : life.phase = .finished) : Turns life worker .gated .stopping []
  | caught (finished : life.isFinished = true) : Turns life worker .passing .stopping []
  | asked (live : life.isFinished = false) :
      Turns life worker .passing (.fetching life.cancellation worker.input.call) []
  | exhausted {reading : Reading} (none : reading.stream.ready = [])
      (complete : reading.stream.complete = true) : Turns life worker (.reading reading) .checking []
  | broken {reading : Reading} {status : Status} {later : List (Except Status Message)}
      (ready : reading.stream.ready = .error status :: later) :
      Turns life worker (.reading reading) (.failed status) []
  | resumed {reading : Reading} :
      Turns life worker (.delivering [] (some reading)) (.reading reading) []
  | delivered : Turns life worker (.delivering [] none) worker.nextRound []
  | unreachable {status : Status} (unavailable : worker.unavailable status = true) :
      Turns life worker (.failed status) .withdrawing
        [.noted (.serviceUnavailable worker.stage status)]
  | rejected {status : Status} (available : worker.unavailable status = false) :
      Turns life worker (.failed status) (.failing (.remoteCall worker.stage status)) []
  | outlasted (ended : life.phase ≠ .paused) : Turns life worker .lingering .stopping []
  | confessed {error : StageError} :
      Turns life worker (.failing error) .condemned
        [.noted (.stageFailed worker.stage error.text),
          .failed { stage := worker.stage, error := error }]

inductive Pauses : Control → Control → Prop
  | parked : Pauses .parking .gated
  | withdrawn : Pauses .withdrawing .reporting

inductive Finishes : Control → Control → Prop
  | condemned : Finishes .condemned .stopping
  | stopped : Finishes .stopping .ended

/-- A result that a worker is about to hand to its output: the worker by then, the packet, and the
stream that is read on afterwards. -/
inductive Offers (now : Duration) (worker : Worker) : Worker → Packet → Option Reading → Prop
  | answered {request : Packet} {since : Duration} {response : Message}
      (control : worker.control = .answered request since response) :
      Offers now worker worker (request.carry response) none
  | read {reading : Reading} {response : Message} {later : List (Except Status Message)}
      (control : worker.control = .reading reading)
      (ready : reading.stream.ready = .ok response :: later) :
      Offers now worker { worker with nextId := worker.nextId + 1, control := .reading reading }
        { id := worker.nextId, message := response }
        (some { reading with stream := { reading.stream with ready := later }, since := now })

def afterReport (worker : Worker) : Control :=
  match worker.kind with
  | .oneShotUnary => .lingering
  | .unary | .serverStreaming => .checking

inductive Stepped (now : Duration) (life : Lifecycle) (links : LinkStore) (bus : ReportBus)
    (worker : Worker) : WorkerStep → Prop
  | turned {next : Control} {effects : List Effect}
      (turns : worker.Turns life worker.control next effects) :
      Stepped now life links bus worker
        { worker := { worker with control := next }, lifecycle := life, links := links, bus := bus
          effects := effects }
  | paused {next : Control} (pauses : Pauses worker.control next) :
      Stepped now life links bus worker
        { worker := { worker with control := next }, lifecycle := life.pause.1, links := links
          bus := bus, effects := Effect.ofNotices life.pause.2 }
  | finished {next : Control} {notices : List Notice} (finishes : Finishes worker.control next) :
      Stepped now life links bus worker
        { worker := { worker with control := next }, lifecycle := life.finish.1, links := links
          bus := bus, effects := Effect.ofNotices (life.finish.2 ++ notices) }
  | reported (control : worker.control = .reporting) :
      Stepped now life links bus worker
        { worker := { worker with control := worker.afterReport }, lifecycle := life, links := links
          bus := bus.publish worker.stage, effects := [.reported worker.stage] }
  | fetching {cancelFirst : Bool} {token : TokenId} {call later : InputCall} {fetched : InputStep}
      (control : worker.control = .fetching token call)
      (step : worker.input.step (life.tokens.isFired token) cancelFirst links call = some fetched)
      (goes : fetched.outcome = .inl later) :
      Stepped now life links bus worker
        { worker := { worker with input := fetched.input, control := .fetching token later }
          lifecycle := life, links := fetched.links, bus := bus
          effects := Effect.ofNotices fetched.notices ++ [] }
  | missed {cancelFirst : Bool} {token : TokenId} {call : InputCall} {fetched : InputStep}
      (control : worker.control = .fetching token call)
      (step : worker.input.step (life.tokens.isFired token) cancelFirst links call = some fetched)
      (nothing : fetched.outcome = .inr none) :
      Stepped now life links bus worker
        { worker := { worker with input := fetched.input, control := worker.nextRound }
          lifecycle := life, links := fetched.links, bus := bus
          effects := Effect.ofNotices fetched.notices ++ [] }
  | began {cancelFirst : Bool} {token : TokenId} {call : InputCall} {fetched : InputStep}
      {packet : Packet} (control : worker.control = .fetching token call)
      (step : worker.input.step (life.tokens.isFired token) cancelFirst links call = some fetched)
      (brings : fetched.outcome = .inr (some packet)) :
      Stepped now life links bus worker
        { worker := (Worker.begin { worker with input := fetched.input } now packet).1
          lifecycle := life, links := fetched.links, bus := bus
          effects := Effect.ofNotices fetched.notices ++ [.called packet.message] }
  | dispatched {held : Worker} {packet : Packet} {stream : Option Reading} {notice : Notice}
      {deliveries : List Delivery} (offers : worker.Offers now held packet stream)
      (routed : worker.output.route packet = .ok deliveries) :
      Stepped now life links bus worker
        { worker := { held with control := .delivering deliveries stream }, lifecycle := life
          links := links, bus := bus, effects := [.noted notice, .dispatched packet] }
  | refused {held : Worker} {packet : Packet} {stream : Option Reading} {notice : Notice}
      {cause : MessageError} (offers : worker.Offers now held packet stream)
      (unrouted : worker.output.route packet = .error cause) :
      Stepped now life links bus worker
        { worker := { held with control := .failing (.dispatch held.stage cause) }
          lifecycle := life, links := links, bus := bus, effects := [.noted notice] }
  | stored {link : LinkId} {packet : Packet} {rest : List Delivery} {stream : Option Reading}
      (control : worker.control = .delivering ((link, packet) :: rest) stream) :
      Stepped now life links bus worker
        { worker := { worker with control := .delivering rest stream }, lifecycle := life
          links := (links.put link packet).1, bus := bus
          effects := .stored link packet :: Effect.ofNotices (links.put link packet).2.2 }

variable {now : Duration} {cancelFirst : Bool} {life : Lifecycle} {links : LinkStore}
  {bus : ReportBus} {worker : Worker} {stepped : WorkerStep}

theorem nextRound_cases (worker : Worker) :
    worker.nextRound = .stopping ∨ worker.nextRound = .checking := by
  unfold nextRound
  cases worker.kind with
  | oneShotUnary => exact Or.inl rfl
  | unary | serverStreaming => exact Or.inr rfl

theorem afterReport_cases (worker : Worker) :
    worker.afterReport = .lingering ∨ worker.afterReport = .checking := by
  unfold afterReport
  cases worker.kind with
  | oneShotUnary => exact Or.inl rfl
  | unary | serverStreaming => exact Or.inr rfl

theorem nextRound_elim (worker : Worker) (property : Control → Prop) (stops : property .stopping)
    (checks : property .checking) : property worker.nextRound := by
  rcases worker.nextRound_cases with same | same
  · exact same ▸ stops
  · exact same ▸ checks

theorem afterReport_elim (worker : Worker) (property : Control → Prop) (lingers : property .lingering)
    (checks : property .checking) : property worker.afterReport := by
  rcases worker.afterReport_cases with same | same
  · exact same ▸ lingers
  · exact same ▸ checks

theorem begin_control (packet : Packet) :
    (worker.begin now packet).1.control = .opening packet ∨
      (worker.begin now packet).1.control = .calling packet now := by
  unfold begin
  cases worker.kind with
  | serverStreaming => exact Or.inl rfl
  | unary | oneShotUnary => exact Or.inr rfl

theorem begin_streaming {packet : Packet} (streaming : worker.kind = .serverStreaming) :
    worker.begin now packet =
      ({ worker with iterations := worker.iterations + 1, control := .opening packet },
        [.called packet.message]) := by
  unfold begin
  simp only [streaming]

theorem begin_calling {packet : Packet} (unary : worker.kind ≠ .serverStreaming) :
    worker.begin now packet =
      ({ worker with iterations := worker.iterations + 1, control := .calling packet now },
        [.called packet.message]) := by
  unfold begin
  cases kind : worker.kind with
  | serverStreaming => exact absurd kind unary
  | unary | oneShotUnary => rfl

private theorem offered_stepped {held : Worker} {packet : Packet} {stream : Option Reading}
    {notice : Notice} (offers : worker.Offers now held packet stream)
    (sameOutput : held.output = worker.output) :
    worker.Stepped now life links bus
      { worker := (held.dispatch packet stream).1, lifecycle := life, links := links, bus := bus
        effects := .noted notice :: (held.dispatch packet stream).2 } := by
  unfold dispatch
  have same : held.output.route packet = worker.output.route packet := by rw [sameOutput]
  cases routed : worker.output.route packet with
  | ok deliveries =>
      simp only [same, routed]
      exact .dispatched offers routed
  | error cause =>
      simp only [same, routed]
      exact .refused offers routed

private theorem fetching_stepped {token : TokenId} {call : InputCall}
    (control : worker.control = .fetching token call)
    (moved : worker.step now cancelFirst life links bus = some stepped) :
    worker.Stepped now life links bus stepped := by
  simp only [step, control] at moved
  cases fetch : worker.input.step (life.tokens.isFired token) cancelFirst links call with
  | none =>
      rw [fetch] at moved
      cases moved
  | some fetched =>
      simp only [fetch, Option.some.injEq] at moved
      subst moved
      cases outcome : fetched.outcome with
      | inl later => exact .fetching control fetch outcome
      | inr brought =>
          cases brought with
          | none => exact .missed control fetch outcome
          | some packet => exact .began control fetch outcome

private theorem reading_stepped {reading : Reading} (control : worker.control = .reading reading)
    (moved : worker.step now cancelFirst life links bus = some stepped) :
    worker.Stepped now life links bus stepped := by
  simp only [step, control] at moved
  cases ready : reading.stream.ready with
  | nil =>
      simp only [ready] at moved
      cases complete : reading.stream.complete with
      | false =>
          rw [complete] at moved
          cases moved
      | true =>
          simp only [complete, if_true, Option.some.injEq] at moved
          subst moved
          exact .turned (control ▸ .exhausted ready complete)
  | cons item later =>
      cases item with
      | error status =>
          simp only [ready, Option.some.injEq] at moved
          subst moved
          exact .turned (control ▸ .broken ready)
      | ok response =>
          simp only [ready, Option.some.injEq] at moved
          subst moved
          exact offered_stepped (.read control ready) rfl

theorem step_stepped (moved : worker.step now cancelFirst life links bus = some stepped) :
    worker.Stepped now life links bus stepped := by
  cases control : worker.control with
  | checking =>
      simp only [step, control] at moved
      cases pending : life.isInterrupted with
      | false =>
          rw [pending] at moved
          cases moved
          exact .turned (control ▸ .checked pending)
      | true =>
          rw [pending] at moved
          cases moved
          exact .turned (control ▸ .interrupted pending)
  | parking =>
      simp only [step, control, Option.some.injEq] at moved
      subst moved
      exact .paused (control ▸ .parked)
  | gated =>
      simp only [step, control, Lifecycle.waitWhilePaused] at moved
      cases phase : life.phase with
      | running =>
          rw [phase] at moved
          cases moved
          exact .turned (control ▸ .passed phase)
      | paused =>
          rw [phase] at moved
          cases moved
      | finished =>
          rw [phase] at moved
          cases moved
          exact .turned (control ▸ .released phase)
  | passing =>
      simp only [step, control] at moved
      cases finished : life.isFinished with
      | false =>
          rw [finished] at moved
          cases moved
          exact .turned (control ▸ .asked finished)
      | true =>
          rw [finished] at moved
          cases moved
          exact .turned (control ▸ .caught finished)
  | fetching token call => exact fetching_stepped control moved
  | calling | opening | ended | crashed =>
      simp only [step, control] at moved
      cases moved
  | answered request since response =>
      simp only [step, control, Option.some.injEq] at moved
      subst moved
      exact offered_stepped (.answered control) rfl
  | reading reading => exact reading_stepped control moved
  | delivering rest stream =>
      cases rest with
      | nil =>
          cases stream with
          | none =>
              simp only [step, control, Option.some.injEq] at moved
              subst moved
              exact .turned (control ▸ .delivered)
          | some reading =>
              simp only [step, control, Option.some.injEq] at moved
              subst moved
              exact .turned (control ▸ .resumed)
      | cons delivery rest =>
          simp only [step, control, Option.some.injEq] at moved
          subst moved
          exact .stored control
  | failed status =>
      simp only [step, control] at moved
      cases unavailable : worker.unavailable status with
      | false =>
          rw [unavailable] at moved
          cases moved
          exact .turned (control ▸ .rejected unavailable)
      | true =>
          rw [unavailable] at moved
          cases moved
          exact .turned (control ▸ .unreachable unavailable)
  | withdrawing =>
      simp only [step, control, Option.some.injEq] at moved
      subst moved
      exact .paused (control ▸ .withdrawn)
  | reporting =>
      simp only [step, control, Option.some.injEq] at moved
      subst moved
      exact .reported control
  | lingering =>
      simp only [step, control, Lifecycle.waitWhilePaused] at moved
      by_cases phase : life.phase = .paused
      · rw [if_pos phase] at moved
        cases moved
      · rw [if_neg phase] at moved
        cases moved
        exact .turned (control ▸ .outlasted phase)
  | failing error =>
      simp only [step, control, Option.some.injEq] at moved
      subst moved
      exact .turned (control ▸ .confessed)
  | condemned =>
      simp only [step, control, Option.some.injEq] at moved
      subst moved
      have plain : life.finish.2 ++ [] = life.finish.2 := List.append_nil _
      exact plain ▸ .finished (control ▸ .condemned)
  | stopping =>
      simp only [step, control, Option.some.injEq] at moved
      subst moved
      exact .finished (control ▸ .stopped)

end Worker
end Sluice
