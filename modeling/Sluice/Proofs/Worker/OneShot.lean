import Sluice.Proofs.Worker.Rounds
import Sluice.Proofs.Worker.Streaming

set_option autoImplicit false

/-! The single attempt of a one-shot worker. It makes one packet and calls with it once; an answer goes to the
output, an outage pauses the stage and is sat out, any other failure ends the stage. Whatever the reply, the
worker does not come back to its checkpoint. -/

namespace Sluice

/-- How far a single attempt has come where the worker stands: what the input brought by then, and the replies
to the call. -/
def Control.Attempts (unavailable : Status → Bool) (brought : List Packet)
    (replies : List (Except Status Message)) : Control → Prop
  | .checking | .parking | .gated | .passing | .fetching .. => brought = [] ∧ replies = []
  | .calling .. => brought.length = 1 ∧ replies = []
  | .answered .. | .delivering _ none => brought.length = 1 ∧ ∃ response, replies = [.ok response]
  | .failed status => brought.length = 1 ∧ replies = [.error status]
  | .withdrawing | .reporting | .lingering =>
      brought.length = 1 ∧ ∃ status, unavailable status = true ∧ replies = [.error status]
  | .failing _ | .condemned | .crashed =>
      brought.length = 1 ∧ replies.any (Worker.isOutage unavailable) = false
  | .stopping | .ended => brought.length ≤ 1
  | .opening _ | .reading _ | .delivering _ (some _) => False

/-- The worker has paused its stage because of an outage, and stays. -/
def Control.SitsOut : Control → Prop
  | .reporting | .lingering => True
  | _ => False

theorem Control.Attempts.length_le {unavailable : Status → Bool} {brought : List Packet}
    {replies : List (Except Status Message)} {control : Control}
    (attempts : control.Attempts unavailable brought replies) : brought.length ≤ 1 := by
  cases control with
  | checking | parking | gated | passing | fetching =>
      rw [attempts.1]
      exact Nat.zero_le 1
  | calling | answered | failed | withdrawing | reporting | lingering | failing | condemned | crashed =>
      exact Nat.le_of_eq attempts.1
  | delivering rest stream =>
      cases stream with
      | none => exact Nat.le_of_eq attempts.1
      | some reading => cases attempts
  | stopping | ended => exact attempts
  | opening | reading => cases attempts

theorem Told.waited {now : Duration} {stage : StageId} {action : Action} {control next : Control}
    (told : Told now stage action control next) : ¬ control.Ending := by
  intro ending
  cases told <;> cases ending

namespace Worker

def MakesPackets (worker : Worker) : Prop :=
  ∃ id schema, worker.input = .source id schema

/-- Why a one-shot worker turns to its end: it was finished, or its pause is over, or its call had a reply
that is no outage. -/
inductive Concludes (unavailable : Status → Bool) (life : Lifecycle) (brought : List Packet)
    (replies : List (Except Status Message)) : Control → Prop
  | further {control : Control} (ending : control.Ending) : Concludes unavailable life brought replies control
  | finished {control : Control} (closed : life.phase = .finished) :
      Concludes unavailable life brought replies control
  | released {control : Control} (lingers : control = .lingering) (resumed : life.phase ≠ .paused) :
      Concludes unavailable life brought replies control
  | replied {control : Control} (called : brought.length = 1)
      (calm : replies.any (isOutage unavailable) = false) :
      Concludes unavailable life brought replies control

variable {now : Duration} {cancelFirst : Bool} {life : Lifecycle} {links : LinkStore} {bus : ReportBus}
  {worker : Worker} {stepped : WorkerStep} {stage : StageId} {action : Action} {control next : Control}
  {brought : List Packet} {replies : List (Except Status Message)} {token : TokenId} {call : InputCall}

private theorem calm_answer {unavailable : Status → Bool}
    (answered : ∃ response, replies = [.ok response]) : replies.any (isOutage unavailable) = false := by
  obtain ⟨response, same⟩ := answered
  subst same
  rfl

private theorem makes_step (once : worker.kind = .oneShotUnary) (makes : worker.MakesPackets)
    (control : worker.control = .fetching token call)
    (moved : worker.step now cancelFirst life links bus = some stepped) :
    ∃ packet, worker.brings? cancelFirst life links = some packet ∧ stepped.worker.MakesPackets ∧
      stepped.worker.control = .calling packet now ∧ stepped.lifecycle = life := by
  obtain ⟨id, schema, input⟩ := makes
  cases call with
  | making =>
      have plain : worker.kind ≠ .serverStreaming := by
        rw [once]
        decide
      let made : Packet := { id := id, message := schema.defaultMessage }
      let held : Worker := { worker with input := .source (id + 1) schema, control := .fetching token .making }
      have begins := @begin_calling now held made plain
      simp only [Worker.step, control, input, Input.step] at moved
      cases moved
      refine ⟨made, ?_, ⟨id + 1, schema, congrArg (·.1.input) begins⟩, congrArg (·.1.control) begins, rfl⟩
      simp only [brings?, control, input, Input.step]
      rfl
  | taking | joining =>
      simp only [Worker.step, control, input, Input.step] at moved
      cases moved

private theorem Turns.attempts {effects : List Effect} (once : worker.kind = .oneShotUnary)
    (turns : worker.Turns life control next effects)
    (attempts : control.Attempts worker.unavailable brought replies) :
    next.Attempts worker.unavailable brought replies ∧
      (next.Ending → Concludes worker.unavailable life brought replies control) := by
  cases turns with
  | interrupted | checked | passed | asked => exact ⟨attempts, fun ending => by cases ending⟩
  | released closed =>
      obtain ⟨nothing, _⟩ := attempts
      subst nothing
      exact ⟨Nat.zero_le 1, fun _ => .finished closed⟩
  | caught closed =>
      obtain ⟨nothing, _⟩ := attempts
      subst nothing
      exact ⟨Nat.zero_le 1, fun _ => .finished (of_decide_eq_true closed)⟩
  | exhausted | broken | resumed => cases attempts
  | delivered =>
      obtain ⟨called, answered⟩ := attempts
      have stops : worker.nextRound = .stopping := by
        unfold nextRound
        rw [once]
      rw [stops]
      exact ⟨Nat.le_of_eq called, fun _ => .replied called (calm_answer answered)⟩
  | @unreachable status unavailable =>
      obtain ⟨called, replied⟩ := attempts
      exact ⟨⟨called, status, unavailable, replied⟩, fun ending => by cases ending⟩
  | @rejected status available =>
      obtain ⟨called, replied⟩ := attempts
      have calm : replies.any (isOutage worker.unavailable) = false := by
        rw [replied, List.any_cons, List.any_nil, Bool.or_false]
        exact available
      exact ⟨⟨called, calm⟩, fun _ => .replied called calm⟩
  | outlasted ended =>
      obtain ⟨called, _⟩ := attempts
      exact ⟨Nat.le_of_eq called, fun _ => .released rfl ended⟩
  | confessed => exact ⟨attempts, fun _ => .further trivial⟩

theorem step_attempts (once : worker.kind = .oneShotUnary) (makes : worker.MakesPackets)
    (attempts : worker.control.Attempts worker.unavailable brought replies)
    (moved : worker.step now cancelFirst life links bus = some stepped) :
    stepped.worker.MakesPackets ∧
      stepped.worker.control.Attempts worker.unavailable
        (brought ++ (worker.brings? cancelFirst life links).toList) replies ∧
      (stepped.worker.control.Ending →
        Concludes worker.unavailable life brought replies worker.control) := by
  by_cases fetching : ∃ token call, worker.control = .fetching token call
  · obtain ⟨token, call, control⟩ := fetching
    obtain ⟨packet, brings, makesOn, calls, _⟩ := makes_step once makes control moved
    rw [control] at attempts
    obtain ⟨nothing, unreplied⟩ := attempts
    subst nothing
    rw [brings, calls]
    exact ⟨makesOn, ⟨rfl, unreplied⟩, fun ending => by cases ending⟩
  · have apart : ∀ token call, worker.control ≠ .fetching token call :=
      fun token call control => fetching ⟨token, call, control⟩
    rw [brings_other apart, Option.toList_none, List.append_nil]
    cases step_stepped moved with
    | turned turns =>
        obtain ⟨further, ends⟩ := turns.attempts once attempts
        exact ⟨makes, further, ends⟩
    | @paused next pauses =>
        refine ⟨makes, ?_⟩
        change next.Attempts worker.unavailable brought replies ∧ _
        generalize worker.control = control at pauses attempts
        cases pauses with
        | parked | withdrawn => exact ⟨attempts, fun ending => by cases ending⟩
    | @finished next notices finishes =>
        refine ⟨makes, ?_⟩
        change next.Attempts worker.unavailable brought replies ∧ _
        generalize worker.control = control at finishes attempts
        cases finishes with
        | condemned => exact ⟨Nat.le_of_eq attempts.1, fun _ => .further trivial⟩
        | stopped => exact ⟨attempts, fun _ => .further trivial⟩
    | reported control =>
        have lingers : worker.afterReport = .lingering := by
          unfold afterReport
          rw [once]
        rw [control] at attempts
        rw [lingers]
        exact ⟨makes, attempts, fun ending => by cases ending⟩
    | fetching control | missed control | began control => exact absurd control (apart _ _)
    | dispatched offers =>
        cases offers with
        | answered control =>
            rw [control] at attempts
            exact ⟨makes, attempts, fun ending => by cases ending⟩
        | read control =>
            rw [control] at attempts
            cases attempts
    | refused offers =>
        cases offers with
        | answered control =>
            rw [control] at attempts
            obtain ⟨called, answered⟩ := attempts
            have calm : replies.any (isOutage worker.unavailable) = false := calm_answer answered
            exact ⟨makes, ⟨called, calm⟩, fun _ => .replied called calm⟩
        | read control =>
            rw [control] at attempts
            cases attempts
    | @stored _ _ _ stream control =>
        rw [control] at attempts
        cases stream with
        | none => exact ⟨makes, attempts, fun ending => by cases ending⟩
        | some reading => cases attempts

theorem told_attempts {unavailable : Status → Bool}
    (told : Told now stage action worker.control control)
    (attempts : worker.control.Attempts unavailable brought replies) :
    control.Attempts unavailable brought (replies ++ (action.reply stage).toList) ∧
      ¬ control.Ending ∧ ¬ control.SitsOut := by
  generalize worker.control = before at told attempts
  cases told with
  | @answered request since message =>
      obtain ⟨called, none⟩ := attempts
      subst none
      have replied : (Action.answer stage (.response message)).reply stage = some (.ok message) := if_pos rfl
      rw [replied]
      exact ⟨⟨called, message, rfl⟩, id, id⟩
  | @rejected request since status =>
      obtain ⟨called, none⟩ := attempts
      subst none
      have replied : (Action.answer stage (.failure status)).reply stage = some (.error status) := if_pos rfl
      rw [replied]
      exact ⟨⟨called, rfl⟩, id, id⟩
  | opened | unopened | heard | overheard => cases attempts

theorem Stepped.finishing (moved : worker.Stepped now life links bus stepped)
    (finished : stepped.lifecycle.phase = .finished) :
    life.phase = .finished ∨ stepped.worker.control.Ending := by
  cases moved with
  | paused =>
      left
      by_contra live
      have asked : LifecycleRequest.pause = .finish := Lifecycle.finish_of_request live finished
      cases asked
  | finished finishes =>
      right
      generalize worker.control = control at finishes
      cases finishes with
      | condemned | stopped => trivial
  | turned | reported | fetching | missed | began | dispatched | refused | stored => exact Or.inl finished

theorem Stepped.ending (moved : worker.Stepped now life links bus stepped)
    (ending : worker.control.Ending) : stepped.worker.control.Ending := by
  cases moved with
  | turned turns =>
      generalize worker.control = control at turns ending
      cases turns with
      | confessed => trivial
      | interrupted | checked | passed | released | caught | asked | exhausted | broken | resumed
        | delivered | unreachable | rejected | outlasted => cases ending
  | paused pauses =>
      generalize worker.control = control at pauses ending
      cases pauses <;> cases ending
  | finished finishes =>
      generalize worker.control = control at finishes ending
      cases finishes with
      | condemned | stopped => trivial
  | reported control | fetching control | missed control | began control | stored control =>
      rw [control] at ending
      cases ending
  | dispatched offers | refused offers =>
      cases offers with
      | answered control | read control =>
          rw [control] at ending
          cases ending

theorem Stepped.ended (moved : worker.Stepped now life links bus stepped)
    (ended : stepped.worker.control = .ended) : stepped.lifecycle.phase = .finished := by
  have further : worker.nextRound ≠ .ended := worker.nextRound_elim (· ≠ .ended) nofun nofun
  cases moved with
  | finished => exact Lifecycle.phase_finish
  | turned turns =>
      generalize worker.control = control at turns
      cases turns with
      | delivered => exact absurd ended further
      | interrupted | checked | passed | released | caught | asked | exhausted | broken | resumed
        | unreachable | rejected | outlasted | confessed => cases ended
  | paused pauses =>
      generalize worker.control = control at pauses
      cases pauses <;> cases ended
  | reported =>
      have once : worker.afterReport ≠ .ended := worker.afterReport_elim (· ≠ .ended) nofun nofun
      exact absurd ended once
  | missed => exact absurd ended further
  | @began _ _ _ fetched packet =>
      rcases @begin_control now { worker with input := fetched.input } packet with opens | calls
      · cases opens.symm.trans ended
      · cases calls.symm.trans ended
  | fetching | dispatched | refused | stored => cases ended

theorem Stepped.sitsOut (moved : worker.Stepped now life links bus stepped)
    (sits : stepped.worker.control.SitsOut) :
    worker.control = .withdrawing ∧ stepped.lifecycle = life.pause.1 ∨
      worker.control = .reporting ∧ stepped.lifecycle = life := by
  have further : ¬ worker.nextRound.SitsOut := worker.nextRound_elim (¬ ·.SitsOut) id id
  cases moved with
  | paused pauses =>
      generalize worker.control = control at pauses
      cases pauses with
      | parked => cases sits
      | withdrawn => exact Or.inl ⟨rfl, rfl⟩
  | reported control => exact Or.inr ⟨control, rfl⟩
  | turned turns =>
      generalize worker.control = control at turns
      cases turns with
      | delivered => exact absurd sits further
      | interrupted | checked | passed | released | caught | asked | exhausted | broken | resumed
        | unreachable | rejected | outlasted | confessed => cases sits
  | finished finishes =>
      generalize worker.control = control at finishes
      cases finishes <;> cases sits
  | missed => exact absurd sits further
  | @began _ _ _ fetched packet =>
      change (begin { worker with input := fetched.input } now packet).1.control.SitsOut at sits
      rcases @begin_control now { worker with input := fetched.input } packet with opens | calls
      · rw [opens] at sits
        cases sits
      · rw [calls] at sits
        cases sits
  | fetching | dispatched | refused | stored => cases sits

end Worker
end Sluice
