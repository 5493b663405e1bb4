import Sluice.Proofs.Lifecycle.Tokens
import Sluice.Proofs.Worker.Carrying
import Sluice.Proofs.Worker.Halting

set_option autoImplicit false

/-! A worker that can be woken. Whatever it waits for, it waits with a token that a finish fires, on a link
that it knows; so once its stage has finished it is never parked, and only the remote service can keep it
from taking its next step. -/

namespace Sluice

inductive Input.Serves : Input → InputCall → Prop
  | source {nextId : Nat} {schema : Schema} : Serves (.source nextId schema) .making
  | passthrough {link : LinkId} {posture : Posture} : Serves (.passthrough link) (.taking posture)
  | merge {held : Merge} {call : MergeCall} : Serves (.merge held) (.joining call)

theorem Input.serves_call (input : Input) : input.Serves input.call := by
  cases input with
  | source => exact .source
  | passthrough => exact .passthrough
  | merge => exact .merge

theorem Input.Stepped.serves {links : LinkStore} {input : Input} {call later : InputCall}
    {stepped : InputStep} (moved : Input.Stepped links input call stepped)
    (goes : stepped.outcome = .inl later) : stepped.input.Serves later := by
  cases moved with
  | made | took | quit => cases goes
  | waited =>
      cases goes
      exact .passthrough
  | @joined held call joined =>
      cases outcome : joined.outcome with
      | inl next =>
          rw [outcome] at goes
          cases goes
          exact .merge
      | inr ended =>
          rw [outcome] at goes
          cases goes

/-- Once its token has fired, a call never blocks, unless it has collapsed. -/
theorem Input.step_fired {cancelFirst : Bool} {links : LinkStore} {input : Input} {call : InputCall}
    (serves : input.Serves call) (joins : input.Joins (fun _ _ => True) call.joining?)
    (stands : call.hasCollapsed = false) :
    ∃ stepped, input.step true cancelFirst links call = some stepped := by
  cases serves with
  | source => exact ⟨_, rfl⟩
  | @passthrough link posture =>
      obtain ⟨waited, waits⟩ :=
        @Link.stepWait_fired Link.acceptAny cancelFirst posture (links.get link)
      simp only [step, waits]
      exact ⟨_, rfl⟩
  | @merge held call =>
      have upright : call ≠ .collapsed := by
        intro collapsed
        rw [collapsed] at stands
        cases stands
      obtain ⟨stepped, steps⟩ := @Merge.step_fired links held call cancelFirst joins.1 upright
      simp only [step, steps]
      exact ⟨_, rfl⟩

/-- Controls that hold no token and that the worker leaves again. -/
def Control.Passing : Control → Prop
  | .fetching .. | .ended | .crashed => False
  | _ => True

def Control.AwaitsRemote : Control → Prop
  | .calling .. | .opening _ => True
  | .reading held => held.stream.ready = [] ∧ held.stream.complete = false
  | _ => False

namespace Worker

structure Poised (life : Lifecycle) (worker : Worker) : Prop where
  governed : ∀ token call, worker.control = .fetching token call →
    life.Governs token ∧ worker.input.Serves call
  joins : worker.input.Joins (fun _ _ => True) worker.control.joining?
  closed : worker.control = .ended → life.Closed

variable {now : Duration} {cancelFirst : Bool} {life changed : Lifecycle} {links : LinkStore}
  {bus : ReportBus} {worker : Worker} {stepped : WorkerStep} {next : Control}

theorem poised_of_passing (passing : worker.control.Passing)
    (joins : worker.input.Joins (fun _ _ => True) none) : worker.Poised life := by
  refine ⟨?_, ?_, ?_⟩
  · intro token call control
    rw [control] at passing
    cases passing
  · generalize worker.control = control at passing
    cases control with
    | fetching => cases passing
    | checking | parking | gated | passing | calling | opening | answered | reading | delivering
      | failed | withdrawing | reporting | lingering | failing | condemned | stopping | ended
      | crashed => exact joins
  · intro control
    rw [control] at passing
    cases passing

theorem Poised.turn (poised : worker.Poised life) (passing : next.Passing) :
    Poised changed { worker with control := next } :=
  poised_of_passing passing poised.joins.stop

theorem Poised.asked (poised : worker.Poised life) (asked : life.Asked changed) :
    worker.Poised changed := by
  refine ⟨?_, poised.joins, ?_⟩
  · intro token call control
    obtain ⟨governs, serves⟩ := poised.governed token call control
    exact ⟨asked.governs governs, serves⟩
  · intro control
    exact asked.closed (poised.closed control)

theorem nextRound_passing (worker : Worker) : worker.nextRound.Passing :=
  worker.nextRound_elim Control.Passing trivial trivial

theorem afterReport_passing (worker : Worker) : worker.afterReport.Passing :=
  worker.afterReport_elim Control.Passing trivial trivial

private theorem Turns.passing {control : Control} {effects : List Effect}
    (turns : worker.Turns life control next effects) :
    next.Passing ∨ next = .fetching life.cancellation worker.input.call := by
  cases turns with
  | asked => exact Or.inr rfl
  | delivered => exact Or.inl worker.nextRound_passing
  | interrupted | checked | passed | released | caught | exhausted | broken | resumed
    | unreachable | rejected | outlasted | confessed => exact Or.inl trivial

private theorem Pauses.passing {control : Control} (pauses : Pauses control next) :
    next.Passing := by
  cases pauses <;> trivial

/-- Where a step leaves a worker: on its way, in a fetch with the current token or the one it had, or at
its end. -/
inductive Arrives (life : Lifecycle) (worker : Worker) (stepped : WorkerStep) : Prop
  | passing (passing : stepped.worker.control.Passing)
  | fetching {token : TokenId} {call : InputCall}
      (control : stepped.worker.control = .fetching token call)
      (serves : stepped.worker.input.Serves call) (same : stepped.lifecycle = life)
      (held : token = life.cancellation ∨ ∃ earlier, worker.control = .fetching token earlier)
  | ended (control : stepped.worker.control = .ended) (finished : stepped.lifecycle = life.finish.1)

private theorem Stepped.arrives (moved : worker.Stepped now life links bus stepped) :
    worker.Arrives life stepped := by
  cases moved with
  | turned turns =>
      rcases turns.passing with passing | fetches
      · exact .passing passing
      · exact .fetching fetches worker.input.serves_call rfl (Or.inl rfl)
  | paused pauses => exact .passing pauses.passing
  | @finished next notices finishes =>
      generalize under : worker.control = control at finishes
      cases finishes with
      | condemned => exact .passing trivial
      | stopped => exact .ended rfl rfl
  | reported => exact .passing worker.afterReport_passing
  | fetching control step goes =>
      exact .fetching rfl ((Input.step_stepped step).serves goes) rfl (Or.inr ⟨_, control⟩)
  | missed => exact .passing worker.nextRound_passing
  | @began _ _ _ fetched packet =>
      apply Arrives.passing
      rcases @begin_control now { worker with input := fetched.input } packet with opens | calls
      · rw [opens]
        trivial
      · rw [calls]
        trivial
  | dispatched | refused | stored => exact .passing trivial

theorem Stepped.uncrashed (moved : worker.Stepped now life links bus stepped) :
    stepped.worker.control ≠ .crashed := by
  intro crashed
  cases moved.arrives with
  | passing passing =>
      rw [crashed] at passing
      exact passing
  | fetching control => cases crashed.symm.trans control
  | ended control => cases crashed.symm.trans control

theorem Poised.step (poised : worker.Poised life) (sound : life.Sound)
    (moved : worker.Stepped now life links bus stepped) :
    stepped.worker.Poised stepped.lifecycle := by
  have joins := moved.joins poised.joins (fun _ _ _ => trivial)
  cases moved.arrives with
  | passing passing => exact poised_of_passing passing joins.stop
  | @fetching token call control serves same held =>
      refine ⟨?_, joins, ?_⟩
      · intro other later fetches
        cases control.symm.trans fetches
        rw [same]
        rcases held with current | ⟨earlier, held⟩
        · subst current
          exact ⟨Lifecycle.governs_cancellation, serves⟩
        · exact ⟨(poised.governed token earlier held).1, serves⟩
      · intro ended
        cases control.symm.trans ended
  | ended control finished =>
      refine ⟨?_, joins, ?_⟩
      · intro token call fetches
        cases control.symm.trans fetches
      · intro _
        rw [finished]
        exact Lifecycle.closed_finish sound

/-- Its merge has met under an id that no counter can be moved past, and the fetch was torn down there. -/
def Collapsed (worker : Worker) : Prop :=
  ∃ token held, worker.control = .fetching token (.joining .collapsed) ∧
    worker.input = .merge held ∧ held.Overrun

/-- The worker came to its end, or its fetch was torn down under an id that no counter can follow. -/
def Ended (worker : Worker) : Prop :=
  worker.control = .ended ∨ worker.Collapsed

theorem Ended.isOver (ended : worker.Ended) : worker.isOver = true := by
  unfold Worker.isOver
  rcases ended with ended | ⟨token, held, fetches, _⟩
  · rw [ended]
  · rw [fetches]
    rfl

private theorem Poised.collapsed {token : TokenId} {call : InputCall} (poised : worker.Poised life)
    (control : worker.control = .fetching token call) (collapses : call.hasCollapsed = true) :
    worker.Collapsed := by
  have joins := poised.joins
  have serves := (poised.governed token call control).2
  rw [control] at joins
  generalize under : worker.input = input at joins serves
  cases serves with
  | source | passthrough => cases collapses
  | @merge held call =>
      cases call with
      | visiting | waiting => cases collapses
      | collapsed => exact ⟨token, held, control, under, joins.1.collapsed rfl⟩

theorem Poised.ended_or_crashed (poised : worker.Poised life) (isOver : worker.isOver = true) :
    worker.Ended ∨ worker.control = .crashed := by
  unfold Worker.isOver at isOver
  split at isOver
  · exact Or.inl (Or.inl ‹_›)
  · exact Or.inr ‹_›
  · exact Or.inl (Or.inr (poised.collapsed ‹_› isOver))
  · cases isOver

/-- What keeps the worker of a finished stage from its next step: its end, or the remote service. -/
theorem Poised.blocked (poised : worker.Poised life) (closed : life.Closed)
    (blocked : worker.step now cancelFirst life links bus = none) :
    worker.Ended ∨ worker.control = .crashed ∨ worker.control.AwaitsRemote := by
  have released : life.waitWhilePaused = some .finished := by
    unfold Lifecycle.waitWhilePaused
    rw [closed.finished]
    rfl
  cases control : worker.control with
  | ended => exact Or.inl (Or.inl control)
  | crashed => exact Or.inr (Or.inl rfl)
  | calling | opening => exact Or.inr (Or.inr trivial)
  | reading held =>
      refine Or.inr (Or.inr ?_)
      simp only [Worker.step, control] at blocked
      split at blocked
      · rename_i ready
        split at blocked
        · cases blocked
        · rename_i unfinished
          exact ⟨ready, eq_false_of_ne_true unfinished⟩
      · cases blocked
      · cases blocked
  | fetching token call =>
      obtain ⟨governs, serves⟩ := poised.governed token call control
      cases stands : call.hasCollapsed with
      | true => exact Or.inl (Or.inr (poised.collapsed control stands))
      | false =>
          have joins := poised.joins
          rw [control] at joins
          obtain ⟨stepped, steps⟩ := @Input.step_fired cancelFirst links _ _ serves joins stands
          simp only [Worker.step, control, governs.fired closed.fired, steps] at blocked
          cases blocked
  | gated | lingering =>
      simp only [Worker.step, control, released] at blocked
      cases blocked
  | checking | passing | failed =>
      simp only [Worker.step, control] at blocked
      split at blocked <;> cases blocked
  | delivering rest stream =>
      cases rest with
      | nil => cases stream <;> simp only [Worker.step, control] at blocked <;> cases blocked
      | cons delivery rest =>
          simp only [Worker.step, control] at blocked
          cases blocked
  | parking | answered | withdrawing | reporting | failing | condemned | stopping =>
      simp only [Worker.step, control] at blocked
      cases blocked

end Worker
end Sluice
