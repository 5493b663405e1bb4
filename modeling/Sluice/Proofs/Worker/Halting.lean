import Sluice.Proofs.Engine.History
import Sluice.Proofs.Lifecycle.Tokens

set_option autoImplicit false

/-! How soon a worker heeds a pause, an interrupt or a finish. Such a request lets it begin a call only if
it had passed the gate of its round already, and then no more than that one. -/

namespace Sluice
namespace Lifecycle

variable {life next : Lifecycle} {asked : LifecycleRequest}

/-- Paused, finished, or about to be paused by an interrupt. -/
def Halted (life : Lifecycle) : Prop :=
  life.phase ≠ .running ∨ life.currentFired = true

theorem halted_request (sound : life.Sound) (halts : asked ≠ .resume) :
    (life.request asked).1.Halted := by
  cases asked with
  | pause => exact Or.inl phase_pause
  | resume => exact absurd rfl halts
  | finish => exact Or.inr (currentFired_finish sound)
  | interrupt => exact Or.inr (currentFired_fireCurrent sound)

theorem Asked.halted (asked : life.Asked next) (halted : life.Halted)
    (stays : ¬ (life.phase = .paused ∧ next.phase = .running)) :
    next.Halted ∧ (next.phase = .running → life.phase = .running) := by
  cases asked with
  | left => exact ⟨halted, id⟩
  | asked request =>
      cases request with
      | pause => exact ⟨Or.inl phase_pause, fun running => absurd running phase_pause⟩
      | resume =>
          change life.resume.1.Halted ∧ (life.resume.1.phase = .running → life.phase = .running)
          change ¬ (life.phase = .paused ∧ life.resume.1.phase = .running) at stays
          unfold resume at stays ⊢
          cases phase : life.phase with
          | paused =>
              rw [phase] at stays
              exact absurd ⟨rfl, rfl⟩ stays
          | running => exact ⟨halted, fun _ => rfl⟩
          | finished => exact ⟨halted, fun running => absurd (phase.symm.trans running) (by decide)⟩
      | finish =>
          have finished : life.finish.1.phase = .finished := phase_finish
          have stopped : life.finish.1.phase ≠ .running := by
            rw [finished]
            decide
          exact ⟨Or.inl stopped, fun running => absurd running stopped⟩
      | interrupt => exact ⟨halted.imp id TokenPool.isFired_fire_of_fired, id⟩

end Lifecycle

namespace Worker

variable {now : Duration} {life : Lifecycle} {links : LinkStore} {bus : ReportBus} {worker : Worker}
  {stepped : WorkerStep}

/-- The calls that a worker may still begin before it meets a checkpoint. -/
def allowance (life : Lifecycle) (worker : Worker) : Nat :=
  match worker.control with
  | .gated => if life.phase = .running then 1 else 0
  | .passing | .fetching .. => 1
  | _ => 0

theorem allowance_le_one : worker.allowance life ≤ 1 := by
  unfold allowance
  split
  · split <;> decide
  · exact Nat.le_refl 1
  · exact Nat.le_refl 1
  · exact Nat.zero_le 1

private theorem allowance_nextRound {held : Worker} {calls : Nat}
    (next : held.control = worker.nextRound) : held.allowance life ≤ calls := by
  unfold allowance
  rw [next]
  unfold nextRound
  cases worker.kind <;> exact Nat.zero_le calls

private theorem allowance_afterReport {held : Worker} {calls : Nat}
    (next : held.control = worker.afterReport) : held.allowance life ≤ calls := by
  unfold allowance
  rw [next]
  unfold afterReport
  cases worker.kind <;> exact Nat.zero_le calls

theorem Stepped.asked (moved : worker.Stepped now life links bus stepped) :
    life.Asked stepped.lifecycle := by
  cases moved with
  | paused => exact .asked .pause
  | finished => exact .asked .finish
  | turned | reported | fetching | missed | began | dispatched | refused | stored => exact .left

private theorem Turns.allowance {next : Control} {effects : List Effect} (halted : life.Halted)
    (turns : worker.Turns life worker.control next effects) :
    Worker.allowance life { worker with control := next } ≤ worker.allowance life := by
  unfold Worker.allowance
  generalize worker.control = control at turns
  cases turns with
  | checked calm =>
      -- a halted stage that is not interrupted does not run
      have stopped : life.phase ≠ .running := by
        intro running
        rcases halted with other | fired
        · exact other running
        · unfold Lifecycle.isInterrupted Lifecycle.isFinished at calm
          rw [running, fired] at calm
          cases calm
      exact Nat.le_of_eq (if_neg stopped)
  | passed running => exact Nat.le_of_eq (if_pos running).symm
  | asked => exact Nat.le_refl 1
  | delivered => exact @allowance_nextRound life worker { worker with control := worker.nextRound } _ rfl
  | interrupted | released | caught | exhausted | broken | resumed | unreachable | rejected
    | outlasted | confessed => exact Nat.zero_le _

theorem Stepped.allowance (halted : life.Halted)
    (moved : worker.Stepped now life links bus stepped) :
    (stepped.effects.filterMap Effect.called?).length + stepped.worker.allowance stepped.lifecycle ≤
      worker.allowance life := by
  have quiet : ∀ notices, (Effect.ofNotices notices).filterMap Effect.called? = [] :=
    fun _ => Effect.called_silent fun _ => Effect.silent_ofNotices
  cases moved with
  | turned turns =>
      rw [Effect.called_silent turns.silent, List.length_nil, Nat.zero_add]
      exact turns.allowance halted
  | @paused next pauses =>
      have stopped : life.pause.1.phase ≠ .running := Lifecycle.phase_pause
      rw [quiet]
      generalize worker.control = control at pauses
      cases pauses with
      | parked =>
          have none : Worker.allowance life.pause.1 { worker with control := .gated } = 0 :=
            if_neg stopped
          exact none ▸ Nat.zero_le _
      | withdrawn => exact Nat.zero_le _
  | finished finishes =>
      rw [quiet]
      generalize worker.control = control at finishes
      cases finishes <;> exact Nat.zero_le _
  | reported =>
      change 0 + Worker.allowance life { worker with control := worker.afterReport } ≤ _
      rw [Nat.zero_add]
      exact allowance_afterReport rfl
  | fetching control =>
      rw [List.append_nil, quiet]
      unfold Worker.allowance
      rw [control]
      exact Nat.le_refl 1
  | missed =>
      rw [List.append_nil, quiet, List.length_nil, Nat.zero_add]
      exact allowance_nextRound rfl
  | @began cancelFirst token call fetched packet control =>
      have before : worker.allowance life = 1 := by
        unfold Worker.allowance
        rw [control]
      have after : Worker.allowance life
          (Worker.begin { worker with input := fetched.input } now packet).1 = 0 := by
        unfold Worker.allowance
        rcases @begin_control now { worker with input := fetched.input } packet with opens | calls
        · rw [opens]
        · rw [calls]
      rw [List.filterMap_append, quiet, before, after]
      exact Nat.le_refl 1
  | dispatched | refused => exact Nat.zero_le _
  | stored =>
      rw [List.filterMap_cons, quiet]
      exact Nat.zero_le _

end Worker
end Sluice
