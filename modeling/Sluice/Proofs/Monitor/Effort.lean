import Sluice.Proofs.Monitor.Step

set_option autoImplicit false

/-! How many steps a monitor has left when no more reports come. Each report that it has not read can send
it through one more backoff. -/

namespace Sluice

def Reception.Tells : Reception → Prop
  | .report _ | .lagged _ => True
  | .empty | .closed => False

namespace ReportBus

variable {bus after : ReportBus} {subscriber : Nat} {stage : String} {told : Reception}

/-- How many reports a subscriber has not passed, kept or not. -/
def backlog (bus : ReportBus) (subscriber : Nat) : Nat :=
  bus.sent - bus.place subscriber

theorem backlog_publish : (bus.publish stage).backlog subscriber ≤ bus.backlog subscriber + 1 := by
  unfold publish
  split
  · exact Nat.le_succ _
  · unfold backlog place
    rw [List.getD_eq_getElem?_getD, List.getD_eq_getElem?_getD]
    cases bus.cursors[subscriber]? with
    | none =>
        simp only [Option.getD_none]
        omega
    | some position =>
        simp only [Option.getD_some]
        omega

theorem backlog_moveTo {position : Nat} (subscribed : subscriber < bus.cursors.length) :
    (bus.moveTo subscriber position).backlog subscriber = bus.sent - position := by
  unfold backlog
  rw [place_moveTo subscribed]
  rfl

theorem backlog_received (sound : bus.Sound) (subscribed : subscriber < bus.cursors.length)
    (received : bus.Received subscriber (after, told)) (tells : told.Tells) :
    after.backlog subscriber + 1 ≤ bus.backlog subscriber := by
  have full := sound.full
  generalize given : (after, told) = result at received
  cases received with
  | lagged behind =>
      cases given
      rw [backlog_moveTo subscribed]
      unfold backlog
      unfold dropped at behind ⊢
      omega
  | report reaches found =>
      cases given
      have within := (List.getElem?_eq_some_iff.mp found).1
      rw [backlog_moveTo subscribed]
      unfold backlog
      unfold dropped at reaches within
      omega
  | nothing =>
      cases given
      cases closed : bus.closed <;> rw [closed] at tells <;> cases tells

end ReportBus

namespace Monitor

def effort (monitor : Monitor) : Nat :=
  match monitor.control with
  | .stopped => 0
  | .listening => 1
  | .resuming rest _ => rest.length + 2
  | .draining => monitor.stages.length + 3
  | .sleeping _ => monitor.stages.length + 4
  | .pausing rest => rest.length + monitor.stages.length + 5

def backoffCost (monitor : Monitor) : Nat :=
  2 * monitor.stages.length + 5

variable {now : Duration} {shutdown cancelFirst : Bool} {lives : Lifecycles} {bus : ReportBus}
  {monitor : Monitor} {stepped : MonitorStep}

theorem Stepped.effort (sound : bus.Sound)
    (subscribed : monitor.subscriber < bus.cursors.length)
    (moved : monitor.Stepped now shutdown lives bus stepped) :
    stepped.monitor.effort + monitor.backoffCost * stepped.bus.backlog monitor.subscriber + 1 ≤
      monitor.effort + monitor.backoffCost * bus.backlog monitor.subscriber := by
  -- what is read is worth a backoff
  have read : ∀ {after told}, bus.Received monitor.subscriber (after, told) → told.Tells →
      monitor.backoffCost * after.backlog monitor.subscriber + monitor.backoffCost ≤
        monitor.backoffCost * bus.backlog monitor.subscriber := by
    intro after told received tells
    exact Nat.mul_le_mul_left monitor.backoffCost
      (ReportBus.backlog_received sound subscribed received tells)
  have cost : monitor.backoffCost = 2 * monitor.stages.length + 5 := rfl
  cases moved with
  | dismissed _ control =>
      rcases control with control | ⟨deadline, control⟩ <;>
        simp only [Monitor.effort, goesTo, control] <;> omega
  | orphaned control =>
      simp only [Monitor.effort, goesTo, control]
      omega
  | lagged control received =>
      have worth := read received trivial
      rcases control with control | control <;>
        simp only [Monitor.effort, goesTo, control] <;> omega
  | alarmed control received =>
      have worth := read received trivial
      simp only [Monitor.effort, goesTo, control]
      omega
  | absorbed control received =>
      have worth := read received trivial
      simp only [Monitor.effort, goesTo, control]
      omega
  | paused control | slept control | woke control | drained control | resumed control
    | recovered control =>
      simp only [Monitor.effort, goesTo, control, List.length_cons, List.length_nil]
      omega

theorem step_shutdown (blocked : monitor.step now true cancelFirst lives bus = none) :
    monitor.control = .stopped := by
  rcases step_blocked blocked with stopped | ⟨deadline, sleeping⟩ | ⟨listening, _⟩
  · exact stopped
  · simp only [step, sleeping] at blocked
    cases elapsed : decide (deadline.nanos ≤ now.nanos) with
    | true =>
        cases cancelFirst <;> simp [elapsed] at blocked
    | false => cases cancelFirst <;> simp [elapsed] at blocked
  · simp only [step, listening] at blocked
    cases blocked

end Monitor
end Sluice
