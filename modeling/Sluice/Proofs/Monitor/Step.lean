import Sluice.Proofs.Lifecycle.Request
import Sluice.Proofs.ReportBus.Unread

set_option autoImplicit false

/-! What one step of a monitor does, case by case. -/

namespace Sluice
namespace Monitor

def goesTo (monitor : Monitor) (lives : Lifecycles) (bus : ReportBus) (control : MonitorControl)
    (notices : List Notice) : MonitorStep :=
  { monitor := { monitor with control := control }, lifecycles := lives, bus := bus
    notices := notices }

inductive Stepped (now : Duration) (shutdown : Bool) (lives : Lifecycles) (bus : ReportBus)
    (monitor : Monitor) : MonitorStep → Prop
  | dismissed (fired : shutdown = true)
      (control : monitor.control = .listening ∨ ∃ deadline, monitor.control = .sleeping deadline) :
      Stepped now shutdown lives bus monitor (monitor.goesTo lives bus .stopped [.monitorStopped])
  | orphaned {after : ReportBus} (control : monitor.control = .listening)
      (received : bus.Received monitor.subscriber (after, .closed)) :
      Stepped now shutdown lives bus monitor (monitor.goesTo lives bus .stopped [.monitorStopped])
  | lagged {after : ReportBus} {missed : Nat}
      (control : monitor.control = .listening ∨ monitor.control = .draining)
      (received : bus.Received monitor.subscriber (after, .lagged missed)) :
      Stepped now shutdown lives bus monitor
        (monitor.goesTo lives after monitor.control [.reportsLagged missed])
  | alarmed {after : ReportBus} {stage : String} (control : monitor.control = .listening)
      (received : bus.Received monitor.subscriber (after, .report stage)) :
      Stepped now shutdown lives bus monitor
        (monitor.goesTo lives after (.pausing monitor.stages)
          [.backoffStarted stage monitor.stages.length monitor.backoff])
  | paused {stage : StageId} {rest : List StageId}
      (control : monitor.control = .pausing (stage :: rest)) :
      Stepped now shutdown lives bus monitor
        (monitor.goesTo (Lifecycles.sweep .pause [stage] lives).1 bus (.pausing rest)
          (Lifecycles.sweep .pause [stage] lives).2.2)
  | slept (control : monitor.control = .pausing []) :
      Stepped now shutdown lives bus monitor
        (monitor.goesTo lives bus (.sleeping { nanos := now.nanos + monitor.backoff.nanos }) [])
  | woke {deadline : Duration} (control : monitor.control = .sleeping deadline)
      (due : deadline.nanos ≤ now.nanos) :
      Stepped now shutdown lives bus monitor (monitor.goesTo lives bus .draining [])
  | absorbed {after : ReportBus} {stage : String} (control : monitor.control = .draining)
      (received : bus.Received monitor.subscriber (after, .report stage)) :
      Stepped now shutdown lives bus monitor
        (monitor.goesTo lives after monitor.control [.reportAbsorbed stage])
  | drained {after : ReportBus} {told : Reception} (control : monitor.control = .draining)
      (received : bus.Received monitor.subscriber (after, told))
      (silent : told = .empty ∨ told = .closed) :
      Stepped now shutdown lives bus monitor
        (monitor.goesTo lives bus (.resuming monitor.stages 0) [])
  | resumed {stage : StageId} {rest : List StageId} {count : Nat}
      (control : monitor.control = .resuming (stage :: rest) count) :
      Stepped now shutdown lives bus monitor
        (monitor.goesTo (Lifecycles.sweep .resume [stage] lives).1 bus
          (.resuming rest (count + (Lifecycles.sweep .resume [stage] lives).2.1))
          (Lifecycles.sweep .resume [stage] lives).2.2)
  | recovered {count : Nat} (control : monitor.control = .resuming [] count) :
      Stepped now shutdown lives bus monitor
        (monitor.goesTo lives bus .listening [.stagesResumed count])

variable {now : Duration} {shutdown cancelFirst : Bool} {lives : Lifecycles} {bus : ReportBus}
  {monitor : Monitor} {stepped : MonitorStep}

private theorem listening_stepped (control : monitor.control = .listening)
    (moved : monitor.step now shutdown cancelFirst lives bus = some stepped) :
    monitor.Stepped now shutdown lives bus stepped := by
  simp only [step, control] at moved
  have received := @ReportBus.receive_received bus monitor.subscriber
  cases fired : shutdown with
  | true =>
      rw [fired, if_pos rfl] at moved
      cases moved
      exact .dismissed rfl (Or.inl control)
  | false =>
      rw [fired, if_neg Bool.false_ne_true] at moved
      rcases given : bus.receive monitor.subscriber with ⟨after, told⟩
      rw [given] at moved received
      cases told with
      | report stage =>
          cases moved
          exact .alarmed control received
      | lagged missed =>
          cases moved
          exact .lagged (Or.inl control) received
      | empty => cases moved
      | closed =>
          cases moved
          exact .orphaned control received

private theorem sleeping_stepped {deadline : Duration}
    (control : monitor.control = .sleeping deadline)
    (moved : monitor.step now shutdown cancelFirst lives bus = some stepped) :
    monitor.Stepped now shutdown lives bus stepped := by
  simp only [step, control] at moved
  split at moved
  · rename_i fires
    cases moved
    exact .dismissed (Bool.and_eq_true_iff.mp fires).1 (Or.inr ⟨deadline, control⟩)
  · split at moved
    · rename_i elapsed
      cases moved
      exact .woke control (of_decide_eq_true elapsed)
    · cases moved

private theorem draining_stepped (control : monitor.control = .draining)
    (moved : monitor.step now shutdown cancelFirst lives bus = some stepped) :
    monitor.Stepped now shutdown lives bus stepped := by
  simp only [step, control] at moved
  have received := @ReportBus.receive_received bus monitor.subscriber
  rcases given : bus.receive monitor.subscriber with ⟨after, told⟩
  rw [given] at moved received
  cases told with
  | report stage =>
      cases moved
      exact .absorbed control received
  | lagged missed =>
      cases moved
      exact .lagged (Or.inr control) received
  | empty =>
      cases moved
      exact .drained control received (Or.inl rfl)
  | closed =>
      cases moved
      exact .drained control received (Or.inr rfl)

theorem step_stepped (moved : monitor.step now shutdown cancelFirst lives bus = some stepped) :
    monitor.Stepped now shutdown lives bus stepped := by
  cases control : monitor.control with
  | listening => exact listening_stepped control moved
  | pausing rest =>
      cases rest with
      | nil =>
          simp only [step, control, Option.some.injEq] at moved
          subst moved
          exact .slept control
      | cons stage rest =>
          simp only [step, control, Option.some.injEq] at moved
          subst moved
          exact .paused control
  | sleeping deadline => exact sleeping_stepped control moved
  | draining => exact draining_stepped control moved
  | resuming rest count =>
      cases rest with
      | nil =>
          simp only [step, control, Option.some.injEq] at moved
          subst moved
          exact .recovered control
      | cons stage rest =>
          simp only [step, control, Option.some.injEq] at moved
          subst moved
          exact .resumed control
  | stopped =>
      simp only [step, control] at moved
      cases moved

theorem Stepped.same (moved : monitor.Stepped now shutdown lives bus stepped) :
    ∃ control, stepped.monitor = { monitor with control := control } := by
  cases moved <;> exact ⟨_, rfl⟩

theorem Stepped.live (moved : monitor.Stepped now shutdown lives bus stepped) :
    monitor.control ≠ .stopped := by
  intro stopped
  cases moved with
  | dismissed _ control =>
      rcases control with control | ⟨deadline, control⟩ <;> cases stopped.symm.trans control
  | lagged control =>
      rcases control with control | control <;> cases stopped.symm.trans control
  | orphaned control | alarmed control | paused control | slept control | woke control
    | absorbed control | drained control | resumed control | recovered control =>
      cases stopped.symm.trans control

theorem Stepped.length (moved : monitor.Stepped now shutdown lives bus stepped) :
    stepped.lifecycles.length = lives.length := by
  cases moved with
  | paused | resumed => exact Lifecycles.length_sweep _
  | dismissed | orphaned | lagged | alarmed | slept | woke | absorbed | drained | recovered => rfl

theorem step_blocked (blocked : monitor.step now shutdown cancelFirst lives bus = none) :
    monitor.control = .stopped ∨ (∃ deadline, monitor.control = .sleeping deadline) ∨
      monitor.control = .listening ∧ bus.unread monitor.subscriber = [] := by
  cases control : monitor.control with
  | listening =>
      refine Or.inr (Or.inr ⟨rfl, ?_⟩)
      simp only [step, control] at blocked
      have received := @ReportBus.receive_received bus monitor.subscriber
      cases fired : shutdown with
      | true =>
          rw [fired, if_pos rfl] at blocked
          cases blocked
      | false =>
          rw [fired, if_neg Bool.false_ne_true] at blocked
          rcases given : bus.receive monitor.subscriber with ⟨after, told⟩
          rw [given] at blocked received
          cases told with
          | empty => exact ReportBus.unread_nothing received (Or.inl rfl)
          | report | lagged | closed => cases blocked
  | sleeping deadline => exact Or.inr (Or.inl ⟨deadline, rfl⟩)
  | stopped => exact Or.inl rfl
  | pausing rest =>
      cases rest with
      | nil =>
          simp only [step, control] at blocked
          cases blocked
      | cons stage rest =>
          simp only [step, control] at blocked
          cases blocked
  | draining =>
      simp only [step, control] at blocked
      split at blocked <;> cases blocked
  | resuming rest count =>
      cases rest with
      | nil =>
          simp only [step, control] at blocked
          cases blocked
      | cons stage rest =>
          simp only [step, control] at blocked
          cases blocked

theorem step_asleep {deadline : Duration} (control : monitor.control = .sleeping deadline)
    (blocked : monitor.step now shutdown cancelFirst lives bus = none) :
    shutdown = false ∧ now.nanos < deadline.nanos := by
  simp only [step, control] at blocked
  split at blocked
  · cases blocked
  · rename_i unfired
    split at blocked
    · cases blocked
    · rename_i early
      have before : ¬ deadline.nanos ≤ now.nanos := fun elapsed => early (decide_eq_true elapsed)
      refine ⟨?_, Nat.lt_of_not_le before⟩
      cases fired : shutdown with
      | false => rfl
      | true => simp [fired, before] at unfired

end Monitor
end Sluice
