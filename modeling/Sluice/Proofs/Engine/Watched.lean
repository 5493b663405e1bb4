import Sluice.Proofs.Engine.Effort
import Sluice.Proofs.Monitor.Effort

set_option autoImplicit false

/-! An engine with one monitor, which reads the bus that the workers report on. Whatever happens, the bus
keeps its latest reports and the monitor keeps its place on it, so reports are all that gives it work. -/

namespace Sluice

theorem Monitor.Stepped.bus {now : Duration} {shutdown : Bool} {lives : Lifecycles}
    {bus : ReportBus} {monitor : Monitor} {stepped : MonitorStep}
    (moved : monitor.Stepped now shutdown lives bus stepped) :
    stepped.bus = bus ∨ ∃ told, bus.Received monitor.subscriber (stepped.bus, told) := by
  cases moved with
  | lagged _ received | alarmed _ received | absorbed _ received => exact Or.inr ⟨_, received⟩
  | dismissed | orphaned | paused | slept | woke | drained | resumed | recovered => exact Or.inl rfl

inductive TaskKind where
  | worker
  | monitor
  | joiner
deriving DecidableEq

/-- Whose step an action is, `none` if the surroundings act. -/
def Action.task? : Action → Option TaskKind
  | .worker .. => some .worker
  | .monitor .. => some .monitor
  | .join => some .joiner
  | _ => none

def Action.stepsAs (kind : TaskKind) (action : Action) : Nat :=
  if action.task? = some kind then 1 else 0

theorem Told.no_task {now : Duration} {stage : StageId} {action : Action} {control after : Control}
    (told : Told now stage action control after) : action.task? = none := by
  cases told with
  | answered | rejected | opened | unopened => rfl
  | heard news | overheard news => cases news <;> rfl

/-- What time makes of a monitor's task: a shutdown stays asked for, and what has stopped stays so. -/
structure MonitorTask.Onward (task changed : MonitorTask) : Prop where
  cost : changed.monitor.backoffCost = task.monitor.backoffCost
  shutdown : task.shutdown = true → changed.shutdown = true
  stopped : task.monitor.control = .stopped → changed.monitor.control = .stopped

theorem MonitorTask.Onward.refl (task : MonitorTask) : task.Onward task :=
  ⟨rfl, id, id⟩

namespace Engine

structure Audible (engine : Engine) : Prop where
  present : sharedBus < engine.buses.length
  sound : (engine.busAt sharedBus).Sound

variable {engine next first last : Engine} {action : Action} {effects : List Effect}
  {bus : BusId} {held : ReportBus} {past : List Occurrence} {allowed : Engine → Action → Prop}

theorem Audible.same (audible : engine.Audible) (buses : next.buses = engine.buses) :
    next.Audible := by
  have bus : next.busAt sharedBus = engine.busAt sharedBus := by
    unfold busAt
    rw [buses]
  exact ⟨buses ▸ audible.present, bus ▸ audible.sound⟩

theorem Audible.withBus (audible : engine.Audible) (sound : bus = sharedBus → held.Sound) :
    (engine.withBus bus held).Audible := by
  constructor
  · rw [length_withBus]
    exact audible.present
  · by_cases shared : bus = sharedBus
    · subst shared
      rw [busAt_withBus audible.present]
      exact sound rfl
    · rw [busAt_withBus_other shared]
      exact audible.sound

theorem Audible.acted (audible : engine.Audible) (acted : engine.Acted action next effects) :
    next.Audible := by
  have worked : ∀ {stage : StageId} {post : Post} {worker : Worker} {stepped : WorkerStep},
      worker.Stepped engine.clock post.stage.lifecycle engine.links (engine.busAt sharedBus) stepped →
        (engine.afterWorker stage post stepped).Audible := by
    intro stage post worker stepped step
    have sound : stepped.bus.Sound := by
      rcases step.reportsIn with ⟨_, _, same⟩ | ⟨_, reported⟩
      · rw [same]
        exact audible.sound
      · rw [reported]
        exact audible.sound.publish
    have written : (engine.withBus sharedBus stepped.bus).Audible := audible.withBus fun _ => sound
    exact written.same rfl
  cases acted with
  | worked found runs step => exact worked step
  | @collapsed stage cancelFirst post worker stepped found runs step =>
      obtain ⟨posts, _, same⟩ := reactTo_posts (engine.afterWorker stage post stepped) stage
      rw [same]
      exact (worked step).same rfl
  | @supervised index cancelFirst task stepped found step =>
      have written : (engine.withBus task.bus stepped.bus).Audible := by
        apply audible.withBus
        intro shared
        rw [shared] at step
        rcases step.bus with same | ⟨told, received⟩
        · rw [same]
          exact audible.sound
        · exact audible.sound.received received
      exact written.same rfl
  | published =>
      apply audible.withBus
      intro shared
      rw [shared]
      exact audible.sound.publish
  | closed =>
      apply audible.withBus
      intro shared
      rw [shared]
      exact audible.sound.close
  | requested | told | awaited | closing | joined | put | took | stopped | elapsed =>
      exact audible.same rfl

structure Watched (engine : Engine) (task : MonitorTask) : Prop where
  alone : engine.monitors = [task]
  shared : task.bus = sharedBus
  subscribed : task.monitor.subscriber < (engine.busAt sharedBus).cursors.length

/-- The steps that the monitor can take on what was reported so far. -/
def vigil (engine : Engine) (task : MonitorTask) : Nat :=
  task.monitor.effort +
    task.monitor.backoffCost * (engine.busAt sharedBus).backlog task.monitor.subscriber

variable {task : MonitorTask} {stage : StageId} {cancelFirst : Bool} {index : Nat}

theorem Watched.same (watched : engine.Watched task) (monitors : next.monitors = engine.monitors)
    (bus : next.busAt sharedBus = engine.busAt sharedBus) :
    next.Watched task ∧ next.vigil task = engine.vigil task := by
  refine ⟨⟨monitors.trans watched.alone, watched.shared, ?_⟩, ?_⟩
  · rw [bus]
    exact watched.subscribed
  · unfold vigil
    rw [bus]

theorem Watched.reported {name : String} (watched : engine.Watched task)
    (bus : next.busAt sharedBus = (engine.busAt sharedBus).publish name)
    (monitors : next.monitors = engine.monitors) :
    next.Watched task ∧ next.vigil task ≤ engine.vigil task + task.monitor.backoffCost := by
  refine ⟨⟨monitors.trans watched.alone, watched.shared, ?_⟩, ?_⟩
  · rw [bus, ReportBus.length_cursors_publish]
    exact watched.subscribed
  · have more := Nat.mul_le_mul_left task.monitor.backoffCost
      (@ReportBus.backlog_publish (engine.busAt sharedBus) task.monitor.subscriber name)
    rw [Nat.mul_add, Nat.mul_one] at more
    unfold vigil
    rw [bus]
    omega

private theorem Watched.worked (watched : engine.Watched task) (audible : engine.Audible)
    (acted : engine.Acted (.worker stage cancelFirst) next effects) :
    next.Watched task ∧ next.vigil task ≤
      engine.vigil task + task.monitor.backoffCost * Effect.reportsIn effects := by
  obtain ⟨post, worker, stepped, posts, notices, _, _, step, same, did, _⟩ := acted.steps
  have bus : next.busAt sharedBus = stepped.bus := by
    rw [same]
    exact busAt_withBus audible.present
  have monitors : next.monitors = engine.monitors := by
    rw [same]
    rfl
  rw [did, Effect.reportsIn_noted]
  rcases step.reportsIn with ⟨_, silent, kept⟩ | ⟨_, published⟩
  · obtain ⟨still, vigil⟩ := watched.same monitors (bus.trans kept)
    exact ⟨still, Nat.le_add_right_of_le (Nat.le_of_eq vigil)⟩
  · rw [published] at bus ⊢
    obtain ⟨still, vigil⟩ := watched.reported bus monitors
    exact ⟨still, Nat.le_trans vigil (Nat.le_of_eq (congrArg _ (Nat.mul_one _).symm))⟩

private theorem Watched.supervised {stepped : MonitorStep} {other : MonitorTask}
    (watched : engine.Watched task) (audible : engine.Audible)
    (found : engine.monitors[index]? = some other)
    (step : other.monitor.Stepped engine.clock other.shutdown engine.lifecycles
      (engine.busAt other.bus) stepped) :
    ∃ changed, (engine.afterMonitor index other stepped).Watched changed ∧ task.Onward changed ∧
      (engine.afterMonitor index other stepped).vigil changed + 1 ≤ engine.vigil task := by
  have only : index = 0 ∧ other = task := by
    rw [watched.alone] at found
    cases index with
    | zero => exact ⟨rfl, (Option.some.inj found).symm⟩
    | succ index => cases found
  obtain ⟨here, same⟩ := only
  subst here
  subst same
  rw [watched.shared] at step
  obtain ⟨control, same⟩ := step.same
  have bus : (engine.afterMonitor 0 other stepped).busAt sharedBus = stepped.bus := by
    unfold afterMonitor
    rw [watched.shared]
    exact busAt_withBus audible.present
  have spends := step.effort audible.sound watched.subscribed
  have cursors : stepped.bus.cursors.length = (engine.busAt sharedBus).cursors.length := by
    rcases step.bus with kept | ⟨told, received⟩
    · rw [kept]
    · exact ReportBus.length_cursors_received received
  refine ⟨{ other with monitor := stepped.monitor }, ⟨?_, watched.shared, ?_⟩, ⟨?_, id, ?_⟩, ?_⟩
  · change engine.monitors.set 0 _ = _
    rw [watched.alone]
    rfl
  · rw [bus, cursors, same]
    exact watched.subscribed
  · rw [same]
    rfl
  · intro stopped
    exact absurd stopped step.live
  · have subscriber : stepped.monitor.subscriber = other.monitor.subscriber := by rw [same]
    have cost : stepped.monitor.backoffCost = other.monitor.backoffCost := by
      rw [same]
      rfl
    unfold vigil
    rw [bus]
    change stepped.monitor.effort + stepped.monitor.backoffCost *
      stepped.bus.backlog stepped.monitor.subscriber + 1 ≤ _
    rw [subscriber, cost]
    exact spends

private theorem Watched.told (watched : engine.Watched task) :
    ∃ changed, (engine.stopMonitor index).Watched changed ∧ task.Onward changed ∧
      (engine.stopMonitor index).vigil changed = engine.vigil task ∧
      (index = 0 → changed.shutdown = true) := by
  have monitors : (engine.stopMonitor index).monitors =
      [task].modify index fun held => { held with shutdown := true } :=
    congrArg (List.modify · index _) watched.alone
  cases index with
  | zero =>
      refine ⟨{ task with shutdown := true }, ⟨monitors, watched.shared, watched.subscribed⟩,
        ⟨rfl, fun _ => rfl, id⟩, rfl, fun _ => rfl⟩
  | succ index =>
      refine ⟨task, ⟨?_, watched.shared, watched.subscribed⟩, .refl task, rfl, ?_⟩
      · rw [monitors, List.modify_succ_cons, List.modify_nil]
      · intro impossible
        cases impossible

/-- The monitor's own steps are paid for by reports, whoever makes them. -/
theorem Watched.acted (watched : engine.Watched task) (audible : engine.Audible)
    (acted : engine.Acted action next effects) :
    ∃ changed, next.Watched changed ∧ task.Onward changed ∧
      next.vigil changed + action.stepsAs .monitor ≤
        engine.vigil task + task.monitor.backoffCost * Effect.reportsIn effects := by
  have still : ∀ {after : Engine}, after.Watched task ∧ after.vigil task = engine.vigil task →
      ∃ changed, after.Watched changed ∧ task.Onward changed ∧
        after.vigil changed + 0 ≤
          engine.vigil task + task.monitor.backoffCost * Effect.reportsIn effects :=
    fun kept => ⟨task, kept.1, .refl task, Nat.le_add_right_of_le (Nat.le_of_eq kept.2)⟩
  by_cases own : ∃ stage cancelFirst, action = .worker stage cancelFirst
  · obtain ⟨stage, cancelFirst, same⟩ := own
    subst same
    obtain ⟨still, vigil⟩ := watched.worked audible acted
    exact ⟨task, still, .refl task, vigil⟩
  · cases acted with
    | worked | collapsed => exact absurd ⟨_, _, rfl⟩ own
    | supervised found step =>
        obtain ⟨changed, still, onward, spends⟩ := watched.supervised audible found step
        exact ⟨changed, still, onward, Nat.le_add_right_of_le spends⟩
    | told found runs told =>
        have none : action.stepsAs .monitor = 0 := by
          unfold Action.stepsAs
          rw [told.no_task]
          rfl
        rw [none]
        exact still (watched.same rfl rfl)
    | closing | stopped =>
        obtain ⟨changed, still, onward, vigil, _⟩ := watched.told
        exact ⟨changed, ⟨still.alone, still.shared, still.subscribed⟩, onward,
          Nat.le_add_right_of_le (Nat.le_of_eq vigil)⟩
    | @published bus name =>
        by_cases shared : bus = sharedBus
        · subst shared
          have written : (engine.withBus sharedBus
              ((engine.busAt sharedBus).publish name)).busAt sharedBus =
                (engine.busAt sharedBus).publish name := busAt_withBus audible.present
          obtain ⟨still, vigil⟩ := watched.reported written rfl
          exact ⟨task, still, .refl task,
            Nat.le_trans vigil (Nat.le_of_eq (congrArg _ (Nat.mul_one _).symm))⟩
        · exact still (watched.same rfl (busAt_withBus_other shared))
    | @closed bus =>
        by_cases shared : bus = sharedBus
        · subst shared
          have written : (engine.withBus sharedBus (engine.busAt sharedBus).close).busAt sharedBus =
              (engine.busAt sharedBus).close := busAt_withBus audible.present
          refine ⟨task, ⟨watched.alone, watched.shared, ?_⟩, .refl task, ?_⟩
          · rw [written]
            exact watched.subscribed
          · unfold vigil
            rw [written]
            exact Nat.le_add_right _ _
        · exact still (watched.same rfl (busAt_withBus_other shared))
    | requested | awaited | joined | put | took | elapsed => exact still (watched.same rfl rfl)

theorem Watched.reached (watched : first.Watched task) (audible : first.Audible)
    (reached : Reaches allowed first last past) : last.Audible ∧ ∃ changed, last.Watched changed := by
  induction reached with
  | started => exact ⟨audible, task, watched⟩
  | acted before allows acts ih =>
      obtain ⟨hears, held, still⟩ := ih
      obtain ⟨changed, onward, _⟩ := still.acted hears (act_acted acts)
      exact ⟨hears.acted (act_acted acts), changed, onward⟩
  | joined before ih =>
      obtain ⟨hears, held, still⟩ := ih
      exact ⟨hears.same rfl, held, still.alone, still.shared, still.subscribed⟩

end Engine
end Sluice
