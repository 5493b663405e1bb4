import Sluice.Proofs.Engine.Calm

set_option autoImplicit false

/-! No stage is stranded by the failure protocol. While its surroundings neither pause nor interrupt a
stage, a paused stage has a worker that is about to report, a report that the monitor has not read, or a
backoff that is still to resume it. Every step of every task keeps this. -/

namespace Sluice

/-- A backoff is under way and its resume sweep has not come to the stage. -/
def Monitor.Attends (monitor : Monitor) (stage : StageId) : Prop :=
  match monitor.control with
  | .pausing _ | .sleeping _ | .draining => True
  | .resuming rest _ => stage ∈ rest
  | .listening | .stopped => False

namespace Worker

variable {now : Duration} {life : Lifecycle} {links : LinkStore} {bus : ReportBus} {worker : Worker}
  {stepped : WorkerStep}

/-- A stage that is paused after a step of its worker was paused before by somebody else, or its worker
is about to report, or has just done so. -/
theorem Stepped.answers (unparked : worker.control ≠ .parking)
    (moved : worker.Stepped now life links bus stepped)
    (paused : stepped.lifecycle.phase = .paused) :
    stepped.worker.control = .reporting ∨ stepped.bus = bus.publish worker.stage ∨
      life.phase = .paused ∧ worker.control ≠ .reporting := by
  cases moved with
  | @turned next effects turns =>
      refine Or.inr (Or.inr ⟨paused, ?_⟩)
      intro reporting
      rw [reporting] at turns
      cases turns
  | @paused next pauses =>
      generalize worker.control = control at pauses unparked
      cases pauses with
      | parked => exact absurd rfl unparked
      | withdrawn => exact Or.inl rfl
  | finished =>
      rw [Lifecycle.phase_finish] at paused
      cases paused
  | reported => exact Or.inr (Or.inl rfl)
  | fetching control | missed control | began control | stored control =>
      refine Or.inr (Or.inr ⟨paused, ?_⟩)
      rw [control]
      intro impossible
      cases impossible
  | dispatched offers | refused offers =>
      refine Or.inr (Or.inr ⟨paused, ?_⟩)
      intro reporting
      cases offers with
      | answered control | read control =>
          rw [reporting] at control
          cases control

end Worker

namespace Engine

/-- Why a stage that is paused will not stay so. -/
inductive Attended (engine : Engine) (task : MonitorTask) (stage : StageId) : Prop
  | reporting {post : Post} {worker : Worker} (found : engine.posts[stage]? = some post)
      (runs : post.slot = .spawned worker) (control : worker.control = .reporting)
  | unread (left : (engine.busAt task.bus).unread task.monitor.subscriber ≠ [])
  | backoff (attends : task.monitor.Attends stage)

structure Supervised (engine : Engine) (task : MonitorTask) : Prop where
  calm : engine.Calm
  alone : engine.monitors = [task]
  bus : task.bus = sharedBus
  subscribed : task.monitor.subscriber < (engine.busAt sharedBus).cursors.length
  everyone : task.monitor.stages = List.range engine.posts.length
  alive : task.shutdown = false → task.monitor.control ≠ .stopped
  attended : task.shutdown = false → ∀ (stage : StageId) (post : Post),
    engine.posts[stage]? = some post → post.stage.lifecycle.phase = .paused →
      engine.Attended task stage

variable {engine next : Engine} {task : MonitorTask} {stage : StageId} {post : Post}
  {worker : Worker}

theorem Attended.kept (attended : engine.Attended task stage)
    (slots : ∀ post : Post, engine.posts[stage]? = some post →
      ∃ moved : Post, next.posts[stage]? = some moved ∧ moved.slot = post.slot)
    (grows : (engine.busAt task.bus).unread task.monitor.subscriber ≠ [] →
      (next.busAt task.bus).unread task.monitor.subscriber ≠ []) : next.Attended task stage := by
  cases attended with
  | reporting found runs control =>
      obtain ⟨moved, atStage, same⟩ := slots _ found
      exact .reporting atStage (same.trans runs) control
  | unread left => exact .unread (grows left)
  | backoff attends => exact .backoff attends

theorem Attended.stepped (attended : engine.Attended task stage)
    (found : engine.posts[stage]? = some post) (runs : post.slot = .spawned worker)
    (silent : worker.control ≠ .reporting)
    (grows : (engine.busAt task.bus).unread task.monitor.subscriber ≠ [] →
      (next.busAt task.bus).unread task.monitor.subscriber ≠ []) : next.Attended task stage := by
  cases attended with
  | reporting atStage runs' control =>
      cases found.symm.trans atStage
      cases runs.symm.trans runs'
      exact absurd control silent
  | unread left => exact .unread (grows left)
  | backoff attends => exact .backoff attends

theorem Supervised.afterWorker {stepped : WorkerStep} (supervised : engine.Supervised task)
    (found : engine.posts[stage]? = some post) (runs : post.slot = .spawned worker)
    (step : worker.Stepped engine.clock post.stage.lifecycle engine.links
      (engine.busAt sharedBus) stepped) :
    (engine.afterWorker stage post stepped).Supervised task := by
  have calm := supervised.calm
  have bus : (engine.afterWorker stage post stepped).busAt sharedBus = stepped.bus :=
    busAt_withBus calm.present
  have grows : (engine.busAt sharedBus).unread task.monitor.subscriber ≠ [] →
      stepped.bus.unread task.monitor.subscriber ≠ [] := by
    intro left
    rcases step.reports with same | published
    · rw [same]
      exact left
    · rw [published]
      exact ReportBus.unread_publish calm.sound supervised.subscribed
  refine ⟨calm.afterWorker found step, supervised.alone, supervised.bus, ?_, ?_, supervised.alive, ?_⟩
  · rw [bus]
    rcases step.reports with same | published
    · rw [same]
      exact supervised.subscribed
    · rw [published, ReportBus.length_cursors_publish]
      exact supervised.subscribed
  · exact supervised.everyone.trans (congrArg List.range length_withPost.symm)
  · intro running other moved atOther paused
    have before := supervised.attended running
    by_cases here : stage = other
    · subst here
      have there : (engine.afterWorker stage post stepped).posts[stage]? =
          some { post.setLifecycle stepped.lifecycle with slot := .spawned stepped.worker } :=
        post_withPost found
      cases atOther.symm.trans there
      rcases step.answers (calm.posts stage post found |>.unparked worker runs) paused with
        reporting | published | ⟨pausedBefore, silent⟩
      · exact .reporting there rfl reporting
      · refine .unread ?_
        rw [supervised.bus, bus, published]
        exact ReportBus.unread_publish calm.sound supervised.subscribed
      · refine (before stage post found pausedBefore).stepped found runs silent ?_
        rw [supervised.bus, bus]
        exact grows
    · have same : engine.posts[other]? = some moved := (post_withPost_other here).symm.trans atOther
      refine (before other moved same paused).kept ?_ ?_
      · intro known atKnown
        cases same.symm.trans atKnown
        exact ⟨moved, atOther, rfl⟩
      · rw [supervised.bus, bus]
        exact grows

theorem Supervised.afterTold {control : Control} (supervised : engine.Supervised task)
    (found : engine.posts[stage]? = some post) (runs : post.slot = .spawned worker)
    (silent : worker.control ≠ .reporting) (calm : (engine.afterTold stage post worker control).Calm) :
    (engine.afterTold stage post worker control).Supervised task := by
  refine ⟨calm, supervised.alone, supervised.bus, supervised.subscribed, ?_, supervised.alive, ?_⟩
  · exact supervised.everyone.trans (congrArg List.range length_withPost.symm)
  · intro running other moved atOther paused
    have before := supervised.attended running
    by_cases here : stage = other
    · subst here
      have there : (engine.afterTold stage post worker control).posts[stage]? =
          some { post with slot := .spawned { worker with control := control } } := post_withPost found
      cases atOther.symm.trans there
      exact (before stage post found paused).stepped found runs silent fun left => left
    · have same : engine.posts[other]? = some moved := (post_withPost_other here).symm.trans atOther
      refine (before other moved same paused).kept ?_ fun left => left
      intro known atKnown
      cases same.symm.trans atKnown
      exact ⟨moved, atOther, rfl⟩

private theorem Supervised.withLifecycles {lives : Lifecycles} (supervised : engine.Supervised task)
    (length : lives.length = engine.posts.length) (calm : (engine.withLifecycles lives).Calm)
    (unpaused : ∀ (stage : StageId) (post moved : Post), engine.posts[stage]? = some post →
      (engine.withLifecycles lives).posts[stage]? = some moved →
        moved.stage.lifecycle.phase = .paused → post.stage.lifecycle.phase = .paused) :
    (engine.withLifecycles lives).Supervised task := by
  refine ⟨calm, supervised.alone, supervised.bus, supervised.subscribed, ?_, supervised.alive, ?_⟩
  · rw [length_withLifecycles length]
    exact supervised.everyone
  · intro running stage moved atStage paused
    obtain ⟨post, life, original, changed, same⟩ := post_withLifecycles atStage
    have before := unpaused stage post moved original atStage paused
    refine (supervised.attended running stage post original before).kept ?_ fun left => left
    intro known atKnown
    cases original.symm.trans atKnown
    exact ⟨moved, atStage, by rw [same]; rfl⟩

theorem Supervised.request {asked : LifecycleRequest} (supervised : engine.Supervised task)
    (allows : asked = .resume ∨ asked = .finish) :
    (engine.withLifecycles (engine.lifecycles.request stage asked).1).Supervised task := by
  have gentle : asked ≠ .interrupt := by
    intro interrupts
    subst interrupts
    rcases allows with impossible | impossible <;> cases impossible
  refine supervised.withLifecycles (Lifecycles.length_request.trans length_lifecycles)
    (supervised.calm.request gentle) ?_
  intro other post moved original found paused
  obtain ⟨before, atOther, ⟨_, same⟩ | ⟨_, same⟩⟩ := post_requested found
  · subst same
    rcases allows with resume | finish
    · subst resume
      exact absurd paused Lifecycle.phase_resume
    · subst finish
      exact absurd (paused.symm.trans Lifecycle.phase_finish) (by intro impossible; cases impossible)
  · subst same
    cases original.symm.trans atOther
    exact paused

theorem Supervised.finishAll (supervised : engine.Supervised task) :
    engine.finishAll.1.Supervised task := by
  refine supervised.withLifecycles ((Lifecycles.length_requestAll _).trans length_lifecycles)
    supervised.calm.finishAll ?_
  intro stage post moved original found paused
  obtain ⟨before, atStage, same⟩ := post_finishAll found
  rw [same] at paused
  exact absurd (paused.symm.trans Lifecycle.phase_finish) (by intro impossible; cases impossible)

theorem Supervised.reactTo (supervised : engine.Supervised task)
    (found : engine.posts[stage]? = some post) (runs : post.slot = .spawned worker)
    (silent : worker.control ≠ .reporting) : (engine.reactTo stage).1.Supervised task := by
  have calm := @Calm.reactTo engine stage supervised.calm
  rcases @reactTo_cases engine stage with same | same | ⟨known, held, atStage, spawned, same⟩
  · rw [same]
    exact supervised
  · rw [same]
    exact supervised.finishAll
  · cases found.symm.trans atStage
    cases runs.symm.trans spawned
    rw [same] at calm ⊢
    exact supervised.afterTold found runs silent calm

private theorem Attended.cases_at (attended : engine.Attended task stage)
    (found : engine.posts[stage]? = some post) :
    task.monitor.Attends stage ∨ (engine.busAt task.bus).unread task.monitor.subscriber ≠ [] ∨
      ∃ worker, post.slot = .spawned worker ∧ worker.control = .reporting := by
  cases attended with
  | @reporting held worker known runs reports =>
      cases found.symm.trans known
      exact Or.inr (Or.inr ⟨worker, runs, reports⟩)
  | unread left => exact Or.inr (Or.inl left)
  | backoff attends => exact Or.inl attends

private theorem attended_monitored {stepped : MonitorStep} (supervised : engine.Supervised task)
    (step : task.monitor.Stepped engine.clock task.shutdown engine.lifecycles
      (engine.busAt task.bus) stepped) (running : task.shutdown = false) {moved : Post}
    (found : (engine.withLifecycles stepped.lifecycles).posts[stage]? = some moved)
    (paused : moved.stage.lifecycle.phase = .paused) :
    stepped.monitor.Attends stage ∨ stepped.bus.unread task.monitor.subscriber ≠ [] ∨
      ∃ worker, moved.slot = .spawned worker ∧ worker.control = .reporting := by
  have calm := supervised.calm
  have before := supervised.attended running
  rw [supervised.bus] at step
  cases step with
  | dismissed fired =>
      rw [running] at fired
      cases fired
  | orphaned control received =>
      have closed := ReportBus.closed_of_received received
      rw [calm.unclosed] at closed
      cases closed
  | lagged control received =>
      exact Or.inr (Or.inl (ReportBus.unread_lagged calm.sound supervised.subscribed received))
  | alarmed | paused | slept | woke => exact Or.inl trivial
  | absorbed control =>
      apply Or.inl
      change Monitor.Attends { task.monitor with control := task.monitor.control } stage
      rw [control]
      trivial
  | drained =>
      apply Or.inl
      change stage ∈ task.monitor.stages
      have bound := (List.getElem?_eq_some_iff.mp found).1
      change stage < (engine.withLifecycles engine.lifecycles).posts.length at bound
      rw [withLifecycles_same] at bound
      rw [supervised.everyone]
      exact List.mem_range.mpr bound
  | @resumed first rest count control =>
      obtain ⟨post, atStage, ⟨_, _, same⟩ | ⟨skipped, same⟩⟩ := post_swept found
      · subst same
        exact absurd paused Lifecycle.phase_resume
      · subst same
        rcases (before stage moved atStage paused).cases_at atStage with attends | left
        · unfold Monitor.Attends at attends
          rw [control] at attends
          rcases List.mem_cons.mp attends with here | later
          -- the sweep passes over finished stages alone, and those are not paused
          · have finished := skipped here.symm
            rw [paused] at finished
            cases finished
          · exact Or.inl later
        · rw [supervised.bus] at left
          exact Or.inr left
  | recovered control =>
      change (engine.withLifecycles engine.lifecycles).posts[stage]? = some moved at found
      rw [withLifecycles_same] at found
      rcases (before stage moved found paused).cases_at found with attends | left
      · unfold Monitor.Attends at attends
        rw [control] at attends
        cases attends
      · rw [supervised.bus] at left
        exact Or.inr left

private theorem alive_monitored {stepped : MonitorStep} (supervised : engine.Supervised task)
    (step : task.monitor.Stepped engine.clock task.shutdown engine.lifecycles
      (engine.busAt task.bus) stepped) (running : task.shutdown = false) :
    stepped.monitor.control ≠ .stopped := by
  rw [supervised.bus] at step
  cases step with
  | dismissed fired =>
      rw [running] at fired
      cases fired
  | orphaned control received =>
      have closed := ReportBus.closed_of_received received
      rw [supervised.calm.unclosed] at closed
      cases closed
  | lagged | absorbed => exact supervised.alive running
  | alarmed | paused | slept | woke | drained | resumed | recovered =>
      intro impossible
      cases impossible

theorem Supervised.afterMonitor {index : Nat} {other : MonitorTask} {stepped : MonitorStep}
    (supervised : engine.Supervised task) (found : engine.monitors[index]? = some other)
    (step : other.monitor.Stepped engine.clock other.shutdown engine.lifecycles
      (engine.busAt other.bus) stepped) :
    (engine.afterMonitor index other stepped).Supervised { task with monitor := stepped.monitor } := by
  have single : index = 0 ∧ other = task := by
    rw [supervised.alone] at found
    cases index with
    | zero => exact ⟨rfl, (Option.some.inj found).symm⟩
    | succ => cases found
  obtain ⟨first, same⟩ := single
  subst first
  subst same
  have calm := supervised.calm
  have bus : (engine.afterMonitor 0 other stepped).busAt sharedBus = stepped.bus := by
    have written : ((engine.withLifecycles stepped.lifecycles).withBus other.bus stepped.bus).busAt
        sharedBus = stepped.bus := by
      rw [supervised.bus]
      exact busAt_withBus calm.present
    exact written
  obtain ⟨control, moved⟩ := step.same
  refine ⟨calm.afterMonitor step, ?_, supervised.bus, ?_, ?_, ?_, ?_⟩
  · change engine.monitors.set 0 _ = _
    rw [supervised.alone]
    rfl
  · rw [bus, moved]
    change other.monitor.subscriber < stepped.bus.cursors.length
    have subscribed := supervised.subscribed
    rw [supervised.bus] at step
    cases step with
    | lagged control received | alarmed control received | absorbed control received =>
        exact Nat.lt_of_lt_of_eq subscribed (ReportBus.length_cursors_received received).symm
    | dismissed | orphaned | paused | slept | woke | drained | resumed | recovered =>
        exact subscribed
  · change stepped.monitor.stages =
      List.range (engine.withLifecycles stepped.lifecycles).posts.length
    rw [moved, length_withLifecycles (step.length.trans length_lifecycles)]
    exact supervised.everyone
  · intro running
    exact alive_monitored supervised step running
  · intro running stage present atStage paused
    rcases attended_monitored supervised step running atStage paused with
      attends | left | ⟨worker, runs, reports⟩
    · exact .backoff attends
    · refine .unread ?_
      change ((engine.afterMonitor 0 other stepped).busAt other.bus).unread
        stepped.monitor.subscriber ≠ []
      rw [supervised.bus, bus, moved]
      exact left
    · exact .reporting atStage runs reports

private theorem Supervised.withBus {bus : BusId} {held : ReportBus} (supervised : engine.Supervised task)
    (calm : (engine.withBus bus held).Calm)
    (subscribed : bus = sharedBus →
      held.cursors.length = (engine.busAt sharedBus).cursors.length)
    (grows : bus = sharedBus → (engine.busAt sharedBus).unread task.monitor.subscriber ≠ [] →
      held.unread task.monitor.subscriber ≠ []) : (engine.withBus bus held).Supervised task := by
  have kept : ((engine.withBus bus held).busAt sharedBus).cursors.length =
        (engine.busAt sharedBus).cursors.length ∧
      ((engine.busAt sharedBus).unread task.monitor.subscriber ≠ [] →
        ((engine.withBus bus held).busAt sharedBus).unread task.monitor.subscriber ≠ []) := by
    by_cases shared : bus = sharedBus
    · subst shared
      rw [busAt_withBus supervised.calm.present]
      exact ⟨subscribed rfl, grows rfl⟩
    · rw [busAt_withBus_other shared]
      exact ⟨rfl, fun left => left⟩
  refine ⟨calm, supervised.alone, supervised.bus, ?_, supervised.everyone, supervised.alive, ?_⟩
  · exact Nat.lt_of_lt_of_eq supervised.subscribed kept.1.symm
  · intro running stage post found paused
    refine (supervised.attended running stage post found paused).kept ?_ ?_
    · intro known atStage
      exact ⟨known, atStage, rfl⟩
    · rw [supervised.bus]
      exact kept.2

theorem Supervised.same (supervised : engine.Supervised task) (posts : next.posts = engine.posts)
    (buses : next.buses = engine.buses) (monitors : next.monitors = engine.monitors) :
    next.Supervised task := by
  have bus : ∀ bus, next.busAt bus = engine.busAt bus := by
    intro bus
    unfold busAt
    rw [buses]
  refine ⟨supervised.calm.same posts buses, monitors.trans supervised.alone, supervised.bus, ?_, ?_,
    supervised.alive, ?_⟩
  · rw [bus]
    exact supervised.subscribed
  · rw [posts]
    exact supervised.everyone
  · intro running stage post found paused
    rw [posts] at found
    refine (supervised.attended running stage post found paused).kept ?_ ?_
    · intro known atStage
      rw [posts]
      exact ⟨known, atStage, rfl⟩
    · rw [bus]
      exact fun left => left

private theorem Supervised.stopMonitor (supervised : engine.Supervised task) (index : Nat) :
    ∃ later, (engine.stopMonitor index).Supervised later := by
  cases index with
  | zero =>
      refine ⟨{ task with shutdown := true }, supervised.calm.same rfl rfl, ?_, supervised.bus,
        supervised.subscribed, supervised.everyone, ?_, ?_⟩
      · change engine.monitors.modify 0 _ = _
        rw [supervised.alone]
        rfl
      · intro impossible
        cases impossible
      · intro impossible
        cases impossible
  | succ index =>
      refine ⟨task, supervised.same rfl rfl ?_⟩
      change engine.monitors.modify (index + 1) _ = engine.monitors
      rw [supervised.alone]
      simp

private theorem told_silent {now : Duration} {action : Action} {control changed : Control}
    (told : Told now stage action control changed) : control ≠ .reporting := by
  intro reporting
  subst reporting
  cases told

theorem Supervised.acted {action : Action} {effects : List Effect}
    (supervised : engine.Supervised task) (allows : action.HandsOff)
    (acted : engine.Acted action next effects) : ∃ later, next.Supervised later := by
  have calm := supervised.calm.acted allows acted
  cases acted with
  | worked found runs step => exact ⟨task, supervised.afterWorker found runs step⟩
  | @collapsed stage _ post worker stepped found runs step fails =>
      have moved := supervised.afterWorker found runs step
      have there : (engine.afterWorker stage post stepped).posts[stage]? =
          some { post.setLifecycle stepped.lifecycle with slot := .spawned stepped.worker } :=
        post_withPost found
      refine ⟨task, moved.reactTo there rfl ?_⟩
      obtain ⟨_, _, same⟩ := failing_of_isFailure step fails
      rw [same]
      intro impossible
      cases impossible
  | supervised found step => exact ⟨_, supervised.afterMonitor found step⟩
  | requested => exact ⟨task, supervised.request allows⟩
  | told found runs told => exact ⟨task, supervised.afterTold found runs (told_silent told) calm⟩
  | published =>
      refine ⟨task, supervised.withBus calm ?_ ?_⟩
      · intro shared
        subst shared
        exact ReportBus.length_cursors_publish
      · intro shared _
        subst shared
        exact ReportBus.unread_publish supervised.calm.sound supervised.subscribed
  | closed =>
      refine ⟨task, supervised.withBus calm ?_ ?_⟩
      · intro shared
        exact absurd shared allows
      · intro shared
        exact absurd shared allows
  | closing =>
      obtain ⟨later, stopped⟩ := supervised.stopMonitor _
      exact ⟨later, stopped.same rfl rfl rfl⟩
  | stopped => exact supervised.stopMonitor _
  | awaited | joined | put | took | elapsed => exact ⟨task, supervised.same rfl rfl rfl⟩

theorem Supervised.reached {first last : Engine} {past : List Occurrence}
    (supervised : first.Supervised task) (reached : Reaches (fun _ action => action.HandsOff) first last past) :
    ∃ later, last.Supervised later := by
  induction reached with
  | started => exact ⟨task, supervised⟩
  | acted before allows acts ih =>
      obtain ⟨held, known⟩ := ih
      exact known.acted allows (act_acted acts)
  | joined before ih =>
      obtain ⟨held, known⟩ := ih
      exact ⟨held, known.same rfl rfl rfl⟩

/-- All workers and monitors are blocked or over. -/
def AtRest (engine : Engine) : Prop :=
  (∀ stage cancelFirst, engine.stepWorker stage cancelFirst = none) ∧
    ∀ index cancelFirst, engine.stepMonitor index cancelFirst = none

private theorem stepWorker_beyond (beyond : engine.posts.length ≤ stage) (cancelFirst : Bool) :
    engine.stepWorker stage cancelFirst = none := by
  unfold stepWorker
  rw [List.getElem?_eq_none beyond]

private theorem stepMonitor_beyond {index : Nat} (beyond : engine.monitors.length ≤ index)
    (cancelFirst : Bool) : engine.stepMonitor index cancelFirst = none := by
  unfold stepMonitor
  rw [List.getElem?_eq_none beyond]

theorem atRest_iff :
    engine.AtRest ↔
      (∀ stage < engine.posts.length, ∀ cancelFirst,
        (engine.stepWorker stage cancelFirst).isNone = true) ∧
      ∀ index < engine.monitors.length, ∀ cancelFirst,
        (engine.stepMonitor index cancelFirst).isNone = true := by
  simp only [Option.isNone_iff_eq_none]
  constructor
  · rintro ⟨workers, monitors⟩
    exact ⟨fun stage _ => workers stage, fun index _ => monitors index⟩
  · rintro ⟨workers, monitors⟩
    constructor
    · intro stage cancelFirst
      rcases Nat.lt_or_ge stage engine.posts.length with known | beyond
      · exact workers stage known cancelFirst
      · exact stepWorker_beyond beyond cancelFirst
    · intro index cancelFirst
      rcases Nat.lt_or_ge index engine.monitors.length with known | beyond
      · exact monitors index known cancelFirst
      · exact stepMonitor_beyond beyond cancelFirst

instance : Decidable engine.AtRest :=
  decidable_of_iff _ atRest_iff.symm

/-- At rest nobody is about to report and nothing is unread, so the backoff is asleep. -/
theorem Supervised.asleep (supervised : engine.Supervised task) (running : task.shutdown = false)
    (rest : engine.AtRest) (attended : engine.Attended task stage) :
    ∃ deadline, task.monitor.control = .sleeping deadline := by
  have first : engine.monitors[0]? = some task := by
    rw [supervised.alone]
    rfl
  have blocked : task.monitor.step engine.clock task.shutdown false engine.lifecycles
      (engine.busAt task.bus) = none := by
    have still := rest.2 0 false
    unfold stepMonitor at still
    rw [first] at still
    cases step : task.monitor.step engine.clock task.shutdown false engine.lifecycles
        (engine.busAt task.bus) with
    | none => rfl
    | some stepped =>
        simp only [step] at still
        cases still
  rcases Monitor.step_blocked blocked with stopped | asleep | ⟨listening, nothing⟩
  · exact absurd stopped (supervised.alive running)
  · exact asleep
  · cases attended with
    | reporting found runs control =>
        have still := rest.1 stage false
        simp only [stepWorker, found, runs, Worker.step, control] at still
        split at still <;> cases still
    | unread left => exact absurd nothing left
    | backoff attends =>
        unfold Monitor.Attends at attends
        rw [listening] at attends
        cases attends

end Engine
end Sluice
