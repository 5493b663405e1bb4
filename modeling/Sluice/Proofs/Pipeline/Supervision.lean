import Sluice.Proofs.Engine.Supervision
import Sluice.Proofs.Pipeline.Start
import Sluice.Proofs.Pipeline.Wiring

set_option autoImplicit false

/-! Every pipeline starts supervised, and so no stage of it is ever stranded in a pause. -/

namespace Sluice

structure Engine.Idle (engine : Engine) : Prop where
  calm : engine.Calm
  unwatched : engine.monitors = []
  vacant : ∀ (stage : StageId) (post : Post), engine.posts[stage]? = some post → post.slot = .absent
  unpaused : ∀ (stage : StageId) (post : Post), engine.posts[stage]? = some post →
    post.stage.lifecycle.phase ≠ .paused

namespace Pipeline

/-- A pipeline between its construction and its start: links may be added, stages bound to them and
reports subscribed to, and whatever surroundings do that never ask for a pause may happen. -/
inductive Prepared (topology : Topology) (connector : Connector) (options : EngineOptions)
    (onFatal : FatalReaction) : Pipeline → Prop
  | built {pipeline : Pipeline} (made : build topology connector options onFatal = .ok pipeline) :
      Prepared topology connector options onFatal pipeline
  | linked {pipeline : Pipeline} {label : String}
      (before : Prepared topology connector options onFatal pipeline) :
      Prepared topology connector options onFatal
        { pipeline with
          engine := { pipeline.engine with links := pipeline.engine.links.add label } }
  | boundInput {pipeline : Pipeline} {engine : Engine} {stage : StageId} {binding : Binding}
      (before : Prepared topology connector options onFatal pipeline)
      (done : bindAt pipeline.engine stage (fun held => held.bindInput binding) = .ok engine) :
      Prepared topology connector options onFatal { pipeline with engine := engine }
  | boundOutput {pipeline : Pipeline} {engine : Engine} {stage : StageId} {binding : Binding}
      (before : Prepared topology connector options onFatal pipeline)
      (done : bindAt pipeline.engine stage (fun held => held.bindOutput binding) = .ok engine) :
      Prepared topology connector options onFatal { pipeline with engine := engine }
  | subscribed {pipeline : Pipeline} (before : Prepared topology connector options onFatal pipeline) :
      Prepared topology connector options onFatal
        { pipeline with
          engine := pipeline.engine.withBus Engine.sharedBus
            (pipeline.engine.busAt Engine.sharedBus).subscribe }
  | acted {pipeline : Pipeline} {action : Action} {engine : Engine} {effects : List Effect}
      (before : Prepared topology connector options onFatal pipeline)
      (allows : action.HandsOff)
      (acts : pipeline.engine.act action = some (engine, effects)) :
      Prepared topology connector options onFatal { pipeline with engine := engine }

variable {engine next : Engine} {topology : Topology} {connector : Connector}
  {options : EngineOptions} {onFatal : FatalReaction} {pipeline : Pipeline} {running : Running}
  {notices : List Notice}

private theorem idle_built (made : build topology connector options onFatal = .ok pipeline) :
    pipeline.engine.Idle := by
  have wired := build_wired made
  have bus : pipeline.engine.busAt Engine.sharedBus = .ofCapacity options.eventCapacity := by
    unfold Engine.busAt
    rw [wired.buses]
    rfl
  refine ⟨⟨?_, ?_, ?_, ?_⟩, wired.monitors, ?_, ?_⟩
  · rw [wired.buses]
    exact Nat.zero_lt_one
  · rw [bus]
    exact ReportBus.sound_ofCapacity _
  · rw [bus]
    rfl
  · intro stage post found
    obtain ⟨descriptor, method, kind, _, _, _, same⟩ := wired.posts stage post found
    subst same
    refine ⟨Lifecycle.calm_fresh _, ?_⟩
    intro worker impossible
    cases impossible
  · intro stage post found
    obtain ⟨descriptor, method, kind, _, _, _, same⟩ := wired.posts stage post found
    rw [same]
  · intro stage post found
    obtain ⟨descriptor, method, kind, _, _, _, same⟩ := wired.posts stage post found
    rw [same]
    intro impossible
    cases impossible

private theorem idle_bound {stage : StageId} {post : Post} {inputs outputs : List Binding}
    (idle : engine.Idle) (found : engine.posts[stage]? = some post) :
    (engine.withPost stage (post.bind inputs outputs)).Idle := by
  have before := idle.calm.posts stage post found
  refine ⟨idle.calm.withPost ⟨before.life, before.unparked⟩, idle.unwatched, ?_, ?_⟩
  · intro other present atOther
    obtain ⟨earlier, original, slot, _⟩ := bound_kept found atOther
    exact slot.trans (idle.vacant other earlier original)
  · intro other present atOther
    obtain ⟨earlier, original, _, life⟩ := bound_kept found atOther
    rw [life]
    exact idle.unpaused other earlier original

private theorem idle_acted {action : Action} {effects : List Effect} (idle : engine.Idle)
    (allows : action.HandsOff) (acted : engine.Acted action next effects) : next.Idle := by
  have calm := idle.calm.acted allows acted
  cases acted with
  | worked found runs | collapsed found runs | told found runs =>
      have vacant := idle.vacant _ _ found
      rw [runs] at vacant
      cases vacant
  | supervised found =>
      rw [idle.unwatched] at found
      cases found
  | requested =>
      refine ⟨calm, idle.unwatched, ?_, ?_⟩
      · intro other moved found
        obtain ⟨post, life, original, _, same⟩ := Engine.post_withLifecycles found
        rw [same]
        exact idle.vacant other post original
      · intro other moved found
        obtain ⟨post, original, ⟨_, same⟩ | ⟨_, same⟩⟩ := Engine.post_requested found
        · rw [same]
          rcases allows with resume | finish
          · subst resume
            exact Lifecycle.phase_resume
          · subst finish
            intro impossible
            exact absurd (impossible.symm.trans Lifecycle.phase_finish)
              (by intro different; cases different)
        · rw [same]
          exact idle.unpaused other post original
  | closing | stopped =>
      refine ⟨calm, ?_, idle.vacant, idle.unpaused⟩
      change engine.monitors.modify _ _ = []
      rw [idle.unwatched]
      exact List.modify_nil _ _
  | awaited | joined | put | took | published | closed | elapsed =>
      exact ⟨calm, idle.unwatched, idle.vacant, idle.unpaused⟩

theorem Prepared.idle (prepared : Prepared topology connector options onFatal pipeline) :
    pipeline.engine.Idle := by
  induction prepared with
  | built made => exact idle_built made
  | linked before ih => exact ⟨ih.calm.same rfl rfl, ih.unwatched, ih.vacant, ih.unpaused⟩
  | boundInput before done ih =>
      rcases bindAt_cases Stage.adds_bindInput done with same | ⟨post, found, same⟩
      · rw [same]
        exact ih
      · rw [same]
        exact idle_bound ih found
  | boundOutput before done ih =>
      rcases bindAt_cases Stage.adds_bindOutput done with same | ⟨post, found, same⟩
      · rw [same]
        exact ih
      · rw [same]
        exact idle_bound ih found
  | subscribed before ih =>
      exact ⟨ih.calm.withBus (fun _ => ih.calm.sound.subscribe) (fun _ => ih.calm.unclosed),
        ih.unwatched, ih.vacant, ih.unpaused⟩
  | acted before allows acts ih => exact idle_acted ih allows (Engine.act_acted acts)

private theorem supervised_started (idle : pipeline.engine.Idle)
    (launched : pipeline.Launched running) : ∃ task, running.engine.Supervised task := by
  have bus := launched.bus idle.calm.present
  have posts : ∀ (stage : StageId) (post : Post), running.engine.posts[stage]? = some post →
      post.Calm ∧ post.stage.lifecycle.phase ≠ .paused := by
    intro stage post found
    obtain ⟨built, held, worker, atStage, _, works, same⟩ := launched.posts stage post found
    obtain ⟨_, input, output, _, _, created⟩ := Stage.workerOf_ok works
    subst same
    refine ⟨⟨(idle.calm.posts stage built atStage).life, ?_⟩, idle.unpaused stage built atStage⟩
    intro spawned runs parking
    cases runs
    rw [created] at parking
    cases parking
  refine ⟨_, ⟨?_, ?_, ?_, fun stage post found => (posts stage post found).1⟩,
    launched.monitors.trans (congrArg (· ++ _) idle.unwatched), rfl, ?_, ?_, ?_, ?_⟩
  · rw [launched.buses, Engine.length_withBus]
    exact idle.calm.present
  · rw [bus]
    exact idle.calm.sound.subscribe
  · rw [bus]
    exact idle.calm.unclosed
  · rw [bus]
    change (pipeline.engine.busAt Engine.sharedBus).cursors.length <
      ((pipeline.engine.busAt Engine.sharedBus).cursors ++ [_]).length
    rw [List.length_append]
    exact Nat.lt_succ_self _
  · exact congrArg List.range launched.length.symm
  · intro _ impossible
    cases impossible
  · intro _ stage post found paused
    exact absurd paused (posts stage post found).2

/-- Whatever order tasks and surroundings act in, as long as nobody else pauses or interrupts a stage and
the monitor was not told to stop: a paused stage has a worker that is about to report, or a report that
the monitor has not read, or a backoff that is still to resume it; and when all tasks are blocked, that
backoff is asleep. -/
theorem paused_stage_attended {past : List Engine.Occurrence}
    (prepared : Prepared topology connector options onFatal pipeline)
    (started : pipeline.run = .ok (running, notices))
    (reached : Engine.Reaches (fun _ action => action.HandsOff) running.engine engine past) :
    ∃ task, engine.monitors[running.monitor]? = some task ∧
      (task.shutdown = false → ∀ (stage : StageId) (post : Post), engine.posts[stage]? = some post →
        post.stage.lifecycle.phase = .paused →
          engine.Attended task stage ∧
            (engine.AtRest → ∃ deadline, task.monitor.control = .sleeping deadline)) := by
  have idle := prepared.idle
  have launched := run_launched started
  obtain ⟨first, supervised⟩ := supervised_started idle launched
  obtain ⟨task, kept⟩ := supervised.reached reached
  refine ⟨task, ?_, ?_⟩
  · rw [launched.monitor, idle.unwatched, kept.alone]
    rfl
  · intro alive stage post found paused
    have attended := kept.attended alive stage post found paused
    exact ⟨attended, fun rest => kept.asleep alive rest attended⟩

namespace Outage

def detector : StageDescriptor :=
  { name := "detector", host := "localhost", port := 50051
    method :=
      { name := "vision.Detector/Detect", shape := .unary
        input := { name := "", records := [] }, output := { name := "", records := [] } }
    mode := .continuous }

def lone : Topology :=
  { stages := [detector], edges := [] }

def narrow : EngineOptions :=
  { backoffMillis := 5000, eventCapacity := 1 }

/-- The call fails, the worker pauses its stage and reports, and the monitor falls asleep. -/
def actions : List Action :=
  List.replicate 4 (.worker 0 false) ++
    [.answer 0 (.failure { code := .unavailable, message := "" })] ++
    List.replicate 4 (.worker 0 false) ++ List.replicate 3 (.monitor 0 false)

end Outage

theorem paused_stage_attended_outage :
    ∃ pipeline running notices engine past post task,
      Prepared Outage.lone (fun _ => .ok .standard) Outage.narrow .note pipeline ∧
      pipeline.run = .ok (running, notices) ∧
      Engine.Reaches (fun _ action => action.HandsOff) running.engine engine past ∧
      engine.posts[0]? = some post ∧ post.stage.lifecycle.phase = .paused ∧
      engine.monitors[running.monitor]? = some task ∧ task.shutdown = false ∧
      engine.Attended task 0 ∧ engine.AtRest ∧
      ∃ deadline, task.monitor.control = .sleeping deadline := by
  have outcome : ((build Outage.lone (fun _ => .ok .standard) Outage.narrow .note).toOption.bind
      fun pipeline => pipeline.run.toOption.bind
        fun started => (Engine.perform Outage.actions started.1.engine).map
          fun reached => (reached.1.posts.map (·.stage.lifecycle.phase),
            reached.1.monitors.map (·.shutdown), decide reached.1.AtRest)) =
      some ([.paused], [false], true) := by decide
  obtain ⟨pipeline, made, ran⟩ := Option.bind_eq_some_iff.mp outcome
  obtain ⟨⟨running, notices⟩, started, performs⟩ := Option.bind_eq_some_iff.mp ran
  obtain ⟨⟨engine, past⟩, performed, seen⟩ := Option.map_eq_some_iff.mp performs
  have prepared := Prepared.built (ok_of_toOption made)
  have launched := ok_of_toOption started
  have allowed : ∀ action ∈ Outage.actions, action.HandsOff := by decide
  have reached : Engine.Reaches (fun _ action => action.HandsOff) running.engine engine past :=
    Engine.reaches_perform .started (fun action member _ => allowed action member) performed
  obtain ⟨task, watches, attended⟩ := paused_stage_attended prepared launched reached
  have phases : engine.posts.map (·.stage.lifecycle.phase) = [.paused] := congrArg Prod.fst seen
  have shutdowns : engine.monitors.map (·.shutdown) = [false] := congrArg (·.2.1) seen
  have rests : engine.AtRest := of_decide_eq_true (congrArg (·.2.2) seen)
  have paused : (engine.posts[0]?.map (·.stage.lifecycle.phase)) = some .paused := by
    rw [← List.getElem?_map, phases]
    rfl
  obtain ⟨post, found, phase⟩ := Option.map_eq_some_iff.mp paused
  have alive : task.shutdown = false := by
    have member : task.shutdown ∈ engine.monitors.map (·.shutdown) :=
      List.mem_map_of_mem (List.mem_of_getElem? watches)
    rw [shutdowns] at member
    exact List.mem_singleton.mp member
  obtain ⟨attends, sleeps⟩ := attended alive 0 post found phase
  exact ⟨pipeline, running, notices, engine, past, post, task, prepared, launched, reached, found,
    phase, watches, alive, attends, rests, sleeps rests⟩

end Pipeline
end Sluice
