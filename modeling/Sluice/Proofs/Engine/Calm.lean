import Sluice.Proofs.Engine.Act

set_option autoImplicit false

/-! An engine whose surroundings neither pause nor interrupt a stage. No token fires before its stage
has finished, so no worker ever parks its stage, and the shared bus stays open. -/

namespace Sluice

namespace Worker

variable {now : Duration} {life : Lifecycle} {links : LinkStore} {bus : ReportBus} {worker : Worker}
  {stepped : WorkerStep}

private theorem nextRound_unparked (worker : Worker) : worker.nextRound ≠ .parking :=
  worker.nextRound_elim (· ≠ .parking) nofun nofun

private theorem afterReport_unparked (worker : Worker) : worker.afterReport ≠ .parking :=
  worker.afterReport_elim (· ≠ .parking) nofun nofun

theorem Stepped.reports (moved : worker.Stepped now life links bus stepped) :
    stepped.bus = bus ∨ stepped.bus = bus.publish worker.stage := by
  cases moved with
  | reported => exact Or.inr rfl
  | turned | paused | finished | fetching | missed | began | dispatched | refused | stored =>
      exact Or.inl rfl

theorem Stepped.calm (calm : life.Calm) (moved : worker.Stepped now life links bus stepped) :
    stepped.lifecycle.Calm := by
  cases moved with
  | paused => exact calm.pause
  | finished => exact Lifecycle.calm_finish
  | turned | reported | fetching | missed | began | dispatched | refused | stored => exact calm

theorem Stepped.unparked (calm : life.Calm) (moved : worker.Stepped now life links bus stepped) :
    stepped.worker.control ≠ .parking := by
  intro parking
  cases moved with
  | @turned next effects turns =>
      change next = .parking at parking
      generalize worker.control = control at turns
      cases turns with
      | interrupted pending =>
          rw [calm.uninterrupted] at pending
          cases pending
      | delivered => exact worker.nextRound_unparked parking
      | checked | passed | released | caught | asked | exhausted | broken | resumed | unreachable
        | rejected | outlasted | confessed => cases parking
  | @paused next pauses =>
      change next = .parking at parking
      generalize worker.control = control at pauses
      cases pauses <;> cases parking
  | @finished next notices finishes =>
      change next = .parking at parking
      generalize worker.control = control at finishes
      cases finishes <;> cases parking
  | reported => exact worker.afterReport_unparked parking
  | missed => exact worker.nextRound_unparked parking
  | @began _ _ _ fetched packet =>
      rcases @begin_control now { worker with input := fetched.input } packet with opens | calls
      · rw [opens] at parking
        cases parking
      · rw [calls] at parking
        cases parking
  | fetching | dispatched | refused | stored => cases parking

end Worker

/-- What surroundings may do that never ask for a pause: they neither pause nor interrupt a stage, and
they leave the shared bus open. -/
def Action.HandsOff : Action → Prop
  | .request _ asked => asked = .resume ∨ asked = .finish
  | .closeBus bus => bus ≠ Engine.sharedBus
  | _ => True

instance (action : Action) : Decidable action.HandsOff := by
  cases action <;> unfold Action.HandsOff <;> infer_instance

/-- No token of the stage fired before its end, and its worker is not about to park it. -/
structure Post.Calm (post : Post) : Prop where
  life : post.stage.lifecycle.Calm
  unparked : ∀ worker, post.slot = .spawned worker → worker.control ≠ .parking

theorem Post.Calm.setLifecycle {post : Post} {life : Lifecycle} (calm : post.Calm)
    (lifeCalm : life.Calm) : (post.setLifecycle life).Calm :=
  ⟨lifeCalm, calm.unparked⟩

namespace Engine

structure Calm (engine : Engine) : Prop where
  present : sharedBus < engine.buses.length
  sound : (engine.busAt sharedBus).Sound
  unclosed : (engine.busAt sharedBus).closed = false
  posts : ∀ (stage : StageId) (post : Post), engine.posts[stage]? = some post → post.Calm

variable {engine next : Engine} {stage : StageId} {post : Post} {worker : Worker}
  {asked : LifecycleRequest}

theorem Calm.withBus {bus : BusId} {held : ReportBus} (calm : engine.Calm)
    (sound : bus = sharedBus → held.Sound) (unclosed : bus = sharedBus → held.closed = false) :
    (engine.withBus bus held).Calm := by
  by_cases shared : bus = sharedBus
  · subst shared
    refine ⟨?_, ?_, ?_, calm.posts⟩
    · rw [length_withBus]
      exact calm.present
    · rw [busAt_withBus calm.present]
      exact sound rfl
    · rw [busAt_withBus calm.present]
      exact unclosed rfl
  · refine ⟨?_, ?_, ?_, calm.posts⟩
    · rw [length_withBus]
      exact calm.present
    · rw [busAt_withBus_other shared]
      exact calm.sound
    · rw [busAt_withBus_other shared]
      exact calm.unclosed

theorem Calm.withPost {after : Post} (calm : engine.Calm) (quiet : after.Calm) :
    (engine.withPost stage after).Calm := by
  refine ⟨calm.present, calm.sound, calm.unclosed, ?_⟩
  intro other present found
  by_cases here : stage = other
  · subst here
    have bound := (List.getElem?_eq_some_iff.mp found).1
    rw [length_withPost] at bound
    rw [post_withPost (List.getElem?_eq_getElem bound)] at found
    cases found
    exact quiet
  · rw [post_withPost_other here] at found
    exact calm.posts other present found

theorem Calm.same (calm : engine.Calm) (posts : next.posts = engine.posts)
    (buses : next.buses = engine.buses) : next.Calm := by
  have bus : next.busAt sharedBus = engine.busAt sharedBus := by
    unfold busAt
    rw [buses]
  refine ⟨?_, ?_, ?_, ?_⟩
  · rw [buses]
    exact calm.present
  · rw [bus]
    exact calm.sound
  · rw [bus]
    exact calm.unclosed
  · rw [posts]
    exact calm.posts

private theorem Calm.withLifecycles {lives : Lifecycles} (calm : engine.Calm)
    (quiet : ∀ (stage : StageId) (moved : Post),
      (engine.withLifecycles lives).posts[stage]? = some moved → moved.Calm) :
    (engine.withLifecycles lives).Calm :=
  ⟨calm.present, calm.sound, calm.unclosed, quiet⟩

private theorem request_calm {life : Lifecycle} (calm : life.Calm) (allows : asked ≠ .interrupt) :
    (life.request asked).1.Calm := by
  cases asked with
  | pause => exact calm.pause
  | resume => exact calm.resume
  | finish => exact Lifecycle.calm_finish
  | interrupt => exact absurd rfl allows

theorem Calm.request (calm : engine.Calm) (allows : asked ≠ .interrupt) :
    (engine.withLifecycles (engine.lifecycles.request stage asked).1).Calm := by
  apply calm.withLifecycles
  intro other moved found
  obtain ⟨post, original, ⟨_, same⟩ | ⟨_, same⟩⟩ := post_requested found
  · subst same
    have before := calm.posts other post original
    exact before.setLifecycle (request_calm before.life allows)
  · subst same
    exact calm.posts other moved original

theorem Calm.sweep (calm : engine.Calm) (allows : asked ≠ .interrupt) :
    (engine.withLifecycles (Lifecycles.sweep asked [stage] engine.lifecycles).1).Calm := by
  apply calm.withLifecycles
  intro other moved found
  obtain ⟨post, original, ⟨_, _, same⟩ | ⟨_, same⟩⟩ := post_swept found
  · subst same
    have before := calm.posts other post original
    exact before.setLifecycle (request_calm before.life allows)
  · subst same
    exact calm.posts other moved original

theorem Calm.finishAll (calm : engine.Calm) : engine.finishAll.1.Calm := by
  apply calm.withLifecycles
  intro stage moved found
  obtain ⟨post, original, same⟩ := post_finishAll found
  rw [same]
  exact (calm.posts stage post original).setLifecycle Lifecycle.calm_finish

theorem Calm.afterWorker {stepped : WorkerStep} (calm : engine.Calm)
    (found : engine.posts[stage]? = some post)
    (step : worker.Stepped engine.clock post.stage.lifecycle engine.links
      (engine.busAt sharedBus) stepped) : (engine.afterWorker stage post stepped).Calm := by
  have before := calm.posts stage post found
  have moved : Post.Calm { post.setLifecycle stepped.lifecycle with slot := .spawned stepped.worker } := by
    refine ⟨step.calm before.life, ?_⟩
    intro worker same
    cases same
    exact step.unparked before.life
  have bus : stepped.bus.Sound ∧ stepped.bus.closed = false := by
    rcases step.reports with same | published
    · rw [same]
      exact ⟨calm.sound, calm.unclosed⟩
    · rw [published]
      exact ⟨calm.sound.publish, ReportBus.closed_publish.trans calm.unclosed⟩
  have written : Calm ((engine.withPost stage
      { post.setLifecycle stepped.lifecycle with slot := .spawned stepped.worker }).withBus sharedBus
        stepped.bus) := (calm.withPost moved).withBus (fun _ => bus.1) (fun _ => bus.2)
  exact written.same rfl rfl

theorem Calm.reactTo (calm : engine.Calm) : (engine.reactTo stage).1.Calm := by
  rcases @reactTo_cases engine stage with same | same | ⟨post, worker, found, runs, same⟩
  · rw [same]
    exact calm
  · rw [same]
    exact calm.finishAll
  · rw [same]
    apply calm.withPost
    refine ⟨(calm.posts stage post found).life, ?_⟩
    intro other same
    cases same
    intro impossible
    cases impossible

private theorem told_unparked {now : Duration} {action : Action} {control next : Control}
    (told : Told now stage action control next) : next ≠ .parking := by
  intro parking
  cases told <;> cases parking

theorem Calm.afterMonitor {index : Nat} {task : MonitorTask} {stepped : MonitorStep}
    (calm : engine.Calm) (step : task.monitor.Stepped engine.clock task.shutdown engine.lifecycles
      (engine.busAt task.bus) stepped) : (engine.afterMonitor index task stepped).Calm := by
  have lives : (engine.withLifecycles stepped.lifecycles).Calm := by
    cases step with
    | paused => exact calm.sweep (by intro impossible; cases impossible)
    | resumed => exact calm.sweep (by intro impossible; cases impossible)
    | dismissed | orphaned | lagged | alarmed | slept | woke | absorbed | drained | recovered =>
        change (engine.withLifecycles engine.lifecycles).Calm
        rw [withLifecycles_same]
        exact calm
  have bus : task.bus = sharedBus → stepped.bus.Sound ∧ stepped.bus.closed = false := by
    intro shared
    rw [shared] at step
    cases step with
    | lagged control received | alarmed control received | absorbed control received =>
        exact ⟨calm.sound.received received, (ReportBus.closed_received received).trans calm.unclosed⟩
    | dismissed | orphaned | paused | slept | woke | drained | resumed | recovered =>
        exact ⟨calm.sound, calm.unclosed⟩
  have written : Calm ((engine.withLifecycles stepped.lifecycles).withBus task.bus stepped.bus) :=
    lives.withBus (fun shared => (bus shared).1) (fun shared => (bus shared).2)
  exact written.same rfl rfl

theorem Calm.acted {action : Action} {effects : List Effect} (calm : engine.Calm)
    (allows : action.HandsOff) (acted : engine.Acted action next effects) : next.Calm := by
  cases acted with
  | worked found runs step => exact calm.afterWorker found step
  | collapsed found runs step => exact (calm.afterWorker found step).reactTo
  | supervised found step => exact calm.afterMonitor step
  | @requested stage asked =>
      apply calm.request
      intro interrupts
      subst interrupts
      rcases allows with impossible | impossible <;> cases impossible
  | told found runs told =>
      apply calm.withPost
      refine ⟨(calm.posts _ _ found).life, ?_⟩
      intro other same
      cases same
      exact told_unparked told
  | published =>
      apply calm.withBus
      · intro shared
        subst shared
        exact calm.sound.publish
      · intro shared
        subst shared
        exact ReportBus.closed_publish.trans calm.unclosed
  | closed =>
      apply calm.withBus
      · intro shared
        exact absurd shared allows
      · intro shared
        exact absurd shared allows
  | awaited | closing | joined | put | took | stopped | elapsed => exact calm.same rfl rfl

end Engine
end Sluice
