import Sluice.Proofs.Pipeline.Assembly
import Sluice.Proofs.Pipeline.Supervision

set_option autoImplicit false

/-! Requests take hold within one call: whatever happens after a stage was paused, interrupted or finished,
its worker begins one call at most until a pause of the stage ends, and after a finish no pause ends. -/

namespace Sluice
namespace Engine

/-- The stage follows a request, whoever makes it: the surroundings, the monitor, the worker itself, or
the reaction to a failure. -/
def Follows (stage : StageId) (asked : LifecycleRequest) (engine next : Engine) : Prop :=
  ∃ post moved, engine.posts[stage]? = some post ∧ next.posts[stage]? = some moved ∧
    moved.stage.lifecycle = (post.stage.lifecycle.request asked).1

def Restarts (stage : StageId) (engine : Engine) (action : Action) : Prop :=
  ∃ post next effects moved, engine.posts[stage]? = some post ∧
    engine.act action = some (next, effects) ∧ next.posts[stage]? = some moved ∧
    post.stage.lifecycle.phase = .paused ∧ moved.stage.lifecycle.phase = .running

/-- A halted stage whose worker may still begin so many calls. -/
def Spares (engine : Engine) (stage : StageId) (calls : Nat) : Prop :=
  ∃ post, engine.posts[stage]? = some post ∧ post.stage.lifecycle.Halted ∧
    ∀ worker, post.slot = .spawned worker → worker.allowance post.stage.lifecycle ≤ calls

variable {engine next first last : Engine} {stage : StageId} {action : Action}
  {effects : List Effect} {past later : List Occurrence} {post moved : Post} {calls : Nat}
  {asked : LifecycleRequest}

private theorem uncalled_told {now : Duration} {control after : Control} {life : Lifecycle}
    {worker : Worker} (told : Told now stage action control after) :
    Worker.allowance life { worker with control := after } = 0 := by
  cases told <;> rfl

private theorem allowance_rested {worker : Worker} {life before : Lifecycle}
    (runs : life.phase = .running → before.phase = .running) :
    worker.allowance life ≤ worker.allowance before := by
  unfold Worker.allowance
  cases worker.control with
  | gated =>
      by_cases running : life.phase = .running
      · simp only [running, runs running]
        exact Nat.le_refl _
      · simp only [running]
        exact Nat.zero_le _
  | checking | parking | passing | fetching | calling | opening | answered | reading | delivering
    | failed | withdrawing | reporting | lingering | failing | condemned | stopping | ended
    | crashed => exact Nat.le_refl _

private theorem Befalls.spares (halted : post.stage.lifecycle.Halted)
    (befalls : engine.Befalls stage post action effects moved)
    (stays : ¬ (post.stage.lifecycle.phase = .paused ∧ moved.stage.lifecycle.phase = .running))
    (within : ∀ worker, post.slot = .spawned worker →
      worker.allowance post.stage.lifecycle ≤ calls) :
    moved.stage.lifecycle.Halted ∧ ∃ left,
      ((Occurrence.of stage { action := action, effects := effects }).filterMap
        Effect.called?).length + left ≤ calls ∧
      ∀ worker, moved.slot = .spawned worker → worker.allowance moved.stage.lifecycle ≤ left := by
  cases befalls with
  | @rested action effects life asked rests =>
      obtain ⟨still, runs⟩ := asked.halted halted stays
      refine ⟨still, calls, ?_, ?_⟩
      · rw [of_other rests]
        exact Nat.le_of_eq (Nat.zero_add calls)
      · intro worker spawned
        exact Nat.le_trans (allowance_rested runs) (within worker spawned)
  | @worked cancelFirst worker stepped runs step =>
      refine ⟨(step.asked.halted halted stays).1, stepped.worker.allowance stepped.lifecycle, ?_, ?_⟩
      · rw [of_worker]
        exact Nat.le_trans (step.allowance halted) (within worker runs)
      · intro other same
        cases same
        exact Nat.le_refl _
  | @failed cancelFirst worker error effects life next runs control asked ends silent =>
      refine ⟨(asked.halted halted stays).1, 0, ?_, ?_⟩
      · rw [of_worker, Effect.called_silent silent]
        exact Nat.zero_le calls
      · intro other same
        cases same
        rcases ends with condemned | ⟨crashed, _⟩
        · subst condemned
          exact Nat.le_refl 0
        · subst crashed
          exact Nat.le_refl 0
  | @told action worker next runs told =>
      refine ⟨halted, 0, ?_, ?_⟩
      · have elsewhere : ∀ cancelFirst, action ≠ .worker stage cancelFirst :=
          fun _ => told.not_worker
        rw [of_other elsewhere]
        exact Nat.zero_le calls
      · intro other same
        cases same
        exact Nat.le_of_eq (uncalled_told told)

private theorem Spares.acted (spares : engine.Spares stage calls)
    (stays : ¬ engine.Restarts stage action) (acts : engine.act action = some (next, effects)) :
    ∃ left, next.Spares stage left ∧
      ((Occurrence.of stage { action := action, effects := effects }).filterMap
        Effect.called?).length + left ≤ calls := by
  obtain ⟨post, found, halted, within⟩ := spares
  obtain ⟨moved, there, befalls⟩ := (act_acted acts).onward found
  obtain ⟨still, left, counts, allows⟩ := befalls.spares halted
    (fun restart => stays ⟨post, next, effects, moved, found, acts, there, restart⟩) within
  exact ⟨left, ⟨moved, there, still, allows⟩, counts⟩

theorem Spares.reached (spares : first.Spares stage calls)
    (reached : Reaches (fun held action => ¬ held.Restarts stage action) first last later) :
    ∃ left, last.Spares stage left ∧ (callsOf stage later).length + left ≤ calls := by
  induction reached with
  | started => exact ⟨calls, spares, Nat.le_of_eq (Nat.zero_add calls)⟩
  | acted before stays acts ih =>
      obtain ⟨held, still, counts⟩ := ih
      obtain ⟨left, further, more⟩ := still.acted stays acts
      refine ⟨left, further, ?_⟩
      rw [callsOf_append, List.length_append]
      omega
  | joined before ih =>
      obtain ⟨left, still, counts⟩ := ih
      exact ⟨left, still, counts⟩

theorem follows_request (found : engine.posts[stage]? = some post)
    (acts : engine.act (.request stage asked) = some (next, effects)) :
    Follows stage asked engine next := by
  obtain ⟨moved, there, _⟩ := (act_acted acts).onward found
  cases acts
  obtain ⟨earlier, original, ⟨_, same⟩ | ⟨apart, _⟩⟩ := post_requested there
  · cases found.symm.trans original
    refine ⟨post, moved, found, there, ?_⟩
    rw [same]
    rfl
  · exact absurd rfl apart

/-- From here on the stage's worker begins one call at most before a pause of the stage ends. -/
def OneCallUntilRestart (engine : Engine) (stage : StageId) : Prop :=
  ∀ last later, Reaches (fun held action => ¬ held.Restarts stage action) engine last later →
    (callsOf stage later).length ≤ 1

/-- From here on the stage's worker begins one call at most, and no pause of the stage ends. -/
def Retires (engine : Engine) (stage : StageId) : Prop :=
  ∀ last later, Reaches (fun _ _ => True) engine last later →
    (callsOf stage later).length ≤ 1 ∧ ∀ action, ¬ last.Restarts stage action

theorem oneCall_of_halted (found : engine.posts[stage]? = some post)
    (halted : post.stage.lifecycle.Halted) : engine.OneCallUntilRestart stage := by
  have spares : engine.Spares stage 1 := ⟨post, found, halted, fun _ _ => Worker.allowance_le_one⟩
  intro last later reached
  obtain ⟨left, _, counts⟩ := spares.reached reached
  omega

private theorem unstarted_of_closed (found : engine.posts[stage]? = some post)
    (closed : post.stage.lifecycle.Closed) : ¬ engine.Restarts stage action := by
  rintro ⟨again, next, effects, moved, original, _, _, paused, _⟩
  cases found.symm.trans original
  cases closed.finished.symm.trans paused

theorem retires_of_closed (found : engine.posts[stage]? = some post)
    (closed : post.stage.lifecycle.Closed) : engine.Retires stage := by
  intro last later reached
  have heeded : Reaches (fun held action => ¬ held.Restarts stage action) engine last later := by
    induction reached with
    | started => exact .started
    | acted before allows acts ih =>
        obtain ⟨earlier, original, kept⟩ := before.closed found closed
        exact ih.acted (unstarted_of_closed original kept) acts
    | joined before ih => exact ih.joined
  obtain ⟨moved, there, still⟩ := reached.closed found closed
  have heeds := oneCall_of_halted found (Or.inr closed.fired) last later heeded
  exact ⟨heeds, fun action => unstarted_of_closed there still⟩

end Engine

namespace Pipeline

variable {topology : Topology} {connector : Connector} {options : EngineOptions}
  {onFatal : FatalReaction} {pipeline : Pipeline} {running : Running} {notices : List Notice}
  {engine : Engine} {past : List Engine.Occurrence} {stage : StageId}

/-- At every point of every run: a stage that is paused, finished or about to be paused by an interrupt
begins one call at most before a pause of it ends; a pause, an interrupt and a finish, whoever asks for
them, leave a stage so; and after a finish no pause ends, so one call at most is left for good. -/
theorem requests_heeded (assembled : Assembled topology connector options onFatal pipeline)
    (started : pipeline.run = .ok (running, notices))
    (reached : Engine.Reaches (fun _ _ => True) running.engine engine past) :
    (∀ post, engine.posts[stage]? = some post → post.stage.lifecycle.Halted →
      engine.OneCallUntilRestart stage) ∧
    ∀ action next effects asked, engine.act action = some (next, effects) →
      Engine.Follows stage asked engine next →
        (asked ≠ .resume → next.OneCallUntilRestart stage) ∧ (asked = .finish → next.Retires stage) := by
  have staffed : engine.Staffed onFatal :=
    (staffed_started assembled.dormant (run_launched started)).reached reached
  constructor
  · intro post found halted
    exact Engine.oneCall_of_halted found halted
  · rintro action next effects asked acts ⟨post, moved, found, there, same⟩
    have sound := (staffed.posts stage post found).lawful.sound
    constructor
    · intro halts
      apply Engine.oneCall_of_halted there
      rw [same]
      exact Lifecycle.halted_request sound halts
    · intro finishes
      subst finishes
      apply Engine.retires_of_closed there
      rw [same]
      exact Lifecycle.closed_finish sound

/-- The interrupt comes when the worker is past the gate, so its call still begins. -/
theorem requests_heeded_late :
    ∃ pipeline running notices engine past next effects last later,
      Assembled Outage.lone (fun _ => .ok .standard) Outage.narrow .note pipeline ∧
      pipeline.run = .ok (running, notices) ∧
      Engine.Reaches (fun _ _ => True) running.engine engine past ∧
      engine.act (.request 0 .interrupt) = some (next, effects) ∧
      Engine.Follows 0 .interrupt engine next ∧ next.OneCallUntilRestart 0 ∧
      Engine.Reaches (fun held action => ¬ held.Restarts 0 action) next last later ∧
      (Engine.callsOf 0 later).length = 1 := by
  have outcome : ((build Outage.lone (fun _ => .ok .standard) Outage.narrow .note).toOption.bind
      fun pipeline => pipeline.run.toOption.bind
        fun started => (Engine.perform (List.replicate 3 (.worker 0 false)) started.1.engine).bind
          fun fetching => (fetching.1.act (.request 0 .interrupt)).bind
            fun interrupted => (interrupted.1.act (.worker 0 false)).map
              fun called => (interrupted.1.posts.map (·.stage.lifecycle.phase),
                fetching.1.posts.length, (called.2.filterMap Effect.called?).length)) =
      some ([.running], 1, 1) := by decide
  obtain ⟨pipeline, made, ran⟩ := Option.bind_eq_some_iff.mp outcome
  obtain ⟨⟨running, notices⟩, started, performs⟩ := Option.bind_eq_some_iff.mp ran
  obtain ⟨⟨engine, past⟩, performed, interrupts⟩ := Option.bind_eq_some_iff.mp performs
  obtain ⟨⟨next, effects⟩, interrupted, calls⟩ := Option.bind_eq_some_iff.mp interrupts
  obtain ⟨⟨last, called⟩, begins, seen⟩ := Option.map_eq_some_iff.mp calls
  have assembled := Assembled.built (ok_of_toOption made)
  have launched := ok_of_toOption started
  have reached : Engine.Reaches (fun _ _ => True) running.engine engine past :=
    Engine.reaches_perform .started (fun _ _ _ => trivial) performed
  have phases : next.posts.map (·.stage.lifecycle.phase) = [.running] := congrArg Prod.fst seen
  have stages : engine.posts.length = 1 := congrArg (·.2.1) seen
  have counted : (called.filterMap Effect.called?).length = 1 := congrArg (·.2.2) seen
  have runs : ¬ next.Restarts 0 (.worker 0 false) := by
    rintro ⟨post, _, _, _, found, _, _, paused, _⟩
    have phase : (next.posts.map (·.stage.lifecycle.phase))[0]? = some post.stage.lifecycle.phase := by
      rw [List.getElem?_map, found]
      rfl
    rw [phases, paused] at phase
    cases phase
  have found : engine.posts[0]? = some engine.posts[0] := List.getElem?_eq_getElem (by omega)
  have follows := Engine.follows_request found interrupted
  have heeds := ((requests_heeded assembled launched reached).2 _ next effects .interrupt interrupted
    follows).1 (by decide)
  refine ⟨pipeline, running, notices, engine, past, next, effects, last, _, assembled, launched,
    reached, interrupted, follows, heeds, Engine.Reaches.started.acted runs begins, ?_⟩
  rw [Engine.callsOf_append, Engine.of_worker]
  exact counted

end Pipeline
end Sluice
