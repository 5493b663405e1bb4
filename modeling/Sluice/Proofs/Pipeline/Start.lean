import Sluice.Pipeline
import Sluice.Proofs.Engine.Posts
import Sluice.Proofs.Stage.Bindings

set_option autoImplicit false

/-! The state in which a pipeline starts: every stage has a worker at the top of its loop, made from the
bindings of the stage, and the monitor is subscribed behind all reports so far. -/

namespace Sluice
namespace Pipeline

variable {engine next moved : Engine} {stage : StageId} {stages : List StageId}

theorem ok_of_toOption {ε α : Type} {result : Except ε α} {value : α}
    (known : result.toOption = some value) : result = .ok value := by
  cases result with
  | error => cases known
  | ok => exact congrArg Except.ok (Option.some.inj known)

/-- Posts of the listed stages were changed, the others and all else are as before. -/
structure Touched (change : Post → Post → Prop) (stages : List StageId) (engine moved : Engine) :
    Prop where
  same : ∃ posts, posts.length = engine.posts.length ∧ moved = { engine with posts := posts }
  listed : ∀ stage ∈ stages, ∀ before, engine.posts[stage]? = some before →
    ∃ after, change before after ∧ moved.posts[stage]? = some after
  unlisted : ∀ stage, stage ∉ stages → moved.posts[stage]? = engine.posts[stage]?

namespace Touched

variable {change : Post → Post → Prop}

private theorem nothing : Touched change [] engine engine :=
  ⟨⟨engine.posts, rfl, rfl⟩, fun _ impossible => absurd impossible List.not_mem_nil, fun _ _ => rfl⟩

private theorem absent (missing : engine.posts[stage]? = none) :
    Touched change [stage] engine engine := by
  refine ⟨⟨engine.posts, rfl, rfl⟩, ?_, fun _ _ => rfl⟩
  intro other listed before found
  cases List.mem_singleton.mp listed
  rw [missing] at found
  cases found

private theorem withPost {before after : Post} (found : engine.posts[stage]? = some before)
    (changed : change before after) : Touched change [stage] engine (engine.withPost stage after) := by
  refine ⟨⟨_, List.length_set, rfl⟩, ?_, ?_⟩
  · intro other listed known atOther
    cases List.mem_singleton.mp listed
    cases found.symm.trans atOther
    exact ⟨after, changed, Engine.post_withPost found⟩
  · intro other apart
    exact Engine.post_withPost_other fun equal => apart (List.mem_singleton.mpr equal.symm)

private theorem left {before : Post} (found : engine.posts[stage]? = some before)
    (unchanged : change before before) : Touched change [stage] engine engine := by
  refine ⟨⟨engine.posts, rfl, rfl⟩, ?_, fun _ _ => rfl⟩
  intro other listed known atOther
  cases List.mem_singleton.mp listed
  cases found.symm.trans atOther
  exact ⟨before, unchanged, found⟩

private theorem cons (fresh : stage ∉ stages) (first : Touched change [stage] engine next)
    (rest : Touched change stages next moved) : Touched change (stage :: stages) engine moved := by
  obtain ⟨posts, length, sameNext⟩ := first.same
  obtain ⟨later, laterLength, sameMoved⟩ := rest.same
  refine ⟨⟨later, ?_, ?_⟩, ?_, ?_⟩
  · rw [laterLength, sameNext]
    exact length
  · rw [sameMoved, sameNext]
  · intro other listed before found
    by_cases here : other = stage
    · subst here
      obtain ⟨after, changed, atNext⟩ := first.listed other (List.mem_singleton_self other) before found
      exact ⟨after, changed, (rest.unlisted other fresh).trans atNext⟩
    · have untouched := first.unlisted other fun single => here (List.mem_singleton.mp single)
      rcases List.mem_cons.mp listed with equal | inRest
      · exact absurd equal here
      · exact rest.listed other inRest before (untouched.trans found)
  · intro other absent
    have here : other ≠ stage := fun equal => absent (equal ▸ List.mem_cons_self)
    have inRest : other ∉ stages := fun later => absent (List.mem_cons_of_mem _ later)
    have untouched := first.unlisted other fun single => here (List.mem_singleton.mp single)
    exact (rest.unlisted other inRest).trans untouched

end Touched

def Readied (before after : Post) : Prop :=
  ∃ held worker, before.stage.bindings = some held ∧ before.stage.workerOf held = .ok worker ∧
    after = { stage := { before.stage with bindings := none }, slot := .ready worker }

def Spawned (before after : Post) : Prop :=
  ∀ worker, before.slot = .ready worker → after = { before with slot := .spawned worker }

private theorem materialize_touched {worker : Worker}
    (made : engine.materialize stage = some (moved, .ok worker)) :
    Touched Readied [stage] engine moved := by
  unfold Engine.materialize at made
  cases found : engine.posts[stage]? with
  | none =>
      rw [found] at made
      cases made
  | some post =>
      simp only [found, Stage.materialize] at made
      cases bound : post.stage.bindings with
      | none =>
          rw [bound] at made
          cases made
      | some held =>
          cases works : post.stage.workerOf held with
          | error =>
              simp only [bound, works] at made
              cases made
          | ok fresh =>
              simp only [bound, works] at made
              cases made
              exact .withPost found ⟨held, worker, bound, works, rfl⟩

private theorem materialize_none (made : engine.materialize stage = none) :
    engine.posts[stage]? = none := by
  unfold Engine.materialize at made
  cases found : engine.posts[stage]? with
  | none => rfl
  | some post =>
      simp only [found] at made
      split at made <;> cases made

private theorem materializeAll_touched (unique : stages.Nodup)
    (made : materializeAll stages engine = (moved, .ok ())) :
    Touched Readied stages engine moved := by
  induction stages generalizing engine with
  | nil =>
      cases made
      exact .nothing
  | cons first rest ih =>
      obtain ⟨fresh, uniqueRest⟩ := List.nodup_cons.mp unique
      simp only [materializeAll] at made
      cases step : engine.materialize first with
      | none =>
          simp only [step] at made
          exact .cons fresh (.absent (materialize_none step)) (ih uniqueRest made)
      | some result =>
          obtain ⟨next, outcome⟩ := result
          cases outcome with
          | error error =>
              simp only [step] at made
              cases made
          | ok worker =>
              simp only [step] at made
              exact .cons fresh (materialize_touched step) (ih uniqueRest made)

private theorem spawn_touched :
    Touched Spawned [stage] engine
      (match engine.spawn stage with
        | none => engine
        | some spawned => spawned.1) := by
  unfold Engine.spawn
  cases found : engine.posts[stage]? with
  | none => exact .absent found
  | some post =>
      cases slot : post.slot with
      | ready worker =>
          simp only [slot]
          refine .withPost found ?_
          intro other ready
          rw [slot] at ready
          cases ready
          rfl
      | absent | spawned =>
          simp only [slot]
          refine .left found ?_
          intro other ready
          rw [slot] at ready
          cases ready

private theorem spawnAll_touched (unique : stages.Nodup) :
    Touched Spawned stages engine (spawnAll stages engine).1 := by
  induction stages generalizing engine with
  | nil => exact .nothing
  | cons first rest ih =>
      obtain ⟨fresh, uniqueRest⟩ := List.nodup_cons.mp unique
      have touched := @spawn_touched engine first
      simp only [spawnAll]
      cases step : engine.spawn first with
      | none =>
          rw [step] at touched
          exact .cons fresh touched (ih uniqueRest)
      | some spawned =>
          rw [step] at touched
          exact .cons fresh touched (ih uniqueRest)

structure Launched (pipeline : Pipeline) (running : Running) : Prop where
  posts : ∀ (stage : StageId) (post : Post), running.engine.posts[stage]? = some post →
    ∃ built : Post, ∃ held worker, pipeline.engine.posts[stage]? = some built ∧
      built.stage.bindings = some held ∧ built.stage.workerOf held = .ok worker ∧
      post = { stage := { built.stage with bindings := none }, slot := .spawned worker }
  length : running.engine.posts.length = pipeline.engine.posts.length
  links : running.engine.links = pipeline.engine.links
  buses : running.engine.buses = (pipeline.engine.withBus Engine.sharedBus
    (pipeline.engine.busAt Engine.sharedBus).subscribe).buses
  monitors : running.engine.monitors = pipeline.engine.monitors ++
    [{ monitor := .create (List.range pipeline.engine.posts.length) pipeline.backoff
         (pipeline.engine.busAt Engine.sharedBus).nextSubscriber
       bus := Engine.sharedBus, shutdown := false }]
  monitor : running.monitor = pipeline.engine.monitors.length
  reaction : running.engine.onFatal = pipeline.engine.onFatal

theorem run_launched {pipeline : Pipeline} {running : Running} {notices : List Notice}
    (started : pipeline.run = .ok (running, notices)) : pipeline.Launched running := by
  have unique : pipeline.engine.allStages.Nodup := List.nodup_range
  unfold run at started
  rcases made : materializeAll pipeline.engine.allStages pipeline.engine with ⟨ready, outcome⟩
  cases outcome with
  | error error =>
      simp only [made] at started
      cases started
  | ok done =>
      have readied := materializeAll_touched unique made
      obtain ⟨posts, length, same⟩ := readied.same
      subst same
      simp only [made] at started
      cases started
      have spawned := @spawnAll_touched
        (({ pipeline.engine with posts := posts } : Engine).spawnMonitor pipeline.engine.allStages
          pipeline.backoff Engine.sharedBus) _ unique
      obtain ⟨later, laterLength, sameLater⟩ := spawned.same
      refine ⟨?_, ?_, ?_, ?_, ?_, rfl, ?_⟩
      · intro stage post found
        have bound : stage < pipeline.engine.posts.length := by
          have known := (List.getElem?_eq_some_iff.mp found).1
          simp only [sameLater] at known
          rw [laterLength] at known
          exact Nat.lt_of_lt_of_eq known length
        have listed : stage ∈ pipeline.engine.allStages := List.mem_range.mpr bound
        obtain ⟨middle, ⟨held, worker, bindings, works, same⟩, atMiddle⟩ :=
          readied.listed stage listed _ (List.getElem?_eq_getElem bound)
        obtain ⟨last, runs, atLast⟩ := spawned.listed stage listed middle atMiddle
        refine ⟨_, held, worker, List.getElem?_eq_getElem bound, bindings, works, ?_⟩
        have sameLast := runs worker (by rw [same])
        cases found.symm.trans atLast
        rw [sameLast, same]
      · simp only [sameLater]
        exact laterLength.trans length
      · simp only [sameLater]
        rfl
      · simp only [sameLater]
        rfl
      · simp only [sameLater]
        rfl
      · simp only [sameLater]
        rfl

/-- The monitor has subscribed before any worker runs. -/
theorem Launched.bus {pipeline : Pipeline} {running : Running} (launched : pipeline.Launched running)
    (present : Engine.sharedBus < pipeline.engine.buses.length) :
    running.engine.busAt Engine.sharedBus =
      (pipeline.engine.busAt Engine.sharedBus).subscribe := by
  have same : running.engine.busAt Engine.sharedBus =
      (pipeline.engine.withBus Engine.sharedBus
        (pipeline.engine.busAt Engine.sharedBus).subscribe).busAt Engine.sharedBus := by
    unfold Engine.busAt
    rw [launched.buses]
    rfl
  exact same.trans (Engine.busAt_withBus present)

end Pipeline
end Sluice
