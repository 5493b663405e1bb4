import Sluice.Proofs.Worker.Carrying

set_option autoImplicit false

/-! What one action of an engine means for a single stage: its lifecycle is asked for something at most
once while its worker rests, its worker takes a step of its own, its worker fails for good, or its worker
hears from the remote service. -/

namespace Sluice

theorem Told.not_worker {now : Duration} {stage other : StageId} {action : Action}
    {control after : Control} {cancelFirst : Bool} (told : Told now stage action control after) :
    action ≠ .worker other cancelFirst := by
  intro working
  cases told with
  | answered | rejected | opened | unopened => cases working
  | heard news | overheard news =>
      rw [working] at news
      cases news

namespace Engine

/-- What an action makes of a stage's post. -/
inductive Befalls (engine : Engine) (stage : StageId) (post : Post) :
    Action → List Effect → Post → Prop
  | rested {action : Action} {effects : List Effect} {life : Lifecycle}
      (asked : post.stage.lifecycle.Asked life)
      (rests : ∀ cancelFirst, action ≠ .worker stage cancelFirst) :
      Befalls engine stage post action effects (post.setLifecycle life)
  | worked {cancelFirst : Bool} {worker : Worker} {stepped : WorkerStep}
      (runs : post.slot = .spawned worker)
      (step : worker.Stepped engine.clock post.stage.lifecycle engine.links
        (engine.busAt sharedBus) stepped) :
      Befalls engine stage post (.worker stage cancelFirst) stepped.effects
        { post.setLifecycle stepped.lifecycle with slot := .spawned stepped.worker }
  | failed {cancelFirst : Bool} {worker : Worker} {error : StageError} {effects : List Effect}
      {life : Lifecycle} {next : Control} (runs : post.slot = .spawned worker)
      (control : worker.control = .failing error) (asked : post.stage.lifecycle.Asked life)
      (ends : next = .condemned ∨ next = .crashed ∧ engine.onFatal = .crash)
      (silent : ∀ effect ∈ effects, effect.Silent) :
      Befalls engine stage post (.worker stage cancelFirst) effects
        { post.setLifecycle life with slot := .spawned { worker with control := next } }
  | told {action : Action} {worker : Worker} {next : Control} (runs : post.slot = .spawned worker)
      (told : Told engine.clock stage action worker.control next) :
      Befalls engine stage post action []
        { post with slot := .spawned { worker with control := next } }

variable {engine next : Engine} {action : Action} {effects : List Effect} {stage other : StageId}
  {post moved : Post} {cancelFirst : Bool} {link : LinkId} {packet : Packet}

theorem notices_reactTo (engine : Engine) (stage : StageId) :
    ∃ notices, (engine.reactTo stage).2 = Effect.ofNotices notices := by
  rcases @reactTo_cases engine stage with same | same | ⟨_, _, _, _, same⟩
  · exact ⟨[], congrArg Prod.snd same⟩
  · exact ⟨_, congrArg Prod.snd same⟩
  · exact ⟨[], congrArg Prod.snd same⟩

private theorem silent_reactTo : ∀ effect ∈ (engine.reactTo stage).2, effect.Silent := by
  obtain ⟨notices, noted⟩ := notices_reactTo engine stage
  rw [noted]
  exact fun _ => Effect.silent_ofNotices

private theorem befalls_kept (rests : ∀ cancelFirst, action ≠ .worker stage cancelFirst) :
    engine.Befalls stage post action effects post :=
  @Befalls.rested engine stage post action effects _ .left rests

private theorem befalls_withLifecycles {lives : Lifecycles}
    (asked : ∀ life changed : Lifecycle, engine.lifecycles[stage]? = some life →
      lives[stage]? = some changed → life.Asked changed)
    (rests : ∀ cancelFirst, action ≠ .worker stage cancelFirst)
    (found : (engine.withLifecycles lives).posts[stage]? = some moved) :
    ∃ post, engine.posts[stage]? = some post ∧ engine.Befalls stage post action effects moved := by
  obtain ⟨post, life, original, changed, same⟩ := post_withLifecycles found
  subst same
  exact ⟨post, original, .rested (asked _ _ (lifecycle_of_post original) changed) rests⟩

theorem asked_request {asked : LifecycleRequest} {life changed : Lifecycle}
    (before : engine.lifecycles[other]? = some life)
    (after : (engine.lifecycles.request stage asked).1[other]? = some changed) :
    life.Asked changed := by
  by_cases here : stage = other
  · subst here
    rw [Lifecycles.request_same, before] at after
    cases after
    exact .asked asked
  · rw [Lifecycles.request_other here, before] at after
    cases after
    exact .left

private theorem asked_monitored {now : Duration} {shutdown : Bool}
    {bus : ReportBus} {monitor : Monitor} {stepped : MonitorStep}
    (step : monitor.Stepped now shutdown engine.lifecycles bus stepped)
    {life changed : Lifecycle} (before : engine.lifecycles[stage]? = some life)
    (after : stepped.lifecycles[stage]? = some changed) : life.Asked changed := by
  have swept : ∀ asked first, (Lifecycles.sweep asked [first] engine.lifecycles).1[stage]? =
      some changed → life.Asked changed := by
    intro asked first there
    rw [Lifecycles.sweep_single] at there
    split at there
    · exact asked_request before there
    · rw [before] at there
      cases there
      exact .left
  cases step with
  | paused | resumed => exact swept _ _ after
  | dismissed | orphaned | lagged | alarmed | slept | woke | absorbed | drained | recovered =>
      cases before.symm.trans after
      exact .left

private theorem befalls_worked {acting : StageId} {cancelFirst : Bool} {present : Post}
    {worker : Worker} {stepped : WorkerStep} (found : engine.posts[acting]? = some present)
    (runs : present.slot = .spawned worker)
    (step : worker.Stepped engine.clock present.stage.lifecycle engine.links
      (engine.busAt sharedBus) stepped)
    (there : (engine.afterWorker acting present stepped).posts[stage]? = some moved) :
    ∃ post, engine.posts[stage]? = some post ∧
      engine.Befalls stage post (.worker acting cancelFirst) stepped.effects moved := by
  by_cases here : acting = stage
  · subst here
    cases (post_withPost found).symm.trans there
    exact ⟨present, found, .worked runs step⟩
  · refine ⟨moved, (post_withPost_other here).symm.trans there, befalls_kept ?_⟩
    intro cancelFirst same
    cases same
    exact here rfl

theorem post_reactTo (found : (engine.reactTo stage).1.posts[other]? = some moved) :
    ∃ post, engine.posts[other]? = some post ∧
      ((∃ life, post.stage.lifecycle.Asked life ∧ moved = post.setLifecycle life) ∨
        stage = other ∧ engine.onFatal = .crash ∧ ∃ worker, post.slot = .spawned worker ∧
          moved = { post with slot := .spawned { worker with control := .crashed } }) := by
  unfold reactTo at found
  cases reaction : engine.onFatal with
  | note =>
      rw [reaction] at found
      exact ⟨moved, found, Or.inl ⟨_, .left, rfl⟩⟩
  | finishAll =>
      rw [reaction] at found
      obtain ⟨post, original, same⟩ := post_finishAll found
      exact ⟨post, original, Or.inl ⟨_, .asked .finish, same⟩⟩
  | crash =>
      simp only [reaction] at found
      cases failing : engine.posts[stage]? with
      | none =>
          rw [failing] at found
          exact ⟨moved, found, Or.inl ⟨_, .left, rfl⟩⟩
      | some post =>
          cases runs : post.slot with
          | absent | ready =>
              simp only [failing, runs] at found
              exact ⟨moved, found, Or.inl ⟨_, .left, rfl⟩⟩
          | spawned worker =>
              simp only [failing, runs] at found
              by_cases here : stage = other
              · subst here
                cases (post_withPost failing).symm.trans found
                exact ⟨post, failing, Or.inr ⟨rfl, rfl, worker, runs, rfl⟩⟩
              · exact ⟨moved, (post_withPost_other here).symm.trans found, Or.inl ⟨_, .left, rfl⟩⟩

private theorem befalls_collapsed {acting : StageId} {cancelFirst : Bool} {present : Post}
    {worker : Worker} {stepped : WorkerStep} (found : engine.posts[acting]? = some present)
    (runs : present.slot = .spawned worker)
    (step : worker.Stepped engine.clock present.stage.lifecycle engine.links
      (engine.busAt sharedBus) stepped)
    (fails : stepped.effects.any isFailure = true) (silent : ∀ effect ∈ effects, effect.Silent)
    (there : ((engine.afterWorker acting present stepped).reactTo acting).1.posts[stage]? =
      some moved) :
    ∃ post, engine.posts[stage]? = some post ∧
      engine.Befalls stage post (.worker acting cancelFirst) effects moved := by
  obtain ⟨error, control, same⟩ := failing_of_isFailure step fails
  subst same
  obtain ⟨before, atStage, reaction⟩ := post_reactTo there
  by_cases here : acting = stage
  · subst here
    cases (post_withPost found).symm.trans atStage
    refine ⟨present, found, ?_⟩
    rcases reaction with ⟨life, asked, same⟩ | ⟨_, crashes, held, spawned, same⟩
    · rw [same]
      exact .failed runs control asked (Or.inl rfl) silent
    · rw [same]
      cases spawned
      have torn : engine.Befalls acting present (.worker acting cancelFirst) effects
          { present.setLifecycle present.stage.lifecycle with
            slot := .spawned { worker with control := .crashed } } :=
        .failed runs control .left (Or.inr ⟨rfl, crashes⟩) silent
      exact torn
  · refine ⟨before, (post_withPost_other here).symm.trans atStage, ?_⟩
    have rests : ∀ other, Action.worker acting cancelFirst ≠ .worker stage other := by
      intro other equal
      cases equal
      exact here rfl
    rcases reaction with ⟨life, asked, same⟩ | ⟨equal, _⟩
    · rw [same]
      exact .rested asked rests
    · exact absurd equal here

/-- Whatever happens to an engine befalls each of its stages in one of these ways. -/
theorem Acted.befalls (acted : engine.Acted action next effects)
    (found : next.posts[stage]? = some moved) :
    ∃ post, engine.posts[stage]? = some post ∧ engine.Befalls stage post action effects moved := by
  cases acted with
  | worked atStage runs step => exact befalls_worked atStage runs step found
  | @collapsed acting cancelFirst present worker stepped atStage runs step fails =>
      refine befalls_collapsed atStage runs step fails ?_ found
      obtain ⟨error, _, same⟩ := failing_of_isFailure step fails
      intro effect member
      rcases List.mem_append.mp member with own | added
      · rw [same] at own
        rcases List.mem_cons.mp own with noted | failed
        · exact noted ▸ trivial
        · exact List.mem_singleton.mp failed ▸ trivial
      · exact silent_reactTo effect added
  | supervised _ step =>
      exact befalls_withLifecycles (fun _ _ => asked_monitored step)
        (fun _ impossible => by cases impossible) found
  | requested =>
      exact befalls_withLifecycles (fun _ _ => asked_request)
        (fun _ impossible => by cases impossible) found
  | @told _ acting present worker control atStage runs told =>
      by_cases here : acting = stage
      · subst here
        cases (post_withPost atStage).symm.trans found
        exact ⟨present, atStage, .told runs told⟩
      · refine ⟨moved, (post_withPost_other here).symm.trans found, befalls_kept ?_⟩
        intro cancelFirst working
        exact told.not_worker working
  | awaited | closing | joined | put | took | published | closed | stopped | elapsed =>
      exact ⟨moved, found, befalls_kept fun _ impossible => by cases impossible⟩

private theorem slots_reactTo :
    (engine.reactTo stage).1.slots = engine.slots ∨ engine.onFatal = .crash ∧
      ∃ post worker, engine.posts[stage]? = some post ∧ post.slot = .spawned worker ∧
        (engine.reactTo stage).1.slots =
          engine.slots.set stage (.spawned { worker with control := .crashed }) := by
  unfold reactTo
  cases reaction : engine.onFatal with
  | note => exact Or.inl rfl
  | finishAll =>
      apply Or.inl
      exact slots_withLifecycles ((Lifecycles.length_requestAll _).trans length_lifecycles)
  | crash =>
      cases found : engine.posts[stage]? with
      | none => exact Or.inl rfl
      | some post =>
          cases runs : post.slot with
          | absent | ready =>
              simp only [runs]
              exact Or.inl trivial
          | spawned worker =>
              simp only [runs]
              exact Or.inr ⟨True.intro, post, worker, rfl, runs, slots_withPost⟩

/-- What a step of a worker does to the engine, apart from lifecycles: it moves the worker, writes links
and the bus, and where it fails for good this is noted, and its task may be torn down. -/
theorem Acted.steps (acted : engine.Acted (.worker stage cancelFirst) next effects) :
    ∃ post worker stepped posts notices, engine.posts[stage]? = some post ∧ post.slot = .spawned worker ∧
      worker.Stepped engine.clock post.stage.lifecycle engine.links (engine.busAt sharedBus) stepped ∧
      next = { engine.withBus sharedBus stepped.bus with posts := posts, links := stepped.links } ∧
      effects = stepped.effects ++ Effect.ofNotices notices ∧
      (next.slots = engine.slots.set stage (.spawned stepped.worker) ∨
        engine.onFatal = .crash ∧ next.slots =
          engine.slots.set stage (.spawned { stepped.worker with control := .crashed })) := by
  have after : ∀ {post : Post} {stepped : WorkerStep},
      (engine.afterWorker stage post stepped).slots =
        engine.slots.set stage (.spawned stepped.worker) := fun {_ _} => slots_withPost
  cases acted with
  | worked found runs step =>
      exact ⟨_, _, _, _, [], found, runs, step, rfl, (List.append_nil _).symm, Or.inl after⟩
  | @collapsed _ _ post worker stepped found runs step =>
      obtain ⟨posts, _, same⟩ := reactTo_posts (engine.afterWorker stage post stepped) stage
      obtain ⟨notices, noted⟩ := notices_reactTo (engine.afterWorker stage post stepped) stage
      rw [noted]
      refine ⟨post, worker, stepped, posts, notices, found, runs, step, same, rfl, ?_⟩
      rcases @slots_reactTo (engine.afterWorker stage post stepped) stage with
        kept | ⟨crashes, present, held, there, spawned, torn⟩
      · exact Or.inl (kept.trans after)
      · cases (post_withPost found).symm.trans there
        cases spawned
        rw [after, List.set_set] at torn
        exact Or.inr ⟨crashes, torn⟩
  | told found runs told => exact absurd rfl told.not_worker

theorem Acted.settles (acted : engine.Acted action next effects)
    (slot : (next.links.get link).slot = some packet) :
    (engine.links.get link).slot = some packet ∨ Effect.stored link packet ∈ effects := by
  by_cases working : ∃ stage cancelFirst, action = .worker stage cancelFirst
  · obtain ⟨stage, cancelFirst, same⟩ := working
    subst same
    obtain ⟨post, worker, stepped, posts, notices, _, _, step, same, did, _⟩ := acted.steps
    subst same
    rcases step.settles slot with old | put
    · exact Or.inl old
    · exact Or.inr (did ▸ List.mem_append_left _ put)
  · cases acted with
    | worked | collapsed => exact absurd ⟨_, _, rfl⟩ working
    | @put other stored =>
        change ((engine.links.put other stored).1.get link).slot = some packet at slot
        rw [LinkStore.slot_put] at slot
        split at slot
        · rename_i here
          cases slot
          rw [here.1]
          exact Or.inr List.mem_cons_self
        · exact Or.inl slot
    | @took other =>
        change ((engine.links.set other _).get link).slot = some packet at slot
        rw [LinkStore.slot_set] at slot
        split at slot
        · cases slot
        · exact Or.inl slot
    | supervised | awaited | closing | joined | requested | told | published | closed | stopped
      | elapsed => exact Or.inl slot

theorem Acted.stores (acted : engine.Acted action next effects) (allows : ¬ action.Supplies)
    (stores : Effect.stored link packet ∈ effects) :
    ∃ stage cancelFirst post worker, action = .worker stage cancelFirst ∧
      engine.posts[stage]? = some post ∧ post.slot = .spawned worker ∧
      (link, packet) ∈ worker.control.outgoing := by
  by_cases working : ∃ stage cancelFirst, action = .worker stage cancelFirst
  · obtain ⟨stage, cancelFirst, same⟩ := working
    subst same
    obtain ⟨post, worker, stepped, posts, notices, found, runs, step, _, did, _⟩ := acted.steps
    subst did
    rcases List.mem_append.mp stores with own | noted
    · exact ⟨stage, cancelFirst, post, worker, rfl, found, runs, step.stores own⟩
    · exact absurd (Effect.silent_ofNotices noted) id
  · cases acted with
    | worked | collapsed => exact absurd ⟨_, _, rfl⟩ working
    | put => exact absurd trivial allows
    | supervised | awaited | joined | requested =>
        exact absurd (Effect.silent_ofNotices stores) id
    | published => cases List.mem_singleton.mp stores
    | closing | told | took | closed | stopped | elapsed => cases stores

end Engine
end Sluice
