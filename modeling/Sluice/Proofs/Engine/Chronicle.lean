import Sluice.Proofs.Engine.Effort
import Sluice.Proofs.Engine.History

set_option autoImplicit false

/-! Runs along with the engines that they pass through. What a stage's worker fetched, what it was told and
what it handed on are read off each move, and each move is a rest of the stage, a step of its worker, or
news to its worker. -/

namespace Sluice

/-- The action is a step of the stage's worker, or addressed to it. -/
def Action.Concerns (stage : StageId) : Action → Prop
  | .worker acting _ | .answer acting _ | .feed acting _ | .endStream acting => acting = stage
  | _ => False

theorem Action.Concerns.unique {stage other : StageId} {action : Action}
    (first : action.Concerns stage) (second : action.Concerns other) : stage = other := by
  cases action with
  | worker | answer | feed | endStream => exact first.symm.trans second
  | monitor | join | request | put | take | publish | closeBus | stopMonitor | elapse => cases first

theorem Action.not_worker {stage : StageId} {action : Action} (apart : ¬ action.Concerns stage)
    (cancelFirst : Bool) : action ≠ .worker stage cancelFirst := by
  intro same
  exact apart (same ▸ rfl)

theorem Told.concerns {now : Duration} {stage : StageId} {action : Action} {control next : Control}
    (told : Told now stage action control next) : action.Concerns stage := by
  cases told with
  | answered | rejected | opened | unopened => rfl
  | heard news | overheard news => cases news <;> rfl

namespace Engine

structure Move extends Occurrence where
  before : Engine
  after : Engine

/-- A run of an engine, move by move. Somebody may start to wait for the end at any time. -/
inductive Runs (first : Engine) : Engine → List Move → Prop
  | started : Runs first first []
  | acted {engine next : Engine} {moves : List Move} {action : Action} {effects : List Effect}
      (ran : Runs first engine moves) (acts : engine.act action = some (next, effects)) :
      Runs first next
        (moves ++ [{ action := action, effects := effects, before := engine, after := next }])
  | joined {engine : Engine} {moves : List Move} {joiner : Joiner} (ran : Runs first engine moves) :
      Runs first { engine with joiner := some joiner } moves

def Move.worker? (stage : StageId) (move : Move) : Option Worker :=
  move.before.posts[stage]?.bind Post.spawned?

def recordOf (moves : List Move) : List Occurrence :=
  moves.map (·.toOccurrence)

variable {first engine next last : Engine} {moves earlier later : List Move} {past : List Occurrence}
  {action : Action} {effects : List Effect} {stage : StageId}
  {post moved : Post} {cancelFirst : Bool}

theorem recordOf_append (move : Move) :
    recordOf (moves ++ [move]) = recordOf moves ++ [move.toOccurrence] :=
  List.map_append

theorem Runs.around {move : Move} (ran : Runs first last (earlier ++ move :: later)) :
    Runs first move.before earlier ∧ move.before.act move.action = some (move.after, move.effects) ∧
      Runs move.after last later := by
  generalize whole : earlier ++ move :: later = moves at ran
  induction ran generalizing later with
  | started => cases (List.append_eq_nil_iff.mp whole).2
  | @acted engine next moves action effects ran acts ih =>
      rcases List.eq_nil_or_concat later with none | ⟨between, made, same⟩
      · subst none
        obtain ⟨sameMoves, sameMove⟩ := List.append_inj' whole rfl
        subst sameMoves
        cases sameMove
        exact ⟨ran, acts, .started⟩
      · subst same
        rw [List.concat_eq_append, ← List.cons_append, ← List.append_assoc] at whole
        obtain ⟨sameMoves, sameMove⟩ := List.append_inj' whole rfl
        obtain ⟨head, moved, tail⟩ := ih sameMoves
        cases sameMove
        rw [List.concat_eq_append]
        exact ⟨head, moved, tail.acted acts⟩
  | joined ran ih =>
      obtain ⟨head, moved, tail⟩ := ih whole
      exact ⟨head, moved, tail.joined⟩

theorem Runs.reaction (ran : Runs first last moves) : last.onFatal = first.onFatal := by
  induction ran with
  | started => rfl
  | acted ran acts ih => exact (act_acted acts).reaction.trans ih
  | joined ran ih => exact ih

/-- The moves of the run that takes these actions in turn, up to the first that is blocked. -/
def movesOf : List Action → Engine → List Move
  | [], _ => []
  | action :: rest, engine =>
      match engine.act action with
      | none => []
      | some (next, effects) =>
          { action := action, effects := effects, before := engine, after := next } :: movesOf rest next

theorem runs_perform {actions : List Action} (ran : Runs first engine moves)
    (performed : perform actions engine = some (last, past)) :
    Runs first last (moves ++ movesOf actions engine) := by
  induction actions generalizing engine moves past with
  | nil =>
      cases performed
      rw [movesOf, List.append_nil]
      exact ran
  | cons action rest ih =>
      obtain ⟨next, effects, after, acts, remaining, _⟩ := perform_cons performed
      have through := ih (ran.acted acts) remaining
      rw [List.append_assoc] at through
      simp only [movesOf, acts]
      exact through

theorem Move.worker_of_post {move : Move} {worker : Worker}
    (found : move.before.posts[stage]? = some post) (runs : post.slot = .spawned worker) :
    move.worker? stage = some worker := by
  unfold Move.worker? Post.spawned?
  rw [found, Option.bind_some, runs]

theorem Move.of_own {move : Move} (acts : move.action = .worker stage cancelFirst) :
    move.of stage = move.effects ∧ move.isStepOf stage = true := by
  obtain ⟨⟨action, effects⟩, before, after⟩ := move
  cases acts
  exact ⟨of_worker, isStepOf_worker⟩

theorem Move.of_others {move : Move} (rests : ∀ cancelFirst, move.action ≠ .worker stage cancelFirst) :
    move.of stage = [] ∧ move.isStepOf stage = false :=
  ⟨of_other rests, isStepOf_other rests⟩

theorem Move.of_unconcerned {move : Move} (rests : ¬ move.action.Concerns stage) :
    move.of stage = [] ∧ move.isStepOf stage = false :=
  Move.of_others (Action.not_worker rests)

inductive Fares (stage : StageId) (move : Move) (post : Post) : Post → Prop
  | rested {moved : Post} (apart : ¬ move.action.Concerns stage)
      (asked : post.stage.lifecycle.Asked moved.stage.lifecycle) (kept : moved.slot = post.slot) :
      Fares stage move post moved
  | worked {moved : Post} {cancelFirst : Bool} {worker : Worker} {stepped : WorkerStep}
      {notices : List Notice} {control : Control}
      (acts : move.action = .worker stage cancelFirst) (runs : post.slot = .spawned worker)
      (step : worker.step move.before.clock cancelFirst post.stage.lifecycle move.before.links
        (move.before.busAt sharedBus) = some stepped)
      (asked : stepped.lifecycle.Asked moved.stage.lifecycle)
      (calm : stepped.effects.any isFailure = false → moved.stage.lifecycle = stepped.lifecycle)
      (goes : moved.slot = .spawned { stepped.worker with control := control })
      (runsOn : control = stepped.worker.control ∨ move.before.onFatal = .crash ∧ control = .crashed ∧
        stepped.effects.any isFailure = true)
      (links : move.after.links = stepped.links)
      (did : move.effects = stepped.effects ++ Effect.ofNotices notices)
      (buses : move.after.buses = move.before.buses.set sharedBus stepped.bus) :
      Fares stage move post moved
  | told {worker : Worker} {control : Control} (runs : post.slot = .spawned worker)
      (told : Told move.before.clock stage move.action worker.control control)
      (leaves : move.after = move.before.afterTold stage post worker control)
      (silent : move.effects = []) :
      Fares stage move post
        { post with slot := .spawned { worker with control := control } }

private theorem fares_worker (acts : engine.stepWorker stage cancelFirst = some (next, effects))
    (found : engine.posts[stage]? = some post) (there : next.posts[stage]? = some moved) :
    Fares stage { action := .worker stage cancelFirst, effects := effects, before := engine, after := next }
      post moved := by
  obtain ⟨known, worker, stepped, original, runs, step, outcome⟩ := stepWorker_some acts
  cases found.symm.trans original
  rcases outcome with ⟨_, same, did⟩ | ⟨fails, same, did⟩
  · subst same
    cases (post_withPost found).symm.trans there
    have noted : effects = stepped.effects ++ Effect.ofNotices [] := did.trans (List.append_nil _).symm
    exact .worked rfl runs step .left (fun _ => rfl) rfl (Or.inl rfl) rfl noted rfl
  · obtain ⟨notices, noted⟩ := notices_reactTo (engine.afterWorker stage post stepped) stage
    obtain ⟨posts, _, rest⟩ := reactTo_posts (engine.afterWorker stage post stepped) stage
    have links : next.links = stepped.links := by
      rw [same, rest]
      rfl
    have buses : next.buses = engine.buses.set sharedBus stepped.bus := by
      rw [same, rest]
      rfl
    have calm : stepped.effects.any isFailure = false →
        moved.stage.lifecycle = stepped.lifecycle := fun calm =>
      absurd (fails.symm.trans calm) Bool.noConfusion
    rw [same] at there
    rw [noted] at did
    obtain ⟨before, atStage, reaction⟩ := post_reactTo there
    cases (post_withPost found).symm.trans atStage
    rcases reaction with ⟨life, asked, is⟩ | ⟨_, crashes, held, spawned, is⟩
    · subst is
      exact .worked rfl runs step asked calm rfl (Or.inl rfl) links did buses
    · subst is
      cases spawned
      exact .worked rfl runs step .left calm rfl (Or.inr ⟨crashes, rfl, fails⟩) links did buses

private theorem told_concerned (acted : engine.Acted action next effects)
    (concerned : action.Concerns stage) (apart : ∀ cancelFirst, action ≠ .worker stage cancelFirst) :
    ∃ present worker control, engine.posts[stage]? = some present ∧ present.slot = .spawned worker ∧
      Told engine.clock stage action worker.control control ∧
      next = engine.afterTold stage present worker control ∧ effects = [] := by
  cases acted with
  | told found runs told =>
      cases told.concerns.unique concerned
      exact ⟨_, _, _, found, runs, told, rfl, rfl⟩
  | @worked acting cancelFirst | @collapsed acting cancelFirst =>
      have here : acting = stage := concerned
      subst here
      exact absurd rfl (apart cancelFirst)
  | supervised | awaited | closing | joined | requested | put | took | published | closed | stopped
    | elapsed => cases concerned

/-- As long as failures are only noted, what concerns one stage leaves the others as they are. -/
theorem act_alone {other : StageId} (acts : engine.act action = some (next, effects))
    (concerned : action.Concerns stage) (noted : engine.onFatal = .note) (apart : stage ≠ other) :
    next.posts[other]? = engine.posts[other]? := by
  by_cases works : ∃ cancelFirst, action = .worker stage cancelFirst
  · obtain ⟨cancelFirst, same⟩ := works
    subst same
    obtain ⟨post, worker, stepped, _, _, _, outcome⟩ := stepWorker_some acts
    have kept : (engine.afterWorker stage post stepped).posts[other]? = engine.posts[other]? :=
      post_withPost_other apart
    rcases outcome with ⟨_, same, _⟩ | ⟨_, same, _⟩
    · rw [same, kept]
    · have calm : (engine.afterWorker stage post stepped).onFatal = .note := noted
      rw [same]
      unfold reactTo
      rw [calm]
      exact kept
  · obtain ⟨present, worker, control, _, _, _, same, _⟩ :=
      told_concerned (act_acted acts) concerned fun _ same => works ⟨_, same⟩
    rw [same]
    exact post_withPost_other apart

theorem act_fares (acts : engine.act action = some (next, effects))
    (found : engine.posts[stage]? = some post) :
    ∃ moved, next.posts[stage]? = some moved ∧ Fares stage
      { action := action, effects := effects, before := engine, after := next } post moved := by
  obtain ⟨moved, there, befalls⟩ := (act_acted acts).onward found
  refine ⟨moved, there, ?_⟩
  by_cases works : ∃ cancelFirst, action = .worker stage cancelFirst
  · obtain ⟨cancelFirst, same⟩ := works
    subst same
    exact fares_worker acts found there
  · have apart : ∀ cancelFirst, action ≠ .worker stage cancelFirst := fun _ same => works ⟨_, same⟩
    by_cases concerned : action.Concerns stage
    · obtain ⟨present, worker, control, original, runs, told, same, silent⟩ :=
        told_concerned (act_acted acts) concerned apart
      cases found.symm.trans original
      subst same
      cases (post_withPost found).symm.trans there
      exact .told runs told rfl silent
    · cases befalls with
      | rested asked => exact .rested concerned asked rfl
      | worked | failed => exact absurd rfl (apart _)
      | told _ told => exact absurd told.concerns concerned

theorem Fares.kin {move : Move} {worker after : Worker} (fares : Fares stage move post moved)
    (runs : post.slot = .spawned worker) (runsOn : moved.slot = .spawned after) : worker.Kin after := by
  cases fares with
  | rested _ _ kept =>
      cases runs.symm.trans (kept.symm.trans runsOn)
      exact ⟨rfl, rfl, rfl, rfl⟩
  | told spawned =>
      cases runs.symm.trans spawned
      cases runsOn
      exact ⟨rfl, rfl, rfl, rfl⟩
  | worked _ spawned step _ _ goes =>
      cases runs.symm.trans spawned
      cases goes.symm.trans runsOn
      obtain ⟨stage, kind, unavailable, output⟩ := (Worker.step_stepped step).kin
      exact ⟨stage, kind, unavailable, output⟩

/-- What is known of a stage's worker at the start of a run and kept by every move is known at the end. -/
theorem Runs.carries {worker : Worker} (known : Post → Worker → List Move → Prop)
    (found : first.posts[stage]? = some post) (runs : post.slot = .spawned worker)
    (starts : known post worker [])
    (keeps : ∀ {past : List Move} {move : Move} {post moved : Post} {held : Worker},
      move.before.onFatal = first.onFatal → move.before.posts[stage]? = some post →
      move.after.posts[stage]? = some moved → post.slot = .spawned held → worker.Kin held →
      known post held past → Fares stage move post moved →
      ∃ after, moved.slot = .spawned after ∧ known moved after (past ++ [move]))
    (ran : Runs first last moves) :
    ∃ moved after, last.posts[stage]? = some moved ∧ moved.slot = .spawned after ∧ worker.Kin after ∧
      known moved after moves := by
  induction ran with
  | started => exact ⟨post, worker, found, runs, ⟨rfl, rfl, rfl, rfl⟩, starts⟩
  | acted ran acts ih =>
      obtain ⟨present, held, atStage, spawned, kin, kept⟩ := ih
      obtain ⟨moved, there, fares⟩ := act_fares acts atStage
      obtain ⟨after, runsOn, keptOn⟩ := keeps ran.reaction atStage there spawned kin kept fares
      exact ⟨moved, after, there, runsOn, kin.trans (fares.kin spawned runsOn), keptOn⟩
  | joined ran ih => exact ih

end Engine
end Sluice
