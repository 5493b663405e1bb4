import Sluice.Proofs.Engine.Chronicle
import Sluice.Proofs.Worker.Failing

set_option autoImplicit false

/-! Failures that end a stage, over whole runs. A stage meets one at most, its worker hands it over, and from
the move on in which it met it the worker only comes to its end. -/

namespace Sluice
namespace Engine

/-- The failure that ends the stage and that its worker meets in this move. -/
def Move.setback? (stage : StageId) (move : Move) : Option FatalFailure :=
  match move.worker? stage with
  | none => none
  | some worker =>
      if move.isStepOf stage then worker.setback?
      else (move.action.rejection stage).bind worker.fatality

def setbacksOf (stage : StageId) (moves : List Move) : List FatalFailure :=
  moves.flatMap fun move => (move.setback? stage).toList

def failuresOf (stage : StageId) (past : List Occurrence) : List FatalFailure :=
  past.flatMap fun occurrence => (occurrence.of stage).filterMap Effect.failed?

/-- In this move the stage's worker calls nothing, hands nothing to its output, touches no link and
reports nothing. -/
structure Move.Mute (stage : StageId) (move : Move) : Prop where
  tells : ∀ effect ∈ move.of stage, effect.Told
  links : move.action.Concerns stage → move.after.links = move.before.links

variable {first engine next last : Engine} {moves earlier later : List Move} {move : Move}
  {action : Action} {effects : List Effect} {stage other : StageId} {post moved : Post}
  {worker : Worker} {name : String} {unavailable : Status → Bool} {met handed : List FatalFailure}
  {failure : FatalFailure}

theorem setbacksOf_append :
    setbacksOf stage (moves ++ [move]) = setbacksOf stage moves ++ (move.setback? stage).toList := by
  unfold setbacksOf
  rw [List.flatMap_append, List.flatMap_singleton]

theorem mem_setbacksOf (member : move ∈ moves) (setback : move.setback? stage = some failure) :
    failure ∈ setbacksOf stage moves :=
  List.mem_flatMap.mpr ⟨move, member, Option.mem_toList.mpr setback⟩

theorem failuresOf_append {past : List Occurrence} {occurrence : Occurrence} :
    failuresOf stage (past ++ [occurrence]) =
      failuresOf stage past ++ (occurrence.of stage).filterMap Effect.failed? := by
  unfold failuresOf
  rw [List.flatMap_append, List.flatMap_singleton]

private theorem setback_own (known : move.worker? stage = some worker)
    (works : move.isStepOf stage = true) : move.setback? stage = worker.setback? := by
  unfold Move.setback?
  simp only [known, works, if_true]

private theorem setback_others (known : move.worker? stage = some worker)
    (still : move.isStepOf stage = false) :
    move.setback? stage = (move.action.rejection stage).bind worker.fatality := by
  unfold Move.setback?
  simp only [known, still, Bool.false_eq_true, if_false]

private theorem not_rejected (rests : ¬ action.Concerns stage) : action.rejection stage = none := by
  cases action with
  | answer acting given =>
      cases given with
      | failure => exact if_neg rests
      | response | stream => rfl
  | worker | monitor | join | request | feed | endStream | put | take | publish | closeBus
    | stopMonitor | elapse => rfl

theorem Fares.accounts (survives : move.before.onFatal ≠ .crash)
    (found : move.before.posts[stage]? = some post) (runs : post.slot = .spawned worker)
    (accounts : worker.Accounts name unavailable met handed post.stage.lifecycle)
    (fares : Fares stage move post moved) :
    ∃ after, moved.slot = .spawned after ∧
      after.Accounts name unavailable (met ++ (move.setback? stage).toList)
        (handed ++ (move.of stage).filterMap Effect.failed?) moved.stage.lifecycle := by
  have known := Move.worker_of_post found runs
  cases fares with
  | rested rests asked kept =>
      obtain ⟨idle, still⟩ := Move.of_unconcerned rests
      refine ⟨worker, kept.trans runs, ?_⟩
      rw [setback_others known still, not_rejected rests, idle]
      simpa using accounts.asked asked
  | worked acts spawned step asked _ goes runsOn _ did =>
      cases runs.symm.trans spawned
      obtain ⟨own, works⟩ := Move.of_own acts
      rcases runsOn with still | ⟨crashes, _⟩
      · refine ⟨_, goes, ?_⟩
        rw [setback_own known works, own, did, List.filterMap_append, Effect.failed_notices,
          List.append_nil, still]
        exact (accounts.step step).asked asked
      · exact absurd crashes survives
  | told spawned told leaves =>
      cases runs.symm.trans spawned
      obtain ⟨idle, still⟩ := Move.of_others fun cancelFirst => told.not_worker
      refine ⟨_, rfl, ?_⟩
      rw [setback_others known still, idle, List.filterMap_nil, List.append_nil]
      exact accounts.told told

theorem Fares.struck (found : move.before.posts[stage]? = some post) (runs : post.slot = .spawned worker)
    (fares : Fares stage move post moved) (setback : move.setback? stage = some failure) :
    move.Mute stage := by
  have known := Move.worker_of_post found runs
  cases fares with
  | rested rests =>
      rw [setback_others known (Move.of_unconcerned rests).2, not_rejected rests] at setback
      cases setback
  | worked own spawned step _ _ _ _ links did =>
      cases runs.symm.trans spawned
      obtain ⟨same, works⟩ := Move.of_own own
      rw [setback_own known works] at setback
      obtain ⟨kept, told⟩ := (Worker.step_stepped step).struck setback
      refine ⟨?_, fun _ => links.trans kept⟩
      rw [same, did]
      exact Effect.told_noted told
  | told spawned told leaves =>
      obtain ⟨idle, _⟩ := Move.of_others fun cancelFirst => told.not_worker
      refine ⟨?_, ?_⟩
      · rw [idle]
        exact fun _ impossible => absurd impossible List.not_mem_nil
      · rw [leaves]
        exact fun _ => rfl

theorem Fares.fades (survives : move.before.onFatal ≠ .crash) (runs : post.slot = .spawned worker)
    (doomed : worker.Doomed post.stage.lifecycle)
    (fares : Fares stage move post moved) :
    ∃ after, moved.slot = .spawned after ∧ after.Doomed moved.stage.lifecycle ∧
      stepsOf stage [move.toOccurrence] + after.toEnd = worker.toEnd ∧ move.Mute stage := by
  unfold stepsOf
  rw [List.countP_singleton]
  cases fares with
  | rested rests asked kept =>
      obtain ⟨idle, still⟩ := Move.of_unconcerned rests
      refine ⟨worker, kept.trans runs, doomed.asked asked, ?_, ?_, fun concerned => absurd concerned rests⟩
      · rw [still, if_neg Bool.false_ne_true, Nat.zero_add]
      · rw [idle]
        exact fun _ impossible => absurd impossible List.not_mem_nil
  | worked own spawned step asked _ goes runsOn links did =>
      cases runs.symm.trans spawned
      obtain ⟨same, works⟩ := Move.of_own own
      obtain ⟨doomedOn, nearer, kept, _, told⟩ := doomed.step step
      rcases runsOn with still | ⟨crashes, _⟩
      · subst still
        refine ⟨_, goes, doomedOn.asked asked, ?_, ?_, fun _ => links.trans kept⟩
        · rw [works, if_pos rfl]
          exact (Nat.add_comm _ _).trans nearer
        · rw [same, did]
          exact Effect.told_noted told
      · exact absurd crashes survives
  | told spawned told =>
      cases runs.symm.trans spawned
      exact absurd told doomed.untold

theorem Runs.fades (survives : first.onFatal ≠ .crash) (found : first.posts[stage]? = some post)
    (runs : post.slot = .spawned worker) (doomed : worker.Doomed post.stage.lifecycle)
    (ran : Runs first last moves) :
    ∃ moved after, last.posts[stage]? = some moved ∧ moved.slot = .spawned after ∧ worker.Kin after ∧
      after.Doomed moved.stage.lifecycle ∧ stepsOf stage (recordOf moves) + after.toEnd = worker.toEnd ∧
      ∀ move ∈ moves, move.Mute stage := by
  refine ran.carries (fun moved after moves => after.Doomed moved.stage.lifecycle ∧
    stepsOf stage (recordOf moves) + after.toEnd = worker.toEnd ∧ ∀ move ∈ moves, move.Mute stage)
    found runs ⟨doomed, Nat.zero_add _, fun _ impossible => absurd impossible List.not_mem_nil⟩ ?_
  rintro past move present moved held reaction _ _ spawned _ ⟨doomed, nearer, mute⟩ fares
  have stays : move.before.onFatal ≠ .crash := reaction ▸ survives
  obtain ⟨after, runsOn, doomedOn, closer, silent⟩ := fares.fades stays spawned doomed
  refine ⟨after, runsOn, doomedOn, ?_, ?_⟩
  · unfold stepsOf at nearer closer ⊢
    rw [recordOf_append, List.countP_append]
    omega
  · intro made member
    rcases List.mem_append.mp member with old | new
    · exact mute made old
    · exact List.mem_singleton.mp new ▸ silent

theorem Runs.accounts (survives : first.onFatal ≠ .crash) (found : first.posts[stage]? = some post)
    (runs : post.slot = .spawned worker)
    (accounts : worker.Accounts name unavailable [] [] post.stage.lifecycle)
    (ran : Runs first last moves) :
    ∃ moved after, last.posts[stage]? = some moved ∧ moved.slot = .spawned after ∧ worker.Kin after ∧
      after.Accounts name unavailable (setbacksOf stage moves) (failuresOf stage (recordOf moves))
        moved.stage.lifecycle := by
  refine ran.carries (fun moved after moves => after.Accounts name unavailable
    (setbacksOf stage moves) (failuresOf stage (recordOf moves)) moved.stage.lifecycle)
    found runs accounts ?_
  intro past move present moved held reaction atStage _ spawned _ kept fares
  have stays : move.before.onFatal ≠ .crash := reaction ▸ survives
  rw [setbacksOf_append, recordOf_append, failuresOf_append]
  exact fares.accounts stays atStage spawned kept

theorem Fares.hands (fares : Fares stage move post moved) (runs : post.slot = .spawned worker)
    (handed : .failed failure ∈ move.of stage) : ∃ known, worker.control = .failing known := by
  cases fares with
  | rested rests =>
      rw [(Move.of_unconcerned rests).1] at handed
      cases handed
  | worked own spawned step _ _ _ _ _ did =>
      cases runs.symm.trans spawned
      rw [(Move.of_own own).1, did] at handed
      rcases List.mem_append.mp handed with here | noted
      · exact (Worker.step_stepped step).hands here
      · obtain ⟨notice, _, impossible⟩ := List.mem_map.mp noted
        cases impossible
  | told spawned told =>
      rw [(Move.of_others fun cancelFirst => told.not_worker).1] at handed
      cases handed

variable {kind : StageKind} {input : Input} {output : Output}

theorem accounts_created {life : Lifecycle} :
    (Worker.create name kind unavailable input output).Accounts name unavailable [] [] life :=
  ⟨rfl, rfl, rfl, Or.inl rfl⟩

/-- From the move in which the stage met a failure its worker only comes to its end. -/
private theorem Runs.after_setback (survives : first.onFatal ≠ .crash)
    (found : first.posts[stage]? = some post) (runs : post.slot = .spawned worker)
    (accounts : worker.Accounts name unavailable [] [] post.stage.lifecycle)
    (ran : Runs first last (earlier ++ move :: later)) (setback : move.setback? stage = some failure) :
    ∃ moved after, last.posts[stage]? = some moved ∧ moved.slot = .spawned after ∧
      after.Doomed moved.stage.lifecycle ∧ stepsOf stage (recordOf later) ≤ 4 ∧
      ∀ made ∈ move :: later, made.Mute stage := by
  obtain ⟨head, acts, tail⟩ := ran.around
  obtain ⟨present, held, atStage, spawned, _, _⟩ := head.accounts survives found runs accounts
  obtain ⟨moved, there, fares⟩ := act_fares acts atStage
  have silent := fares.struck atStage spawned setback
  obtain ⟨again, after, also, runsOn, _, kept⟩ := (head.acted acts).accounts survives found runs accounts
  have member : move ∈ earlier ++ [move] := List.mem_append_right _ (List.mem_singleton_self _)
  obtain ⟨_, _, doomed⟩ := kept.only (mem_setbacksOf member setback)
  have stays : move.after.onFatal ≠ .crash := (head.acted acts).reaction ▸ survives
  obtain ⟨final, ended, atEnd, goesOn, _, doomedOn, nearer, mute⟩ :=
    tail.fades stays also runsOn doomed
  have steps := after.toEnd_le_four
  refine ⟨final, ended, atEnd, goesOn, doomedOn, by omega, ?_⟩
  intro made member
  rcases List.mem_cons.mp member with here | late
  · exact here ▸ silent
  · exact mute made late

/-- Once the stage's worker has handed its failure over and taken a further step, the stage has finished. -/
private theorem Runs.after_handing (survives : first.onFatal ≠ .crash)
    (found : first.posts[stage]? = some post) (runs : post.slot = .spawned worker)
    (accounts : worker.Accounts name unavailable [] [] post.stage.lifecycle)
    (ran : Runs first last (earlier ++ move :: later)) (handed : .failed failure ∈ move.of stage)
    (further : 0 < stepsOf stage (recordOf later)) :
    ∀ moved, last.posts[stage]? = some moved → moved.stage.lifecycle.phase = .finished := by
  obtain ⟨head, acts, tail⟩ := ran.around
  obtain ⟨present, held, atStage, spawned, _⟩ := head.accounts survives found runs accounts
  obtain ⟨moved, there, fares⟩ := act_fares acts atStage
  obtain ⟨known, control⟩ := fares.hands spawned handed
  have stays : move.before.onFatal ≠ .crash := head.reaction ▸ survives
  obtain ⟨after, runsOn, doomed, closer, _⟩ := fares.fades stays spawned (.failing control)
  have remains : move.after.onFatal ≠ .crash := (head.acted acts).reaction ▸ survives
  obtain ⟨final, ended, atEnd, _, _, doomedOn, nearer, _⟩ := tail.fades remains there runsOn doomed
  have three : held.toEnd = 3 := by simp only [Worker.toEnd, control]
  have one : stepsOf stage [move.toOccurrence] = 1 := by
    obtain ⟨⟨cancelFirst, own⟩, _⟩ := mem_of handed
    unfold stepsOf
    rw [List.countP_singleton, (Move.of_own own).2, if_pos rfl]
  intro last found
  cases atEnd.symm.trans found
  exact doomedOn.finished (by omega)

/-- Whatever kind of worker a stage has and whatever happens around it, as long as the reaction to failures
returns: each failure that ends the stage is handed over once, there is one at most, and it bears the name
of the stage. From the move in which it was met the worker calls nothing, hands nothing to its output,
touches no link and reports nothing, takes four more steps at most, and is never blocked before it has ended
and its stage has finished. If failures are only noted, nothing that the worker does changes other stages. -/
theorem failure_ends_stage (survives : first.onFatal ≠ .crash)
    (found : first.posts[stage]? = some post)
    (fresh : post.slot = .spawned (.create name kind unavailable input output))
    (ran : Runs first last moves) :
    ∃ moved worker, last.posts[stage]? = some moved ∧ moved.slot = .spawned worker ∧
      setbacksOf stage moves = failuresOf stage (recordOf moves) ++ worker.pending?.toList ∧
      (setbacksOf stage moves).length ≤ 1 ∧
      (∀ failure ∈ setbacksOf stage moves, Fatal name unavailable failure) ∧
      (∀ earlier move later failure, moves = earlier ++ move :: later →
        move.setback? stage = some failure →
          (∀ made ∈ move :: later, made.Mute stage) ∧ stepsOf stage (recordOf later) ≤ 4 ∧
          ∀ cancelFirst, last.act (.worker stage cancelFirst) = none →
            worker.control = .ended ∧ moved.stage.lifecycle.phase = .finished ∧
              failuresOf stage (recordOf moves) = [failure]) ∧
      (∀ earlier move later failure, moves = earlier ++ move :: later → .failed failure ∈ move.of stage →
        0 < stepsOf stage (recordOf later) → moved.stage.lifecycle.phase = .finished) ∧
      (first.onFatal = .note → ∀ move ∈ moves, move.action.Concerns stage → ∀ other, stage ≠ other →
        move.after.posts[other]? = move.before.posts[other]?) := by
  obtain ⟨moved, worker, there, runs, _, accounts⟩ := ran.accounts survives found fresh accounts_created
  refine ⟨moved, worker, there, runs, accounts.tally, ?_, ?_, ?_, ?_, ?_⟩
  · rcases accounts.once with nothing | ⟨failure, single, _⟩
    · exact nothing ▸ Nat.zero_le 1
    · exact single ▸ Nat.le_refl 1
  · intro failure member
    exact (accounts.only member).2.1
  · intro earlier move later failure whole setback
    subst whole
    obtain ⟨final, held, atEnd, spawned, doomed, steps, mute⟩ :=
      ran.after_setback survives found fresh accounts_created setback
    cases there.symm.trans atEnd
    cases runs.symm.trans spawned
    refine ⟨mute, steps, ?_⟩
    intro cancelFirst blocked
    obtain ⟨ended, finished, settled⟩ := doomed.blocked (stepWorker_none blocked there runs)
    refine ⟨ended, finished, ?_⟩
    have tally := accounts.tally
    rw [settled, Option.toList_none, List.append_nil] at tally
    have listed : move ∈ earlier ++ move :: later := List.mem_append_right _ List.mem_cons_self
    exact tally.symm.trans (accounts.only (mem_setbacksOf listed setback)).1
  · intro earlier move later failure whole handed further
    subst whole
    exact ran.after_handing survives found fresh accounts_created handed further moved there
  · intro noted move member concerned other apart
    obtain ⟨earlier, later, whole⟩ := List.append_of_mem member
    subst whole
    obtain ⟨head, acts, _⟩ := ran.around
    exact act_alone acts concerned (head.reaction.trans noted) apart

namespace Unsplit

def detector : Post :=
  { stage :=
      { descriptor :=
          { name := "detector", host := "localhost", port := 50051
            method :=
              { name := "vision.Detector/Watch", shape := .serverStreaming, input := .unnamed
                output := .ofNames "Frame" ["pixels"] }
            mode := .continuous }
        kind := .serverStreaming, method := .standard, lifecycle := .fresh "detector", bindings := none }
    slot :=
      .spawned (.create "detector" .serverStreaming Status.isUnavailable (.source 0 .unnamed)
        (.splitter [{ field := "pixels", link := 0 }])) }

def lone : Engine :=
  { Engine.idle .note 4 with links := { links := [.labelled "pixels"] }, posts := [detector] }

def flat : Message :=
  .ofFields [("pixels", .bool true)]

def refusal : FatalFailure :=
  { stage := "detector", error := .dispatch "detector" (.notARecord "pixels") }

/-- The stage opens a stream and reads an item that it cannot split. -/
def actions : List Action :=
  List.replicate 4 (.worker 0 false) ++
    .answer 0 (.stream { ready := [.ok flat], complete := true }) ::
      List.replicate 4 (.worker 0 false)

end Unsplit

theorem failure_ends_stage_unsplit :
    ∃ failure last earlier move later moved worker,
      Unsplit.lone.onFatal ≠ .crash ∧ Unsplit.lone.posts[0]? = some Unsplit.detector ∧
      Runs Unsplit.lone last (earlier ++ move :: later) ∧ move.setback? 0 = some failure ∧
      (∀ made ∈ move :: later, made.Mute 0) ∧ last.posts[0]? = some moved ∧
      moved.slot = .spawned worker ∧ worker.control = .ended ∧ moved.stage.lifecycle.phase = .finished ∧
      failuresOf 0 (recordOf (earlier ++ move :: later)) = [failure] := by
  have outcome : (perform Unsplit.actions Unsplit.lone).map
      (fun reached => (reached.1.act (.worker 0 false)).isNone) = some true := by decide
  obtain ⟨⟨last, past⟩, performed, halts⟩ := Option.map_eq_some_iff.mp outcome
  have ran : Runs Unsplit.lone last (movesOf Unsplit.actions Unsplit.lone) :=
    runs_perform .started performed
  have met : setbacksOf 0 (movesOf Unsplit.actions Unsplit.lone) = [Unsplit.refusal] := by decide
  have strikes : Unsplit.refusal ∈ setbacksOf 0 (movesOf Unsplit.actions Unsplit.lone) :=
    met ▸ List.mem_singleton_self _
  obtain ⟨move, member, struck⟩ := List.mem_flatMap.mp strikes
  have setback := Option.mem_toList.mp struck
  obtain ⟨earlier, later, whole⟩ := List.append_of_mem member
  have blocked : last.act (.worker 0 false) = none := Option.isNone_iff_eq_none.mp halts
  obtain ⟨moved, worker, there, runs, _, _, _, ends, _⟩ :=
    failure_ends_stage (by decide) (show Unsplit.lone.posts[0]? = some Unsplit.detector from rfl) rfl ran
  obtain ⟨mute, _, halted⟩ := ends earlier move later _ whole setback
  obtain ⟨ended, finished, handed⟩ := halted false blocked
  rw [whole] at ran handed
  exact ⟨_, last, earlier, move, later, moved, worker, by decide, rfl, ran, setback, mute, there, runs,
    ended, finished, handed⟩

end Engine
end Sluice
