import Sluice.Proofs.Engine.Effort

set_option autoImplicit false

/-! How the worker of a finished stage comes to its end. Nothing but its end or the remote service keeps it
from its next step, whatever the service owes it can be answered, and so it can always be brought to its
end by its own steps and by answers. -/

namespace Sluice

def Post.Ended (post : Post) : Prop :=
  ∃ worker, post.slot = .spawned worker ∧ worker.Ended

/-- What brings the worker of a stage to its end: its own steps, answers to it, and ends of its streams. -/
def Action.Completes (stage : StageId) : Action → Prop
  | .worker acting _ | .answer acting _ | .endStream acting => acting = stage
  | _ => False

namespace Engine

variable {engine next : Engine} {stage : StageId} {cancelFirst : Bool} {effects : List Effect}
  {post : Post} {worker : Worker} {onFatal : FatalReaction} {fields width cost : Nat} {ids : List LinkId}

/-- What can keep a finished stage's worker from its next step: its end, or the remote service. -/
theorem Staffed.blocked (staffed : engine.Staffed onFatal) (survives : onFatal ≠ .crash)
    (found : engine.posts[stage]? = some post) (runs : post.slot = .spawned worker)
    (closed : post.stage.lifecycle.Closed)
    (blocked : engine.stepWorker stage cancelFirst = none) :
    worker.Ended ∨ worker.control.AwaitsRemote := by
  obtain ⟨_, held, spawned, poised, torn⟩ := staffed.posts stage post found
  cases runs.symm.trans spawned
  rcases poised.blocked closed (stepWorker_none blocked found runs) with ended | crashed | awaits
  · exact Or.inl ended
  · exact absurd (torn crashed) survives
  · exact Or.inr awaits

private theorem answer_of_awaits (found : engine.posts[stage]? = some post)
    (runs : post.slot = .spawned worker) (awaits : worker.control.AwaitsRemote) :
    ∃ action control, action.Completes stage ∧ action.supply = 0 ∧
      (∀ cancelFirst, action ≠ .worker stage cancelFirst) ∧
      engine.act action = some (engine.withPost stage
        { post with slot := .spawned { worker with control := control } }, []) ∧
      control.Passing ∧ ¬ control.AwaitsRemote := by
  have changes : ∀ {change : Worker → Option Worker} {control : Control},
      change worker = some { worker with control := control } →
        engine.onWorker stage change = some (engine.withPost stage
          { post with slot := .spawned { worker with control := control } }, []) := by
    intro change control same
    simp only [onWorker, found, Post.spawned?, runs, Option.bind_some, same]
  have refusal : Status := { code := .unavailable, message := "" }
  have unworked : ∀ given cancelFirst, Action.answer stage given ≠ .worker stage cancelFirst := by
    intro given cancelFirst impossible
    cases impossible
  cases control : worker.control with
  | calling request since =>
      refine ⟨.answer stage (.failure refusal), .failed refusal, rfl, rfl, unworked _, changes ?_,
        trivial, id⟩
      simp only [Worker.answer, control]
  | opening request =>
      refine ⟨.answer stage (.failure refusal), .failed refusal, rfl, rfl, unworked _, changes ?_,
        trivial, id⟩
      simp only [Worker.answer, control]
  | reading held =>
      rw [control] at awaits
      refine ⟨.endStream stage,
        .reading { held with stream := { held.stream with complete := true } }, rfl, rfl, ?_,
        changes ?_, trivial, ?_⟩
      · intro cancelFirst impossible
        cases impossible
      · simp only [Worker.endStream, Worker.onStream, control, awaits.2, Bool.false_eq_true, if_false]
      · intro still
        cases still.2
  | checking | parking | gated | passing | fetching | answered | delivering | failed | withdrawing
    | reporting | lingering | failing | condemned | stopping | ended | crashed =>
      rw [control] at awaits
      cases awaits

theorem Staffed.resumed (staffed : engine.Staffed onFatal) (survives : onFatal ≠ .crash)
    (found : engine.posts[stage]? = some post) (runs : post.slot = .spawned worker)
    (closed : post.stage.lifecycle.Closed) (awaits : worker.control.AwaitsRemote) :
    ∃ action middle last done, action.Completes stage ∧ action.supply = 0 ∧
      (∀ cancelFirst, action ≠ .worker stage cancelFirst) ∧
      engine.act action = some (middle, []) ∧
      middle.act (.worker stage false) = some (last, done) := by
  obtain ⟨action, control, completes, supply, apart, acts, passing, free⟩ :=
    answer_of_awaits found runs awaits
  have still := staffed.acted (act_acted acts)
  cases steps : (engine.withPost stage
      { post with slot := .spawned { worker with control := control } }).stepWorker stage false with
  | none =>
      rcases still.blocked survives (post_withPost found) rfl closed steps with
        (ended | ⟨token, held, fetches, _⟩) | stuck
      · change control = .ended at ended
        subst ended
        cases passing
      · change control = .fetching token (.joining .collapsed) at fetches
        subst fetches
        cases passing
      · exact absurd stuck free
  | some moved => exact ⟨action, _, moved.1, moved.2, completes, supply, apart, acts, steps⟩

private def Unaided (ids : List LinkId) (stage : StageId) (past : List Occurrence) : Prop :=
  putsTo ids stage past = 0 ∧ itemsFor stage past = 0

private theorem Unaided.append {past later : List Occurrence} (first : Unaided ids stage past)
    (second : Unaided ids stage later) : Unaided ids stage (past ++ later) := by
  obtain ⟨puts, items⟩ := first
  obtain ⟨morePuts, moreItems⟩ := second
  unfold putsTo at puts morePuts
  unfold itemsFor at items moreItems
  constructor
  · unfold putsTo
    rw [List.map_append, List.sum_append, puts, morePuts]
  · unfold itemsFor
    rw [List.map_append, List.sum_append, items, moreItems]

private theorem steps_single :
    stepsOf stage [{ action := .worker stage cancelFirst, effects := effects }] = 1 ∧
      Unaided ids stage [{ action := .worker stage cancelFirst, effects := effects }] := by
  refine ⟨?_, ?_, rfl⟩
  · unfold stepsOf
    rw [List.countP_singleton, isStepOf_worker, if_pos rfl]
  · unfold putsTo Occurrence.puts
    rw [List.map_singleton, List.sum_singleton, isStepOf_worker, if_pos rfl]

private theorem steps_answered {action : Action} (supply : action.supply = 0)
    (apart : ∀ cancelFirst, action ≠ .worker stage cancelFirst) :
    stepsOf stage [{ action := action, effects := [] }] = 0 ∧
      Unaided ids stage [{ action := action, effects := [] }] := by
  have items := action.items_le_supply stage
  refine ⟨?_, ?_, ?_⟩
  · unfold stepsOf
    rw [List.countP_singleton, isStepOf_other apart]
    rfl
  · unfold putsTo Occurrence.puts
    rw [List.map_singleton, List.sum_singleton, isStepOf_other apart]
    rfl
  · change action.items stage + 0 = 0
    omega

/-- A finished stage's worker can be brought to its end, by its own steps and by answers to it. -/
theorem Owes.completes (staffed : engine.Staffed onFatal) (survives : onFatal ≠ .crash)
    (owes : engine.Owes stage (Input.Spans fields ids) (InputCall.distance fields ids) width cost) :
    ∃ actions last later post, perform actions engine = some (last, later) ∧
      (∀ action ∈ actions, action.Completes stage) ∧ last.posts[stage]? = some post ∧ post.Ended := by
  -- every round of it uses up a step that the worker owes
  induction cost using Nat.strongRecOn generalizing engine with
  | ind cost ih =>
      have advances : ∀ {actions : List Action} {next : Engine} {past : List Occurrence},
          perform actions engine = some (next, past) →
          (∀ action ∈ actions, action.Completes stage) → stepsOf stage past = 1 →
          Unaided ids stage past →
          ∃ actions last later post, perform actions engine = some (last, later) ∧
            (∀ action ∈ actions, action.Completes stage) ∧ last.posts[stage]? = some post ∧
              post.Ended := by
        intro actions next past performed completes steps unaided
        have reached : Reaches (fun _ _ => True) engine next past :=
          reaches_perform .started (fun _ _ _ => trivial) performed
        obtain ⟨left, still, counts⟩ := owes.reached measures_distance staffed reached
        rw [steps, sum_map_puts, unaided.1, unaided.2] at counts
        obtain ⟨more, last, later, post, remaining, finishes, found, ended⟩ :=
          ih left (by omega) (staffed.reached reached) still
        refine ⟨actions ++ more, last, past ++ later, post, perform_append performed remaining, ?_,
          found, ended⟩
        intro action member
        rcases List.mem_append.mp member with early | late
        · exact completes action early
        · exact finishes action late
      obtain ⟨post, worker, found, runs, closed, _⟩ := owes
      cases steps : engine.stepWorker stage false with
      | some moved =>
          have acts : engine.act (.worker stage false) = some (moved.1, moved.2) := steps
          obtain ⟨stepped, unaided⟩ := @steps_single stage false moved.2 ids
          refine advances (perform_single acts) ?_ stepped unaided
          intro action member
          exact List.mem_singleton.mp member ▸ rfl
      | none =>
          rcases staffed.blocked survives found runs closed steps with ended | awaits
          · refine ⟨[], engine, [], post, rfl, ?_, found, worker, runs, ended⟩
            intro action impossible
            cases impossible
          · obtain ⟨action, middle, last, done, completes, supply, apart, acts, resumes⟩ :=
              staffed.resumed survives found runs closed awaits
            obtain ⟨unstepped, nothing⟩ := @steps_answered stage ids action supply apart
            obtain ⟨stepped, silent⟩ := @steps_single stage false done ids
            refine advances (perform_append (perform_single acts) (perform_single resumes)) ?_ ?_
              (nothing.append silent)
            · intro other member
              rcases List.mem_cons.mp member with here | later
              · exact here ▸ completes
              · exact List.mem_singleton.mp later ▸ rfl
            · unfold stepsOf at unstepped stepped ⊢
              rw [List.countP_append, unstepped, stepped]

end Engine
end Sluice
