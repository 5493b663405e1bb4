import Sluice.Proofs.Engine.Stagewise
import Sluice.Proofs.Worker.Poised

set_option autoImplicit false

/-! An engine all of whose stages have workers that can be woken, whatever its tasks and its surroundings
do. -/

namespace Sluice

/-- The worker of the stage runs, or the reaction to its failure tore it down. -/
structure Post.Staffed (onFatal : FatalReaction) (post : Post) : Prop where
  lawful : post.stage.lifecycle.Lawful
  works : ∃ worker, post.slot = .spawned worker ∧ worker.Poised post.stage.lifecycle ∧
    (worker.control = .crashed → onFatal = .crash)

theorem Post.Staffed.asked {onFatal : FatalReaction} {post : Post} {life : Lifecycle}
    (staffed : post.Staffed onFatal) (asked : post.stage.lifecycle.Asked life) :
    (post.setLifecycle life).Staffed onFatal := by
  obtain ⟨lawful, worker, spawned, poised, torn⟩ := staffed
  exact ⟨asked.lawful lawful, worker, spawned, poised.asked asked, torn⟩

theorem Told.passing {now : Duration} {stage : StageId} {action : Action} {control next : Control}
    (told : Told now stage action control next) : next.Passing := by
  cases told <;> trivial

namespace Engine

variable {engine next first last : Engine} {action : Action} {effects : List Effect}
  {stage : StageId} {post moved : Post} {onFatal : FatalReaction} {past : List Occurrence}
  {allowed : Engine → Action → Prop}

theorem Acted.reaction (acted : engine.Acted action next effects) :
    next.onFatal = engine.onFatal := by
  cases acted with
  | @collapsed stage cancelFirst post worker stepped =>
      obtain ⟨posts, _, same⟩ := reactTo_posts (engine.afterWorker stage post stepped) stage
      rw [same]
      rfl
  | worked | told | supervised | requested | awaited | closing | joined | put | took | published
    | closed | stopped | elapsed => rfl

theorem Befalls.asked (befalls : engine.Befalls stage post action effects moved) :
    post.stage.lifecycle.Asked moved.stage.lifecycle := by
  cases befalls with
  | rested asked => exact asked
  | worked runs step => exact step.asked
  | failed runs control asked => exact asked
  | told => exact .left

theorem Acted.onward (acted : engine.Acted action next effects)
    (found : engine.posts[stage]? = some post) :
    ∃ moved, next.posts[stage]? = some moved ∧ engine.Befalls stage post action effects moved := by
  have bound := (List.getElem?_eq_some_iff.mp found).1
  rw [← acted.length] at bound
  have there : next.posts[stage]? = some next.posts[stage] := List.getElem?_eq_getElem bound
  obtain ⟨earlier, original, befalls⟩ := acted.befalls there
  cases found.symm.trans original
  exact ⟨_, there, befalls⟩

theorem Reaches.closed (reached : Reaches allowed first last past)
    (found : first.posts[stage]? = some post) (closed : post.stage.lifecycle.Closed) :
    ∃ moved, last.posts[stage]? = some moved ∧ moved.stage.lifecycle.Closed := by
  induction reached with
  | started => exact ⟨post, found, closed⟩
  | acted before allows acts ih =>
      obtain ⟨earlier, original, still⟩ := ih
      obtain ⟨moved, there, befalls⟩ := (act_acted acts).onward original
      exact ⟨moved, there, befalls.asked.closed still⟩
  | joined before ih => exact ih

private theorem uncrashed_of_passing {control : Control} (passing : control.Passing) :
    control = .crashed → onFatal = .crash := by
  intro crashed
  rw [crashed] at passing
  cases passing

theorem Befalls.staffed (staffed : post.Staffed engine.onFatal)
    (befalls : engine.Befalls stage post action effects moved) : moved.Staffed engine.onFatal := by
  have before := staffed
  obtain ⟨lawful, worker, spawned, poised, torn⟩ := staffed
  cases befalls with
  | rested asked => exact before.asked asked
  | @worked cancelFirst acting stepped runs step =>
      cases spawned.symm.trans runs
      refine ⟨step.asked.lawful lawful, stepped.worker, rfl, poised.step lawful.sound step, ?_⟩
      intro crashed
      exact absurd crashed step.uncrashed
  | failed runs control asked ends =>
      cases spawned.symm.trans runs
      rcases ends with condemned | ⟨crashed, reaction⟩
      · subst condemned
        exact ⟨asked.lawful lawful, _, rfl, poised.turn trivial, uncrashed_of_passing trivial⟩
      · subst crashed
        refine ⟨asked.lawful lawful, _, rfl, ⟨?_, poised.joins.stop, ?_⟩, fun _ => reaction⟩
        · intro token call impossible
          cases impossible
        · intro impossible
          cases impossible
  | told runs told =>
      cases spawned.symm.trans runs
      exact ⟨lawful, _, rfl, poised.turn told.passing, uncrashed_of_passing told.passing⟩

structure Staffed (onFatal : FatalReaction) (engine : Engine) : Prop where
  reaction : engine.onFatal = onFatal
  posts : ∀ (stage : StageId) (post : Post), engine.posts[stage]? = some post → post.Staffed onFatal

theorem Staffed.acted (staffed : engine.Staffed onFatal) (acted : engine.Acted action next effects) :
    next.Staffed onFatal := by
  constructor
  · exact acted.reaction.trans staffed.reaction
  · intro stage moved found
    obtain ⟨post, original, befalls⟩ := acted.befalls found
    have before := staffed.posts stage post original
    rw [← staffed.reaction] at before ⊢
    exact befalls.staffed before

theorem Staffed.reached (staffed : first.Staffed onFatal)
    (reached : Reaches allowed first last past) : last.Staffed onFatal := by
  induction reached with
  | started => exact staffed
  | acted before allows acts ih => exact ih.acted (act_acted acts)
  | joined before ih => exact ⟨ih.reaction, ih.posts⟩

end Engine
end Sluice
