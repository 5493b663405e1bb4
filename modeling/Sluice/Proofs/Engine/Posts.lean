import Sluice.Engine
import Sluice.Proofs.Lifecycle.Request

set_option autoImplicit false

/-! Reading an engine's parts after one of them was replaced. -/

namespace Sluice
namespace Engine

variable {engine : Engine} {stage other : StageId} {post moved : Post} {lives : Lifecycles}
  {bus different : BusId} {held : ReportBus} {asked : LifecycleRequest}

theorem post_withPost (known : engine.posts[stage]? = some post) :
    (engine.withPost stage moved).posts[stage]? = some moved := by
  have bound := (List.getElem?_eq_some_iff.mp known).1
  exact List.getElem?_set_self bound

theorem post_withPost_other (apart : stage ≠ other) :
    (engine.withPost stage moved).posts[other]? = engine.posts[other]? :=
  List.getElem?_set_ne apart

theorem length_withPost : (engine.withPost stage moved).posts.length = engine.posts.length :=
  List.length_set

theorem length_lifecycles : engine.lifecycles.length = engine.posts.length :=
  List.length_map _

theorem lifecycle_of_post (found : engine.posts[stage]? = some post) :
    engine.lifecycles[stage]? = some post.stage.lifecycle := by
  unfold lifecycles
  rw [List.getElem?_map, found]
  rfl

theorem length_withLifecycles (same : lives.length = engine.posts.length) :
    (engine.withLifecycles lives).posts.length = engine.posts.length := by
  change (List.zipWith Post.setLifecycle engine.posts lives).length = _
  rw [List.length_zipWith, same, Nat.min_self]

def slots (engine : Engine) : List WorkerSlot :=
  engine.posts.map (·.slot)

theorem slot_of_post (found : engine.posts[stage]? = some post) :
    engine.slots[stage]? = some post.slot := by
  unfold slots
  rw [List.getElem?_map, found]
  rfl

theorem slot_of_set {others : List WorkerSlot} {slot : WorkerSlot}
    (found : engine.posts[stage]? = some post) (slots : engine.slots = others.set stage slot) :
    post.slot = slot := by
  have there := slot_of_post found
  rw [slots] at there
  obtain ⟨_, same⟩ := List.getElem?_eq_some_iff.mp there
  rw [List.getElem_set_self] at same
  exact same.symm

theorem slots_withPost : (engine.withPost stage moved).slots = engine.slots.set stage moved.slot :=
  List.map_set

theorem slots_withLifecycles (same : lives.length = engine.posts.length) :
    (engine.withLifecycles lives).slots = engine.slots := by
  apply List.ext_getElem?
  intro stage
  change ((List.zipWith Post.setLifecycle engine.posts lives).map (·.slot))[stage]? =
    (engine.posts.map (·.slot))[stage]?
  rw [List.getElem?_map, List.getElem?_map, List.getElem?_zipWith]
  cases found : engine.posts[stage]? with
  | none => rfl
  | some post =>
      have bound := (List.getElem?_eq_some_iff.mp found).1
      rw [List.getElem?_eq_getElem (Nat.lt_of_lt_of_eq bound same.symm)]
      rfl

theorem withLifecycles_same : engine.withLifecycles engine.lifecycles = engine := by
  have posts : List.zipWith Post.setLifecycle engine.posts engine.lifecycles = engine.posts := by
    unfold lifecycles
    rw [List.zipWith_map_right, List.zipWith_self]
    exact List.map_id _
  unfold withLifecycles
  rw [posts]

theorem post_withLifecycles (found : (engine.withLifecycles lives).posts[stage]? = some moved) :
    ∃ post life, engine.posts[stage]? = some post ∧ lives[stage]? = some life ∧
      moved = post.setLifecycle life := by
  change (List.zipWith Post.setLifecycle engine.posts lives)[stage]? = some moved at found
  rw [List.getElem?_zipWith] at found
  cases atStage : engine.posts[stage]? with
  | none =>
      rw [atStage] at found
      cases found
  | some post =>
      cases changed : lives[stage]? with
      | none =>
          rw [atStage, changed] at found
          cases found
      | some life =>
          rw [atStage, changed] at found
          exact ⟨post, life, rfl, rfl, (Option.some.inj found).symm⟩

theorem post_requested
    (found : (engine.withLifecycles (engine.lifecycles.request stage asked).1).posts[other]? =
      some moved) :
    ∃ post, engine.posts[other]? = some post ∧
      (stage = other ∧ moved = post.setLifecycle (post.stage.lifecycle.request asked).1 ∨
        stage ≠ other ∧ moved = post) := by
  obtain ⟨post, life, original, changed, same⟩ := post_withLifecycles found
  have before := lifecycle_of_post original
  refine ⟨post, original, ?_⟩
  by_cases here : stage = other
  · subst here
    rw [Lifecycles.request_same, before] at changed
    cases changed
    exact Or.inl ⟨rfl, same⟩
  · rw [Lifecycles.request_other here, before] at changed
    cases changed
    exact Or.inr ⟨here, same⟩

theorem post_swept
    (found : (engine.withLifecycles (Lifecycles.sweep asked [stage] engine.lifecycles).1).posts[other]? =
      some moved) :
    ∃ post, engine.posts[other]? = some post ∧
      (stage = other ∧ post.stage.lifecycle.phase ≠ .finished ∧
          moved = post.setLifecycle (post.stage.lifecycle.request asked).1 ∨
        (stage = other → post.stage.lifecycle.phase = .finished) ∧ moved = post) := by
  rw [Lifecycles.sweep_single] at found
  cases live : Lifecycles.isLive engine.lifecycles stage with
  | false =>
      rw [live, if_neg Bool.false_ne_true] at found
      obtain ⟨post, life, original, kept, same⟩ := post_withLifecycles found
      cases (lifecycle_of_post original).symm.trans kept
      refine ⟨post, original, Or.inr ⟨?_, same⟩⟩
      intro here
      subst here
      simpa [Lifecycles.isLive, kept, Lifecycle.isFinished] using live
  | true =>
      rw [live, if_pos rfl] at found
      obtain ⟨post, original, ⟨here, same⟩ | ⟨apart, same⟩⟩ := post_requested found
      · subst here
        refine ⟨post, original, Or.inl ⟨rfl, ?_, same⟩⟩
        have kept := lifecycle_of_post original
        simpa [Lifecycles.isLive, kept, Lifecycle.isFinished] using live
      · exact ⟨post, original, Or.inr ⟨fun here => absurd here apart, same⟩⟩

theorem post_finishAll (found : engine.finishAll.1.posts[stage]? = some moved) :
    ∃ post, engine.posts[stage]? = some post ∧
      moved = post.setLifecycle post.stage.lifecycle.finish.1 := by
  obtain ⟨post, life, original, changed, same⟩ := post_withLifecycles found
  have unique : engine.allStages.Nodup := List.nodup_range
  have listed : stage ∈ engine.allStages :=
    List.mem_range.mpr (List.getElem?_eq_some_iff.mp original).1
  rw [Lifecycles.requestAll_listed unique listed, lifecycle_of_post original] at changed
  cases changed
  exact ⟨post, original, same⟩

theorem busAt_withBus (known : bus < engine.buses.length) :
    (engine.withBus bus held).busAt bus = held := by
  unfold busAt withBus
  rw [List.getD_eq_getElem?_getD, List.getElem?_set_self known]
  rfl

theorem busAt_withBus_other (apart : bus ≠ different) :
    (engine.withBus bus held).busAt different = engine.busAt different := by
  unfold busAt withBus
  rw [List.getD_eq_getElem?_getD, List.getD_eq_getElem?_getD]
  change ((engine.buses.set bus held)[different]?).getD _ = _
  rw [List.getElem?_set_ne apart]

theorem length_withBus : (engine.withBus bus held).buses.length = engine.buses.length :=
  List.length_set

end Engine
end Sluice
