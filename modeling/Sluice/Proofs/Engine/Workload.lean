import Mathlib.Algebra.Order.BigOperators.Group.List
import Mathlib.Algebra.Order.Group.Nat
import Sluice.Proofs.Engine.Effort

set_option autoImplicit false

/-! The work that is left to all workers together once their stages have finished. Each step of a worker
takes some of it away, and what the worker reports takes more; only packets on links and items of streams
that come from outside add to it. -/

namespace Sluice

/-- A finished stage whose worker the tariff covers. -/
structure Post.Retiring (tariff : Tariff) (post : Post) : Prop where
  closed : post.stage.lifecycle.Closed
  within : ∀ worker, post.slot = .spawned worker → worker.Within tariff

def WorkerSlot.effort (tariff : Tariff) : WorkerSlot → Nat
  | .spawned worker => worker.effort tariff
  | .absent | .ready _ => 0

def WorkerSlot.visit : WorkerSlot → Nat
  | .spawned worker => 4 * worker.input.breadth + 4
  | .absent | .ready _ => 0

def WorkerSlot.width : WorkerSlot → Nat
  | .spawned worker => worker.output.width
  | .absent | .ready _ => 0

namespace Engine

structure Retiring (tariff : Tariff) (onFatal : FatalReaction) (engine : Engine) : Prop where
  staffed : engine.Staffed onFatal
  posts : ∀ (stage : StageId) (post : Post), engine.posts[stage]? = some post →
    post.Retiring tariff

/-- The steps that the workers have left, and what those cost others. -/
def work (tariff : Tariff) (engine : Engine) : Nat :=
  (engine.slots.map (WorkerSlot.effort tariff)).sum + tariff.visit * engine.links.load

variable {engine next : Engine} {stage : StageId} {action : Action} {cancelFirst : Bool}
  {effects : List Effect} {post moved : Post} {onFatal : FatalReaction} {tariff : Tariff}

private theorem Befalls.retiring (retiring : post.Retiring tariff)
    (befalls : engine.Befalls stage post action effects moved) : moved.Retiring tariff := by
  refine ⟨befalls.asked.closed retiring.closed, ?_⟩
  intro worker spawned
  cases befalls with
  | rested => exact retiring.within worker spawned
  | worked runs step =>
      cases spawned
      exact step.within (retiring.within _ runs)
  | failed runs | told runs =>
      cases spawned
      have before := retiring.within _ runs
      exact ⟨before.visit, before.width⟩

theorem Retiring.acted (retiring : engine.Retiring tariff onFatal)
    (acted : engine.Acted action next effects) : next.Retiring tariff onFatal := by
  constructor
  · exact retiring.staffed.acted acted
  · intro stage moved found
    obtain ⟨post, original, befalls⟩ := acted.befalls found
    exact befalls.retiring (retiring.posts stage post original)

theorem Retiring.works (retiring : engine.Retiring tariff onFatal) (survives : onFatal ≠ .crash)
    (acted : engine.Acted (.worker stage cancelFirst) next effects) :
    next.work tariff + 1 + tariff.report * Effect.reportsIn effects ≤ engine.work tariff := by
  obtain ⟨post, worker, stepped, posts, notices, found, runs, step, same, did, slots⟩ := acted.steps
  obtain ⟨closed, within⟩ := retiring.posts stage post found
  have less := step.effort (within worker runs) (poised_of_staffed retiring.staffed found runs) closed
  have slot := slot_of_post found
  rw [runs] at slot
  have balance := @sum_map_set _ (WorkerSlot.effort tariff) _ _ _ (.spawned stepped.worker) slot
  change _ + worker.effort tariff = _ + stepped.worker.effort tariff at balance
  rcases slots with moved | ⟨crashes, _⟩
  · have links : next.links = stepped.links := by rw [same]
    unfold work
    rw [moved, links, did, Effect.reportsIn_noted]
    omega
  · exact absurd (retiring.staffed.reaction.symm.trans crashes) survives

private theorem work_same (slots : next.slots = engine.slots) (links : next.links = engine.links) :
    next.work tariff ≤ engine.work tariff := by
  unfold work
  rw [slots, links]

theorem Acted.supplied (acted : engine.Acted action next effects)
    (rests : ∀ stage cancelFirst, action ≠ .worker stage cancelFirst) :
    next.work tariff ≤
      engine.work tariff + (2 * tariff.visit + tariff.item) * action.supply := by
  have load := Nat.mul_le_mul_left tariff.visit acted.load
  cases acted with
  | worked | collapsed => exact absurd rfl (rests _ _)
  | supervised found step =>
      apply Nat.le_add_right_of_le
      exact work_same (slots_withLifecycles (step.length.trans length_lifecycles)) rfl
  | requested =>
      apply Nat.le_add_right_of_le
      exact work_same
        (slots_withLifecycles (Lifecycles.length_request.trans length_lifecycles)) rfl
  | @told action acting post worker control found runs told =>
      have slot := slot_of_post found
      rw [runs] at slot
      have balance := @sum_map_set _ (WorkerSlot.effort tariff) _ _ _
        (.spawned { worker with control := control }) slot
      change _ + worker.control.effort tariff (InputCall.effort worker.input.breadth) =
        _ + control.effort tariff (InputCall.effort worker.input.breadth) at balance
      have more := @Worker.told_effort tariff _ control (InputCall.effort worker.input.breadth) _ _ _ told
      have brought := Nat.mul_le_mul_left tariff.item (action.items_le_supply acting)
      rw [Nat.mul_comm] at more
      have slots : (engine.afterTold acting post worker control).slots =
          engine.slots.set acting (.spawned { worker with control := control }) := slots_withPost
      unfold work
      rw [slots, Nat.add_mul]
      change _ + tariff.visit * engine.links.load ≤ _
      omega
  | @put link packet =>
      rw [List.filterMap_cons, Effect.stored_silent fun _ => Effect.silent_ofNotices, Nat.mul_add] at load
      change tariff.visit * (engine.links.put link packet).1.load ≤
        tariff.visit * engine.links.load + tariff.visit * 2 at load
      unfold work
      change (engine.slots.map (WorkerSlot.effort tariff)).sum +
        tariff.visit * (engine.links.put link packet).1.load ≤ _ + (_ + _) * 1
      omega
  | took =>
      unfold work
      exact Nat.le_add_right_of_le (Nat.add_le_add_left load _)
  | awaited | closing | joined | published | closed | stopped | elapsed =>
      exact Nat.le_add_right_of_le (work_same rfl rfl)

end Engine
end Sluice
