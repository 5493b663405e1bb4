import Mathlib.Algebra.GroupWithZero.Nat
import Sluice.Proofs.Link.Wait

set_option autoImplicit false

/-! What links still have in store for those who wait on them: packets, rings that were kept, and wake-ups
that were not used. Puts add to it, waits only take from it, and a wait whose token has fired comes to
an end unless it takes from it. -/

namespace Sluice

theorem sum_map_set {α : Type} (cost : α → Nat) {list : List α} {place : Nat} {old new : α}
    (found : list[place]? = some old) :
    ((list.set place new).map cost).sum + cost old = (list.map cost).sum + cost new := by
  induction list generalizing place with
  | nil => cases found
  | cons head rest ih =>
      cases place with
      | zero =>
          cases found
          simp only [List.set_cons_zero, List.map_cons, List.sum_cons]
          omega
      | succ place =>
          have later := ih found
          simp only [List.set_cons_succ, List.map_cons, List.sum_cons]
          omega

/-- The steps that a wait can take before it comes to an end or finds something. -/
def Posture.effort : Posture → Nat
  | .looking => 2
  | .turning | .parked => 1

theorem Posture.effort_le (posture : Posture) : posture.effort ≤ 2 := by
  cases posture <;> decide

namespace Bell

/-- How often a bell can still bring its listener back to look. -/
def load (bell : Bell) : Nat :=
  (if bell.permit then 1 else 0) + (if bell.listener = .woken then 1 else 0)

variable {bell : Bell}

theorem load_ring : bell.ring.load ≤ bell.load + 1 := by
  obtain ⟨permit, listener⟩ := bell
  cases permit <;> cases listener <;> decide

theorem load_park : bell.park.load ≤ bell.load := by
  obtain ⟨permit, listener⟩ := bell
  cases permit <;> cases listener <;> decide

theorem load_abandon : bell.abandon.load ≤ bell.load := by
  obtain ⟨permit, listener⟩ := bell
  cases permit <;> cases listener <;> decide

theorem load_spendPermit (permitted : bell.permit = true) : bell.spendPermit.load + 1 = bell.load := by
  obtain ⟨permit, listener⟩ := bell
  cases permitted
  cases listener <;> decide

theorem load_leave (woken : bell.listener = .woken) : bell.leave.load + 1 = bell.load := by
  obtain ⟨permit, listener⟩ := bell
  cases woken
  cases permit <;> decide

end Bell

namespace Link

def load (link : Link) : Nat :=
  (if link.slot.isSome then 1 else 0) + link.bell.load

variable {accept : Packet → Bool} {fired cancelFirst : Bool} {posture : Posture} {link : Link}
  {stepped : WaitStep} {packet : Packet}

theorem load_put : (link.put packet).1.load ≤ link.load + 2 := by
  have rung := @Bell.load_ring link.bell
  change 1 + link.bell.ring.load ≤ (if link.slot.isSome then 1 else 0) + link.bell.load + 2
  omega

theorem load_emptied : Link.load { link with slot := none } ≤ link.load := by
  change 0 + link.bell.load ≤ (if link.slot.isSome then 1 else 0) + link.bell.load
  omega

theorem load_occupied (slot : link.slot = some packet) :
    Link.load { link with slot := none } + 1 = link.load := by
  unfold load
  rw [slot]
  change 0 + link.bell.load + 1 = 1 + link.bell.load
  omega

theorem load_bell {bell : Bell} :
    Link.load { link with bell := bell } + link.bell.load = link.load + bell.load := by
  change (if link.slot.isSome then 1 else 0) + bell.load + link.bell.load =
    (if link.slot.isSome then 1 else 0) + link.bell.load + bell.load
  omega

/-- A wait only ever takes from the load of its link. A packet that it brings, and once its token has
fired every turn that brings it back to look, is taken from there. -/
structure Spends (fired : Bool) (posture : Posture) (link : Link) (stepped : WaitStep) : Prop where
  within : stepped.link.load ≤ link.load
  taken : ∀ packet, stepped.outcome = .taken packet → stepped.link.load + 1 ≤ link.load
  waiting : fired = true → ∀ next, stepped.outcome = .waiting next →
    stepped.link.load + 1 ≤ link.load ∨ next.effort + 1 ≤ posture.effort

private theorem spends_looking
    (moved : link.stepWait accept fired cancelFirst .looking = some stepped) :
    link.Spends fired .looking stepped := by
  simp only [stepWait] at moved
  cases slot : link.slot with
  | none =>
      simp only [slot, Option.some.injEq] at moved
      subst moved
      refine ⟨Nat.le_refl _, ?_, ?_⟩
      · intro packet impossible
        cases impossible
      · intro _ next same
        cases same
        exact Or.inr (Nat.le_refl _)
  | some packet =>
      have emptied := load_occupied slot
      cases approved : accept packet with
      | true =>
          simp only [slot, approved, if_true, Option.some.injEq] at moved
          subst moved
          refine ⟨Nat.le_of_succ_le (Nat.le_of_eq emptied), fun _ _ => Nat.le_of_eq emptied, ?_⟩
          intro _ next impossible
          cases impossible
      | false =>
          simp only [slot, approved, Bool.false_eq_true, if_false, Option.some.injEq] at moved
          subst moved
          exact ⟨Nat.le_of_succ_le (Nat.le_of_eq emptied), fun _ _ => Nat.le_of_eq emptied,
            fun _ _ _ => Or.inl (Nat.le_of_eq emptied)⟩

private theorem spends_turning
    (moved : link.stepWait accept fired cancelFirst .turning = some stepped) :
    link.Spends fired .turning stepped := by
  simp only [stepWait] at moved
  split at moved
  · cases moved
    refine ⟨Nat.le_refl _, ?_, ?_⟩
    · intro packet impossible
      cases impossible
    · intro _ next impossible
      cases impossible
  · rename_i unheeded
    split at moved
    · rename_i permitted
      cases moved
      have spent := Bell.load_spendPermit permitted
      have less := @load_bell link link.bell.spendPermit
      have spends : Link.load { link with bell := link.bell.spendPermit } + 1 ≤ link.load := by omega
      refine ⟨Nat.le_of_succ_le spends, fun _ _ => spends, fun _ _ _ => Or.inl spends⟩
    · rename_i silent
      cases moved
      have parked := @Bell.load_park link.bell
      have less := @load_bell link link.bell.park
      refine ⟨?_, ?_, ?_⟩
      · change Link.load { link with bell := link.bell.park } ≤ link.load
        omega
      · intro packet impossible
        cases impossible
      · intro fires
        -- a fired token is heeded where the bell is silent
        rw [fires, eq_false_of_ne_true silent] at unheeded
        exact absurd (Bool.or_true cancelFirst) unheeded

private theorem spends_parked
    (moved : link.stepWait accept fired cancelFirst .parked = some stepped) :
    link.Spends fired .parked stepped := by
  simp only [stepWait] at moved
  split at moved
  · cases moved
    have abandoned := @Bell.load_abandon link.bell
    have less := @load_bell link link.bell.abandon
    refine ⟨?_, ?_, ?_⟩
    · change Link.load { link with bell := link.bell.abandon } ≤ link.load
      omega
    · intro packet impossible
      cases impossible
    · intro _ next impossible
      cases impossible
  · split at moved
    · rename_i woken
      cases moved
      have left := Bell.load_leave (of_decide_eq_true woken)
      have less := @load_bell link link.bell.leave
      have spends : Link.load { link with bell := link.bell.leave } + 1 ≤ link.load := by omega
      refine ⟨Nat.le_of_succ_le spends, fun _ _ => spends, fun _ _ _ => Or.inl spends⟩
    · cases moved

theorem stepWait_spends (moved : link.stepWait accept fired cancelFirst posture = some stepped) :
    link.Spends fired posture stepped := by
  cases posture with
  | looking => exact spends_looking moved
  | turning => exact spends_turning moved
  | parked => exact spends_parked moved

/-- The steps to the end of a wait that takes whatever comes, as long as nobody else takes from the link.
What is put there meanwhile only hastens its end. -/
def patience (posture : Posture) (link : Link) : Nat :=
  if link.slot.isSome then 3 - posture.effort else posture.effort + 2 * link.bell.load + 1

end Link

namespace LinkStore

def load (store : LinkStore) : Nat :=
  (store.links.map Link.load).sum

variable {store : LinkStore} {id : LinkId} {link : Link} {packet : Packet}

theorem load_set (known : id < store.next) :
    (store.set id link).load + (store.get id).load = store.load + link.load := by
  have found : store.links[id]? = some (store.get id) := by
    unfold get
    rw [List.getD_eq_getElem?_getD, List.getElem?_eq_getElem known]
    rfl
  exact sum_map_set Link.load found

theorem set_unknown (unknown : ¬ id < store.next) : store.set id link = store := by
  unfold set
  rw [List.set_eq_of_length_le (Nat.le_of_not_lt unknown)]

theorem load_set_less {spent : Nat} (less : link.load + spent ≤ (store.get id).load) :
    (store.set id link).load + spent ≤ store.load := by
  by_cases known : id < store.next
  · have balance := @load_set store id link known
    omega
  · rw [get_unknown known] at less
    have nothing : (Link.labelled "").load = 0 := rfl
    rw [set_unknown known]
    omega

theorem load_put : (store.put id packet).1.load ≤ store.load + 2 := by
  change (store.set id ((store.get id).put packet).1).load ≤ store.load + 2
  have more := @Link.load_put (store.get id) packet
  by_cases known : id < store.next
  · have balance := @load_set store id ((store.get id).put packet).1 known
    omega
  · rw [set_unknown known]
    omega

def loadOf (ids : List LinkId) (store : LinkStore) : Nat :=
  (ids.map fun id => (store.get id).load).sum

variable {ids : List LinkId}

private theorem load_get_set {spent : Nat} (less : link.load + spent ≤ (store.get id).load) :
    ((store.set id link).get id).load + spent ≤ (store.get id).load := by
  by_cases known : id < store.next
  · rw [get_set_same known]
    exact less
  · have nothing : (store.get id).load = 0 := by
      rw [get_unknown known]
      rfl
    rw [set_unknown known]
    omega

theorem loadOf_set_le (less : link.load ≤ (store.get id).load) :
    (store.set id link).loadOf ids ≤ store.loadOf ids := by
  induction ids with
  | nil => exact Nat.le_refl 0
  | cons head rest ih =>
      have here : ((store.set id link).get head).load ≤ (store.get head).load := by
        by_cases same : id = head
        · subst same
          exact @load_get_set store id link 0 less
        · exact Nat.le_of_eq (congrArg Link.load (get_set_other same))
      simp only [loadOf, List.map_cons, List.sum_cons] at ih ⊢
      omega

theorem loadOf_set_less (listed : id ∈ ids) (less : link.load + 1 ≤ (store.get id).load) :
    (store.set id link).loadOf ids + 1 ≤ store.loadOf ids := by
  induction ids with
  | nil => cases listed
  | cons head rest ih =>
      by_cases same : id = head
      · subst same
        have here := load_get_set less
        have others : (store.set id link).loadOf rest ≤ store.loadOf rest := loadOf_set_le (by omega)
        simp only [loadOf, List.map_cons, List.sum_cons] at others ⊢
        omega
      · have later := ih ((List.mem_cons.mp listed).resolve_left same)
        simp only [loadOf, List.map_cons, List.sum_cons, get_set_other same] at later ⊢
        omega

theorem loadOf_put : (store.put id packet).1.loadOf ids ≤ store.loadOf ids + 2 * ids.count id := by
  induction ids with
  | nil => exact Nat.zero_le _
  | cons head rest ih =>
      change (store.set id ((store.get id).put packet).1).loadOf (head :: rest) ≤ _
      change (store.set id ((store.get id).put packet).1).loadOf rest ≤ _ at ih
      by_cases same : id = head
      · subst same
        have here : ((store.set id ((store.get id).put packet).1).get id).load ≤
            (store.get id).load + 2 := by
          by_cases known : id < store.next
          · rw [get_set_same known]
            exact Link.load_put
          · rw [set_unknown known]
            exact Nat.le_add_right _ _
        rw [List.count_cons_self]
        simp only [loadOf, List.map_cons, List.sum_cons] at ih ⊢
        omega
      · rw [List.count_cons_of_ne (Ne.symm same)]
        simp only [loadOf, List.map_cons, List.sum_cons, get_set_other same] at ih ⊢
        omega

/-- A way to count what links have in store: what one of these links loses is lost from the count, others
only ever add to it what is put on them. -/
structure Gauges (ids : List LinkId) (weight : LinkId → Nat) (gauge : LinkStore → Nat) : Prop where
  keeps : ∀ {store : LinkStore} {id : LinkId} {link : Link}, link.load ≤ (store.get id).load →
    gauge (store.set id link) ≤ gauge store
  loses : ∀ {store : LinkStore} {id : LinkId} {link : Link}, id ∈ ids →
    link.load + 1 ≤ (store.get id).load → gauge (store.set id link) + 1 ≤ gauge store
  gains : ∀ {store : LinkStore} {id : LinkId} {packet : Packet},
    gauge (store.put id packet).1 ≤ gauge store + 2 * weight id

theorem gauges_load : Gauges ids (fun _ => 1) load :=
  ⟨fun less => @load_set_less _ _ _ 0 less, fun _ less => load_set_less less, load_put⟩

theorem gauges_loadOf : Gauges ids (fun id => ids.count id) (loadOf ids) :=
  ⟨fun less => loadOf_set_le less, fun listed less => loadOf_set_less listed less, loadOf_put⟩

/-- Nothing changes but one of these links, and this one has no more in store than before. -/
inductive Touched (ids : List LinkId) (before : LinkStore) : LinkStore → Prop
  | same : Touched ids before before
  | set {id : LinkId} {link : Link} (listed : id ∈ ids) (less : link.load ≤ (before.get id).load) :
      Touched ids before (before.set id link)

theorem Touched.elsewhere {id : LinkId} {after : LinkStore} (touched : Touched ids store after)
    (apart : id ∉ ids) : after.get id = store.get id := by
  cases touched with
  | same => rfl
  | set listed =>
      apply get_set_other
      intro same
      exact apart (same ▸ listed)

theorem Gauges.touched {weight : LinkId → Nat} {gauge : LinkStore → Nat} {touchable : List LinkId}
    {after : LinkStore} (gauges : Gauges ids weight gauge) (touched : Touched touchable store after) :
    gauge after ≤ gauge store := by
  cases touched with
  | same => exact Nat.le_refl _
  | set _ less => exact gauges.keeps less

end LinkStore
end Sluice
