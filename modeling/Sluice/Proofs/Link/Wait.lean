import Sluice.Link.Store

set_option autoImplicit false

/-! What one step of a wait does to its link, case by case: it empties the slot, or leaves the slot as
it is and changes the bell alone. Links other than the one waited on stay as they are. -/

namespace Sluice

inductive Link.Waited (accept : Packet → Bool) (link : Link) : Posture → WaitStep → Prop
  | taken {packet : Packet} (slot : link.slot = some packet) (approved : accept packet = true) :
      Waited accept link .looking
        { link := { link with slot := none }, outcome := .taken packet, notices := [] }
  | discarded {packet : Packet} (slot : link.slot = some packet)
      (refused : accept packet = false) :
      Waited accept link .looking
        { link := { link with slot := none }, outcome := .waiting .looking
          notices := [link.discarding packet] }
  | turned (slot : link.slot = none) :
      Waited accept link .looking { link := link, outcome := .waiting .turning, notices := [] }
  | listened {posture next : Posture} {bell : Bell} (blind : posture ≠ .looking) :
      Waited accept link posture
        { link := { link with bell := bell }, outcome := .waiting next, notices := [] }
  | cancelled {posture : Posture} {bell : Bell} (blind : posture ≠ .looking) :
      Waited accept link posture
        { link := { link with bell := bell }, outcome := .cancelled, notices := [] }

theorem Link.stepWait_waited {accept : Packet → Bool} {fired cancelFirst : Bool}
    {posture : Posture} {link : Link} {stepped : WaitStep}
    (moved : link.stepWait accept fired cancelFirst posture = some stepped) :
    link.Waited accept posture stepped := by
  cases posture with
  | looking =>
      simp only [stepWait] at moved
      cases slot : link.slot with
      | none =>
          simp only [slot, Option.some.injEq] at moved
          subst moved
          exact .turned slot
      | some packet =>
          cases approved : accept packet with
          | true =>
              simp only [slot, approved, if_true, Option.some.injEq] at moved
              subst moved
              exact .taken slot approved
          | false =>
              simp only [slot, approved, Bool.false_eq_true, if_false, Option.some.injEq] at moved
              subst moved
              exact .discarded slot approved
  | turning =>
      simp only [stepWait] at moved
      split at moved
      · cases moved
        exact @Waited.cancelled accept link .turning link.bell (by decide)
      · split at moved
        · cases moved
          exact .listened (by decide)
        · cases moved
          exact .listened (by decide)
  | parked =>
      simp only [stepWait] at moved
      split at moved
      · cases moved
        exact .cancelled (by decide)
      · split at moved
        · cases moved
          exact .listened (by decide)
        · cases moved

theorem Link.stepWait_fired {accept : Packet → Bool} {cancelFirst : Bool} {posture : Posture}
    {link : Link} : ∃ stepped, link.stepWait accept true cancelFirst posture = some stepped := by
  cases posture with
  | looking =>
      simp only [stepWait]
      cases link.slot with
      | none => exact ⟨_, rfl⟩
      | some packet => cases approved : accept packet <;> simp [approved]
  | turning =>
      simp only [stepWait]
      cases link.bell.permit <;> cases cancelFirst <;> exact ⟨_, rfl⟩
  | parked =>
      simp only [stepWait]
      by_cases woken : link.bell.listener = .woken
      · cases cancelFirst <;> simp [woken]
      · cases cancelFirst <;> simp [woken]

theorem Link.acceptFrom_iff {floor : Nat} {packet : Packet} :
    Link.acceptFrom floor packet = true ↔ floor ≤ packet.id := by
  simp [Link.acceptFrom]

namespace LinkStore

variable {store : LinkStore} {id other : LinkId} {link : Link} {packet : Packet}

theorem get_unknown (unknown : ¬ id < store.next) : store.get id = .labelled "" := by
  unfold get
  rw [List.getD_eq_getElem?_getD, List.getElem?_eq_none (Nat.le_of_not_lt unknown),
    Option.getD_none]

theorem known_of_slot (slot : (store.get id).slot = some packet) : id < store.next := by
  by_cases known : id < store.next
  · exact known
  · rw [get_unknown known] at slot
    cases slot

/-- Writing a link's slot shows at that link alone, and only if the store has it. -/
theorem slot_set :
    ((store.set id link).get other).slot =
      if other = id ∧ id < store.next then link.slot else (store.get other).slot := by
  by_cases same : other = id
  · subst same
    by_cases known : other < store.next
    · rw [get_set_same known, if_pos ⟨rfl, known⟩]
    · have unset : ¬ other < (store.set other link).next := by rwa [next_set]
      rw [get_unknown unset, get_unknown known, if_neg (fun both => known both.2)]
  · rw [get_set_other (fun equal => same equal.symm), if_neg (fun both => same both.1)]

theorem slot_set_keeping (keeps : link.slot = (store.get id).slot) :
    ((store.set id link).get other).slot = (store.get other).slot := by
  rw [slot_set]
  split
  · rename_i both
    rw [keeps, both.1]
  · rfl

theorem slot_put :
    ((store.put id packet).1.get other).slot =
      if other = id ∧ id < store.next then some packet else (store.get other).slot :=
  slot_set

end LinkStore
end Sluice
