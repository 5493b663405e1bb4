import Sluice.Proofs.Merge.Step

set_option autoImplicit false

/-! Where a call of a merge stands. No cached packet lies above the floor, the fields that the visit has
passed stand exactly at it, and the field that is waited on lies below it. So when the visit has
passed the last field, every field stands at the floor, and the composite joins packets of one id. -/

namespace Sluice

def MergeCall.position : MergeCall → Nat
  | .visiting position => position
  | .waiting position _ => position
  | .collapsed => 0

namespace Merge

def StandsAt (field : MergeField) (id : Nat) : Prop :=
  ∃ packet, field.cached = some packet ∧ packet.id = id

/-- A field holds nothing that qualifies. -/
def LiesBelow (field : MergeField) (floor : Nat) : Prop :=
  ∀ packet, field.cached = some packet → packet.id < floor

/-- All fields have met under an id that no counter can be moved past. -/
structure Overrun (merge : Merge) : Prop where
  limit : Packet.greatestId ≤ merge.floor
  met : ∀ field ∈ merge.fields, StandsAt field merge.floor

structure Steady (merge : Merge) (call : Option MergeCall) : Prop where
  level : ∀ field ∈ merge.fields, ∀ packet, field.cached = some packet → packet.id ≤ merge.floor
  bounded : merge.nextId ≤ merge.floor
  passed : ∀ under, call = some under → ∀ index < under.position,
    ∀ field, merge.fields[index]? = some field → StandsAt field merge.floor
  awaited : ∀ position posture, call = some (.waiting position posture) →
    ∃ field, merge.fields[position]? = some field ∧ LiesBelow field merge.floor
  collapsed : call = some .collapsed → merge.Overrun

variable {links : LinkStore} {merge : Merge} {call : MergeCall} {stepped : MergeStep}

theorem steady_idle
    (level : ∀ field ∈ merge.fields, ∀ packet, field.cached = some packet → packet.id ≤ merge.floor)
    (bounded : merge.nextId ≤ merge.floor) : merge.Steady none := by
  refine ⟨level, bounded, ?_, ?_, ?_⟩
  · intro under impossible
    cases impossible
  · intro position posture impossible
    cases impossible
  · intro impossible
    cases impossible

theorem steady_ofBindings (bindings : List Binding) : (ofBindings bindings).Steady none := by
  refine steady_idle ?_ (Nat.le_refl 0)
  intro field member packet cached
  obtain ⟨binding, _, same⟩ := List.mem_map.mp member
  subst same
  cases cached

theorem Steady.begin (steady : merge.Steady none) : merge.Steady (some (.visiting 0)) := by
  refine ⟨steady.level, steady.bounded, ?_, ?_, ?_⟩
  · intro under same index before
    cases same
    exact absurd before (Nat.not_lt_zero index)
  · intro position posture impossible
    cases impossible
  · intro impossible
    cases impossible

theorem Steady.complete {position : Nat} (steady : merge.Steady (some (.visiting position)))
    (beyond : merge.fields.length ≤ position) :
    ∀ field ∈ merge.fields, StandsAt field merge.floor := by
  intro field member
  obtain ⟨index, found⟩ := List.mem_iff_getElem?.mp member
  have within := (List.getElem?_eq_some_iff.mp found).1
  exact steady.passed (.visiting position) rfl index (Nat.lt_of_lt_of_le within beyond) field found

theorem mem_names_of_complete {floor : Nat} {name : String}
    (complete : ∀ field ∈ merge.fields, StandsAt field floor) :
    name ∈ merge.composite.names ↔ name ∈ merge.layout.map Prod.fst := by
  rw [mem_composite_names]
  constructor
  · rintro ⟨field, member, _, named⟩
    exact List.mem_map.mpr ⟨(field.name, field.link), List.mem_map.mpr ⟨field, member, rfl⟩, named⟩
  · intro listed
    obtain ⟨entry, laid, named⟩ := List.mem_map.mp listed
    obtain ⟨field, member, same⟩ := List.mem_map.mp laid
    subst same
    obtain ⟨packet, cached, _⟩ := complete field member
    exact ⟨field, member, Option.isSome_of_eq_some cached, named⟩

theorem Steady.stop (steady : merge.Steady (some call)) : merge.Steady none :=
  steady_idle steady.level steady.bounded

/-- The number of a composite never runs ahead of the floor, so the floor is at its end first. -/
theorem Steady.overrun {position : Nat} (steady : merge.Steady (some (.visiting position)))
    (beyond : merge.fields.length ≤ position) (exhausted : merge.isExhausted = true) :
    merge.Overrun := by
  refine ⟨?_, steady.complete beyond⟩
  have bounded := steady.bounded
  rcases Bool.or_eq_true_iff.mp exhausted with number | floor
  · exact Nat.le_trans (of_decide_eq_true number) bounded
  · exact of_decide_eq_true floor

theorem isExhausted_eq_false (bounded : merge.nextId ≤ merge.floor)
    (room : merge.floor < Packet.greatestId) : merge.isExhausted = false := by
  unfold isExhausted
  rw [Bool.or_eq_false_iff]
  constructor
  · exact decide_eq_false (by omega)
  · exact decide_eq_false (by omega)

private theorem steady_advance {position id : Nat} (bounded : merge.nextId ≤ id)
    (passed : ∀ index < position, ∀ field, merge.fields[index]? = some field →
      StandsAt field merge.floor)
    (level : ∀ field ∈ merge.fields, ∀ packet, field.cached = some packet → packet.id ≤ id)
    (here : ∀ field, merge.fields[position]? = some field → StandsAt field id)
    (reaches : merge.floor ≤ id) :
    (merge.advance position id).1.Steady (some (merge.advance position id).2) := by
  constructor
  · intro field member packet cached
    rw [fields_advance] at member
    rw [floor_advance reaches]
    exact level field member packet cached
  · rw [nextId_advance, floor_advance reaches]
    exact bounded
  · intro under same index before field found
    rw [fields_advance] at found
    rw [floor_advance reaches]
    cases same
    rcases call_advance reaches with restarted | ⟨onward, atFloor⟩
    · rw [restarted] at before
      exact absurd before (Nat.not_lt_zero index)
    · rw [onward] at before
      rcases Nat.lt_succ_iff_lt_or_eq.mp before with earlier | last
      · rw [atFloor]
        exact passed index earlier field found
      · subst last
        exact here field found
  · intro other posture waits
    rcases call_advance reaches with restarted | ⟨onward, _⟩
    · rw [restarted] at waits
      cases waits
    · rw [onward] at waits
      cases waits
  · intro collapses
    rcases call_advance reaches with restarted | ⟨onward, _⟩
    · rw [restarted] at collapses
      cases collapses
    · rw [onward] at collapses
      cases collapses

private theorem steady_waiting {position : Nat} {posture : Posture} {under : MergeCall}
    {field : MergeField} (steady : merge.Steady (some under)) (here : under.position = position)
    (found : merge.fields[position]? = some field) (lies : LiesBelow field merge.floor) :
    merge.Steady (some (.waiting position posture)) := by
  refine ⟨steady.level, steady.bounded, ?_, ?_, ?_⟩
  · intro call same index before other atIndex
    cases same
    exact steady.passed under rfl index (here ▸ before) other atIndex
  · intro place later same
    cases same
    exact ⟨field, found, lies⟩
  · intro impossible
    cases impossible

theorem Steady.step (steady : merge.Steady (some call))
    (moved : Stepped links merge call stepped) :
    stepped.merge.Steady stepped.outcome.getLeft? := by
  cases moved with
  | emitted beyond =>
      refine steady_idle ?_ (Nat.succ_le_succ steady.bounded)
      intro field member packet cached
      exact Nat.le_succ_of_le (steady.level field member packet cached)
  | overflowed beyond exhausted =>
      refine ⟨steady.level, steady.bounded, ?_, ?_, fun _ => steady.overrun beyond exhausted⟩
      · intro under same index before
        cases same
        exact absurd before (Nat.not_lt_zero index)
      · intro position posture impossible
        cases impossible
  | @reused position field packet found cached reaches =>
      have atMost := steady.level field (List.mem_of_getElem? found) packet cached
      have same : packet.id = merge.floor := Nat.le_antisymm atMost reaches
      refine steady_advance (Nat.le_trans steady.bounded reaches) ?_ ?_ ?_ reaches
      · intro index before other atIndex
        exact steady.passed (.visiting position) rfl index before other atIndex
      · rw [same]
        exact steady.level
      · intro other atPosition
        cases found.symm.trans atPosition
        exact ⟨packet, cached, rfl⟩
  | turned found below => exact steady_waiting steady rfl found below
  | @waited position posture =>
      obtain ⟨awaited, sameField, lies⟩ := steady.awaited position posture rfl
      exact steady_waiting steady rfl sameField lies
  | @discarded position =>
      obtain ⟨awaited, sameField, lies⟩ := steady.awaited position .looking rfl
      exact steady_waiting steady rfl sameField lies
  | cancelled => exact steady.stop
  | @kept position field packet found slot reaches =>
      refine steady_advance (Nat.le_trans steady.bounded reaches) ?_ ?_ ?_ reaches
      · intro index before other atIndex
        rw [fields_cache_apart (Nat.ne_of_gt before)] at atIndex
        exact steady.passed (.waiting position .looking) rfl index before other atIndex
      · intro other member held cached
        rcases mem_fields_cache found member with same | ⟨index, _, original⟩
        · subst same
          cases cached
          exact Nat.le_refl _
        · have atMost := steady.level other (List.mem_of_getElem? original) held cached
          exact Nat.le_trans atMost reaches
      · intro other atPosition
        rw [fields_cache_at found] at atPosition
        cases atPosition
        exact ⟨packet, rfl, rfl⟩

theorem step_fired {cancelFirst : Bool} (steady : merge.Steady (some call))
    (stands : call ≠ .collapsed) :
    ∃ stepped, merge.step true cancelFirst links call = some stepped := by
  cases call with
  | collapsed => exact absurd rfl stands
  | visiting position =>
      simp only [step]
      cases merge.fields[position]? with
      | none => cases merge.isExhausted <;> exact ⟨_, rfl⟩
      | some field =>
          cases cached : field.cached with
          | none => simp [cached]
          | some packet => by_cases reaches : merge.floor ≤ packet.id <;> simp [cached, reaches]
  | waiting position posture =>
      obtain ⟨field, found, _⟩ := steady.awaited position posture rfl
      obtain ⟨waited, waits⟩ := @Link.stepWait_fired (Link.acceptFrom merge.floor) cancelFirst posture
        (links.get field.link)
      simp only [step, found, waits]
      cases waited.outcome <;> exact ⟨_, rfl⟩

theorem floor_le_stepped (moved : Stepped links merge call stepped) :
    merge.floor ≤ stepped.merge.floor := by
  cases moved with
  | emitted => exact Nat.le_succ merge.floor
  | reused found cached reaches => exact (floor_advance reaches).symm ▸ reaches
  | overflowed | turned | waited | discarded | cancelled => exact Nat.le_refl _
  | @kept position field packet found slot reaches =>
      have raised : ((merge.cache position packet).advance position packet.id).1.floor = packet.id :=
        floor_advance reaches
      exact raised.symm ▸ reaches

end Merge
end Sluice
