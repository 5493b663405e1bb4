import Sluice.Merge
import Sluice.Proofs.Link.Wait
import Sluice.Proofs.Message.Lens

set_option autoImplicit false

/-! What one step of a merge does, case by case, and what a composite holds. A step that consumes a
packet empties the slot of the link at hand and either discards the packet, which lies below the
floor, or caches it and goes on with the visit. -/

namespace Sluice
namespace Merge

inductive Stepped (links : LinkStore) (merge : Merge) : MergeCall → MergeStep → Prop
  | emitted {position : Nat} (beyond : merge.fields.length ≤ position)
      (roomy : merge.isExhausted = false) :
      Stepped links merge (.visiting position)
        { merge := merge.emit.1, links := links, outcome := .inr (some merge.emit.2), notices := [] }
  | overflowed {position : Nat} (beyond : merge.fields.length ≤ position)
      (exhausted : merge.isExhausted = true) :
      Stepped links merge (.visiting position)
        { merge := merge, links := links, outcome := .inl .collapsed, notices := [] }
  | reused {position : Nat} {field : MergeField} {packet : Packet}
      (found : merge.fields[position]? = some field) (cached : field.cached = some packet)
      (reaches : merge.floor ≤ packet.id) :
      Stepped links merge (.visiting position)
        { merge := (merge.advance position packet.id).1, links := links
          outcome := .inl (merge.advance position packet.id).2, notices := [] }
  | turned {position : Nat} {field : MergeField} (found : merge.fields[position]? = some field)
      (below : ∀ packet, field.cached = some packet → packet.id < merge.floor) :
      Stepped links merge (.visiting position)
        { merge := merge, links := links, outcome := .inl (.waiting position .looking)
          notices := [] }
  | waited {position : Nat} {posture next : Posture} {field : MergeField} {link : Link}
      (found : merge.fields[position]? = some field)
      (keeps : link.slot = (links.get field.link).slot) :
      Stepped links merge (.waiting position posture)
        { merge := merge, links := links.set field.link link
          outcome := .inl (.waiting position next), notices := [] }
  | discarded {position : Nat} {field : MergeField} {packet : Packet} {notices : List Notice}
      (found : merge.fields[position]? = some field)
      (slot : (links.get field.link).slot = some packet) (below : packet.id < merge.floor) :
      Stepped links merge (.waiting position .looking)
        { merge := merge
          links := links.set field.link { links.get field.link with slot := none }
          outcome := .inl (.waiting position .looking), notices := notices }
  | cancelled {position : Nat} {posture : Posture} {field : MergeField} {link : Link}
      (found : merge.fields[position]? = some field)
      (keeps : link.slot = (links.get field.link).slot) :
      Stepped links merge (.waiting position posture)
        { merge := merge, links := links.set field.link link, outcome := .inr none, notices := [] }
  | kept {position : Nat} {field : MergeField} {packet : Packet}
      (found : merge.fields[position]? = some field)
      (slot : (links.get field.link).slot = some packet) (reaches : merge.floor ≤ packet.id) :
      Stepped links merge (.waiting position .looking)
        { merge := ((merge.cache position packet).advance position packet.id).1
          links := links.set field.link { links.get field.link with slot := none }
          outcome := .inl ((merge.cache position packet).advance position packet.id).2
          notices := [] }

variable {fired cancelFirst : Bool} {links : LinkStore} {merge : Merge} {call : MergeCall}
  {stepped : MergeStep}

private theorem visiting_stepped {position : Nat}
    (moved : merge.step fired cancelFirst links (.visiting position) = some stepped) :
    Stepped links merge (.visiting position) stepped := by
  simp only [step] at moved
  cases found : merge.fields[position]? with
  | none =>
      have beyond := List.getElem?_eq_none_iff.mp found
      cases exhausted : merge.isExhausted with
      | false =>
          simp only [found, exhausted, Bool.false_eq_true, if_false, Option.some.injEq] at moved
          subst moved
          exact .emitted beyond exhausted
      | true =>
          simp only [found, exhausted, if_true, Option.some.injEq] at moved
          subst moved
          exact .overflowed beyond exhausted
  | some field =>
      cases cached : field.cached with
      | none =>
          simp only [found, cached, Option.some.injEq] at moved
          subst moved
          exact .turned found (by intro packet held; rw [cached] at held; cases held)
      | some packet =>
          by_cases reaches : merge.floor ≤ packet.id
          · simp only [found, cached, if_pos reaches, Option.some.injEq] at moved
            subst moved
            exact .reused found cached reaches
          · simp only [found, cached, if_neg reaches, Option.some.injEq] at moved
            subst moved
            refine .turned found ?_
            intro other held
            rw [cached] at held
            cases held
            exact Nat.lt_of_not_le reaches

private theorem waiting_stepped {position : Nat} {posture : Posture}
    (moved : merge.step fired cancelFirst links (.waiting position posture) = some stepped) :
    Stepped links merge (.waiting position posture) stepped := by
  simp only [step] at moved
  cases found : merge.fields[position]? with
  | none =>
      rw [found] at moved
      cases moved
  | some field =>
      simp only [found] at moved
      cases waited : (links.get field.link).stepWait (Link.acceptFrom merge.floor) fired cancelFirst
          posture with
      | none =>
          rw [waited] at moved
          cases moved
      | some outcome =>
          simp only [waited] at moved
          cases Link.stepWait_waited waited with
          | taken slot approved =>
              cases moved
              exact .kept found slot (Link.acceptFrom_iff.mp approved)
          | discarded slot refused =>
              cases moved
              refine .discarded found slot (Nat.lt_of_not_le ?_)
              intro reaches
              rw [Link.acceptFrom_iff.mpr reaches] at refused
              cases refused
          | turned | listened =>
              cases moved
              exact .waited found rfl
          | cancelled =>
              cases moved
              exact .cancelled found rfl

theorem step_stepped (moved : merge.step fired cancelFirst links call = some stepped) :
    Stepped links merge call stepped := by
  cases call with
  | visiting position => exact visiting_stepped moved
  | waiting position posture => exact waiting_stepped moved
  | collapsed => cases moved

/-- What the wait on a field's link makes of the call: either goes on, or both are cancelled. -/
inductive Carried (position : Nat) : WaitOutcome → MergeCall ⊕ Option Packet → Prop
  | waits (posture : Posture) :
      Carried position (.waiting posture) (.inl (.waiting position posture))
  | visits (packet : Packet) (onward : Nat) : Carried position (.taken packet) (.inl (.visiting onward))
  | cancels : Carried position .cancelled (.inr none)

theorem step_waiting {position : Nat} {posture : Posture}
    (moved : merge.step fired cancelFirst links (.waiting position posture) = some stepped) :
    ∃ field waited, merge.fields[position]? = some field ∧
      (links.get field.link).stepWait (Link.acceptFrom merge.floor) fired cancelFirst posture =
        some waited ∧
      stepped.links = links.set field.link waited.link ∧
      Carried position waited.outcome stepped.outcome := by
  simp only [step] at moved
  cases found : merge.fields[position]? with
  | none =>
      rw [found] at moved
      cases moved
  | some field =>
      simp only [found] at moved
      cases waits : (links.get field.link).stepWait (Link.acceptFrom merge.floor) fired cancelFirst
          posture with
      | none =>
          rw [waits] at moved
          cases moved
      | some waited =>
          simp only [waits] at moved
          refine ⟨field, waited, rfl, waits, ?_⟩
          cases outcome : waited.outcome with
          | waiting next =>
              simp only [outcome, Option.some.injEq] at moved
              subst moved
              exact ⟨rfl, .waits next⟩
          | cancelled =>
              simp only [outcome, Option.some.injEq] at moved
              subst moved
              exact ⟨rfl, .cancels⟩
          | taken packet =>
              simp only [outcome, Option.some.injEq] at moved
              subst moved
              refine ⟨rfl, ?_⟩
              dsimp only
              unfold advance
              split
              · exact .visits packet 0
              · exact .visits packet (position + 1)

/-- Names and links of the fields, which no step changes. -/
def layout (merge : Merge) : List (String × LinkId) :=
  merge.fields.map fun field => (field.name, field.link)

theorem layout_cache {position : Nat} {packet : Packet} :
    (merge.cache position packet).layout = merge.layout := by
  unfold layout cache
  apply List.ext_getElem?
  intro index
  simp only [List.getElem?_map, List.getElem?_modify]
  cases merge.fields[index]? with
  | none => rfl
  | some field =>
      by_cases same : position = index
      · simp [same]
      · simp [same]

theorem fields_advance {position id : Nat} :
    (merge.advance position id).1.fields = merge.fields := by
  unfold advance
  split <;> rfl

theorem nextId_advance {position id : Nat} :
    (merge.advance position id).1.nextId = merge.nextId := by
  unfold advance
  split <;> rfl

theorem floor_advance {position id : Nat} (reaches : merge.floor ≤ id) :
    (merge.advance position id).1.floor = id := by
  unfold advance
  split
  · rfl
  · rename_i level
    change merge.floor = id
    omega

theorem advance_level {position id : Nat} (level : id ≤ merge.floor) :
    merge.advance position id = (merge, .visiting (position + 1)) := by
  unfold advance
  rw [if_neg (Nat.not_lt.mpr level)]

theorem call_advance {position id : Nat} (reaches : merge.floor ≤ id) :
    (merge.advance position id).2 = .visiting 0 ∨
      (merge.advance position id).2 = .visiting (position + 1) ∧ id = merge.floor := by
  unfold advance
  split
  · exact Or.inl rfl
  · exact Or.inr ⟨rfl, by omega⟩

theorem layout_stepped (moved : Stepped links merge call stepped) :
    stepped.merge.layout = merge.layout := by
  cases moved with
  | emitted | overflowed | turned | waited | discarded | cancelled => rfl
  | reused =>
      unfold layout
      rw [fields_advance]
  | @kept position field packet =>
      rw [← @layout_cache merge position packet]
      unfold layout
      rw [fields_advance]

theorem length_stepped (moved : Stepped links merge call stepped) :
    stepped.merge.fields.length = merge.fields.length := by
  have layout := congrArg List.length (layout_stepped moved)
  unfold Merge.layout at layout
  rw [List.length_map, List.length_map] at layout
  exact layout

def Distinct (merge : Merge) : Prop :=
  (merge.layout.map Prod.fst).Nodup

theorem Distinct.at (distinct : merge.Distinct) {first second : Nat} {left right : MergeField}
    (atFirst : merge.fields[first]? = some left) (atSecond : merge.fields[second]? = some right)
    (same : left.name = right.name) : first = second := by
  have names : (merge.layout.map Prod.fst)[first]? = (merge.layout.map Prod.fst)[second]? := by
    simp [layout, atFirst, atSecond, same]
  have bound : first < (merge.layout.map Prod.fst).length := by
    have known := (List.getElem?_eq_some_iff.mp atFirst).1
    simpa [layout] using known
  exact (List.getElem?_inj bound distinct).mp names

theorem Distinct.name_inj (distinct : merge.Distinct) {left right : MergeField}
    (leftMember : left ∈ merge.fields) (rightMember : right ∈ merge.fields)
    (same : left.name = right.name) : left = right := by
  obtain ⟨first, atFirst⟩ := List.mem_iff_getElem?.mp leftMember
  obtain ⟨second, atSecond⟩ := List.mem_iff_getElem?.mp rightMember
  have samePlace := distinct.at atFirst atSecond same
  subst samePlace
  exact Option.some.inj (atFirst.symm.trans atSecond)

theorem fields_cache_at {position : Nat} {field : MergeField} {packet : Packet}
    (found : merge.fields[position]? = some field) :
    (merge.cache position packet).fields[position]? = some { field with cached := some packet } := by
  simp [cache, found]

theorem fields_cache_apart {position index : Nat} {packet : Packet} (apart : position ≠ index) :
    (merge.cache position packet).fields[index]? = merge.fields[index]? := by
  simp [cache, apart]

theorem mem_fields_cache {position : Nat} {field other : MergeField} {packet : Packet}
    (found : merge.fields[position]? = some field)
    (member : other ∈ (merge.cache position packet).fields) :
    other = { field with cached := some packet } ∨
      ∃ index, position ≠ index ∧ merge.fields[index]? = some other := by
  obtain ⟨index, atIndex⟩ := List.mem_iff_getElem?.mp member
  by_cases same : position = index
  · subst same
    rw [fields_cache_at found] at atIndex
    exact Or.inl (Option.some.inj atIndex).symm
  · rw [fields_cache_apart same] at atIndex
    exact Or.inr ⟨index, same, atIndex⟩

/-- Each field has a link of its own. -/
def Apart (merge : Merge) : Prop :=
  (merge.layout.map Prod.snd).Nodup

theorem Apart.at (apart : merge.Apart) {first second : Nat} {left right : MergeField}
    (atFirst : merge.fields[first]? = some left) (atSecond : merge.fields[second]? = some right)
    (same : left.link = right.link) : first = second := by
  have links : (merge.layout.map Prod.snd)[first]? = (merge.layout.map Prod.snd)[second]? := by
    simp [layout, atFirst, atSecond, same]
  have bound : first < (merge.layout.map Prod.snd).length := by
    have known := (List.getElem?_eq_some_iff.mp atFirst).1
    simpa [layout] using known
  exact (List.getElem?_inj bound apart).mp links

theorem composite_holds (distinct : merge.Distinct) {field : MergeField} {packet : Packet}
    (member : field ∈ merge.fields) (cached : field.cached = some packet) :
    merge.composite.Holds field.name packet.message := by
  have same : merge.layout.map Prod.fst = merge.fields.map (·.name) := by simp [layout]
  have names : (merge.fields.map (·.name)).Nodup := same ▸ distinct
  have listed : (field.name, packet.message) ∈ merge.parts :=
    mem_parts.mpr ⟨field, member, packet, cached, rfl⟩
  rw [composite_eq]
  exact Message.holds_withRecords (distinct_parts names) listed

theorem mem_composite_names {name : String} :
    name ∈ merge.composite.names ↔
      ∃ field ∈ merge.fields, field.cached.isSome ∧ field.name = name := by
  have nothing : name ∉ Message.empty.names := by simp [Message.empty, Message.names]
  rw [composite_eq, Message.mem_names_withRecords, or_iff_left nothing, List.mem_map]
  constructor
  · rintro ⟨part, listed, named⟩
    obtain ⟨field, member, packet, cached, same⟩ := mem_parts.mp listed
    subst same
    exact ⟨field, member, Option.isSome_of_eq_some cached, named⟩
  · rintro ⟨field, member, cached, named⟩
    obtain ⟨packet, held⟩ := Option.isSome_iff_exists.mp cached
    exact ⟨(field.name, packet.message), mem_parts.mpr ⟨field, member, packet, held, rfl⟩, named⟩

end Merge

namespace Binding

theorem insertByName_perm (binding : Binding) (bindings : List Binding) :
    (binding.insertByName bindings).Perm (binding :: bindings) := by
  induction bindings with
  | nil => exact List.Perm.refl _
  | cons head rest ih =>
      by_cases before : head.field < binding.field
      · simp only [insertByName, if_pos before]
        exact (ih.cons head).trans (List.Perm.swap binding head rest)
      · simp only [insertByName, if_neg before]
        exact List.Perm.refl _

theorem sortByName_perm (bindings : List Binding) : (sortByName bindings).Perm bindings := by
  induction bindings with
  | nil => exact List.Perm.refl _
  | cons binding rest ih => exact (insertByName_perm binding _).trans (ih.cons binding)

end Binding

namespace Merge

theorem layout_ofBindings (bindings : List Binding) :
    (ofBindings bindings).layout =
      (Binding.sortByName bindings).map fun binding => (binding.field, binding.link) := by
  simp [layout, ofBindings]

theorem distinct_ofBindings {bindings : List Binding}
    (distinct : (bindings.map (·.field)).Nodup) : (ofBindings bindings).Distinct := by
  unfold Distinct
  rw [layout_ofBindings, List.map_map]
  exact ((Binding.sortByName_perm bindings).map _).nodup_iff.mpr distinct

end Merge
end Sluice
