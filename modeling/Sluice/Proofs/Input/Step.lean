import Sluice.Input
import Sluice.Proofs.Merge.Soundness

set_option autoImplicit false

/-! What one step of a fetch does, case by case, and where packets come from: whatever an input holds or
brings was in the slot of one of its links. -/

namespace Sluice

namespace Merge

variable {links : LinkStore} {merge : Merge} {call : MergeCall} {stepped : MergeStep}

theorem Stepped.slots (moved : merge.Stepped links call stepped) {id : LinkId} {packet : Packet}
    (slot : (stepped.links.get id).slot = some packet) : (links.get id).slot = some packet := by
  cases moved with
  | emitted | overflowed | reused | turned => exact slot
  | waited found keeps | cancelled found keeps =>
      rw [LinkStore.slot_set_keeping keeps] at slot
      exact slot
  | discarded | kept =>
      rw [LinkStore.slot_set] at slot
      split at slot
      · cases slot
      · exact slot

theorem Stepped.cached (moved : merge.Stepped links call stepped) {field : MergeField}
    {packet : Packet} (member : field ∈ stepped.merge.fields) (cached : field.cached = some packet) :
    field ∈ merge.fields ∨ (links.get field.link).slot = some packet := by
  cases moved with
  | emitted | overflowed | turned | waited | discarded | cancelled => exact Or.inl member
  | reused =>
      rw [fields_advance] at member
      exact Or.inl member
  | kept found slot =>
      rw [fields_advance] at member
      rcases mem_fields_cache found member with same | ⟨index, _, original⟩
      · subst same
        cases cached
        exact Or.inr slot
      · exact Or.inl (List.mem_of_getElem? original)

theorem Stepped.counted (moved : merge.Stepped links call stepped) :
    (∃ composite, stepped.outcome = .inr (some composite) ∧ composite.id = merge.nextId ∧
        composite.message = merge.composite ∧ stepped.merge.nextId = merge.nextId + 1) ∨
      (∀ composite, stepped.outcome ≠ .inr (some composite)) ∧
        stepped.merge.nextId = merge.nextId := by
  cases moved with
  | emitted => exact Or.inl ⟨_, rfl, rfl, rfl, rfl⟩
  | reused =>
      refine Or.inr ⟨?_, nextId_advance⟩
      intro composite impossible
      cases impossible
  | kept =>
      refine Or.inr ⟨?_, nextId_advance⟩
      intro composite impossible
      cases impossible
  | overflowed | turned | waited | discarded | cancelled =>
      refine Or.inr ⟨?_, rfl⟩
      intro composite impossible
      cases impossible

end Merge

namespace Input

def passOn : MergeCall ⊕ Option Packet → InputCall ⊕ Option Packet
  | .inl next => .inl (.joining next)
  | .inr ended => .inr ended

theorem passOn_brought {outcome : MergeCall ⊕ Option Packet} {brought : Option Packet}
    (passed : passOn outcome = .inr brought) : outcome = .inr brought := by
  cases outcome with
  | inl next => cases passed
  | inr ended =>
      cases passed
      rfl

/-- The outcomes of one step of a fetch. -/
inductive Stepped (links : LinkStore) : Input → InputCall → InputStep → Prop
  | made {nextId : Nat} {schema : Schema} :
      Stepped links (.source nextId schema) .making
        { input := .source (nextId + 1) schema, links := links
          outcome := .inr (some { id := nextId, message := schema.defaultMessage }), notices := [] }
  | waited {id : LinkId} {posture next : Posture} {link : Link}
      (keeps : link.slot = (links.get id).slot) :
      Stepped links (.passthrough id) (.taking posture)
        { input := .passthrough id, links := links.set id link, outcome := .inl (.taking next)
          notices := [] }
  | took {id : LinkId} {packet : Packet} (slot : (links.get id).slot = some packet) :
      Stepped links (.passthrough id) (.taking .looking)
        { input := .passthrough id, links := links.set id { links.get id with slot := none }
          outcome := .inr (some packet), notices := [] }
  | quit {id : LinkId} {posture : Posture} {link : Link}
      (keeps : link.slot = (links.get id).slot) :
      Stepped links (.passthrough id) (.taking posture)
        { input := .passthrough id, links := links.set id link, outcome := .inr none
          notices := [] }
  | joined {held : Merge} {call : MergeCall} {stepped : MergeStep}
      (step : held.Stepped links call stepped) :
      Stepped links (.merge held) (.joining call)
        { input := .merge stepped.merge, links := stepped.links, outcome := passOn stepped.outcome
          notices := stepped.notices }

variable {fired cancelFirst : Bool} {links : LinkStore} {input : Input} {call : InputCall}
  {stepped : InputStep}

theorem step_stepped (moved : input.step fired cancelFirst links call = some stepped) :
    Stepped links input call stepped := by
  cases input with
  | source nextId schema =>
      cases call with
      | making =>
          cases moved
          exact .made
      | taking | joining => cases moved
  | passthrough id =>
      cases call with
      | taking posture =>
          simp only [step] at moved
          cases waits : (links.get id).stepWait Link.acceptAny fired cancelFirst posture with
          | none =>
              rw [waits] at moved
              cases moved
          | some waited =>
              rw [waits] at moved
              cases moved
              cases Link.stepWait_waited waits with
              | taken slot => exact .took slot
              | discarded slot refused => cases refused
              | turned | listened => exact .waited rfl
              | cancelled => exact .quit rfl
      | making | joining => cases moved
  | merge held =>
      cases call with
      | joining position =>
          simp only [step] at moved
          cases joins : held.step fired cancelFirst links position with
          | none =>
              rw [joins] at moved
              cases moved
          | some joined =>
              rw [joins] at moved
              cases moved
              have known := Stepped.joined (Merge.step_stepped joins)
              cases outcome : joined.outcome with
              | inl next =>
                  rw [outcome] at known
                  exact known
              | inr ended =>
                  rw [outcome] at known
                  exact known
      | making | taking => cases moved

theorem Stepped.slots (moved : Stepped links input call stepped) {id : LinkId} {packet : Packet}
    (slot : (stepped.links.get id).slot = some packet) : (links.get id).slot = some packet := by
  cases moved with
  | made => exact slot
  | waited keeps | quit keeps =>
      rw [LinkStore.slot_set_keeping keeps] at slot
      exact slot
  | took =>
      rw [LinkStore.slot_set] at slot
      split at slot
      · cases slot
      · exact slot
  | joined step => exact step.slots slot

end Input
end Sluice
