import Sluice.Proofs.Input.Step

set_option autoImplicit false

/-! What an input is made of, and what it keeps. Whatever is known of all packets on links is known of
the packets that an input caches, and a composite joins such packets of one id. -/

namespace Sluice
namespace Merge

/-- A composite of exactly these fields, each the message of a packet that its link carried, and all of
one id. -/
structure Composed (carries : LinkId → Packet → Prop) (layout : List (String × LinkId))
    (composite : Message) : Prop where
  names : ∀ name, name ∈ composite.names ↔ name ∈ layout.map Prod.fst
  parts : ∃ id, ∀ entry ∈ layout, ∃ packet, packet.id = id ∧ carries entry.2 packet ∧
    composite.Holds entry.1 packet.message

def Caches (carries : LinkId → Packet → Prop) (merge : Merge) : Prop :=
  ∀ field ∈ merge.fields, ∀ packet, field.cached = some packet → carries field.link packet

variable {carries further : LinkId → Packet → Prop} {layout : List (String × LinkId)}
  {composite : Message} {links : LinkStore} {merge : Merge} {call : MergeCall} {stepped : MergeStep}

theorem Composed.mono (composed : Composed carries layout composite)
    (grows : ∀ link packet, carries link packet → further link packet) :
    Composed further layout composite := by
  obtain ⟨names, id, parts⟩ := composed
  refine ⟨names, id, ?_⟩
  intro entry listed
  obtain ⟨packet, level, carried, holds⟩ := parts entry listed
  exact ⟨packet, level, grows _ _ carried, holds⟩

theorem Stepped.caches (caches : merge.Caches carries)
    (slots : ∀ link packet, (links.get link).slot = some packet → carries link packet)
    (moved : merge.Stepped links call stepped) : stepped.merge.Caches carries := by
  intro field member packet cached
  rcases moved.cached member cached with before | arrived
  · exact caches field before packet cached
  · exact slots field.link packet arrived

theorem Stepped.composes {packet : Packet} (distinct : merge.Distinct)
    (steady : merge.Steady (some call)) (caches : merge.Caches carries)
    (moved : merge.Stepped links call stepped) (emits : stepped.outcome = .inr (some packet)) :
    Composed carries merge.layout packet.message := by
  cases moved with
  | emitted beyond =>
      cases emits
      have complete := steady.complete beyond
      refine ⟨fun name => mem_names_of_complete complete, merge.floor, ?_⟩
      intro entry laid
      obtain ⟨field, member, same⟩ := List.mem_map.mp laid
      subst same
      obtain ⟨held, cached, level⟩ := complete field member
      exact ⟨held, level, caches field member held cached, composite_holds distinct member cached⟩
  | overflowed | reused | turned | waited | discarded | cancelled | kept => cases emits

end Merge

def InputCall.joining? : InputCall → Option MergeCall
  | .joining call => some call
  | .making | .taking _ => none

namespace Input

/-- The kind of input that bindings make: none a source, one a passthrough, several a merge. -/
inductive Fits : List Binding → Input → Prop
  | source {nextId : Nat} {schema : Schema} : Fits [] (.source nextId schema)
  | passthrough {binding : Binding} : Fits [binding] (.passthrough binding.link)
  | merge {bindings : List Binding} {held : Merge} (several : 2 ≤ bindings.length)
      (distinct : held.Distinct) (layout : held.layout = MergeSession.layoutOf bindings) :
      Fits bindings (.merge held)

/-- A merge stands where its call has led it, and its caches were carried. -/
def Joins (carries : LinkId → Packet → Prop) (call : Option MergeCall) : Input → Prop
  | .merge held => held.Steady call ∧ held.Caches carries
  | .source .. | .passthrough _ => True

variable {carries further : LinkId → Packet → Prop} {bindings : List Binding} {links : LinkStore}
  {input : Input} {call : InputCall} {stepped : InputStep}

theorem ofBindings_fits {stage : String} {mode : ExecutionMode} {schema : Schema}
    (made : ofBindings stage bindings mode schema = .ok input) :
    input.Fits bindings ∧ input.Joins carries none := by
  unfold ofBindings at made
  match bindings with
  | [] =>
      cases made
      exact ⟨.source, trivial⟩
  | [binding] =>
      cases made
      exact ⟨.passthrough, trivial⟩
  | first :: second :: rest =>
      simp only at made
      split at made
      · cases made
      · rename_i wellFormed
        split at made
        · cases made
        · cases made
          have distinct := Decidable.not_not.mp fun repeated => wellFormed (Or.inl repeated)
          refine ⟨.merge (Nat.le_add_left 2 _) (Merge.distinct_ofBindings distinct) rfl,
            Merge.steady_ofBindings _, ?_⟩
          intro field member packet cached
          obtain ⟨binding, _, same⟩ := List.mem_map.mp member
          subst same
          cases cached

theorem Joins.mono {under : Option MergeCall} (joins : input.Joins carries under)
    (grows : ∀ link packet, carries link packet → further link packet) :
    input.Joins further under := by
  cases input with
  | source | passthrough => trivial
  | merge held =>
      exact ⟨joins.1, fun field member packet cached => grows _ _ (joins.2 field member packet cached)⟩

theorem Joins.stop {under : Option MergeCall} (joins : input.Joins carries under) :
    input.Joins carries none := by
  cases under with
  | none => exact joins
  | some call =>
      cases input with
      | source | passthrough => trivial
      | merge held => exact ⟨joins.1.stop, joins.2⟩

theorem Stepped.fits (fits : input.Fits bindings) (moved : Stepped links input call stepped) :
    stepped.input.Fits bindings := by
  cases moved with
  | made =>
      cases fits
      exact .source
  | waited | took | quit => exact fits
  | joined step =>
      cases fits with
      | merge several distinct layout =>
          have kept := Merge.layout_stepped step
          refine .merge several ?_ (kept.trans layout)
          unfold Merge.Distinct
          rw [kept]
          exact distinct

theorem Joins.begin (joins : input.Joins carries none) :
    input.Joins carries input.call.joining? := by
  cases input with
  | source | passthrough => trivial
  | merge held => exact ⟨joins.1.begin, joins.2⟩

theorem Stepped.joins (joins : input.Joins carries call.joining?)
    (slots : ∀ link packet, (links.get link).slot = some packet → carries link packet)
    (moved : Stepped links input call stepped) :
    stepped.input.Joins carries (stepped.outcome.getLeft?.bind InputCall.joining?) := by
  cases moved with
  | made | waited | took | quit => trivial
  | @joined held call stepped step =>
      have steady := joins.1.step step
      refine ⟨?_, step.caches joins.2 slots⟩
      cases outcome : stepped.outcome with
      | inl next =>
          rw [outcome] at steady
          exact steady
      | inr ended =>
          rw [outcome] at steady
          exact steady

theorem Stepped.takes {link : LinkId} {packet : Packet}
    (moved : Stepped links input call stepped) (single : stepped.input = .passthrough link)
    (brings : stepped.outcome = .inr (some packet)) : (links.get link).slot = some packet := by
  cases moved with
  | took slot =>
      cases single
      cases brings
      exact slot
  | waited | quit => cases brings
  | made | joined => cases single

theorem Stepped.composes {packet : Packet} (fits : input.Fits bindings)
    (several : 2 ≤ bindings.length) (joins : input.Joins carries call.joining?)
    (moved : Stepped links input call stepped) (brings : stepped.outcome = .inr (some packet)) :
    Merge.Composed carries (MergeSession.layoutOf bindings) packet.message := by
  cases moved with
  | joined step =>
      cases fits with
      | merge _ distinct layout =>
          rw [← layout]
          exact step.composes distinct joins.1 joins.2 (passOn_brought brings)
  | made =>
      cases fits
      cases several
  | took =>
      cases fits
      exact absurd several (Nat.lt_irrefl 1)
  | waited | quit => cases brings

end Input
end Sluice
