import Sluice.Merge
import Sluice.Proofs.Message.Fields

set_option autoImplicit false

/-! Reading and writing the fields of a message. What is written is what is read, of its own kind alone; other
fields read as before; the last write to a field wins, and writes to different fields may change places. So
records written under different names make the same message in any order, which is how a merge composes what
it has cached. -/

namespace Sluice
namespace Message

variable {message left right : Message} {field other name : String}

theorem find?_set {value : Value} (ordered : value.Ordered) :
    (message.set field value ordered).fields.find? name =
      if field = name then some value else message.fields.find? name := by
  by_cases same : field = name
  · subst same
    rw [if_pos rfl]
    exact Fields.find?_insert_same
  · rw [if_neg same]
    exact Fields.find?_insert_other same

theorem record_congr (same : left.fields.find? field = right.fields.find? field) :
    left.record field = right.record field := by
  rcases left.record_cases field with blank | ⟨part, held⟩ | ⟨value, found, kind⟩
  · have other : right.Blank field := by
      unfold Blank at blank ⊢
      rwa [same] at blank
    exact blank.record.trans other.record.symm
  · have other : right.Holds field part := same.symm.trans held
    exact held.record.trans other.record.symm
  · have here : left.Unstructured field := ⟨value, found, kind⟩
    have there : right.Unstructured field := ⟨value, same.symm.trans found, kind⟩
    exact here.record.trans there.record.symm

theorem number?_congr (same : left.fields.find? field = right.fields.find? field) :
    left.number? field = right.number? field := by
  unfold number?
  rw [same]

theorem record_ok_iff {part : Message} :
    message.record field = .ok part ↔
      message.Holds field part ∨ message.Blank field ∧ part = empty := by
  constructor
  · intro read
    rcases message.record_cases field with blank | ⟨inner, held⟩ | unstructured
    · exact Or.inr ⟨blank, Except.ok.inj (read.symm.trans blank.record)⟩
    · have same : inner = part := Except.ok.inj (held.record.symm.trans read)
      exact Or.inl (same ▸ held)
    · cases unstructured.record.symm.trans read
  · rintro (held | ⟨blank, same⟩)
    · exact held.record
    · exact same ▸ blank.record

theorem number?_eq_some_iff {number : Binary64} :
    message.number? field = some number ↔ message.fields.find? field = some (.number number) := by
  unfold number?
  split
  · rename_i held found
    rw [found, Option.some.injEq, Option.some.injEq, Value.number.injEq]
  · rename_i different
    constructor
    · intro impossible
      cases impossible
    · intro found
      exact absurd found (different number)

theorem Holds.number? {part : Message} (held : message.Holds field part) :
    message.number? field = none := by
  unfold Message.number?
  split
  · rename_i number found
    cases held.symm.trans found
  · rfl

inductive Content where
  | record (part : Message)
  | number (amount : Binary64)

def Content.value : Content → Value
  | .record part => .record part.fields
  | .number amount => .number amount

theorem Content.ordered (content : Content) : content.value.Ordered := by
  cases content with
  | record part =>
      rw [value, Value.Ordered]
      exact part.ordered
  | number amount => trivial

def write (message : Message) (field : String) : Content → Message
  | .record part => message.withRecord field part
  | .number amount => message.withNumber field amount

theorem find?_write (content : Content) :
    (message.write field content).fields.find? name =
      if field = name then some content.value else message.fields.find? name := by
  cases content with
  | record part => exact find?_set (Content.record part).ordered
  | number amount => exact find?_set (Content.number amount).ordered

theorem find?_write_other (content : Content) (apart : field ≠ other) :
    (message.write field content).fields.find? other = message.fields.find? other := by
  rw [find?_write, if_neg apart]

theorem write_write (first second : Content) :
    (message.write field first).write field second = message.write field second := by
  apply eq_of_find?
  intro name
  rw [find?_write, find?_write, find?_write]
  by_cases here : field = name
  · rw [if_pos here, if_pos here]
  · rw [if_neg here, if_neg here, if_neg here]

theorem write_comm (apart : field ≠ other) (first second : Content) :
    (message.write field first).write other second =
      (message.write other second).write field first := by
  apply eq_of_find?
  intro name
  rw [find?_write, find?_write, find?_write, find?_write]
  by_cases here : field = name
  · have there : other ≠ name := fun same => apart (here.trans same.symm)
    rw [if_neg there, if_pos here, if_pos here]
  · rw [if_neg here, if_neg here]

def withRecords (start : Message) (parts : List (String × Message)) : Message :=
  parts.foldl (fun message part => message.withRecord part.1 part.2) start

variable {start : Message} {part : String × Message} {parts others : List (String × Message)}

theorem find?_withRecords_other (absent : name ∉ parts.map Prod.fst) :
    (start.withRecords parts).fields.find? name = start.fields.find? name := by
  induction parts generalizing start with
  | nil => rfl
  | cons head rest ih =>
      rw [List.map_cons, List.mem_cons, not_or] at absent
      obtain ⟨different, later⟩ := absent
      have apart : head.1 ≠ name := fun same => different same.symm
      exact (ih later).trans (find?_write_other (.record head.2) apart)

theorem holds_withRecords (distinct : (parts.map Prod.fst).Nodup) (member : part ∈ parts) :
    (start.withRecords parts).Holds part.1 part.2 := by
  induction parts generalizing start with
  | nil => cases member
  | cons head rest ih =>
      rw [List.map_cons, List.nodup_cons] at distinct
      obtain ⟨fresh, distinctRest⟩ := distinct
      rcases List.mem_cons.mp member with here | later
      · subst here
        -- no later write touches the field again
        exact (find?_withRecords_other fresh).trans holds_withRecord_same
      · exact ih distinctRest later

theorem mem_names_withRecords :
    name ∈ (start.withRecords parts).names ↔ name ∈ parts.map Prod.fst ∨ name ∈ start.names := by
  induction parts generalizing start with
  | nil => exact (or_iff_right List.not_mem_nil).symm
  | cons head rest ih =>
      refine ih.trans ?_
      rw [mem_names_withRecord, List.map_cons, List.mem_cons, ← or_assoc]
      exact or_congr_left or_comm

theorem withRecords_perm (same : parts.Perm others) (distinct : (parts.map Prod.fst).Nodup) :
    start.withRecords parts = start.withRecords others := by
  induction same generalizing start with
  | nil => rfl
  | cons part _ ih => exact ih (List.nodup_cons.mp distinct).2
  | swap first second rest =>
      have apart : second.1 ≠ first.1 := fun equal =>
        (List.nodup_cons.mp distinct).1 (equal ▸ List.mem_cons_self)
      have swapped := @write_comm start second.1 first.1 apart (.record second.2) (.record first.2)
      exact congrArg (fun message => withRecords message rest) swapped
  | trans firstPerm _ ih later =>
      exact (ih distinct).trans (later ((firstPerm.map Prod.fst).nodup_iff.mp distinct))

end Message

def MergeField.part? (field : MergeField) : Option (String × Message) :=
  field.cached.map fun packet => (field.name, packet.message)

namespace Merge

variable {merge : Merge}

def parts (merge : Merge) : List (String × Message) :=
  merge.fields.filterMap MergeField.part?

theorem composite_eq : merge.composite = Message.empty.withRecords merge.parts := by
  unfold composite parts
  generalize Message.empty = start
  induction merge.fields generalizing start with
  | nil => rfl
  | cons head rest ih =>
      cases held : head.cached with
      | none =>
          have nothing : head.part? = none := by rw [MergeField.part?, held, Option.map_none]
          rw [List.foldl_cons, List.filterMap_cons_none nothing, held]
          exact ih start
      | some packet =>
          have something : head.part? = some (head.name, packet.message) := by
            rw [MergeField.part?, held, Option.map_some]
          rw [List.foldl_cons, List.filterMap_cons_some something, held]
          exact ih (start.withRecord head.name packet.message)

theorem mem_parts {part : String × Message} :
    part ∈ merge.parts ↔ ∃ field ∈ merge.fields, ∃ packet,
      field.cached = some packet ∧ (field.name, packet.message) = part := by
  unfold parts MergeField.part?
  simp only [List.mem_filterMap, Option.map_eq_some_iff]

theorem distinct_parts (distinct : (merge.fields.map (·.name)).Nodup) :
    (merge.parts.map Prod.fst).Nodup := by
  apply List.Nodup.sublist _ distinct
  unfold parts
  induction merge.fields with
  | nil => exact List.Sublist.slnil
  | cons head rest ih =>
      cases part : head.part? with
      | none =>
          rw [List.filterMap_cons_none part]
          exact ih.cons head.name
      | some found =>
          have named : found.1 = head.name := by
            obtain ⟨packet, _, same⟩ := Option.map_eq_some_iff.mp part
            exact same ▸ rfl
          rw [List.filterMap_cons_some part, List.map_cons, List.map_cons, named]
          exact ih.cons_cons head.name

end Merge

namespace Message

variable {message start : Message} {field other : String} {parts : List (String × Message)} {merge : Merge}

/-- How two fields of a message are read and written. -/
structure Lens (message : Message) (field other : String) : Prop where
  record_written : ∀ part, (message.withRecord field part).record field = .ok part ∧
    (message.withRecord field part).number? field = none
  number_written : ∀ amount, (message.withNumber field amount).number? field = some amount ∧
    (message.withNumber field amount).record field = .error (.notARecord field)
  untouched : ∀ content, (message.write field content).record other = message.record other ∧
    (message.write field content).number? other = message.number? other
  last : ∀ first second,
    (message.write field first).write field second = message.write field second
  exchanged : ∀ first second, (message.write field first).write other second =
    (message.write other second).write field first
  refused : ∀ cause, message.record field = .error cause ↔
    message.Unstructured field ∧ cause = .notARecord field
  read : ∀ part, message.record field = .ok part ↔
    message.Holds field part ∨ message.Blank field ∧ part = empty

/-- What becomes of a message by writing records to it. -/
structure Layered (start : Message) (parts : List (String × Message)) : Prop where
  order : ∀ others, parts.Perm others → start.withRecords parts = start.withRecords others
  written : ∀ part ∈ parts, (start.withRecords parts).record part.1 = .ok part.2
  kept : ∀ name, name ∉ parts.map Prod.fst →
    (start.withRecords parts).fields.find? name = start.fields.find? name
  names : ∀ name, name ∈ (start.withRecords parts).names ↔
    name ∈ parts.map Prod.fst ∨ name ∈ start.names

theorem layered_of_distinct (distinct : (parts.map Prod.fst).Nodup) : start.Layered parts := by
  constructor
  · intro others same
    exact withRecords_perm same distinct
  · intro part member
    exact (holds_withRecords distinct member).record
  · intro name absent
    exact find?_withRecords_other absent
  · intro name
    exact mem_names_withRecords

theorem lens_of_ne (apart : field ≠ other) : message.Lens field other := by
  constructor
  · intro part
    have held : (message.withRecord field part).Holds field part := holds_withRecord_same
    exact ⟨held.record, held.number?⟩
  · intro amount
    have found : (message.withNumber field amount).fields.find? field = some (.number amount) :=
      Fields.find?_insert_same
    have unstructured : (message.withNumber field amount).Unstructured field := ⟨_, found, trivial⟩
    exact ⟨number?_eq_some_iff.mpr found, unstructured.record⟩
  · intro content
    have same := @find?_write_other message field other content apart
    exact ⟨record_congr same, number?_congr same⟩
  · exact write_write
  · exact write_comm apart
  · intro cause
    exact record_error_iff
  · intro part
    exact record_ok_iff

/-- A field reads as what was written to it last, a record as a record and a number as a number, other fields
read as before, and writes to different fields may change places. It is no record exactly if it holds a number,
a truth value, a text or a list, and the empty one if it is absent, null or without a kind. So records written
under different names, such as those that a merge has cached, make one message in any order, with exactly
these fields on top of what was there. -/
theorem fields_lawful (apart : field ≠ other) (distinct : (parts.map Prod.fst).Nodup)
    (named : (merge.fields.map (·.name)).Nodup) :
    message.Lens field other ∧ start.Layered parts ∧
      merge.composite = empty.withRecords merge.parts ∧ empty.Layered merge.parts :=
  ⟨lens_of_ne apart, layered_of_distinct distinct, Merge.composite_eq,
    layered_of_distinct (Merge.distinct_parts named)⟩

namespace Loom

/-- A record within a record, a list, a null, a value without a kind, and a number that is none. -/
def cloth : Message :=
  (((empty.withRecord "warp" (empty.withRecord "silk" empty)).withNumber "weight" .notANumber).set
    "dyes" (.list [.null, .text "madder"])
    (by simp [Value.Ordered, ItemsOrdered])).set "label" .unset trivial

def threads : List (String × Message) :=
  [("weft", empty.withNumber "count" .zero), ("warp", empty)]

def shuttle : Merge :=
  { fields := [{ name := "warp", link := 1, cached := some { id := 4, message := cloth } },
      { name := "weft", link := 0, cached := some { id := 4, message := empty } }]
    floor := 4
    nextId := 0 }

end Loom

theorem fields_lawful_loom :
    "weight" ≠ "warp" ∧ (Loom.threads.map Prod.fst).Nodup ∧
      (Loom.shuttle.fields.map (·.name)).Nodup ∧ Loom.cloth.Lens "weight" "warp" ∧
      Loom.cloth.Layered Loom.threads ∧
      Loom.shuttle.composite = empty.withRecords Loom.shuttle.parts ∧
      empty.Layered Loom.shuttle.parts := by
  have apart : "weight" ≠ "warp" := by decide
  have distinct : (Loom.threads.map Prod.fst).Nodup := by decide
  have named : (Loom.shuttle.fields.map (·.name)).Nodup := by decide
  exact ⟨apart, distinct, named, fields_lawful apart distinct named⟩

end Message
end Sluice
