import Sluice.Number.Binary64

set_option autoImplicit false

/-! Structured records as they travel between stages. A record lists its fields by strictly
increasing name, at every depth, so equal records are equal lists. -/

namespace Sluice

/-- A field's content; `unset` is a value without any kind. -/
inductive Value where
  | unset
  | null
  | bool (truth : Bool)
  | number (number : Binary64)
  | text (text : String)
  | list (items : List Value)
  | record (fields : List (String × Value))

abbrev Fields := List (String × Value)

namespace Fields

def find? (name : String) : Fields → Option Value
  | [] => none
  | (other, value) :: rest => if other = name then some value else find? name rest

def insert (name : String) (value : Value) : Fields → Fields
  | [] => [(name, value)]
  | (other, held) :: rest =>
      if name < other then (name, value) :: (other, held) :: rest
      else if name = other then (name, value) :: rest
      else (other, held) :: insert name value rest

end Fields

mutual

def Value.Ordered : Value → Prop
  | .list items => ItemsOrdered items
  | .record fields => FieldsOrdered fields
  | _ => True

def ItemsOrdered : List Value → Prop
  | [] => True
  | item :: rest => item.Ordered ∧ ItemsOrdered rest

/-- Names increase strictly, here and in every value. -/
def FieldsOrdered : List (String × Value) → Prop
  | [] => True
  | (name, value) :: rest =>
      (∀ field ∈ rest, name < field.1) ∧ value.Ordered ∧ FieldsOrdered rest

end

namespace Fields

theorem mem_insert {name : String} {value : Value} {fields : Fields} {field : String × Value}
    (member : field ∈ insert name value fields) : field = (name, value) ∨ field ∈ fields := by
  induction fields with
  | nil => simpa [insert] using member
  | cons head rest ih =>
      obtain ⟨other, held⟩ := head
      by_cases before : name < other
      · simpa [insert, before] using member
      · by_cases same : name = other
        · rw [insert, if_neg before, if_pos same] at member
          rcases List.mem_cons.1 member with here | later
          · exact Or.inl here
          · exact Or.inr (List.mem_cons_of_mem _ later)
        · rw [insert, if_neg before, if_neg same] at member
          rcases List.mem_cons.1 member with here | later
          · exact Or.inr (here ▸ List.mem_cons_self)
          · rcases ih later with new | old
            · exact Or.inl new
            · exact Or.inr (List.mem_cons_of_mem _ old)

theorem after_of_not_before {name other : String} (before : ¬ name < other)
    (same : ¬ name = other) : other < name := by
  rcases String.le_total other name with less | more
  · exact Decidable.byContradiction fun absent => same (String.le_antisymm (String.not_lt.1 absent) less)
  · exact absurd (String.le_antisymm more (String.not_lt.1 before)) same

theorem insert_ordered {name : String} {value : Value} {fields : Fields}
    (valueOrdered : value.Ordered) (ordered : FieldsOrdered fields) :
    FieldsOrdered (insert name value fields) := by
  induction fields with
  | nil => exact ⟨by simp, valueOrdered, trivial⟩
  | cons head rest ih =>
      obtain ⟨other, held⟩ := head
      obtain ⟨above, heldOrdered, restOrdered⟩ := ordered
      by_cases before : name < other
      · rw [insert, if_pos before]
        refine ⟨?_, valueOrdered, above, heldOrdered, restOrdered⟩
        intro field member
        rcases List.mem_cons.1 member with here | later
        · exact here ▸ before
        · exact String.lt_trans before (above field later)
      · by_cases same : name = other
        · rw [insert, if_neg before, if_pos same]
          exact ⟨same ▸ above, valueOrdered, restOrdered⟩
        · rw [insert, if_neg before, if_neg same]
          refine ⟨?_, heldOrdered, ih restOrdered⟩
          intro field member
          rcases mem_insert member with new | old
          · exact new ▸ after_of_not_before before same
          · exact above field old

theorem find?_ordered {name : String} {value : Value} {fields : Fields}
    (ordered : FieldsOrdered fields) (found : find? name fields = some value) :
    value.Ordered := by
  induction fields with
  | nil => simp [find?] at found
  | cons head rest ih =>
      obtain ⟨other, held⟩ := head
      obtain ⟨_, heldOrdered, restOrdered⟩ := ordered
      by_cases same : other = name
      · rw [find?, if_pos same, Option.some.injEq] at found
        exact found ▸ heldOrdered
      · rw [find?, if_neg same] at found
        exact ih restOrdered found

end Fields

mutual

def Value.inOrder : Value → Value
  | .list items => .list (itemsInOrder items)
  | .record fields => .record (fieldsInOrder fields)
  | other => other

def itemsInOrder : List Value → List Value
  | [] => []
  | item :: rest => item.inOrder :: itemsInOrder rest

def fieldsInOrder : List (String × Value) → List (String × Value)
  | [] => []
  | (name, value) :: rest => Fields.insert name value.inOrder (fieldsInOrder rest)

end

mutual

theorem Value.inOrder_ordered : (value : Value) → value.inOrder.Ordered
  | .unset => trivial
  | .null => trivial
  | .bool _ => trivial
  | .number _ => trivial
  | .text _ => trivial
  | .list items => by
      rw [Value.inOrder, Value.Ordered]
      exact itemsInOrder_ordered items
  | .record fields => by
      rw [Value.inOrder, Value.Ordered]
      exact fieldsInOrder_ordered fields

theorem itemsInOrder_ordered : (items : List Value) → ItemsOrdered (itemsInOrder items)
  | [] => trivial
  | item :: rest => ⟨item.inOrder_ordered, itemsInOrder_ordered rest⟩

theorem fieldsInOrder_ordered :
    (fields : List (String × Value)) → FieldsOrdered (fieldsInOrder fields)
  | [] => trivial
  | (_, value) :: rest => Fields.insert_ordered value.inOrder_ordered (fieldsInOrder_ordered rest)

end

mutual

def Value.sameValue : Value → Value → Bool
  | .unset, .unset => true
  | .null, .null => true
  | .bool left, .bool right => left == right
  | .number left, .number right => left.sameNumber right
  | .text left, .text right => left == right
  | .list left, .list right => sameItems left right
  | .record left, .record right => sameFields left right
  | _, _ => false

def sameItems : List Value → List Value → Bool
  | [], [] => true
  | left :: lefts, right :: rights => left.sameValue right && sameItems lefts rights
  | _, _ => false

def sameFields : List (String × Value) → List (String × Value) → Bool
  | [], [] => true
  | (leftName, left) :: lefts, (rightName, right) :: rights =>
      leftName == rightName && left.sameValue right && sameFields lefts rights
  | _, _ => false

end

@[ext] structure Message where
  fields : Fields
  ordered : FieldsOrdered fields

inductive MessageError where
  | notARecord (field : String)
deriving DecidableEq

def MessageError.text : MessageError → String
  | .notARecord field => "field '" ++ field ++ "' is not a structured sub-record"

namespace Message

def empty : Message :=
  { fields := [], ordered := trivial }

def ofFields (fields : Fields) : Message :=
  { fields := fieldsInOrder fields, ordered := fieldsInOrder_ordered fields }

def names (message : Message) : List String :=
  message.fields.map Prod.fst

def set (message : Message) (name : String) (value : Value) (ordered : value.Ordered) : Message :=
  { fields := message.fields.insert name value
    ordered := Fields.insert_ordered ordered message.ordered }

def withRecord (message : Message) (field : String) (record : Message) : Message :=
  message.set field (.record record.fields) (by simpa [Value.Ordered] using record.ordered)

def withNumber (message : Message) (field : String) (number : Binary64) : Message :=
  message.set field (.number number) trivial

/-- A field that is absent, null or without a kind reads as the empty record. -/
def record (message : Message) (field : String) : Except MessageError Message :=
  match found : message.fields.find? field with
  | none | some .unset | some .null => .ok empty
  | some (.record inner) =>
      .ok { fields := inner
            ordered := by simpa [Value.Ordered] using Fields.find?_ordered message.ordered found }
  | some _ => .error (.notARecord field)

def number? (message : Message) (field : String) : Option Binary64 :=
  match message.fields.find? field with
  | some (.number number) => some number
  | _ => none

def sameMessage (left right : Message) : Bool :=
  sameFields left.fields right.fields

end Sluice.Message
