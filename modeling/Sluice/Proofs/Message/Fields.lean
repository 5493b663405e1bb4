import Sluice.Message

set_option autoImplicit false

/-! What the fields of a record read as. Of a field that is set, the name written reads as written, every
other name reads as before, and exactly one name may be new; and fields in order are known by what they
read as. -/

namespace Sluice
namespace Fields

variable {name other : String} {value : Value} {fields : Fields}

theorem find?_insert_same : (fields.insert name value).find? name = some value := by
  induction fields with
  | nil => simp [insert, find?]
  | cons head rest ih =>
      obtain ⟨first, held⟩ := head
      by_cases before : name < first
      · simp [insert, before, find?]
      · by_cases same : name = first
        · subst same
          simp [insert, find?]
        · have different : first ≠ name := fun equal => same equal.symm
          simp [insert, before, same, find?, different, ih]

theorem find?_insert_other (different : name ≠ other) :
    (fields.insert name value).find? other = fields.find? other := by
  induction fields with
  | nil => simp [insert, find?, different]
  | cons head rest ih =>
      obtain ⟨first, held⟩ := head
      by_cases before : name < first
      · simp [insert, before, find?, different]
      · by_cases same : name = first
        · subst same
          simp [insert, find?, different]
        · simp [insert, before, same, find?, ih]

theorem mem_names_insert :
    other ∈ (fields.insert name value).map Prod.fst ↔ other = name ∨ other ∈ fields.map Prod.fst := by
  induction fields with
  | nil => simp [insert]
  | cons head rest ih =>
      obtain ⟨first, held⟩ := head
      by_cases before : name < first
      · simp [insert, before]
      · by_cases same : name = first
        · subst same
          simp [insert]
        · simp only [insert, if_neg before, if_neg same, List.map_cons, List.mem_cons, ih]
          constructor
          · rintro (atHead | new | later)
            · exact Or.inr (Or.inl atHead)
            · exact Or.inl new
            · exact Or.inr (Or.inr later)
          · rintro (new | atHead | later)
            · exact Or.inr (Or.inl new)
            · exact Or.inl atHead
            · exact Or.inr (Or.inr later)

theorem find?_eq_none : fields.find? name = none ↔ name ∉ fields.map Prod.fst := by
  induction fields with
  | nil => simp [find?]
  | cons head rest ih =>
      obtain ⟨first, held⟩ := head
      by_cases same : first = name
      · simp [find?, same]
      · have different : name ≠ first := fun equal => same equal.symm
        rw [find?, if_neg same, ih, List.map_cons, List.mem_cons, not_or]
        exact (and_iff_right different).symm

private theorem find?_below (above : ∀ field ∈ fields, name < field.1) : fields.find? name = none := by
  rw [find?_eq_none]
  intro listed
  obtain ⟨field, member, same⟩ := List.mem_map.mp listed
  exact String.lt_irrefl name (same ▸ above field member)

private theorem find?_head {first : String} {held : Value} {rest : Fields}
    (above : ∀ field ∈ rest, first < field.1) (found : find? name ((first, held) :: rest) = some value) :
    first = name ∧ held = value ∨ first < name := by
  by_cases same : first = name
  · rw [find?, if_pos same] at found
    exact Or.inl ⟨same, Option.some.inj found⟩
  · rw [find?, if_neg same] at found
    have listed : name ∈ rest.map Prod.fst := by
      apply Decidable.byContradiction
      intro absent
      rw [find?_eq_none.mpr absent] at found
      cases found
    obtain ⟨field, member, sameName⟩ := List.mem_map.mp listed
    exact Or.inr (sameName ▸ above field member)

theorem eq_of_find? {left right : Fields} (leftOrdered : FieldsOrdered left)
    (rightOrdered : FieldsOrdered right) (same : ∀ name, left.find? name = right.find? name) :
    left = right := by
  induction left generalizing right with
  | nil =>
      cases right with
      | nil => rfl
      | cons head rest =>
          have read := same head.1
          rw [find?, find?, if_pos rfl] at read
          cases read
  | cons first lefts ih =>
      cases right with
      | nil =>
          have read := same first.1
          rw [find?, find?, if_pos rfl] at read
          cases read
      | cons second rights =>
          obtain ⟨leftName, leftValue⟩ := first
          obtain ⟨rightName, rightValue⟩ := second
          obtain ⟨leftAbove, _, leftRest⟩ := leftOrdered
          obtain ⟨rightAbove, _, rightRest⟩ := rightOrdered
          have atLeft : find? leftName ((rightName, rightValue) :: rights) = some leftValue := by
            rw [← same, find?, if_pos rfl]
          have atRight : find? rightName ((leftName, leftValue) :: lefts) = some rightValue := by
            rw [same, find?, if_pos rfl]
          -- the first names are equal: neither can lie behind the other
          have heads : rightName = leftName ∧ rightValue = leftValue := by
            rcases find?_head rightAbove atLeft with equal | below
            · exact equal
            · rcases find?_head leftAbove atRight with equal | above
              · exact absurd (equal.1 ▸ below) (String.lt_irrefl _)
              · exact absurd (String.lt_trans below above) (String.lt_irrefl _)
          obtain ⟨sameName, sameValue⟩ := heads
          subst sameName sameValue
          congr 1
          apply ih leftRest rightRest
          intro name
          by_cases here : rightName = name
          · subst here
            rw [find?_below leftAbove, find?_below rightAbove]
          · have read := same name
            rwa [find?, find?, if_neg here, if_neg here] at read

end Fields

/-- The kinds of value that cannot be read as a record. -/
def Value.Unstructured : Value → Prop
  | .bool _ | .number _ | .text _ | .list _ => True
  | .unset | .null | .record _ => False

namespace Message

variable {message part : Message} {field other name : String}

def Holds (message : Message) (field : String) (part : Message) : Prop :=
  message.fields.find? field = some (.record part.fields)

theorem holds_withRecord_same : (message.withRecord field part).Holds field part :=
  Fields.find?_insert_same

theorem mem_names_withRecord :
    name ∈ (message.withRecord field part).names ↔ name = field ∨ name ∈ message.names :=
  Fields.mem_names_insert

theorem Holds.record (held : message.Holds field part) : message.record field = .ok part := by
  unfold Message.record
  split
  · rename_i absent
    rw [held] at absent
    cases absent
  · rename_i unset
    rw [held] at unset
    cases unset
  · rename_i null
    rw [held] at null
    cases null
  · rename_i inner found
    have same := Option.some.inj (held.symm.trans found)
    injection same with fieldsEq
    congr 1
    exact Message.ext fieldsEq.symm
  · rename_i value noRecord found
    exact absurd (Option.some.inj (found.symm.trans held)) (noRecord part.fields)

/-- The field is absent, null or without a kind. -/
def Blank (message : Message) (field : String) : Prop :=
  message.fields.find? field = none ∨ message.fields.find? field = some .unset ∨
    message.fields.find? field = some .null

/-- The field holds a number, a truth value, a text or a list. -/
def Unstructured (message : Message) (field : String) : Prop :=
  ∃ value, message.fields.find? field = some value ∧ value.Unstructured

theorem Blank.record (blank : message.Blank field) : message.record field = .ok empty := by
  unfold Message.record
  split
  · rfl
  · rfl
  · rfl
  · rename_i inner found
    rcases blank with absent | unset | null
    · cases absent.symm.trans found
    · cases unset.symm.trans found
    · cases null.symm.trans found
  · rename_i value noUnset noNull _ found
    rcases blank with absent | unset | null
    · cases absent.symm.trans found
    · exact absurd (Option.some.inj (found.symm.trans unset)) noUnset
    · exact absurd (Option.some.inj (found.symm.trans null)) noNull

theorem Unstructured.record (unstructured : message.Unstructured field) :
    message.record field = .error (.notARecord field) := by
  obtain ⟨value, held, kind⟩ := unstructured
  unfold Message.record
  split
  · rename_i absent
    cases held.symm.trans absent
  · rename_i unset
    cases held.symm.trans unset
    cases kind
  · rename_i null
    cases held.symm.trans null
    cases kind
  · rename_i inner found
    cases held.symm.trans found
    cases kind
  · rfl

theorem record_cases (message : Message) (field : String) :
    message.Blank field ∨ (∃ part, message.Holds field part) ∨ message.Unstructured field := by
  cases found : message.fields.find? field with
  | none => exact Or.inl (Or.inl found)
  | some value =>
      cases value with
      | unset => exact Or.inl (Or.inr (Or.inl found))
      | null => exact Or.inl (Or.inr (Or.inr found))
      | record inner =>
          have ordered := Fields.find?_ordered message.ordered found
          refine Or.inr (Or.inl ⟨{ fields := inner, ordered := ?_ }, found⟩)
          rwa [Value.Ordered] at ordered
      | bool | number | text | list => exact Or.inr (Or.inr ⟨_, found, trivial⟩)

theorem record_error_iff {cause : MessageError} :
    message.record field = .error cause ↔ message.Unstructured field ∧ cause = .notARecord field := by
  constructor
  · intro failed
    rcases message.record_cases field with blank | ⟨part, held⟩ | unstructured
    · cases blank.record.symm.trans failed
    · cases held.record.symm.trans failed
    · cases unstructured.record.symm.trans failed
      exact ⟨unstructured, rfl⟩
  · rintro ⟨unstructured, same⟩
    exact same ▸ unstructured.record

theorem eq_of_find? {left right : Message}
    (same : ∀ name, left.fields.find? name = right.fields.find? name) : left = right :=
  Message.ext (Fields.eq_of_find? left.ordered right.ordered same)

theorem eq_of_holds {left right : Message} (names : ∀ name, name ∈ left.names ↔ name ∈ right.names)
    (records : ∀ name ∈ left.names, ∃ part, left.Holds name part ∧ right.Holds name part) :
    left = right := by
  apply eq_of_find?
  intro name
  by_cases listed : name ∈ left.names
  · obtain ⟨part, leftHolds, rightHolds⟩ := records name listed
    exact leftHolds.trans rightHolds.symm
  · have absent : name ∉ right.names := fun present => listed ((names name).mpr present)
    exact (Fields.find?_eq_none.mpr listed).trans (Fields.find?_eq_none.mpr absent).symm

end Sluice.Message
