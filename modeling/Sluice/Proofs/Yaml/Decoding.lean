import Sluice.Yaml.Decoder

set_option autoImplicit false

/-! What decoders give. A whole number is read below its bound, and each one below it that is written out in
decimal digits is read as it stands; and a record keeps what holds of it before and after each of its fields. -/

namespace Sluice
namespace Yaml

namespace Atom

variable {number start : Nat} {digits rest : List Char} {character : Char}

theorem rest_nil_of_zero_first (written : Nat.toDigits 10 number = '0' :: rest) : rest = [] := by
  induction number using Nat.strongRecOn generalizing rest with
  | ind number ih =>
      by_cases single : number < 10
      · rw [Nat.toDigits_of_lt_base single] at written
        exact (List.cons.inj written).2.symm
      · rw [Nat.toDigits_of_base_le (by decide) (Nat.not_lt.mp single)] at written
        cases front : Nat.toDigits 10 (number / 10) with
        | nil => exact absurd front Nat.toDigits_ne_nil
        | cons first more =>
            rw [front, List.cons_append] at written
            obtain ⟨zero, _⟩ := List.cons.inj written
            subst zero
            cases ih (number / 10) (by omega) front
            have value := @Nat.ofDigitChars_ten_toDigits (number / 10)
            rw [front] at value
            change 0 = number / 10 at value
            omega

theorem hexDigit?_digit (digit : character.isDigit = true) :
    hexDigit? character = some (character.toNat - '0'.toNat) := by
  unfold hexDigit?
  rw [if_pos digit]

theorem digit_lt (digit : character.isDigit = true) : character.toNat - '0'.toNat < 10 := by
  unfold Char.isDigit at digit
  simp only [Bool.and_eq_true, decide_eq_true_eq] at digit
  have most : character.toNat ≤ 57 := digit.2
  change character.toNat - 48 < 10
  omega

private theorem foldl_decimal (decimal : ∀ character ∈ digits, character.isDigit = true) :
    digits.foldl
        (fun held digit =>
          held.bind fun value =>
            (hexDigit? digit).bind fun low => if low < 10 then some (10 * value + low) else none)
        (some start) =
      some (Nat.ofDigitChars 10 digits start) := by
  induction digits generalizing start with
  | nil => rfl
  | cons digit rest ih =>
      have here := decimal digit List.mem_cons_self
      have later : ∀ character ∈ rest, character.isDigit = true :=
        fun character listed => decimal character (List.mem_cons_of_mem _ listed)
      rw [List.foldl_cons, Nat.ofDigitChars_cons, ← ih later, Option.bind_some, hexDigit?_digit here,
        Option.bind_some, if_pos (digit_lt here)]

theorem digitsIn_decimal (decimal : ∀ character ∈ digits, character.isDigit = true) (nonempty : digits ≠ []) :
    digitsIn 10 digits = some (Nat.ofDigitChars 10 digits 0) := by
  unfold digitsIn
  rw [if_neg (fun empty => nonempty (List.isEmpty_iff.mp empty))]
  exact foldl_decimal decimal

theorem stripPlus_digit (digit : character.isDigit = true) :
    stripPlus (character :: rest) = character :: rest := by
  unfold stripPlus
  split
  · rename_i sign
    cases sign
    cases digit
  · rfl

theorem stripSign_digit (digit : character.isDigit = true) :
    stripSign (character :: rest) = character :: rest := by
  unfold stripSign
  split
  · rename_i sign
    cases sign
    cases digit
  · rename_i sign
    cases sign
    cases digit
  · rfl

theorem magnitude?_decimal (decimal : ∀ character ∈ digits, character.isDigit = true) (nonempty : digits ≠ [])
    (alone : ∀ rest, digits = '0' :: rest → rest = []) :
    magnitude? digits = some (Nat.ofDigitChars 10 digits 0) := by
  have padless : isZeroPadded digits = false := by
    cases digits with
    | nil => exact absurd rfl nonempty
    | cons first rest =>
        unfold isZeroPadded
        rw [stripSign_digit (decimal first List.mem_cons_self)]
        split
        · rename_i padded
          cases alone _ padded
        · rfl
  -- No letter for another radix stands behind the first digit.
  unfold magnitude?
  split
  · cases decimal 'x' (List.mem_cons_of_mem _ List.mem_cons_self)
  · cases decimal 'o' (List.mem_cons_of_mem _ List.mem_cons_self)
  · cases decimal 'b' (List.mem_cons_of_mem _ List.mem_cons_self)
  · rw [padless]
    exact digitsIn_decimal decimal nonempty

theorem unsigned?_toString : unsigned? (toString number).toList = some number := by
  have decimal : ∀ character ∈ Nat.toDigits 10 number, character.isDigit = true :=
    fun _ listed => Nat.isDigit_of_mem_toDigits (by decide) (by decide) listed
  have magnitude := magnitude?_decimal decimal Nat.toDigits_ne_nil fun _ => rest_nil_of_zero_first
  rw [Nat.ofDigitChars_ten_toDigits] at magnitude
  rw [Nat.toString_eq_ofList_toDigits, String.toList_ofList]
  unfold unsigned?
  cases written : Nat.toDigits 10 number with
  | nil => exact absurd written Nat.toDigits_ne_nil
  | cons first rest =>
      rw [written] at decimal magnitude
      rw [stripPlus_digit (decimal first List.mem_cons_self)]
      exact magnitude

end Atom

namespace Reading

variable {α β : Type} {holds : α → Prop} {held : β → Prop} {reading : Reading α}

def Gives (holds : α → Prop) (reading : Reading α) : Prop :=
  ∀ followed result, reading followed = .ok result → holds result.1

theorem gives_pure {value : α} (has : holds value) : Gives holds (pure value : Reading α) := by
  intro followed result read
  cases read
  exact has

theorem gives_fail {fault : Fault} : Gives holds (fail fault) := by
  intro followed result read
  cases read

theorem Gives.bind {next : α → Reading β} (first : Gives holds reading)
    (later : ∀ value, holds value → Gives held (next value)) : Gives held (reading >>= next) := by
  intro followed result read
  cases before : reading followed with
  | error fault =>
      simp only [Bind.bind, StateT.bind, Except.bind, before] at read
      cases read
  | ok reached =>
      simp only [Bind.bind, StateT.bind, Except.bind, before] at read
      exact later reached.1 (first followed reached before) reached.2 result read

theorem gives_true : Gives (fun _ => True) reading :=
  fun _ _ _ => trivial

theorem Gives.locate {place : Place} (gives : Gives holds reading) : Gives holds (reading.locate place) := by
  intro followed result read
  unfold Reading.locate at read
  cases inner : reading followed with
  | error fault =>
      simp only [inner] at read
      cases read
  | ok reached =>
      simp only [inner] at read
      cases read
      exact gives followed result inner

theorem Gives.run {document : Document} {value : α} (gives : Gives holds reading)
    (ran : Reading.run document reading = .ok value) : holds value := by
  unfold Reading.run at ran
  cases read : reading 0 with
  | error fault =>
      simp only [read] at ran
      cases ran
  | ok reached =>
      have has := gives 0 reached read
      simp only [read] at ran
      split at ran
      · cases ran
      · split at ran
        · cases ran
        · cases ran
          exact has

end Reading

namespace Decoder

variable {α σ : Type} {holds : α → Prop} {kept : σ → Prop} {document : Document} {path : Path} {node : Node}
  {rules : List (FieldRule σ)}

def Gives (holds : α → Prop) (decoder : Decoder α) : Prop :=
  ∀ document path node, Reading.Gives holds (decoder document path node)

/-- What holds of a record still holds when the field has been read into it. -/
def Keeps (kept : σ → Prop) (rule : FieldRule σ) : Prop :=
  ∀ record, kept record → Gives kept (rule.readInto record)

theorem gives_true {decoder : Decoder α} : Gives (fun _ => True) decoder :=
  fun _ _ _ => Reading.gives_true

theorem gives_misplaced {mark : Mark} {what : Misfit} :
    Reading.Gives holds (placed path mark (Reading.misfit what)) :=
  Reading.gives_fail.locate

theorem gives_refuse {expected : String} : Reading.Gives holds (refuse document path node expected) := by
  unfold refuse
  split
  · exact gives_misplaced
  · exact gives_misplaced
  · exact gives_misplaced
  · exact Reading.gives_fail
  · exact Reading.gives_fail

theorem gives_natural {expected : String} {bound : Nat} : Gives (· < bound) (natural expected bound) := by
  intro document path node
  refine Reading.gives_true.bind fun target _ => ?_
  cases target with
  | scalar tag text style mark =>
      dsimp only
      cases Atom.unsigned? text.toList with
      | none => exact gives_refuse
      | some value =>
          dsimp only
          split
          · exact gives_refuse
          · split
            · rename_i below
              exact Reading.gives_pure below
            · exact gives_misplaced
  | _ => exact gives_refuse

theorem natural_toString {expected : String} {bound value : Nat} {mark : Mark} (word : value < Nat.pow 2 64)
    (below : value < bound) :
    natural expected bound document path (.scalar none (toString value) .plain mark) = pure value := by
  have integer : mayBeInteger none .plain = true := rfl
  have fitting : ¬ Nat.pow 2 64 ≤ value := Nat.not_le.mpr word
  unfold natural Reading.follow
  rw [pure_bind]
  simp only [Atom.unsigned?_toString, integer, decide_eq_false fitting, below, if_true]
  rfl

theorem entries_field {tag : Option Tag} {name : String} {style : ScalarStyle} {mark : Mark} {value : Node}
    {rest : List Node} {rule : FieldRule σ} {record next : σ}
    (known : rules.find? (fun rule => rule.name = name) = some rule) (absent : rule.isSet record = false)
    (reads : rule.readInto record document (.field path name) value = pure next) :
    entries rules document path record (.scalar tag name style mark :: value :: rest) =
      entries rules document path next rest := by
  rw [entries]
  unfold textAs Reading.follow
  simp only [pure_bind, known, absent, Bool.false_eq_true, if_false]
  unfold keyPath
  rw [reads, pure_bind]

theorem record_mapping {title : String} {start held : σ} {finish : σ → Except Misfit α} {tag : Option Tag}
    {nodes : List Node} {mark : Mark} {value : α}
    (fields : entries rules document path start nodes = pure held) (completes : finish held = .ok value) :
    record title rules start finish document path (.mapping tag nodes mark) = pure value := by
  unfold record Reading.follow
  simp only [pure_bind, fields, completes]
  rfl

/-- By induction on the entries: each field that is read keeps what held of the record before. -/
theorem gives_entries {record : σ} {nodes : List Node} (keep : ∀ rule ∈ rules, Keeps kept rule)
    (before : kept record) : Reading.Gives kept (entries rules document path record nodes) := by
  induction record, nodes using entries.induct with
  | case1 => exact Reading.gives_pure before
  | case2 => exact Reading.gives_true.bind fun _ _ => Reading.gives_fail
  | case3 record key value rest skipped read =>
      refine Reading.gives_true.bind fun name _ => ?_
      cases named : rules.find? fun rule => rule.name = name with
      | none => exact Reading.gives_true.bind fun _ _ => skipped before
      | some rule =>
          dsimp only
          split
          · exact Reading.gives_fail
          · have listed := List.mem_of_find?_eq_some named
            exact (keep rule listed record before document _ value).bind fun next after => read next after

theorem gives_record {title : String} {start : σ} {finish : σ → Except Misfit α}
    (keep : ∀ rule ∈ rules, Keeps kept rule) (before : kept start)
    (completes : ∀ record value, kept record → finish record = .ok value → holds value) :
    Gives holds (record title rules start finish) := by
  intro document path node
  unfold record
  refine Reading.gives_true.bind fun target _ => ?_
  extract_lets complete
  have completed : ∀ held, kept held → Reading.Gives holds (complete held) := by
    intro held after
    dsimp only [complete]
    cases finished : finish held with
    | error => exact Reading.gives_fail
    | ok value => exact Reading.gives_pure (completes held value after finished)
  cases target with
  | mapping tag nodes mark => exact ((gives_entries keep before).bind completed).locate
  | void mark => exact (completed start before).locate
  | scalar tag text style mark =>
      dsimp only
      split
      · exact (completed start before).locate
      · exact gives_refuse
  | _ => exact gives_refuse

end Decoder

end Yaml
end Sluice
