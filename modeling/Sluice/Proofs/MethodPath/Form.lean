import Sluice.Connector
import Sluice.Proofs.Text.Marks
import Sluice.Proofs.Text.Trimming

set_option autoImplicit false

/-! Which names spell a remote method, and the path that comes of one. The path is spelled as the name is as
long as there is no `#` in it; a `#` ends the path where it stands, and what is called is another method or
none that can be named again. -/

namespace Sluice

namespace MethodPath

open Text (takeWhile_mark dropWhile_mark takeWhile_plain not_mem_takeWhile_mark
  head_eq_of_dropWhile_mark split_unique)

variable {name : String} {path service method otherService otherMethod characters : List Char}

/-- A name without the blanks around it and the slashes ahead of it. -/
def bare (name : String) : List Char :=
  (Text.trimBlanks name.toList).dropWhile (· == '/')

/-- The name consists of a service and a method, with a slash between them and no other. -/
structure Spells (name : String) (service method : List Char) : Prop where
  whole : bare name = service ++ '/' :: method
  service_ne_nil : service ≠ []
  method_ne_nil : method ≠ []
  service_plain : '/' ∉ service
  method_plain : '/' ∉ method

def pathOf (service method : List Char) : List Char :=
  '/' :: service ++ '/' :: method

theorem Spells.unique (spells : Spells name service method)
    (others : Spells name otherService otherMethod) : service = otherService ∧ method = otherMethod :=
  split_unique spells.service_plain others.service_plain (spells.whole.symm.trans others.whole)

theorem parts_eq_some_iff : parts? name = some (service, method) ↔ Spells name service method := by
  have stripped : (Text.trimBlanks name.toList).dropWhile (· == '/') = bare name := rfl
  unfold parts?
  rw [stripped]
  dsimp only
  constructor
  · intro taken
    cases tail : (bare name).dropWhile (· != '/') with
    | nil =>
        rw [tail] at taken
        cases taken
    | cons slash rest =>
        rw [tail] at taken
        dsimp only at taken
        split at taken
        · cases taken
        · rename_i refused
          cases taken
          have isSlash : slash = '/' := head_eq_of_dropWhile_mark tail
          subst isSlash
          simp only [Bool.or_eq_true, List.isEmpty_iff, List.contains_iff_mem, not_or] at refused
          exact
            { whole := by rw [← tail, List.takeWhile_append_dropWhile]
              service_ne_nil := refused.1.1
              method_ne_nil := refused.1.2
              service_plain := not_mem_takeWhile_mark
              method_plain := refused.2 }
  · intro spells
    rw [spells.whole, takeWhile_mark spells.service_plain, dropWhile_mark spells.service_plain]
    simp [spells.service_ne_nil, spells.method_ne_nil, spells.method_plain]

/-- What the syntax of paths and queries lets through. -/
def Fit (characters : List Char) : Prop :=
  (Uri.pathAndQuery? characters).isSome = true

instance (characters : List Char) : Decidable (Fit characters) :=
  inferInstanceAs (Decidable ((Uri.pathAndQuery? characters).isSome = true))

def unfragmented (characters : List Char) : List Char :=
  characters.takeWhile (· != '#')

theorem unfragmented_plain (plain : '#' ∉ characters) : unfragmented characters = characters :=
  takeWhile_plain plain

theorem fragment_not_mem : '#' ∉ unfragmented characters :=
  not_mem_takeWhile_mark

theorem unfragmented_eq_nil_iff :
    unfragmented characters = [] ↔ characters = [] ∨ characters.head? = some '#' := by
  unfold unfragmented
  cases characters with
  | nil => simp
  | cons head rest => simp [List.takeWhile_cons]

/-- What follows a `#` is not looked at. -/
theorem fit_unfragmented : Fit (unfragmented characters) ↔ Fit characters := by
  unfold Fit Uri.pathAndQuery? unfragmented
  rw [List.takeWhile_idem]

private theorem inked_of_path {character : Char} (allowed : Uri.isPathCharacter character = true) :
    Text.isBlank character = false := by
  simp only [Uri.isPathCharacter, Text.isBlank, Bool.or_eq_true, Bool.and_eq_true, beq_iff_eq,
    decide_eq_true_eq, Bool.or_eq_false_iff, Bool.and_eq_false_iff, beq_eq_false_iff_ne,
    decide_eq_false_iff_not] at allowed ⊢
  omega

private theorem inked_of_query {character : Char} (allowed : Uri.isQueryCharacter character = true) :
    Text.isBlank character = false := by
  simp only [Uri.isQueryCharacter, Text.isBlank, Bool.or_eq_true, Bool.and_eq_true, beq_iff_eq,
    decide_eq_true_eq, Bool.or_eq_false_iff, Bool.and_eq_false_iff, beq_eq_false_iff_ne,
    decide_eq_false_iff_not] at allowed ⊢
  omega

theorem fit_iff : Fit characters ↔
    (∀ character ∈ (unfragmented characters).takeWhile (· != '?'),
      Uri.isPathCharacter character = true) ∧
    ∀ character ∈ ((unfragmented characters).dropWhile (· != '?')).tail,
      Uri.isQueryCharacter character = true := by
  unfold Fit Uri.pathAndQuery? unfragmented
  dsimp only
  cases (characters.takeWhile (· != '#')).dropWhile (· != '?') with
  | nil => simp
  | cons mark rest => simp

theorem inked_of_fit (fit : Fit characters) :
    ∀ character ∈ unfragmented characters, Text.isBlank character = false := by
  intro character present
  obtain ⟨path, query⟩ := fit_iff.mp fit
  rw [← List.takeWhile_append_dropWhile (p := (· != '?')) (l := unfragmented characters)] at present
  rcases List.mem_append.mp present with ahead | behind
  · exact inked_of_path (path character ahead)
  · cases tail : (unfragmented characters).dropWhile (· != '?') with
    | nil =>
        rw [tail] at behind
        cases behind
    | cons mark rest =>
        rw [tail] at behind query
        rcases List.mem_cons.mp behind with rfl | behind
        · have isMark := head_eq_of_dropWhile_mark tail
          subst isMark
          decide
        · exact inked_of_query (query character behind)

theorem ofName_spelled (spells : Spells name service method) : ofName name =
    if Fit (pathOf service method) then .ok (unfragmented (pathOf service method))
    else .error .invalidCharacter := by
  have joined : '/' :: service ++ '/' :: method = pathOf service method := rfl
  unfold ofName checked?
  rw [parts_eq_some_iff.mpr spells]
  dsimp only
  rw [joined]
  by_cases fit : Fit (pathOf service method)
  · obtain ⟨parts, read⟩ := Option.isSome_iff_exists.mp fit
    rw [if_pos fit, read]
    rfl
  · rw [if_neg fit, Option.not_isSome_iff_eq_none.mp fit]
    rfl

theorem ofName_malformed (unspelled : ∀ service method, ¬ Spells name service method) :
    ofName name = .error .malformed := by
  unfold ofName
  cases taken : parts? name with
  | none => rfl
  | some parts => exact absurd (parts_eq_some_iff.mp taken) (unspelled _ _)

theorem ofName_eq_ok_iff : ofName name = .ok path ↔
    ∃ service method, Spells name service method ∧ Fit (pathOf service method) ∧
      path = unfragmented (pathOf service method) := by
  constructor
  · intro formed
    by_cases spelled : ∃ service method, Spells name service method
    · obtain ⟨service, method, spells⟩ := spelled
      rw [ofName_spelled spells] at formed
      split at formed
      · rename_i fit
        cases formed
        exact ⟨service, method, spells, fit, rfl⟩
      · cases formed
    · rw [ofName_malformed fun service method spells => spelled ⟨service, method, spells⟩] at formed
      cases formed
  · rintro ⟨service, method, spells, fit, rfl⟩
    rw [ofName_spelled spells, if_pos fit]

theorem fragment_mem_bare : '#' ∈ bare name ↔ '#' ∈ name.toList := by
  unfold bare
  rw [Text.mem_dropWhile_of_not (by decide), Text.mem_trimBlanks (by decide)]

theorem unfragmented_eq_iff (spells : Spells name service method) :
    unfragmented (pathOf service method) = pathOf service method ↔ '#' ∉ name.toList := by
  have inside : '#' ∈ pathOf service method ↔ '#' ∈ name.toList := by
    rw [← fragment_mem_bare, spells.whole]
    unfold pathOf
    simp
  rw [← inside]
  constructor
  · intro whole
    rw [← whole]
    exact fragment_not_mem
  · exact unfragmented_plain

theorem unfragmented_pathOf (plain : '#' ∉ service) :
    unfragmented (pathOf service method) = pathOf service (unfragmented method) := by
  have kept : ∀ character ∈ '/' :: service ++ ['/'], (character != '#') = true := by
    intro character present
    refine bne_iff_ne.mpr (ne_of_mem_of_not_mem present ?_)
    simp [plain]
  have joined : ∀ rest, pathOf service rest = ('/' :: service ++ ['/']) ++ rest := by
    intro rest
    simp [pathOf]
  unfold unfragmented
  rw [joined, joined, List.takeWhile_append_of_pos kept]

theorem unfragmented_pathOf_marked (marked : '#' ∈ service) :
    unfragmented (pathOf service method) = '/' :: unfragmented service := by
  obtain ⟨before, after, split, first⟩ := List.eq_append_cons_of_mem marked
  subst split
  have ahead : '#' ∉ '/' :: before := by simpa using first
  have whole : pathOf (before ++ '#' :: after) method =
      ('/' :: before) ++ '#' :: (after ++ '/' :: method) := by simp [pathOf]
  unfold unfragmented
  rw [whole, takeWhile_mark ahead, takeWhile_mark first]

theorem bare_slash (inked : ∀ character ∈ '/' :: characters, Text.isBlank character = false) :
    bare (String.ofList ('/' :: characters)) = characters.dropWhile (· == '/') := by
  unfold bare
  rw [String.toList_ofList, Text.trimBlanks_plain inked]
  exact List.dropWhile_cons_of_pos (by decide)

theorem bare_pathOf (inked : ∀ character ∈ pathOf service method, Text.isBlank character = false)
    (nonempty : service ≠ []) (plain : '/' ∉ service) :
    bare (String.ofList (pathOf service method)) = service ++ '/' :: method := by
  have stripped : bare (String.ofList (pathOf service method)) =
      (service ++ '/' :: method).dropWhile (· == '/') := bare_slash inked
  rw [stripped]
  cases service with
  | nil => exact absurd rfl nonempty
  | cons first rest =>
      have differs : first ≠ '/' := fun same => plain (same ▸ List.mem_cons_self)
      exact List.dropWhile_cons_of_neg (by simpa using differs)

/-- A path that was cut within its service has no method to it, and one that was cut right behind the slash
has an empty one. -/
theorem ofName_cut (spells : Spells name service method) (fit : Fit (pathOf service method))
    (cut : '#' ∈ service ∨ method.head? = some '#') :
    ofName (String.ofList (unfragmented (pathOf service method))) = .error .malformed := by
  have inked := inked_of_fit fit
  apply ofName_malformed
  intro otherService otherMethod others
  by_cases marked : '#' ∈ service
  · rw [unfragmented_pathOf_marked marked] at inked others
    have whole := (bare_slash inked).symm.trans others.whole
    have slash : '/' ∈ (unfragmented service).dropWhile (· == '/') := by
      rw [whole]
      exact List.mem_append_right _ List.mem_cons_self
    have within := (List.dropWhile_suffix _).mem slash
    exact spells.service_plain ((List.takeWhile_prefix _).mem within)
  · have first : method.head? = some '#' := cut.resolve_left marked
    rw [unfragmented_pathOf marked] at inked others
    have whole := bare_pathOf inked spells.service_ne_nil spells.service_plain
    obtain ⟨_, same⟩ := split_unique spells.service_plain others.service_plain
      (whole.symm.trans others.whole)
    exact others.method_ne_nil (same.symm.trans (unfragmented_eq_nil_iff.mpr (Or.inr first)))

theorem ofName_again (spells : Spells name service method) (fit : Fit (pathOf service method))
    (plain : '#' ∉ service) (first : method.head? ≠ some '#') :
    ofName (String.ofList (unfragmented (pathOf service method))) =
      .ok (unfragmented (pathOf service method)) := by
  have inked := inked_of_fit fit
  have stillFit := fit_unfragmented.mpr fit
  have uncut : unfragmented (unfragmented (pathOf service method)) =
      unfragmented (pathOf service method) := unfragmented_plain fragment_not_mem
  rw [unfragmented_pathOf plain] at inked stillFit uncut ⊢
  have again : Spells (String.ofList (pathOf service (unfragmented method))) service
      (unfragmented method) :=
    { whole := bare_pathOf inked spells.service_ne_nil spells.service_plain
      service_ne_nil := spells.service_ne_nil
      method_ne_nil := fun nothing =>
        (unfragmented_eq_nil_iff.mp nothing).elim spells.method_ne_nil first
      service_plain := spells.service_plain
      method_plain := fun slash => spells.method_plain ((List.takeWhile_prefix _).mem slash) }
  rw [ofName_spelled again, if_pos stillFit, uncut]

theorem ofName_again_iff (spells : Spells name service method) (fit : Fit (pathOf service method)) :
    ofName (String.ofList (unfragmented (pathOf service method))) =
        .ok (unfragmented (pathOf service method)) ↔
      '#' ∉ service ∧ method.head? ≠ some '#' := by
  constructor
  · intro again
    constructor
    · intro marked
      cases (ofName_cut spells fit (Or.inl marked)).symm.trans again
    · intro first
      cases (ofName_cut spells fit (Or.inr first)).symm.trans again
  · rintro ⟨plain, first⟩
    exact ofName_again spells fit plain first

/-- A name gives a path if it spells a service and a method in characters that a path may have; any other is
rejected. The path is that of the service and the method as far as the first `#` in it: it is all of it for
exactly the names without one, and can be used as a name again, to the same effect, as long as the service
and something of the method is left. -/
theorem ofName_exact (stage : StageDescriptor) :
    (∀ service method, Spells stage.method.name service method → ofName stage.method.name =
      if Fit (pathOf service method) then .ok (unfragmented (pathOf service method))
      else .error .invalidCharacter) ∧
    (∀ path, ofName stage.method.name = .ok path →
      ∃ service method, Spells stage.method.name service method ∧
        (path = pathOf service method ↔ '#' ∉ stage.method.name.toList) ∧
        (ofName (String.ofList path) = .ok path ↔ '#' ∉ service ∧ method.head? ≠ some '#')) ∧
    ((∀ service method, ¬ Spells stage.method.name service method) →
      ofName stage.method.name = .error .malformed ∧
      ((Uri.parse? stage.endpoint).isSome = true → Connector.network stage =
        .error (.invalidMethodPath stage.name stage.method.name .malformed))) := by
  refine ⟨fun service method => ofName_spelled, ?_, ?_⟩
  · intro path formed
    obtain ⟨service, method, spells, fit, rfl⟩ := ofName_eq_ok_iff.mp formed
    exact ⟨service, method, spells, unfragmented_eq_iff spells, ofName_again_iff spells fit⟩
  · intro unspelled
    have malformed := ofName_malformed unspelled
    refine ⟨malformed, fun known => ?_⟩
    obtain ⟨endpoint, read⟩ := Option.isSome_iff_exists.mp known
    unfold Connector.network
    rw [read, malformed]

namespace Detector

def stage (name : String) : StageDescriptor :=
  { name := "detector", host := "localhost", port := 50051
    method :=
      { name := name, shape := .unary
        input := { name := "", records := [] }, output := { name := "", records := [] } }
    mode := .continuous }

end Detector

/-- A name that is trimmed and called by its path, and one that lacks a service. -/
theorem ofName_exact_detector :
    (ofName " /vision.Detector/Detect" = .ok (pathOf "vision.Detector".toList "Detect".toList) ∧
      ofName "/vision.Detector/Detect" = .ok (pathOf "vision.Detector".toList "Detect".toList)) ∧
    Connector.network (Detector.stage "Detect") =
      .error (.invalidMethodPath "detector" "Detect" .malformed) := by
  have spells : Spells " /vision.Detector/Detect" "vision.Detector".toList "Detect".toList :=
    parts_eq_some_iff.mp (by decide)
  have formed : ofName " /vision.Detector/Detect" =
      .ok (pathOf "vision.Detector".toList "Detect".toList) := by
    obtain ⟨outcome, _, _⟩ := ofName_exact (Detector.stage " /vision.Detector/Detect")
    exact outcome _ _ spells
  refine ⟨⟨formed, ?_⟩, ?_⟩
  · obtain ⟨_, told, _⟩ := ofName_exact (Detector.stage " /vision.Detector/Detect")
    obtain ⟨service, method, others, _, again⟩ := told _ formed
    obtain ⟨sameService, sameMethod⟩ := spells.unique others
    subst sameService
    subst sameMethod
    exact again.mpr (by decide)
  · obtain ⟨_, _, rejected⟩ := ofName_exact (Detector.stage "Detect")
    refine (rejected fun service method spelled => ?_).2 (by decide)
    cases parts_eq_some_iff.mpr spelled

/-- The name spells a service and a method, but what is called is neither: the path ends ahead of the `#`, and
cannot be used as a name again. -/
theorem ofName_drops_fragment :
    Spells "test.Service#v2/Detect" "test.Service#v2".toList "Detect".toList ∧
    ofName "test.Service#v2/Detect" = .ok "/test.Service".toList ∧
    ofName "/test.Service" = .error .malformed :=
  ⟨parts_eq_some_iff.mp (by decide), by decide, by decide⟩

end MethodPath

end Sluice
