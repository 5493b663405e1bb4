import Mathlib.Data.List.DropRight
import Sluice.Text.Blank

set_option autoImplicit false

/-! Blanks at the ends of a text: nothing is left of a text of blanks alone, and a text without any stays as
it is. -/

namespace Sluice.Text

variable {characters : List Char}

theorem trimBlanks_eq_nil :
    trimBlanks characters = [] ↔ ∀ character ∈ characters, isBlank character = true := by
  change (characters.dropWhile isBlank).rdropWhile isBlank = [] ↔ _
  rw [List.rdropWhile_eq_nil_iff, ← List.dropWhile_eq_nil_iff, List.dropWhile_idempotent]
  exact List.dropWhile_eq_nil_iff

theorem allBlank_iff {text : String} : allBlank text = true ↔ trimBlanks text.toList = [] := by
  unfold allBlank
  rw [List.all_eq_true, trimBlanks_eq_nil]

theorem mem_dropWhile_of_not {drops : Char → Bool} {character : Char} (kept : drops character = false) :
    character ∈ characters.dropWhile drops ↔ character ∈ characters := by
  constructor
  · intro present
    exact (List.dropWhile_suffix drops).mem present
  · intro present
    rw [← List.takeWhile_append_dropWhile (p := drops) (l := characters)] at present
    rcases List.mem_append.mp present with ahead | present
    · exact absurd (List.mem_takeWhile_imp ahead) (Bool.eq_false_iff.mp kept)
    · exact present

theorem mem_trimBlanks {character : Char} (inked : isBlank character = false) :
    character ∈ trimBlanks characters ↔ character ∈ characters := by
  unfold trimBlanks
  rw [List.mem_reverse, mem_dropWhile_of_not inked, List.mem_reverse, mem_dropWhile_of_not inked]

theorem trimBlanks_plain (plain : ∀ character ∈ characters, isBlank character = false) :
    trimBlanks characters = characters := by
  have kept : characters.dropWhile isBlank = characters := by
    rw [List.dropWhile_eq_self_iff]
    intro nonempty blank
    exact Bool.false_ne_true ((plain _ (List.getElem_mem nonempty)).symm.trans blank)
  change (characters.dropWhile isBlank).rdropWhile isBlank = characters
  rw [kept, List.rdropWhile_eq_self_iff]
  intro nonempty blank
  exact Bool.false_ne_true ((plain _ (List.getLast_mem nonempty)).symm.trans blank)

end Sluice.Text
