import Mathlib.Data.List.TakeWhile

set_option autoImplicit false

/-! Texts, or any other lists, taken apart at a mark: what stands ahead of the first one, or behind the last. -/

namespace Sluice.Text

variable {α : Type} [BEq α] [LawfulBEq α] {left right otherLeft otherRight characters : List α} {mark : α}

theorem takeWhile_mark (plain : mark ∉ left) :
    (left ++ mark :: right).takeWhile (· != mark) = left := by
  rw [List.takeWhile_append_of_pos]
  · simp
  · intro character present
    exact bne_iff_ne.mpr (ne_of_mem_of_not_mem present plain)

theorem dropWhile_mark (plain : mark ∉ left) :
    (left ++ mark :: right).dropWhile (· != mark) = mark :: right := by
  rw [List.dropWhile_append_of_pos]
  · simp
  · intro character present
    exact bne_iff_ne.mpr (ne_of_mem_of_not_mem present plain)

theorem takeWhile_plain (plain : mark ∉ characters) :
    characters.takeWhile (· != mark) = characters := by
  refine List.takeWhile_eq_self_iff.mpr fun character present => ?_
  exact bne_iff_ne.mpr (ne_of_mem_of_not_mem present plain)

theorem not_mem_takeWhile_mark : mark ∉ characters.takeWhile (· != mark) := by
  intro present
  exact bne_iff_ne.mp (List.mem_takeWhile_imp (p := (· != mark)) present) rfl

theorem head_eq_of_dropWhile_mark {head : α}
    (tail : characters.dropWhile (· != mark) = head :: right) : head = mark := by
  have stops := List.head_dropWhile_not (· != mark) (l := characters) (by rw [tail]; simp)
  simpa [tail] using stops

theorem split_unique (plain : mark ∉ left) (otherPlain : mark ∉ otherLeft)
    (same : left ++ mark :: right = otherLeft ++ mark :: otherRight) :
    left = otherLeft ∧ right = otherRight := by
  have lefts := congrArg (List.takeWhile (· != mark)) same
  rw [takeWhile_mark plain, takeWhile_mark otherPlain] at lefts
  subst lefts
  exact ⟨rfl, (List.cons_eq_cons.mp (List.append_cancel_left same)).2⟩

theorem behind_mark (plain : mark ∉ right) :
    ((left ++ mark :: right).reverse.takeWhile (· != mark)).reverse = right := by
  have turned : (left ++ mark :: right).reverse = right.reverse ++ mark :: left.reverse := by simp
  have backwards : mark ∉ right.reverse := fun present => plain (List.mem_reverse.mp present)
  rw [turned, takeWhile_mark backwards, List.reverse_reverse]

theorem behind_plain (plain : mark ∉ characters) :
    (characters.reverse.takeWhile (· != mark)).reverse = characters := by
  have backwards : mark ∉ characters.reverse := fun present => plain (List.mem_reverse.mp present)
  rw [takeWhile_plain backwards, List.reverse_reverse]

theorem not_mem_behind : mark ∉ (characters.reverse.takeWhile (· != mark)).reverse := by
  intro present
  exact not_mem_takeWhile_mark (List.mem_reverse.mp present)

end Sluice.Text
