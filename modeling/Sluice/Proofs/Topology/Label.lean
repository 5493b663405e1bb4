import Mathlib.Data.List.Infix
import Sluice.Topology

set_option autoImplicit false

/-! Labels of links. A label is two names with an arrow between them, and it tells both of them as long as
neither has an arrow of its own. -/

namespace Sluice
namespace EdgeDescriptor

def arrow : List Char :=
  ['-', '>']

def Arrowless (name : String) : Prop :=
  ¬ arrow <:+: name.toList

instance (name : String) : Decidable (Arrowless name) :=
  inferInstanceAs (Decidable (¬ arrow <:+: name.toList))

variable {source target otherSource otherTarget : String} {first second : Char}
  {left right otherLeft otherRight : List Char}

theorem toList_linkLabel :
    (linkLabel source target).toList = source.toList ++ (arrow ++ target.toList) := by
  unfold linkLabel
  rw [String.toList_append, String.toList_append, List.append_assoc]
  rfl

/-- A pair of characters stands at the head of a list and once more further on: then it lies in what follows
the first one, unless the two are one and the same. -/
private theorem split_longer (differ : first ≠ second) {middle : List Char}
    (same : first :: second :: right = middle ++ first :: second :: otherRight)
    (plain : ¬ [first, second] <:+: right) : middle = [] := by
  cases middle with
  | nil => rfl
  | cons head rest =>
      cases rest with
      | nil =>
          -- the pair cannot overlap itself, since its characters differ
          obtain ⟨_, tail⟩ := List.cons_eq_cons.mp same
          obtain ⟨equal, _⟩ := List.cons_eq_cons.mp tail
          exact absurd equal.symm differ
      | cons next rest =>
          obtain ⟨_, tail⟩ := List.cons_eq_cons.mp same
          obtain ⟨_, remaining⟩ := List.cons_eq_cons.mp tail
          exact absurd ⟨rest, otherRight, by rw [remaining]; simp⟩ plain

private theorem split_shorter (differ : first ≠ second) {middle : List Char}
    (same : first :: second :: otherRight = middle ++ first :: second :: right)
    (plain : ¬ [first, second] <:+: otherLeft ++ middle) : middle = [] := by
  cases middle with
  | nil => rfl
  | cons head rest =>
      cases rest with
      | nil =>
          obtain ⟨_, tail⟩ := List.cons_eq_cons.mp same
          obtain ⟨equal, _⟩ := List.cons_eq_cons.mp tail
          exact absurd equal.symm differ
      | cons next rest =>
          obtain ⟨head, tail⟩ := List.cons_eq_cons.mp same
          obtain ⟨next, _⟩ := List.cons_eq_cons.mp tail
          subst head
          subst next
          exact absurd ⟨otherLeft, rest, by simp⟩ plain

theorem linkLabel_inj (sourcePlain : Arrowless source) (targetPlain : Arrowless target)
    (same : linkLabel otherSource otherTarget = linkLabel source target) :
    otherSource = source ∧ otherTarget = target := by
  have lists := congrArg String.toList same
  rw [toList_linkLabel, toList_linkLabel] at lists
  have differ : '-' ≠ '>' := by decide
  rcases List.append_eq_append_iff.mp lists with ⟨middle, left, right⟩ | ⟨middle, left, right⟩
  · have plain : ¬ arrow <:+: source.toList := sourcePlain
    rw [left] at plain
    have none : middle = [] := split_shorter differ right plain
    subst none
    rw [List.append_nil] at left
    exact ⟨String.toList_inj.mp left.symm, String.toList_inj.mp (List.append_cancel_left right)⟩
  · have none : middle = [] := split_longer differ right targetPlain
    subst none
    rw [List.append_nil] at left
    exact ⟨String.toList_inj.mp left, String.toList_inj.mp (List.append_cancel_left right).symm⟩

/-- Where one of the names has an arrow, the label belongs to two other names as well. -/
theorem linkLabel_ambiguous (pointed : ¬ (Arrowless source ∧ Arrowless target)) :
    ∃ otherSource otherTarget, linkLabel otherSource otherTarget = linkLabel source target ∧
      otherSource ≠ source := by
  by_cases sourcePlain : Arrowless source
  · have targetPointed : arrow <:+: target.toList :=
      Classical.not_not.mp fun plain => pointed ⟨sourcePlain, plain⟩
    obtain ⟨before, after, split⟩ := targetPointed
    refine ⟨String.ofList (source.toList ++ (arrow ++ before)), String.ofList after, ?_, ?_⟩
    · apply String.toList_inj.mp
      rw [toList_linkLabel, toList_linkLabel, ← split]
      simp
    · intro same
      have lengths := congrArg (fun name => name.toList.length) same
      simp [arrow] at lengths
  · obtain ⟨before, after, split⟩ := Classical.not_not.mp sourcePlain
    refine ⟨String.ofList before, String.ofList (after ++ (arrow ++ target.toList)), ?_, ?_⟩
    · apply String.toList_inj.mp
      rw [toList_linkLabel, toList_linkLabel, ← split]
      simp
    · intro same
      have lengths := congrArg (fun name => name.toList.length) same
      simp [← split, arrow] at lengths

end EdgeDescriptor
end Sluice
