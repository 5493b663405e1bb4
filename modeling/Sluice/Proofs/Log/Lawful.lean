import Mathlib.Data.List.Induction

set_option autoImplicit false

/-! Logs in which each event may follow those before it. What every event has to obey at its place is read
off the whole log, wherever it is split. -/

namespace Sluice.Log

variable {Event : Type} {allows : List Event → Event → Prop} {log earlier later : List Event}
  {event : Event}

inductive Lawful (allows : List Event → Event → Prop) : List Event → Prop
  | nothing : Lawful allows []
  | more {log : List Event} {event : Event} (lawful : Lawful allows log) (next : allows log event) :
      Lawful allows (log ++ [event])

theorem Lawful.follows (lawful : Lawful allows log) (whole : log = earlier ++ event :: later) :
    allows earlier event := by
  induction lawful generalizing later with
  | nothing => cases (List.append_eq_nil_iff.mp whole.symm).2
  | @more log last lawful next ih =>
      rcases List.eq_nil_or_concat later with none | ⟨between, made, same⟩
      · subst none
        obtain ⟨sameLog, sameEvent⟩ := List.append_inj' whole rfl
        cases sameEvent
        exact sameLog ▸ next
      · subst same
        rw [List.concat_eq_append, ← List.cons_append, ← List.append_assoc] at whole
        exact ih (List.append_inj' whole rfl).1

theorem last_of (marks : Event → Bool) (log : List Event) :
    (∀ event ∈ log, marks event = false) ∨
      ∃ before event between, log = before ++ event :: between ∧ marks event = true ∧
        ∀ other ∈ between, marks other = false := by
  induction log using List.reverseRecOn with
  | nil => exact Or.inl fun _ impossible => absurd impossible List.not_mem_nil
  | append_singleton log last ih =>
      cases marked : marks last with
      | true =>
          refine Or.inr ⟨log, last, [], rfl, marked, ?_⟩
          exact fun _ impossible => absurd impossible List.not_mem_nil
      | false =>
          have apart : ∀ {others : List Event}, (∀ event ∈ others, marks event = false) →
              ∀ event ∈ others ++ [last], marks event = false := by
            intro others unmarked event member
            rcases List.mem_append.mp member with old | new
            · exact unmarked event old
            · exact List.mem_singleton.mp new ▸ marked
          rcases ih with none | ⟨before, event, between, same, marked, unmarked⟩
          · exact Or.inl (apart none)
          · refine Or.inr ⟨before, event, between ++ [last], ?_, marked, apart unmarked⟩
            rw [same, List.append_assoc, List.cons_append]

end Sluice.Log
