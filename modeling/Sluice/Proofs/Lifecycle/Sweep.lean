import Sluice.Proofs.Lifecycle.Request

set_option autoImplicit false

/-! A resume sweep taken as a whole. Every stage that it lists runs afterwards unless it has finished, no
other stage changes, and the count is that of the listed stages that had not finished. -/

namespace Sluice

theorem Lifecycle.isFinished_resume {life : Lifecycle} : life.resume.1.isFinished = life.isFinished := by
  unfold resume isFinished
  cases phase : life.phase with
  | paused => rfl
  | running | finished => rw [phase]

theorem Lifecycle.resume_settled {life : Lifecycle} (settled : life.phase ≠ .paused) :
    life.resume.1 = life := by
  unfold resume
  cases phase : life.phase with
  | paused => exact absurd phase settled
  | running | finished => rfl

namespace Lifecycles

variable {lives : Lifecycles} {stage other : StageId} {life : Lifecycle}

theorem isLive_resume : (lives.request stage .resume).1.isLive other = lives.isLive other := by
  unfold isLive
  by_cases same : stage = other
  · subst same
    rw [request_same]
    cases lives[stage]? with
    | none => rfl
    | some life => exact congrArg (!·) Lifecycle.isFinished_resume
  · rw [request_other same]

/-- What one stage's turn in a resume sweep leaves of the sweep to come. -/
theorem sweep_resume_cons (stage : StageId) (rest : List StageId) (lives : Lifecycles) :
    (sweep .resume (stage :: rest) lives).1 =
        (sweep .resume rest (sweep .resume [stage] lives).1).1 ∧
      (sweep .resume (stage :: rest) lives).2.1 =
        (sweep .resume [stage] lives).2.1 +
          (sweep .resume rest (sweep .resume [stage] lives).1).2.1 := by
  cases live : lives.isLive stage with
  | true =>
      simp only [sweep, live, if_true]
      exact ⟨trivial, Nat.add_comm _ 1⟩
  | false =>
      simp only [sweep, live, Bool.false_eq_true, if_false]
      exact ⟨trivial, (Nat.zero_add _).symm⟩

theorem isLive_sweep_single :
    (sweep .resume [stage] lives).1.isLive other = lives.isLive other := by
  rw [sweep_single]
  split
  · exact isLive_resume
  · rfl

theorem count_sweep_single :
    (sweep .resume [stage] lives).2.1 = if lives.isLive stage then 1 else 0 := by
  unfold sweep
  split <;> rfl

theorem sweep_single_other (different : stage ≠ other) :
    (sweep .resume [stage] lives).1[other]? = lives[other]? := by
  rw [sweep_single]
  split
  · exact request_other different
  · rfl

theorem sweep_single_settled (found : lives[other]? = some life) (settled : life.phase ≠ .paused) :
    (sweep .resume [stage] lives).1[other]? = some life := by
  by_cases same : stage = other
  · subst same
    rw [sweep_single]
    split
    · rw [request_same, found]
      exact congrArg some (Lifecycle.resume_settled settled)
    · exact found
  · rw [sweep_single_other same]
    exact found

theorem sweep_settled (stages : List StageId) (found : lives[other]? = some life)
    (settled : life.phase ≠ .paused) : (sweep .resume stages lives).1[other]? = some life := by
  induction stages generalizing lives with
  | nil => exact found
  | cons stage rest ih =>
      rw [(sweep_resume_cons stage rest lives).1]
      exact ih (sweep_single_settled found settled)

theorem sweep_unlisted {stages : List StageId} (absent : other ∉ stages) :
    (sweep .resume stages lives).1[other]? = lives[other]? := by
  induction stages generalizing lives with
  | nil => rfl
  | cons stage rest ih =>
      have apart : stage ≠ other := fun same => absent (same ▸ List.mem_cons_self)
      rw [(sweep_resume_cons stage rest lives).1, ih fun listed => absent (List.mem_cons_of_mem _ listed)]
      exact sweep_single_other apart

theorem sweep_running {stages : List StageId} (listed : other ∈ stages) (live : lives.isLive other) :
    ∃ after, (sweep .resume stages lives).1[other]? = some after ∧ after.phase = .running := by
  induction stages generalizing lives with
  | nil => cases listed
  | cons stage rest ih =>
      rw [(sweep_resume_cons stage rest lives).1]
      by_cases here : stage = other
      · subst here
        have swept : (sweep .resume [stage] lives).1 = (lives.request stage .resume).1 := by
          rw [sweep_single, if_pos live]
        cases found : lives[stage]? with
        | none =>
            simp only [isLive, found] at live
            cases live
        | some life =>
            have unfinished : life.isFinished = false := by simpa [isLive, found] using live
            have asked : (sweep .resume [stage] lives).1[stage]? = some life.resume.1 := by
              rw [swept, request_same, found]
              rfl
            refine ⟨_, sweep_settled rest asked Lifecycle.phase_resume, ?_⟩
            have still : life.resume.1.isFinished = false := Lifecycle.isFinished_resume.trans unfinished
            have awake := @Lifecycle.phase_resume life
            cases phase : life.resume.1.phase with
            | running => rfl
            | paused => exact absurd phase awake
            | finished => simp [Lifecycle.isFinished, phase] at still
      · have later := (List.mem_cons.mp listed).resolve_left fun same => here same.symm
        exact ih later (isLive_sweep_single.trans live)

theorem sweep_finished (stages : List StageId) (ended : lives.isLive other = false) :
    (sweep .resume stages lives).1[other]? = lives[other]? := by
  cases found : lives[other]? with
  | none =>
      have outside := List.getElem?_eq_none_iff.mp found
      exact List.getElem?_eq_none (by rw [length_sweep]; exact outside)
  | some life =>
      apply sweep_settled stages found
      intro paused
      simp [isLive, found, Lifecycle.isFinished, paused] at ended

theorem count_sweep (stages : List StageId) :
    (sweep .resume stages lives).2.1 = stages.countP lives.isLive := by
  induction stages generalizing lives with
  | nil => rfl
  | cons stage rest ih =>
      have same : (sweep .resume [stage] lives).1.isLive = lives.isLive :=
        funext fun _ => isLive_sweep_single
      rw [(sweep_resume_cons stage rest lives).2, count_sweep_single, ih, same, List.countP_cons]
      exact Nat.add_comm _ _

end Lifecycles
end Sluice
