import Sluice.Monitor

set_option autoImplicit false

/-! Requests on lifecycles: what each does to the phase and to the current token, and which stage of a
system it touches. -/

namespace Sluice
namespace Lifecycle

variable {life next : Lifecycle} {asked : LifecycleRequest}

/-- Nobody asked for an interrupt: the current token fires only when the stage finishes. -/
def Calm (life : Lifecycle) : Prop :=
  life.currentFired = true → life.phase = .finished

theorem calm_fresh (stage : String) : (fresh stage).Calm := by
  intro impossible
  cases impossible

theorem Calm.uninterrupted (calm : life.Calm) : life.isInterrupted = false := by
  unfold isInterrupted
  cases fired : life.currentFired with
  | false => exact Bool.and_false _
  | true =>
      unfold isFinished
      rw [calm fired]
      rfl

theorem Calm.pause (calm : life.Calm) : life.pause.1.Calm := by
  unfold Lifecycle.pause
  cases phase : life.phase with
  | running =>
      intro fired
      have finished := calm fired
      rw [phase] at finished
      cases finished
  | paused | finished => exact calm

theorem Calm.resume (calm : life.Calm) : life.resume.1.Calm := by
  unfold Lifecycle.resume
  cases phase : life.phase with
  | paused =>
      have unfired : life.currentFired = false := by
        cases fired : life.currentFired with
        | false => rfl
        | true =>
            have finished := calm fired
            rw [phase] at finished
            cases finished
      intro fired
      have kept : life.rearm = life := by simp [rearm, unfired]
      change life.rearm.currentFired = true at fired
      rw [kept, unfired] at fired
      cases fired
  | running | finished => exact calm

theorem phase_finish : life.finish.1.phase = .finished := by
  unfold finish
  cases phase : life.phase with
  | running | paused => rfl
  | finished => exact phase

theorem calm_finish : life.finish.1.Calm :=
  fun _ => phase_finish

theorem phase_resume : life.resume.1.phase ≠ .paused := by
  unfold resume
  cases phase : life.phase with
  | paused =>
      intro impossible
      cases impossible
  | running | finished =>
      intro impossible
      rw [phase] at impossible
      cases impossible

theorem phase_pause : life.pause.1.phase ≠ .running := by
  unfold pause
  cases phase : life.phase with
  | running =>
      intro impossible
      cases impossible
  | paused | finished =>
      intro impossible
      rw [phase] at impossible
      cases impossible

theorem finish_of_request (live : life.phase ≠ .finished)
    (finished : (life.request asked).1.phase = .finished) : asked = .finish := by
  cases asked with
  | finish => rfl
  | interrupt => exact absurd finished live
  | pause =>
      change life.pause.1.phase = .finished at finished
      unfold pause at finished
      split at finished
      · cases finished
      · exact absurd finished live
      · exact absurd finished live
  | resume =>
      change life.resume.1.phase = .finished at finished
      unfold resume at finished
      split at finished
      · cases finished
      · exact absurd finished live
      · exact absurd finished live

theorem resume_of_request (paused : life.phase = .paused)
    (running : (life.request asked).1.phase = .running) : asked = .resume := by
  cases asked with
  | resume => rfl
  | interrupt => cases paused.symm.trans running
  | pause => exact absurd running phase_pause
  | finish =>
      have finished : life.finish.1.phase = .finished := phase_finish
      cases finished.symm.trans running

/-- A lifecycle after at most one request. -/
inductive Asked (life : Lifecycle) : Lifecycle → Prop
  | left : Asked life life
  | asked (request : LifecycleRequest) : Asked life (life.request request).1

theorem Asked.finishes (asked : life.Asked next) (live : life.phase ≠ .finished)
    (finished : next.phase = .finished) : next = (life.request .finish).1 := by
  cases asked with
  | left => exact absurd finished live
  | asked request => rw [finish_of_request live finished]

theorem Asked.resumes (asked : life.Asked next) (paused : life.phase = .paused)
    (running : next.phase = .running) : next = (life.request .resume).1 := by
  cases asked with
  | left => cases paused.symm.trans running
  | asked request => rw [resume_of_request paused running]

end Lifecycle

namespace Lifecycles

variable {lives : Lifecycles} {stage other : StageId} {asked : LifecycleRequest}

theorem length_request : (lives.request stage asked).1.length = lives.length := by
  unfold request
  cases lives[stage]? with
  | none => rfl
  | some life => exact List.length_set

theorem request_same :
    (lives.request stage asked).1[stage]? = lives[stage]?.map fun life => (life.request asked).1 := by
  unfold request
  cases found : lives[stage]? with
  | none => exact found
  | some life =>
      have bound := (List.getElem?_eq_some_iff.mp found).1
      exact List.getElem?_set_self bound

theorem request_other (different : stage ≠ other) :
    (lives.request stage asked).1[other]? = lives[other]? := by
  unfold request
  cases lives[stage]? with
  | none => rfl
  | some life => exact List.getElem?_set_ne different

theorem sweep_single :
    (sweep asked [stage] lives).1 =
      if lives.isLive stage then (lives.request stage asked).1 else lives := by
  unfold sweep
  split <;> rfl

theorem length_requestAll (stages : List StageId) :
    (requestAll asked stages lives).1.length = lives.length := by
  induction stages generalizing lives with
  | nil => rfl
  | cons stage rest ih =>
      change (requestAll asked rest (lives.request stage asked).1).1.length = lives.length
      rw [ih, length_request]

theorem length_sweep (stages : List StageId) :
    (sweep asked stages lives).1.length = lives.length := by
  induction stages generalizing lives with
  | nil => rfl
  | cons stage rest ih =>
      simp only [sweep]
      split
      · exact ih.trans length_request
      · exact ih

theorem requestAll_unlisted {stages : List StageId} (absent : other ∉ stages) :
    (requestAll asked stages lives).1[other]? = lives[other]? := by
  induction stages generalizing lives with
  | nil => rfl
  | cons stage rest ih =>
      have apart : stage ≠ other := fun same => absent (same ▸ List.mem_cons_self)
      have later : other ∉ rest := fun listed => absent (List.mem_cons_of_mem _ listed)
      change (requestAll asked rest (lives.request stage asked).1).1[other]? = lives[other]?
      rw [ih later, request_other apart]

theorem requestAll_listed {stages : List StageId} (unique : stages.Nodup) (listed : other ∈ stages) :
    (requestAll asked stages lives).1[other]? =
      lives[other]?.map fun life => (life.request asked).1 := by
  induction stages generalizing lives with
  | nil => cases listed
  | cons stage rest ih =>
      obtain ⟨fresh, uniqueRest⟩ := List.nodup_cons.mp unique
      change (requestAll asked rest (lives.request stage asked).1).1[other]? = _
      rcases List.mem_cons.mp listed with here | later
      · subst here
        rw [requestAll_unlisted fresh, request_same]
      · have apart : stage ≠ other := fun same => fresh (same ▸ later)
        rw [ih uniqueRest later, request_other apart]

end Lifecycles
end Sluice
