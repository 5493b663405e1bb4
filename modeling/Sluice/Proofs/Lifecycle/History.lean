import Mathlib.Data.List.Induction
import Sluice.Proofs.Lifecycle.Tokens

set_option autoImplicit false

/-! A stage's life read off the requests that were made. Its phase depends on whether there was a finish
and on the last of the pauses and resumes; an interrupt is pending from the request until a resume lets the
paused stage run. -/

namespace Sluice
namespace Lifecycle

variable {life : Lifecycle} {asked : LifecycleRequest}

/-- Finished is final, and an interrupt leaves the phase alone. -/
def phaseOn (phase : Phase) : LifecycleRequest → Phase
  | .finish => .finished
  | .interrupt => phase
  | .pause => if phase = .finished then .finished else .paused
  | .resume => if phase = .finished then .finished else .running

theorem phase_request : (life.request asked).1.phase = phaseOn life.phase asked := by
  cases asked with
  | finish => exact phase_finish
  | interrupt => rfl
  | pause =>
      change life.pause.1.phase = _
      unfold pause
      cases phase : life.phase with
      | running => rfl
      | paused | finished => exact phase
  | resume =>
      change life.resume.1.phase = _
      unfold resume
      cases phase : life.phase with
      | paused => rfl
      | running | finished => exact phase

theorem currentFired_rearm : life.rearm.currentFired = false := by
  unfold rearm
  cases fired : life.currentFired with
  | true =>
      change life.tokens.issue.isFired life.tokens.fresh = false
      rw [TokenPool.isFired_issue]
      unfold TokenPool.isFired TokenPool.fresh
      rw [List.getD_eq_getElem?_getD, List.getElem?_eq_none (Nat.le_refl _)]
      rfl
  | false => exact fired

theorem currentFired_resume_paused (paused : life.phase = .paused) :
    life.resume.1.currentFired = false := by
  unfold resume
  rw [paused]
  exact currentFired_rearm

theorem currentFired_pause : life.pause.1.currentFired = life.currentFired := by
  unfold pause
  cases life.phase <;> rfl

theorem currentFired_resume (settled : life.phase ≠ .paused) :
    life.resume.1.currentFired = life.currentFired := by
  unfold resume
  cases phase : life.phase with
  | paused => exact absurd phase settled
  | running | finished => rfl

theorem fireCurrent_twice : life.fireCurrent.fireCurrent = life.fireCurrent := by
  unfold fireCurrent TokenPool.fire
  simp only [List.set_set]

/-- A request that is repeated at once changes nothing. -/
theorem request_repeated : ((life.request asked).1.request asked).1 = (life.request asked).1 := by
  cases asked with
  | interrupt => exact fireCurrent_twice
  | pause =>
      change life.pause.1.pause.1 = life.pause.1
      unfold pause
      cases phase : life.phase with
      | running => rfl
      | paused | finished => simp only [phase]
  | resume =>
      change life.resume.1.resume.1 = life.resume.1
      unfold resume
      cases phase : life.phase with
      | paused => rfl
      | running | finished => simp only [phase]
  | finish =>
      have again : ∀ ended : Lifecycle, ended.phase = .finished → ended.finish.1 = ended.fireCurrent := by
        intro ended finished
        simp only [finish, finished]
      have fired : life.finish.1.fireCurrent = life.finish.1 := by
        unfold finish
        cases life.phase <;>
          · simp only [fireCurrent, TokenPool.fire, List.set_set]
      exact (again _ phase_finish).trans fired

def after (stage : String) (calls : List LifecycleRequest) : Lifecycle :=
  calls.foldl (fun life asked => (life.request asked).1) (fresh stage)

variable {stage : String} {calls : List LifecycleRequest} {place : Nat}

theorem after_concat :
    after stage (calls ++ [asked]) = ((after stage calls).request asked).1 := by
  unfold after
  rw [List.foldl_append]
  rfl

theorem sound_after : (after stage calls).Sound := by
  induction calls using List.reverseRecOn with
  | nil => exact sound_fresh stage
  | append_singleton calls asked ih =>
      rw [after_concat]
      exact ih.request

def steers : LifecycleRequest → Bool
  | .pause | .resume => true
  | .finish | .interrupt => false

def lastSteer (calls : List LifecycleRequest) : Option LifecycleRequest :=
  (calls.filter steers).getLast?

theorem lastSteer_concat :
    lastSteer (calls ++ [asked]) = if steers asked then some asked else lastSteer calls := by
  unfold lastSteer
  rw [List.filter_append]
  cases steering : steers asked with
  | true =>
      rw [List.filter_cons_of_pos steering]
      exact List.getLast?_concat
  | false =>
      rw [List.filter_cons_of_neg (by rw [steering]; exact Bool.false_ne_true)]
      exact congrArg List.getLast? (List.append_nil _)

def phaseOf (calls : List LifecycleRequest) : Phase :=
  if .finish ∈ calls then .finished
  else if lastSteer calls = some .pause then .paused
  else .running

theorem phase_after : (after stage calls).phase = phaseOf calls := by
  induction calls using List.reverseRecOn with
  | nil => rfl
  | append_singleton calls asked ih =>
      rw [after_concat, phase_request, ih]
      unfold phaseOf
      rw [lastSteer_concat]
      by_cases finished : .finish ∈ calls
      · rw [if_pos finished, if_pos (List.mem_append_left _ finished)]
        cases asked <;> rfl
      · rw [if_neg finished]
        by_cases last : asked = .finish
        · subst last
          rw [if_pos (List.mem_append_right _ (List.mem_singleton_self _))]
          rfl
        · have unfinished : .finish ∉ calls ++ [asked] := by
            intro listed
            rcases List.mem_append.mp listed with before | now
            · exact finished before
            · exact last (List.mem_singleton.mp now).symm
          rw [if_neg unfinished]
          cases asked with
          | finish => exact absurd rfl last
          | pause | resume => split <;> rfl
          | interrupt => rfl

/-- The request at this place is a resume that lets the paused stage run. -/
structure Releases (stage : String) (calls : List LifecycleRequest) (place : Nat) : Prop where
  asked : calls[place]? = some .resume
  paused : (after stage (calls.take place)).phase = .paused
  runs : (after stage (calls.take (place + 1))).phase = .running

/-- The stage was interrupted, and no resume has let it run since. -/
def Interrupted (stage : String) (calls : List LifecycleRequest) : Prop :=
  ∃ place, calls[place]? = some .interrupt ∧ ∀ other, Releases stage calls other → other < place

private theorem place_of_some {found : LifecycleRequest} (listed : calls[place]? = some found) :
    place < calls.length :=
  (List.getElem?_eq_some_iff.mp listed).1

private theorem place_concat {found : LifecycleRequest}
    (listed : (calls ++ [asked])[place]? = some found) :
    (place < calls.length ∧ calls[place]? = some found) ∨ (place = calls.length ∧ found = asked) := by
  have within := place_of_some listed
  rw [List.length_append, List.length_singleton] at within
  rcases Nat.lt_or_ge place calls.length with before | last
  · rw [List.getElem?_append_left before] at listed
    exact Or.inl ⟨before, listed⟩
  · have last : place = calls.length := by omega
    subst last
    rw [List.getElem?_concat_length] at listed
    exact Or.inr ⟨rfl, (Option.some.inj listed).symm⟩

theorem releases_before (before : place < calls.length) :
    Releases stage (calls ++ [asked]) place ↔ Releases stage calls place := by
  have found : (calls ++ [asked])[place]? = calls[place]? := List.getElem?_append_left before
  have upTo : (calls ++ [asked]).take place = calls.take place :=
    List.take_append_of_le_length (Nat.le_of_lt before)
  have through : (calls ++ [asked]).take (place + 1) = calls.take (place + 1) :=
    List.take_append_of_le_length before
  constructor
  · rintro ⟨asked, paused, runs⟩
    rw [found] at asked
    rw [upTo] at paused
    rw [through] at runs
    exact ⟨asked, paused, runs⟩
  · rintro ⟨asked, paused, runs⟩
    rw [← found] at asked
    rw [← upTo] at paused
    rw [← through] at runs
    exact ⟨asked, paused, runs⟩

theorem releases_last :
    Releases stage (calls ++ [asked]) calls.length ↔
      asked = .resume ∧ (after stage calls).phase = .paused := by
  have found : (calls ++ [asked])[calls.length]? = some asked := List.getElem?_concat_length
  have upTo : (calls ++ [asked]).take calls.length = calls := List.take_left
  constructor
  · rintro ⟨resumed, paused, _⟩
    rw [upTo] at paused
    exact ⟨Option.some.inj (found.symm.trans resumed), paused⟩
  · rintro ⟨resumed, paused⟩
    subst resumed
    refine ⟨found, ?_, ?_⟩
    · rw [upTo]
      exact paused
    · have whole : (calls ++ [LifecycleRequest.resume]).take (calls.length + 1) = calls ++ [.resume] :=
        List.take_of_length_le (by simp)
      rw [whole, after_concat, phase_request, paused]
      rfl

theorem interrupted_interrupt : Interrupted stage (calls ++ [.interrupt]) := by
  refine ⟨calls.length, List.getElem?_concat_length, ?_⟩
  intro other releases
  rcases place_concat releases.asked with ⟨before, _⟩ | ⟨_, impossible⟩
  · exact before
  · cases impossible

theorem interrupted_concat (other : asked ≠ .interrupt)
    (keeps : ¬ (asked = .resume ∧ (after stage calls).phase = .paused)) :
    Interrupted stage (calls ++ [asked]) ↔ Interrupted stage calls := by
  constructor
  · rintro ⟨place, interrupt, unreleased⟩
    rcases place_concat interrupt with ⟨_, listed⟩ | ⟨_, last⟩
    · refine ⟨place, listed, fun earlier releases => unreleased earlier ?_⟩
      exact (releases_before (place_of_some releases.asked)).mpr releases
    · exact absurd last.symm other
  · rintro ⟨place, interrupt, unreleased⟩
    have before := place_of_some interrupt
    refine ⟨place, (List.getElem?_append_left before).trans interrupt, ?_⟩
    intro later releases
    rcases place_concat releases.asked with ⟨earlier, _⟩ | ⟨last, _⟩
    · exact unreleased later ((releases_before earlier).mp releases)
    · subst last
      exact absurd (releases_last.mp releases) keeps

theorem not_interrupted_resume (paused : (after stage calls).phase = .paused) :
    ¬ Interrupted stage (calls ++ [.resume]) := by
  rintro ⟨place, interrupt, unreleased⟩
  have later := unreleased calls.length (releases_last.mpr ⟨rfl, paused⟩)
  rcases place_concat interrupt with ⟨before, _⟩ | ⟨_, impossible⟩
  · exact absurd before (Nat.lt_asymm later)
  · cases impossible

theorem currentFired_after (unfinished : .finish ∉ calls) :
    (after stage calls).currentFired = true ↔ Interrupted stage calls := by
  induction calls using List.reverseRecOn with
  | nil =>
      constructor
      · intro impossible
        cases impossible
      · rintro ⟨place, impossible, _⟩
        cases impossible
  | append_singleton calls asked ih =>
      have before := ih fun listed => unfinished (List.mem_append_left _ listed)
      rw [after_concat]
      cases asked with
      | finish => exact absurd (List.mem_append_right _ (List.mem_singleton_self _)) unfinished
      | interrupt =>
          exact iff_of_true (currentFired_request sound_after (Or.inl rfl)) interrupted_interrupt
      | pause =>
          have other : LifecycleRequest.pause ≠ .interrupt := nofun
          rw [interrupted_concat other (fun resumed => by cases resumed.1), ← before]
          exact Bool.coe_iff_coe.mpr currentFired_pause
      | resume =>
          by_cases paused : (after stage calls).phase = .paused
          · have unfired : ((after stage calls).request .resume).1.currentFired = false :=
              currentFired_resume_paused paused
            rw [unfired]
            exact iff_of_false Bool.false_ne_true (not_interrupted_resume paused)
          · have other : LifecycleRequest.resume ≠ .interrupt := nofun
            rw [interrupted_concat other (fun resumed => paused resumed.2), ← before]
            exact Bool.coe_iff_coe.mpr (currentFired_resume paused)

theorem isFinished_after : (after stage calls).phase = .finished ↔ .finish ∈ calls := by
  rw [phase_after]
  unfold phaseOf
  by_cases finished : .finish ∈ calls
  · rw [if_pos finished]
    exact iff_of_true rfl finished
  · rw [if_neg finished]
    refine iff_of_false ?_ finished
    split <;> exact nofun

theorem isInterrupted_iff :
    life.isInterrupted = true ↔ life.phase ≠ .finished ∧ life.currentFired = true := by
  unfold isInterrupted isFinished
  rw [Bool.and_eq_true, Bool.not_eq_true', decide_eq_false_iff_not]

theorem isInterrupted_after :
    (after stage calls).isInterrupted = true ↔ .finish ∉ calls ∧ Interrupted stage calls := by
  rw [isInterrupted_iff, ne_eq, isFinished_after]
  exact and_congr_right currentFired_after

/-- What a lifecycle is, as its requests tell. -/
structure Recounted (stage : String) (calls : List LifecycleRequest) : Prop where
  finished : (after stage calls).phase = .finished ↔ .finish ∈ calls
  paused : .finish ∉ calls → ((after stage calls).phase = .paused ↔ lastSteer calls = some .pause)
  interrupted : (after stage calls).isInterrupted = true ↔ .finish ∉ calls ∧ Interrupted stage calls
  running_keeps : (after stage calls).phase = .running →
    (after stage (calls ++ [.resume])).isInterrupted = (after stage calls).isInterrupted
  pause_keeps : (after stage (calls ++ [.pause])).isInterrupted = (after stage calls).isInterrupted
  release_clears : (after stage calls).phase = .paused →
    (after stage (calls ++ [.resume])).isInterrupted = false
  repeated : ∀ asked, after stage (calls ++ [asked, asked]) = after stage (calls ++ [asked])

private theorem isInterrupted_congr {other : Lifecycle}
    (finished : life.phase = .finished ↔ other.phase = .finished)
    (fired : life.currentFired = other.currentFired) : life.isInterrupted = other.isInterrupted := by
  apply Bool.eq_iff_iff.mpr
  rw [isInterrupted_iff, isInterrupted_iff, ne_eq, finished, fired]

theorem recounted_after (stage : String) (calls : List LifecycleRequest) : Recounted stage calls := by
  constructor
  case finished => exact isFinished_after
  case paused =>
    intro unfinished
    rw [phase_after, phaseOf, if_neg unfinished]
    by_cases paused : lastSteer calls = some .pause
    · rw [if_pos paused]
      exact iff_of_true rfl paused
    · rw [if_neg paused]
      exact iff_of_false nofun paused
  case interrupted => exact isInterrupted_after
  case running_keeps =>
    intro running
    rw [after_concat]
    have settled : (after stage calls).phase ≠ .paused := by
      rw [running]
      exact nofun
    apply isInterrupted_congr
    · rw [phase_request, running]
      exact iff_of_false nofun nofun
    · exact currentFired_resume settled
  case pause_keeps =>
    rw [after_concat]
    apply isInterrupted_congr
    · rw [phase_request]
      cases (after stage calls).phase with
      | running | paused => exact iff_of_false nofun nofun
      | finished => exact iff_of_true rfl rfl
    · exact currentFired_pause
  case release_clears =>
    intro paused
    rw [after_concat]
    apply eq_false_of_ne_true
    intro interrupted
    have fired := (isInterrupted_iff.mp interrupted).2
    exact Bool.false_ne_true ((currentFired_resume_paused paused).symm.trans fired)
  case repeated =>
    intro asked
    have twice : calls ++ [asked, asked] = calls ++ [asked] ++ [asked] :=
      (List.append_assoc calls [asked] [asked]).symm
    rw [twice, after_concat, after_concat]
    exact request_repeated

end Lifecycle
end Sluice
