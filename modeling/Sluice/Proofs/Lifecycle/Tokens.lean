import Sluice.Proofs.Lifecycle.Request

set_option autoImplicit false

/-! Tokens in the hands of waits. A lifecycle gives out its current token alone and replaces it only
after it has fired, so whoever holds a token holds the current one or one that has fired. An interrupt
and a finish therefore reach every wait, and after a finish no wait can begin that they would have to
reach. -/

namespace Sluice
namespace TokenPool

variable {pool : TokenPool} {token other : TokenId}

@[simp]
theorem fresh_fire : (pool.fire token).fresh = pool.fresh :=
  List.length_set

@[simp]
theorem fresh_issue : pool.issue.fresh = pool.fresh + 1 :=
  List.length_append

theorem isFired_fire (issued : token < pool.fresh) : (pool.fire token).isFired token = true := by
  unfold fresh at issued
  simp [isFired, fire, issued]

theorem isFired_fire_of_fired (fired : pool.isFired token = true) :
    (pool.fire other).isFired token = true := by
  by_cases same : other = token
  · subst same
    apply isFired_fire
    apply Nat.lt_of_not_le
    intro outside
    unfold isFired at fired
    rw [List.getD_eq_getElem?_getD, List.getElem?_eq_none outside] at fired
    cases fired
  · unfold isFired fire at *
    rw [List.getD_eq_getElem?_getD] at fired ⊢
    rw [List.getElem?_set_ne same]
    exact fired

@[simp]
theorem isFired_issue : pool.issue.isFired token = pool.isFired token := by
  unfold isFired issue
  rw [List.getD_eq_getElem?_getD, List.getD_eq_getElem?_getD, List.getElem?_append]
  by_cases inside : token < pool.fired.length
  · rw [if_pos inside]
  · rw [if_neg inside, List.getElem?_eq_none (Nat.le_of_not_lt inside)]
    cases token - pool.fired.length <;> rfl

end TokenPool

namespace Lifecycle

variable {life : Lifecycle} {token : TokenId} {asked : LifecycleRequest}

/-- The current token was issued, so firing it shows. -/
def Sound (life : Lifecycle) : Prop :=
  life.current < life.tokens.fresh

/-- The token is one that the next interrupt or finish fires, or it has fired. -/
def Governs (life : Lifecycle) (token : TokenId) : Prop :=
  token = life.current ∨ life.tokens.isFired token = true

/-- Finished, with no wait left that could block. -/
structure Closed (life : Lifecycle) : Prop where
  finished : life.phase = .finished
  fired : life.currentFired = true

structure Lawful (life : Lifecycle) : Prop where
  sound : life.Sound
  closes : life.phase = .finished → life.Closed

theorem sound_fresh (stage : String) : (fresh stage).Sound :=
  Nat.zero_lt_one

theorem governs_cancellation : life.Governs life.cancellation :=
  Or.inl rfl

theorem Governs.fired (governs : life.Governs token) (fired : life.currentFired = true) :
    life.tokens.isFired token = true := by
  rcases governs with current | already
  · rw [current]
    exact fired
  · exact already

theorem currentFired_fireCurrent (sound : life.Sound) : life.fireCurrent.currentFired = true :=
  TokenPool.isFired_fire sound

private theorem Governs.fireCurrent (governs : life.Governs token) :
    life.fireCurrent.Governs token :=
  governs.imp id TokenPool.isFired_fire_of_fired

private theorem sound_fireCurrent (sound : life.Sound) : life.fireCurrent.Sound :=
  Nat.lt_of_lt_of_eq sound TokenPool.fresh_fire.symm

private theorem sound_rearm (sound : life.Sound) : life.rearm.Sound := by
  unfold rearm
  split
  · change life.tokens.fresh < life.tokens.issue.fresh
    rw [TokenPool.fresh_issue]
    exact Nat.lt_succ_self _
  · exact sound

private theorem Governs.rearm (governs : life.Governs token) : life.rearm.Governs token := by
  unfold Lifecycle.rearm
  split
  · rename_i fired
    exact Or.inr (TokenPool.isFired_issue.trans (governs.fired fired))
  · exact governs

theorem Sound.request (sound : life.Sound) : (life.request asked).1.Sound := by
  cases asked with
  | pause =>
      change life.pause.1.Sound
      unfold pause
      cases life.phase <;> exact sound
  | resume =>
      change life.resume.1.Sound
      unfold resume
      cases life.phase with
      | paused => exact sound_rearm sound
      | running | finished => exact sound
  | finish =>
      change life.finish.1.Sound
      unfold finish
      cases life.phase <;> exact sound_fireCurrent sound
  | interrupt => exact sound_fireCurrent sound

theorem Governs.request (governs : life.Governs token) :
    (life.request asked).1.Governs token := by
  cases asked with
  | pause =>
      change life.pause.1.Governs token
      unfold pause
      cases life.phase <;> exact governs
  | resume =>
      change life.resume.1.Governs token
      unfold resume
      cases life.phase with
      | paused => exact governs.rearm
      | running | finished => exact governs
  | finish =>
      change life.finish.1.Governs token
      unfold finish
      cases life.phase <;> exact governs.fireCurrent
  | interrupt => exact governs.fireCurrent

theorem currentFired_finish (sound : life.Sound) : life.finish.1.currentFired = true := by
  unfold finish
  cases life.phase <;> exact currentFired_fireCurrent sound

theorem currentFired_request (sound : life.Sound) (fires : asked = .interrupt ∨ asked = .finish) :
    (life.request asked).1.currentFired = true := by
  rcases fires with interrupts | finishes
  · subst interrupts
    exact currentFired_fireCurrent sound
  · subst finishes
    exact currentFired_finish sound

theorem closed_finish (sound : life.Sound) : life.finish.1.Closed :=
  ⟨phase_finish, currentFired_finish sound⟩

theorem Closed.request (closed : life.Closed) : (life.request asked).1.Closed := by
  have finished := closed.finished
  cases asked with
  | pause =>
      change life.pause.1.Closed
      simp only [pause, finished]
      exact closed
  | resume =>
      change life.resume.1.Closed
      simp only [resume, finished]
      exact closed
  | finish =>
      change life.finish.1.Closed
      simp only [finish, finished]
      exact ⟨finished, TokenPool.isFired_fire_of_fired closed.fired⟩
  | interrupt => exact ⟨finished, TokenPool.isFired_fire_of_fired closed.fired⟩

theorem lawful_fresh (stage : String) : (fresh stage).Lawful := by
  constructor
  · exact sound_fresh stage
  · intro impossible
    cases impossible

theorem Lawful.request (lawful : life.Lawful) : (life.request asked).1.Lawful := by
  constructor
  · exact lawful.sound.request
  · intro finished
    cases asked with
    | finish => exact closed_finish lawful.sound
    | interrupt => exact (lawful.closes finished).request
    | pause =>
        change life.pause.1.phase = .finished at finished
        unfold pause at finished
        cases phase : life.phase with
        | running =>
            rw [phase] at finished
            cases finished
        | paused =>
            rw [phase] at finished
            cases phase.symm.trans finished
        | finished => exact (lawful.closes phase).request
    | resume =>
        change life.resume.1.phase = .finished at finished
        unfold resume at finished
        cases phase : life.phase with
        | running =>
            rw [phase] at finished
            cases phase.symm.trans finished
        | paused =>
            rw [phase] at finished
            cases finished
        | finished => exact (lawful.closes phase).request

variable {next : Lifecycle}

theorem Asked.lawful (asked : life.Asked next) (lawful : life.Lawful) : next.Lawful := by
  cases asked with
  | left => exact lawful
  | asked => exact lawful.request

theorem Asked.closed (asked : life.Asked next) (closed : life.Closed) : next.Closed := by
  cases asked with
  | left => exact closed
  | asked => exact closed.request

theorem Asked.governs (asked : life.Asked next) (governs : life.Governs token) :
    next.Governs token := by
  cases asked with
  | left => exact governs
  | asked => exact governs.request

end Lifecycle

/-- What can be asked of a lifecycle: a request, or the token for a wait. -/
inductive LifecycleCall where
  | request (asked : LifecycleRequest)
  | cancellation
deriving DecidableEq

/-- A lifecycle and every token that it has given out. -/
structure Custody where
  life : Lifecycle
  given : List TokenId

namespace Custody

def call (custody : Custody) : LifecycleCall → Custody
  | .request asked => { custody with life := (custody.life.request asked).1 }
  | .cancellation => { custody with given := custody.given ++ [custody.life.cancellation] }

def after (stage : String) (calls : List LifecycleCall) : Custody :=
  calls.foldl call { life := .fresh stage, given := [] }

structure Kept (custody : Custody) : Prop where
  sound : custody.life.Sound
  governed : ∀ token ∈ custody.given, custody.life.Governs token

variable {custody : Custody} {calls : List LifecycleCall}

private theorem Kept.call (kept : custody.Kept) (made : LifecycleCall) :
    (custody.call made).Kept := by
  cases made with
  | request asked =>
      constructor
      · exact kept.sound.request
      · intro token given
        exact (kept.governed token given).request
  | cancellation =>
      constructor
      · exact kept.sound
      · intro token given
        rcases List.mem_append.mp given with before | now
        · exact kept.governed token before
        · cases List.mem_singleton.mp now
          exact Lifecycle.governs_cancellation

private theorem Kept.run (kept : custody.Kept) : (calls.foldl Custody.call custody).Kept := by
  induction calls generalizing custody with
  | nil => exact kept
  | cons made rest ih => exact ih (kept.call made)

private theorem kept_after (stage : String) : (after stage calls).Kept := by
  apply Kept.run
  constructor
  · exact Lifecycle.sound_fresh stage
  · intro token impossible
    cases impossible

private theorem closed_run (closed : custody.life.Closed) :
    (calls.foldl Custody.call custody).life.Closed := by
  induction calls generalizing custody with
  | nil => exact closed
  | cons made rest ih =>
      apply ih
      cases made with
      | request asked => exact closed.request
      | cancellation => exact closed

private theorem closed_after (stage : String) (asked : .request .finish ∈ calls) :
    (after stage calls).life.Closed := by
  obtain ⟨before, later, same⟩ := List.append_of_mem asked
  subst same
  have sound : (after stage before).life.Sound := (kept_after stage).sound
  unfold after
  rw [List.foldl_append, List.foldl_cons]
  apply closed_run
  exact Lifecycle.closed_finish sound

private theorem finished_run (finished : (calls.foldl Custody.call custody).life.phase = .finished) :
    custody.life.phase = .finished ∨ .request .finish ∈ calls := by
  induction calls generalizing custody with
  | nil => exact Or.inl finished
  | cons made rest ih =>
      rcases ih finished with before | later
      · by_cases already : custody.life.phase = .finished
        · exact Or.inl already
        · right
          cases made with
          | cancellation => exact absurd before already
          | request asked =>
              rw [Lifecycle.finish_of_request already before]
              exact List.mem_cons_self
      · exact Or.inr (List.mem_cons_of_mem _ later)

theorem finish_called {stage : String} (finished : (after stage calls).life.phase = .finished) :
    .request .finish ∈ calls := by
  rcases finished_run finished with fresh | called
  · cases fresh
  · exact called

/-- Whatever is asked of a lifecycle, in whatever order: every token that it gave out is the current one
or has fired, an interrupt and a finish leave none that has not, and once it was asked to finish it stays
finished and has fired all tokens, those given out since then as well. -/
theorem given_tokens_governed (stage : String) (calls : List LifecycleCall) :
    (∀ token ∈ (after stage calls).given, (after stage calls).life.Governs token) ∧
    (∀ asked, asked = .interrupt ∨ asked = .finish → ∀ token ∈ (after stage calls).given,
      ((after stage calls).life.request asked).1.tokens.isFired token = true) ∧
    (.request .finish ∈ calls →
      (after stage calls).life.phase = .finished ∧
      (∀ token ∈ (after stage calls).given,
        (after stage calls).life.tokens.isFired token = true) ∧
      (after stage calls).life.tokens.isFired (after stage calls).life.cancellation = true) := by
  have kept : (after stage calls).Kept := kept_after stage
  refine ⟨kept.governed, ?_, ?_⟩
  · intro asked fires token given
    have governs : ((after stage calls).life.request asked).1.Governs token :=
      (kept.governed token given).request
    exact governs.fired (Lifecycle.currentFired_request kept.sound fires)
  · intro asked
    have closed := closed_after stage asked
    refine ⟨closed.finished, ?_, closed.fired⟩
    intro token given
    exact (kept.governed token given).fired closed.fired

/-- A wait that was interrupted, one that began after the resume, and one that began after the finish. -/
def threeWaits : List LifecycleCall :=
  [.cancellation, .request .interrupt, .request .pause, .request .resume, .cancellation,
    .request .finish, .request .resume, .cancellation]

theorem given_tokens_governed_rearmed :
    (after "filter" threeWaits).given = [0, 1, 1] ∧ .request .finish ∈ threeWaits ∧
      (after "filter" threeWaits).life.phase = .finished ∧
      (after "filter" threeWaits).life.tokens.isFired 0 = true ∧
      (after "filter" threeWaits).life.tokens.isFired 1 = true := by
  have given : (after "filter" threeWaits).given = [0, 1, 1] := by decide
  have asked : .request .finish ∈ threeWaits := by decide
  obtain ⟨finished, fired, _⟩ := (given_tokens_governed "filter" threeWaits).2.2 asked
  refine ⟨given, asked, finished, fired 0 ?_, fired 1 ?_⟩
  · rw [given]
    decide
  · rw [given]
    decide

end Custody
end Sluice
