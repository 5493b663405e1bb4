import Sluice.Proofs.Lifecycle.History
import Sluice.Proofs.Link.Load

set_option autoImplicit false

/-! Waits for the end of a pause, step by step. The changes of a phase are counted; a request first makes its
change and announces it afterwards, and a wait reads the phase, enlists for the next announcement, compares
the count with the one it read, and parks only if they agree. Requests and waits may come in between each
other at any of these points, and still no wait sleeps on a stage that is not paused. -/

namespace Sluice

/-- Where a wait for the end of a pause stands, with the count of changes that it last read, and whether it
was told of a change since it enlisted. -/
inductive Lookout where
  | looking
  | enlisting (seen : Nat)
  | comparing (seen : Nat) (told : Bool)
  | parked (seen : Nat) (told : Bool)
  | left (phase : Phase)
deriving DecidableEq

namespace Lookout

def step (life : Lifecycle) (changes : Nat) : Lookout → Option Lookout
  | .looking =>
      match life.waitWhilePaused with
      | some phase => some (.left phase)
      | none => some (.enlisting changes)
  | .enlisting seen => some (.comparing seen false)
  | .comparing seen told => if seen = changes then some (.parked seen told) else some .looking
  | .parked seen told => if told then some (.enlisting seen) else none
  | .left _ => none

/-- An announcement reaches every wait that has enlisted. -/
def tell : Lookout → Lookout
  | .comparing seen _ => .comparing seen true
  | .parked seen _ => .parked seen true
  | other => other

def Pending (lookout : Lookout) : Prop :=
  ∀ phase, lookout ≠ .left phase

/-- The phase was paused at the count that the wait read. -/
def Saw (phase : Phase) (changes seen : Nat) : Prop :=
  seen ≤ changes ∧ (seen = changes → phase = .paused)

/-- A wait never ends with a pause, and a parked one that has missed a change is told or about to be. -/
def Apprised (phase : Phase) (changes due : Nat) : Lookout → Prop
  | .looking => True
  | .enlisting seen | .comparing seen _ => Saw phase changes seen
  | .parked seen told => Saw phase changes seen ∧ (seen ≠ changes → told = true ∨ 0 < due)
  | .left ended => ended ≠ .paused

/-- The steps that are left to a wait if nothing changes any more. -/
def effort (changes : Nat) : Lookout → Nat
  | .looking => 3
  | .enlisting seen => if seen = changes then 2 else 5
  | .comparing seen told => if seen = changes then (if told then 4 else 1) else 4
  | .parked seen told => if told then (if seen = changes then 3 else 6) else 0
  | .left _ => 0

variable {life : Lifecycle} {phase : Phase} {changes due seen : Nat} {lookout moved : Lookout}

theorem Saw.change (saw : Saw phase changes seen) (other : Phase) : Saw other (changes + 1) seen := by
  obtain ⟨within, _⟩ := saw
  exact ⟨by omega, by omega⟩

theorem Apprised.change (apprised : lookout.Apprised phase changes due) (other : Phase) :
    lookout.Apprised other (changes + 1) (due + 1) := by
  cases lookout with
  | looking => trivial
  | enlisting seen | comparing seen told => exact Saw.change apprised other
  | parked seen told => exact ⟨Saw.change apprised.1 other, fun _ => Or.inr (Nat.succ_pos due)⟩
  | left ended => exact apprised

theorem Apprised.tell (apprised : lookout.Apprised phase changes (due + 1)) :
    lookout.tell.Apprised phase changes due := by
  cases lookout with
  | looking => trivial
  | enlisting seen | comparing seen told | left ended => exact apprised
  | parked seen told => exact ⟨apprised.1, fun _ => Or.inl rfl⟩

theorem waitWhilePaused_some :
    life.waitWhilePaused = some phase ↔ life.phase ≠ .paused ∧ life.phase = phase := by
  unfold Lifecycle.waitWhilePaused
  by_cases paused : life.phase = .paused
  · rw [if_pos paused]
    exact iff_of_false nofun fun settled => settled.1 paused
  · rw [if_neg paused, Option.some.injEq]
    exact (and_iff_right paused).symm

theorem waitWhilePaused_none : life.waitWhilePaused = none ↔ life.phase = .paused := by
  unfold Lifecycle.waitWhilePaused
  by_cases paused : life.phase = .paused
  · rw [if_pos paused]
    exact iff_of_true rfl paused
  · rw [if_neg paused]
    exact iff_of_false nofun paused

inductive Moved (life : Lifecycle) (changes : Nat) : Lookout → Lookout → Prop
  | released (settled : life.phase ≠ .paused) : Moved life changes .looking (.left life.phase)
  | saw (paused : life.phase = .paused) : Moved life changes .looking (.enlisting changes)
  | enlisted {seen : Nat} : Moved life changes (.enlisting seen) (.comparing seen false)
  | parked {told : Bool} : Moved life changes (.comparing changes told) (.parked changes told)
  | outdated {seen : Nat} {told : Bool} (missed : seen ≠ changes) :
      Moved life changes (.comparing seen told) .looking
  | woken {seen : Nat} : Moved life changes (.parked seen true) (.enlisting seen)

theorem step_moved (stepped : lookout.step life changes = some moved) :
    Moved life changes lookout moved := by
  cases lookout with
  | looking =>
      simp only [step] at stepped
      cases waits : life.waitWhilePaused with
      | some phase =>
          rw [waits] at stepped
          obtain ⟨settled, same⟩ := waitWhilePaused_some.mp waits
          cases stepped
          exact same ▸ .released settled
      | none =>
          rw [waits] at stepped
          cases stepped
          exact .saw (waitWhilePaused_none.mp waits)
  | enlisting seen =>
      cases stepped
      exact .enlisted
  | comparing seen told =>
      simp only [step] at stepped
      split at stepped
      · rename_i same
        cases stepped
        exact same ▸ .parked
      · rename_i missed
        cases stepped
        exact .outdated missed
  | parked seen told =>
      cases told with
      | true =>
          cases stepped
          exact .woken
      | false => cases stepped
  | left phase => cases stepped

theorem step_blocked (blocked : lookout.step life changes = none) (pending : lookout.Pending) :
    ∃ seen, lookout = .parked seen false := by
  cases lookout with
  | looking =>
      simp only [step] at blocked
      split at blocked <;> cases blocked
  | enlisting seen => cases blocked
  | comparing seen told =>
      simp only [step] at blocked
      split at blocked <;> cases blocked
  | parked seen told =>
      cases told with
      | true => cases blocked
      | false => exact ⟨seen, rfl⟩
  | left phase => exact absurd rfl (pending phase)

theorem Moved.apprised (step : Moved life changes lookout moved)
    (apprised : lookout.Apprised life.phase changes due) : moved.Apprised life.phase changes due := by
  cases step with
  | released settled => exact settled
  | saw paused => exact ⟨Nat.le_refl _, fun _ => paused⟩
  | enlisted => exact apprised
  | parked => exact ⟨apprised, fun missed => absurd rfl missed⟩
  | outdated => trivial
  | woken => exact apprised.1

theorem Moved.effort (step : Moved life changes lookout moved) :
    moved.effort changes + 1 ≤ lookout.effort changes := by
  cases step with
  | released | saw | outdated => simp [Lookout.effort, *]
  | enlisted | woken =>
      simp only [Lookout.effort]
      split <;> decide
  | @parked told => cases told <;> simp [Lookout.effort]

theorem effort_tell : lookout.tell.effort changes ≤ lookout.effort changes + 6 := by
  cases lookout with
  | looking | enlisting | left => exact Nat.le_add_right _ 6
  | comparing seen told | parked seen told =>
      simp only [tell, effort]
      cases told <;> by_cases fresh : seen = changes <;> simp [fresh]

end Lookout

/-- A lifecycle with the number of its changes, the announcements that are due, and the waits that were ever
started. -/
structure WatchedLife where
  life : Lifecycle
  changes : Nat
  due : Nat
  waits : List Lookout

/-- What can happen next: a request, the announcement of a change, the start of a wait or a step of one. -/
inductive WatchAction where
  | ask (asked : LifecycleRequest)
  | announce
  | begin
  | step (wait : Nat)
deriving DecidableEq

namespace WatchAction

def asked? : WatchAction → Option LifecycleRequest
  | .ask asked => some asked
  | .announce | .begin | .step _ => none

def Onward : WatchAction → Prop
  | .announce | .step _ => True
  | .ask _ | .begin => False

end WatchAction

namespace WatchedLife

def start (stage : String) : WatchedLife :=
  { life := .fresh stage, changes := 0, due := 0, waits := [] }

def act (watched : WatchedLife) : WatchAction → Option WatchedLife
  | .ask asked =>
      let life := (watched.life.request asked).1
      if life.phase = watched.life.phase then some { watched with life := life }
      else some { watched with life := life, changes := watched.changes + 1, due := watched.due + 1 }
  | .announce =>
      match watched.due with
      | 0 => none
      | due + 1 => some { watched with due := due, waits := watched.waits.map Lookout.tell }
  | .begin => some { watched with waits := watched.waits ++ [.looking] }
  | .step wait =>
      match watched.waits[wait]? with
      | none => none
      | some lookout =>
          (lookout.step watched.life watched.changes).map fun moved =>
            { watched with waits := watched.waits.set wait moved }

def run : List WatchAction → WatchedLife → Option WatchedLife
  | [], watched => some watched
  | action :: rest, watched => (watched.act action).bind (run rest)

def requested (actions : List WatchAction) : List LifecycleRequest :=
  actions.filterMap WatchAction.asked?

/-- Nothing is left to do but for somebody to ask for something or to start a wait. -/
def AtRest (watched : WatchedLife) : Prop :=
  ∀ action : WatchAction, action.Onward → watched.act action = none

def Apprised (watched : WatchedLife) : Prop :=
  ∀ lookout ∈ watched.waits, lookout.Apprised watched.life.phase watched.changes watched.due

def effort (watched : WatchedLife) : Nat :=
  watched.due * (6 * watched.waits.length + 1) +
    (watched.waits.map fun lookout => lookout.effort watched.changes).sum

variable {watched next later : WatchedLife} {action : WatchAction} {actions : List WatchAction}

theorem act_life (acted : watched.act action = some next) :
    next.life = action.asked?.elim watched.life fun asked => (watched.life.request asked).1 := by
  cases action with
  | ask asked =>
      simp only [act] at acted
      split at acted <;>
        · cases acted
          rfl
  | announce =>
      simp only [act] at acted
      split at acted
      · cases acted
      · cases acted
        rfl
  | begin =>
      cases acted
      rfl
  | step wait =>
      simp only [act] at acted
      split at acted
      · cases acted
      · obtain ⟨moved, _, same⟩ := Option.map_eq_some_iff.mp acted
        subst same
        rfl

theorem run_life (ran : run actions watched = some later) :
    later.life = (requested actions).foldl (fun life asked => (life.request asked).1) watched.life := by
  induction actions generalizing watched with
  | nil =>
      cases ran
      rfl
  | cons action rest ih =>
      obtain ⟨next, acted, remaining⟩ := Option.bind_eq_some_iff.mp ran
      rw [ih remaining, act_life acted]
      cases action <;> rfl

theorem Apprised.act (apprised : watched.Apprised) (acted : watched.act action = some next) :
    next.Apprised := by
  cases action with
  | ask asked =>
      simp only [WatchedLife.act] at acted
      split at acted
      · rename_i same
        cases acted
        intro lookout listed
        have before := apprised lookout listed
        rw [← same] at before
        exact before
      · cases acted
        intro lookout listed
        exact (apprised lookout listed).change _
  | announce =>
      simp only [WatchedLife.act] at acted
      split at acted
      · cases acted
      · rename_i due is
        cases acted
        intro told listed
        obtain ⟨lookout, before, same⟩ := List.mem_map.mp listed
        subst same
        have knows := apprised lookout before
        rw [is] at knows
        exact knows.tell
  | begin =>
      cases acted
      intro lookout listed
      rcases List.mem_append.mp listed with before | new
      · exact apprised lookout before
      · cases List.mem_singleton.mp new
        trivial
  | step wait =>
      simp only [WatchedLife.act] at acted
      split at acted
      · cases acted
      · rename_i lookout found
        obtain ⟨moved, stepped, same⟩ := Option.map_eq_some_iff.mp acted
        subst same
        intro other listed
        rcases List.mem_or_eq_of_mem_set listed with before | new
        · exact apprised other before
        · subst new
          exact (Lookout.step_moved stepped).apprised (apprised lookout (List.mem_of_getElem? found))

theorem Apprised.run (apprised : watched.Apprised) (ran : run actions watched = some later) :
    later.Apprised := by
  induction actions generalizing watched with
  | nil =>
      cases ran
      exact apprised
  | cons action rest ih =>
      obtain ⟨next, acted, remaining⟩ := Option.bind_eq_some_iff.mp ran
      exact ih (apprised.act acted) remaining

theorem Apprised.rested (apprised : watched.Apprised) (rests : watched.AtRest) {lookout : Lookout}
    (listed : lookout ∈ watched.waits) (pending : lookout.Pending) : watched.life.phase = .paused := by
  have announced : watched.due = 0 := by
    have blocked := rests .announce trivial
    simp only [WatchedLife.act] at blocked
    split at blocked
    · assumption
    · cases blocked
  obtain ⟨wait, found⟩ := List.mem_iff_getElem?.mp listed
  have blocked := rests (.step wait) trivial
  simp only [WatchedLife.act, found, Option.map_eq_none_iff] at blocked
  obtain ⟨seen, parked⟩ := Lookout.step_blocked blocked pending
  have knows := apprised lookout listed
  rw [parked, announced] at knows
  obtain ⟨⟨_, saw⟩, told⟩ := knows
  apply saw
  by_contra missed
  rcases told missed with impossible | impossible
  · cases impossible
  · cases impossible

private theorem sum_tell (changes : Nat) (waits : List Lookout) :
    ((waits.map Lookout.tell).map fun lookout => lookout.effort changes).sum ≤
      (waits.map fun lookout => lookout.effort changes).sum + 6 * waits.length := by
  induction waits with
  | nil => exact Nat.zero_le _
  | cons lookout rest ih =>
      have here := @Lookout.effort_tell changes lookout
      simp only [List.map_cons, List.sum_cons, List.length_cons]
      omega

theorem effort_onward (onward : action.Onward) (acted : watched.act action = some next) :
    next.effort + 1 ≤ watched.effort := by
  cases action with
  | ask | begin => cases onward
  | announce =>
      simp only [act] at acted
      split at acted
      · cases acted
      · rename_i due is
        cases acted
        have told := sum_tell watched.changes watched.waits
        change due * (6 * (watched.waits.map Lookout.tell).length + 1) +
          ((watched.waits.map Lookout.tell).map fun lookout => lookout.effort watched.changes).sum + 1 ≤ _
        unfold effort
        rw [is, List.length_map, Nat.succ_mul due]
        omega
  | step wait =>
      simp only [act] at acted
      split at acted
      · cases acted
      · rename_i lookout found
        obtain ⟨moved, stepped, same⟩ := Option.map_eq_some_iff.mp acted
        subst same
        have spends := (Lookout.step_moved stepped).effort
        have balance := @sum_map_set _ (fun lookout => lookout.effort watched.changes) _ _ _ moved found
        change watched.due * (6 * (watched.waits.set wait moved).length + 1) +
          ((watched.waits.set wait moved).map fun lookout => lookout.effort watched.changes).sum + 1 ≤ _
        unfold effort
        rw [List.length_set]
        omega

theorem run_onward (onward : ∀ action ∈ actions, action.Onward)
    (ran : run actions watched = some later) : later.effort + actions.length ≤ watched.effort := by
  induction actions generalizing watched with
  | nil =>
      cases ran
      exact Nat.le_refl _
  | cons action rest ih =>
      obtain ⟨next, acted, remaining⟩ := Option.bind_eq_some_iff.mp ran
      have first := effort_onward (onward action List.mem_cons_self) acted
      have further := ih (fun other listed => onward other (List.mem_cons_of_mem _ listed)) remaining
      rw [List.length_cons]
      omega

theorem run_unpaused {phase : Phase} (settled : watched.life.waitWhilePaused = some phase) :
    run [.begin, .step watched.waits.length] watched =
      some { watched with waits := watched.waits ++ [.left phase] } := by
  simp [run, act, Lookout.step, settled]

/-- How the waits on a lifecycle fare, given the actions that led here. -/
structure Waited (stage : String) (actions : List WatchAction) (watched : WatchedLife) : Prop where
  life : watched.life = Lifecycle.after stage (requested actions)
  ended : ∀ phase, .left phase ∈ watched.waits → phase ≠ .paused
  rested : watched.AtRest → (∃ lookout ∈ watched.waits, lookout.Pending) →
    watched.life.phase = .paused
  prompt : ∀ phase, watched.life.waitWhilePaused = some phase →
    run [.begin, .step watched.waits.length] watched =
      some { watched with waits := watched.waits ++ [.left phase] }
  settles : ∀ further later, (∀ action ∈ further, action.Onward) →
    run further watched = some later → further.length ≤ watched.effort

/-- Whatever was asked of a lifecycle, and in whatever order. It has finished if it was asked to; otherwise
it is paused if the last of the pauses and resumes was a pause. An interrupt is pending until the stage
finishes or a resume lets it run again; a resume of a running stage and a pause keep it. A request made twice
in a row is as good as one. A wait for the end of a pause, begun at any point and cut into steps between
which requests are made and announced, never ends with the stage paused; and when nobody can go on, which
comes after boundedly many steps, a wait that is not over means that the stage is paused. -/
theorem life_told_by_requests (stage : String) :
    (∀ calls, Lifecycle.Recounted stage calls) ∧
    ∀ actions watched, run actions (start stage) = some watched → Waited stage actions watched := by
  refine ⟨Lifecycle.recounted_after stage, ?_⟩
  intro actions watched ran
  have fresh : (start stage).Apprised := by
    intro lookout impossible
    cases impossible
  have apprised := fresh.run ran
  refine ⟨run_life ran, ?_, ?_, fun phase => run_unpaused, ?_⟩
  · intro phase left
    exact apprised _ left
  · rintro rests ⟨lookout, listed, pending⟩
    exact apprised.rested rests listed pending
  · intro further later onward goesOn
    have bounded := run_onward onward goesOn
    omega

/-- One wait parks and is told of a resume, after which the stage is paused again; another one began with an
interrupt pending and ended at once. -/
def relapse : List WatchAction :=
  [.ask .interrupt, .begin, .step 0, .ask .pause, .begin, .step 1, .step 1, .step 1, .announce,
    .ask .resume, .announce, .ask .pause, .announce] ++ List.replicate 6 (.step 1)

theorem life_told_by_requests_relapse :
    requested relapse = [.interrupt, .pause, .resume, .pause] ∧
      (Lifecycle.after "filter" (requested relapse)).phase = .paused ∧
      (Lifecycle.after "filter" (requested relapse)).isInterrupted = false ∧
      ∃ watched, run relapse (start "filter") = some watched ∧
        watched.waits = [.left .running, .parked 3 false] ∧ watched.AtRest ∧
        watched.life.phase = .paused := by
  have requests : requested relapse = [.interrupt, .pause, .resume, .pause] := by decide
  have outcome : (run relapse (start "filter")).map (fun watched => (watched.waits, watched.due)) =
      some ([.left .running, .parked 3 false], 0) := by decide
  obtain ⟨recounted, waited⟩ := life_told_by_requests "filter"
  obtain ⟨watched, ran, seen⟩ := Option.map_eq_some_iff.mp outcome
  have waits : watched.waits = [.left .running, .parked 3 false] := congrArg Prod.fst seen
  have announced : watched.due = 0 := congrArg Prod.snd seen
  have rests : watched.AtRest := by
    intro action onward
    cases action with
    | ask | begin => cases onward
    | announce => simp only [act, announced]
    | step wait =>
        simp only [act, waits]
        match wait with
        | 0 | 1 | _ + 2 => rfl
  have paused := (waited relapse watched ran).rested rests
    ⟨.parked 3 false, by rw [waits]; exact List.mem_cons_of_mem _ (List.mem_singleton_self _), nofun⟩
  refine ⟨requests, ?_, ?_, watched, ran, waits, rests, paused⟩
  · rw [requests]
    exact ((recounted _).paused (by decide)).mpr (by decide)
  · rw [requests]
    decide

end WatchedLife
end Sluice
