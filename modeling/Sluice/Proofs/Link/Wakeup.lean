import Sluice.Proofs.Link.Conservation
import Sluice.Proofs.Link.Load

set_option autoImplicit false

/-! Wake-ups on a link. A producer first fills the slot and rings afterwards, so that others may come in
between; the consumer looks at the slot, turns to the bell and parks there in steps of its own, and its wait
may be given up at any point. As long as something lies in the slot, whoever waits at the bell has a ring to
hear or is about to get one. -/

namespace Sluice

namespace Link

/-- The first half of a put. -/
def fill (link : Link) (packet : Packet) : Link :=
  { link with slot := some packet }

/-- The second half of a put. -/
def ring (link : Link) : Link :=
  { link with bell := link.bell.ring }

inductive Attended (accept : Packet → Bool) (fired : Bool) (link : Link) : Posture → WaitStep → Prop
  | took {packet : Packet} (slot : link.slot = some packet) (approved : accept packet = true) :
      Attended accept fired link .looking
        { link := { link with slot := none }, outcome := .taken packet, notices := [] }
  | refused {packet : Packet} (slot : link.slot = some packet) (rejected : accept packet = false) :
      Attended accept fired link .looking
        { link := { link with slot := none }, outcome := .waiting .looking
          notices := [link.discarding packet] }
  | turned (slot : link.slot = none) :
      Attended accept fired link .looking
        { link := link, outcome := .waiting .turning, notices := [] }
  | spent (permitted : link.bell.permit = true) :
      Attended accept fired link .turning
        { link := { link with bell := link.bell.spendPermit }, outcome := .waiting .looking
          notices := [] }
  | parked (silent : link.bell.permit = false) (unfired : fired = false) :
      Attended accept fired link .turning
        { link := { link with bell := link.bell.park }, outcome := .waiting .parked, notices := [] }
  | woke (woken : link.bell.listener = .woken) :
      Attended accept fired link .parked
        { link := { link with bell := link.bell.leave }, outcome := .waiting .looking, notices := [] }
  | quit (fires : fired = true) :
      Attended accept fired link .turning { link := link, outcome := .cancelled, notices := [] }
  | abandoned (fires : fired = true) :
      Attended accept fired link .parked
        { link := { link with bell := link.bell.abandon }, outcome := .cancelled, notices := [] }

variable {accept : Packet → Bool} {fired cancelFirst : Bool} {posture : Posture} {link : Link}
  {stepped : WaitStep} {packet : Packet}

theorem stepWait_attended (moved : link.stepWait accept fired cancelFirst posture = some stepped) :
    link.Attended accept fired posture stepped := by
  cases posture with
  | looking =>
      simp only [stepWait] at moved
      cases slot : link.slot with
      | none =>
          simp only [slot, Option.some.injEq] at moved
          subst moved
          exact .turned slot
      | some packet =>
          cases approved : accept packet with
          | true =>
              simp only [slot, approved, if_true, Option.some.injEq] at moved
              subst moved
              exact .took slot approved
          | false =>
              simp only [slot, approved, Bool.false_eq_true, if_false, Option.some.injEq] at moved
              subst moved
              exact .refused slot approved
  | turning =>
      simp only [stepWait] at moved
      split at moved
      · rename_i heeded
        cases moved
        exact .quit (Bool.and_eq_true_iff.mp heeded).1
      · rename_i unheeded
        split at moved
        · rename_i permitted
          cases moved
          exact .spent permitted
        · rename_i silent
          have quiet := eq_false_of_ne_true silent
          rw [quiet, Bool.not_false, Bool.or_true, Bool.and_true] at unheeded
          cases moved
          exact .parked quiet (eq_false_of_ne_true unheeded)
  | parked =>
      simp only [stepWait] at moved
      split at moved
      · rename_i heeded
        cases moved
        exact .abandoned (Bool.and_eq_true_iff.mp heeded).1
      · split at moved
        · rename_i woken
          cases moved
          exact .woke (of_decide_eq_true woken)
        · cases moved

theorem stepWait_blocked (blocked : link.stepWait accept fired cancelFirst posture = none) :
    posture = .parked ∧ link.bell.listener ≠ .woken ∧ fired = false := by
  cases unfired : fired with
  | true =>
      obtain ⟨stepped, moved⟩ := @stepWait_fired accept cancelFirst posture link
      rw [unfired, moved] at blocked
      cases blocked
  | false =>
      cases posture with
      | looking =>
          simp only [stepWait] at blocked
          split at blocked
          · split at blocked <;> cases blocked
          · cases blocked
      | turning =>
          simp only [stepWait, unfired, Bool.false_and, Bool.false_eq_true, if_false] at blocked
          split at blocked <;> cases blocked
      | parked =>
          refine ⟨rfl, ?_, rfl⟩
          intro woken
          simp only [stepWait, unfired, woken, Bool.false_and, Bool.false_eq_true, if_false, decide_true,
            if_true] at blocked
          cases blocked

end Link

structure Vigil extends Waiter where
  fired : Bool

/-- A link with the puts that are due to ring, the wait of its consumer if one is under way, and what the
waits before it returned. -/
structure Handoff where
  link : Link
  due : Nat
  vigil : Option Vigil
  returned : List (Option Packet)

/-- What can happen next: one half of a put, the start of a wait, or something that befalls the wait under
way. -/
inductive HandoffAction where
  | fill (packet : Packet)
  | ring
  | begin (accept : Packet → Bool) (fired : Bool)
  | fire
  | step (cancelFirst : Bool)
  /-- The wait is given up where it stands. -/
  | drop

namespace HandoffAction

def isStep : HandoffAction → Bool
  | .step _ => true
  | .fill _ | .ring | .begin .. | .fire | .drop => false

def isFill : HandoffAction → Bool
  | .fill _ => true
  | .ring | .begin .. | .fire | .step _ | .drop => false

def LeavesWait : HandoffAction → Prop
  | .fill _ | .ring | .fire | .step _ => True
  | .begin .. | .drop => False

end HandoffAction

namespace Handoff

def start (label : String) : Handoff :=
  { link := .labelled label, due := 0, vigil := none, returned := [] }

def proceed (handoff : Handoff) (vigil : Vigil) (stepped : WaitStep) : Handoff :=
  match stepped.outcome with
  | .waiting posture =>
      { handoff with link := stepped.link, vigil := some { vigil with posture := posture } }
  | .taken packet =>
      { handoff with
        link := stepped.link, vigil := none, returned := handoff.returned ++ [some packet] }
  | .cancelled =>
      { handoff with link := stepped.link, vigil := none, returned := handoff.returned ++ [none] }

def act (handoff : Handoff) : HandoffAction → Option Handoff
  | .fill packet => some { handoff with link := handoff.link.fill packet, due := handoff.due + 1 }
  | .ring =>
      match handoff.due with
      | 0 => none
      | due + 1 => some { handoff with link := handoff.link.ring, due := due }
  | .begin accept fired =>
      match handoff.vigil with
      | some _ => none
      | none =>
          some { handoff with vigil := some { accept := accept, posture := .looking, fired := fired } }
  | .fire => handoff.vigil.map fun vigil => { handoff with vigil := some { vigil with fired := true } }
  | .step cancelFirst =>
      match handoff.vigil with
      | none => none
      | some vigil =>
          (handoff.link.stepWait vigil.accept vigil.fired cancelFirst vigil.posture).map
            (handoff.proceed vigil)
  | .drop =>
      handoff.vigil.map fun _ =>
        { handoff with
          link := { handoff.link with bell := handoff.link.bell.abandon }, vigil := none }

def run : List HandoffAction → Handoff → Option Handoff
  | [], handoff => some handoff
  | action :: rest, handoff => (handoff.act action).bind (run rest)

def Parked (handoff : Handoff) : Prop :=
  ∃ vigil, handoff.vigil = some vigil ∧ vigil.posture = .parked

/-- The bell has something for a wait that has come this far. -/
def Announced (bell : Bell) : Posture → Prop
  | .looking => True
  | .turning => bell.permit = true
  | .parked => bell.listener = .woken

/-- The bell knows its listener, and a wait at the bell is told of what lies in the slot. -/
structure Alert (handoff : Handoff) : Prop where
  listens : handoff.link.bell.listener ≠ .absent ↔ handoff.Parked
  told : ∀ vigil packet, handoff.vigil = some vigil → handoff.link.slot = some packet →
    Announced handoff.link.bell vigil.posture ∨ 0 < handoff.due

variable {handoff next later : Handoff} {vigil : Vigil} {action : HandoffAction}
  {actions : List HandoffAction} {stepped : WaitStep} {cancelFirst : Bool}

theorem alert_start (label : String) : (start label).Alert := by
  refine ⟨⟨fun listens => absurd rfl listens, ?_⟩, fun _ _ impossible => by cases impossible⟩
  rintro ⟨vigil, impossible, _⟩
  cases impossible

private theorem unparked (idle : handoff.vigil = none) : ¬ handoff.Parked := by
  rintro ⟨vigil, waits, _⟩
  cases idle.symm.trans waits

private theorem parked_iff (waits : handoff.vigil = some vigil) :
    handoff.Parked ↔ vigil.posture = .parked := by
  constructor
  · rintro ⟨other, same, parked⟩
    cases waits.symm.trans same
    exact parked
  · exact fun parked => ⟨vigil, waits, parked⟩

private theorem Alert.ring {due : Nat} (alert : handoff.Alert) :
    Alert { handoff with link := handoff.link.ring, due := due } := by
  refine ⟨?_, ?_⟩
  · change handoff.link.bell.ring.listener ≠ .absent ↔ handoff.Parked
    rw [← alert.listens]
    unfold Bell.ring
    by_cases parked : handoff.link.bell.listener = .parked
    · rw [if_pos parked, parked]
      exact iff_of_true nofun nofun
    · rw [if_neg parked]
  · intro vigil packet waits _
    have listens := alert.listens.trans (parked_iff waits)
    left
    change Announced handoff.link.bell.ring vigil.posture
    unfold Bell.ring
    cases posture : vigil.posture with
    | looking => trivial
    | turning =>
        have absent : handoff.link.bell.listener = .absent := by
          by_contra present
          rw [listens.mp present] at posture
          cases posture
        rw [if_neg (by rw [absent]; decide)]
        rfl
    | parked =>
        by_cases parked : handoff.link.bell.listener = .parked
        · rw [if_pos parked]
          rfl
        · rw [if_neg parked]
          have present := listens.mpr posture
          change handoff.link.bell.listener = .woken
          cases listener : handoff.link.bell.listener with
          | absent => exact absurd listener present
          | parked => exact absurd listener parked
          | woken => rfl

private theorem Alert.idle {link : Link} {returned : List (Option Packet)}
    (absent : link.bell.listener = .absent) :
    Alert { link := link, due := handoff.due, vigil := none, returned := returned } :=
  ⟨iff_of_false (fun present => present absent) (unparked rfl), fun _ _ impossible => by cases impossible⟩

private theorem Alert.looking {link : Link} (absent : link.bell.listener = .absent) :
    Alert { handoff with link := link, vigil := some { vigil with posture := .looking } } := by
  refine ⟨iff_of_false (fun present => present absent) ?_, ?_⟩
  · intro parked
    cases (parked_iff rfl).mp parked
  · intro other packet same _
    cases same
    exact Or.inl trivial

private theorem Alert.step (alert : handoff.Alert) (waits : handoff.vigil = some vigil)
    (moved : handoff.link.stepWait vigil.accept vigil.fired cancelFirst vigil.posture = some stepped) :
    (handoff.proceed vigil stepped).Alert := by
  have listens := alert.listens.trans (parked_iff waits)
  have told := fun packet => alert.told vigil packet waits
  have away : vigil.posture ≠ .parked → handoff.link.bell.listener = .absent := fun unparked =>
    Decidable.byContradiction fun present => unparked (listens.mp present)
  generalize vigil.posture = posture at moved told away
  cases Link.stepWait_attended moved with
  | took => exact .idle (away nofun)
  | refused => exact .looking (away nofun)
  | spent => exact .looking (away nofun)
  | woke => exact .looking rfl
  | quit => exact .idle (away nofun)
  | abandoned => exact .idle rfl
  | turned slot =>
      refine ⟨iff_of_false (fun present => present (away nofun)) ?_, ?_⟩
      · intro parked
        cases (parked_iff rfl).mp parked
      · intro _ packet _ lies
        cases slot.symm.trans lies
  | parked silent =>
      refine ⟨iff_of_true nofun ((parked_iff rfl).mpr rfl), ?_⟩
      intro _ packet _ lies
      rcases told packet lies with permitted | due
      · cases silent.symm.trans permitted
      · exact Or.inr due

theorem Alert.act (alert : handoff.Alert) (acted : handoff.act action = some next) : next.Alert := by
  cases action with
  | fill packet =>
      cases acted
      exact ⟨alert.listens, fun _ _ _ _ => Or.inr (Nat.succ_pos _)⟩
  | ring =>
      simp only [Handoff.act] at acted
      split at acted
      · cases acted
      · cases acted
        exact alert.ring
  | begin accept fired =>
      simp only [Handoff.act] at acted
      split at acted
      · cases acted
      · rename_i idle
        cases acted
        have absent : handoff.link.bell.listener = .absent :=
          Decidable.byContradiction fun present => unparked idle (alert.listens.mp present)
        exact @Alert.looking handoff { accept := accept, posture := .looking, fired := fired } _ absent
  | fire =>
      obtain ⟨vigil, waits, same⟩ := Option.map_eq_some_iff.mp acted
      subst same
      have same := @parked_iff { handoff with vigil := some { vigil with fired := true } } _ rfl
      refine ⟨alert.listens.trans ((parked_iff waits).trans same.symm), ?_⟩
      intro other packet same lies
      cases same
      exact alert.told vigil packet waits lies
  | step cancelFirst =>
      simp only [Handoff.act] at acted
      split at acted
      · cases acted
      · rename_i vigil waits
        obtain ⟨stepped, moved, same⟩ := Option.map_eq_some_iff.mp acted
        subst same
        exact alert.step waits moved
  | drop =>
      obtain ⟨vigil, waits, same⟩ := Option.map_eq_some_iff.mp acted
      subst same
      exact .idle rfl

theorem Alert.run (alert : handoff.Alert) (ran : run actions handoff = some later) : later.Alert := by
  induction actions generalizing handoff with
  | nil =>
      cases ran
      exact alert
  | cons action rest ih =>
      obtain ⟨next, acted, remaining⟩ := Option.bind_eq_some_iff.mp ran
      exact ih (alert.act acted) remaining

/-- The steps that are left to a wait whose token has fired. -/
def patience (handoff : Handoff) : Nat :=
  match handoff.vigil with
  | none => 0
  | some vigil => vigil.posture.effort + 2 * (handoff.link.load + handoff.due)

/-- What the waits will have returned if the one under way returns nothing. -/
def forecast (handoff : Handoff) : List (Option Packet) :=
  handoff.returned ++ (handoff.vigil.map fun _ => none).toList

def Called (handoff : Handoff) : Prop :=
  ∀ vigil, handoff.vigil = some vigil → vigil.fired = true

structure Nears (handoff : Handoff) (steps fills : Nat) (next : Handoff) : Prop where
  called : next.Called
  spends : steps + next.patience ≤ handoff.patience + 4 * fills
  empty : handoff.link.slot = none → fills = 0 →
    next.link.slot = none ∧ next.forecast = handoff.forecast

private theorem patience_waiting (waits : handoff.vigil = some vigil) :
    handoff.patience = vigil.posture.effort + 2 * (handoff.link.load + handoff.due) := by
  unfold patience
  rw [waits]

private theorem nears_eased {link : Link} {due : Nat} {fills : Nat} (called : handoff.Called)
    (eased : link.load + due ≤ handoff.link.load + handoff.due + 2 * fills)
    (empty : handoff.link.slot = none → fills = 0 → link.slot = none) :
    handoff.Nears 0 fills { handoff with link := link, due := due } := by
  refine ⟨called, ?_, fun slot none => ⟨empty slot none, rfl⟩⟩
  unfold patience
  cases handoff.vigil with
  | none => exact Nat.le_trans (Nat.le_of_eq (Nat.zero_add 0)) (Nat.zero_le _)
  | some vigil =>
      change 0 + (vigil.posture.effort + 2 * (link.load + due)) ≤
        vigil.posture.effort + 2 * (handoff.link.load + handoff.due) + 4 * fills
      omega

private theorem nears_step (waits : handoff.vigil = some vigil) (fires : vigil.fired = true)
    (moved : handoff.link.stepWait vigil.accept vigil.fired cancelFirst vigil.posture = some stepped) :
    handoff.Nears 1 0 (handoff.proceed vigil stepped) := by
  have spends := Link.stepWait_spends moved
  have attended := Link.stepWait_attended moved
  have before := patience_waiting waits
  have least : 1 ≤ vigil.posture.effort := by cases vigil.posture <;> decide
  have within := spends.within
  have pending : (handoff.vigil.map fun _ => (none : Option Packet)).toList = [none] := by
    rw [waits]
    rfl
  generalize vigil.posture = posture at spends attended before least
  unfold proceed
  cases outcome : stepped.outcome with
  | waiting next =>
      have onward := spends.waiting fires next outcome
      have most := next.effort_le
      refine ⟨?_, ?_, ?_⟩
      · intro other same
        cases same
        exact fires
      · rw [before]
        change 1 + (next.effort + 2 * (stepped.link.load + handoff.due)) ≤ _
        omega
      · intro slot _
        refine ⟨?_, ?_⟩
        · cases attended with
          | refused => rfl
          | turned | spent | parked | woke => exact slot
          | took | quit | abandoned => cases outcome
        · unfold forecast
          rw [pending]
          rfl
  | taken packet =>
      refine ⟨(fun _ impossible => by cases impossible), ?_, ?_⟩
      · rw [before]
        change 1 + 0 ≤ _
        omega
      · intro slot _
        cases attended with
        | took lies => cases slot.symm.trans lies
        | refused | turned | spent | parked | woke | quit | abandoned => cases outcome
  | cancelled =>
      refine ⟨(fun _ impossible => by cases impossible), ?_, ?_⟩
      · rw [before]
        change 1 + 0 ≤ _
        omega
      · intro slot _
        refine ⟨?_, ?_⟩
        · cases attended with
          | quit | abandoned => exact slot
          | took | refused | turned | spent | parked | woke => cases outcome
        · unfold forecast
          rw [pending]
          exact List.append_nil _

private theorem act_nears (called : handoff.Called) (leaves : action.LeavesWait)
    (acted : handoff.act action = some next) :
    handoff.Nears action.isStep.toNat action.isFill.toNat next := by
  cases action with
  | fill packet =>
      cases acted
      refine nears_eased called ?_ (fun _ impossible => by cases impossible)
      change 1 + handoff.link.bell.load + (handoff.due + 1) ≤
        (if handoff.link.slot.isSome then 1 else 0) + handoff.link.bell.load + handoff.due + 2 * 1
      omega
  | ring =>
      simp only [Handoff.act] at acted
      split at acted
      · cases acted
      · rename_i due same
        cases acted
        refine nears_eased called ?_ fun slot _ => slot
        have rung := @Bell.load_ring handoff.link.bell
        change (if handoff.link.slot.isSome then 1 else 0) + handoff.link.bell.ring.load + due ≤
          (if handoff.link.slot.isSome then 1 else 0) + handoff.link.bell.load + handoff.due + 2 * 0
        omega
  | fire =>
      obtain ⟨vigil, waits, same⟩ := Option.map_eq_some_iff.mp acted
      subst same
      have lit : handoff.vigil = some { vigil with fired := true } := by
        rw [waits, ← called vigil waits]
      rw [← lit]
      exact @nears_eased handoff handoff.link handoff.due 0 called (Nat.le_refl _) fun slot _ => slot
  | step cancelFirst =>
      simp only [Handoff.act] at acted
      split at acted
      · cases acted
      · rename_i vigil waits
        obtain ⟨stepped, moved, same⟩ := Option.map_eq_some_iff.mp acted
        subst same
        exact nears_step waits (called vigil waits) moved
  | begin | drop => cases leaves

theorem run_nears (called : handoff.Called) (leaves : ∀ action ∈ actions, action.LeavesWait)
    (ran : run actions handoff = some later) :
    handoff.Nears (actions.countP (·.isStep)) (actions.countP (·.isFill)) later := by
  induction actions generalizing handoff with
  | nil =>
      cases ran
      exact ⟨called, by simp, fun slot _ => ⟨slot, rfl⟩⟩
  | cons action rest ih =>
      obtain ⟨next, acted, remaining⟩ := Option.bind_eq_some_iff.mp ran
      have first := act_nears called (leaves action List.mem_cons_self) acted
      have further := ih first.called (fun other member => leaves other (List.mem_cons_of_mem _ member))
        remaining
      have steps : (action :: rest).countP (·.isStep) = rest.countP (·.isStep) + action.isStep.toNat := by
        rw [List.countP_cons]
        cases action.isStep <;> rfl
      have fills : (action :: rest).countP (·.isFill) = rest.countP (·.isFill) + action.isFill.toNat := by
        rw [List.countP_cons]
        cases action.isFill <;> rfl
      have now := first.spends
      have afterwards := further.spends
      rw [steps, fills]
      refine ⟨further.called, by omega, ?_⟩
      intro slot none
      obtain ⟨still, same⟩ := first.empty slot (by omega)
      obtain ⟨atEnd, sameAtEnd⟩ := further.empty still (by omega)
      exact ⟨atEnd, sameAtEnd.trans same⟩

/-- Nothing is left to do but for somebody to start something new. -/
def AtRest (handoff : Handoff) : Prop :=
  handoff.act .ring = none ∧ ∀ cancelFirst, handoff.act (.step cancelFirst) = none

/-- How a link and those who use it stand to each other. -/
structure Responsive (handoff : Handoff) : Prop where
  puts : ∀ packet, run [.fill packet, .ring] handoff =
    some { handoff with link := (handoff.link.put packet).1 }
  outstanding : ∀ vigil packet, handoff.vigil = some vigil → vigil.posture ≠ .looking →
    handoff.link.slot = some packet →
      handoff.link.bell.permit = true ∨ handoff.link.bell.listener = .woken ∨ 0 < handoff.due
  rested : ∀ vigil, handoff.vigil = some vigil → handoff.AtRest →
    handoff.link.slot = none ∧ vigil.fired = false
  occupied : ∀ packet accept fired cancelFirst, handoff.vigil = none →
    handoff.link.slot = some packet → accept packet = true → ∃ next,
      run [.begin accept fired, .step cancelFirst] handoff = some next ∧ next.vigil = none ∧
        next.link.slot = none ∧ next.returned = handoff.returned ++ [some packet]
  bounded : ∀ vigil actions later, handoff.vigil = some vigil → vigil.fired = true →
    (∀ action ∈ actions, action.LeavesWait) → run actions handoff = some later →
      actions.countP (·.isStep) ≤
        2 + 2 * (handoff.link.load + handoff.due) + 4 * actions.countP (·.isFill) ∧
      (later.vigil.isSome = true → ∀ cancelFirst, (later.act (.step cancelFirst)).isSome = true) ∧
      (handoff.link.slot = none → actions.countP (·.isFill) = 0 → later.vigil = none →
        later.link.slot = none ∧ later.returned = handoff.returned ++ [none])

private theorem Alert.rested (alert : handoff.Alert) (waits : handoff.vigil = some vigil)
    (rests : handoff.AtRest) : handoff.link.slot = none ∧ vigil.fired = false := by
  obtain ⟨rung, blocked⟩ := rests
  have blocked := blocked false
  simp only [Handoff.act, waits, Option.map_eq_none_iff] at blocked
  obtain ⟨parked, unwoken, unfired⟩ := Link.stepWait_blocked blocked
  refine ⟨?_, unfired⟩
  have settled : handoff.due = 0 := by
    simp only [Handoff.act] at rung
    split at rung
    · assumption
    · cases rung
  cases slot : handoff.link.slot with
  | none => rfl
  | some packet =>
      have told := alert.told vigil packet waits slot
      rw [parked, settled] at told
      rcases told with woken | due
      · exact absurd woken unwoken
      · cases due

private theorem run_occupied {packet : Packet} {accept : Packet → Bool} {fired : Bool}
    (idle : handoff.vigil = none) (slot : handoff.link.slot = some packet)
    (approved : accept packet = true) :
    run [.begin accept fired, .step cancelFirst] handoff = some
      { handoff with
        link := { handoff.link with slot := none }, returned := handoff.returned ++ [some packet] } := by
  simp only [run, Handoff.act, idle, Option.bind_some, Link.stepWait, slot, approved, if_true,
    Option.map_some, proceed]

private theorem act_fired (waits : handoff.vigil = some vigil) (fires : vigil.fired = true) :
    (handoff.act (.step cancelFirst)).isSome = true := by
  obtain ⟨stepped, moved⟩ :=
    @Link.stepWait_fired vigil.accept cancelFirst vigil.posture handoff.link
  simp only [Handoff.act, waits, fires, moved, Option.map_some, Option.isSome_some]

/-- Puts are cut into their two halves, and these, the steps of waits, fired tokens and waits that are given
up may follow each other in any order. While something lies in the slot, a ring is kept for the consumer at
the bell, or has woken it, or is due from the put that filled the slot. So when all is at rest a wait under
way, whatever it accepts, means an empty slot and a token that has not fired. A wait that starts on an
occupied slot takes what lies there even if its token has fired. A wait whose token has fired is never
blocked, takes boundedly many steps, and returns nothing if the slot was empty and nobody fills it. -/
theorem link_wakes_consumer {label : String} (ran : run actions (start label) = some handoff) :
    handoff.Responsive := by
  have alert := (alert_start label).run ran
  refine ⟨fun _ => rfl, ?_, ?_, ?_, ?_⟩
  · intro vigil packet waits blind slot
    have told := alert.told vigil packet waits slot
    cases posture : vigil.posture with
    | looking => exact absurd posture blind
    | turning =>
        rw [posture] at told
        exact told.imp id Or.inr
    | parked =>
        rw [posture] at told
        exact Or.inr told
  · intro vigil waits rests
    exact alert.rested waits rests
  · intro packet accept fired cancelFirst idle slot approved
    exact ⟨_, run_occupied idle slot approved, idle, rfl, rfl⟩
  · intro vigil further later waits fires leaves goesOn
    have called : handoff.Called := by
      intro other same
      cases waits.symm.trans same
      exact fires
    have nears := run_nears called leaves goesOn
    have effort := vigil.posture.effort_le
    have spends := nears.spends
    rw [patience_waiting waits] at spends
    refine ⟨by omega, ?_, ?_⟩
    · intro still cancelFirst
      obtain ⟨held, waitsOn⟩ := Option.isSome_iff_exists.mp still
      exact act_fired waitsOn (nears.called held waitsOn)
    · intro slot unfilled ended
      obtain ⟨empty, forecast⟩ := nears.empty slot unfilled
      unfold Handoff.forecast at forecast
      rw [ended, waits] at forecast
      exact ⟨empty, (List.append_nil _).symm.trans forecast⟩

namespace Doorbell

def parcel (id : Nat) : Packet :=
  { id := id, message := .empty }

/-- The first packet is taken and leaves a ring behind, which sends the second wait back to look once more;
when it has parked, a packet is put. -/
def visits : List HandoffAction :=
  [.fill (parcel 1), .ring, .begin Link.acceptAny false, .step false, .begin Link.acceptAny false] ++
    List.replicate 4 (.step false) ++ [.fill (parcel 2), .ring]

end Doorbell

theorem link_wakes_consumer_parked :
    ∃ handoff vigil packet, run Doorbell.visits (start "a->b") = some handoff ∧
      handoff.vigil = some vigil ∧ vigil.posture = .parked ∧ handoff.link.slot = some packet ∧
      handoff.due = 0 ∧ handoff.Responsive := by
  have outcome : (run Doorbell.visits (start "a->b")).map (fun handoff =>
      (handoff.vigil.map (·.posture), handoff.link.slot.map (·.id), handoff.due)) =
      some (some .parked, some 2, 0) := by decide
  obtain ⟨handoff, ran, seen⟩ := Option.map_eq_some_iff.mp outcome
  obtain ⟨vigil, waits, parked⟩ := Option.map_eq_some_iff.mp (congrArg Prod.fst seen)
  obtain ⟨packet, slot, _⟩ := Option.map_eq_some_iff.mp (congrArg (·.2.1) seen)
  exact ⟨handoff, vigil, packet, ran, waits, parked, slot, congrArg (·.2.2) seen, link_wakes_consumer ran⟩

end Handoff
end Sluice
