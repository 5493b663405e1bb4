import Sluice.Proofs.Merge.Soundness

set_option autoImplicit false

/-! A merge whose calls are given up beside one whose calls are not. The second merge does what the first
one does, except that it stays on the field it waits for while the first one gives up, is called again and
finds its way back. Both consume the same packets and emit the same composites at the same actions. -/

namespace Sluice

inductive MergeEvent where
  | put (link : LinkId) (packet : Packet)
  | began
  | taken (field : String) (link : LinkId) (packet : Packet)
  | emitted (composite : Packet)
  | gaveUp

namespace MergeEvent

/-- Takes each call that was given up and the next one for one call. The flag says that the last call was
given up and the next one is still to come. -/
def joined : Bool → List MergeEvent → List MergeEvent
  | _, [] => []
  | _, .gaveUp :: rest => joined true rest
  | true, .began :: rest => joined false rest
  | pending, event :: rest => event :: joined pending rest

theorem gaveUp_not_mem_joined {pending : Bool} {events : List MergeEvent} :
    .gaveUp ∉ joined pending events := by
  induction events generalizing pending with
  | nil => exact List.not_mem_nil
  | cons event rest ih =>
      cases event with
      | gaveUp => exact ih
      | began =>
          cases pending with
          | true => exact ih
          | false => exact List.not_mem_cons_of_ne_of_not_mem nofun ih
      | put | taken | emitted =>
          cases pending <;> exact List.not_mem_cons_of_ne_of_not_mem nofun ih

def Plain : MergeEvent → Prop
  | .put .. | .taken .. | .emitted _ => True
  | .began | .gaveUp => False

theorem joined_plain {pending : Bool} {events : List MergeEvent} (rest : List MergeEvent)
    (plain : ∀ event ∈ events, event.Plain) :
    joined pending (events ++ rest) = events ++ joined pending rest := by
  induction events with
  | nil => rfl
  | cons event events ih =>
      have later := ih fun other member => plain other (List.mem_cons_of_mem _ member)
      have here := plain event List.mem_cons_self
      cases event with
      | put | taken | emitted =>
          rw [List.cons_append, List.cons_append, ← later]
          cases pending <;> rfl
      | began | gaveUp => cases here

end MergeEvent

namespace MergeLedger

def since (earlier later : MergeLedger) : List MergeEvent :=
  (later.intakes.drop earlier.intakes.length).map
      (fun intake => .taken intake.field intake.link intake.packet) ++
    (later.emissions.drop earlier.emissions.length).map fun emission => .emitted emission.composite

theorem since_self (ledger : MergeLedger) : ledger.since ledger = [] := by
  simp [since]

theorem since_plain {earlier later : MergeLedger} : ∀ event ∈ earlier.since later, event.Plain := by
  intro event member
  rcases List.mem_append.mp member with taken | emitted
  · obtain ⟨intake, _, same⟩ := List.mem_map.mp taken
    exact same ▸ trivial
  · obtain ⟨emission, _, same⟩ := List.mem_map.mp emitted
    exact same ▸ trivial

theorem record_visiting {ledger : MergeLedger} {links others : LinkStore} {merge : Merge}
    {position : Nat} {stepped : MergeStep} :
    ledger.record others merge (.visiting position) { stepped with links := others } =
      ledger.record links merge (.visiting position) stepped := by
  obtain ⟨after, reached, outcome, notices⟩ := stepped
  cases outcome with
  | inl => rfl
  | inr composite => cases composite <;> rfl

end MergeLedger

def MergeAction.unfired : MergeAction → MergeAction
  | .step _ cancelFirst => .step false cancelFirst
  | .put link packet => .put link packet
  | .begin => .begin

namespace Merge

variable {fired cancelFirst : Bool} {links : LinkStore} {merge : Merge} {position : Nat}
  {field : MergeField} {packet : Packet} {stepped : MergeStep}

/-- Two steps of a call that differ in nothing but the bells of their links. -/
structure Mirrors (merge : Merge) (links others : LinkStore) (call : MergeCall)
    (stepped mirror : MergeStep) : Prop where
  after : mirror.merge = stepped.merge
  outcome : mirror.outcome = stepped.outcome
  slots : ∀ link, (mirror.links.get link).slot = (stepped.links.get link).slot
  known : mirror.links.next = stepped.links.next
  entered : ∀ ledger : MergeLedger,
    ledger.record others merge call mirror = ledger.record links merge call stepped

theorem step_visiting {others : LinkStore} (unfired : Bool)
    (slots : ∀ link, (others.get link).slot = (links.get link).slot)
    (known : others.next = links.next)
    (moved : merge.step fired cancelFirst links (.visiting position) = some stepped) :
    ∃ mirror, merge.step unfired cancelFirst others (.visiting position) = some mirror ∧
      merge.Mirrors links others (.visiting position) stepped mirror := by
  refine ⟨{ stepped with links := others }, ?_⟩
  have entered : ∀ ledger : MergeLedger,
      ledger.record others merge (.visiting position) { stepped with links := others } =
        ledger.record links merge (.visiting position) stepped :=
    fun _ => MergeLedger.record_visiting
  cases found : merge.fields[position]? with
  | none =>
      by_cases exhausted : merge.isExhausted = true
      · simp only [step, found, if_pos exhausted, Option.some.injEq] at moved ⊢
        subst moved
        exact ⟨rfl, rfl, rfl, slots, known, entered⟩
      · simp only [step, found, if_neg exhausted, Option.some.injEq] at moved ⊢
        subst moved
        exact ⟨rfl, rfl, rfl, slots, known, entered⟩
  | some field =>
      cases cached : field.cached with
      | none =>
          simp only [step, found, cached, Option.some.injEq] at moved ⊢
          subst moved
          exact ⟨rfl, rfl, rfl, slots, known, entered⟩
      | some packet =>
          by_cases reaches : merge.floor ≤ packet.id
          · simp only [step, found, cached, if_pos reaches, Option.some.injEq] at moved ⊢
            subst moved
            exact ⟨rfl, rfl, rfl, slots, known, entered⟩
          · simp only [step, found, cached, if_neg reaches, Option.some.injEq] at moved ⊢
            subst moved
            exact ⟨rfl, rfl, rfl, slots, known, entered⟩

theorem step_refusing (found : merge.fields[position]? = some field)
    (slot : (links.get field.link).slot = some packet) (below : packet.id < merge.floor) :
    merge.step fired cancelFirst links (.waiting position .looking) =
      some
        { merge := merge
          links := links.set field.link { links.get field.link with slot := none }
          outcome := .inl (.waiting position .looking)
          notices := [(links.get field.link).discarding packet] } := by
  have refused : Link.acceptFrom merge.floor packet = false :=
    decide_eq_false (Nat.not_le_of_lt below)
  simp [step, found, Link.stepWait, slot, refused]

theorem step_accepting (found : merge.fields[position]? = some field)
    (slot : (links.get field.link).slot = some packet) (reaches : merge.floor ≤ packet.id) :
    merge.step fired cancelFirst links (.waiting position .looking) =
      some
        { merge := ((merge.cache position packet).advance position packet.id).1
          links := links.set field.link { links.get field.link with slot := none }
          outcome := .inl ((merge.cache position packet).advance position packet.id).2
          notices := [] } := by
  have approved : Link.acceptFrom merge.floor packet = true := Link.acceptFrom_iff.mpr reaches
  simp [step, found, Link.stepWait, slot, approved]

theorem step_mirrored {others : LinkStore} (unfired : Bool)
    (slots : ∀ link, (others.get link).slot = (links.get link).slot)
    (known : others.next = links.next) (found : merge.fields[position]? = some field)
    (slot : (links.get field.link).slot = some packet)
    (moved : merge.step fired cancelFirst links (.waiting position .looking) = some stepped) :
    ∃ mirror, merge.step unfired cancelFirst others (.waiting position .looking) = some mirror ∧
      merge.Mirrors links others (.waiting position .looking) stepped mirror := by
  have mirrored := (slots field.link).trans slot
  have emptied : ∀ link,
      ((others.set field.link { others.get field.link with slot := none }).get link).slot =
        ((links.set field.link { links.get field.link with slot := none }).get link).slot := by
    intro link
    rw [LinkStore.slot_set, LinkStore.slot_set, known, slots]
  have stored : (others.set field.link { others.get field.link with slot := none }).next =
      (links.set field.link { links.get field.link with slot := none }).next := by
    rw [LinkStore.next_set, LinkStore.next_set, known]
  by_cases reaches : merge.floor ≤ packet.id
  · rw [step_accepting found slot reaches] at moved
    cases moved
    refine ⟨_, step_accepting found mirrored reaches, rfl, rfl, emptied, stored, ?_⟩
    intro ledger
    rcases @call_advance (merge.cache position packet) position packet.id reaches with
      restarted | ⟨onward, _⟩
    · rw [restarted, MergeLedger.record_kept found slot, MergeLedger.record_kept found mirrored]
    · rw [onward, MergeLedger.record_kept found slot, MergeLedger.record_kept found mirrored]
  · have below := Nat.lt_of_not_le reaches
    rw [step_refusing found slot below] at moved
    cases moved
    refine ⟨_, step_refusing found mirrored below, rfl, rfl, emptied, stored, ?_⟩
    intro ledger
    rw [MergeLedger.record_discarded found slot, MergeLedger.record_discarded found mirrored]

theorem step_passing (found : merge.fields[position]? = some field)
    (stands : StandsAt field merge.floor) :
    merge.step fired cancelFirst links (.visiting position) =
      some
        { merge := merge, links := links, outcome := .inl (.visiting (position + 1))
          notices := [] } := by
  obtain ⟨packet, cached, level⟩ := stands
  have reaches : merge.floor ≤ packet.id := Nat.le_of_eq level.symm
  have settled : ¬ merge.floor < packet.id := by omega
  simp only [step, found, cached, if_pos reaches, advance, if_neg settled]

theorem step_turning (found : merge.fields[position]? = some field)
    (lies : LiesBelow field merge.floor) :
    merge.step fired cancelFirst links (.visiting position) =
      some
        { merge := merge, links := links, outcome := .inl (.waiting position .looking)
          notices := [] } := by
  cases cached : field.cached with
  | none => simp only [step, found, cached]
  | some packet =>
      have below : ¬ merge.floor ≤ packet.id := Nat.not_le_of_lt (lies packet cached)
      simp only [step, found, cached, if_neg below]

end Merge

namespace MergeSession

def shown (session next : MergeSession) : MergeAction → List MergeEvent
  | .put link packet => [.put link packet]
  | .begin => [.began]
  | .step _ _ =>
      session.ledger.since next.ledger ++
        if next.call.isNone ∧ next.ledger.emissions.length = session.ledger.emissions.length then
          [.gaveUp]
        else []

def events : List MergeAction → MergeSession → List MergeEvent
  | [], _ => []
  | action :: rest, session =>
      match session.act action with
      | none => []
      | some next => session.shown next action ++ events rest next

variable {pending : Bool} {session next other later : MergeSession} {action : MergeAction}

theorem act_step {fired cancelFirst : Bool} (acted : session.act (.step fired cancelFirst) = some next) :
    ∃ call stepped, session.call = some call ∧
      session.merge.step fired cancelFirst session.links call = some stepped ∧
      next = { links := stepped.links, merge := stepped.merge, call := stepped.outcome.getLeft?
               ledger := session.ledger.record session.links session.merge call stepped } := by
  simp only [act] at acted
  cases under : session.call with
  | none =>
      rw [under] at acted
      cases acted
  | some call =>
      simp only [under] at acted
      cases step : session.merge.step fired cancelFirst session.links call with
      | none =>
          rw [step] at acted
          cases acted
      | some stepped =>
          simp only [step, Option.some.injEq] at acted
          exact ⟨call, stepped, rfl, step, acted.symm⟩

theorem act_begin (acted : session.act .begin = some next) :
    session.call = none ∧ next = { session with call := some (.visiting 0) } := by
  simp only [act] at acted
  cases idle : session.call with
  | none =>
      simp only [idle, Option.some.injEq] at acted
      exact ⟨rfl, acted.symm⟩
  | some call =>
      rw [idle] at acted
      cases acted

theorem act_beginning (idle : session.call = none) :
    session.act .begin = some { session with call := some (.visiting 0) } := by
  simp only [act, idle]

theorem act_stepping {fired cancelFirst : Bool} {call : MergeCall} {stepped : MergeStep}
    (under : session.call = some call)
    (step : session.merge.step fired cancelFirst session.links call = some stepped) :
    session.act (.step fired cancelFirst) =
      some { links := stepped.links, merge := stepped.merge, call := stepped.outcome.getLeft?
             ledger := session.ledger.record session.links session.merge call stepped } := by
  simp only [act, under, step]

theorem steady_moved (steady : session.merge.Steady session.call) (moved : session.Moved next) :
    next.merge.Steady next.call := by
  cases moved with
  | put => exact steady
  | begun idle =>
      rw [idle] at steady
      exact steady.begin
  | stepped under step =>
      rw [under] at steady
      exact steady.step step

/-- Where the call of a merge stands when the one beside it never gives up: the same, or before the field
that the other one waits for. -/
inductive Stands : Bool → Option MergeCall → Option MergeCall → Prop
  | idle : Stands false none none
  | visiting (position : Nat) : Stands false (some (.visiting position)) (some (.visiting position))
  | waiting (position : Nat) (posture : Posture) :
      Stands false (some (.waiting position posture)) (some (.waiting position .looking))
  | paused (position : Nat) : Stands true none (some (.waiting position .looking))
  | returning {index position : Nat} (within : index ≤ position) :
      Stands false (some (.visiting index)) (some (.waiting position .looking))
  | collapsed : Stands false (some .collapsed) (some .collapsed)

theorem Stands.advanced {merge : Merge} {position id : Nat} (reaches : merge.floor ≤ id) :
    Stands false (some (merge.advance position id).2) (some (merge.advance position id).2) := by
  rcases @Merge.call_advance merge position id reaches with restarted | ⟨onward, _⟩
  · rw [restarted]
    exact .visiting 0
  · rw [onward]
    exact .visiting (position + 1)

theorem Stands.collapsed_iff {call under : Option MergeCall} (stands : Stands pending call under) :
    call = some .collapsed ↔ under = some .collapsed := by
  cases stands with
  | collapsed => exact Iff.rfl
  | idle | visiting | waiting | paused | returning => exact iff_of_false nofun nofun

structure Beside (pending : Bool) (session other : MergeSession) : Prop where
  merge : other.merge = session.merge
  ledger : other.ledger = session.ledger
  slots : ∀ link, (other.links.get link).slot = (session.links.get link).slot
  known : other.links.next = session.links.next
  stands : Stands pending session.call other.call
  steady : other.merge.Steady other.call

/-- What the second merge does when the first one acts: the same action unfired, or nothing. -/
inductive Follows (pending : Bool) (session next other : MergeSession) (action : MergeAction) : Prop
  | alike {later : MergeSession} (more : Bool) (acted : other.act action.unfired = some later)
      (beside : Beside more next later)
      (seen : ∀ rest, MergeEvent.joined pending (session.shown next action ++ rest) =
        other.shown later action.unfired ++ MergeEvent.joined more rest)
  | still (more : Bool) (beside : Beside more next other)
      (unseen : ∀ rest, MergeEvent.joined pending (session.shown next action ++ rest) =
        MergeEvent.joined more rest)

private theorem shown_alike {fired cancelFirst : Bool} (before : other.ledger = session.ledger)
    (after : later.ledger = next.ledger) (calls : later.call.isNone = next.call.isNone)
    (ended : next.call.isNone → next.ledger.emissions.length ≠ session.ledger.emissions.length)
    (rest : List MergeEvent) :
    MergeEvent.joined pending (session.shown next (.step fired cancelFirst) ++ rest) =
      other.shown later (.step false cancelFirst) ++ MergeEvent.joined pending rest := by
  have never : ¬ (next.call.isNone ∧
      next.ledger.emissions.length = session.ledger.emissions.length) :=
    fun both => ended both.1 both.2
  simp only [shown, before, after, calls, if_neg never, List.append_nil]
  exact MergeEvent.joined_plain rest MergeLedger.since_plain

private theorem shown_still {fired cancelFirst : Bool} (same : next.ledger = session.ledger)
    (under : next.call.isNone = false) (rest : List MergeEvent) :
    MergeEvent.joined pending (session.shown next (.step fired cancelFirst) ++ rest) =
      MergeEvent.joined pending rest := by
  simp [shown, same, under, MergeLedger.since_self]

private theorem Beside.alike {fired cancelFirst : Bool} {call : MergeCall} {stepped mirror : MergeStep}
    (beside : Beside false session other) (same : other.call = some call)
    (mirrored : session.merge.step false cancelFirst other.links call = some mirror)
    (mirrors : session.merge.Mirrors session.links other.links call stepped mirror)
    (stands : Stands false stepped.outcome.getLeft? stepped.outcome.getLeft?)
    (bare : stepped.outcome ≠ .inr none)
    (made : next =
      { links := stepped.links, merge := stepped.merge, call := stepped.outcome.getLeft?
        ledger := session.ledger.record session.links session.merge call stepped }) :
    Follows false session next other (.step fired cancelFirst) := by
  rw [← beside.merge] at mirrored
  have acted := act_stepping same mirrored
  have moved := act_moved acted
  have ledgers : other.ledger.record other.links other.merge call mirror = next.ledger := by
    rw [made, beside.merge, beside.ledger]
    exact mirrors.entered session.ledger
  have calls : mirror.outcome.getLeft? = next.call := by
    rw [made, mirrors.outcome]
  refine .alike false acted ⟨?_, ledgers, ?_, ?_, ?_, steady_moved beside.steady moved⟩ ?_
  · rw [made]
    exact mirrors.after
  · rw [made]
    exact mirrors.slots
  · rw [made]
    exact mirrors.known
  · rw [made, mirrors.outcome]
    exact stands
  · refine shown_alike beside.ledger ledgers (congrArg Option.isNone calls) ?_
    subst made
    intro ended
    cases outcome : stepped.outcome with
    | inl under =>
        rw [outcome] at ended
        cases ended
    | inr composite =>
        cases composite with
        | none => exact absurd outcome bare
        | some composite =>
            simp only [MergeLedger.record, outcome, MergeLedger.emit, List.length_append,
              List.length_singleton]
            omega

private theorem Beside.visit {position : Nat} {fired cancelFirst : Bool} {stepped : MergeStep}
    (beside : Beside false session other) (same : other.call = some (.visiting position))
    (step : session.merge.step fired cancelFirst session.links (.visiting position) = some stepped)
    (made : next =
      { links := stepped.links, merge := stepped.merge, call := stepped.outcome.getLeft?
        ledger := session.ledger.record session.links session.merge (.visiting position) stepped }) :
    Follows false session next other (.step fired cancelFirst) := by
  obtain ⟨mirror, mirrored, mirrors⟩ := Merge.step_visiting false beside.slots beside.known step
  apply beside.alike same mirrored mirrors _ _ made
  · cases Merge.step_stepped step with
    | emitted => exact .idle
    | overflowed => exact .collapsed
    | turned => exact .waiting position .looking
    | reused _ _ reaches => exact .advanced reaches
  · cases Merge.step_stepped step with
    | emitted | overflowed | turned | reused => exact nofun

private theorem Beside.stay {more : Bool} {call : Option MergeCall} {id : LinkId} {link : Link}
    (beside : Beside pending session other) (keeps : link.slot = (session.links.get id).slot)
    (stands : Stands more call other.call) :
    Beside more { session with links := session.links.set id link, call := call } other := by
  refine ⟨beside.merge, beside.ledger, ?_, ?_, stands, beside.steady⟩
  · intro other
    exact (beside.slots other).trans (LinkStore.slot_set_keeping keeps).symm
  · exact beside.known.trans LinkStore.next_set.symm

private theorem Beside.wait {position : Nat} {posture : Posture} {fired cancelFirst : Bool}
    {stepped : MergeStep} (beside : Beside false session other)
    (same : other.call = some (.waiting position .looking))
    (step : session.merge.step fired cancelFirst session.links (.waiting position posture) =
      some stepped)
    (made : next =
      { links := stepped.links, merge := stepped.merge, call := stepped.outcome.getLeft?
        ledger :=
          session.ledger.record session.links session.merge (.waiting position posture) stepped }) :
    Follows false session next other (.step fired cancelFirst) := by
  cases Merge.step_stepped step with
  | @waited _ _ later field link found keeps =>
      rw [MergeLedger.record_waited found keeps (by intro composite impossible; cases impossible)] at made
      subst made
      have stands : Stands false (some (.waiting position later)) other.call := by
        rw [same]
        exact .waiting position later
      exact .still false (beside.stay keeps stands) (shown_still (by rfl) (by rfl))
  | @cancelled _ _ field link found keeps =>
      rw [MergeLedger.record_waited found keeps (by intro composite impossible; cases impossible)] at made
      subst made
      have stands : Stands true none other.call := by
        rw [same]
        exact .paused position
      refine .still true (beside.stay keeps stands) fun rest => ?_
      simp only [shown, MergeLedger.since_self, Sum.getLeft?_inr, Option.isNone_none, and_self, if_true]
      rfl
  | discarded found slot below =>
      obtain ⟨mirror, mirrored, mirrors⟩ :=
        Merge.step_mirrored false beside.slots beside.known found slot step
      exact beside.alike same mirrored mirrors (.waiting position .looking) nofun made
  | kept found slot reaches =>
      obtain ⟨mirror, mirrored, mirrors⟩ :=
        Merge.step_mirrored false beside.slots beside.known found slot step
      exact beside.alike same mirrored mirrors (.advanced reaches) nofun made

private theorem Beside.return {index position : Nat} {fired cancelFirst : Bool} {stepped : MergeStep}
    (beside : Beside false session other) (within : index ≤ position)
    (same : other.call = some (.waiting position .looking))
    (step : session.merge.step fired cancelFirst session.links (.visiting index) = some stepped)
    (made : next =
      { links := stepped.links, merge := stepped.merge, call := stepped.outcome.getLeft?
        ledger := session.ledger.record session.links session.merge (.visiting index) stepped }) :
    Follows false session next other (.step fired cancelFirst) := by
  have steady := beside.steady
  rw [same, beside.merge] at steady
  obtain ⟨awaited, found, lies⟩ := steady.awaited position .looking rfl
  have quiet : ∀ {call : MergeCall}, Stands false (some call) (some (.waiting position .looking)) →
      next = { session with call := some call } →
      Follows false session next other (.step fired cancelFirst) := by
    intro call stands passed
    rw [← same] at stands
    subst passed
    exact .still false
      ⟨beside.merge, beside.ledger, beside.slots, beside.known, stands, beside.steady⟩
      (shown_still (by rfl) (by rfl))
  rcases Nat.lt_or_eq_of_le within with before | here
  · have inside := Nat.lt_trans before (List.getElem?_eq_some_iff.mp found).1
    have atIndex := List.getElem?_eq_getElem inside
    have stands := steady.passed _ rfl index before _ atIndex
    rw [Merge.step_passing atIndex stands] at step
    cases step
    exact quiet (.returning before) made
  · subst here
    rw [Merge.step_turning found lies] at step
    cases step
    exact quiet (.waiting index .looking) made

theorem Beside.follows (beside : Beside pending session other) (acted : session.act action = some next) :
    Follows pending session next other action := by
  cases action with
  | put link packet =>
      cases acted
      refine .alike pending rfl
        ⟨beside.merge, beside.ledger, ?_, ?_, beside.stands, beside.steady⟩ ?_
      · intro id
        change ((other.links.put link packet).1.get id).slot = ((session.links.put link packet).1.get id).slot
        rw [LinkStore.slot_put, LinkStore.slot_put, beside.known, beside.slots]
      · exact LinkStore.next_set.trans (beside.known.trans LinkStore.next_set.symm)
      · intro rest
        cases pending <;> rfl
  | begin =>
      obtain ⟨idle, made⟩ := act_begin acted
      subst made
      have stands := beside.stands
      rw [idle] at stands
      generalize resumed : other.call = call at stands
      cases stands with
      | idle =>
          have steady := beside.steady
          rw [resumed] at steady
          refine .alike false (act_beginning resumed)
            ⟨beside.merge, beside.ledger, beside.slots, beside.known, .visiting 0, steady.begin⟩ ?_
          intro rest
          rfl
      | paused position =>
          refine .still false
            ⟨beside.merge, beside.ledger, beside.slots, beside.known, ?_, beside.steady⟩ ?_
          · rw [resumed]
            exact .returning (Nat.zero_le position)
          · intro rest
            rfl
  | step fired cancelFirst =>
      obtain ⟨call, stepped, under, step, made⟩ := act_step acted
      have stands := beside.stands
      rw [under] at stands
      generalize same : other.call = call at stands
      cases stands with
      | visiting position => exact beside.visit same step made
      | waiting position posture => exact beside.wait same step made
      | returning within => exact beside.return within same step made
      | collapsed => cases step

/-- Beside any run of the first merge, the second one has a run of the same actions, or fewer, that shows
the same, once calls that were given up are joined with those that follow them. -/
theorem Beside.run {actions : List MergeAction} {last : MergeSession}
    (beside : Beside pending session other) (ran : run actions session = some last) :
    ∃ through later more, MergeSession.run through other = some later ∧
      through.Sublist (actions.map MergeAction.unfired) ∧ Beside more last later ∧
      events through other = MergeEvent.joined pending (events actions session) := by
  -- `pending` changes when a call is given up and when the next one begins
  induction actions generalizing pending session other with
  | nil =>
      cases ran
      refine ⟨[], other, pending, rfl, List.Sublist.refl [], beside, ?_⟩
      cases pending <;> rfl
  | cons action rest ih =>
      obtain ⟨next, acted, remaining⟩ := run_cons ran
      simp only [events, acted]
      cases beside.follows acted with
      | @alike middle more mirrored after seen =>
          obtain ⟨through, later, ending, goes, fewer, beside, same⟩ := ih after remaining
          refine ⟨action.unfired :: through, later, ending, ?_, fewer.cons_cons _, beside, ?_⟩
          · simp only [MergeSession.run, mirrored]
            exact goes
          · simp only [events, mirrored]
            rw [same, seen]
      | @still more after unseen =>
          obtain ⟨through, later, ending, goes, fewer, beside, same⟩ := ih after remaining
          refine ⟨through, later, ending, goes, fewer.cons _, beside, ?_⟩
          rw [same, unseen]

end MergeSession
end Sluice
