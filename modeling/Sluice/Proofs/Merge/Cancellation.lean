import Sluice.Proofs.Merge.Resumption

set_option autoImplicit false

/-! Giving up a call of a merge is without consequence. The merge emits nothing and keeps its number; what it
has consumed is in a cache or below the floor; and the next call returns to the field that was waited for
without taking anything. Over a whole run, calls that were given up are parts of longer calls. -/

namespace Sluice

namespace MergeAction

def isPut : MergeAction → Bool
  | .put .. => true
  | .begin | .step .. => false

def isStep : MergeAction → Bool
  | .step .. => true
  | .put .. | .begin => false

end MergeAction

namespace MergeSession

variable {session next last before waiting after : MergeSession} {action : MergeAction}
  {actions calling : List MergeAction}

/-- Everything that was consumed is cached by its field or lies below the floor. -/
def Retains (merge : Merge) (ledger : MergeLedger) : Prop :=
  ∀ intake ∈ ledger.intakes, intake.packet.id < merge.floor ∨
    ∃ field ∈ merge.fields, field.name = intake.field ∧ field.cached = some intake.packet

variable {merge grownMerge : Merge} {ledger grown : MergeLedger}

theorem retains_grown (retains : Retains merge ledger) (grows : Grown ledger merge grownMerge grown) :
    Retains grownMerge grown := by
  intro intake taken
  cases grows with
  | unchanged => exact retains intake taken
  | emitted complete =>
      obtain ⟨original, member, same⟩ := List.mem_map.mp taken
      subst same
      rw [Intake.packet_join, Intake.field_join]
      rcases retains original member with below | cached
      · exact Or.inl (Nat.lt_succ_of_lt below)
      · exact Or.inr cached
  | discarded found below =>
      rcases List.mem_append.mp taken with old | new
      · exact retains intake old
      · cases List.mem_singleton.mp new
        exact Or.inl below
  | @kept position field packet found lies reaches =>
      rcases List.mem_append.mp taken with old | new
      · obtain ⟨original, member, same⟩ := List.mem_map.mp old
        subst same
        rw [Intake.packet_release, Intake.field_release]
        rcases retains original member with below | ⟨holder, holds, named, cached⟩
        · exact Or.inl (Nat.lt_of_lt_of_le below reaches)
        · obtain ⟨index, atIndex⟩ := List.mem_iff_getElem?.mp holds
          by_cases here : position = index
          -- the new packet takes the place of one below the floor
          · subst here
            cases found.symm.trans atIndex
            exact Or.inl (Nat.lt_of_lt_of_le (lies original.packet cached) reaches)
          · rw [← @Merge.fields_cache_apart merge position index packet here] at atIndex
            exact Or.inr ⟨holder, List.mem_of_getElem? atIndex, named, cached⟩
      · cases List.mem_singleton.mp new
        have stored := List.mem_of_getElem? (@Merge.fields_cache_at merge position field packet found)
        exact Or.inr ⟨_, stored, rfl, rfl⟩

/-- What a merge has at every moment: a visit that is where it says, and all that it consumed. -/
structure Retentive (session : MergeSession) : Prop where
  steady : session.merge.Steady session.call
  retains : Retains session.merge session.ledger

theorem Retentive.moved (retentive : session.Retentive) (moved : session.Moved next) :
    next.Retentive := by
  refine ⟨steady_moved retentive.steady moved, ?_⟩
  cases moved with
  | put | begun => exact retentive.retains
  | stepped under step =>
      have steady := retentive.steady
      rw [under] at steady
      exact retains_grown retentive.retains (grown_stepped steady step)

theorem retentive_start (links : LinkStore) (bindings : List Binding) :
    (start links bindings).Retentive := by
  refine ⟨Merge.steady_ofBindings bindings, ?_⟩
  intro intake taken
  cases taken

theorem unnumbered_stepped (ledger : MergeLedger) {links : LinkStore} {call : MergeCall} {stepped : MergeStep}
    (moved : merge.Stepped links call stepped) (goesOn : stepped.outcome.getLeft?.isSome) :
    stepped.merge.nextId = merge.nextId ∧
      (ledger.record links merge call stepped).emissions = ledger.emissions := by
  cases moved with
  | emitted | cancelled => cases goesOn
  | reused => exact ⟨Merge.nextId_advance, rfl⟩
  | overflowed | turned => exact ⟨rfl, rfl⟩
  | waited found keeps =>
      rw [MergeLedger.record_waited found keeps (by intro composite impossible; cases impossible)]
      exact ⟨rfl, rfl⟩
  | discarded found slot =>
      rw [MergeLedger.record_discarded found slot]
      exact ⟨rfl, rfl⟩
  | @kept position _ packet found slot reaches =>
      refine ⟨Merge.nextId_advance, ?_⟩
      rcases @Merge.call_advance (merge.cache position packet) position packet.id reaches with
        restarted | ⟨onward, _⟩
      · rw [restarted, MergeLedger.record_kept found slot]
        rfl
      · rw [onward, MergeLedger.record_kept found slot]
        rfl

theorem unnumbered_run (ran : run actions session = some last) (one : MergeAction.begin ∉ actions)
    (under : last.call.isSome) :
    session.call.isSome ∧ last.merge.nextId = session.merge.nextId ∧
      last.ledger.emissions = session.ledger.emissions := by
  induction actions generalizing session with
  | nil =>
      cases ran
      exact ⟨under, rfl, rfl⟩
  | cons action rest ih =>
      obtain ⟨next, acted, remaining⟩ := run_cons ran
      obtain ⟨goesOn, number, emissions⟩ :=
        ih remaining fun begins => one (List.mem_cons_of_mem _ begins)
      cases action with
      | put link packet =>
          cases acted
          exact ⟨goesOn, number, emissions⟩
      | begin => exact absurd List.mem_cons_self one
      | step fired cancelFirst =>
          obtain ⟨call, stepped, same, step, made⟩ := act_step acted
          subst made
          have still := unnumbered_stepped session.ledger (Merge.step_stepped step) goesOn
          exact ⟨Option.isSome_of_eq_some same, number.trans still.1, emissions.trans still.2⟩

theorem gaveUp_step {fired cancelFirst : Bool} (acted : session.act (.step fired cancelFirst) = some next)
    (gaveUp : .gaveUp ∈ session.shown next (.step fired cancelFirst)) :
    (∃ position posture, session.call = some (.waiting position posture)) ∧ next.call = none ∧
      next.merge = session.merge ∧ next.ledger = session.ledger ∧
      ∀ link, (next.links.get link).slot = (session.links.get link).slot := by
  have ended : next.call = none ∧
      next.ledger.emissions.length = session.ledger.emissions.length := by
    rcases List.mem_append.mp gaveUp with entered | last
    · exact absurd (MergeLedger.since_plain _ entered) id
    · split at last
      · rename_i both
        exact ⟨Option.isNone_iff_eq_none.mp both.1, both.2⟩
      · cases last
  obtain ⟨call, stepped, under, step, made⟩ := act_step acted
  subst made
  cases Merge.step_stepped step with
  | emitted =>
      have longer := ended.2
      simp only [MergeLedger.record, MergeLedger.emit, List.length_append, List.length_singleton] at longer
      omega
  | overflowed | reused | turned | waited | discarded | kept => cases ended.1
  | @cancelled position posture field link found keeps =>
      rw [MergeLedger.record_waited found keeps (by intro composite impossible; cases impossible)]
      exact ⟨⟨position, posture, under⟩, rfl, rfl, rfl, fun id => LinkStore.slot_set_keeping keeps⟩

theorem run_puts (session : MergeSession) (puts : ∀ action ∈ actions, action.isPut) :
    ∃ links, run actions session = some { session with links := links } := by
  induction actions generalizing session with
  | nil => exact ⟨session.links, rfl⟩
  | cons action rest ih =>
      have later := fun other member => puts other (List.mem_cons_of_mem _ member)
      cases action with
      | put link packet => exact ih _ later
      | begin | step => cases puts _ List.mem_cons_self

theorem run_returning {index position : Nat} (posture : Posture)
    (steady : session.merge.Steady (some (.waiting position posture)))
    (under : session.call = some (.visiting index)) (within : index ≤ position)
    (one : MergeAction.begin ∉ actions) (steps : actions.countP (·.isStep) = position - index + 1) :
    ∃ links, run actions session =
      some { session with links := links, call := some (.waiting position .looking) } := by
  induction actions generalizing session index with
  | nil => cases steps
  | cons action rest ih =>
      have later : MergeAction.begin ∉ rest := fun begins => one (List.mem_cons_of_mem _ begins)
      cases action with
      | begin => exact absurd List.mem_cons_self one
      | put link packet => exact ih steady under within later steps
      | step fired cancelFirst =>
          have remaining : rest.countP (·.isStep) = position - index := by
            rw [List.countP_cons_of_pos rfl] at steps
            omega
          obtain ⟨awaited, found, lies⟩ := steady.awaited position posture rfl
          rcases Nat.lt_or_eq_of_le within with earlier | here
          · have inside := Nat.lt_trans earlier (List.getElem?_eq_some_iff.mp found).1
            have atIndex := List.getElem?_eq_getElem inside
            have stands := steady.passed _ rfl index earlier _ atIndex
            have acted : session.act (.step fired cancelFirst) = some _ :=
              act_stepping under (Merge.step_passing atIndex stands)
            simp only [run, acted]
            apply ih _ rfl earlier later (by omega)
            exact steady
          · subst here
            have acted : session.act (.step fired cancelFirst) = some _ :=
              act_stepping under (Merge.step_turning found lies)
            have puts : ∀ action ∈ rest, action.isPut := by
              intro action member
              cases action with
              | put => rfl
              | begin => exact absurd member later
              | step fired cancelFirst =>
                  have counted : 0 < rest.countP (·.isStep) := List.countP_pos_iff.mpr ⟨_, member, rfl⟩
                  omega
            simp only [run, acted]
            exact run_puts { session with call := some (.waiting index .looking) } puts

/-- A call is begun, goes on for a while, with puts in between, and is given up. -/
structure GaveUp (before : MergeSession) (calling : List MergeAction) (waiting after : MergeSession) :
    Prop where
  began : run (.begin :: calling) before = some waiting
  one : MergeAction.begin ∉ calling
  gaveUp : ∃ fired cancelFirst, waiting.act (.step fired cancelFirst) = some after ∧
    .gaveUp ∈ waiting.shown after (.step fired cancelFirst)

/-- What a call that was given up leaves behind, and where the next call goes. -/
structure Unharmed (before waiting after : MergeSession) : Prop where
  number : after.merge.nextId = before.merge.nextId
  emissions : after.ledger.emissions = before.ledger.emissions
  merge : after.merge = waiting.merge
  ledger : after.ledger = waiting.ledger
  slots : ∀ link, (after.links.get link).slot = (waiting.links.get link).slot
  retains : Retains after.merge after.ledger
  /-- However its token fires, the next call comes to wait for the same field by as many steps as there
  are fields up to that one, and it has taken nothing by then. -/
  resumes : ∃ position posture, waiting.call = some (.waiting position posture) ∧
    ∀ between calling, (∀ action ∈ between, action.isPut) → MergeAction.begin ∉ calling →
      calling.countP (·.isStep) = position + 1 →
      ∃ links, run (between ++ .begin :: calling) after =
        some { after with links := links, call := some (.waiting position .looking) }

theorem Retentive.unharmed (retentive : before.Retentive) (gaveUp : before.GaveUp calling waiting after) :
    Unharmed before waiting after := by
  obtain ⟨began, one, fired, cancelFirst, acted, seen⟩ := gaveUp
  obtain ⟨⟨position, posture, under⟩, idle, merge, ledger, slots⟩ := gaveUp_step acted seen
  have waits : waiting.Retentive := run_keeps (fun kept moved => kept.moved moved) retentive began
  have started : ∃ opened, before.act .begin = some opened ∧ run calling opened = some waiting := by
    simp only [run] at began
    cases opening : before.act .begin with
    | none =>
        rw [opening] at began
        cases began
    | some opened =>
        rw [opening] at began
        exact ⟨opened, rfl, began⟩
  obtain ⟨opened, opening, ran⟩ := started
  obtain ⟨_, made⟩ := act_begin opening
  obtain ⟨_, number, emissions⟩ := unnumbered_run ran one (Option.isSome_of_eq_some under)
  subst made
  have steady := waits.steady
  rw [under, ← merge] at steady
  refine ⟨?_, ?_, merge, ledger, slots, ?_, position, posture, under, ?_⟩
  · rw [merge]
    exact number
  · rw [ledger]
    exact emissions
  · rw [merge, ledger]
    exact waits.retains
  · intro between calling puts one steps
    obtain ⟨links, put⟩ := run_puts after puts
    rw [run_append put]
    have resumed : { after with links := links }.act .begin = some _ := act_beginning idle
    simp only [run, resumed]
    apply run_returning posture _ rfl (Nat.zero_le position) one steps
    exact steady

/-- A run in which no call is given up, beside a run of the same actions or more. -/
structure Uninterrupted (first : MergeSession) (actions : List MergeAction) (session : MergeSession)
    (through : List MergeAction) (other : MergeSession) : Prop where
  ran : run through first = some other
  fewer : through.Sublist (actions.map MergeAction.unfired)
  whole : .gaveUp ∉ events through first
  seen : events through first = MergeEvent.joined false (events actions first)
  merge : other.merge = session.merge
  ledger : other.ledger = session.ledger
  slots : ∀ link, (other.links.get link).slot = (session.links.get link).slot
  collapsed : session.call = some .collapsed ↔ other.call = some .collapsed

/-- A call that is given up emits nothing, leaves the number of the next composite as it was, and keeps
what was consumed in the caches and the floor; the next call comes back to the field that was waited for
without taking anything. So beside any run there is one in which no token fires and no call is given up:
it shows the same puts, takes and composites in the same order, once each call that was given up is joined
with the next one, it ends with the same caches, floor and ledger, and it collapses only together with the
other. -/
theorem merge_cancellation_transparent {links : LinkStore} {bindings : List Binding}
    (ran : run actions (start links bindings) = some session) :
    (∀ calling waiting after, session.GaveUp calling waiting after → session.Unharmed waiting after) ∧
      ∃ through other, Uninterrupted (start links bindings) actions session through other := by
  have retentive : session.Retentive :=
    run_keeps (fun kept moved => kept.moved moved) (retentive_start links bindings) ran
  refine ⟨fun calling waiting after gaveUp => retentive.unharmed gaveUp, ?_⟩
  have beside : Beside false (start links bindings) (start links bindings) :=
    ⟨rfl, rfl, fun _ => rfl, rfl, .idle, Merge.steady_ofBindings bindings⟩
  obtain ⟨through, other, more, reached, fewer, after, seen⟩ := beside.run ran
  have whole : .gaveUp ∉ events through (start links bindings) :=
    seen ▸ MergeEvent.gaveUp_not_mem_joined
  exact ⟨through, other, reached, fewer, whole, seen, after.merge, after.ledger, after.slots,
    after.stands.collapsed_iff⟩

namespace Meeting

def offers : List MergeAction :=
  [offer 0 4, offer 1 2]

/-- The field `x` receives 4, the field `y` discards 2 and is waited for. -/
def waits : List MergeAction :=
  List.replicate 8 (.step false false)

/-- The call is given up, and the next one receives 4 for the field `y`. -/
def resuming : List MergeAction :=
  [.step true true, offer 1 4, .begin] ++ List.replicate 4 (.step false false)

end Meeting

theorem merge_cancellation_transparent_meeting :
    ∃ before waiting after session,
      run Meeting.offers (start Meeting.channels Meeting.bindings) = some before ∧
      before.GaveUp Meeting.waits waiting after ∧ before.Unharmed waiting after ∧
      run Meeting.resuming waiting = some session ∧ session.ledger.rendezvous = [4] ∧
      ∃ through other, Uninterrupted (start Meeting.channels Meeting.bindings)
        (Meeting.offers ++ (.begin :: Meeting.waits ++ Meeting.resuming)) session through other := by
  have met : ((run Meeting.offers (start Meeting.channels Meeting.bindings)).bind fun before =>
      (run (.begin :: Meeting.waits) before).bind fun waiting =>
        (waiting.act (.step true true)).bind fun after =>
          (run Meeting.resuming waiting).map fun session =>
            (decide (after.call.isNone ∧
                after.ledger.emissions.length = waiting.ledger.emissions.length),
              session.ledger.rendezvous)) = some (true, [4]) := by decide
  obtain ⟨before, offered, met⟩ := Option.bind_eq_some_iff.mp met
  obtain ⟨waiting, began, met⟩ := Option.bind_eq_some_iff.mp met
  obtain ⟨after, acted, met⟩ := Option.bind_eq_some_iff.mp met
  obtain ⟨session, resumed, met⟩ := Option.map_eq_some_iff.mp met
  have ended := of_decide_eq_true (congrArg Prod.fst met)
  have joined : session.ledger.rendezvous = [4] := congrArg Prod.snd met
  have gaveUp : before.GaveUp Meeting.waits waiting after := by
    refine ⟨began, by simp [Meeting.waits], true, true, acted, ?_⟩
    simp only [shown, if_pos ended]
    exact List.mem_append_right _ List.mem_cons_self
  have ran : run (Meeting.offers ++ (.begin :: Meeting.waits ++ Meeting.resuming))
      (start Meeting.channels Meeting.bindings) = some session := by
    rw [run_append offered, run_append began]
    exact resumed
  exact ⟨before, waiting, after, session, offered, gaveUp,
    (merge_cancellation_transparent offered).1 Meeting.waits waiting after gaveUp, resumed, joined,
    (merge_cancellation_transparent ran).2⟩

end MergeSession
end Sluice
