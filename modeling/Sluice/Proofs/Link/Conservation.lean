import Sluice.Proofs.Link.Wait
import Sluice.Proofs.Log.Lawful

set_option autoImplicit false

/-! The history of a link with one consumer. Puts and the steps of waits come in any order; the log records
what each put handed back, what waits took out of the slot and what they returned. Every packet that was
put is found in one place, and nothing leaves the slot but the packet that was put last. -/

namespace Sluice

inductive LinkEvent where
  | put (packet : Packet) (displaced : Option Packet)
  | began (accept : Packet → Bool)
  /-- A wait took the packet from the slot and goes on without it. -/
  | discarded (packet : Packet)
  /-- A wait ended, with a packet or with nothing. -/
  | ended (result : Option Packet)

namespace LinkEvent

def leaves (held : Option Packet) : LinkEvent → Option Packet
  | .put packet _ => some packet
  | .discarded _ | .ended (some _) => none
  | .began _ | .ended none => held

def removed? : LinkEvent → Option Packet
  | .put _ displaced => displaced
  | .discarded packet => some packet
  | .ended result => result
  | .began _ => none

/-- The wait that is under way after an event, by what it accepts. -/
def awaits (under : Option (Packet → Bool)) : LinkEvent → Option (Packet → Bool)
  | .began accept => some accept
  | .ended _ => none
  | .put .. | .discarded _ => under

def touches : LinkEvent → Bool
  | .put .. | .discarded _ | .ended (some _) => true
  | .began _ | .ended none => false

def turns : LinkEvent → Bool
  | .began _ | .ended _ => true
  | .put .. | .discarded _ => false

def put? : LinkEvent → Option Packet
  | .put packet _ => some packet
  | _ => none

def delivered? : LinkEvent → Option Packet
  | .ended result => result
  | _ => none

/-- The notice that is due for an event on a link of this label. -/
def stale? (label : String) : LinkEvent → Option Notice
  | .put _ displaced => displaced.map fun packet => .staleDiscarded label packet.id
  | .discarded packet => some (.staleDiscarded label packet.id)
  | .began _ | .ended _ => none

end LinkEvent

namespace LinkLog

def lying (log : List LinkEvent) : Option Packet :=
  log.foldl LinkEvent.leaves none

def underWay (log : List LinkEvent) : Option (Packet → Bool) :=
  log.foldl LinkEvent.awaits none

def puts (log : List LinkEvent) : List Packet :=
  log.filterMap LinkEvent.put?

def deliveries (log : List LinkEvent) : List Packet :=
  log.filterMap LinkEvent.delivered?

/-- An event that can follow a log: it takes nothing but what lies in the slot, and a wait keeps to what it
accepts. -/
structure Follows (log : List LinkEvent) (event : LinkEvent) : Prop where
  removes : ∀ packet, event.removed? = some packet → lying log = some packet
  displaces : ∀ packet displaced, event = .put packet displaced → displaced = lying log
  rejects : ∀ packet, event = .discarded packet → ∃ accept, underWay log = some accept ∧
    accept packet = false
  accepts : ∀ packet, event = .ended (some packet) → ∃ accept, underWay log = some accept ∧
    accept packet = true

variable {log earlier later : List LinkEvent} {event : LinkEvent} {packet : Packet}
  {slot : Option Packet}

theorem lying_append : lying (log ++ [event]) = event.leaves (lying log) :=
  List.foldl_append

theorem underWay_append : underWay (log ++ [event]) = event.awaits (underWay log) :=
  List.foldl_append

private theorem foldl_passed {State : Type} {change : State → LinkEvent → State} {state : State}
    (still : ∀ event ∈ later, change state event = state) : later.foldl change state = state := by
  induction later with
  | nil => rfl
  | cons event later ih =>
      rw [List.foldl_cons, still event List.mem_cons_self]
      exact ih fun other member => still other (List.mem_cons_of_mem _ member)

theorem leaves_untouched {held : Option Packet} (apart : event.touches = false) :
    event.leaves held = held := by
  cases event with
  | began => rfl
  | put | discarded => cases apart
  | ended result =>
      cases result with
      | none => rfl
      | some => cases apart

/-- What lies in the slot was put last, and nothing has touched the slot since. -/
theorem put_of_lying (lies : lying log = some packet) :
    ∃ before displaced between, log = before ++ .put packet displaced :: between ∧
      ∀ event ∈ between, event.touches = false := by
  have still : ∀ {events : List LinkEvent} {held : Option Packet},
      (∀ event ∈ events, event.touches = false) → events.foldl LinkEvent.leaves held = held :=
    fun apart => foldl_passed fun event member => leaves_untouched (apart event member)
  rcases Log.last_of LinkEvent.touches log with none | ⟨before, event, between, same, touched, apart⟩
  · rw [lying, still none] at lies
    cases lies
  · rw [same, lying, List.foldl_append, List.foldl_cons, still apart] at lies
    cases event with
    | put other displaced =>
        cases lies
        exact ⟨before, displaced, between, same, apart⟩
    | discarded => cases lies
    | began => cases touched
    | ended result =>
        cases result with
        | none => cases touched
        | some => cases lies

theorem began_of_underWay {accept : Packet → Bool} (waits : underWay log = some accept) :
    ∃ before between, log = before ++ .began accept :: between ∧
      ∀ event ∈ between, event.turns = false := by
  have still : ∀ {events : List LinkEvent} {under : Option (Packet → Bool)},
      (∀ event ∈ events, event.turns = false) → events.foldl LinkEvent.awaits under = under := by
    intro events under apart
    apply foldl_passed
    intro event member
    have passed := apart event member
    cases event with
    | put | discarded => rfl
    | began | ended => cases passed
  rcases Log.last_of LinkEvent.turns log with none | ⟨before, event, between, same, turned, apart⟩
  · rw [underWay, still none] at waits
    cases waits
  · rw [same, underWay, List.foldl_append, List.foldl_cons, still apart] at waits
    cases event with
    | began other =>
        cases waits
        exact ⟨before, between, same, apart⟩
    | ended => cases waits
    | put | discarded => cases turned

inductive Place where
  | displaced
  | delivered
  | discarded
  | slot
deriving DecidableEq

/-- The place of a packet by the events since its put: the first that touches the slot decides. -/
inductive Ends (packet : Packet) (slot : Option Packet) : Place → List LinkEvent → Prop
  | lies (still : slot = some packet) : Ends packet slot .slot []
  | displaced {next : Packet} {later : List LinkEvent} :
      Ends packet slot .displaced (.put next (some packet) :: later)
  | delivered {later : List LinkEvent} : Ends packet slot .delivered (.ended (some packet) :: later)
  | discarded {later : List LinkEvent} : Ends packet slot .discarded (.discarded packet :: later)
  | passed {place : Place} {event : LinkEvent} {later : List LinkEvent} (apart : event.touches = false)
      (ends : Ends packet slot place later) : Ends packet slot place (event :: later)

theorem Ends.unique {first second : Place} (ends : Ends packet slot first later)
    (other : Ends packet slot second later) : first = second := by
  induction ends with
  | lies => cases other with | lies => rfl
  | displaced =>
      cases other with
      | displaced => rfl
      | passed touched => cases touched
  | delivered =>
      cases other with
      | delivered => rfl
      | passed touched => cases touched
  | discarded =>
      cases other with
      | discarded => rfl
      | passed touched => cases touched
  | passed apart _ ih =>
      cases other with
      | displaced | delivered | discarded => cases apart
      | passed _ other => exact ih other

theorem ends_of_lying (lies : lying earlier = some packet)
    (follows : ∀ before event after, earlier ++ later = before ++ event :: after →
      Follows before event) :
    ∃ place, Ends packet (lying (earlier ++ later)) place later := by
  -- the first event that touches the slot decides; up to it the packet goes on lying there
  induction later generalizing earlier with
  | nil =>
      rw [List.append_nil]
      exact ⟨.slot, .lies lies⟩
  | cons event later ih =>
      have here := follows earlier event later rfl
      cases touched : event.touches with
      | false =>
          have still : lying (earlier ++ [event]) = some packet := by
            rw [lying_append, leaves_untouched touched]
            exact lies
          have whole : earlier ++ event :: later = earlier ++ [event] ++ later := by
            rw [List.append_assoc, List.singleton_append]
          rw [whole] at follows ⊢
          obtain ⟨place, ends⟩ := ih still follows
          exact ⟨place, .passed touched ends⟩
      | true =>
          cases event with
          | began => cases touched
          | put next displaced =>
              have same := here.displaces next displaced rfl
              rw [lies] at same
              subst same
              exact ⟨.displaced, .displaced⟩
          | discarded other =>
              cases lies.symm.trans (here.removes other rfl)
              exact ⟨.discarded, .discarded⟩
          | ended result =>
              cases result with
              | none => cases touched
              | some other =>
                  cases lies.symm.trans (here.removes other rfl)
                  exact ⟨.delivered, .delivered⟩

/-- Deliveries come in the order of the puts, and before what still lies in the slot. -/
theorem ordered_of_lawful (lawful : Log.Lawful Follows log) :
    (deliveries log ++ (lying log).toList).Sublist (puts log) := by
  induction lawful with
  | nothing => exact List.Sublist.refl []
  | @more log event lawful follows ih =>
      unfold deliveries puts at ih ⊢
      rw [lying_append, List.filterMap_append, List.filterMap_append]
      have shorter := (List.sublist_append_left _ _).trans ih
      cases event with
      | put packet displaced =>
          change (_ ++ [] ++ [packet]).Sublist (_ ++ [packet])
          rw [List.append_nil]
          exact shorter.append (List.Sublist.refl _)
      | began =>
          change (_ ++ [] ++ _).Sublist (_ ++ [])
          rw [List.append_nil, List.append_nil]
          exact ih
      | discarded packet =>
          change (_ ++ [] ++ []).Sublist (_ ++ [])
          rw [List.append_nil, List.append_nil, List.append_nil]
          exact shorter
      | ended result =>
          cases result with
          | none =>
              change (_ ++ [] ++ _).Sublist (_ ++ [])
              rw [List.append_nil, List.append_nil]
              exact ih
          | some packet =>
              change (_ ++ [packet] ++ []).Sublist (_ ++ [])
              rw [follows.removes packet rfl] at ih
              rw [List.append_nil, List.append_nil]
              exact ih

end LinkLog

structure Waiter where
  accept : Packet → Bool
  posture : Posture

/-- A link with its consumer's wait, if one is under way, and what has been seen of both. -/
structure LinkSession where
  link : Link
  waiter : Option Waiter
  log : List LinkEvent
  notices : List Notice

/-- What can happen next: a put, the start of a wait, or a step of the wait under way. A wait that takes
whatever comes is one that accepts every packet. -/
inductive LinkAction where
  | put (packet : Packet)
  | begin (accept : Packet → Bool)
  | step (fired cancelFirst : Bool)

namespace LinkSession

def start (label : String) : LinkSession :=
  { link := .labelled label, waiter := none, log := [], notices := [] }

def lost (before after : Link) : List LinkEvent :=
  match before.slot, after.slot with
  | some packet, none => [.discarded packet]
  | _, _ => []

def shown (before : Link) (stepped : WaitStep) : List LinkEvent :=
  match stepped.outcome with
  | .taken packet => [.ended (some packet)]
  | .cancelled => lost before stepped.link ++ [.ended none]
  | .waiting _ => lost before stepped.link

def goesOn (waiter : Waiter) (outcome : WaitOutcome) : Option Waiter :=
  match outcome with
  | .waiting posture => some { waiter with posture := posture }
  | .taken _ | .cancelled => none

def act (session : LinkSession) : LinkAction → LinkSession
  | .put packet =>
      let stored := session.link.put packet
      { session with
        link := stored.1, log := session.log ++ [.put packet stored.2.1]
        notices := session.notices ++ stored.2.2 }
  | .begin accept =>
      match session.waiter with
      | some _ => session
      | none =>
          { session with
            waiter := some { accept := accept, posture := .looking }
            log := session.log ++ [.began accept] }
  | .step fired cancelFirst =>
      match session.waiter with
      | none => session
      | some waiter =>
          match session.link.stepWait waiter.accept fired cancelFirst waiter.posture with
          | none => session
          | some stepped =>
              { link := stepped.link, waiter := goesOn waiter stepped.outcome
                log := session.log ++ shown session.link stepped
                notices := session.notices ++ stepped.notices }

def run (actions : List LinkAction) (session : LinkSession) : LinkSession :=
  actions.foldl act session

variable {session : LinkSession} {label : String} {event : LinkEvent}

/-- What the log says is what is there. -/
structure Kept (label : String) (session : LinkSession) : Prop where
  labelled : session.link.label = label
  lawful : Log.Lawful LinkLog.Follows session.log
  slot : session.link.slot = LinkLog.lying session.log
  waits : session.waiter.map (·.accept) = LinkLog.underWay session.log
  told : session.notices = session.log.filterMap (LinkEvent.stale? label)

theorem lost_same {before after : Link} (same : after.slot = before.slot) : lost before after = [] := by
  unfold lost
  rw [same]
  cases before.slot <;> rfl

private theorem Kept.further (kept : session.Kept label) (link : Link) (waiter : Option Waiter)
    (follows : LinkLog.Follows session.log event) (sameLabel : link.label = session.link.label)
    (slot : link.slot = event.leaves session.link.slot)
    (waits : waiter.map (·.accept) = event.awaits (session.waiter.map (·.accept))) :
    Kept label
      { link := link, waiter := waiter, log := session.log ++ [event]
        notices := session.notices ++ (event.stale? label).toList } := by
  refine ⟨sameLabel.trans kept.labelled, .more kept.lawful follows, ?_, ?_, ?_⟩
  · rw [LinkLog.lying_append, ← kept.slot]
    exact slot
  · rw [LinkLog.underWay_append, ← kept.waits]
    exact waits
  · rw [List.filterMap_append, ← kept.told]
    have single : [event].filterMap (LinkEvent.stale? label) = (event.stale? label).toList := by
      cases due : event.stale? label <;> simp [due]
    rw [single]

private theorem Kept.put {packet : Packet} (kept : session.Kept label) :
    (session.act (.put packet)).Kept label := by
  have follows : LinkLog.Follows session.log (.put packet session.link.slot) := by
    refine ⟨?_, ?_, nofun, nofun⟩
    · intro other displaced
      exact kept.slot.symm.trans displaced
    · intro _ _ same
      cases same
      exact kept.slot
  have next := kept.further (session.link.put packet).1 session.waiter follows rfl rfl rfl
  have notices : session.link.slot.toList.map session.link.discarding =
      (LinkEvent.stale? label (.put packet session.link.slot)).toList := by
    unfold Link.discarding LinkEvent.stale?
    rw [kept.labelled]
    cases session.link.slot <;> rfl
  rw [← notices] at next
  exact next

private theorem Kept.begin {accept : Packet → Bool} (kept : session.Kept label) :
    (session.act (.begin accept)).Kept label := by
  unfold act
  cases idle : session.waiter with
  | some => simpa only [idle] using kept
  | none =>
      have follows : LinkLog.Follows session.log (.began accept) := ⟨nofun, nofun, nofun, nofun⟩
      have next := kept.further session.link (some { accept := accept, posture := .looking }) follows rfl
        rfl rfl
      have quiet : (LinkEvent.stale? label (.began accept)).toList = [] := rfl
      rw [quiet, List.append_nil] at next
      exact next

private theorem Kept.silent {link : Link} {waiter : Waiter} {posture : Posture}
    (kept : session.Kept label) (waits : session.waiter = some waiter)
    (sameLabel : link.label = session.link.label) (slot : link.slot = session.link.slot) :
    Kept label
      { link := link, waiter := some { waiter with posture := posture }
        log := session.log ++ lost session.link link, notices := session.notices ++ [] } := by
  have under := kept.waits
  rw [waits] at under
  rw [lost_same slot, List.append_nil, List.append_nil]
  exact ⟨sameLabel.trans kept.labelled, kept.lawful, slot.trans kept.slot, under, kept.told⟩

private theorem Kept.step {fired cancelFirst : Bool} (kept : session.Kept label) :
    (session.act (.step fired cancelFirst)).Kept label := by
  unfold act
  cases waits : session.waiter with
  | none => simpa only [waits] using kept
  | some waiter =>
      cases moved : session.link.stepWait waiter.accept fired cancelFirst waiter.posture with
      | none => simpa only [waits, moved] using kept
      | some stepped =>
          simp only [moved]
          have under : LinkLog.underWay session.log = some waiter.accept := by
            rw [← kept.waits, waits]
            rfl
          have lies : ∀ {packet}, session.link.slot = some packet →
              LinkLog.lying session.log = some packet := fun slot => kept.slot.symm.trans slot
          generalize waiter.posture = posture at moved
          cases Link.stepWait_waited moved with
          | @taken packet slot approved =>
              have follows : LinkLog.Follows session.log (.ended (some packet)) := by
                refine ⟨?_, nofun, nofun, ?_⟩
                · intro other same
                  cases same
                  exact lies slot
                · intro other same
                  cases same
                  exact ⟨waiter.accept, under, approved⟩
              exact kept.further { session.link with slot := none } none follows rfl rfl rfl
          | @discarded packet slot refused =>
              have follows : LinkLog.Follows session.log (.discarded packet) := by
                refine ⟨?_, nofun, ?_, nofun⟩
                · intro other same
                  cases same
                  exact lies slot
                · intro other same
                  cases same
                  exact ⟨waiter.accept, under, refused⟩
              have next := kept.further { session.link with slot := none }
                (some { waiter with posture := .looking }) follows rfl rfl (by rw [waits]; rfl)
              simp only [shown, lost, slot]
              rw [← kept.labelled] at next ⊢
              exact next
          | turned slot => exact kept.silent waits rfl rfl
          | listened => exact kept.silent waits rfl rfl
          | @cancelled _ bell =>
              have follows : LinkLog.Follows session.log (.ended none) := ⟨nofun, nofun, nofun, nofun⟩
              have next := kept.further { session.link with bell := bell } none follows rfl rfl rfl
              have nothing : lost session.link { session.link with bell := bell } = [] := lost_same rfl
              simp only [shown, nothing]
              exact next

theorem Kept.run (kept : session.Kept label) (actions : List LinkAction) :
    (run actions session).Kept label := by
  induction actions generalizing session with
  | nil => exact kept
  | cons action rest ih =>
      apply ih
      cases action with
      | put packet => exact kept.put
      | begin accept => exact kept.begin
      | step fired cancelFirst => exact kept.step

theorem kept_start (label : String) : (start label).Kept label :=
  ⟨rfl, .nothing, rfl, rfl, rfl⟩

open LinkLog in
/-- How a session accounts for the packets that were put on its link. -/
structure Accounted (label : String) (session : LinkSession) : Prop where
  places : ∀ earlier packet displaced later, session.log = earlier ++ .put packet displaced :: later →
    ∃ place, Ends packet session.link.slot place later ∧
      ∀ other, Ends packet session.link.slot other later → other = place
  recent : ∀ earlier event later packet, session.log = earlier ++ event :: later →
    event.removed? = some packet → ∃ before displaced between,
      earlier = before ++ .put packet displaced :: between ∧
      ∀ other ∈ between, other.touches = false
  ordered : (deliveries session.log).Sublist (puts session.log)
  returned : ∀ earlier packet later, session.log = earlier ++ .ended (some packet) :: later →
    ∃ before accept between, earlier = before ++ .began accept :: between ∧
      (∀ other ∈ between, other.turns = false) ∧ accept packet = true
  rejected : ∀ earlier packet later, session.log = earlier ++ .discarded packet :: later →
    ∃ before accept between, earlier = before ++ .began accept :: between ∧
      (∀ other ∈ between, other.turns = false) ∧ accept packet = false
  noted : session.notices = session.log.filterMap (LinkEvent.stale? label)

/-- Whatever is put on a link and however its consumer waits, each packet that was put is in one place:
displaced by the next put, returned by a wait, discarded by a wait, or still in the slot. Only the packet
that was put last is ever taken out, so packets are delivered in the order in which they were put. A wait
returns nothing but what it accepts and discards nothing but what it rejects, and exactly the displaced and
the discarded packets are noted, once each. -/
theorem link_packets_accounted (label : String) (actions : List LinkAction) :
    (run actions (start label)).Accounted label := by
  have kept := (kept_start label).run actions
  generalize run actions (start label) = session at kept
  constructor
  case places =>
    intro earlier packet displaced later whole
    have lies : LinkLog.lying (earlier ++ [.put packet displaced]) = some packet := LinkLog.lying_append
    have sameLog : session.log = earlier ++ [.put packet displaced] ++ later := by
      rw [whole, List.append_assoc, List.singleton_append]
    have follows : ∀ before event after,
        earlier ++ [.put packet displaced] ++ later = before ++ event :: after →
        LinkLog.Follows before event := by
      intro before event after split
      exact kept.lawful.follows (sameLog.trans split)
    obtain ⟨place, ends⟩ := LinkLog.ends_of_lying lies follows
    rw [← sameLog, ← kept.slot] at ends
    exact ⟨place, ends, fun other otherwise => otherwise.unique ends⟩
  case recent =>
    intro earlier event later packet whole removed
    exact LinkLog.put_of_lying ((kept.lawful.follows whole).removes packet removed)
  case ordered => exact (List.sublist_append_left _ _).trans (LinkLog.ordered_of_lawful kept.lawful)
  case returned =>
    intro earlier packet later whole
    obtain ⟨accept, under, approved⟩ := (kept.lawful.follows whole).accepts packet rfl
    obtain ⟨before, between, same, apart⟩ := LinkLog.began_of_underWay under
    exact ⟨before, accept, between, same, apart, approved⟩
  case rejected =>
    intro earlier packet later whole
    obtain ⟨accept, under, refused⟩ := (kept.lawful.follows whole).rejects packet rfl
    obtain ⟨before, between, same, apart⟩ := LinkLog.began_of_underWay under
    exact ⟨before, accept, between, same, apart, refused⟩
  case noted => exact kept.told

example :
    let offer (id : Nat) : LinkAction := .put { id := id, message := .empty }
    let session := run [offer 1, offer 2, .begin Link.acceptAny, .step false false] (start "a->b")
    (LinkLog.deliveries session.log).map (·.id) = [2] ∧ session.notices.length = 1 := by decide

end LinkSession
end Sluice
