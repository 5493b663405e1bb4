import Sluice.Proofs.Merge.Visit

set_option autoImplicit false

/-! A merge watched over its whole run. Puts on links and steps of calls come in any order; an observer
who sees the slots of the links and the composites that leave keeps a ledger of every packet that was
consumed and of what became of it. -/

namespace Sluice

/-- What became of a consumed packet: the merge still holds it for a composite to come, a composite
used it, or it was dropped under some floor. -/
inductive Fate where
  | held
  | joined (number : Nat)
  | dropped (floor : Nat)
deriving DecidableEq

structure Intake where
  field : String
  link : LinkId
  packet : Packet
  fate : Fate

/-- A composite and the floor under which it left. -/
structure Emission where
  composite : Packet
  rendezvous : Nat

structure MergeLedger where
  intakes : List Intake
  emissions : List Emission

def Intake.release (name : String) (floor : Nat) (intake : Intake) : Intake :=
  if intake.field = name ∧ intake.fate = .held then { intake with fate := .dropped floor }
  else intake

def Intake.join (number : Nat) (intake : Intake) : Intake :=
  if intake.fate = .held then { intake with fate := .joined number } else intake

namespace MergeLedger

def empty : MergeLedger :=
  { intakes := [], emissions := [] }

def discard (ledger : MergeLedger) (field : MergeField) (packet : Packet) (floor : Nat) :
    MergeLedger :=
  { ledger with
    intakes := ledger.intakes ++
      [{ field := field.name, link := field.link, packet := packet, fate := .dropped floor }] }

def keep (ledger : MergeLedger) (field : MergeField) (packet : Packet) (floor : Nat) :
    MergeLedger :=
  { ledger with
    intakes := ledger.intakes.map (Intake.release field.name floor) ++
      [{ field := field.name, link := field.link, packet := packet, fate := .held }] }

def emit (ledger : MergeLedger) (composite : Packet) (rendezvous : Nat) : MergeLedger :=
  { intakes := ledger.intakes.map (Intake.join ledger.emissions.length)
    emissions := ledger.emissions ++ [{ composite := composite, rendezvous := rendezvous }] }

def removed (before after : LinkStore) (link : LinkId) : Option Packet :=
  match (after.get link).slot with
  | none => (before.get link).slot
  | some _ => none

/-- The ledger after one step of a call. A consumed packet is kept unless the wait for the field goes
on all the same. -/
def record (ledger : MergeLedger) (links : LinkStore) (merge : Merge) (call : MergeCall)
    (stepped : MergeStep) : MergeLedger :=
  match stepped.outcome, call with
  | .inr (some composite), _ => ledger.emit composite merge.floor
  | _, .visiting _ | _, .collapsed => ledger
  | outcome, .waiting position _ =>
      match merge.fields[position]? with
      | none => ledger
      | some field =>
          match removed links stepped.links field.link, outcome with
          | none, _ => ledger
          | some packet, .inl (.waiting ..) => ledger.discard field packet merge.floor
          | some packet, _ => ledger.keep field packet merge.floor

def having (ledger : MergeLedger) (name : String) (fate : Fate) : List Intake :=
  ledger.intakes.filter fun intake => intake.field = name ∧ intake.fate = fate

def idsOf (ledger : MergeLedger) (name : String) : List Nat :=
  (ledger.intakes.filter fun intake => intake.field = name).map (·.packet.id)

def rendezvous (ledger : MergeLedger) : List Nat :=
  ledger.emissions.map (·.rendezvous)

end MergeLedger

/-- A merge with its links, the call under way if there is one, and the ledger kept so far. -/
structure MergeSession where
  links : LinkStore
  merge : Merge
  call : Option MergeCall
  ledger : MergeLedger

/-- What can happen next: a put on any link, the start of a call, or a step of the call under way,
with its token fired or not. -/
inductive MergeAction where
  | put (link : LinkId) (packet : Packet)
  | begin
  | step (fired cancelFirst : Bool)

namespace MergeSession

def start (links : LinkStore) (bindings : List Binding) : MergeSession :=
  { links := links, merge := .ofBindings bindings, call := none, ledger := .empty }

def act (session : MergeSession) : MergeAction → Option MergeSession
  | .put link packet => some { session with links := (session.links.put link packet).1 }
  | .begin =>
      match session.call with
      | none => some { session with call := some (.visiting 0) }
      | some _ => none
  | .step fired cancelFirst =>
      match session.call with
      | none => none
      | some call =>
          match session.merge.step fired cancelFirst session.links call with
          | none => none
          | some stepped =>
              some { links := stepped.links, merge := stepped.merge
                     call := stepped.outcome.getLeft?
                     ledger := session.ledger.record session.links session.merge call stepped }

def run : List MergeAction → MergeSession → Option MergeSession
  | [], session => some session
  | action :: rest, session =>
      match session.act action with
      | none => none
      | some next => run rest next

/-- No call is under way, or it waits on a link. -/
def Settled (session : MergeSession) : Prop :=
  session.call = none ∨ ∃ position posture, session.call = some (.waiting position posture)

inductive Moved (session : MergeSession) : MergeSession → Prop
  | put {links : LinkStore} : Moved session { session with links := links }
  | begun (idle : session.call = none) : Moved session { session with call := some (.visiting 0) }
  | stepped {call : MergeCall} {stepped : MergeStep} (under : session.call = some call)
      (step : session.merge.Stepped session.links call stepped) :
      Moved session
        { links := stepped.links, merge := stepped.merge, call := stepped.outcome.getLeft?
          ledger := session.ledger.record session.links session.merge call stepped }

theorem act_moved {session next : MergeSession} {action : MergeAction}
    (acted : session.act action = some next) : session.Moved next := by
  cases action with
  | put link packet =>
      cases acted
      exact .put
  | begin =>
      simp only [act] at acted
      cases under : session.call with
      | none =>
          simp only [under, Option.some.injEq] at acted
          subst acted
          exact .begun under
      | some call =>
          rw [under] at acted
          cases acted
  | step fired cancelFirst =>
      simp only [act] at acted
      cases under : session.call with
      | none =>
          rw [under] at acted
          cases acted
      | some call =>
          simp only [under] at acted
          cases step : session.merge.step fired cancelFirst session.links call with
          | none =>
              rw [step] at acted
              cases acted
          | some stepped =>
              simp only [step, Option.some.injEq] at acted
              subst acted
              exact .stepped under (Merge.step_stepped step)

theorem run_cons {action : MergeAction} {rest : List MergeAction} {session last : MergeSession}
    (ran : run (action :: rest) session = some last) :
    ∃ next, session.act action = some next ∧ run rest next = some last := by
  simp only [run] at ran
  cases acted : session.act action with
  | none =>
      rw [acted] at ran
      cases ran
  | some next =>
      rw [acted] at ran
      exact ⟨next, rfl, ran⟩

theorem run_preserves {Kept : MergeSession → Prop}
    (preserves : ∀ {session next : MergeSession} {action : MergeAction}, Kept session →
      session.act action = some next → Kept next)
    {actions : List MergeAction} {session last : MergeSession} (initial : Kept session)
    (ran : run actions session = some last) : Kept last := by
  induction actions generalizing session with
  | nil =>
      cases ran
      exact initial
  | cons action rest ih =>
      obtain ⟨next, acted, remaining⟩ := run_cons ran
      exact ih (preserves initial acted) remaining

theorem run_keeps {Kept : MergeSession → Prop}
    (keeps : ∀ {session next : MergeSession}, Kept session → session.Moved next → Kept next)
    {actions : List MergeAction} {session last : MergeSession} (initial : Kept session)
    (ran : run actions session = some last) : Kept last :=
  run_preserves (fun kept acted => keeps kept (act_moved acted)) initial ran

theorem run_append {first second : List MergeAction} {session middle : MergeSession}
    (ran : run first session = some middle) : run (first ++ second) session = run second middle := by
  induction first generalizing session with
  | nil =>
      cases ran
      rfl
  | cons action rest ih =>
      obtain ⟨next, acted, remaining⟩ := run_cons ran
      simp only [List.cons_append, run, acted]
      exact ih remaining

end MergeSession

namespace MergeLedger

variable {links : LinkStore} {link : Link} {id : LinkId} {packet : Packet} {ledger : MergeLedger}
  {merge : Merge} {position : Nat} {field : MergeField}

theorem removed_keeping (keeps : link.slot = (links.get id).slot) :
    removed links (links.set id link) id = none := by
  unfold removed
  rw [LinkStore.slot_set_keeping keeps]
  cases (links.get id).slot <;> rfl

theorem removed_emptied (slot : (links.get id).slot = some packet) :
    removed links (links.set id { links.get id with slot := none }) id = some packet := by
  unfold removed
  rw [LinkStore.slot_set, if_pos ⟨rfl, LinkStore.known_of_slot slot⟩]
  exact slot

theorem removed_iff {before after : LinkStore} :
    removed before after id = some packet ↔
      (before.get id).slot = some packet ∧ (after.get id).slot = none := by
  unfold removed
  cases (after.get id).slot with
  | none => exact ⟨fun same => ⟨same, rfl⟩, fun both => both.1⟩
  | some =>
      constructor
      · intro impossible
        cases impossible
      · intro both
        cases both.2

theorem record_waited {posture : Posture} {outcome : MergeCall ⊕ Option Packet}
    {notices : List Notice} (found : merge.fields[position]? = some field)
    (keeps : link.slot = (links.get field.link).slot)
    (bare : ∀ composite, outcome ≠ .inr (some composite)) :
    ledger.record links merge (.waiting position posture)
      { merge := merge, links := links.set field.link link, outcome := outcome
        notices := notices } = ledger := by
  unfold record
  split
  · rename_i composite same
    exact absurd same (bare composite)
  · rename_i impossible _
    cases impossible
  · rename_i impossible _
    cases impossible
  · rename_i same _
    cases same
    simp only [found, removed_keeping keeps]

theorem record_discarded {notices : List Notice} (found : merge.fields[position]? = some field)
    (slot : (links.get field.link).slot = some packet) :
    ledger.record links merge (.waiting position .looking)
      { merge := merge
        links := links.set field.link { links.get field.link with slot := none }
        outcome := .inl (.waiting position .looking), notices := notices } =
      ledger.discard field packet merge.floor := by
  simp only [record, found, removed_emptied slot]

theorem record_kept {after : Merge} {next : Nat} {notices : List Notice}
    (found : merge.fields[position]? = some field)
    (slot : (links.get field.link).slot = some packet) :
    ledger.record links merge (.waiting position .looking)
      { merge := after
        links := links.set field.link { links.get field.link with slot := none }
        outcome := .inl (.visiting next), notices := notices } =
      ledger.keep field packet merge.floor := by
  simp only [record, found, removed_emptied slot]

end MergeLedger
end Sluice
