import Sluice.Proofs.Worker.Numbering

set_option autoImplicit false

/-! What a run leaves on record: what each worker handed to its output and what it called its method with,
and what was put on links. -/

namespace Sluice

namespace Effect

def called? : Effect → Option Message
  | .called request => some request
  | _ => none

def stored? : Effect → Option Delivery
  | .stored link packet => some (link, packet)
  | _ => none

def isReport : Effect → Bool
  | .reported _ => true
  | _ => false

def reportsIn (effects : List Effect) : Nat :=
  effects.countP isReport

theorem reportsIn_notices (notices : List Notice) : reportsIn (ofNotices notices) = 0 := by
  apply List.countP_eq_zero.mpr
  intro effect member
  obtain ⟨notice, _, same⟩ := List.mem_map.mp member
  exact same ▸ Bool.false_ne_true

theorem reportsIn_append (first second : List Effect) :
    reportsIn (first ++ second) = reportsIn first + reportsIn second :=
  List.countP_append

theorem reportsIn_noted (effects : List Effect) (notices : List Notice) :
    reportsIn (effects ++ ofNotices notices) = reportsIn effects := by
  rw [reportsIn_append, reportsIn_notices, Nat.add_zero]

theorem called_silent {effects : List Effect} (silent : ∀ effect ∈ effects, effect.Silent) :
    effects.filterMap called? = [] := by
  apply List.filterMap_eq_nil_iff.mpr
  intro effect member
  have quiet := silent effect member
  cases effect with
  | called => cases quiet
  | noted | dispatched | stored | reported | failed => rfl

theorem stored_silent {effects : List Effect} (silent : ∀ effect ∈ effects, effect.Silent) :
    effects.filterMap stored? = [] := by
  apply List.filterMap_eq_nil_iff.mpr
  intro effect member
  have quiet := silent effect member
  cases effect with
  | stored => cases quiet
  | noted | called | dispatched | reported | failed => rfl

theorem mem_stored {effects : List Effect} {link : LinkId} {packet : Packet} :
    (link, packet) ∈ effects.filterMap stored? ↔ stored link packet ∈ effects := by
  constructor
  · intro listed
    obtain ⟨effect, member, same⟩ := List.mem_filterMap.mp listed
    cases effect with
    | stored =>
        cases same
        exact member
    | noted | called | dispatched | reported | failed => cases same
  · intro member
    exact List.mem_filterMap.mpr ⟨_, member, rfl⟩

end Effect

theorem Worker.Stepped.reportsIn {now : Duration} {life : Lifecycle} {links : LinkStore}
    {bus : ReportBus} {worker : Worker} {stepped : WorkerStep}
    (moved : worker.Stepped now life links bus stepped) :
    worker.control ≠ .reporting ∧ Effect.reportsIn stepped.effects = 0 ∧ stepped.bus = bus ∨
      worker.control = .reporting ∧ stepped =
        { worker := { worker with control := worker.afterReport }, lifecycle := life, links := links
          bus := bus.publish worker.stage, effects := [.reported worker.stage] } := by
  have other : ∀ {control : Control}, worker.control = control → control ≠ .reporting →
      worker.control ≠ .reporting := fun same different reporting => different (same ▸ reporting)
  cases moved with
  | reported control => exact Or.inr ⟨control, rfl⟩
  | turned turns =>
      refine Or.inl ⟨?_, ?_, rfl⟩
      · generalize worker.control = control at turns
        intro reporting
        subst reporting
        cases turns
      · generalize worker.control = control at turns
        cases turns <;> rfl
  | paused pauses =>
      refine Or.inl ⟨?_, Effect.reportsIn_notices _, rfl⟩
      generalize worker.control = control at pauses
      intro reporting
      subst reporting
      cases pauses
  | finished finishes =>
      refine Or.inl ⟨?_, Effect.reportsIn_notices _, rfl⟩
      generalize worker.control = control at finishes
      intro reporting
      subst reporting
      cases finishes
  | fetching control | missed control | began control =>
      refine Or.inl ⟨other control (by intro same; cases same), ?_, rfl⟩
      rw [Effect.reportsIn_append, Effect.reportsIn_notices]
      rfl
  | dispatched offers | refused offers =>
      refine Or.inl ⟨?_, rfl, rfl⟩
      cases offers with
      | answered control | read control => exact other control (by intro same; cases same)
  | @stored link packet rest stream control =>
      refine Or.inl ⟨other control (by intro same; cases same), ?_, rfl⟩
      have quiet := Effect.reportsIn_notices (links.put link packet).2.2
      exact quiet

namespace Engine

def Occurrence.of (stage : StageId) (occurrence : Occurrence) : List Effect :=
  match occurrence.action with
  | .worker acting _ => if acting = stage then occurrence.effects else []
  | _ => []

/-- What a stage handed to its output so far, in order. -/
def emissionsOf (stage : StageId) (past : List Occurrence) : List Packet :=
  past.flatMap fun occurrence => Effect.dispatchedOf (occurrence.of stage)

def callsOf (stage : StageId) (past : List Occurrence) : List Message :=
  past.flatMap fun occurrence => (occurrence.of stage).filterMap Effect.called?

def storedOf (past : List Occurrence) : List Delivery :=
  past.flatMap fun occurrence => occurrence.effects.filterMap Effect.stored?

variable {past : List Occurrence} {occurrence : Occurrence} {stage : StageId} {link : LinkId}
  {packet : Packet} {action : Action} {effects : List Effect}

theorem emissionsOf_append :
    emissionsOf stage (past ++ [occurrence]) =
      emissionsOf stage past ++ Effect.dispatchedOf (occurrence.of stage) := by
  unfold emissionsOf
  rw [List.flatMap_append, List.flatMap_singleton]

theorem callsOf_append :
    callsOf stage (past ++ [occurrence]) =
      callsOf stage past ++ (occurrence.of stage).filterMap Effect.called? := by
  unfold callsOf
  rw [List.flatMap_append, List.flatMap_singleton]

theorem storedOf_append :
    storedOf (past ++ [occurrence]) =
      storedOf past ++ occurrence.effects.filterMap Effect.stored? := by
  unfold storedOf
  rw [List.flatMap_append, List.flatMap_singleton]

theorem of_worker {cancelFirst : Bool} :
    Occurrence.of stage { action := .worker stage cancelFirst, effects := effects } = effects :=
  if_pos rfl

theorem of_other (apart : ∀ cancelFirst, action ≠ .worker stage cancelFirst) :
    Occurrence.of stage { action := action, effects := effects } = [] := by
  cases action with
  | worker acting cancelFirst =>
      apply if_neg
      intro here
      exact apart cancelFirst (here ▸ rfl)
  | monitor | join | request | answer | feed | endStream | put | take | publish | closeBus
    | stopMonitor | elapse => rfl

theorem mem_of {effect : Effect} (member : effect ∈ occurrence.of stage) :
    (∃ cancelFirst, occurrence.action = .worker stage cancelFirst) ∧ effect ∈ occurrence.effects := by
  unfold Occurrence.of at member
  split at member
  · rename_i acting cancelFirst acts
    split at member
    · rename_i here
      exact ⟨⟨cancelFirst, here ▸ acts⟩, member⟩
    · cases member
  · cases member

theorem emissionsOf_other (apart : ∀ cancelFirst, action ≠ .worker stage cancelFirst) :
    emissionsOf stage (past ++ [{ action := action, effects := effects }]) =
      emissionsOf stage past := by
  rw [emissionsOf_append, of_other apart]
  exact List.append_nil _

theorem emissionsOf_noted {cancelFirst : Bool} {notices : List Notice} :
    emissionsOf stage (past ++ [{ action := .worker stage cancelFirst
                                  effects := effects ++ Effect.ofNotices notices }]) =
      emissionsOf stage past ++ Effect.dispatchedOf effects := by
  rw [emissionsOf_append, of_worker, Effect.dispatchedOf_append, Effect.dispatchedOf_notices,
    List.append_nil]

theorem storedOf_noted {notices : List Notice} :
    storedOf (past ++ [{ action := action, effects := effects ++ Effect.ofNotices notices }]) =
      storedOf past ++ effects.filterMap Effect.stored? := by
  rw [storedOf_append, List.filterMap_append, Effect.stored_silent fun _ => Effect.silent_ofNotices,
    List.append_nil]

theorem stored_append (stored : (link, packet) ∈ storedOf (past ++ [occurrence])) :
    (link, packet) ∈ storedOf past ∨ .stored link packet ∈ occurrence.effects := by
  rw [storedOf_append] at stored
  rcases List.mem_append.mp stored with old | new
  · exact Or.inl old
  · exact Or.inr (Effect.mem_stored.mp new)

theorem called_append {request : Message} (called : request ∈ callsOf stage (past ++ [occurrence])) :
    request ∈ callsOf stage past ∨
      (∃ cancelFirst, occurrence.action = .worker stage cancelFirst) ∧
        .called request ∈ occurrence.effects := by
  rw [callsOf_append] at called
  rcases List.mem_append.mp called with old | new
  · exact Or.inl old
  · obtain ⟨effect, member, same⟩ := List.mem_filterMap.mp new
    cases effect with
    | called =>
        cases same
        exact Or.inr (mem_of member)
    | noted | stored | dispatched | reported | failed => cases same

end Engine
end Sluice
