import Sluice.Packet
import Sluice.Notice

set_option autoImplicit false

/-! A hand-off between one producer and one consumer that holds at most one packet: a put never waits
and displaces what was not taken. The consumer's wait is broken into the steps between which other
tasks may run, and a bell carries the wake-ups from puts to it. -/

namespace Sluice

inductive Listener where
  | absent
  | parked
  | woken
deriving DecidableEq

/-- A bell keeps at most one ring for a listener yet to come. -/
structure Bell where
  permit : Bool
  listener : Listener
deriving DecidableEq

namespace Bell

def silent : Bell :=
  { permit := false, listener := .absent }

/-- Wakes the parked listener, or keeps the ring when nobody is parked. -/
def ring (bell : Bell) : Bell :=
  if bell.listener = .parked then { bell with listener := .woken }
  else { bell with permit := true }

def park (bell : Bell) : Bell :=
  { bell with listener := .parked }

def spendPermit (bell : Bell) : Bell :=
  { bell with permit := false }

def leave (bell : Bell) : Bell :=
  { bell with listener := .absent }

/-- The listener gives up; a wake-up that it has not used is kept for the next one. -/
def abandon (bell : Bell) : Bell :=
  { permit := bell.permit || bell.listener = .woken, listener := .absent }

end Bell

structure Link where
  label : String
  slot : Option Packet
  bell : Bell

inductive Posture where
  | looking
  | turning
  | parked
deriving DecidableEq

inductive WaitOutcome where
  | waiting (posture : Posture)
  | taken (packet : Packet)
  | cancelled

structure WaitStep where
  link : Link
  outcome : WaitOutcome
  notices : List Notice

namespace Link

def labelled (label : String) : Link :=
  { label := label, slot := none, bell := .silent }

def isOccupied (link : Link) : Bool :=
  link.slot.isSome

def discarding (link : Link) (packet : Packet) : Notice :=
  .staleDiscarded link.label packet.id

/-- Stores a packet and rings; the displaced packet, if any, is handed back and noted. -/
def put (link : Link) (packet : Packet) : Link × Option Packet × List Notice :=
  ({ link with slot := some packet, bell := link.bell.ring }, link.slot,
    link.slot.toList.map link.discarding)

def takeNow (link : Link) : Link × Option Packet :=
  ({ link with slot := none }, link.slot)

/-- One step of a wait for a packet that `accept` approves, `none` while it is blocked. A packet in
the slot comes before a fired token; between a fired token and a wake-up, `cancelFirst` decides. -/
def stepWait (accept : Packet → Bool) (fired cancelFirst : Bool) (posture : Posture) (link : Link) :
    Option WaitStep :=
  match posture with
  | .looking =>
      match link.slot with
      | some packet =>
          let emptied := { link with slot := none }
          if accept packet then some { link := emptied, outcome := .taken packet, notices := [] }
          else
            some { link := emptied, outcome := .waiting .looking
                   notices := [link.discarding packet] }
      | none => some { link := link, outcome := .waiting .turning, notices := [] }
  | .turning =>
      if fired && (cancelFirst || !link.bell.permit) then
        some { link := link, outcome := .cancelled, notices := [] }
      else if link.bell.permit then
        some { link := { link with bell := link.bell.spendPermit }
               outcome := .waiting .looking, notices := [] }
      else
        some { link := { link with bell := link.bell.park }
               outcome := .waiting .parked, notices := [] }
  | .parked =>
      let woken : Bool := link.bell.listener = .woken
      if fired && (cancelFirst || !woken) then
        some { link := { link with bell := link.bell.abandon }, outcome := .cancelled, notices := [] }
      else if woken then
        some { link := { link with bell := link.bell.leave }
               outcome := .waiting .looking, notices := [] }
      else none

def acceptAny (_ : Packet) : Bool :=
  true

def acceptFrom (floor : Nat) (packet : Packet) : Bool :=
  floor ≤ packet.id

def inspect (link : Link) : String :=
  "Link \x7b label: " ++ Text.quoted link.label ++ ", occupied: " ++
    (if link.isOccupied then "true" else "false") ++ " \x7d"

end Sluice.Link
