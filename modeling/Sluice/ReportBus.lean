set_option autoImplicit false

/-! The bus on which stages report that their service is unavailable. It keeps a bounded number of the
latest reports; a subscriber that fell behind is told once how many it missed and then reads on from
the oldest one kept. Reports without any subscriber are dropped. -/

namespace Sluice

def nextPowerOfTwo (number : Nat) : Nat :=
  if number ≤ 1 then 1 else Nat.pow 2 (Nat.log2 (number - 1) + 1)

/-- `sent` counts the reports ever kept, `cursors` holds how many each subscriber has passed. -/
structure ReportBus where
  capacity : Nat
  sent : Nat
  kept : List String
  cursors : List Nat
  closed : Bool
deriving DecidableEq

inductive Reception where
  | report (stage : String)
  | lagged (missed : Nat)
  | empty
  | closed
deriving DecidableEq

namespace ReportBus

/-- Half the range of a 64-bit count: no larger buffer can be asked for. Only this range is modelled, not the
memory that a buffer takes. -/
def greatestRequest : Nat :=
  Nat.pow 2 63 - 1

def requested (capacity : Nat) : Nat :=
  max capacity 1

def admits (capacity : Nat) : Bool :=
  1 ≤ requested capacity && requested capacity ≤ greatestRequest

def ofCapacity (capacity : Nat) : ReportBus :=
  { capacity := nextPowerOfTwo (requested capacity), sent := 0, kept := [], cursors := []
    closed := false }

def nextSubscriber (bus : ReportBus) : Nat :=
  bus.cursors.length

def subscribe (bus : ReportBus) : ReportBus :=
  { bus with cursors := bus.cursors ++ [bus.sent] }

def publish (bus : ReportBus) (stage : String) : ReportBus :=
  if bus.cursors.isEmpty then bus
  else
    let kept := bus.kept ++ [stage]
    { bus with sent := bus.sent + 1, kept := kept.drop (kept.length - bus.capacity) }

def close (bus : ReportBus) : ReportBus :=
  { bus with closed := true }

def dropped (bus : ReportBus) : Nat :=
  bus.sent - bus.kept.length

def moveTo (bus : ReportBus) (subscriber position : Nat) : ReportBus :=
  { bus with cursors := bus.cursors.set subscriber position }

def receive (bus : ReportBus) (subscriber : Nat) : ReportBus × Reception :=
  let position := bus.cursors.getD subscriber bus.sent
  if position < bus.dropped then
    (bus.moveTo subscriber bus.dropped, .lagged (bus.dropped - position))
  else
    match bus.kept[position - bus.dropped]? with
    | some stage => (bus.moveTo subscriber (position + 1), .report stage)
    | none => (bus, if bus.closed then .closed else .empty)

end Sluice.ReportBus
