import Sluice.Message

set_option autoImplicit false

/-! What travels on a link: a message under the id of its unit of work. -/

namespace Sluice

structure Packet where
  id : Nat
  message : Message

namespace Packet

/-- Ids are counted in 64 bits, and an addition that leaves them is not carried out: it tears down the
task that asked for it. -/
def greatestId : Nat :=
  Nat.pow 2 64 - 1

def carry (packet : Packet) (message : Message) : Packet :=
  { packet with message := message }

def samePacket (left right : Packet) : Bool :=
  left.id == right.id && left.message.sameMessage right.message

end Sluice.Packet
