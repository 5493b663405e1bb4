import Sluice.Message.EncodedSize
import Sluice.Packet
import Sluice.Schema

set_option autoImplicit false

/-! A packet on a bench that is read and rewritten step by step. -/

namespace Sluice.Bench

inductive EditCommand where
  | number (field : String)
  | record (field : String)
  | enter (field : String)
  | withNumber (field : String) (number : Binary64)
  | withRecord (field : String) (record : Message)
  | defaultFor (schema : Schema)
  | sameMessage (other : Message)
  | samePacket (other : Packet)
  | names
  | inspect

inductive EditResponse where
  | truth (truth : Bool)
  | number (number : Option Binary64)
  | message (content : Message)
  | names (names : List String)
  | packet (packet : Packet)
  | refused (error : MessageError)

def edit (packet : Packet) (command : EditCommand) : Packet × EditResponse :=
  let message := packet.message
  match command with
  | .number field => (packet, .number (message.number? field))
  | .record field =>
      match message.record field with
      | .ok record => (packet, .message record)
      | .error error => (packet, .refused error)
  | .enter field =>
      match message.record field with
      | .ok record => (packet.carry record, .truth true)
      | .error error => (packet, .refused error)
  | .withNumber field number => (packet.carry (message.withNumber field number), .truth true)
  | .withRecord field record => (packet.carry (message.withRecord field record), .truth true)
  | .defaultFor schema => (packet.carry schema.defaultMessage, .truth true)
  | .sameMessage other => (packet, .truth (message.sameMessage other))
  | .samePacket other => (packet, .truth (packet.samePacket other))
  | .names => (packet, .names message.names)
  | .inspect => (packet, .packet packet)

end Sluice.Bench
