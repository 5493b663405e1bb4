import Sluice.Merge
import Sluice.Stage.Error

set_option autoImplicit false

/-! Where a stage's results go, chosen by the keys of the links bound to it: nowhere, the whole message
to one link or to several, or one record field of it to each link. -/

namespace Sluice

inductive Output where
  | sink
  | passthrough (link : LinkId)
  | duplicate (links : List LinkId)
  | splitter (bindings : List Binding)

abbrev Delivery := LinkId × Packet

namespace Output

/-- Split fields need distinct names that are not empty and that the schema declares as records. -/
def ofBindings (stage : String) (bindings : List Binding) (schema : Schema) :
    Except StageError Output :=
  let fields := bindings.map (·.field)
  match bindings with
  | [] => .ok .sink
  | first :: rest =>
      if fields.all (· == wholeMessage) then
        .ok (if rest.isEmpty then .passthrough first.link else .duplicate (bindings.map (·.link)))
      else if ¬ fields.Nodup ∨ wholeMessage ∈ fields then
        .error (.malformedOutputBindings stage fields)
      else
        match fields.find? fun field => !schema.hasRecord field with
        | some field => .error (.unknownRecordField stage field schema.name)
        | none => .ok (.splitter bindings)

def label : Output → String
  | .sink => "sink"
  | .passthrough _ => "passthrough"
  | .duplicate _ => "duplicate"
  | .splitter _ => "splitter"

/-- The record fields of a packet, each for its link, or the first field that is no record. -/
def splitFields (packet : Packet) : List Binding → Except MessageError (List Delivery)
  | [] => .ok []
  | binding :: rest =>
      match packet.message.record binding.field with
      | .error cause => .error cause
      | .ok record =>
          match splitFields packet rest with
          | .error cause => .error cause
          | .ok deliveries => .ok ((binding.link, packet.carry record) :: deliveries)

/-- Everything that one packet puts on links, in order; nothing at all if it cannot be split. -/
def route (output : Output) (packet : Packet) : Except MessageError (List Delivery) :=
  match output with
  | .sink => .ok []
  | .passthrough link => .ok [(link, packet)]
  | .duplicate links => .ok (links.map fun link => (link, packet))
  | .splitter bindings => splitFields packet bindings

def deliver (links : LinkStore) : List Delivery → LinkStore × List Notice
  | [] => (links, [])
  | (link, packet) :: rest =>
      let stored := links.put link packet
      let later := deliver stored.1 rest
      (later.1, stored.2.2 ++ later.2)

def accept (output : Output) (links : LinkStore) (packet : Packet) :
    Except MessageError (LinkStore × List Notice) :=
  match output.route packet with
  | .error cause => .error cause
  | .ok deliveries => .ok (deliver links deliveries)

end Sluice.Output
