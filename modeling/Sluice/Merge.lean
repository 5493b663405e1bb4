import Sluice.Link.Store

set_option autoImplicit false

/-! The join of several links by packet id. A merge keeps a floor, the lowest id it will emit next, and
the last packet consumed for each field. A call visits the fields in order of their names: a cached
packet at or above the floor is used again, otherwise the field's link is waited on and lower packets
are discarded; a packet above the floor raises it and the visit starts over. When every field stands
at the floor, one composite leaves under the merge's own next id, unless a counter cannot be moved past
it: then the call collapses. -/

namespace Sluice

structure Binding where
  field : String
  link : LinkId
deriving DecidableEq

namespace Binding

def insertByName (binding : Binding) : List Binding → List Binding
  | [] => [binding]
  | other :: rest =>
      if other.field < binding.field then other :: insertByName binding rest
      else binding :: other :: rest

def sortByName : List Binding → List Binding
  | [] => []
  | binding :: rest => binding.insertByName (sortByName rest)

end Binding

structure MergeField where
  name : String
  link : LinkId
  cached : Option Packet

structure Merge where
  fields : List MergeField
  floor : Nat
  nextId : Nat

/-- Where a call stands: about to visit a field, waiting on that field's link, or torn down because a
counter would have overflowed. -/
inductive MergeCall where
  | visiting (position : Nat)
  | waiting (position : Nat) (posture : Posture)
  | collapsed

structure MergeStep where
  merge : Merge
  links : LinkStore
  outcome : MergeCall ⊕ Option Packet
  notices : List Notice

namespace Merge

def ofBindings (bindings : List Binding) : Merge :=
  { fields := (Binding.sortByName bindings).map fun binding =>
      { name := binding.field, link := binding.link, cached := none }
    floor := 0
    nextId := 0 }

def composite (merge : Merge) : Message :=
  merge.fields.foldl
    (fun message field =>
      match field.cached with
      | some packet => message.withRecord field.name packet.message
      | none => message)
    Message.empty

def cache (merge : Merge) (position : Nat) (packet : Packet) : Merge :=
  { merge with
    fields := merge.fields.modify position fun field => { field with cached := some packet } }

/-- After a field has shown its id: start over from a raised floor, or go on to the next field. -/
def advance (merge : Merge) (position id : Nat) : Merge × MergeCall :=
  if merge.floor < id then ({ merge with floor := id }, .visiting 0)
  else (merge, .visiting (position + 1))

def emit (merge : Merge) : Merge × Packet :=
  ({ merge with floor := merge.floor + 1, nextId := merge.nextId + 1 },
    { id := merge.nextId, message := merge.composite })

/-- A counter has no room for another composite. -/
def isExhausted (merge : Merge) : Bool :=
  Packet.greatestId ≤ merge.nextId || Packet.greatestId ≤ merge.floor

/-- One step of a call, `none` while it is blocked. The call ends with a packet, or with nothing once
its token has fired; the merge keeps what was consumed either way. A call that has collapsed takes no
further step and does not end. -/
def step (fired cancelFirst : Bool) (links : LinkStore) (merge : Merge) (call : MergeCall) :
    Option MergeStep :=
  match call with
  | .visiting position =>
      match merge.fields[position]? with
      | none =>
          if merge.isExhausted then
            some { merge := merge, links := links, outcome := .inl .collapsed, notices := [] }
          else
            let emitted := merge.emit
            some { merge := emitted.1, links := links, outcome := .inr (some emitted.2), notices := [] }
      | some field =>
          match field.cached with
          | some packet =>
              if merge.floor ≤ packet.id then
                let next := merge.advance position packet.id
                some { merge := next.1, links := links, outcome := .inl next.2, notices := [] }
              else
                some { merge := merge, links := links
                       outcome := .inl (.waiting position .looking), notices := [] }
          | none =>
              some { merge := merge, links := links
                     outcome := .inl (.waiting position .looking), notices := [] }
  | .waiting position posture =>
      match merge.fields[position]? with
      | none => none
      | some field =>
          match (links.get field.link).stepWait (Link.acceptFrom merge.floor) fired cancelFirst
              posture with
          | none => none
          | some waited =>
              let stored := links.set field.link waited.link
              match waited.outcome with
              | .waiting next =>
                  some { merge := merge, links := stored
                         outcome := .inl (.waiting position next), notices := waited.notices }
              | .cancelled =>
                  some { merge := merge, links := stored, outcome := .inr none
                         notices := waited.notices }
              | .taken packet =>
                  let next := (merge.cache position packet).advance position packet.id
                  some { merge := next.1, links := stored, outcome := .inl next.2
                         notices := waited.notices }
  | .collapsed => none

end Sluice.Merge
