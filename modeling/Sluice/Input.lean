import Sluice.Merge
import Sluice.Stage.Error

set_option autoImplicit false

/-! How a stage obtains its next packet, chosen by the number of links bound to it: none, and it makes
packets of its own; one, and it passes on what arrives; several, and it merges them by id. -/

namespace Sluice

inductive Input where
  | source (nextId : Nat) (schema : Schema)
  | passthrough (link : LinkId)
  | merge (held : Merge)

inductive InputCall where
  | making
  | taking (posture : Posture)
  | joining (call : MergeCall)

def InputCall.hasCollapsed : InputCall → Bool
  | .joining .collapsed => true
  | .making | .taking _ | .joining _ => false

/-- The call goes on, or it ends with a packet, or with nothing because its token fired. -/
structure InputStep where
  input : Input
  links : LinkStore
  outcome : InputCall ⊕ Option Packet
  notices : List Notice

namespace Input

/-- Merged links need distinct names that are not empty and that the schema declares as records. -/
def ofBindings (stage : String) (bindings : List Binding) (mode : ExecutionMode) (schema : Schema) :
    Except StageError Input :=
  match bindings with
  | [] => .ok (.source mode.firstSourceId schema)
  | [binding] => .ok (.passthrough binding.link)
  | several =>
      let fields := several.map (·.field)
      if ¬ fields.Nodup ∨ wholeMessage ∈ fields then
        .error (.malformedInputBindings stage fields)
      else
        match fields.find? fun field => !schema.hasRecord field with
        | some field => .error (.unknownRecordField stage field schema.name)
        | none => .ok (.merge (.ofBindings several))

def label : Input → String
  | .source .. => "source"
  | .passthrough _ => "passthrough"
  | .merge _ => "merge"

def call : Input → InputCall
  | .source .. => .making
  | .passthrough _ => .taking .looking
  | .merge _ => .joining (.visiting 0)

def step (fired cancelFirst : Bool) (links : LinkStore) (input : Input) (call : InputCall) :
    Option InputStep :=
  match input, call with
  -- a source counts its own calls, so it does not live to run out of ids
  | .source nextId schema, .making =>
      some { input := .source (nextId + 1) schema, links := links
             outcome := .inr (some { id := nextId, message := schema.defaultMessage })
             notices := [] }
  | .passthrough link, .taking posture =>
      match (links.get link).stepWait Link.acceptAny fired cancelFirst posture with
      | none => none
      | some waited =>
          some { input := .passthrough link, links := links.set link waited.link
                 outcome := match waited.outcome with
                   | .waiting next => .inl (.taking next)
                   | .taken packet => .inr (some packet)
                   | .cancelled => .inr none
                 notices := waited.notices }
  | .merge held, .joining position =>
      match held.step fired cancelFirst links position with
      | none => none
      | some joined =>
          some { input := .merge joined.merge, links := joined.links
                 outcome := match joined.outcome with
                   | .inl next => .inl (.joining next)
                   | .inr ended => .inr ended
                 notices := joined.notices }
  | _, _ => none

end Sluice.Input
