import Sluice.Connector

set_option autoImplicit false

/-! Stand-ins for remote services on a bench: they leave calls open, answer from a script, give requests
back, or count. -/

namespace Sluice.Bench

inductive Reply where
  | message (given : Message)
  | status (given : Status)
  | items (ready : List (Except Status Message)) (complete : Bool)

inductive Conduct where
  | manual
  | script (replies : List Reply)
  | echo
  | addOne (limit : Option Binary64)
  /-- Every call fails because the service cannot be reached. -/
  | unreachable
  | missing

/-- The codes that mean an unreachable service, if they are not the usual one. -/
structure StandIn where
  conduct : Conduct
  unavailableCodes : Option (List StatusCode)

namespace Reply

def forUnary : Reply → Worker.Answer
  | .message given => .response given
  | .status given => .failure given
  | .items _ _ =>
      .failure { code := .unimplemented, message := "stream reply to a unary call" }

def forStreaming : Reply → Worker.Answer
  | .message given => .stream { ready := [.ok given], complete := true }
  | .status given => .failure given
  | .items ready complete => .stream { ready := ready, complete := complete }

def forKind (reply : Reply) : StageKind → Worker.Answer
  | .serverStreaming => reply.forStreaming
  | .unary | .oneShotUnary => reply.forUnary

end Reply

namespace StandIn

def manual : StandIn :=
  { conduct := .manual, unavailableCodes := none }

def unreachable : StandIn :=
  { conduct := .unreachable, unavailableCodes := none }

def method (standIn : StandIn) : RemoteMethod :=
  match standIn.unavailableCodes with
  | none => .standard
  | some codes => { unavailable := fun status => codes.contains status.code }

def increment (limit : Option Binary64) (request : Message) : Reply :=
  let number := Float.ofBits ((request.number? "value").getD .zero).bits
  let reached := match limit with
    | none => false
    | some bound => Float.ofBits bound.bits ≤ number
  if reached then .status { code := .outOfRange, message := "limit reached" }
  else .message (Message.empty.withNumber "value" { bits := (number + 1.0).toBits })

def onCall (standIn : StandIn) (request : Message) : StandIn × Option Reply :=
  match standIn.conduct with
  | .manual | .missing | .script [] => (standIn, none)
  | .script (reply :: rest) => ({ standIn with conduct := .script rest }, some reply)
  | .echo => (standIn, some (.message request))
  | .addOne limit => (standIn, some (increment limit request))
  | .unreachable =>
      (standIn, some (.status { code := .unavailable, message := "error trying to connect" }))

def connector (standIns : List (String × StandIn)) : Connector := fun stage =>
  match standIns.lookup stage.name with
  | none => .ok manual.method
  | some standIn =>
      match standIn.conduct with
      | .missing => .error (.unknownMethod stage.name)
      | _ => .ok standIn.method

end Sluice.Bench.StandIn
