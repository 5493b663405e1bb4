import Sluice.Schema

set_option autoImplicit false

/-! The graph a pipeline is built from: stages, each with its remote method, and edges between them. -/

namespace Sluice

inductive MethodShape where
  | unary
  | serverStreaming
deriving DecidableEq

/-- Whether a stage works until it is told to finish, or once. -/
inductive ExecutionMode where
  | continuous
  | oneShot
deriving DecidableEq

def MethodShape.label : MethodShape → String
  | .unary => "unary"
  | .serverStreaming => "server_streaming"

def MethodShape.title : MethodShape → String
  | .unary => "Unary"
  | .serverStreaming => "ServerStreaming"

namespace ExecutionMode

def label : ExecutionMode → String
  | .continuous => "continuous"
  | .oneShot => "one_shot"

def title : ExecutionMode → String
  | .continuous => "Continuous"
  | .oneShot => "OneShot"

/-- The id of the first packet that a stage without inputs makes for itself. -/
def firstSourceId : ExecutionMode → Nat
  | .continuous => 0
  | .oneShot => 1

end ExecutionMode

structure MethodDescriptor where
  name : String
  shape : MethodShape
  input : Schema
  output : Schema
deriving DecidableEq

structure StageDescriptor where
  name : String
  host : String
  port : UInt16
  method : MethodDescriptor
  mode : ExecutionMode
deriving DecidableEq

def StageDescriptor.endpoint (stage : StageDescriptor) : String :=
  "http://" ++ stage.host ++ ":" ++ toString stage.port.toNat

/-- The binding key that stands for a message as a whole. -/
def wholeMessage : String :=
  ""

structure EdgeDescriptor where
  source : String
  target : String
  sourceField : Option String
  targetField : Option String
deriving DecidableEq

namespace EdgeDescriptor

def sourceKey (edge : EdgeDescriptor) : String :=
  edge.sourceField.getD wholeMessage

def targetKey (edge : EdgeDescriptor) : String :=
  edge.targetField.getD wholeMessage

def linkLabel (source target : String) : String :=
  source ++ "->" ++ target

end EdgeDescriptor

structure Topology where
  stages : List StageDescriptor
  edges : List EdgeDescriptor
deriving DecidableEq

def Topology.stage? (topology : Topology) (name : String) : Option StageDescriptor :=
  topology.stages.find? fun stage => stage.name = name

end Sluice
