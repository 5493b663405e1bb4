import Sluice.MethodPath
import Sluice.Stage

set_option autoImplicit false

/-! How a stage finds its remote method. The network connector only checks addresses: nothing is dialled
before the first call. -/

namespace Sluice

inductive ConnectError where
  | invalidEndpoint (stage endpoint : String)
  | invalidMethodPath (stage method : String) (fault : MethodPathFault)
  | unknownMethod (stage : String)
deriving DecidableEq

def ConnectError.text : ConnectError → String
  | .invalidEndpoint stage endpoint =>
      "stage '" ++ stage ++ "' has an invalid endpoint '" ++ endpoint ++ "': invalid URI"
  | .invalidMethodPath stage method fault =>
      "stage '" ++ stage ++ "' has an invalid method path '" ++ method ++ "': " ++ fault.text
  | .unknownMethod stage => "no remote method registered for stage '" ++ stage ++ "'"

abbrev Connector := StageDescriptor → Except ConnectError RemoteMethod

namespace Connector

/-- The endpoint is checked first, then the method's path. -/
def network : Connector := fun stage =>
  match Uri.parse? stage.endpoint with
  | none => .error (.invalidEndpoint stage.name stage.endpoint)
  | some _ =>
      match MethodPath.ofName stage.method.name with
      | .error fault => .error (.invalidMethodPath stage.name stage.method.name fault)
      | .ok _ => .ok .standard

end Sluice.Connector
