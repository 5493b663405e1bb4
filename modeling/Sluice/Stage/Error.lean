import Sluice.Status
import Sluice.Topology

set_option autoImplicit false

/-! Why a stage cannot be built, bound, started, or go on. -/

namespace Sluice

inductive StageError where
  | alreadyMaterialized (stage : String)
  | unsupportedShape (stage : String) (shape : MethodShape) (mode : ExecutionMode)
  | requiresSourceInput (stage : String) (inputCount : Nat)
  | malformedInputBindings (stage : String) (fields : List String)
  | malformedOutputBindings (stage : String) (fields : List String)
  | unknownRecordField (stage field schema : String)
  | remoteCall (stage : String) (status : Status)
  | dispatch (stage : String) (cause : MessageError)
deriving DecidableEq

namespace StageError

def text : StageError → String
  | .alreadyMaterialized stage =>
      "stage '" ++ stage ++ "' cannot be bound after its adapters were materialized"
  | .unsupportedShape stage shape mode =>
      "stage '" ++ stage ++ "' has no variant for " ++ shape.title ++ " methods in " ++ mode.title ++
        " mode"
  | .requiresSourceInput stage inputCount =>
      "stage '" ++ stage ++ "' must be fed by its own source, but has " ++ toString inputCount ++
        " bound input(s)"
  | .malformedInputBindings stage fields =>
      "stage '" ++ stage ++ "' has malformed input bindings " ++ Text.quotedList fields ++
        ": merged inputs need distinct, non-empty field names"
  | .malformedOutputBindings stage fields =>
      "stage '" ++ stage ++ "' has malformed output bindings " ++ Text.quotedList fields
  | .unknownRecordField stage field schema =>
      "stage '" ++ stage ++ "' routes field '" ++ field ++ "', which is not a sub-record of '" ++
        schema ++ "'"
  | .remoteCall stage status => "stage '" ++ stage ++ "' remote call failed: " ++ status.text
  | .dispatch stage cause =>
      "stage '" ++ stage ++ "' could not dispatch its output: " ++ cause.text

end Sluice.StageError
