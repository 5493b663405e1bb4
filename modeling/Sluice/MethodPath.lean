import Sluice.Endpoint
import Sluice.Text.Blank

set_option autoImplicit false

/-! The request path of a remote method: `package.Service/Method`, blanks around it and slashes before
it aside, becomes `/package.Service/Method`. -/

namespace Sluice

inductive MethodPathFault where
  | malformed
  | invalidCharacter
deriving DecidableEq

def MethodPathFault.text : MethodPathFault → String
  | .malformed => "expected '<package.Service>/<Method>'"
  | .invalidCharacter => "invalid uri character"

namespace MethodPath

/-- Service and method of a name: non-empty, and the method has no further slash. -/
def parts? (name : String) : Option (List Char × List Char) :=
  let trimmed := (Text.trimBlanks name.toList).dropWhile (· == '/')
  let service := trimmed.takeWhile (· != '/')
  match trimmed.dropWhile (· != '/') with
  | [] => none
  | _ :: method =>
      if service.isEmpty || method.isEmpty || method.contains '/' then none
      else some (service, method)

/-- The text of a path and query, which ends before the first `#`. -/
def checked? (characters : List Char) : Option (List Char) :=
  (Uri.pathAndQuery? characters).map fun _ => characters.takeWhile (· != '#')

def ofName (name : String) : Except MethodPathFault (List Char) :=
  match parts? name with
  | none => .error .malformed
  | some (service, method) =>
      match checked? ('/' :: service ++ '/' :: method) with
      | none => .error .invalidCharacter
      | some path => .ok path

end Sluice.MethodPath
