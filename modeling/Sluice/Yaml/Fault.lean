import Sluice.Text.Quoted
import Sluice.Yaml.Atom

set_option autoImplicit false

/-! Why a document cannot be read, or does not fit what is read from it. -/

namespace Sluice.Yaml

inductive Found where
  | atom (value : Atom)
  | sequence
  | mapping
deriving DecidableEq

def Found.text : Found → String
  | .atom .nothing => "unit value"
  | .atom (.boolean value) => "boolean `" ++ (if value then "true" else "false") ++ "`"
  | .atom (.integer value) => "integer `" ++ toString value ++ "`"
  | .atom (.wideInteger value) =>
      "integer `" ++ toString value ++ "` as " ++ (if value < 0 then "i128" else "u128")
  | .atom (.number value) => "floating point `" ++ value.text ++ "`"
  | .atom (.text value) => "string " ++ Text.quoted value
  | .sequence => "sequence"
  | .mapping => "map"

inductive Misfit where
  | wrongType (found : Found) (expected : String)
  | wrongValue (found : Found) (expected : String)
  | missingField (name : String)
  | duplicateField (name : String)
  | unknownVariant (found : String) (known : List String)
  | duplicateEntry (key : Option Atom)
deriving DecidableEq

def alternatives (names : List String) : String :=
  let ticked := names.map fun name => "`" ++ name ++ "`"
  match ticked with
  | [] => "there are no variants"
  | [only] => "expected " ++ only
  | [first, second] => "expected " ++ first ++ " or " ++ second
  | many => "expected one of " ++ String.intercalate ", " many

def keyRemark : Option Atom → String
  | some .nothing => "with null key"
  | some (.boolean value) => "with key `" ++ (if value then "true" else "false") ++ "`"
  | some (.integer value) => "with key " ++ toString value
  | some (.number value) => "with key " ++ value.text
  | some (.text value) => "with key " ++ Text.quoted value
  | _ => "in YAML map"

def Misfit.text : Misfit → String
  | .wrongType found expected => "invalid type: " ++ found.text ++ ", expected " ++ expected
  | .wrongValue found expected => "invalid value: " ++ found.text ++ ", expected " ++ expected
  | .missingField name => "missing field `" ++ name ++ "`"
  | .duplicateField name => "duplicate field `" ++ name ++ "`"
  | .unknownVariant found known => "unknown variant `" ++ found ++ "`, " ++ alternatives known
  | .duplicateEntry key => "duplicate entry " ++ keyRemark key

/-- The way from the root of a document to a node. A key that is no scalar has no name. -/
inductive Path where
  | root
  | item (parent : Path) (index : Nat)
  | field (parent : Path) (key : String)
  | unnamed (parent : Path)
deriving DecidableEq

namespace Path

mutual

def text : Path → String
  | .root => "."
  | .item parent index => parent.text ++ "[" ++ toString index ++ "]"
  | .field parent key => parent.lead ++ key
  | .unnamed parent => parent.lead ++ "?"

def lead : Path → String
  | .root => ""
  | path => path.text ++ "."

end

end Path

structure Place where
  path : Path
  mark : Mark
deriving DecidableEq

inductive Fault where
  | grammar (fault : GrammarFault)
  | unknownAnchor (mark : Mark)
  | severalDocuments
  | endOfText
  | tooDeep (mark : Mark)
  | tooManyAliases
  | misfit (what : Misfit) (place : Option Place)
deriving DecidableEq

namespace Fault

def locate (place : Place) : Fault → Fault
  | .misfit what none => .misfit what (some place)
  | fault => fault

def mark? : Fault → Option Mark
  | .unknownAnchor mark => some mark
  | .tooDeep mark => some mark
  | .misfit _ place => place.map (·.mark)
  | _ => none

/-- The fault without its line and column, which a fault of grammar keeps. -/
def summary : Fault → String
  | .grammar fault => fault.text
  | .unknownAnchor _ => "unknown anchor"
  | .severalDocuments =>
      "deserializing from YAML containing more than one document is not supported"
  | .endOfText => "EOF while parsing a value"
  | .tooDeep _ => "recursion limit exceeded"
  | .tooManyAliases => "repetition limit exceeded"
  | .misfit what none => what.text
  | .misfit what (some place) =>
      if place.path = .root then what.text else place.path.text ++ ": " ++ what.text

def text (fault : Fault) : String :=
  fault.summary ++ (fault.mark?.map Mark.remark).getD ""

end Sluice.Yaml.Fault
