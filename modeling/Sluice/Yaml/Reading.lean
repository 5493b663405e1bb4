import Sluice.Yaml.Document

set_option autoImplicit false

/-! Reading a document: aliases are followed, up to a limit in all, and the scalars have meanings. -/

namespace Sluice.Yaml

/-- A reading counts the aliases that it follows, and ends at the first fault. -/
abbrev Reading :=
  StateT Nat (Except Fault)

namespace Reading

def fail {α : Type} (fault : Fault) : Reading α :=
  fun _ => .error fault

def misfit {α : Type} (what : Misfit) : Reading α :=
  fail (.misfit what none)

def locate {α : Type} (place : Place) (reading : Reading α) : Reading α :=
  fun followed =>
    match reading followed with
    | .error fault => .error (fault.locate place)
    | .ok result => .ok result

def follow (document : Document) (node : Node) : Reading Node :=
  match node with
  | .cut => fail document.cutFault
  | .alias number _ => fun followed =>
      if document.aliasLimit < followed + 1 then .error .tooManyAliases
      else
        match document.target? number with
        | none | some .cut => .error document.cutFault
        | some target => .ok (target, followed + 1)
  | other => return other

/-- The result for the whole text; a fault that comes after it, or another document, still counts. -/
def run {α : Type} (document : Document) (reading : Reading α) : Except Fault α :=
  match reading 0 with
  | .error fault => .error fault
  | .ok result =>
      match document.fault with
      | some fault => .error fault
      | none => if document.followed then .error .severalDocuments else .ok result.1

end Reading

namespace Scalar

def untagged (text : String) (style : ScalarStyle) : Atom :=
  if style = .plain then .ofPlain text else .text text

def checked (text expected : String) (atom : Option Atom) : Except Misfit Atom :=
  match atom with
  | some found => .ok found
  | none => .error (.wrongValue (.atom (.text text)) expected)

/-- What a scalar means. Four of the standard tags insist on a kind; a tag of the text's own leaves
the meaning as it is; any other tag makes it a text. -/
def meaning (tag : Option Tag) (text : String) (style : ScalarStyle) : Except Misfit Atom :=
  match tag with
  | none => .ok (untagged text style)
  | some kind =>
      if kind = .standard "bool" then
        checked text "a boolean" ((Atom.boolean? text).map .boolean)
      else if kind = .standard "int" then checked text "an integer" (Atom.integer? text.toList)
      else if kind = .standard "float" then
        checked text "a float" ((Atom.number? text).map .number)
      else if kind = .standard "null" then
        checked text "null" (if Atom.isNullWord text then some .nothing else none)
      else if kind.isLocal then .ok (untagged text style)
      else .ok (.text text)

end Sluice.Yaml.Scalar
