import Sluice.Yaml.Reading

set_option autoImplicit false

/-! Reading a node as a value of a known type. What does not fit is told with the path of the node. -/

namespace Sluice.Yaml

def Decoder (α : Type) :=
  Document → Path → Node → Reading α

/-- A field of a record under construction: its name, whether it is there, and how to read it in. -/
structure FieldRule (σ : Type) where
  name : String
  isSet : σ → Bool
  readInto : σ → Decoder σ

namespace Decoder

variable {α σ : Type}

def placed (path : Path) (mark : Mark) (reading : Reading α) : Reading α :=
  reading.locate { path := path, mark := mark }

def misplacedScalar (tag : Option Tag) (text : String) (style : ScalarStyle)
    (expected : String) : Misfit :=
  match Scalar.meaning tag text style with
  | .error what => what
  | .ok found => .wrongType (.atom found) expected

def refuse (document : Document) (path : Path) (node : Node) (expected : String) : Reading α :=
  match node with
  | .scalar tag text style mark =>
      placed path mark (Reading.misfit (misplacedScalar tag text style expected))
  | .sequence _ _ mark => placed path mark (Reading.misfit (.wrongType .sequence expected))
  | .mapping _ _ mark => placed path mark (Reading.misfit (.wrongType .mapping expected))
  | .void _ => Reading.fail .endOfText
  | _ => Reading.fail document.cutFault

def textAs (expected : String) : Decoder String := fun document path node => do
  match ← Reading.follow document node with
  | .scalar _ text _ _ => return text
  | other => refuse document path other expected

def text : Decoder String :=
  textAs "a string"

/-- Plain scalars are read as numbers under any tag, literal ones under the tag for integers. -/
def mayBeInteger (tag : Option Tag) (style : ScalarStyle) : Bool :=
  style = .plain || (style = .literal && tag = some (.standard "int"))

/-- A whole number below a bound. Only what a word of 64 bits cannot hold is of another type. -/
def natural (expected : String) (bound : Nat) : Decoder Nat := fun document path node => do
  let target ← Reading.follow document node
  match target with
  | .scalar tag text style mark =>
      match Atom.unsigned? text.toList with
      | some value =>
          if !mayBeInteger tag style || Nat.pow 2 64 ≤ value then refuse document path target expected
          else if value < bound then return value
          else
            placed path mark (Reading.misfit (.wrongValue (.atom (.integer value)) expected))
      | none => refuse document path target expected
  | other => refuse document path other expected

/-- Whether a scalar stands for nothing. The tag for nothing insists on one of its words. -/
def isAbsent (tag : Option Tag) (text : String) (style : ScalarStyle) : Except Misfit Bool :=
  if style ≠ .plain then .ok false
  else
    match tag with
    | none => .ok (text.isEmpty || Atom.isNullWord text)
    | some kind =>
        if kind ≠ .standard "null" then .ok false
        else if Atom.isNullWord text then .ok true
        else .error (.wrongValue (.atom (.text text)) "null")

def optional (decoder : Decoder α) : Decoder (Option α) := fun document path node => do
  let target ← Reading.follow document node
  match target with
  | .scalar tag text style _ =>
      match isAbsent tag text style with
      | .error what => Reading.misfit what
      | .ok true => return none
      | .ok false => return some (← decoder document path target)
  | .void _ => return none
  | _ => return some (← decoder document path target)

/-- An empty plain scalar counts as an empty collection. -/
def isEmptyPlain (text : String) (style : ScalarStyle) : Bool :=
  text.isEmpty && style = .plain

def items (decoder : Decoder α) (document : Document) (path : Path) :
    Nat → List Node → Reading (List α)
  | _, [] => return []
  | index, node :: rest => do
      let first ← decoder document (.item path index) node
      return first :: (← items decoder document path (index + 1) rest)

def list (decoder : Decoder α) : Decoder (List α) := fun document path node => do
  let target ← Reading.follow document node
  match target with
  | .sequence _ nodes mark => placed path mark (items decoder document path 0 nodes)
  | .void _ => return []
  | .scalar _ text style _ =>
      if isEmptyPlain text style then return [] else refuse document path target "a sequence"
  | _ => refuse document path target "a sequence"

/-- Under a key that is no scalar itself, an alias for instance, a value has no name in its path. -/
def keyPath (path : Path) : Node → Path
  | .scalar _ text _ _ => .field path text
  | _ => .unnamed path

/-- Passes over a node. Aliases in it are not followed, but it must be there in full. -/
def ignore (document : Document) (node : Node) : Reading Unit :=
  if node.isWhole then return () else Reading.fail document.cutFault

def entries (rules : List (FieldRule σ)) (document : Document) (path : Path) (record : σ) :
    List Node → Reading σ
  | [] => return record
  | [key] => do
      let _ ← textAs "field identifier" document path key
      Reading.fail document.cutFault
  | key :: value :: rest => do
      let name ← textAs "field identifier" document path key
      match rules.find? fun rule => rule.name = name with
      | none =>
          ignore document value
          entries rules document path record rest
      | some rule =>
          if rule.isSet record then Reading.misfit (.duplicateField name)
          else
            let next ← rule.readInto record document (keyPath path key) value
            entries rules document path next rest

def record (title : String) (rules : List (FieldRule σ)) (start : σ)
    (finish : σ → Except Misfit α) : Decoder α := fun document path node => do
  let target ← Reading.follow document node
  let complete (held : σ) : Reading α :=
    match finish held with
    | .error what => Reading.misfit what
    | .ok result => return result
  match target with
  | .mapping _ nodes mark =>
      placed path mark (do complete (← entries rules document path start nodes))
  | .void mark => placed path mark (complete start)
  | .scalar _ text style mark =>
      if isEmptyPlain text style then placed path mark (complete start)
      else refuse document path target ("struct " ++ title)
  | _ => refuse document path target ("struct " ++ title)

def variantNamed (known : List (String × α)) (name : String) : Reading α :=
  match known.lookup name with
  | some value => return value
  | none => Reading.misfit (.unknownVariant name (known.map (·.1)))

/-- One of several names, as a text, or as a tag of the text's own on nothing. The place of a name that
is none of them is that of the text; under a tag it is left open. -/
def variantAt (known : List (String × α)) (document : Document) (path : Path) (target : Node) :
    Reading α :=
  let underTag (name : String) : Reading α := do
    let value ← variantNamed known name
    match target with
    | .scalar _ text style mark =>
        if style = .plain && (text.isEmpty || Atom.isNullWord text) then return value
        else placed path mark (Reading.misfit (.wrongValue (.atom (.text text)) "null"))
    | other => refuse document path other "unit"
  match target with
  | .scalar tag text _ mark =>
      match tag.bind Tag.localName? with
      | some name => underTag name
      | none => placed path mark (variantNamed known text)
  | .sequence tag _ _ | .mapping tag _ _ =>
      match tag.bind Tag.localName? with
      | some name => underTag name
      | none => refuse document path target "a YAML tag starting with '!'"
  | other => refuse document path other ""

def variant (known : List (String × α)) : Decoder α := fun document path node => do
  let target ← Reading.follow document node
  match node with
  | .alias _ mark => placed path mark (variantAt known document path target)
  | _ => variantAt known document path target

/-- Reads the first document of a text, which has to be its only one. -/
def run (decoder : Decoder α) (document : Document) : Except Fault α :=
  Reading.run document (decoder document .root document.root)

end Sluice.Yaml.Decoder
