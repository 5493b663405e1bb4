import Sluice.Yaml.Reading

set_option autoImplicit false

/-! Values of no particular type, as any document may hold them. The keys of a mapping differ; the
order of its entries does not matter. -/

namespace Sluice.Yaml

/-- The entries of a mapping are held in a row, each key before its value. -/
inductive Value where
  | atom (atom : Atom)
  | sequence (items : List Value)
  | mapping (entries : List Value)
  | tagged (name : String) (value : Value)

namespace Value

/-- Numbers that are not a number count as the same key. -/
def sameAtom (left right : Atom) : Bool :=
  match left, right with
  | .number first, .number second => first.sameNumber second || (first.isNaN && second.isNaN)
  | _, _ => left = right

mutual

def same (left : Value) (right : Value) : Bool :=
  match left, right with
  | .atom first, .atom second => sameAtom first second
  | .sequence first, .sequence second => sameItems first second
  | .mapping first, .mapping second => first.length = second.length && within first second
  | .tagged name first, .tagged other second =>
      Tag.bareName name = Tag.bareName other && same first second
  | _, _ => false

def sameItems (left : List Value) (right : List Value) : Bool :=
  match left, right with
  | [], [] => true
  | first :: rest, second :: others => same first second && sameItems rest others
  | _, _ => false

def within (left : List Value) (right : List Value) : Bool :=
  match left with
  | key :: value :: rest => hasEntry key value right && within rest right
  | _ => true

def hasEntry (key value : Value) (row : List Value) : Bool :=
  match row with
  | otherKey :: otherValue :: rest =>
      (same key otherKey && same value otherValue) || hasEntry key value rest
  | _ => false

end

def hasKey (key : Value) : List Value → Bool
  | otherKey :: _ :: rest => same key otherKey || hasKey key rest
  | _ => false

def keyAtom? : Value → Option Atom
  | .atom found => some found
  | _ => none

/-- Adds the entries of a row to those found before them; a key without a value is cut off. -/
def readEntries (document : Document) (read : Node → Reading Value) (found : List Value) :
    List Node → Reading Value
  | [] => return .mapping found
  | [key] => do
      let _ ← read key
      Reading.fail document.cutFault
  | key :: value :: rest => do
      let keyValue ← read key
      if hasKey keyValue found then Reading.misfit (.duplicateEntry keyValue.keyAtom?)
      else
        let held ← read value
        readEntries document read (found ++ [keyValue, held]) rest

def readAtom (tag : Option Tag) (text : String) (style : ScalarStyle) : Reading Value :=
  match Scalar.meaning tag text style with
  | .error what => Reading.misfit what
  | .ok (.wideInteger value) =>
      Reading.misfit (.wrongType (.atom (.wideInteger value)) "any YAML value")
  | .ok found => return .atom found

def underTag (tag : Option Tag) (value : Value) : Value :=
  match tag.bind Tag.localName? with
  | none => value
  | some name => .tagged name value

def read (document : Document) (depth : Nat) (node : Node) : Reading Value := do
  match ← Reading.follow document node with
  | .scalar tag text style _ => return underTag tag (← readAtom tag text style)
  | .sequence tag items mark =>
      match depth with
      | 0 => Reading.fail (.tooDeep mark)
      | inner + 1 => return underTag tag (.sequence (← items.mapM (read document inner)))
  | .mapping tag entries mark =>
      match depth with
      | 0 => Reading.fail (.tooDeep mark)
      | inner + 1 => return underTag tag (← readEntries document (read document inner) [] entries)
  | _ => return .atom .nothing

def ofDocument (document : Document) : Except Fault Value :=
  Reading.run document (read document Document.depthLimit document.root)

def ofText (text : String) : Except Fault Value :=
  ofDocument (.ofText text)

end Sluice.Yaml.Value
