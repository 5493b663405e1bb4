set_option autoImplicit false

/-! Places in a text: how many octets stand before one, and its line and column, all from zero. A
column is counted in characters. -/

namespace Sluice.Yaml

structure Mark where
  index : Nat
  line : Nat
  column : Nat
deriving DecidableEq

namespace Mark

def origin : Mark :=
  { index := 0, line := 0, column := 0 }

def next (mark : Mark) (width : Nat) : Mark :=
  { mark with index := mark.index + width, column := mark.column + 1 }

def along (mark : Mark) (characters : List Char) : Mark :=
  characters.foldl (fun place character => place.next character.utf8Size) mark

def nextLine (mark : Mark) (width : Nat) : Mark :=
  { index := mark.index + width, line := mark.line + 1, column := 0 }

/-- Where a text that ends here is taken to end: at the start of a line. -/
def endOfText (mark : Mark) : Mark :=
  if mark.column = 0 then mark else { mark with line := mark.line + 1, column := 0 }

def isOrigin (mark : Mark) : Bool :=
  mark.line = 0 && mark.column = 0

def sameSpot (left right : Mark) : Bool :=
  left.line = right.line && left.column = right.column

/-- Readers count lines and columns from one. -/
def text (mark : Mark) : String :=
  "line " ++ toString (mark.line + 1) ++ " column " ++ toString (mark.column + 1)

/-- The place as a remark behind a message; the very start of a text goes without saying. -/
def remark (mark : Mark) : String :=
  if mark.isOrigin then "" else " at " ++ mark.text

end Sluice.Yaml.Mark
