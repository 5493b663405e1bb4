import Sluice.Yaml.Cursor

set_option autoImplicit false

/-! What stands between two words of a plain or quoted scalar. Blanks within a line are kept; line
breaks are folded, so that one is a space and each further one is itself. -/

namespace Sluice.Yaml

/-- `broken` tells that a line break was passed, also one that leaves no trace. -/
structure Gap where
  blanks : List Char
  leading : List Char
  trailing : List Char
  broken : Bool

namespace Gap

def none : Gap :=
  { blanks := [], leading := [], trailing := [], broken := false }

def escapedBreak : Gap :=
  { none with broken := true }

def folded (gap : Gap) : List Char :=
  if !gap.broken then gap.blanks
  else if gap.leading = ['\n'] then
    if gap.trailing.isEmpty then [' '] else gap.trailing
  else gap.leading ++ gap.trailing

def addBlank (gap : Gap) (character : Char) : Gap :=
  if gap.broken then gap else { gap with blanks := gap.blanks ++ [character] }

def addBreak (gap : Gap) (character : Char) : Gap :=
  if gap.broken then { gap with trailing := gap.trailing ++ [character] }
  else { gap with blanks := [], leading := [character], broken := true }

/-- Reads on to the next word. In a line that continues a scalar no tab may stand before `floor`;
the place of one that does is the error. -/
def read (floor : Nat) (mark : Mark) (gap : Gap) : List Char → Except Mark (Gap × Cursor)
  | [] => .ok (gap, { rest := [], mark := mark })
  | '\r' :: '\n' :: rest => read floor (mark.nextLine 2) (gap.addBreak '\n') rest
  | character :: rest =>
      if isBlank character then
        if gap.broken && mark.column < floor && character = '\t' then .error mark
        else read floor (mark.next 1) (gap.addBlank character) rest
      else if isBreak character then
        read floor (mark.nextLine character.utf8Size)
          (gap.addBreak (Cursor.normalBreak character)) rest
      else .ok (gap, { rest := character :: rest, mark := mark })

end Sluice.Yaml.Gap
