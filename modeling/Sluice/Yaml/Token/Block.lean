import Sluice.Yaml.Token.Gap

set_option autoImplicit false

/-! Block scalars: a header, and the lines below it that are indented. Literal ones keep their line
breaks, folded ones join lines; the header says what becomes of the breaks at the end. -/

namespace Sluice.Yaml.Block

/-- Which of the line breaks at the end are kept: none, one, or all. -/
inductive Chomping where
  | strip
  | clip
  | keep
deriving DecidableEq

structure Header where
  chomping : Chomping
  /-- The depth that the header states, over the depth of the block around. -/
  stated : Option Nat

def chomping? : Char → Option Chomping
  | '+' => some .keep
  | '-' => some .strip
  | _ => none

/-- A digit that states the indentation may stand before or after the sign for the end. -/
def readHeader (since : Mark) (cursor : Cursor) : Except GrammarFault (Header × Cursor) :=
  let digitAt (place : Cursor) : Except GrammarFault (Option Nat) :=
    match place.next? with
    | none => .ok none
    | some digit =>
        if !digit.isDigit then .ok none
        else if digit = '0' then place.fail .blockScalar since .zeroIndentation
        else .ok (some (digit.toNat - '0'.toNat))
  match cursor.next?.bind chomping? with
  | some chomping => do
      let after := cursor.advance 1
      match ← digitAt after with
      | none => return ({ chomping := chomping, stated := none }, after)
      | some digit => return ({ chomping := chomping, stated := some digit }, after.advance 1)
  | none => do
      match ← digitAt cursor with
      | none => return ({ chomping := .clip, stated := none }, cursor)
      | some digit =>
          let after := cursor.advance 1
          match after.next?.bind chomping? with
          | none => return ({ chomping := .clip, stated := some digit }, after)
          | some chomping =>
              return ({ chomping := chomping, stated := some digit }, after.advance 1)

structure Inset where
  widest : Nat
  breaks : List Char
  cursor : Cursor

/-- Reads them; while the depth is not known, any indentation is taken. -/
def readInset (depth : Option Nat) (since mark : Mark) (widest : Nat) (breaks : List Char) :
    List Char → Except GrammarFault Inset
  | [] =>
      .ok
        { widest := max widest mark.column, breaks := breaks
          cursor := { rest := [], mark := mark } }
  | '\r' :: '\n' :: rest =>
      readInset depth since (mark.nextLine 2) (max widest mark.column) (breaks ++ ['\n']) rest
  | character :: rest =>
      let shallow := depth.all (mark.column < ·)
      if shallow && character = ' ' then
        readInset depth since (mark.next 1) widest breaks rest
      else if shallow && character = '\t' then
        .error (.during .blockScalar since .tabInIndentation mark)
      else if isBreak character then
        readInset depth since (mark.nextLine character.utf8Size) (max widest mark.column)
          (breaks ++ [Cursor.normalBreak character]) rest
      else
        .ok
          { widest := max widest mark.column, breaks := breaks
            cursor := { rest := character :: rest, mark := mark } }

def joint (literal : Bool) (leading breaks : List Char) (blankBefore blankAfter : Bool) :
    List Char :=
  if !literal && leading = ['\n'] && !blankBefore && !blankAfter then
    if breaks.isEmpty then [' '] else breaks
  else leading ++ breaks

def ending (chomping : Chomping) (leading breaks : List Char) : List Char :=
  match chomping with
  | .strip => []
  | .clip => leading
  | .keep => leading ++ breaks

def lines (literal : Bool) (chomping : Chomping) (depth : Nat) (since : Mark) :
    Nat → Inset → List Char → Bool → List Char → Except GrammarFault (List Char × Cursor)
  | 0, inset, leading, _, text => .ok (text ++ ending chomping leading inset.breaks, inset.cursor)
  | fuel + 1, inset, leading, blankBefore, text =>
      let cursor := inset.cursor
      if cursor.mark.column = depth && !cursor.atEnd then do
        let blank := cursor.sees isBlank
        let line := cursor.span fun c => !isBreak c
        let past := line.2.takeBreak
        let below ← readInset (some depth) since past.2.mark 0 [] past.2.rest
        lines literal chomping depth since fuel below past.1 blank
          (text ++ joint literal leading inset.breaks blankBefore blank ++ line.1)
      else .ok (text ++ ending chomping leading inset.breaks, cursor)

/-- Reads a block scalar whose indicator is next; `floor` is the least column of its lines. -/
def scan (literal : Bool) (floor : Nat) (cursor : Cursor) :
    Except GrammarFault (List Char × Cursor) := do
  let since := cursor.mark
  let (header, after) ← readHeader since (cursor.advance 1)
  let below ← after.finishLine .blockScalar since
  let stated := header.stated.map fun digit => floor - 1 + digit
  let inset ← readInset stated since below.mark 0 [] below.rest
  let depth := stated.getD (max (max inset.widest floor) 1)
  lines literal header.chomping depth since (cursor.rest.length + 1) inset [] false []

end Sluice.Yaml.Block
