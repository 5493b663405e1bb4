import Sluice.Yaml.Grammar

set_option autoImplicit false

/-! A text that is read from front to back, and the characters that structure it. -/

namespace Sluice.Yaml

def isBreak (character : Char) : Bool :=
  character = '\n' || character = '\r' || character = '\x85' || character = '\u2028'
    || character = '\u2029'

def isBlank (character : Char) : Bool :=
  character = ' ' || character = '\t'

def isGap (character : Char) : Bool :=
  isBlank character || isBreak character

def isWord (character : Char) : Bool :=
  character.isAlphanum || character = '_' || character = '-'

def isFlowMark (character : Char) : Bool :=
  character = ',' || character = '[' || character = ']' || character = '\x7b' || character = '\x7d'

def hexDigit? (character : Char) : Option Nat :=
  if character.isDigit then some (character.toNat - '0'.toNat)
  else if 'a' ≤ character && character ≤ 'f' then some (character.toNat - 'a'.toNat + 10)
  else if 'A' ≤ character && character ≤ 'F' then some (character.toNat - 'A'.toNat + 10)
  else none

def byteOrderMark : Char :=
  '\ufeff'

def isAdmitted (character : Char) : Bool :=
  let code := character.toNat
  code = 0x09 || code = 0x0a || code = 0x0d || (0x20 ≤ code && code ≤ 0x7e) || code = 0x85
    || (0xa0 ≤ code && code ≤ 0xd7ff) || (0xe000 ≤ code && code ≤ 0xfffd)
    || (0x10000 ≤ code && code ≤ 0x10ffff)

/-- A text is read in portions of so many octets at most, and none of a portion before all of it has
been found to be admitted. -/
def portionSize : Nat :=
  16384

/-- What can be read of a text, and the offset of the character that is refused, if one is. The rest of
the text begins behind `offset` octets; its portion has room for so many more. The characters of the
portions before and of the one at hand are held in reverse. -/
def readable (offset room : Nat) (before portion : List Char) :
    List Char → List Char × Option Nat
  | [] => ((portion ++ before).reverse, none)
  | character :: rest =>
      let width := character.utf8Size
      if width ≤ room then
        if isAdmitted character then
          readable (offset + width) (room - width) before (character :: portion) rest
        else (before.reverse, some offset)
      else if isAdmitted character then
        readable (offset + width) (portionSize - width) (portion ++ before) [character] rest
      else ((portion ++ before).reverse, some offset)

structure Cursor where
  rest : List Char
  mark : Mark

namespace Cursor

def ofCharacters (characters : List Char) : Cursor :=
  { rest := characters, mark := .origin }

def atEnd (cursor : Cursor) : Bool :=
  cursor.rest.isEmpty

def next? (cursor : Cursor) : Option Char :=
  cursor.rest.head?

def ahead? (cursor : Cursor) (distance : Nat) : Option Char :=
  cursor.rest[distance]?

def sees (cursor : Cursor) (accepts : Char → Bool) : Bool :=
  cursor.next?.any accepts

def gapAhead (cursor : Cursor) (distance : Nat) : Bool :=
  (cursor.ahead? distance).all isGap

def advance (cursor : Cursor) (count : Nat) : Cursor :=
  { rest := cursor.rest.drop count, mark := cursor.mark.along (cursor.rest.take count) }

def span (accepts : Char → Bool) (cursor : Cursor) : List Char × Cursor :=
  let taken := cursor.rest.takeWhile accepts
  (taken, cursor.advance taken.length)

def skipBlanks (cursor : Cursor) : Cursor :=
  (cursor.span isBlank).2

/-- A line break as it counts in a scalar: all kinds are one line feed, but for the two separators. -/
def normalBreak (character : Char) : Char :=
  if character = '\u2028' || character = '\u2029' then character else '\n'

/-- Takes one line break, if there is one; a carriage return and the line feed after it are one. -/
def takeBreak (cursor : Cursor) : List Char × Cursor :=
  match cursor.rest with
  | [] => ([], cursor)
  | '\r' :: '\n' :: rest => (['\n'], { rest := rest, mark := cursor.mark.nextLine 2 })
  | character :: rest =>
      if isBreak character then
        ([normalBreak character], { rest := rest, mark := cursor.mark.nextLine character.utf8Size })
      else ([], cursor)

def startsWithRule (cursor : Cursor) (character : Char) : Bool :=
  cursor.mark.column = 0 && cursor.rest.take 3 = [character, character, character]
    && cursor.gapAhead 3

def atDocumentRule (cursor : Cursor) : Bool :=
  cursor.startsWithRule '-' || cursor.startsWithRule '.'

def fail {α : Type} (cursor : Cursor) (activity : Activity) (since : Mark) (problem : Problem) :
    Except GrammarFault α :=
  .error (.during activity since problem cursor.mark)

/-- After a directive or a block scalar's header only blanks and a comment may stand on the line. -/
def finishLine (activity : Activity) (since : Mark) (cursor : Cursor) :
    Except GrammarFault Cursor :=
  let bare := cursor.skipBlanks
  let past := if bare.sees (· = '#') then (bare.span fun c => !isBreak c).2 else bare
  if past.next?.all isBreak then .ok past.takeBreak.2
  else past.fail activity since .noCommentOrBreak

end Sluice.Yaml.Cursor
