import Sluice.Yaml.Cursor
import Sluice.Yaml.Tag
import Sluice.Yaml.Token

set_option autoImplicit false

/-! Anchors, aliases, tags and directives. A tag is a handle, which a directive expands, and a suffix,
in which octets may be escaped. -/

namespace Sluice.Yaml.Label

def endsAnchor (character : Char) : Bool :=
  isGap character || "?:,]\x7d%@`".toList.contains character

def scanAnchor (activity : Activity) (cursor : Cursor) : Except GrammarFault (List Char × Cursor) :=
  let found := (cursor.advance 1).span isWord
  if found.1.isEmpty || !found.2.next?.all endsAnchor then
    found.2.fail activity cursor.mark .noAnchorName
  else .ok found

def isAddress (bracketed : Bool) (character : Char) : Bool :=
  isWord character || ";/?:@&=+$.%!~*'()".toList.contains character
    || (bracketed && (character = ',' || character = '[' || character = ']'))

def hexOctet? : List Char → Option UInt8
  | '%' :: high :: low :: _ =>
      (hexDigit? high).bind fun upper =>
        (hexDigit? low).map fun lower => UInt8.ofNat (16 * upper + lower)
  | _ => none

def octetsAfter? (leading : UInt8) : Option Nat :=
  if leading < 0x80 then some 0
  else if 0xc0 ≤ leading && leading < 0xe0 then some 1
  else if 0xe0 ≤ leading && leading < 0xf0 then some 2
  else if 0xf0 ≤ leading && leading < 0xf8 then some 3
  else none

def isTrailing (octet : UInt8) : Bool :=
  0x80 ≤ octet && octet < 0xc0

def trailingOctets (activity : Activity) (since : Mark) :
    Nat → Cursor → Except GrammarFault (List UInt8 × Cursor)
  | 0, cursor => .ok ([], cursor)
  | more + 1, cursor =>
      match hexOctet? cursor.rest with
      | none => cursor.fail activity since .noEscapedOctet
      | some octet =>
          if isTrailing octet then do
            let (later, after) ← trailingOctets activity since more (cursor.advance 3)
            return (octet :: later, after)
          else cursor.fail activity since .badTrailingOctet

/-- The octets of the character that is escaped here. They need not spell a character that exists. -/
def escapedOctets (activity : Activity) (since : Mark) (cursor : Cursor) :
    Except GrammarFault (List UInt8 × Cursor) :=
  match hexOctet? cursor.rest with
  | none => cursor.fail activity since .noEscapedOctet
  | some leading =>
      match octetsAfter? leading with
      | none => cursor.fail activity since .badLeadingOctet
      | some more => do
          let (later, after) ← trailingOctets activity since more (cursor.advance 3)
          return (leading :: later, after)

def addressOctets (activity : Activity) (since : Mark) (bracketed : Bool) :
    Nat → Cursor → List UInt8 → Except GrammarFault (List UInt8 × Cursor)
  | 0, cursor, taken => .ok (taken.reverse, cursor)
  | fuel + 1, cursor, taken =>
      match cursor.next? with
      | none => .ok (taken.reverse, cursor)
      | some '%' => do
          let (octets, after) ← escapedOctets activity since cursor
          addressOctets activity since bracketed fuel after (octets.reverse ++ taken)
      | some character =>
          if isAddress bracketed character then
            addressOctets activity since bracketed fuel (cursor.advance 1)
              ((Tag.spell [character]).reverse ++ taken)
          else .ok (taken.reverse, cursor)

/-- An address that goes on from `head`, which may be all of it. A null octet ends it, though what
stands behind is read. -/
def scanAddress (activity : Activity) (since : Mark) (bracketed : Bool) (head : List Char)
    (cursor : Cursor) : Except GrammarFault (List UInt8 × Cursor) := do
  let (octets, after) ← addressOctets activity since bracketed (cursor.rest.length + 1) cursor []
  if head.isEmpty && octets.isEmpty then after.fail activity since .noTagAddress
  else return (Tag.spell (head.drop 1) ++ octets.takeWhile (· ≠ 0), after)

def scanHandle (cursor : Cursor) (activity : Activity) (since : Mark) :
    Except GrammarFault (List Char × Cursor) :=
  if !cursor.sees (· = '!') then cursor.fail activity since .noExclamation
  else
    let found := (cursor.advance 1).span isWord
    if found.2.sees (· = '!') then .ok ('!' :: found.1 ++ ['!'], found.2.advance 1)
    else .ok ('!' :: found.1, found.2)

def isNamedHandle (handle : List Char) : Bool :=
  2 ≤ handle.length && handle.getLast? = some '!'

def scanTag (inFlow : Bool) (cursor : Cursor) : Except GrammarFault (Lexeme × Cursor) := do
  let since := cursor.mark
  let (lexeme, after) ←
    if cursor.ahead? 1 = some '<' then do
      let (address, after) ← scanAddress .tagAddress since true [] (cursor.advance 2)
      if after.sees (· = '>') then Except.ok (Lexeme.tag [] address, after.advance 1)
      else after.fail .tag since .noClosingBracket
    else do
      let (handle, after) ← scanHandle cursor .tag since
      if isNamedHandle handle then
        let (suffix, beyond) ← scanAddress .tagAddress since false [] after
        Except.ok (Lexeme.tag handle suffix, beyond)
      else
        let (suffix, beyond) ← scanAddress .tagAddress since false handle after
        if suffix.isEmpty then Except.ok (Lexeme.tag [] (Tag.spell ['!']), beyond)
        else Except.ok (Lexeme.tag ['!'] suffix, beyond)
  if after.next?.all isGap || (inFlow && after.sees (· = ',')) then return (lexeme, after)
  else after.fail .tag since .noBlankOrBreak

def versionNumber (since : Mark) (cursor : Cursor) : Except GrammarFault (Nat × Cursor) :=
  let found := cursor.span Char.isDigit
  if found.1.isEmpty then cursor.fail .versionDirective since .noVersionNumber
  else if 9 < found.1.length then
    (cursor.advance 9).fail .versionDirective since .longVersionNumber
  else .ok (found.1.foldl (fun value digit => 10 * value + (digit.toNat - '0'.toNat)) 0, found.2)

def scanVersion (since : Mark) (cursor : Cursor) : Except GrammarFault (Lexeme × Cursor) := do
  let (major, after) ← versionNumber since cursor.skipBlanks
  if !after.sees (· = '.') then after.fail .versionDirective since .noVersionPoint
  else
    let (minor, beyond) ← versionNumber since (after.advance 1)
    return (.versionDirective major minor, beyond)

def scanExpansion (since : Mark) (cursor : Cursor) : Except GrammarFault (Lexeme × Cursor) := do
  let (handle, after) ← scanHandle cursor.skipBlanks .tagDirectiveHandle since
  if handle.getLast? ≠ some '!' then after.fail .tagDirectiveEnd since .noExclamation
  else if !after.sees isBlank then after.fail .tagDirective since .noBlank
  else
    let (address, beyond) ←
      scanAddress .tagDirectiveAddress since true [] after.skipBlanks
    if beyond.next?.all isGap then return (.tagDirective handle address, beyond)
    else beyond.fail .tagDirective since .noBlankOrBreak

def scanDirective (cursor : Cursor) : Except GrammarFault (Lexeme × Cursor) := do
  let since := cursor.mark
  let (name, after) := (cursor.advance 1).span isWord
  if name.isEmpty then after.fail .directive since .noDirectiveName
  else if !after.next?.all isGap then after.fail .directive since .unexpectedInDirectiveName
  else
    let (lexeme, beyond) ←
      if name = "YAML".toList then scanVersion since after
      else if name = "TAG".toList then scanExpansion since after
      else after.fail .directive since .unknownDirective
    return (lexeme, ← beyond.finishLine .directive since)

end Sluice.Yaml.Label
