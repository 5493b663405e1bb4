import Sluice.Yaml.Token.Gap

set_option autoImplicit false

/-! Scalars in quotes. Between single quotes a quote is written twice; between double quotes a
backslash starts an escape. -/

namespace Sluice.Yaml.Quotation

/-- What an escape stands for: a character, or the code point in so many hexadecimal digits. -/
inductive Escape where
  | character (meant : Char)
  | codePoint (digits : Nat)

def escape? : Char → Option Escape
  | '0' => some (.character '\x00')
  | 'a' => some (.character '\x07')
  | 'b' => some (.character '\x08')
  | 't' => some (.character '\t')
  | '\t' => some (.character '\t')
  | 'n' => some (.character '\n')
  | 'v' => some (.character '\x0b')
  | 'f' => some (.character '\x0c')
  | 'r' => some (.character '\r')
  | 'e' => some (.character '\x1b')
  | ' ' => some (.character ' ')
  | '"' => some (.character '"')
  | '/' => some (.character '/')
  | '\\' => some (.character '\\')
  | 'N' => some (.character '\x85')
  | '_' => some (.character '\xa0')
  | 'L' => some (.character '\u2028')
  | 'P' => some (.character '\u2029')
  | 'x' => some (.codePoint 2)
  | 'u' => some (.codePoint 4)
  | 'U' => some (.codePoint 8)
  | _ => none

def hexNumber? (digits : List Char) : Option Nat :=
  digits.foldl
    (fun held digit => held.bind fun value => (hexDigit? digit).map fun low => 16 * value + low)
    (some 0)

def isScalarValue (code : Nat) : Bool :=
  code < 0xd800 || (0xdfff < code && code ≤ 0x10ffff)

/-- A stretch without gaps, the place after it, and the gap that an escape has begun there. -/
structure Stretch where
  text : List Char
  cursor : Cursor
  gap : Gap

/-- Up to a gap or the closing quote; the characters taken are held in reverse. -/
def singleStretch (cursor : Cursor) : Nat → List Char → Stretch
  | 0, taken => { text := taken.reverse, cursor := cursor, gap := .none }
  | fuel + 1, taken =>
      match cursor.rest with
      | '\'' :: '\'' :: _ => singleStretch (cursor.advance 2) fuel ('\'' :: taken)
      | [] | '\'' :: _ => { text := taken.reverse, cursor := cursor, gap := .none }
      | character :: _ =>
          if isGap character then { text := taken.reverse, cursor := cursor, gap := .none }
          else singleStretch (cursor.advance 1) fuel (character :: taken)

def doubleStretch (since : Mark) (cursor : Cursor) :
    Nat → List Char → Except GrammarFault Stretch
  | 0, taken => .ok { text := taken.reverse, cursor := cursor, gap := .none }
  | fuel + 1, taken =>
      match cursor.rest with
      | [] | '"' :: _ => .ok { text := taken.reverse, cursor := cursor, gap := .none }
      | '\\' :: rest =>
          if rest.head?.any isBreak then
            .ok
              { text := taken.reverse, cursor := (cursor.advance 1).takeBreak.2
                gap := .escapedBreak }
          else
            let after := cursor.advance 2
            match rest.head?.bind escape? with
            | none => cursor.fail .quotedCharacter since .unknownEscape
            | some (.character meant) => doubleStretch since after fuel (meant :: taken)
            | some (.codePoint width) =>
                let digits := after.rest.take width
                match hexNumber? digits with
                | none => after.fail .quotedCharacter since .noHexDigits
                | some code =>
                    if digits.length < width then
                      after.fail .quotedCharacter since .noHexDigits
                    else if !isScalarValue code then
                      after.fail .quotedCharacter since .badCodePoint
                    else doubleStretch since (after.advance width) fuel (Char.ofNat code :: taken)
      | character :: _ =>
          if isGap character then .ok { text := taken.reverse, cursor := cursor, gap := .none }
          else doubleStretch since (cursor.advance 1) fuel (character :: taken)

def stretches (double : Bool) (since : Mark) :
    Nat → Cursor → List Char → Except GrammarFault (List Char × Cursor)
  | 0, cursor, _ => cursor.fail .quotedScalar since .endInQuotes
  | fuel + 1, cursor, text =>
      if cursor.atDocumentRule then cursor.fail .quotedScalar since .documentMarkInQuotes
      else if cursor.atEnd then cursor.fail .quotedScalar since .endInQuotes
      else do
        let budget := cursor.rest.length + 1
        let found ←
          if double then doubleStretch since cursor budget []
          else .ok (singleStretch cursor budget [])
        let extended := text ++ found.text
        if found.cursor.sees (· = if double then '"' else '\'') then
          .ok (extended, found.cursor.advance 1)
        else
          match Gap.read 0 found.cursor.mark found.gap found.cursor.rest with
          | .error mark => .error (.during .quotedScalar since .tabInPlainScalar mark)
          | .ok (passed, beyond) =>
              stretches double since fuel beyond (extended ++ passed.folded)

def scan (double : Bool) (cursor : Cursor) : Except GrammarFault (List Char × Cursor) :=
  stretches double cursor.mark (cursor.rest.length + 1) (cursor.advance 1) []

end Sluice.Yaml.Quotation
