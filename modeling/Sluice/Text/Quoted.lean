import Sluice.Text.Printable

set_option autoImplicit false

/-! Text in double quotes: quotes, backslashes and line marks are escaped, and every character that
would not show as itself is written as its code point. -/

namespace Sluice.Text.Quoted

def codePoint (character : Char) : List Char :=
  ['\\', 'u', '\x7b'] ++ Nat.toDigits 16 character.toNat ++ ['\x7d']

def escape (character : Char) : List Char :=
  match character with
  | '\x00' => ['\\', '0']
  | '\t' => ['\\', 't']
  | '\r' => ['\\', 'r']
  | '\n' => ['\\', 'n']
  | '"' => ['\\', '"']
  | '\\' => ['\\', '\\']
  | other => if Printable.isPlain other then [other] else codePoint other

def encode (characters : List Char) : List Char :=
  '"' :: (characters.flatMap escape ++ ['"'])

end Quoted

def quoted (text : String) : String :=
  String.ofList (Quoted.encode text.toList)

def quotedList (texts : List String) : String :=
  "[" ++ String.intercalate ", " (texts.map quoted) ++ "]"

end Sluice.Text
