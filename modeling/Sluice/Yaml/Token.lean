import Sluice.Yaml.Mark

set_option autoImplicit false

/-! The lexical elements of a text. Blocks get their starts and ends as elements of their own. -/

namespace Sluice.Yaml

inductive ScalarStyle where
  | plain
  | quoted
  | literal
  | folded
deriving DecidableEq

inductive Lexeme where
  | streamEnd
  | versionDirective (major minor : Nat)
  | tagDirective (handle : List Char) (expansion : List UInt8)
  | documentStart
  | documentEnd
  | blockSequenceStart
  | blockMappingStart
  | blockEnd
  | flowSequenceStart
  | flowSequenceEnd
  | flowMappingStart
  | flowMappingEnd
  | blockEntry
  | flowEntry
  | key
  | value
  | alias (name : List Char)
  | anchor (name : List Char)
  | tag (handle : List Char) (suffix : List UInt8)
  | scalar (text : List Char) (style : ScalarStyle)
deriving DecidableEq

structure Token where
  lexeme : Lexeme
  start : Mark
deriving DecidableEq

/-- Where the token ends, if it is an indicator, which is one character of one octet. -/
def Token.stop (token : Token) : Mark :=
  token.start.next 1

end Sluice.Yaml
