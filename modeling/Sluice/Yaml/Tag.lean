set_option autoImplicit false

/-! Tags of nodes. Any octet may be escaped in a tag, so a tag is a row of octets, and what they spell
need not be a text. -/

namespace Sluice.Yaml

structure Tag where
  octets : List UInt8
deriving DecidableEq

namespace Tag

def spell (characters : List Char) : List UInt8 :=
  characters.flatMap String.utf8EncodeChar

def text? (octets : List UInt8) : Option String :=
  String.fromUTF8? { data := octets.toArray }

def standard (kind : String) : Tag :=
  { octets := spell ("tag:yaml.org,2002:" ++ kind).toList }

/-- Tags of the text's own start with an exclamation mark. -/
def isLocal (tag : Tag) : Bool :=
  tag.octets.head? = some 0x21

/-- The name of such a tag, if it is a text: what follows the mark, or the mark if that is all. -/
def localName? (tag : Tag) : Option String :=
  match tag.octets with
  | [0x21] => some "!"
  | 0x21 :: name => text? name
  | _ => none

def bareName (name : String) : List Char :=
  match name.toList with
  | '!' :: first :: rest => first :: rest
  | characters => characters

end Sluice.Yaml.Tag
