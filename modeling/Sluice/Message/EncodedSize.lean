import Sluice.Message

set_option autoImplicit false

/-! The size of a record in its length-delimited binary encoding. A record is one entry per field; an
entry leaves out an empty name and a value without a kind. -/

namespace Sluice

/-- The bytes of a base-128 number: seven bits to a byte. -/
def varintSize (number : Nat) : Nat :=
  if number < 128 then 1 else 1 + varintSize (number / 128)

namespace EncodedSize

/-- A one-byte tag, the length, and the content itself. -/
def delimited (size : Nat) : Nat :=
  1 + varintSize size + size

def optional (size : Nat) : Nat :=
  if size = 0 then 0 else delimited size

mutual

def ofValue : Value → Nat
  | .unset => 0
  | .null => 2
  | .bool _ => 2
  | .number _ => 9
  | .text text => delimited text.utf8ByteSize
  | .list items => delimited (ofItems items)
  | .record fields => delimited (ofFields fields)

def ofItems : List Value → Nat
  | [] => 0
  | item :: rest => delimited (ofValue item) + ofItems rest

def ofFields : List (String × Value) → Nat
  | [] => 0
  | (name, value) :: rest =>
      delimited (optional name.utf8ByteSize + optional (ofValue value)) + ofFields rest

end

end EncodedSize

def Message.encodedSize (message : Message) : Nat :=
  EncodedSize.ofFields message.fields

end Sluice
