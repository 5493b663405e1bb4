import Sluice.Message

set_option autoImplicit false

/-! Message types: a name, and which fields hold records of their own. -/

namespace Sluice

/-- The declared record fields are kept in increasing order without repetition. -/
structure Schema where
  name : String
  records : List String
deriving DecidableEq

namespace Schema

def insertName (name : String) : List String → List String
  | [] => [name]
  | other :: rest =>
      if name < other then name :: other :: rest
      else if name = other then other :: rest
      else other :: insertName name rest

def unnamed : Schema :=
  { name := "", records := [] }

def ofNames (name : String) (records : List String) : Schema :=
  { name := name, records := records.foldl (fun held record => insertName record held) [] }

def hasRecord (schema : Schema) (field : String) : Bool :=
  schema.records.contains field

/-- A fresh message of the type leaves every field unset. -/
def defaultMessage (_ : Schema) : Message :=
  Message.empty

end Sluice.Schema
