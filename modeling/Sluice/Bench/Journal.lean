import Sluice.Notice

set_option autoImplicit false

/-! Log records as a bench shows them: grouped by the stage or link they are about, and without what
depends on measured time. -/

namespace Sluice.Bench

/-- A record whose text is left out if it tells a measured time. -/
structure Entry where
  level : LogLevel
  message : Option String
  fields : List (String × LogField)

namespace Entry

def isMeasured (name : String) : Bool :=
  name = "duration_us" || name = "duration_ms"

def ofRecord (record : LogRecord) : Entry :=
  let kept := record.fields.filter fun field => !isMeasured field.1
  { level := record.level
    message := if kept.length = record.fields.length then some record.message else none
    fields := kept }

end Entry

def subject (record : LogRecord) : String :=
  match record.fields.lookup "stage_name", record.fields.lookup "link" with
  | some (.text stage), _ => stage
  | _, some (.text link) => link
  | _, _ => ""

def addEntry (key : String) (entry : Entry) :
    List (String × List Entry) → List (String × List Entry)
  | [] => [(key, [entry])]
  | (other, entries) :: rest =>
      if other = key then (other, entries ++ [entry]) :: rest
      else (other, entries) :: addEntry key entry rest

def journal (notices : List Notice) : List (String × List Entry) :=
  notices.foldl
    (fun groups notice => addEntry (subject notice.record) (.ofRecord notice.record) groups) []

end Sluice.Bench
