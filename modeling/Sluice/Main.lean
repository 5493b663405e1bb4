import Sluice.CommandLine

set_option autoImplicit false

/-! The program. It runs a configured pipeline until its input ends. -/

namespace Sluice.Program

def name : String :=
  "sluice"

def fileFault : IO.Error → FileFault
  | .noFileOrDirectory .. => .missing
  | .inappropriateType .. => .directory
  | error => .other (toString error)

def readText (file : String) : IO (Except FileFault String) := do
  match ← (IO.FS.readBinFile file).toBaseIO with
  | .error error => return .error (fileFault error)
  | .ok bytes =>
      match String.fromUTF8? bytes with
      | some text => return .ok text
      | none => return .error .notText

partial def awaitEnd (input : IO.FS.Stream) : IO Unit := do
  if (← input.getLine).isEmpty then return else awaitEnd input

end Sluice.Program

open Sluice in
def main (arguments : List String) : IO UInt32 := do
  let content ← match arguments with
    | [file] => Program.readText file
    | _ => pure (.error .missing)
  let outcome := CommandLine.launch (fun _ => content) arguments
  IO.eprint (outcome.errorOutput Program.name)
  match outcome with
  | .running _ =>
      IO.println "Pipeline running; close the input to stop"
      Program.awaitEnd (← IO.getStdin)
      IO.println (if outcome.stops then "Pipeline stopped" else "Pipeline left running")
  | _ => pure ()
  return UInt32.ofNat outcome.exitCode
