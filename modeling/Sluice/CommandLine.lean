import Sluice.Bench.Command
import Sluice.Config

set_option autoImplicit false

/-! The program behind its command line: one argument names a configuration, which is loaded, built and
started. What fails is told with its causes, each on lines of its own. -/

namespace Sluice.CommandLine

inductive Outcome where
  | misused
  | failed (attempt : String) (causes : List String)
  /-- Torn down in the middle; what is written then is not modelled. -/
  | collapsed
  | running (rig : Bench.Rig)

def isolated (pipeline : Pipeline) : Bench.Rig :=
  .ofPipeline pipeline
    (pipeline.engine.posts.map fun post => (post.stage.name, Bench.StandIn.unreachable))

def launch (read : String → Except FileFault String) (arguments : List String) : Outcome :=
  match arguments with
  | [file] =>
      match Config.loadValid (read file) with
      | .error error => .failed ("Failed to load pipeline config '" ++ file ++ "'") error.chain
      | .ok config =>
          match Pipeline.build config.topology .network config.engine .note with
          | .error (.returned error) => .failed "Failed to build pipeline" [error.text]
          | .error .collapsed => .collapsed
          | .ok pipeline =>
              let started := (isolated pipeline).step .run
              match started.2.1 with
              | .refused error => .failed "Failed to start pipeline" [error.text]
              | _ => .running started.1
  | _ => .misused

def usage (program : String) : String :=
  "Usage: " ++ program ++ " <pipeline.yaml>\nExample: " ++ program ++
    " configs/detection-pipeline.yaml\n"

/-- Sets each line of a text behind a margin; the first may have one of its own. -/
def indented (first margin text : String) : String :=
  first ++ String.intercalate ("\n" ++ margin) (text.splitOn "\n") ++ "\n"

def causeList (causes : List String) : String :=
  match causes with
  | [only] => indented "    " "    " only
  | many =>
      String.join
        (many.zipIdx.map fun cause =>
          indented ("    " ++ toString cause.2 ++ ": ") "       " cause.1)

namespace Outcome

def exitCode : Outcome → Nat
  | .misused => 2
  | .failed _ _ => 1
  | .collapsed => 101
  | .running _ => 0

def errorOutput (program : String) : Outcome → String
  | .misused => usage program
  | .failed attempt causes => "Error: " ++ attempt ++ "\n\nCaused by:\n" ++ causeList causes
  | .collapsed | .running _ => ""

/-- Whether a pipeline was running and comes to its end once it is told to. -/
def stops : Outcome → Bool
  | .running rig => (rig.step .shutdown).2.2.joined = some true
  | _ => false

end Sluice.CommandLine.Outcome
