import Sluice.Config.Fields
import Sluice.Topology.Validation

set_option autoImplicit false

/-! Configurations: the options of the engine and a topology, read from the text of a file. -/

namespace Sluice

structure Config where
  engine : EngineOptions
  topology : Topology
deriving DecidableEq

/-- Why the text of a file cannot be had. -/
inductive FileFault where
  | missing
  | directory
  | notText
  | other (reason : String)
deriving DecidableEq

def FileFault.text : FileFault → String
  | .missing => "No such file or directory (os error 2)"
  | .directory => "Is a directory (os error 21)"
  | .notText => "stream did not contain valid UTF-8"
  | .other reason => reason

inductive ConfigError where
  | file (fault : FileFault)
  | yaml (fault : Yaml.Fault)
  | invalid (faults : List TopologyFault)
deriving DecidableEq

namespace ConfigError

def heading : ConfigError → String
  | .file _ => "failed to read configuration: "
  | .yaml _ => "failed to parse configuration: "
  | .invalid _ => "Configuration validation failed:\n"

def text (error : ConfigError) : String :=
  error.heading ++
    match error with
    | .file fault => fault.text
    | .yaml fault => fault.text
    | .invalid faults => TopologyFault.listing faults

/-- The text without the line and column at its end. -/
def summary (error : ConfigError) : String :=
  match error with
  | .yaml fault => error.heading ++ fault.summary
  | _ => error.text

def chain (error : ConfigError) : List String :=
  match error with
  | .file fault => [error.text, fault.text]
  | .yaml fault => [error.text, fault.text]
  | .invalid _ => [error.text]

end ConfigError

namespace Config

open Config.Fields (fieldRule need)

structure RootFields where
  engine : Option EngineOptions
  stages : Option (List StageDescriptor)
  edges : Option (List EdgeDescriptor)

def decoder : Yaml.Decoder Config :=
  .record "PipelineConfig"
    [ fieldRule "engine" Fields.engine RootFields.engine
        fun held engine => { held with engine := some engine },
      fieldRule "stages" (.list Fields.stage) RootFields.stages
        fun held stages => { held with stages := some stages },
      fieldRule "edges" (.list Fields.edge) RootFields.edges
        fun held edges => { held with edges := some edges } ]
    { engine := none, stages := none, edges := none }
    fun held => do
      return {
        engine := held.engine.getD .standard
        topology := { stages := ← need "stages" held.stages, edges := held.edges.getD [] } }

def ofText (text : String) : Except Yaml.Fault Config :=
  decoder.run (.ofText text)

def load (content : Except FileFault String) : Except ConfigError Config :=
  match content with
  | .error fault => .error (.file fault)
  | .ok text =>
      match ofText text with
      | .error fault => .error (.yaml fault)
      | .ok config => .ok config

/-- Reads a configuration whose topology has no faults. -/
def loadValid (content : Except FileFault String) : Except ConfigError Config :=
  match load content with
  | .error error => .error error
  | .ok config =>
      if config.topology.faults = [] then .ok config
      else .error (.invalid config.topology.faults)

end Sluice.Config
