import Sluice.Pipeline
import Sluice.Yaml.Decoder

set_option autoImplicit false

/-! How the parts of a configuration are written: which fields each has, and which may be left out. -/

namespace Sluice.Config.Fields

open Yaml (Decoder FieldRule Misfit)

def need {α : Type} (name : String) (field : Option α) : Except Misfit α :=
  match field with
  | some value => .ok value
  | none => .error (.missingField name)

/-- A field that is held as an option until all are there. -/
def fieldRule {σ α : Type} (name : String) (decoder : Decoder α) (get : σ → Option α)
    (put : σ → α → σ) : FieldRule σ :=
  { name := name
    isSet := fun held => (get held).isSome
    readInto := fun held document path node => do
      return put held (← decoder document path node) }

structure SchemaFields where
  name : Option String
  records : Option (List String)

def schema : Decoder Schema :=
  .record "MessageSchema"
    [ fieldRule "name" .text SchemaFields.name fun held name => { held with name := some name },
      fieldRule "records" (.list .text) SchemaFields.records
        fun held records => { held with records := some records } ]
    { name := none, records := none }
    fun held => do return Schema.ofNames (← need "name" held.name) (held.records.getD [])

def shape : Decoder MethodShape :=
  .variant ([.unary, .serverStreaming].map fun value => (MethodShape.label value, value))

def mode : Decoder ExecutionMode :=
  .variant ([.continuous, .oneShot].map fun value => (ExecutionMode.label value, value))

structure MethodFields where
  name : Option String
  shape : Option MethodShape
  input : Option Schema
  output : Option Schema

def method : Decoder MethodDescriptor :=
  .record "MethodDescriptor"
    [ fieldRule "name" .text MethodFields.name fun held name => { held with name := some name },
      fieldRule "shape" shape MethodFields.shape fun held shape => { held with shape := some shape },
      fieldRule "input" schema MethodFields.input fun held input => { held with input := some input },
      fieldRule "output" schema MethodFields.output
        fun held output => { held with output := some output } ]
    { name := none, shape := none, input := none, output := none }
    fun held => do
      return {
        name := ← need "name" held.name
        shape := ← need "shape" held.shape
        input := held.input.getD .unnamed
        output := held.output.getD .unnamed }

structure StageFields where
  name : Option String
  host : Option String
  port : Option Nat
  method : Option MethodDescriptor
  mode : Option ExecutionMode

def port : Decoder Nat :=
  .natural "u16" (Nat.pow 2 16)

def stage : Decoder StageDescriptor :=
  .record "StageDescriptor"
    [ fieldRule "name" .text StageFields.name fun held name => { held with name := some name },
      fieldRule "host" .text StageFields.host fun held host => { held with host := some host },
      fieldRule "port" port StageFields.port fun held port => { held with port := some port },
      fieldRule "method" method StageFields.method
        fun held method => { held with method := some method },
      fieldRule "mode" mode StageFields.mode fun held mode => { held with mode := some mode } ]
    { name := none, host := none, port := none, method := none, mode := none }
    fun held => do
      return {
        name := ← need "name" held.name
        host := ← need "host" held.host
        port := UInt16.ofNat (← need "port" held.port)
        method := ← need "method" held.method
        mode := held.mode.getD .continuous }

structure EdgeFields where
  source : Option String
  target : Option String
  sourceField : Option (Option String)
  targetField : Option (Option String)

def edge : Decoder EdgeDescriptor :=
  .record "EdgeDescriptor"
    [ fieldRule "from" .text EdgeFields.source fun held source => { held with source := some source },
      fieldRule "to" .text EdgeFields.target fun held target => { held with target := some target },
      fieldRule "source_field" (.optional .text) EdgeFields.sourceField
        fun held field => { held with sourceField := some field },
      fieldRule "target_field" (.optional .text) EdgeFields.targetField
        fun held field => { held with targetField := some field } ]
    { source := none, target := none, sourceField := none, targetField := none }
    fun held => do
      return {
        source := ← need "from" held.source
        target := ← need "to" held.target
        sourceField := held.sourceField.getD none
        targetField := held.targetField.getD none }

structure EngineFields where
  backoffMillis : Option Nat
  eventCapacity : Option Nat

def engine : Decoder EngineOptions :=
  .record "EngineOptions"
    [ fieldRule "backoff_ms" (.natural "u64" (Nat.pow 2 64)) EngineFields.backoffMillis
        fun held millis => { held with backoffMillis := some millis },
      fieldRule "event_capacity" (.natural "usize" (Nat.pow 2 64)) EngineFields.eventCapacity
        fun held capacity => { held with eventCapacity := some capacity } ]
    { backoffMillis := none, eventCapacity := none }
    fun held =>
      .ok
        { backoffMillis := held.backoffMillis.getD EngineOptions.standard.backoffMillis
          eventCapacity := held.eventCapacity.getD EngineOptions.standard.eventCapacity }

end Sluice.Config.Fields
