import Sluice.Worker

set_option autoImplicit false

/-! A stage before it runs: links are bound to it under field names until its adapters are made from
them; from then on it can neither be bound nor be made ready again. -/

namespace Sluice

structure Bindings where
  inputs : List Binding
  outputs : List Binding
deriving DecidableEq

def Bindings.none : Bindings :=
  { inputs := [], outputs := [] }

/-- The remote method of a stage, as far as the engine judges it: which outcomes mean that the service
is unreachable for now. -/
structure RemoteMethod where
  unavailable : Status → Bool

def RemoteMethod.standard : RemoteMethod :=
  { unavailable := Status.isUnavailable }

structure Stage where
  descriptor : StageDescriptor
  kind : StageKind
  method : RemoteMethod
  lifecycle : Lifecycle
  /-- Nothing once the adapters were asked for. -/
  bindings : Option Bindings

namespace Stage

def building (descriptor : StageDescriptor) (kind : StageKind) : Notice :=
  .buildingStage descriptor.name kind.label descriptor.method.name descriptor.endpoint

def build (descriptor : StageDescriptor) (method : RemoteMethod) : Except StageError Stage :=
  match StageKind.select descriptor.name descriptor.method.shape descriptor.mode with
  | .error error => .error error
  | .ok kind =>
      .ok { descriptor := descriptor, kind := kind, method := method
            lifecycle := .fresh descriptor.name, bindings := some .none }

def name (stage : Stage) : String :=
  stage.descriptor.name

def bindInput (stage : Stage) (binding : Binding) : Except StageError Stage :=
  match stage.bindings with
  | none => .error (.alreadyMaterialized stage.name)
  | some held =>
      .ok { stage with bindings := some { held with inputs := held.inputs ++ [binding] } }

def bindOutput (stage : Stage) (binding : Binding) : Except StageError Stage :=
  match stage.bindings with
  | none => .error (.alreadyMaterialized stage.name)
  | some held =>
      .ok { stage with bindings := some { held with outputs := held.outputs ++ [binding] } }

def workerOf (stage : Stage) (held : Bindings) : Except StageError Worker :=
  if stage.kind.requiresSource ∧ held.inputs ≠ [] then
    .error (.requiresSourceInput stage.name held.inputs.length)
  else
    let method := stage.descriptor.method
    match Input.ofBindings stage.name held.inputs stage.descriptor.mode method.input with
    | .error error => .error error
    | .ok input =>
        match Output.ofBindings stage.name held.outputs method.output with
        | .error error => .error error
        | .ok output =>
            .ok (.create stage.name stage.kind stage.method.unavailable input output)

/-- Asks for the worker; the bindings are used up whether or not they make one. -/
def materialize (stage : Stage) : Stage × Except StageError Worker :=
  match stage.bindings with
  | none => (stage, .error (.alreadyMaterialized stage.name))
  | some held => ({ stage with bindings := none }, stage.workerOf held)

end Sluice.Stage
