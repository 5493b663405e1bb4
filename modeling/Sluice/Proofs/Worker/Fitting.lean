import Sluice.Proofs.Topology.Cycle
import Sluice.Proofs.Worker.Carrying

set_option autoImplicit false

/-! Workers and the places that they were made for: what a topology says of a stage shows in its worker, and
no step changes that. -/

namespace Sluice

structure Worker.Fits (topology : Topology) (descriptor : StageDescriptor) (worker : Worker) :
    Prop where
  kind : StageKind.select descriptor.name descriptor.method.shape descriptor.mode = .ok worker.kind
  fed : worker.kind.requiresSource = true → (topology.bindingsOf descriptor.name).inputs = []
  input : worker.input.Fits (topology.bindingsOf descriptor.name).inputs
  output : Output.ofBindings descriptor.name (topology.bindingsOf descriptor.name).outputs
    descriptor.method.output = .ok worker.output

namespace Worker

variable {topology : Topology} {stage : StageId} {descriptor : StageDescriptor} {link : LinkId}
  {now : Duration} {life : Lifecycle} {links : LinkStore} {bus : ReportBus} {worker : Worker}
  {stepped : WorkerStep}

theorem Fits.unary (fits : worker.Fits topology descriptor)
    (single : worker.input = .passthrough link) : worker.kind ≠ .serverStreaming := by
  intro streaming
  have fed := fits.fed
  rw [streaming] at fed
  have input := fits.input
  rw [single, fed rfl] at input
  cases input

theorem Fits.onlyInput (found : topology.stages[stage]? = some descriptor)
    (fits : worker.Fits topology descriptor) (only : topology.OnlyInput stage link) :
    worker.input = .passthrough link := by
  obtain ⟨again, key, atStage, single⟩ := only
  cases found.symm.trans atStage
  have input := fits.input
  rw [single] at input
  generalize worker.input = held at input
  cases input with
  | passthrough => rfl
  | merge several => exact absurd several (Nat.lt_irrefl 1)

theorem Fits.relaying (found : topology.stages[stage]? = some descriptor)
    (fits : worker.Fits topology descriptor) (single : worker.input = .passthrough link) :
    topology.Relays stage link := by
  have input := fits.input
  have fed := fits.fed
  have kind := fits.kind
  rw [single] at input
  generalize bindings : (topology.bindingsOf descriptor.name).inputs = inputs at input fed
  cases input with
  | @passthrough binding =>
      refine ⟨descriptor, binding.field, found, ?_, bindings⟩
      cases shape : descriptor.method.shape with
      | unary => rfl
      | serverStreaming =>
          rw [shape] at kind
          cases mode : descriptor.mode with
          | continuous =>
              rw [mode] at kind
              rw [← Except.ok.inj kind] at fed
              cases fed rfl
          | oneShot =>
              rw [mode] at kind
              cases kind

theorem Fits.makesIds (found : topology.stages[stage]? = some descriptor)
    (fits : worker.Fits topology descriptor) (generates : topology.Generates stage) :
    worker.input.MakesIds := by
  cases input : worker.input with
  | source | merge => trivial
  | passthrough link => exact absurd generates (fits.relaying found input).not_generates

theorem Fits.step (fits : worker.Fits topology descriptor)
    (moved : worker.Stepped now life links bus stepped) :
    stepped.worker.Fits topology descriptor := by
  obtain ⟨kind, output, input⟩ := moved.keeps
  exact ⟨kind ▸ fits.kind, kind ▸ fits.fed, input _ fits.input, output ▸ fits.output⟩

end Worker
end Sluice
