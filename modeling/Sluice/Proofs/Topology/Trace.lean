import Mathlib.Data.List.Nodup
import Sluice.Proofs.Output.Route
import Sluice.Proofs.Pipeline.Wiring

set_option autoImplicit false

/-! The plain meaning of a chain of stages: which link leaves which stage, which stages pass ids on and
which make them, and what a message of a generating stage becomes on a link further down. -/

namespace Sluice
namespace Topology

/-- The link of an edge that leaves a stage, and what the edge takes of the stage's messages. -/
def Leaves (topology : Topology) (link : LinkId) (stage : StageId) (key : String) : Prop :=
  ∃ edge descriptor, topology.edges[link]? = some edge ∧ topology.stages[stage]? = some descriptor ∧
    descriptor.name = edge.source ∧ edge.sourceKey = key

/-- A unary stage with a single input, which works on under the ids that it receives. -/
def Relays (topology : Topology) (stage : StageId) (incoming : LinkId) : Prop :=
  ∃ descriptor key, topology.stages[stage]? = some descriptor ∧
    descriptor.method.shape = .unary ∧
    (topology.bindingsOf descriptor.name).inputs = [{ field := key, link := incoming }]

/-- A stage that makes ids: streaming, or unary with no input or with several to merge. -/
def Generates (topology : Topology) (stage : StageId) : Prop :=
  ∃ descriptor, topology.stages[stage]? = some descriptor ∧
    (descriptor.method.shape = .serverStreaming ∨
      (topology.bindingsOf descriptor.name).inputs.length ≠ 1)

/-- What a message emitted by a generating stage becomes on a link that a chain of relaying stages leads
to, where each of these stages answers by a function of its own. -/
inductive Traces (topology : Topology) (functions : StageId → Message → Message) :
    LinkId → StageId → (Message → Except MessageError Message) → Prop
  | direct {link : LinkId} {generator : StageId} {key : String}
      (leaves : topology.Leaves link generator key) (generates : topology.Generates generator) :
      Traces topology functions link generator (shareOf key)
  | through {link incoming : LinkId} {relay generator : StageId} {key : String}
      {image : Message → Except MessageError Message} (leaves : topology.Leaves link relay key)
      (relays : topology.Relays relay incoming)
      (earlier : Traces topology functions incoming generator image) :
      Traces topology functions link generator
        fun message => (image message).bind fun received => shareOf key (functions relay received)

variable {topology : Topology} {functions : StageId → Message → Message} {link other : LinkId}
  {stage place generator : StageId} {key : String} {descriptor same : StageDescriptor}

theorem stage_unique (unique : (topology.stages.map (·.name)).Nodup)
    (found : topology.stages[stage]? = some descriptor)
    (atPlace : topology.stages[place]? = some same) (named : descriptor.name = same.name) :
    stage = place := by
  have bound := (List.getElem?_eq_some_iff.mp found).1
  have equal : descriptor = same := List.inj_on_of_nodup_map unique (List.mem_of_getElem? found)
    (List.mem_of_getElem? atPlace) named
  rw [← equal] at atPlace
  exact (List.getElem?_inj bound (unique.of_map _)).mp (found.trans atPlace.symm)

theorem leaves_of_output {binding : Binding} (found : topology.stages[stage]? = some descriptor)
    (bound : binding ∈ (topology.bindingsOf descriptor.name).outputs) :
    topology.Leaves binding.link stage binding.field := by
  obtain ⟨⟨edge, number⟩, listed, made⟩ := List.mem_map.mp bound
  obtain ⟨numbered, leads⟩ := List.mem_filter.mp listed
  subst made
  exact ⟨edge, descriptor, List.mem_zipIdx_iff_getElem?.mp numbered, found,
    (of_decide_eq_true leads).symm, rfl⟩

theorem Leaves.unique {otherKey : String} (unique : (topology.stages.map (·.name)).Nodup)
    (leaves : topology.Leaves link stage key) (also : topology.Leaves link place otherKey) :
    stage = place ∧ key = otherKey := by
  obtain ⟨edge, descriptor, leads, found, named, takes⟩ := leaves
  obtain ⟨otherEdge, otherDescriptor, otherLeads, atPlace, otherNamed, otherTakes⟩ := also
  cases leads.symm.trans otherLeads
  exact ⟨stage_unique unique found atPlace (named.trans otherNamed.symm), takes.symm.trans otherTakes⟩

theorem Traces.generates {image : Message → Except MessageError Message}
    (traces : topology.Traces functions link generator image) : topology.Generates generator := by
  induction traces with
  | direct leaves generates => exact generates
  | through leaves relays earlier ih => exact ih

theorem Relays.not_generates (relays : topology.Relays stage link) : ¬ topology.Generates stage := by
  obtain ⟨descriptor, key, found, unary, single⟩ := relays
  rintro ⟨again, atStage, streaming | several⟩
  · cases found.symm.trans atStage
    rw [unary] at streaming
    cases streaming
  · cases found.symm.trans atStage
    rw [single] at several
    exact several rfl

theorem Traces.unique {image otherImage : Message → Except MessageError Message}
    (unique : (topology.stages.map (·.name)).Nodup)
    (traces : topology.Traces functions link generator image)
    (also : topology.Traces functions link place otherImage) :
    generator = place ∧ image = otherImage := by
  induction traces generalizing otherImage with
  | direct leaves generates =>
      cases also with
      | direct otherLeaves =>
          obtain ⟨sameStage, sameKey⟩ := leaves.unique unique otherLeaves
          exact ⟨sameStage, congrArg shareOf sameKey⟩
      | through otherLeaves relays =>
          obtain ⟨sameStage, _⟩ := leaves.unique unique otherLeaves
          exact absurd generates (sameStage ▸ relays.not_generates)
  | through leaves relays earlier ih =>
      cases also with
      | direct otherLeaves generates =>
          obtain ⟨sameStage, _⟩ := leaves.unique unique otherLeaves
          exact absurd generates (sameStage ▸ relays.not_generates)
      | through otherLeaves otherRelays otherEarlier =>
          obtain ⟨sameStage, sameKey⟩ := leaves.unique unique otherLeaves
          subst sameStage
          subst sameKey
          obtain ⟨descriptor, _, found, _, single⟩ := relays
          obtain ⟨again, _, atStage, _, otherSingle⟩ := otherRelays
          cases found.symm.trans atStage
          have sameLink : ([_] : List Binding) = [_] := single.symm.trans otherSingle
          cases sameLink
          obtain ⟨sameGenerator, sameImage⟩ := ih otherEarlier
          exact ⟨sameGenerator, by rw [sameImage]⟩

end Topology
end Sluice
