import Mathlib.Logic.Relation
import Sluice.Proofs.Topology.Trace

set_option autoImplicit false

/-! Cycles of stages that have a single input each: what travels on such a cycle can only have come from
the cycle itself. -/

namespace Sluice
namespace Topology

def OnlyInput (topology : Topology) (stage : StageId) (incoming : LinkId) : Prop :=
  ∃ descriptor key, topology.stages[stage]? = some descriptor ∧
    (topology.bindingsOf descriptor.name).inputs = [{ field := key, link := incoming }]

/-- The second link leaves a stage whose only input is the first. -/
def Onward (topology : Topology) (first second : LinkId) : Prop :=
  ∃ stage key, topology.OnlyInput stage first ∧ topology.Leaves second stage key

/-- A link of a cycle of stages with a single input each. -/
def Circles (topology : Topology) (link : LinkId) : Prop :=
  Relation.TransGen topology.Onward link link

variable {topology : Topology} {link : LinkId} {stage : StageId} {key : String}

theorem Relays.onlyInput (relays : topology.Relays stage link) : topology.OnlyInput stage link := by
  obtain ⟨descriptor, key, found, _, single⟩ := relays
  exact ⟨descriptor, key, found, single⟩

theorem Circles.before (circles : topology.Circles link)
    (unique : (topology.stages.map (·.name)).Nodup) (leaves : topology.Leaves link stage key) :
    ∃ incoming, topology.OnlyInput stage incoming ∧ topology.Circles incoming := by
  obtain ⟨incoming, around, onward⟩ := Relation.TransGen.tail'_iff.mp circles
  obtain ⟨place, otherKey, single, also⟩ := id onward
  obtain ⟨same, _⟩ := leaves.unique unique also
  subst same
  exact ⟨incoming, single, Relation.TransGen.head' onward around⟩

theorem nodup_outputs (topology : Topology) (name : String) :
    ((topology.bindingsOf name).outputs.map (·.link)).Nodup := by
  have numbers : (topology.edges.zipIdx.map Prod.snd).Nodup := by
    rw [List.zipIdx_map_snd]
    exact List.nodup_range'
  have bound : ((topology.bindingsOf name).outputs.map (·.link)).Sublist
      (topology.edges.zipIdx.map Prod.snd) := by
    change ((outputsOf topology.edges.zipIdx name).map (·.link)).Sublist _
    unfold outputsOf
    rw [List.map_map]
    exact List.Sublist.map Prod.snd List.filter_sublist
  exact bound.nodup numbers

end Topology
end Sluice
