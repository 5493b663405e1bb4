import Mathlib.Data.List.Nodup
import Sluice.Proofs.Pipeline.Wiring

set_option autoImplicit false

/-! Topologies without faults. Both ends of an edge name stages, and never the same one; so the link of an
edge is bound at two places, once as an output and once as an input. -/

namespace Sluice
namespace Topology

variable {topology : Topology} {edge : EdgeDescriptor} {link : LinkId} {name : String}

private theorem edges_of_faultless (faultless : topology.faults = []) :
    topology.edges.flatMap topology.danglingEnds = [] ∧ topology.selfLoops = [] := by
  unfold faults at faultless
  obtain ⟨others, loops⟩ := List.append_eq_nil_iff.mp faultless
  exact ⟨(List.append_eq_nil_iff.mp others).2, loops⟩

theorem ends_of_faultless (faultless : topology.faults = []) (listed : edge ∈ topology.edges)
    (ends : name = edge.source ∨ name = edge.target) : name ∈ topology.stages.map (·.name) := by
  have resolved : topology.danglingEnds edge = [] :=
    List.flatMap_eq_nil_iff.mp (edges_of_faultless faultless).1 edge listed
  have none := List.filter_eq_nil_iff.mp (List.map_eq_nil_iff.mp resolved)
  have member : name ∈ [edge.source, edge.target] := by
    rcases ends with source | target
    · exact source ▸ List.mem_cons_self
    · exact target ▸ List.mem_cons_of_mem _ (List.mem_singleton_self _)
  cases found : topology.stage? name with
  | none => exact absurd (Option.isNone_iff_eq_none.mpr found) (none name member)
  | some descriptor =>
      unfold stage? at found
      have passes := List.find?_some found
      exact List.mem_map.mpr ⟨descriptor, List.mem_of_find?_eq_some found, of_decide_eq_true passes⟩

theorem apart_of_faultless (faultless : topology.faults = []) (listed : edge ∈ topology.edges) :
    edge.source ≠ edge.target := by
  intro same
  have none := List.filter_eq_nil_iff.mp (List.map_eq_nil_iff.mp (edges_of_faultless faultless).2)
  exact none edge listed (decide_eq_true same)

private theorem count_numbers {edges : List EdgeDescriptor} (found : edges[link]? = some edge)
    (leads : EdgeDescriptor → Bool) :
    ((edges.zipIdx.filter fun entry => leads entry.1).map Prod.snd).count link =
      if leads edge then 1 else 0 := by
  have numbers : (edges.zipIdx.map Prod.snd).Nodup := by
    rw [List.zipIdx_map_snd]
    exact List.nodup_range'
  have distinct : ((edges.zipIdx.filter fun entry => leads entry.1).map Prod.snd).Nodup :=
    (List.filter_sublist.map Prod.snd).nodup numbers
  have member : link ∈ (edges.zipIdx.filter fun entry => leads entry.1).map Prod.snd ↔
      leads edge = true := by
    constructor
    · intro listed
      obtain ⟨⟨other, number⟩, kept, same⟩ := List.mem_map.mp listed
      obtain ⟨numbered, passes⟩ := List.mem_filter.mp kept
      subst same
      cases found.symm.trans (List.mem_zipIdx_iff_getElem?.mp numbered)
      exact passes
    · intro passes
      have numbered : (edge, link) ∈ edges.zipIdx := List.mem_zipIdx_iff_getElem?.mpr found
      exact List.mem_map.mpr ⟨(edge, link), List.mem_filter.mpr ⟨numbered, passes⟩, rfl⟩
  rw [distinct.count]
  by_cases passes : leads edge = true
  · rw [if_pos (member.mpr passes), if_pos passes]
  · rw [if_neg (fun listed => passes (member.mp listed)), if_neg passes]

/-- An edge's link is an output of the stage of this name if the edge leaves it, and then once. -/
theorem count_outputs (found : topology.edges[link]? = some edge) :
    ((topology.bindingsOf name).outputs.map (·.link)).count link =
      if edge.source = name then 1 else 0 := by
  change ((outputsOf topology.edges.zipIdx name).map (·.link)).count link = _
  unfold outputsOf
  rw [List.map_map]
  exact (count_numbers found fun edge => edge.source = name).trans (by simp only [decide_eq_true_eq])

theorem count_inputs (found : topology.edges[link]? = some edge) :
    ((topology.bindingsOf name).inputs.map (·.link)).count link =
      if edge.target = name then 1 else 0 := by
  change ((inputsOf topology.edges.zipIdx name).map (·.link)).count link = _
  unfold inputsOf
  rw [List.map_map]
  exact (count_numbers found fun edge => edge.target = name).trans (by simp only [decide_eq_true_eq])

end Topology
end Sluice
