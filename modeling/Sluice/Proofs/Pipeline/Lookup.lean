import Sluice.Proofs.Pipeline.Construction
import Sluice.Proofs.Topology.Label

set_option autoImplicit false

/-! The link of an edge, looked up by the names of its stages. The lookup goes by the label that is made of
the names, so it finds the first edge with that label: it is the edge that was asked for as long as no end of
an edge has an arrow in its name, and another edge answers to its label otherwise. -/

namespace Sluice
namespace Pipeline

variable {topology : Topology} {connector : Connector} {options : EngineOptions}
  {onFatal : FatalReaction} {pipeline : Pipeline} {source target name : String} {link : LinkId}
  {edge : EdgeDescriptor}

def Leaves (pipeline : Pipeline) (name : String) (link : LinkId) : Prop :=
  ∃ post ∈ pipeline.engine.posts, post.stage.name = name ∧ ∃ held, post.stage.bindings = some held ∧
    link ∈ held.outputs.map (·.link)

def Enters (pipeline : Pipeline) (name : String) (link : LinkId) : Prop :=
  ∃ post ∈ pipeline.engine.posts, post.stage.name = name ∧ ∃ held, post.stage.bindings = some held ∧
    link ∈ held.inputs.map (·.link)

/-- The link was made for the first edge from one stage to the other. -/
def FirstBetween (topology : Topology) (source target : String) (link : LinkId) : Prop :=
  (∃ edge, topology.edges[link]? = some edge ∧ edge.source = source ∧ edge.target = target) ∧
    ∀ earlier < link, ∀ other, topology.edges[earlier]? = some other →
      ¬ (other.source = source ∧ other.target = target)

/-- A lookup gives a link if there is such an edge, and then that of the first one, which leads from the one
stage to the other. -/
structure Finds (topology : Topology) (pipeline : Pipeline) (source target : String) : Prop where
  some_iff : (pipeline.link? source target).isSome = true ↔
    ∃ edge ∈ topology.edges, edge.source = source ∧ edge.target = target
  first : ∀ link, pipeline.link? source target = some link →
    FirstBetween topology source target link ∧ pipeline.Leaves source link ∧
      pipeline.Enters target link

theorem edgeCount_built (made : build topology connector options onFatal = .ok pipeline) :
    pipeline.edgeCount = topology.edges.length := by
  unfold build at made
  split at made
  · cases made
  · split at made
    · cases made
    · split at made
      · cases made
      · dsimp only at made
        split at made
        · cases made
        · cases made
          rfl

theorem link_built (made : build topology connector options onFatal = .ok pipeline) :
    pipeline.link? source target = topology.edges.findIdx? fun edge =>
      EdgeDescriptor.linkLabel edge.source edge.target = EdgeDescriptor.linkLabel source target := by
  unfold link?
  rw [(build_wired made).links, edgeCount_built made, List.take_of_length_le (by simp),
    List.findIdx?_map]
  rfl

private theorem post_built (made : build topology connector options onFatal = .ok pipeline)
    (listed : name ∈ topology.stages.map (·.name)) :
    ∃ post ∈ pipeline.engine.posts, post.stage.name = name ∧
      post.stage.bindings = some (topology.bindingsOf name) := by
  have mirrors := (build_wired made).mirrors (faultless_of_built made)
  obtain ⟨descriptor, listed, named⟩ := List.mem_map.mp listed
  rw [← mirrors.stages] at listed
  obtain ⟨post, present, same⟩ := List.mem_map.mp listed
  have here : post.stage.name = name := (congrArg StageDescriptor.name same).trans named
  exact ⟨post, present, here, here ▸ mirrors.bindings post present⟩

theorem leaves_built (made : build topology connector options onFatal = .ok pipeline)
    (found : topology.edges[link]? = some edge) : pipeline.Leaves edge.source link := by
  have listed := Topology.ends_of_faultless (faultless_of_built made) (List.mem_of_getElem? found)
    (Or.inl rfl)
  obtain ⟨post, present, named, bound⟩ := post_built made listed
  refine ⟨post, present, named, _, bound, List.count_pos_iff.mp ?_⟩
  rw [Topology.count_outputs found, if_pos rfl]
  exact Nat.one_pos

theorem enters_built (made : build topology connector options onFatal = .ok pipeline)
    (found : topology.edges[link]? = some edge) : pipeline.Enters edge.target link := by
  have listed := Topology.ends_of_faultless (faultless_of_built made) (List.mem_of_getElem? found)
    (Or.inr rfl)
  obtain ⟨post, present, named, bound⟩ := post_built made listed
  refine ⟨post, present, named, _, bound, List.count_pos_iff.mp ?_⟩
  rw [Topology.count_inputs found, if_pos rfl]
  exact Nat.one_pos

theorem finds_of_arrowless (made : build topology connector options onFatal = .ok pipeline)
    (plain : ∀ edge ∈ topology.edges,
      EdgeDescriptor.Arrowless edge.source ∧ EdgeDescriptor.Arrowless edge.target)
    (source target : String) : Finds topology pipeline source target := by
  have label : ∀ edge ∈ topology.edges,
      EdgeDescriptor.linkLabel edge.source edge.target = EdgeDescriptor.linkLabel source target ↔
        edge.source = source ∧ edge.target = target := by
    intro edge listed
    obtain ⟨sourcePlain, targetPlain⟩ := plain edge listed
    constructor
    · intro same
      obtain ⟨sources, targets⟩ := EdgeDescriptor.linkLabel_inj sourcePlain targetPlain same.symm
      exact ⟨sources.symm, targets.symm⟩
    · rintro ⟨sources, targets⟩
      rw [sources, targets]
  constructor
  · rw [link_built made, List.findIdx?_isSome, List.any_eq_true]
    constructor
    · rintro ⟨edge, listed, same⟩
      exact ⟨edge, listed, (label edge listed).mp (of_decide_eq_true same)⟩
    · rintro ⟨edge, listed, ends⟩
      exact ⟨edge, listed, decide_eq_true ((label edge listed).mpr ends)⟩
  · intro link given
    rw [link_built made] at given
    obtain ⟨within, same, before⟩ := List.findIdx?_eq_some_iff_getElem.mp given
    have found := List.getElem?_eq_getElem within
    obtain ⟨sources, targets⟩ := (label _ (List.getElem_mem within)).mp (of_decide_eq_true same)
    refine ⟨⟨⟨_, found, sources, targets⟩, ?_⟩, sources ▸ leaves_built made found,
      targets ▸ enters_built made found⟩
    intro earlier ahead other there ends
    obtain ⟨inside, is⟩ := List.getElem?_eq_some_iff.mp there
    apply before earlier ahead
    rw [is]
    exact decide_eq_true ((label other (List.mem_of_getElem? there)).mpr ends)

theorem arrowless_of_finds (made : build topology connector options onFatal = .ok pipeline)
    (finds : ∀ source target, Finds topology pipeline source target) (listed : edge ∈ topology.edges) :
    EdgeDescriptor.Arrowless edge.source ∧ EdgeDescriptor.Arrowless edge.target := by
  by_contra pointed
  obtain ⟨otherSource, otherTarget, same, apart⟩ := EdgeDescriptor.linkLabel_ambiguous pointed
  obtain ⟨link, given⟩ := Option.isSome_iff_exists.mp
    ((finds edge.source edge.target).some_iff.mpr ⟨edge, listed, rfl, rfl⟩)
  have again : pipeline.link? otherSource otherTarget = some link := by
    rw [link_built made] at given ⊢
    rw [same]
    exact given
  obtain ⟨⟨⟨first, found, sources, _⟩, _⟩, _⟩ := (finds edge.source edge.target).first link given
  obtain ⟨⟨⟨second, there, otherSources, _⟩, _⟩, _⟩ := (finds otherSource otherTarget).first link again
  cases found.symm.trans there
  exact apart (otherSources.symm.trans sources)

/-- A lookup gives the link of the first edge whose label is made of the names asked for, and this link leads
from the edge's source to its target. That it is always the edge asked for, and that nothing is given where
there is none, holds of exactly those topologies where no edge has an end with an arrow in its name. -/
theorem lookup_by_label (made : build topology connector options onFatal = .ok pipeline) :
    (∀ source target, pipeline.link? source target = topology.edges.findIdx? fun edge =>
      EdgeDescriptor.linkLabel edge.source edge.target = EdgeDescriptor.linkLabel source target) ∧
    (∀ source target link, pipeline.link? source target = some link →
      ∃ edge, topology.edges[link]? = some edge ∧ pipeline.Leaves edge.source link ∧
        pipeline.Enters edge.target link) ∧
    ((∀ source target, Finds topology pipeline source target) ↔
      ∀ edge ∈ topology.edges,
        EdgeDescriptor.Arrowless edge.source ∧ EdgeDescriptor.Arrowless edge.target) := by
  refine ⟨fun source target => link_built made, ?_, ?_⟩
  · intro source target link given
    rw [link_built made] at given
    obtain ⟨within, _, _⟩ := List.findIdx?_eq_some_iff_getElem.mp given
    have found := List.getElem?_eq_getElem within
    exact ⟨_, found, leaves_built made found, enters_built made found⟩
  · constructor
    · intro finds edge listed
      exact arrowless_of_finds made finds listed
    · exact finds_of_arrowless made

theorem lookup_by_label_braid :
    ∃ pipeline, build Braid.graph (fun _ => .ok .standard) .standard .note = .ok pipeline ∧
      pipeline.link? "left" "right" = some 0 ∧ pipeline.link? "right" "left" = some 1 ∧
      ∀ source target, Finds Braid.graph pipeline source target := by
  have outcome : (build Braid.graph (fun _ => .ok .standard) .standard .note).toOption.isSome = true := by
    decide
  obtain ⟨pipeline, made⟩ := Option.isSome_iff_exists.mp outcome
  have known := ok_of_toOption made
  obtain ⟨labels, _, finds⟩ := lookup_by_label known
  refine ⟨pipeline, known, ?_, ?_, finds.mpr (by decide)⟩
  · rw [labels]
    decide
  · rw [labels]
    decide

namespace Detour

def graph : Topology :=
  { stages := [Braid.strand "camera" [], Braid.strand "left->filter" []]
    edges :=
      [{ source := "camera", target := "left->filter", sourceField := none, targetField := none }] }

end Detour

/-- No stage is called `camera->left` or `filter`, and yet there is a link from the one to the other. -/
theorem lookup_finds_other_edge :
    ∃ pipeline, build Detour.graph (fun _ => .ok .standard) .standard .note = .ok pipeline ∧
      pipeline.link? "camera->left" "filter" = some 0 ∧
      ¬ ∃ edge ∈ Detour.graph.edges, edge.source = "camera->left" ∧ edge.target = "filter" := by
  have outcome : (build Detour.graph (fun _ => .ok .standard) .standard .note).toOption.map
      (fun pipeline => pipeline.link? "camera->left" "filter") = some (some 0) := by decide
  obtain ⟨pipeline, made, given⟩ := Option.map_eq_some_iff.mp outcome
  exact ⟨pipeline, ok_of_toOption made, given, by decide⟩

end Pipeline
end Sluice
