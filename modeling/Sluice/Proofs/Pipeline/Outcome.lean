import Mathlib.Data.List.Forall2
import Sluice.Proofs.Pipeline.Construction
import Sluice.Proofs.Pipeline.Lineage
import Sluice.Proofs.Stage.Bindings

set_option autoImplicit false

/-! What becomes of building and starting a pipeline. As long as nobody binds links of their own, the
topology and the connector decide it: which of the two fails, at which stage, and with which error. -/

namespace Sluice
namespace Topology

variable {topology : Topology} {name : String}

/-- The names under which the edges that enter a stage are bound, in their order. -/
def inputFields (topology : Topology) (name : String) : List String :=
  (topology.edges.filter fun edge => edge.target = name).map (·.targetKey)

def outputFields (topology : Topology) (name : String) : List String :=
  (topology.edges.filter fun edge => edge.source = name).map (·.sourceKey)

private theorem filter_numbered {edges : List EdgeDescriptor} (leads : EdgeDescriptor → Bool)
    (key : EdgeDescriptor → String) :
    (edges.zipIdx.filter fun entry => leads entry.1).map (fun entry => key entry.1) =
      (edges.filter leads).map key := by
  have first : edges.zipIdx.map Prod.fst = edges := List.zipIdx_map_fst 0 edges
  calc (edges.zipIdx.filter fun entry => leads entry.1).map (fun entry => key entry.1)
      = ((edges.zipIdx.filter (leads ∘ Prod.fst)).map Prod.fst).map key := by
        rw [List.map_map]
        rfl
    _ = ((edges.zipIdx.map Prod.fst).filter leads).map key := by rw [List.filter_map]
    _ = (edges.filter leads).map key := by rw [first]

theorem fields_inputs :
    (topology.bindingsOf name).inputs.map (·.field) = topology.inputFields name := by
  change ((inputsOf topology.edges.zipIdx name).map (·.field)) = _
  unfold inputsOf
  rw [List.map_map]
  exact filter_numbered (fun edge => edge.target = name) (·.targetKey)

theorem fields_outputs :
    (topology.bindingsOf name).outputs.map (·.field) = topology.outputFields name := by
  change ((outputsOf topology.edges.zipIdx name).map (·.field)) = _
  unfold outputsOf
  rw [List.map_map]
  exact filter_numbered (fun edge => edge.source = name) (·.sourceKey)

def Hinders (topology : Topology) (descriptor : StageDescriptor) : StageError → Prop :=
  StartOffence descriptor (topology.inputFields descriptor.name)
    (topology.outputFields descriptor.name)

def Admits (topology : Topology) (descriptor : StageDescriptor) : Prop :=
  Startable descriptor (topology.inputFields descriptor.name)
    (topology.outputFields descriptor.name)

end Topology

namespace Pipeline

variable {topology : Topology} {connector : Connector} {options : EngineOptions}
  {onFatal : FatalReaction} {pipeline : Pipeline} {engine : Engine} {stages : List StageId}
  {error : StageError}

private theorem materialize_error {stage : StageId} {post : Post} {held : Bindings}
    (found : engine.posts[stage]? = some post) (bound : post.stage.bindings = some held)
    (fails : post.stage.workerOf held = .error error) :
    ∃ moved, engine.materialize stage = some (moved, .error error) := by
  unfold Engine.materialize Stage.materialize
  simp only [found, bound, fails]
  exact ⟨_, rfl⟩

private theorem materialize_ok {stage : StageId} {post : Post} {held : Bindings} {worker : Worker}
    (found : engine.posts[stage]? = some post) (bound : post.stage.bindings = some held)
    (made : post.stage.workerOf held = .ok worker) :
    ∃ moved, engine.materialize stage = some (moved, .ok worker) ∧
      ∀ other, stage ≠ other → moved.posts[other]? = engine.posts[other]? := by
  unfold Engine.materialize Stage.materialize
  simp only [found, bound, made]
  exact ⟨_, rfl, fun other apart => Engine.post_withPost_other apart⟩

private theorem materializeAll_error {offends : StageId → StageError → Prop} (unique : stages.Nodup)
    (bound : ∀ stage ∈ stages, ∃ post held, engine.posts[stage]? = some post ∧
      post.stage.bindings = some held ∧
        ∀ error, post.stage.workerOf held = .error error ↔ offends stage error) :
    (materializeAll stages engine).2 = .error error ↔ FirstOffence offends stages error := by
  induction stages generalizing engine with
  | nil =>
      constructor <;>
        · intro impossible
          cases impossible
  | cons stage rest ih =>
      obtain ⟨fresh, uniqueRest⟩ := List.nodup_cons.mp unique
      obtain ⟨post, held, found, bindings, offence⟩ := bound stage List.mem_cons_self
      simp only [materializeAll]
      cases outcome : post.stage.workerOf held with
      | error known =>
          obtain ⟨moved, made⟩ := materialize_error found bindings outcome
          have only : ∀ other, offends stage other ↔ other = known := by
            intro other
            rw [← offence other, outcome, Except.error.injEq]
            exact eq_comm
          rw [FirstOffence.cons_offending only]
          simp only [made, Except.error.injEq]
          exact eq_comm
      | ok worker =>
          obtain ⟨moved, made, apart⟩ := materialize_ok found bindings outcome
          have clean : ∀ other, ¬ offends stage other := by
            intro other offends
            cases outcome.symm.trans ((offence other).mpr offends)
          rw [FirstOffence.cons_clean clean]
          simp only [made]
          apply ih uniqueRest
          intro other member
          have different : stage ≠ other := fun same => fresh (same ▸ member)
          rw [apart other different]
          exact bound other (List.mem_cons_of_mem _ member)

theorem Standalone.length (standalone : Standalone topology connector options onFatal pipeline) :
    pipeline.engine.posts.length = topology.stages.length := by
  induction standalone with
  | built made => exact (build_wired made).length
  | subscribed before ih => exact ih
  | acted before allows acts ih => exact (Engine.act_acted acts).length.trans ih

private theorem places_stages (topology : Topology) :
    List.Forall₂ (fun stage descriptor => topology.stages[stage]? = some descriptor)
      (List.range topology.stages.length) topology.stages := by
  apply List.forall₂_iff_get.mpr
  refine ⟨List.length_range, ?_⟩
  intro place _ within
  simp only [List.get_eq_getElem, List.getElem_range]
  exact List.getElem?_eq_getElem within

private theorem offence_unstarted {stage : StageId} {descriptor : StageDescriptor}
    (before : pipeline.engine.Unstarted topology) (within : stage < pipeline.engine.posts.length)
    (listed : topology.stages[stage]? = some descriptor) :
    ∃ post held, pipeline.engine.posts[stage]? = some post ∧ post.stage.bindings = some held ∧
      ∀ error, post.stage.workerOf held = .error error ↔ topology.Hinders descriptor error := by
  have found := List.getElem?_eq_getElem within
  obtain ⟨known, place, described, selects, bindings, _⟩ := before.posts stage _ found
  cases listed.symm.trans place
  rw [← described] at selects
  refine ⟨_, _, found, bindings, ?_⟩
  intro error
  rw [Stage.workerOf_error selects, Topology.fields_inputs, Topology.fields_outputs, described]
  exact Iff.rfl

private theorem run_error_iff :
    (∃ engine, pipeline.run = .error (engine, error)) ↔
      (materializeAll pipeline.engine.allStages pipeline.engine).2 = .error error := by
  unfold run
  cases ready : (materializeAll pipeline.engine.allStages pipeline.engine).2 with
  | error known => simp [ready]
  | ok done => simp [ready]

private theorem hinders_at {stage : StageId} {descriptor : StageDescriptor}
    (listed : topology.stages[stage]? = some descriptor) :
    (∃ known, topology.stages[stage]? = some known ∧ topology.Hinders known error) ↔
      topology.Hinders descriptor error := by
  constructor
  · rintro ⟨known, place, hinders⟩
    cases listed.symm.trans place
    exact hinders
  · exact fun hinders => ⟨descriptor, listed, hinders⟩

theorem Standalone.run_error (standalone : Standalone topology connector options onFatal pipeline) :
    (∃ engine, pipeline.run = .error (engine, error)) ↔
      FirstOffence topology.Hinders topology.stages error := by
  have before := standalone.unstarted
  rw [run_error_iff]
  unfold Engine.allStages
  rw [@materializeAll_error _ _ error
    (fun stage error => ∃ descriptor, topology.stages[stage]? = some descriptor ∧
      topology.Hinders descriptor error) List.nodup_range, standalone.length]
  · apply FirstOffence.of_forall₂ (places_stages topology)
    intro stage descriptor listed other
    exact hinders_at listed
  · intro stage member
    have within := List.mem_range.mp member
    have listed := List.getElem?_eq_getElem (standalone.length ▸ within)
    obtain ⟨post, held, found, bindings, offence⟩ := offence_unstarted before within listed
    exact ⟨post, held, found, bindings, fun other => (offence other).trans (hinders_at listed).symm⟩

theorem Standalone.run_ok (standalone : Standalone topology connector options onFatal pipeline) :
    (∃ running notices, pipeline.run = .ok (running, notices)) ↔
      ∀ descriptor ∈ topology.stages, topology.Admits descriptor := by
  have clean : (∀ descriptor ∈ topology.stages, topology.Admits descriptor) ↔
      ∀ error, ¬ FirstOffence topology.Hinders topology.stages error := by
    rw [FirstOffence.none_iff]
    unfold Topology.Admits Topology.Hinders
    simp only [startable_iff]
  rw [clean]
  constructor
  · rintro ⟨running, notices, started⟩ error first
    obtain ⟨engine, fails⟩ := standalone.run_error.mpr first
    cases started.symm.trans fails
  · intro none
    cases outcome : pipeline.run with
    | error failure => exact absurd (standalone.run_error.mp ⟨failure.1, outcome⟩) (none failure.2)
    | ok started => exact ⟨started.1, started.2, rfl⟩

theorem build_ok (faultless : topology.faults = [])
    (admitted : ReportBus.admits options.eventCapacity = true) :
    (∃ pipeline, build topology connector options onFatal = .ok pipeline) ↔
      ∀ descriptor ∈ topology.stages, (∃ method, connector descriptor = .ok method) ∧
        ¬ (descriptor.method.shape = .serverStreaming ∧ descriptor.mode = .oneShot) := by
  have clean : ∀ descriptor, (∀ error, ¬ BuildOffence connector descriptor error) ↔
      (∃ method, connector descriptor = .ok method) ∧
        ¬ (descriptor.method.shape = .serverStreaming ∧ descriptor.mode = .oneShot) := by
    intro descriptor
    cases connects : connector descriptor with
    | error refusal =>
        constructor
        · intro none
          exact absurd (.unconnected connects) (none _)
        · rintro ⟨⟨method, impossible⟩, _⟩
          cases impossible
    | ok method =>
        constructor
        · intro none
          refine ⟨⟨method, rfl⟩, ?_⟩
          rintro ⟨streams, once⟩
          exact none _ (.unsupported connects streams once)
        · rintro ⟨_, supported⟩ error offence
          cases offence with
          | unconnected fails => cases connects.symm.trans fails
          | unsupported _ streams once => exact supported ⟨streams, once⟩
  simp only [← clean]
  rw [← FirstOffence.none_iff]
  constructor
  · rintro ⟨pipeline, made⟩ error first
    cases made.symm.trans ((build_error faultless admitted).mpr first)
  · intro none
    cases outcome : build topology connector options onFatal with
    | error failure =>
        cases failure with
        | returned error => exact absurd ((build_error faultless admitted).mp outcome) (none error)
        | collapsed => cases admitted.symm.trans ((build_collapses faultless).mp outcome)
    | ok pipeline => exact ⟨pipeline, rfl⟩

/-- A topology with faults is refused for all of them, whatever the connector; without faults a build
returns the error of the first stage that cannot be connected or made, and a start of what was built that of
the first stage whose edges it cannot have. Beside the topology only the report buffer decides: where none of
the capacity asked for can be made, a build returns nothing at all. -/
theorem outcome_of_topology :
    (topology.faults ≠ [] → ∀ connector, build topology connector options onFatal =
      .error (.returned (.validation topology.faults))) ∧
    (topology.faults = [] →
      (build topology connector options onFatal = .error .collapsed ↔
        ReportBus.admits options.eventCapacity = false) ∧
      (ReportBus.admits options.eventCapacity = true →
        (∀ error, build topology connector options onFatal = .error (.returned error) ↔
          FirstOffence (BuildOffence connector) topology.stages error) ∧
        ((∃ pipeline, build topology connector options onFatal = .ok pipeline) ↔
          ∀ descriptor ∈ topology.stages, (∃ method, connector descriptor = .ok method) ∧
            ¬ (descriptor.method.shape = .serverStreaming ∧ descriptor.mode = .oneShot)))) ∧
    ∀ pipeline, Standalone topology connector options onFatal pipeline →
      (∀ error, (∃ engine, pipeline.run = .error (engine, error)) ↔
        FirstOffence topology.Hinders topology.stages error) ∧
      ((∃ running notices, pipeline.run = .ok (running, notices)) ↔
        ∀ descriptor ∈ topology.stages, topology.Admits descriptor) := by
  refine ⟨?_, ?_, ?_⟩
  · intro faulty connector
    unfold build
    rw [if_pos faulty]
  · intro faultless
    refine ⟨build_collapses faultless, ?_⟩
    intro admitted
    exact ⟨fun error => build_error faultless admitted, build_ok faultless admitted⟩
  · intro pipeline standalone
    exact ⟨fun error => standalone.run_error, standalone.run_ok⟩

namespace Tangle

/-- A stage that works once, although an edge enters it, before one that both edges enter alike. -/
def graph : Topology :=
  { stages := [Braid.strand "camera" [], { Braid.strand "clock" [] with mode := .oneShot },
      Braid.strand "fusion" ["a"]]
    edges :=
      [{ source := "camera", target := "clock", sourceField := none, targetField := none },
       { source := "camera", target := "fusion", sourceField := none, targetField := some "a" },
       { source := "clock", target := "fusion", sourceField := none, targetField := some "a" }] }

def loop : Topology :=
  { stages := [Braid.strand "left" []]
    edges := [{ source := "left", target := "left", sourceField := none, targetField := none }] }

def unwound : Connector := fun stage =>
  if stage.name = "clock" then .error (.unknownMethod stage.name) else .ok .standard

def boundless : EngineOptions :=
  { backoffMillis := 5000, eventCapacity := ReportBus.greatestRequest + 1 }

def failure (pipeline : Pipeline) : Option StageError :=
  match pipeline.run with
  | .error failure => some failure.2
  | .ok _ => none

theorem run_of_failure {pipeline : Pipeline} {error : StageError}
    (fails : failure pipeline = some error) : ∃ engine, pipeline.run = .error (engine, error) := by
  unfold failure at fails
  cases outcome : pipeline.run with
  | ok started =>
      rw [outcome] at fails
      cases fails
  | error known =>
      rw [outcome] at fails
      cases fails
      exact ⟨known.1, rfl⟩

end Tangle

theorem outcome_of_topology_tangle :
    ∃ pipeline, (∀ connector, build Tangle.loop connector .standard .note =
        .error (.returned (.validation [.selfLoop "left"]))) ∧
      build Tangle.graph (fun _ => .ok .standard) Tangle.boundless .note = .error .collapsed ∧
      FirstOffence (BuildOffence Tangle.unwound) Tangle.graph.stages
        (.connect (.unknownMethod "clock")) ∧
      Standalone Tangle.graph (fun _ => .ok .standard) .standard .note pipeline ∧
      FirstOffence Tangle.graph.Hinders Tangle.graph.stages (.requiresSourceInput "clock" 1) ∧
      ¬ ∀ descriptor ∈ Tangle.graph.stages, Tangle.graph.Admits descriptor := by
  have outcome : (build Tangle.graph (fun _ => .ok .standard) .standard .note).toOption.map
      Tangle.failure = some (some (.requiresSourceInput "clock" 1)) := by decide
  obtain ⟨pipeline, made, fails⟩ := Option.map_eq_some_iff.mp outcome
  have standalone := Standalone.built (ok_of_toOption made)
  obtain ⟨engine, stopped⟩ := Tangle.run_of_failure fails
  have refused := (@outcome_of_topology Tangle.loop (fun _ => .ok .standard) .standard .note).1
    (by decide)
  obtain ⟨collapses, _⟩ := (@outcome_of_topology Tangle.graph (fun _ => .ok .standard) Tangle.boundless
    .note).2.1 (by decide)
  obtain ⟨_, admitted⟩ := (@outcome_of_topology Tangle.graph Tangle.unwound .standard .note).2.1
    (by decide)
  have unconnected := ((admitted (by decide)).1 (.connect (.unknownMethod "clock"))).mp rfl
  have starts := (@outcome_of_topology Tangle.graph (fun _ => .ok .standard) .standard .note).2.2
    pipeline standalone
  refine ⟨pipeline, refused, collapses.mpr (by decide), unconnected, standalone,
    (starts.1 _).mp ⟨engine, stopped⟩, ?_⟩
  intro admits
  obtain ⟨running, notices, started⟩ := starts.2.mpr admits
  cases stopped.symm.trans started

/-- A topology without faults, all of whose stages connect and none of which streams once: by itself it is
built, yet with more reports asked for than a buffer can hold there is neither a pipeline nor an error. -/
theorem faultless_unbuilt :
    Braid.graph.faults = [] ∧
    (∀ descriptor ∈ Braid.graph.stages, (∃ method, Connector.network descriptor = .ok method) ∧
      ¬ (descriptor.method.shape = .serverStreaming ∧ descriptor.mode = .oneShot)) ∧
    (∃ pipeline, build Braid.graph .network .standard .note = .ok pipeline) ∧
    (¬ ∃ pipeline, build Braid.graph .network Tangle.boundless .note = .ok pipeline) ∧
    ∀ error, build Braid.graph .network Tangle.boundless .note ≠ .error (.returned error) := by
  have faultless : Braid.graph.faults = [] := by decide
  have collapses : build Braid.graph .network Tangle.boundless .note = .error .collapsed :=
    (build_collapses faultless).mpr (by decide)
  have outcome : (build Braid.graph .network .standard .note).toOption.isSome = true := by decide
  obtain ⟨pipeline, made⟩ := Option.isSome_iff_exists.mp outcome
  have built : ∃ pipeline, build Braid.graph .network .standard .note = .ok pipeline :=
    ⟨pipeline, ok_of_toOption made⟩
  refine ⟨faultless, (build_ok faultless (by decide)).mp built, built, ?_, ?_⟩
  · rintro ⟨pipeline, made⟩
    cases collapses.symm.trans made
  · intro error fails
    cases collapses.symm.trans fails

end Pipeline
end Sluice
