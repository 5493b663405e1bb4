import Sluice.Proofs.Pipeline.Start
import Sluice.Proofs.Topology.Faultless

set_option autoImplicit false

/-! The construction of a pipeline. Where a topology has no faults, both ends of each edge are found and
all stages still take bindings, so that only connecting and building a stage can fail; and each link joins
two different stages, as an output of the one and as an input of the other. -/

namespace Sluice

/-- The offence of the first item that has one. -/
inductive FirstOffence {α ε : Type} (offends : α → ε → Prop) : List α → ε → Prop
  | here {item : α} {rest : List α} {error : ε} (offence : offends item error) :
      FirstOffence offends (item :: rest) error
  | later {item : α} {rest : List α} {error : ε} (clean : ∀ other, ¬ offends item other)
      (first : FirstOffence offends rest error) : FirstOffence offends (item :: rest) error

namespace FirstOffence

variable {α β ε : Type} {offends : α → ε → Prop} {items : List α} {item : α} {error : ε}

theorem cons_clean (clean : ∀ other, ¬ offends item other) :
    FirstOffence offends (item :: items) error ↔ FirstOffence offends items error := by
  constructor
  · intro first
    cases first with
    | here offence => exact absurd offence (clean error)
    | later _ first => exact first
  · exact .later clean

theorem cons_offending {known : ε} (unique : ∀ other, offends item other ↔ other = known) :
    FirstOffence offends (item :: items) error ↔ error = known := by
  constructor
  · intro first
    cases first with
    | here offence => exact (unique error).mp offence
    | later clean => exact absurd ((unique known).mpr rfl) (clean known)
  · intro same
    exact .here ((unique error).mpr same)

theorem offends_some (first : FirstOffence offends items error) :
    ∃ item ∈ items, offends item error := by
  induction first with
  | here offence => exact ⟨_, List.mem_cons_self, offence⟩
  | later _ _ ih =>
      obtain ⟨item, member, offence⟩ := ih
      exact ⟨item, List.mem_cons_of_mem _ member, offence⟩

theorem none_iff : (∀ error, ¬ FirstOffence offends items error) ↔
    ∀ item ∈ items, ∀ error, ¬ offends item error := by
  induction items with
  | nil =>
      constructor
      · intro _ item impossible
        cases impossible
      · intro _ error impossible
        cases impossible
  | cons item rest ih =>
      constructor
      · intro none other member error offence
        rcases List.mem_cons.mp member with here | later
        · exact none error (.here (here ▸ offence))
        · have clean : ∀ error, ¬ offends item error := fun error offence => none error (.here offence)
          exact ih.mp (fun error first => none error (.later clean first)) other later error offence
      · intro clean error first
        cases first with
        | here offence => exact clean item List.mem_cons_self error offence
        | later _ first =>
            exact ih.mpr (fun other member => clean other (List.mem_cons_of_mem _ member)) error first

theorem of_forall₂ {corresponds : α → β → Prop} {offendsOther : β → ε → Prop} {others : List β}
    (pairs : List.Forall₂ corresponds items others)
    (same : ∀ item other, corresponds item other → ∀ error,
      offends item error ↔ offendsOther other error) :
    FirstOffence offends items error ↔ FirstOffence offendsOther others error := by
  induction pairs with
  | nil =>
      constructor <;>
        · intro impossible
          cases impossible
  | @cons item other items others pair pairs ih =>
      constructor
      · intro first
        cases first with
        | here offence => exact .here ((same item other pair error).mp offence)
        | later clean first =>
            exact .later (fun known offence => clean known ((same item other pair known).mpr offence))
              (ih.mp first)
      · intro first
        cases first with
        | here offence => exact .here ((same item other pair error).mpr offence)
        | later clean first =>
            exact .later (fun known offence => clean known ((same item other pair known).mp offence))
              (ih.mpr first)

end FirstOffence

theorem StageKind.select_supported {shape : MethodShape} {mode : ExecutionMode} (stage : String)
    (supported : ¬ (shape = .serverStreaming ∧ mode = .oneShot)) :
    ∃ kind, StageKind.select stage shape mode = .ok kind := by
  cases shape with
  | unary => cases mode <;> exact ⟨_, rfl⟩
  | serverStreaming =>
      cases mode with
      | continuous => exact ⟨_, rfl⟩
      | oneShot => exact absurd ⟨rfl, rfl⟩ supported

namespace Pipeline

variable {topology : Topology} {connector : Connector} {options : EngineOptions}
  {onFatal : FatalReaction} {pipeline : Pipeline} {engine : Engine} {edge : EdgeDescriptor}
  {edges : List EdgeDescriptor} {names : List String} {stage : StageId} {post : Post}

/-- Why a stage cannot be made of its descriptor: it cannot be connected, or it would have to stream and
to work once. -/
inductive BuildOffence (connector : Connector) (descriptor : StageDescriptor) : PipelineError → Prop
  | unconnected {error : ConnectError} (fails : connector descriptor = .error error) :
      BuildOffence connector descriptor (.connect error)
  | unsupported {method : RemoteMethod} (connects : connector descriptor = .ok method)
      (streams : descriptor.method.shape = .serverStreaming) (once : descriptor.mode = .oneShot) :
      BuildOffence connector descriptor
        (.stage (.unsupportedShape descriptor.name .serverStreaming .oneShot))

theorem buildStages_error {descriptors : List StageDescriptor} {error : PipelineError} :
    buildStages connector descriptors = .error error ↔
      FirstOffence (BuildOffence connector) descriptors error := by
  induction descriptors with
  | nil =>
      constructor <;>
        · intro impossible
          cases impossible
  | cons descriptor rest ih =>
      simp only [buildStages]
      cases connects : connector descriptor with
      | error refusal =>
          have only : ∀ other, BuildOffence connector descriptor other ↔ other = .connect refusal := by
            intro other
            constructor
            · intro offence
              cases offence with
              | unconnected fails =>
                  cases connects.symm.trans fails
                  rfl
              | unsupported done => cases connects.symm.trans done
            · intro same
              exact same ▸ .unconnected connects
          rw [FirstOffence.cons_offending only, Except.error.injEq]
          exact eq_comm
      | ok method =>
          by_cases unsupported : descriptor.method.shape = .serverStreaming ∧ descriptor.mode = .oneShot
          · obtain ⟨streams, once⟩ := unsupported
            have only : ∀ other, BuildOffence connector descriptor other ↔
                other = .stage (.unsupportedShape descriptor.name .serverStreaming .oneShot) := by
              intro other
              constructor
              · intro offence
                cases offence with
                | unconnected fails => cases connects.symm.trans fails
                | unsupported => rfl
              · intro same
                exact same ▸ .unsupported connects streams once
            simp only [Stage.build, streams, once, StageKind.select]
            rw [FirstOffence.cons_offending only, Except.error.injEq]
            exact eq_comm
          · have clean : ∀ other, ¬ BuildOffence connector descriptor other := by
              intro other offence
              cases offence with
              | unconnected fails => cases connects.symm.trans fails
              | unsupported _ streams once => exact unsupported ⟨streams, once⟩
            obtain ⟨kind, selects⟩ := StageKind.select_supported descriptor.name unsupported
            rw [FirstOffence.cons_clean clean, ← ih]
            simp only [Stage.build, selects]
            cases buildStages connector rest with
            | error other => exact Iff.rfl
            | ok stages =>
                constructor <;>
                  · intro impossible
                    cases impossible

structure Open (names : List String) (engine : Engine) : Prop where
  named : engine.posts.map (·.stage.name) = names
  bindable : ∀ post ∈ engine.posts, ∃ held, post.stage.bindings = some held

namespace Open

theorem bound {inputs outputs : List Binding} (opened : Open names engine)
    (found : engine.posts[stage]? = some post) :
    Open names (engine.withPost stage (post.bind inputs outputs)) := by
  constructor
  · obtain ⟨present, same⟩ := List.getElem?_eq_some_iff.mp found
    have listed : stage < (engine.posts.map (·.stage.name)).length := by
      rw [List.length_map]
      exact present
    have name : (engine.posts.map (·.stage.name))[stage] = post.stage.name := by
      rw [List.getElem_map, same]
    change (engine.posts.set stage _).map (·.stage.name) = names
    rw [List.map_set, ← opened.named]
    change (engine.posts.map (·.stage.name)).set stage post.stage.name = _
    rw [← name]
    exact List.set_getElem_self listed
  · intro moved member
    rcases List.mem_or_eq_of_mem_set member with kept | changed
    · exact opened.bindable moved kept
    · obtain ⟨held, known⟩ := opened.bindable post (List.mem_of_getElem? found)
      subst changed
      unfold Post.bind
      rw [known]
      exact ⟨_, rfl⟩

theorem found {name : String} (opened : Open names engine) (edge : EdgeDescriptor)
    (listed : name ∈ names) : ∃ stage, findStage engine name edge = .ok stage := by
  unfold findStage
  cases named : engine.stageNamed? name with
  | some stage => exact ⟨stage, rfl⟩
  | none =>
      rw [← opened.named] at listed
      obtain ⟨post, member, same⟩ := List.mem_map.mp listed
      have apart := List.findIdx?_eq_none_iff.mp named post member
      exact absurd same (of_decide_eq_false apart)

theorem binds {bind : Stage → Except StageError Stage} {inputs outputs : List Binding}
    (opened : Open names engine) (stage : StageId) (adds : Stage.Adds inputs outputs bind) :
    ∃ bound, bindAt engine stage bind = .ok bound ∧ Open names bound := by
  unfold bindAt
  cases found : engine.posts[stage]? with
  | none => exact ⟨engine, rfl, opened⟩
  | some post =>
      obtain ⟨held, known⟩ := opened.bindable post (List.mem_of_getElem? found)
      have still := @bound _ _ _ _ inputs outputs opened found
      unfold Post.bind at still
      rw [known, Option.map_some] at still
      simp only [adds.bound post.stage held known]
      exact ⟨_, rfl, still⟩

end Open

def linkedFor (edge : EdgeDescriptor) (engine : Engine) : Engine :=
  { engine with links := engine.links.add (EdgeDescriptor.linkLabel edge.source edge.target) }

structure Joins (engine : Engine) (edge : EdgeDescriptor) (linked : Engine) : Prop where
  ends : ∃ source target outgoing,
    findStage engine edge.source edge = .ok source ∧
    findStage engine edge.target edge = .ok target ∧
    bindAt (linkedFor edge engine) source (fun stage =>
      stage.bindOutput { field := edge.sourceKey, link := engine.links.next }) = .ok outgoing ∧
    bindAt outgoing target (fun stage =>
      stage.bindInput { field := edge.targetKey, link := engine.links.next }) = .ok linked
  added : addEdge engine edge = .ok linked

theorem Open.joins (opened : Open names engine) (source : edge.source ∈ names)
    (target : edge.target ∈ names) : ∃ linked, Joins engine edge linked ∧ Open names linked := by
  obtain ⟨first, atSource⟩ := opened.found edge source
  obtain ⟨second, atTarget⟩ := opened.found edge target
  have grown : Open names (linkedFor edge engine) := ⟨opened.named, opened.bindable⟩
  obtain ⟨outgoing, leaves, bindable⟩ := grown.binds first (@Stage.adds_bindOutput
    { field := edge.sourceKey, link := engine.links.next })
  obtain ⟨linked, enters, still⟩ := bindable.binds second (@Stage.adds_bindInput
    { field := edge.targetKey, link := engine.links.next })
  refine ⟨linked, ⟨⟨first, second, outgoing, atSource, atTarget, leaves, enters⟩, ?_⟩, still⟩
  unfold linkedFor at leaves
  unfold addEdge
  simp only [atSource, atTarget, bind, Except.bind, leaves]
  exact enters

theorem Open.addEdges (opened : Open names engine)
    (ends : ∀ edge ∈ edges, edge.source ∈ names ∧ edge.target ∈ names) :
    ∃ linked, addEdges edges engine = .ok linked ∧ Open names linked := by
  induction edges generalizing engine with
  | nil => exact ⟨engine, rfl, opened⟩
  | cons edge rest ih =>
      obtain ⟨source, target⟩ := ends edge List.mem_cons_self
      obtain ⟨next, joins, still⟩ := opened.joins source target
      obtain ⟨linked, added, last⟩ := ih still fun later member => ends later (List.mem_cons_of_mem _ member)
      refine ⟨linked, ?_, last⟩
      simp only [Pipeline.addEdges, joins.added]
      exact added

def unlinked (options : EngineOptions) (onFatal : FatalReaction) (stages : List Stage) : Engine :=
  { Engine.idle onFatal options.eventCapacity with
    posts := stages.map fun stage => { stage := stage, slot := .absent } }

theorem open_unlinked {stages : List Stage}
    (built : buildStages connector topology.stages = .ok stages) :
    Open (topology.stages.map (·.name)) (unlinked options onFatal stages) := by
  obtain ⟨names, places⟩ := buildStages_ok built
  constructor
  · change (stages.map _).map _ = _
    rw [List.map_map]
    exact names
  · intro post member
    obtain ⟨stage, listed, same⟩ := List.mem_map.mp member
    obtain ⟨place, found⟩ := List.mem_iff_getElem?.mp listed
    obtain ⟨descriptor, method, kind, _, _, _, is⟩ := places place stage found
    subst same
    subst is
    exact ⟨.none, rfl⟩

theorem build_of_stages {stages : List Stage} (faultless : topology.faults = [])
    (admitted : ReportBus.admits options.eventCapacity = true)
    (built : buildStages connector topology.stages = .ok stages) :
    ∃ pipeline, build topology connector options onFatal = .ok pipeline := by
  have opened : Open _ (unlinked options onFatal stages) := open_unlinked built
  obtain ⟨linked, added, _⟩ := opened.addEdges fun edge listed =>
    ⟨Topology.ends_of_faultless faultless listed (Or.inl rfl),
      Topology.ends_of_faultless faultless listed (Or.inr rfl)⟩
  unfold unlinked at added
  unfold build
  rw [if_neg (not_not_intro faultless)]
  simp only [admitted, built, added]
  exact ⟨_, rfl⟩

theorem build_error {error : PipelineError} (faultless : topology.faults = [])
    (admitted : ReportBus.admits options.eventCapacity = true) :
    build topology connector options onFatal = .error (.returned error) ↔
      FirstOffence (BuildOffence connector) topology.stages error := by
  rw [← buildStages_error]
  cases built : buildStages connector topology.stages with
  | error other =>
      unfold build
      rw [if_neg (not_not_intro faultless)]
      simp only [admitted, built, Bool.not_true, Bool.false_eq_true, if_false, Except.error.injEq,
        BuildFailure.returned.injEq]
  | ok stages =>
      obtain ⟨pipeline, made⟩ := @build_of_stages topology connector options onFatal stages faultless
        admitted built
      rw [made]
      constructor <;>
        · intro impossible
          cases impossible

/-- Of a topology without faults a build collapses exactly if it cannot have its report buffer. -/
theorem build_collapses (faultless : topology.faults = []) :
    build topology connector options onFatal = .error .collapsed ↔
      ReportBus.admits options.eventCapacity = false := by
  unfold build
  rw [if_neg (not_not_intro faultless)]
  cases admitted : ReportBus.admits options.eventCapacity with
  | false => simp
  | true =>
      simp only [Bool.not_true, Bool.false_eq_true, if_false, Bool.true_eq_false, iff_false]
      split
      · simp
      · split <;> simp

private theorem build_error_kind {error : PipelineError} (faultless : topology.faults = [])
    (fails : build topology connector options onFatal = .error (.returned error)) :
    (∀ faults, error ≠ .validation faults) ∧ ∀ name, error ≠ .stage (.alreadyMaterialized name) := by
  cases admitted : ReportBus.admits options.eventCapacity with
  | false => cases ((build_collapses faultless).mpr admitted).symm.trans fails
  | true =>
      obtain ⟨descriptor, _, offence⟩ := ((build_error faultless admitted).mp fails).offends_some
      cases offence with
      | unconnected | unsupported =>
          constructor <;>
            · intro other impossible
              cases impossible

/-- The link is an output of the one stage and an input of the other, once each, and of no others. -/
structure Spans (engine : Engine) (link : LinkId) (source target : StageId) : Prop where
  apart : source ≠ target
  present : source < engine.posts.length ∧ target < engine.posts.length
  output : ∀ (stage : StageId) (post : Post) (held : Bindings), engine.posts[stage]? = some post →
    post.stage.bindings = some held →
      (held.outputs.map (·.link)).count link = if stage = source then 1 else 0
  input : ∀ (stage : StageId) (post : Post) (held : Bindings), engine.posts[stage]? = some post →
    post.stage.bindings = some held →
      (held.inputs.map (·.link)).count link = if stage = target then 1 else 0

structure Mirrors (topology : Topology) (pipeline : Pipeline) : Prop where
  stages : pipeline.engine.posts.map (·.stage.descriptor) = topology.stages
  links : pipeline.engine.links.links = topology.edges.map fun edge =>
    .labelled (EdgeDescriptor.linkLabel edge.source edge.target)
  bindings : ∀ post ∈ pipeline.engine.posts,
    post.stage.bindings = some (topology.bindingsOf post.stage.name)
  spans : ∀ link < topology.edges.length, ∃ source target, Spans pipeline.engine link source target

theorem faultless_of_built (made : build topology connector options onFatal = .ok pipeline) :
    topology.faults = [] := by
  by_contra faulty
  unfold build at made
  rw [if_pos faulty] at made
  cases made

private theorem Wired.place {name : String}
    (wired : pipeline.Wired topology connector options onFatal)
    (listed : name ∈ topology.stages.map (·.name)) :
    ∃ place < pipeline.engine.posts.length, ∀ (stage : StageId) (post : Post),
      pipeline.engine.posts[stage]? = some post → (post.stage.name = name ↔ stage = place) := by
  obtain ⟨place, there⟩ := List.mem_iff_getElem?.mp listed
  have bound : place < (topology.stages.map (·.name)).length := (List.getElem?_eq_some_iff.mp there).1
  refine ⟨place, ?_, ?_⟩
  · rw [wired.length]
    rw [List.length_map] at bound
    exact bound
  · intro stage post found
    obtain ⟨descriptor, method, kind, atStage, _, _, same⟩ := wired.posts stage post found
    have named : (topology.stages.map (·.name))[stage]? = some post.stage.name := by
      rw [List.getElem?_map, atStage, same]
      rfl
    constructor
    · intro equal
      rw [equal, ← there] at named
      exact ((List.getElem?_inj bound wired.unique).mp named.symm).symm
    · intro here
      subst here
      exact Option.some.inj (named.symm.trans there)

theorem Wired.mirrors (faultless : topology.faults = [])
    (wired : pipeline.Wired topology connector options onFatal) : Mirrors topology pipeline := by
  have bound : ∀ (stage : StageId) (post : Post), pipeline.engine.posts[stage]? = some post →
      post.stage.bindings = some (topology.bindingsOf post.stage.name) := by
    intro stage post found
    obtain ⟨descriptor, method, kind, _, _, _, same⟩ := wired.posts stage post found
    rw [same]
    rfl
  constructor
  · apply List.ext_getElem?
    intro stage
    rw [List.getElem?_map]
    cases found : pipeline.engine.posts[stage]? with
    | none =>
        have beyond := List.getElem?_eq_none_iff.mp found
        rw [wired.length] at beyond
        exact (List.getElem?_eq_none_iff.mpr beyond).symm
    | some post =>
        obtain ⟨descriptor, method, kind, listed, _, _, same⟩ := wired.posts stage post found
        rw [listed, same]
        rfl
  · exact wired.links
  · intro post member
    obtain ⟨stage, found⟩ := List.mem_iff_getElem?.mp member
    exact bound stage post found
  · intro link within
    have found : topology.edges[link]? = some topology.edges[link] := List.getElem?_eq_getElem within
    have listed := List.mem_of_getElem? found
    obtain ⟨source, sourcePresent, atSource⟩ :=
      wired.place (Topology.ends_of_faultless faultless listed (Or.inl rfl))
    obtain ⟨target, targetPresent, atTarget⟩ :=
      wired.place (Topology.ends_of_faultless faultless listed (Or.inr rfl))
    refine ⟨source, target, ?_, ⟨sourcePresent, targetPresent⟩, ?_, ?_⟩
    · intro same
      subst same
      have there := List.getElem?_eq_getElem sourcePresent
      have leaves := (atSource source _ there).mpr rfl
      have enters := (atTarget source _ there).mpr rfl
      exact Topology.apart_of_faultless faultless listed (leaves.symm.trans enters)
    · intro stage post held there known
      cases (bound stage post there).symm.trans known
      rw [Topology.count_outputs found]
      simp only [← atSource stage post there, eq_comm]
    · intro stage post held there known
      cases (bound stage post there).symm.trans known
      rw [Topology.count_inputs found]
      simp only [← atTarget stage post there, eq_comm]

/-- What is built has a stage for each descriptor and a link for each edge, in order, on each stage the
links of the edges that leave it and that enter it, and so on each link two stages, one at either end. As
long as the topology has no faults, every edge finds the stages that it names and both take its link, so
that no build fails for want of a stage or of its bindings. -/
theorem wiring_mirrors_graph :
    (∀ pipeline, build topology connector options onFatal = .ok pipeline →
      Mirrors topology pipeline) ∧
    (topology.faults = [] →
      (∀ stages, buildStages connector topology.stages = .ok stages →
        ∀ before edge after, topology.edges = before ++ edge :: after →
          ∃ engine linked, addEdges before (unlinked options onFatal stages) = .ok engine ∧
            Joins engine edge linked) ∧
      ∀ error, build topology connector options onFatal = .error (.returned error) →
        (∀ faults, error ≠ .validation faults) ∧
          ∀ name, error ≠ .stage (.alreadyMaterialized name)) := by
  constructor
  · intro pipeline made
    exact (build_wired made).mirrors (faultless_of_built made)
  · intro faultless
    constructor
    · intro stages built before edge after split
      have ends : ∀ other ∈ topology.edges, other.source ∈ topology.stages.map (·.name) ∧
          other.target ∈ topology.stages.map (·.name) := fun other listed =>
        ⟨Topology.ends_of_faultless faultless listed (Or.inl rfl),
          Topology.ends_of_faultless faultless listed (Or.inr rfl)⟩
      rw [split] at ends
      have opened : Open _ (unlinked options onFatal stages) := open_unlinked built
      obtain ⟨engine, added, still⟩ := opened.addEdges fun earlier member =>
        ends earlier (List.mem_append_left _ member)
      obtain ⟨source, target⟩ := ends edge (List.mem_append_right _ List.mem_cons_self)
      obtain ⟨linked, joins, _⟩ := still.joins source target
      exact ⟨engine, linked, added, joins⟩
    · intro error fails
      exact build_error_kind faultless fails

namespace Braid

def strand (name : String) (records : List String) : StageDescriptor :=
  { name := name, host := "localhost", port := 50051
    method :=
      { name := "vision.Braid/Step", shape := .unary
        input := { name := "", records := records }, output := { name := "", records := records } }
    mode := .continuous }

def graph : Topology :=
  { stages := [strand "left" ["a", "b"], strand "right" ["a", "b"]]
    edges :=
      [{ source := "left", target := "right", sourceField := some "a", targetField := some "a" },
       { source := "right", target := "left", sourceField := none, targetField := none },
       { source := "left", target := "right", sourceField := some "b", targetField := some "b" }] }

end Braid

theorem wiring_mirrors_graph_braid :
    ∃ pipeline stages engine linked,
      build Braid.graph (fun _ => .ok .standard) .standard .note = .ok pipeline ∧
      Mirrors Braid.graph pipeline ∧
      pipeline.engine.posts.map (·.stage.bindings) =
        [some { inputs := [{ field := "", link := 1 }]
                outputs := [{ field := "a", link := 0 }, { field := "b", link := 2 }] },
         some { inputs := [{ field := "a", link := 0 }, { field := "b", link := 2 }]
                outputs := [{ field := "", link := 1 }] }] ∧
      buildStages (fun _ => .ok .standard) Braid.graph.stages = .ok stages ∧
      addEdges (Braid.graph.edges.take 1) (unlinked .standard .note stages) = .ok engine ∧
      Joins engine
        { source := "right", target := "left", sourceField := none, targetField := none } linked := by
  have outcome : (build Braid.graph (fun _ => .ok .standard) .standard .note).toOption.map
      (fun pipeline => pipeline.engine.posts.map (·.stage.bindings)) =
        some [some { inputs := [{ field := "", link := 1 }]
                     outputs := [{ field := "a", link := 0 }, { field := "b", link := 2 }] },
              some { inputs := [{ field := "a", link := 0 }, { field := "b", link := 2 }]
                     outputs := [{ field := "", link := 1 }] }] := by decide
  obtain ⟨pipeline, made, bound⟩ := Option.map_eq_some_iff.mp outcome
  have known := ok_of_toOption made
  have mirrors := (@wiring_mirrors_graph Braid.graph (fun _ => .ok .standard) .standard .note).1
    pipeline known
  obtain ⟨stages, built⟩ : ∃ stages,
      buildStages (fun _ => .ok .standard) Braid.graph.stages = .ok stages := ⟨_, rfl⟩
  obtain ⟨engine, linked, added, joins⟩ :=
    ((@wiring_mirrors_graph Braid.graph (fun _ => .ok .standard) .standard .note).2
      (by decide)).1 stages built (Braid.graph.edges.take 1) _ (Braid.graph.edges.drop 2) rfl
  exact ⟨pipeline, stages, engine, linked, known, mirrors, bound, built, added, joins⟩

end Pipeline
end Sluice
