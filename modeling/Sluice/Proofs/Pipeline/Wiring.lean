import Mathlib.Data.List.Nodup
import Sluice.Pipeline
import Sluice.Proofs.Engine.Posts

set_option autoImplicit false

/-! What a pipeline is built of: one stage for each descriptor and one link for each edge, both in order,
and on each stage exactly the bindings of the edges that leave it and that enter it. -/

namespace Sluice
namespace Topology

variable {names seen : List String}

abbrev NumberedEdges := List (EdgeDescriptor × LinkId)

def outputsOf (edges : NumberedEdges) (stage : String) : List Binding :=
  (edges.filter fun entry => entry.1.source = stage).map
    fun entry => { field := entry.1.sourceKey, link := entry.2 }

def inputsOf (edges : NumberedEdges) (stage : String) : List Binding :=
  (edges.filter fun entry => entry.1.target = stage).map
    fun entry => { field := entry.1.targetKey, link := entry.2 }

def bindingsOf (topology : Topology) (stage : String) : Bindings :=
  { inputs := inputsOf topology.edges.zipIdx stage, outputs := outputsOf topology.edges.zipIdx stage }

private theorem repeatedNames_nil (none : repeatedNames seen names = []) :
    names.Nodup ∧ ∀ name ∈ names, name ∉ seen := by
  induction names generalizing seen with
  | nil => exact ⟨List.nodup_nil, fun name impossible => absurd impossible List.not_mem_nil⟩
  | cons name rest ih =>
      simp only [repeatedNames] at none
      by_cases known : seen.contains name = true
      · rw [if_pos known] at none
        cases none
      · rw [if_neg known] at none
        obtain ⟨unique, apart⟩ := ih none
        have fresh : name ∉ rest := fun later => apart name later List.mem_cons_self
        refine ⟨List.nodup_cons.mpr ⟨fresh, unique⟩, ?_⟩
        intro other member listed
        rcases List.mem_cons.mp member with here | later
        · subst here
          exact known (List.contains_iff_mem.mpr listed)
        · exact apart other later (List.mem_cons_of_mem _ listed)

theorem unique_of_faultless {topology : Topology} (faultless : topology.faults = []) :
    (topology.stages.map (·.name)).Nodup := by
  unfold faults at faultless
  have none : topology.duplicateNames = [] :=
    (List.append_eq_nil_iff.mp (List.append_eq_nil_iff.mp (List.append_eq_nil_iff.mp faultless).1).1).1
  exact (repeatedNames_nil (List.map_eq_nil_iff.mp none)).1

end Topology

namespace Engine

variable {engine : Engine} {stage : StageId} {post : Post} {name : String}

theorem stageNamed_some (found : engine.stageNamed? name = some stage) :
    ∃ post, engine.posts[stage]? = some post ∧ post.stage.name = name := by
  obtain ⟨bound, same, _⟩ := List.findIdx?_eq_some_iff_getElem.mp found
  exact ⟨engine.posts[stage], List.getElem?_eq_getElem bound, of_decide_eq_true same⟩

theorem place_unique (unique : (engine.posts.map (·.stage.name)).Nodup) {other : StageId}
    {present : Post} (found : engine.posts[stage]? = some post)
    (atOther : engine.posts[other]? = some present) (same : post.stage.name = present.stage.name) :
    stage = other := by
  have bound := (List.getElem?_eq_some_iff.mp found).1
  have equal : post = present := List.inj_on_of_nodup_map unique (List.mem_of_getElem? found)
    (List.mem_of_getElem? atOther) same
  rw [← equal] at atOther
  exact (List.getElem?_inj bound (unique.of_map _)).mp (found.trans atOther.symm)

end Engine

namespace Stage

/-- It adds these bindings to a stage that still takes any, and fails for every other. -/
structure Adds (inputs outputs : List Binding) (bind : Stage → Except StageError Stage) : Prop where
  bound : ∀ (stage : Stage) (held : Bindings), stage.bindings = some held →
    bind stage = .ok { stage with
      bindings := some { inputs := held.inputs ++ inputs, outputs := held.outputs ++ outputs } }
  refused : ∀ stage : Stage, stage.bindings = none → ∃ error, bind stage = .error error

theorem adds_bindInput {binding : Binding} : Adds [binding] [] fun stage => stage.bindInput binding := by
  constructor
  · intro stage held known
    unfold bindInput
    rw [known, List.append_nil]
  · intro stage none
    unfold bindInput
    rw [none]
    exact ⟨_, rfl⟩

theorem adds_bindOutput {binding : Binding} : Adds [] [binding] fun stage => stage.bindOutput binding := by
  constructor
  · intro stage held known
    unfold bindOutput
    rw [known, List.append_nil]
  · intro stage none
    unfold bindOutput
    rw [none]
    exact ⟨_, rfl⟩

end Stage

namespace Post

def bind (post : Post) (inputs outputs : List Binding) : Post :=
  { post with stage := { post.stage with bindings := post.stage.bindings.map fun held =>
      { inputs := held.inputs ++ inputs, outputs := held.outputs ++ outputs } } }

theorem bind_nothing (post : Post) : post.bind [] [] = post := by
  obtain ⟨stage, slot⟩ := post
  obtain ⟨descriptor, kind, method, life, bindings⟩ := stage
  cases bindings with
  | none => rfl
  | some held => simp [bind]

theorem bind_bind (post : Post) (inputs outputs moreInputs moreOutputs : List Binding) :
    (post.bind inputs outputs).bind moreInputs moreOutputs =
      post.bind (inputs ++ moreInputs) (outputs ++ moreOutputs) := by
  obtain ⟨stage, slot⟩ := post
  obtain ⟨descriptor, kind, method, life, bindings⟩ := stage
  cases bindings with
  | none => rfl
  | some held => simp [bind]

def boundBy (post : Post) (edges : Topology.NumberedEdges) : Post :=
  post.bind (Topology.inputsOf edges post.stage.name) (Topology.outputsOf edges post.stage.name)

private theorem bound_twice (post : Post) (edge : EdgeDescriptor) (link : LinkId) :
    (post.bind (if post.stage.name = edge.source then [] else [])
        (if post.stage.name = edge.source then [{ field := edge.sourceKey, link := link }] else [])).bind
      (if post.stage.name = edge.target then [{ field := edge.targetKey, link := link }] else [])
      (if post.stage.name = edge.target then [] else []) = post.boundBy [(edge, link)] := by
  rw [bind_bind]
  unfold boundBy Topology.inputsOf Topology.outputsOf
  by_cases leaves : edge.source = post.stage.name
  · by_cases enters : edge.target = post.stage.name
    · simp [leaves, enters]
    · simp [leaves, enters, Ne.symm enters]
  · by_cases enters : edge.target = post.stage.name
    · simp [leaves, enters, Ne.symm leaves]
    · simp [leaves, enters, Ne.symm leaves, Ne.symm enters]

end Post

namespace Pipeline

variable {engine linked : Engine} {edge : EdgeDescriptor} {stage : StageId}

private theorem findStage_ok {name : String} (found : findStage engine name edge = .ok stage) :
    engine.stageNamed? name = some stage := by
  unfold findStage at found
  cases named : engine.stageNamed? name with
  | none =>
      rw [named] at found
      cases found
  | some known =>
      rw [named] at found
      cases found
      rfl

theorem bindAt_ok {bind : Stage → Except StageError Stage} {inputs outputs : List Binding} {post : Post}
    (adds : Stage.Adds inputs outputs bind) (found : engine.posts[stage]? = some post)
    (done : bindAt engine stage bind = .ok linked) :
    linked = engine.withPost stage (post.bind inputs outputs) := by
  unfold bindAt at done
  simp only [found] at done
  unfold Post.bind
  cases bindings : post.stage.bindings with
  | none =>
      obtain ⟨error, fails⟩ := adds.refused post.stage bindings
      rw [fails] at done
      cases done
  | some held =>
      rw [adds.bound post.stage held bindings] at done
      cases done
      rfl

theorem bound_kept {post present : Post} {inputs outputs : List Binding} {other : StageId}
    (found : engine.posts[stage]? = some post)
    (there : (engine.withPost stage (post.bind inputs outputs)).posts[other]? = some present) :
    ∃ earlier : Post, engine.posts[other]? = some earlier ∧ present.slot = earlier.slot ∧
      present.stage.lifecycle = earlier.stage.lifecycle := by
  by_cases here : stage = other
  · subst here
    cases (Engine.post_withPost found).symm.trans there
    exact ⟨post, found, rfl, rfl⟩
  · exact ⟨present, (Engine.post_withPost_other here).symm.trans there, rfl, rfl⟩

theorem bindAt_cases {bind : Stage → Except StageError Stage} {inputs outputs : List Binding}
    (adds : Stage.Adds inputs outputs bind) (done : bindAt engine stage bind = .ok linked) :
    linked = engine ∨ ∃ post, engine.posts[stage]? = some post ∧
      linked = engine.withPost stage (post.bind inputs outputs) := by
  cases found : engine.posts[stage]? with
  | none =>
      unfold bindAt at done
      rw [found] at done
      exact Or.inl (Except.ok.inj done).symm
  | some post => exact Or.inr ⟨post, rfl, bindAt_ok adds found done⟩

private theorem addEdge_ok (added : addEdge engine edge = .ok linked) :
    ∃ source target outgoing, engine.stageNamed? edge.source = some source ∧
      engine.stageNamed? edge.target = some target ∧
      bindAt { engine with
          links := engine.links.add (EdgeDescriptor.linkLabel edge.source edge.target) } source
        (fun stage => stage.bindOutput { field := edge.sourceKey, link := engine.links.next }) =
          .ok outgoing ∧
      bindAt outgoing target
        (fun stage => stage.bindInput { field := edge.targetKey, link := engine.links.next }) =
          .ok linked := by
  unfold addEdge at added
  cases fromSource : findStage engine edge.source edge with
  | error =>
      rw [fromSource] at added
      cases added
  | ok source =>
      cases toTarget : findStage engine edge.target edge with
      | error =>
          rw [fromSource, toTarget] at added
          cases added
      | ok target =>
          rw [fromSource, toTarget] at added
          simp only [bind, Except.bind] at added
          split at added
          · cases added
          · rename_i outgoing bound
            exact ⟨source, target, outgoing, findStage_ok fromSource, findStage_ok toTarget, bound,
              added⟩

private theorem post_bound {post : Post} {inputs outputs : List Binding} {name : String}
    (unique : (engine.posts.map (·.stage.name)).Nodup) (found : engine.posts[stage]? = some post)
    (named : post.stage.name = name) (other : StageId) :
    (engine.withPost stage (post.bind inputs outputs)).posts[other]? = engine.posts[other]?.map
      fun present : Post => present.bind (if present.stage.name = name then inputs else [])
        (if present.stage.name = name then outputs else []) := by
  by_cases here : stage = other
  · subst here
    rw [Engine.post_withPost found, found, Option.map_some, if_pos named, if_pos named]
  · rw [Engine.post_withPost_other here]
    cases atOther : engine.posts[other]? with
    | none => rfl
    | some present =>
        have apart : present.stage.name ≠ name := by
          intro same
          exact here (Engine.place_unique unique found atOther (named.trans same.symm))
        rw [Option.map_some, if_neg apart, if_neg apart, Post.bind_nothing]

private theorem names_kept {inputs outputs : Post → List Binding}
    (posts : ∀ stage : StageId, linked.posts[stage]? = engine.posts[stage]?.map
      fun post => post.bind (inputs post) (outputs post)) :
    linked.posts.map (·.stage.name) = engine.posts.map (·.stage.name) := by
  apply List.ext_getElem?
  intro stage
  rw [List.getElem?_map, List.getElem?_map, posts]
  cases engine.posts[stage]? <;> rfl

private theorem addEdge_posts (unique : (engine.posts.map (·.stage.name)).Nodup)
    (added : addEdge engine edge = .ok linked) :
    (∀ stage : StageId, linked.posts[stage]? = engine.posts[stage]?.map
      fun post => Post.boundBy post [(edge, engine.links.next)]) ∧
    ∃ posts, linked = { engine with
      posts := posts
      links := engine.links.add (EdgeDescriptor.linkLabel edge.source edge.target) } := by
  obtain ⟨source, target, outgoing, atSource, atTarget, outBound, inBound⟩ := addEdge_ok added
  obtain ⟨sourcePost, sourceFound, sourceNamed⟩ := Engine.stageNamed_some atSource
  obtain ⟨targetPost, targetFound, targetNamed⟩ := Engine.stageNamed_some atTarget
  have outgoingIs := @bindAt_ok
    { engine with links := engine.links.add (EdgeDescriptor.linkLabel edge.source edge.target) }
    outgoing source _ _ _ sourcePost Stage.adds_bindOutput sourceFound outBound
  have outgoingPosts : ∀ stage : StageId, outgoing.posts[stage]? = engine.posts[stage]?.map
      fun present : Post => present.bind (if present.stage.name = edge.source then [] else [])
        (if present.stage.name = edge.source then
          [{ field := edge.sourceKey, link := engine.links.next }] else []) := by
    intro stage
    rw [outgoingIs]
    exact post_bound unique sourceFound sourceNamed stage
  have names := names_kept outgoingPosts
  have targetThere := outgoingPosts target
  rw [targetFound, Option.map_some] at targetThere
  have linkedIs := bindAt_ok Stage.adds_bindInput targetThere inBound
  refine ⟨?_, ⟨linked.posts, ?_⟩⟩
  · intro stage
    rw [linkedIs, post_bound (names ▸ unique) targetThere targetNamed stage, outgoingPosts,
      Option.map_map]
    cases engine.posts[stage]? with
    | none => rfl
    | some post => exact congrArg some (post.bound_twice edge engine.links.next)
  · rw [linkedIs, outgoingIs]
    rfl

private theorem boundBy_cons (post : Post) (entry : EdgeDescriptor × LinkId)
    (rest : Topology.NumberedEdges) : (post.boundBy [entry]).boundBy rest = post.boundBy (entry :: rest) := by
  unfold Post.boundBy
  have name : ∀ inputs outputs, (post.bind inputs outputs).stage.name = post.stage.name :=
    fun _ _ => rfl
  rw [name, Post.bind_bind]
  simp only [Topology.inputsOf, Topology.outputsOf, ← List.map_append, ← List.filter_append,
    List.singleton_append]

theorem addEdges_posts {edges : List EdgeDescriptor} (unique : (engine.posts.map (·.stage.name)).Nodup)
    (added : addEdges edges engine = .ok linked) :
    (∀ stage : StageId, linked.posts[stage]? = engine.posts[stage]?.map
      fun post => Post.boundBy post (edges.zipIdx engine.links.next)) ∧
    ∃ posts, linked = { engine with
      posts := posts
      links := { links := engine.links.links ++ edges.map fun edge =>
        .labelled (EdgeDescriptor.linkLabel edge.source edge.target) } } := by
  induction edges generalizing engine with
  | nil =>
      cases added
      refine ⟨?_, linked.posts, ?_⟩
      · intro stage
        cases linked.posts[stage]? with
        | none => rfl
        | some post => exact congrArg some (Post.bind_nothing post).symm
      · rw [List.map_nil, List.append_nil]
  | cons edge rest ih =>
      simp only [addEdges] at added
      cases first : addEdge engine edge with
      | error =>
          rw [first] at added
          cases added
      | ok next =>
          rw [first] at added
          obtain ⟨firstPosts, posts, same⟩ := addEdge_posts unique first
          have names := names_kept firstPosts
          obtain ⟨restPosts, later, sameLinked⟩ := ih (names ▸ unique) added
          have place : next.links.next = engine.links.next + 1 := by
            rw [same]
            exact List.length_append
          refine ⟨?_, later, ?_⟩
          · intro stage
            rw [restPosts, firstPosts, Option.map_map, place, List.zipIdx_cons]
            cases engine.posts[stage]? with
            | none => rfl
            | some post => exact congrArg some (boundBy_cons post _ _)
          · rw [sameLinked, same]
            simp [LinkStore.add]

def builtFrom (descriptor : StageDescriptor) (method : RemoteMethod) (kind : StageKind) : Stage :=
  { descriptor := descriptor, kind := kind, method := method, lifecycle := .fresh descriptor.name
    bindings := some .none }

theorem buildStages_ok {connector : Connector} {descriptors : List StageDescriptor}
    {stages : List Stage} (built : buildStages connector descriptors = .ok stages) :
    stages.map (·.name) = descriptors.map (·.name) ∧
      ∀ (place : Nat) (stage : Stage), stages[place]? = some stage →
        ∃ descriptor method kind, descriptors[place]? = some descriptor ∧
          connector descriptor = .ok method ∧
          StageKind.select descriptor.name descriptor.method.shape descriptor.mode = .ok kind ∧
          stage = builtFrom descriptor method kind := by
  induction descriptors generalizing stages with
  | nil =>
      cases built
      refine ⟨rfl, ?_⟩
      intro place stage impossible
      cases impossible
  | cons descriptor rest ih =>
      simp only [buildStages] at built
      cases connects : connector descriptor with
      | error =>
          rw [connects] at built
          cases built
      | ok method =>
          simp only [connects, Stage.build] at built
          cases selects : StageKind.select descriptor.name descriptor.method.shape descriptor.mode with
          | error =>
              simp only [selects] at built
              cases built
          | ok kind =>
              simp only [selects] at built
              cases others : buildStages connector rest with
              | error =>
                  rw [others] at built
                  cases built
              | ok later =>
                  rw [others] at built
                  cases built
                  obtain ⟨names, places⟩ := ih others
                  refine ⟨congrArg (descriptor.name :: ·) names, ?_⟩
                  intro place stage found
                  cases place with
                  | zero =>
                      cases found
                      exact ⟨descriptor, method, kind, rfl, connects, selects, rfl⟩
                  | succ place => exact places place stage found

structure Wired (topology : Topology) (connector : Connector) (options : EngineOptions)
    (onFatal : FatalReaction) (pipeline : Pipeline) : Prop where
  unique : (topology.stages.map (·.name)).Nodup
  length : pipeline.engine.posts.length = topology.stages.length
  posts : ∀ (stage : StageId) (post : Post), pipeline.engine.posts[stage]? = some post →
    ∃ descriptor method kind, topology.stages[stage]? = some descriptor ∧
      connector descriptor = .ok method ∧
      StageKind.select descriptor.name descriptor.method.shape descriptor.mode = .ok kind ∧
      post =
        { stage := { builtFrom descriptor method kind with
            bindings := some (topology.bindingsOf descriptor.name) }
          slot := .absent }
  links : pipeline.engine.links.links = topology.edges.map fun edge =>
    .labelled (EdgeDescriptor.linkLabel edge.source edge.target)
  buses : pipeline.engine.buses = [.ofCapacity options.eventCapacity]
  monitors : pipeline.engine.monitors = []
  reaction : pipeline.engine.onFatal = onFatal

theorem build_wired {topology : Topology} {connector : Connector} {options : EngineOptions}
    {onFatal : FatalReaction} {pipeline : Pipeline}
    (made : build topology connector options onFatal = .ok pipeline) :
    pipeline.Wired topology connector options onFatal := by
  unfold build at made
  by_cases faulty : topology.faults ≠ []
  · rw [if_pos faulty] at made
    cases made
  · rw [if_neg faulty] at made
    split at made
    · cases made
    · cases stagesMade : buildStages connector topology.stages with
      | error =>
          rw [stagesMade] at made
          cases made
      | ok stages =>
          simp only [stagesMade] at made
          split at made
          · cases made
          · rename_i engine added
            cases made
            obtain ⟨names, places⟩ := buildStages_ok stagesMade
            have postNames : (stages.map fun stage => ({ stage := stage, slot := .absent } : Post)).map
                (·.stage.name) = topology.stages.map (·.name) := by
              rw [List.map_map]
              exact names
            have unique := Topology.unique_of_faultless (Decidable.not_not.mp faulty)
            obtain ⟨bound, posts, same⟩ := addEdges_posts (postNames ▸ unique) added
            refine ⟨unique, ?_, ?_, ?_, ?_, ?_, ?_⟩
            · have lengths := congrArg List.length ((names_kept bound).trans postNames)
              rw [List.length_map, List.length_map] at lengths
              exact lengths
            · intro stage post found
              have before := (bound stage).symm.trans found
              obtain ⟨fresh, atStage, changed⟩ := Option.map_eq_some_iff.mp before
              rw [List.getElem?_map] at atStage
              obtain ⟨made, place, fill⟩ := Option.map_eq_some_iff.mp atStage
              obtain ⟨descriptor, method, kind, listed, connects, selects, is⟩ := places stage made place
              refine ⟨descriptor, method, kind, listed, connects, selects, ?_⟩
              subst is
              subst fill
              exact changed.symm
            · rw [same]
              rfl
            · rw [same]
              rfl
            · rw [same]
              rfl
            · rw [same]
              rfl

end Pipeline
end Sluice
