import Mathlib.Data.List.Nodup
import Sluice.Proofs.Engine.Lineage
import Sluice.Proofs.Pipeline.Start

set_option autoImplicit false

/-! A pipeline that nobody feeds but its own stages computes what its topology says: what travels on the
links, however late or lossy, are images of what the generating stages emitted. -/

namespace Sluice

/-- An engine before its start, with the bindings of its topology and no packet on any link. -/
structure Engine.Unstarted (topology : Topology) (engine : Engine) : Prop where
  posts : ∀ (stage : StageId) (post : Post), engine.posts[stage]? = some post →
    ∃ descriptor, topology.stages[stage]? = some descriptor ∧ post.stage.descriptor = descriptor ∧
      StageKind.select descriptor.name descriptor.method.shape descriptor.mode = .ok post.stage.kind ∧
      post.stage.bindings = some (topology.bindingsOf descriptor.name) ∧ post.slot = .absent
  vacant : ∀ link, (engine.links.get link).slot = none

namespace Pipeline

/-- A pipeline between its construction and its start to which nobody binds links of their own: reports
may be subscribed to, and whatever does not put packets on links may happen. -/
inductive Standalone (topology : Topology) (connector : Connector) (options : EngineOptions)
    (onFatal : FatalReaction) : Pipeline → Prop
  | built {pipeline : Pipeline} (made : build topology connector options onFatal = .ok pipeline) :
      Standalone topology connector options onFatal pipeline
  | subscribed {pipeline : Pipeline} (before : Standalone topology connector options onFatal pipeline) :
      Standalone topology connector options onFatal
        { pipeline with
          engine := pipeline.engine.withBus Engine.sharedBus
            (pipeline.engine.busAt Engine.sharedBus).subscribe }
  | acted {pipeline : Pipeline} {action : Action} {engine : Engine} {effects : List Effect}
      (before : Standalone topology connector options onFatal pipeline)
      (allows : ¬ action.Supplies)
      (acts : pipeline.engine.act action = some (engine, effects)) :
      Standalone topology connector options onFatal { pipeline with engine := engine }

variable {engine next : Engine} {topology : Topology} {connector : Connector}
  {options : EngineOptions} {onFatal : FatalReaction} {pipeline : Pipeline} {running : Running}
  {notices : List Notice} {functions : StageId → Message → Message}

private theorem unstarted_built (made : build topology connector options onFatal = .ok pipeline) :
    pipeline.engine.Unstarted topology := by
  have wired := build_wired made
  constructor
  · intro stage post found
    obtain ⟨descriptor, method, kind, listed, _, selects, same⟩ := wired.posts stage post found
    subst same
    exact ⟨descriptor, listed, rfl, selects, rfl, rfl⟩
  · intro link
    unfold LinkStore.get
    rw [wired.links, List.getD_eq_getElem?_getD, List.getElem?_map]
    cases topology.edges[link]? <;> rfl

private theorem unstarted_same (before : engine.Unstarted topology)
    (posts : ∀ (stage : StageId) (moved : Post), next.posts[stage]? = some moved →
      ∃ post : Post, ∃ life, engine.posts[stage]? = some post ∧ moved = post.setLifecycle life)
    (slots : ∀ link, (engine.links.get link).slot = none → (next.links.get link).slot = none) :
    next.Unstarted topology := by
  refine ⟨?_, fun link => slots link (before.vacant link)⟩
  intro stage moved found
  obtain ⟨post, life, original, same⟩ := posts stage moved found
  subst same
  exact before.posts stage post original

private theorem unstarted_apart (before : engine.Unstarted topology)
    (posts : next.posts = engine.posts) (links : next.links = engine.links) :
    next.Unstarted topology := by
  refine unstarted_same before ?_ (links ▸ fun _ => id)
  intro stage post found
  rw [posts] at found
  exact ⟨post, post.stage.lifecycle, found, rfl⟩

private theorem unstarted_acted {action : Action} {effects : List Effect}
    (before : engine.Unstarted topology) (allows : ¬ action.Supplies)
    (acted : engine.Acted action next effects) : next.Unstarted topology := by
  cases acted with
  | worked found runs | collapsed found runs | told found runs =>
      obtain ⟨_, _, _, _, _, absent⟩ := before.posts _ _ found
      rw [runs] at absent
      cases absent
  | supervised | requested =>
      refine unstarted_same before ?_ fun _ => id
      intro stage moved found
      obtain ⟨post, life, original, _, same⟩ := Engine.post_withLifecycles found
      exact ⟨post, life, original, same⟩
  | put => exact absurd trivial allows
  | @took taken =>
      refine unstarted_same before (fun _ post found => ⟨post, post.stage.lifecycle, found, rfl⟩) ?_
      intro link empty
      change ((engine.links.set taken _).get link).slot = none
      rw [LinkStore.slot_set]
      split
      · rfl
      · exact empty
  | awaited | closing | joined | published | closed | stopped | elapsed =>
      exact unstarted_apart before rfl rfl

theorem Standalone.unstarted (standalone : Standalone topology connector options onFatal pipeline) :
    pipeline.engine.Unstarted topology := by
  induction standalone with
  | built made => exact unstarted_built made
  | subscribed before ih => exact unstarted_apart ih rfl rfl
  | acted before allows acts ih => exact unstarted_acted ih allows (Engine.act_acted acts)

theorem Standalone.unique (standalone : Standalone topology connector options onFatal pipeline) :
    (topology.stages.map (·.name)).Nodup := by
  induction standalone with
  | built made => exact (build_wired made).unique
  | subscribed before ih | acted before allows acts ih => exact ih

theorem placed_started {stage : StageId} {post : Post} (before : pipeline.engine.Unstarted topology)
    (launched : pipeline.Launched running) (found : running.engine.posts[stage]? = some post) :
    ∃ descriptor worker, topology.stages[stage]? = some descriptor ∧
      post.slot = .spawned worker ∧ worker.Fits topology descriptor ∧ worker.control = .checking ∧
      ∀ carries, worker.input.Joins carries none := by
  obtain ⟨built, held, worker, atStage, bound, works, same⟩ := launched.posts stage post found
  obtain ⟨descriptor, listed, described, selects, bindings, _⟩ := before.posts stage built atStage
  obtain ⟨fed, input, output, reads, writes, created⟩ := Stage.workerOf_ok works
  cases bound.symm.trans bindings
  unfold Stage.name at reads writes
  rw [described] at reads writes
  subst same
  subst created
  have fits : ∀ carries, _ := fun carries => @Input.ofBindings_fits carries _ _ _ _ _ reads
  exact ⟨descriptor, _, listed, rfl, ⟨selects, fed, (fits fun _ _ => True).1, writes⟩, rfl,
    fun carries => (fits carries).2⟩

theorem idle_started (before : pipeline.engine.Unstarted topology)
    (launched : pipeline.Launched running) (link : LinkId) :
    (running.engine.links.get link).slot = none := by
  rw [launched.links]
  exact before.vacant link

private theorem traced_started (before : pipeline.engine.Unstarted topology)
    (launched : pipeline.Launched running) : running.engine.Traced topology functions [] := by
  constructor
  · intro stage post found
    obtain ⟨descriptor, worker, listed, runs, fits, control, joins⟩ :=
      placed_started before launched found
    refine ⟨descriptor, worker, listed, runs, fits, ?_, ?_, ?_⟩
    · rw [control]
      exact trivial
    · refine Worker.carries_of_idle ?_ ?_ ?_
      · rw [control]
        exact joins _
      · rw [control]
        rfl
      · rw [control]
        rfl
    · intro generates
      constructor
      · intro id impossible
        cases impossible
      · intro packet impossible
        rw [control] at impossible
        cases impossible
  · intro link packet slot
    rw [idle_started before launched] at slot
    cases slot
  · intro link packet impossible
    cases impossible
  · intro stage generates
    exact List.Pairwise.nil
  · intro stage descriptor listed several request impossible
    cases impossible

/-- What a history of a pipeline has to do with the plain meaning of its topology. Ids stand for
emissions, a packet is the image of the emission under its id, and where all links of a merge trace back
to one stage, a composite has exactly the bound fields, which are the images of a single emission. -/
structure Lineage (topology : Topology) (functions : StageId → Message → Message)
    (past : List Engine.Occurrence) : Prop where
  increasing : ∀ generator, topology.Generates generator →
    ((Engine.emissionsOf generator past).map (·.id)).Pairwise (· < ·)
  images : ∀ link packet, (link, packet) ∈ Engine.storedOf past →
    ∀ generator image, topology.Traces functions link generator image →
      ∃ emission ∈ Engine.emissionsOf generator past, emission.id = packet.id ∧
        image emission.message = .ok packet.message
  joined : ∀ (stage : StageId) (descriptor : StageDescriptor) (generator : StageId),
    topology.stages[stage]? = some descriptor →
      2 ≤ (topology.bindingsOf descriptor.name).inputs.length →
        (∀ binding ∈ (topology.bindingsOf descriptor.name).inputs,
          ∃ image, topology.Traces functions binding.link generator image) →
          ∀ composite ∈ Engine.callsOf stage past,
            (∀ name, name ∈ composite.names ↔
              name ∈ (topology.bindingsOf descriptor.name).inputs.map (·.field)) ∧
            ∃ emission ∈ Engine.emissionsOf generator past,
              ∀ binding ∈ (topology.bindingsOf descriptor.name).inputs,
                ∀ image, topology.Traces functions binding.link generator image →
                  ∃ part, image emission.message = .ok part ∧ composite.Holds binding.field part

private theorem emission_unique {emissions : List Packet} {first second : Packet}
    (increasing : (emissions.map (·.id)).Pairwise (· < ·)) (left : first ∈ emissions)
    (right : second ∈ emissions) (same : first.id = second.id) : first = second := by
  have distinct : (emissions.map (·.id)).Nodup := increasing.imp fun less => Nat.ne_of_lt less
  exact List.inj_on_of_nodup_map distinct left right same

private theorem joined_of_composed {past : List Engine.Occurrence} {generator : StageId}
    {inputs : List Binding} {composite : Message} (several : 2 ≤ inputs.length)
    (increasing : ((Engine.emissionsOf generator past).map (·.id)).Pairwise (· < ·))
    (traced : ∀ binding ∈ inputs, ∃ image, topology.Traces functions binding.link generator image)
    (composed : Merge.Composed (Engine.Carried topology functions past)
      (MergeSession.layoutOf inputs) composite) :
    ∃ emission ∈ Engine.emissionsOf generator past, ∀ binding ∈ inputs,
      ∀ image, topology.Traces functions binding.link generator image →
        ∃ part, image emission.message = .ok part ∧ composite.Holds binding.field part := by
  obtain ⟨_, id, parts⟩ := composed
  have under : ∀ binding ∈ inputs, ∀ image, topology.Traces functions binding.link generator image →
      ∃ emission ∈ Engine.emissionsOf generator past, emission.id = id ∧
        ∃ part, image emission.message = .ok part ∧ composite.Holds binding.field part := by
    intro binding bound image traces
    have laid : (binding.field, binding.link) ∈ MergeSession.layoutOf inputs :=
      MergeSession.mem_layoutOf.mpr ⟨binding, bound, rfl⟩
    obtain ⟨packet, level, carried, holds⟩ := parts _ laid
    obtain ⟨emission, listed, same, imaged⟩ := carried generator image traces
    exact ⟨emission, listed, same.trans level, packet.message, imaged, holds⟩
  -- any one of the fields tells which emission it was
  obtain ⟨first, bound⟩ : ∃ first, first ∈ inputs :=
    List.exists_mem_of_length_pos (Nat.lt_of_lt_of_le Nat.zero_lt_two several)
  obtain ⟨image, traces⟩ := traced first bound
  obtain ⟨emission, listed, level, _⟩ := under first bound image traces
  refine ⟨emission, listed, ?_⟩
  intro binding boundToo otherImage otherTraces
  obtain ⟨other, otherListed, otherLevel, imaged⟩ := under binding boundToo otherImage otherTraces
  have same := emission_unique increasing listed otherListed (level.trans otherLevel.symm)
  rw [same]
  exact imaged

/-- Whatever order tasks and surroundings act in, with whatever pauses, failures, losses and finishes: if
the methods of relaying stages answer by functions of their requests, what is put on a link that traces
back to a generating stage is the image of what that stage emitted under the same id, and so a merge all
of whose links trace back to one stage joins images of one emission. -/
theorem run_keeps_lineage {past : List Engine.Occurrence}
    (standalone : Standalone topology connector options onFatal pipeline)
    (started : pipeline.run = .ok (running, notices))
    (reached : Engine.Reaches (Engine.Functional topology functions) running.engine engine past) :
    Lineage topology functions past := by
  have start : running.engine.Traced topology functions [] :=
    traced_started standalone.unstarted (run_launched started)
  have traced := start.reached standalone.unique reached
  refine ⟨traced.increasing, traced.stored, ?_⟩
  intro stage descriptor generator listed several sourced composite called
  have composed := traced.composed stage descriptor listed several composite called
  constructor
  · intro name
    exact (composed.names name).trans MergeSession.mem_layoutOf_names
  · obtain ⟨first, bound⟩ := List.exists_mem_of_length_pos
      (Nat.lt_of_lt_of_le Nat.zero_lt_two several)
    obtain ⟨image, traces⟩ := sourced first bound
    exact joined_of_composed several (traced.increasing generator traces.generates) sourced composed

namespace Fusion

def stage (name : String) (inputs outputs : List String) : StageDescriptor :=
  { name := name, host := "localhost", port := 50051
    method :=
      { name := "vision.Fusion/Step", shape := .unary
        input := { name := "", records := inputs }, output := { name := "", records := outputs } }
    mode := .continuous }

def graph : Topology :=
  { stages :=
      [stage "camera" [] ["left", "right"], stage "filter" [] [], stage "fusion" ["a", "b"] []]
    edges :=
      [{ source := "camera", target := "filter", sourceField := some "left", targetField := none },
       { source := "filter", target := "fusion", sourceField := none, targetField := some "a" },
       { source := "camera", target := "fusion", sourceField := some "right"
         targetField := some "b" }] }

def outline (request : Message) : Message :=
  request.names.foldl (fun message name => message.withRecord name .empty) .empty

def half : Message :=
  Message.empty.withRecord "pixels" (Message.empty.withRecord "depth" .empty)

def frame : Message :=
  (Message.empty.withRecord "left" half).withRecord "right" .empty

def opening : List Action :=
  List.replicate 4 (.worker 0 false) ++ .answer 0 (.response frame) ::
    (List.replicate 3 (.worker 0 false) ++ List.replicate 4 (.worker 1 false))

def reply : Action :=
  .answer 1 (.response (outline half))

def closing : List Action :=
  List.replicate 2 (.worker 1 false) ++ List.replicate 8 (.worker 2 false)

private theorem generates_camera : graph.Generates 0 :=
  ⟨stage "camera" [] ["left", "right"], rfl, by decide⟩

private theorem traces_camera : ∀ binding ∈ (graph.bindingsOf "fusion").inputs,
    ∃ image, graph.Traces (fun _ => outline) binding.link 0 image := by
  have inputs : (graph.bindingsOf "fusion").inputs =
      [{ field := "a", link := 1 }, { field := "b", link := 2 }] := by decide
  have left : graph.Leaves 0 0 "left" := ⟨_, _, rfl, rfl, rfl, rfl⟩
  have right : graph.Leaves 2 0 "right" := ⟨_, _, rfl, rfl, rfl, rfl⟩
  have filtered : graph.Leaves 1 1 wholeMessage := ⟨_, _, rfl, rfl, rfl, rfl⟩
  have relays : graph.Relays 1 0 := ⟨stage "filter" [] [], wholeMessage, rfl, rfl, by decide⟩
  intro binding bound
  rw [inputs] at bound
  rcases List.mem_cons.mp bound with first | second
  · subst first
    exact ⟨_, .through filtered relays (.direct left generates_camera)⟩
  · cases List.mem_singleton.mp second
    exact ⟨_, .direct right generates_camera⟩

private theorem opening_functional (engine : Engine) {action : Action} (member : action ∈ opening) :
    engine.Functional graph (fun _ => outline) action := by
  rcases List.mem_append.mp member with source | later
  · cases List.eq_of_mem_replicate source
    exact trivial
  · rcases List.mem_cons.mp later with answer | workers
    · subst answer
      intro incoming post worker request since relays
      exact absurd generates_camera relays.not_generates
    · rcases List.mem_append.mp workers with source | filter
      · cases List.eq_of_mem_replicate source
        exact trivial
      · cases List.eq_of_mem_replicate filter
        exact trivial

private theorem closing_functional (engine : Engine) {action : Action} (member : action ∈ closing) :
    engine.Functional graph (fun _ => outline) action := by
  rcases List.mem_append.mp member with filter | fusion
  · cases List.eq_of_mem_replicate filter
    exact trivial
  · cases List.eq_of_mem_replicate fusion
    exact trivial

def asked (engine : Engine) : List String :=
  ((engine.posts[1]?.bind Post.spawned?).bind fun worker =>
    worker.control.held?.map fun request => request.message.names).getD []

private theorem reply_functional {engine : Engine} (waits : asked engine = ["pixels"]) :
    engine.Functional graph (fun _ => outline) reply := by
  intro incoming post worker request since relays found runs control
  have names : request.message.names = ["pixels"] := by
    unfold asked at waits
    rw [found, Option.bind_some, Post.spawned?, runs, Option.bind_some, control] at waits
    exact waits
  change outline half = outline request.message
  unfold outline
  rw [names]
  rfl

end Fusion

theorem run_keeps_lineage_fusion :
    ∃ pipeline running notices engine past,
      Standalone Fusion.graph (fun _ => .ok .standard) .standard .note pipeline ∧
      pipeline.run = .ok (running, notices) ∧
      Engine.Reaches (Engine.Functional Fusion.graph fun _ => Fusion.outline) running.engine engine
        past ∧
      (∀ binding ∈ (Fusion.graph.bindingsOf "fusion").inputs,
        ∃ image, Fusion.graph.Traces (fun _ => Fusion.outline) binding.link 0 image) ∧
      (Engine.callsOf 2 past).map (·.names) = [["a", "b"]] ∧
      (Engine.storedOf past).map (·.1) = [0, 2, 1] ∧
      Lineage Fusion.graph (fun _ => Fusion.outline) past := by
  have outcome : ((build Fusion.graph (fun _ => .ok .standard) .standard .note).toOption.bind
      fun pipeline => pipeline.run.toOption.bind
        fun started => (Engine.perform Fusion.opening started.1.engine).bind
          fun called => (called.1.act Fusion.reply).bind
            fun answered => (Engine.perform Fusion.closing answered.1).map
              fun reached =>
                let past :=
                  called.2 ++ [{ action := Fusion.reply, effects := answered.2 }] ++ reached.2
                (Fusion.asked called.1, (Engine.callsOf 2 past).map (·.names),
                  (Engine.storedOf past).map (·.1))) =
      some (["pixels"], [["a", "b"]], [0, 2, 1]) := by decide
  obtain ⟨pipeline, made, ran⟩ := Option.bind_eq_some_iff.mp outcome
  obtain ⟨⟨running, notices⟩, started, performs⟩ := Option.bind_eq_some_iff.mp ran
  obtain ⟨⟨first, opened⟩, before, replies⟩ := Option.bind_eq_some_iff.mp performs
  obtain ⟨⟨second, effects⟩, replied, closes⟩ := Option.bind_eq_some_iff.mp replies
  obtain ⟨⟨engine, closed⟩, after, seen⟩ := Option.map_eq_some_iff.mp closes
  have standalone := Standalone.built (ok_of_toOption made)
  have launched := ok_of_toOption started
  have waits : Fusion.asked first = ["pixels"] := congrArg Prod.fst seen
  have fresh : Engine.Reaches (Engine.Functional Fusion.graph fun _ => Fusion.outline)
      running.engine running.engine [] := .started
  have waiting := Engine.reaches_perform fresh
    (fun action member engine => Fusion.opening_functional engine member) before
  have answered := waiting.acted (Fusion.reply_functional waits) replied
  have reached := Engine.reaches_perform answered
    (fun action member engine => Fusion.closing_functional engine member) after
  exact ⟨pipeline, running, notices, engine, _, standalone, launched, reached,
    Fusion.traces_camera, congrArg (·.2.1) seen, congrArg (·.2.2) seen,
    run_keeps_lineage standalone launched reached⟩

end Pipeline
end Sluice
