import Sluice.Connector
import Sluice.Engine

set_option autoImplicit false

/-! Pipelines: a topology is checked, each stage is connected and built, each edge becomes a link bound
to both of its stages. Starting one makes all workers ready before any of them runs. -/

namespace Sluice

structure EngineOptions where
  backoffMillis : Nat
  eventCapacity : Nat
deriving DecidableEq

namespace EngineOptions

def standard : EngineOptions :=
  { backoffMillis := 5000, eventCapacity := 64 }

def backoff (options : EngineOptions) : Duration :=
  .ofMillis options.backoffMillis

end EngineOptions

inductive PipelineError where
  | validation (faults : List TopologyFault)
  | connect (error : ConnectError)
  | stage (error : StageError)
deriving DecidableEq

def PipelineError.text : PipelineError → String
  | .validation faults => "Topology validation failed:\n" ++ TopologyFault.listing faults
  | .connect error => error.text
  | .stage error => error.text

/-- Why there is no pipeline: an error is returned, or no report buffer of the capacity asked for can be made
and whoever builds is torn down. -/
inductive BuildFailure where
  | returned (error : PipelineError)
  | collapsed
deriving DecidableEq

/-- A pipeline whose links are in place; those of its edges come first, in their order. -/
structure Pipeline where
  engine : Engine
  edgeCount : Nat
  backoff : Duration

namespace Pipeline

def rejection (faults : List TopologyFault) : List Notice :=
  match faults with
  | [] => []
  | first :: _ => [.topologyRejected faults.length first]

def buildStages (connector : Connector) :
    List StageDescriptor → Except PipelineError (List Stage)
  | [] => .ok []
  | descriptor :: rest =>
      match connector descriptor with
      | .error error => .error (.connect error)
      | .ok method =>
          match Stage.build descriptor method with
          | .error error => .error (.stage error)
          | .ok stage =>
              match buildStages connector rest with
              | .error error => .error error
              | .ok stages => .ok (stage :: stages)

def findStage (engine : Engine) (name : String) (edge : EdgeDescriptor) :
    Except PipelineError StageId :=
  match engine.stageNamed? name with
  | some stage => .ok stage
  | none => .error (.validation [.unresolvedEdgeEndpoint edge.source edge.target name])

def bindAt (engine : Engine) (stage : StageId) (bind : Stage → Except StageError Stage) :
    Except PipelineError Engine :=
  match engine.posts[stage]? with
  | none => .ok engine
  | some post =>
      match bind post.stage with
      | .error error => .error (.stage error)
      | .ok bound => .ok (engine.withPost stage { post with stage := bound })

/-- Makes the link of an edge: an output of its source, then an input of its target. -/
def addEdge (engine : Engine) (edge : EdgeDescriptor) : Except PipelineError Engine := do
  let source ← findStage engine edge.source edge
  let target ← findStage engine edge.target edge
  let link := engine.links.next
  let linked :=
    { engine with links := engine.links.add (EdgeDescriptor.linkLabel edge.source edge.target) }
  let outgoing ← bindAt linked source fun stage =>
    stage.bindOutput { field := edge.sourceKey, link := link }
  bindAt outgoing target fun stage => stage.bindInput { field := edge.targetKey, link := link }

def addEdges : List EdgeDescriptor → Engine → Except PipelineError Engine
  | [], engine => .ok engine
  | edge :: rest, engine =>
      match addEdge engine edge with
      | .error error => .error error
      | .ok linked => addEdges rest linked

def bound (edge : EdgeDescriptor) : Notice :=
  .linkBound edge.source edge.sourceKey edge.target edge.targetKey

def build (topology : Topology) (connector : Connector) (options : EngineOptions)
    (onFatal : FatalReaction) : Except BuildFailure Pipeline :=
  if topology.faults ≠ [] then .error (.returned (.validation topology.faults))
  else if !ReportBus.admits options.eventCapacity then .error .collapsed
  else
    match buildStages connector topology.stages with
    | .error error => .error (.returned error)
    | .ok stages =>
        let posts := stages.map fun stage => { stage := stage, slot := .absent : Post }
        match addEdges topology.edges
            { Engine.idle onFatal options.eventCapacity with posts := posts } with
        | .error error => .error (.returned error)
        | .ok engine =>
            .ok { engine := engine, edgeCount := topology.edges.length, backoff := options.backoff }

def buildNotices (topology : Topology) (pipeline : Pipeline) : List Notice :=
  (pipeline.engine.posts.map fun post => Stage.building post.stage.descriptor post.stage.kind) ++
    topology.edges.map bound

def link? (pipeline : Pipeline) (source target : String) : Option LinkId :=
  let label := EdgeDescriptor.linkLabel source target
  (pipeline.engine.links.links.take pipeline.edgeCount).findIdx? fun link => link.label = label

def materializeAll : List StageId → Engine → Engine × Except StageError Unit
  | [], engine => (engine, .ok ())
  | stage :: rest, engine =>
      match engine.materialize stage with
      | none => materializeAll rest engine
      | some (moved, .error error) => (moved, .error error)
      | some (moved, .ok _) => materializeAll rest moved

def spawnAll : List StageId → Engine → Engine × List Notice
  | [], engine => (engine, [])
  | stage :: rest, engine =>
      match engine.spawn stage with
      | none => spawnAll rest engine
      | some spawned =>
          let later := spawnAll rest spawned.1
          (later.1, spawned.2 ++ later.2)

/-- A started pipeline: its engine, and which of the engine's monitors is its own. -/
structure Running where
  engine : Engine
  monitor : Nat
  since : Duration

def starting (pipeline : Pipeline) : Notice :=
  .pipelineStarting pipeline.engine.posts.length pipeline.edgeCount

/-- Starts every worker and the monitor, which is subscribed before any worker runs. On a failure
nothing has started; the engine that remains is given beside the reason. -/
def run (pipeline : Pipeline) : Except (Engine × StageError) (Running × List Notice) :=
  let engine := pipeline.engine
  let ready := materializeAll engine.allStages engine
  match ready.2 with
  | .error error => .error (ready.1, error)
  | .ok _ =>
      let monitor := ready.1.monitors.length
      let watched := ready.1.spawnMonitor engine.allStages pipeline.backoff Engine.sharedBus
      let spawned := spawnAll engine.allStages watched
      .ok ({ engine := spawned.1, monitor := monitor, since := engine.clock }, spawned.2)

namespace Running

def join (running : Running) : Engine :=
  let engine := running.engine
  { engine with
    joiner := some
      { monitor := running.monitor, stageCount := engine.posts.length, since := running.since
        control := .awaiting engine.allStages } }

def shutdown (running : Running) : Engine × List Notice :=
  let finished := running.engine.finishAll
  ({ running with engine := finished.1 }.join, finished.2)

end Sluice.Pipeline.Running
