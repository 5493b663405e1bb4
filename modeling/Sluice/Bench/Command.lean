import Sluice.Bench.Rig

set_option autoImplicit false

/-! Interventions on a bench, what each of them answers, and what is seen once all tasks rest again. -/

namespace Sluice.Bench

inductive Command where
  | observe
  | advance (millis : Nat)
  | bindInput (stage link field : String)
  | bindOutput (stage link field : String)
  | findLink (source target : String)
  | run
  | materialize (stage : String)
  | spawn (stage : String)
  | request (stage : String) (asked : LifecycleRequest)
  | reply (stage : String) (reply : Reply)
  | item (stage : String) (item : Except Status Message)
  | endStream (stage : String)
  | put (link : String) (packet : Packet)
  | take (link : String)
  | publish (stages : List String) (ownBus : Bool)
  | finishAll
  | join
  | shutdown
  | draftMonitor (stages : List String) (backoffMillis : Nat)
  | pauseAll
  | resumeAll
  | spawnMonitor (ownCapacity : Option Nat)
  | stopMonitor
  | dropOwnBus

inductive Response where
  | nothing
  | done
  /-- What was asked for does not exist, or not any more. -/
  | gone
  | noCall
  | noStream
  | text (text : String)
  | label (label : Option String)
  | names (names : List String)
  | packet (packet : Option Packet)
  | count (count : Nat)
  | truth (truth : Bool)
  | refused (error : PipelineError)

namespace Rig

def stage? (rig : Rig) (name : String) : Option StageId :=
  rig.engine.stageNamed? name

def attempt (rig : Rig) (action : Action) (otherwise : Response) : Rig × Response :=
  match rig.perform action with
  | none => (rig, otherwise)
  | some moved => (moved, .done)

def canBind (rig : Rig) : Bool :=
  match rig.occupancy with
  | .stages | .assembled .. => true
  | .running .. | .vacated => false

/-- Binds a stage to a link; one that is named for the first time is there even if nothing is bound. -/
def bind (rig : Rig) (stage link field : String)
    (change : Stage → Binding → Except StageError Stage) : Rig × Response :=
  let named := rig.linkNamed link
  match rig.canBind, rig.stage? stage with
  | true, some place =>
      match Pipeline.bindAt named.1.engine place
          fun held => change held { field := field, link := named.2 } with
      | .error error => (named.1, .refused error)
      | .ok engine => ({ named.1 with engine := engine }, .done)
  | _, _ => (named.1, .gone)

def runPipeline (rig : Rig) : Rig × Response :=
  match rig.occupancy with
  | .assembled edgeCount backoff =>
      let pipeline : Pipeline :=
        { engine := rig.engine, edgeCount := edgeCount, backoff := backoff }
      let announced := rig.note [pipeline.starting]
      match pipeline.run with
      | .error (engine, error) =>
          ({ announced with engine := engine, occupancy := .vacated }, .refused (.stage error))
      | .ok (running, notices) =>
          ({ announced with
              engine := running.engine, occupancy := .running running.monitor running.since }.note
            notices,
            .names (running.engine.posts.map (·.stage.name)))
  | _ => (rig, .gone)

def running? (rig : Rig) : Option Pipeline.Running :=
  match rig.occupancy with
  | .running monitor since => some { engine := rig.engine, monitor := monitor, since := since }
  | _ => none

def sweepDrafted (rig : Rig) (asked : LifecycleRequest) : Option (Rig × Nat) :=
  rig.drafted.map fun drafted =>
    let swept := Lifecycles.sweep asked drafted.1 rig.engine.lifecycles
    ({ rig with engine := rig.engine.withLifecycles swept.1 }.note swept.2.2, swept.2.1)

def publishAll (rig : Rig) (bus : BusId) : List String → Rig
  | [] => rig
  | stage :: rest =>
      match rig.perform (.publish bus stage) with
      | none => publishAll rig bus rest
      | some moved => publishAll moved bus rest

def spawnDrafted (rig : Rig) (ownCapacity : Option Nat) : Rig × Response :=
  match rig.drafted with
  | none => (rig, .gone)
  | some (stages, backoff) =>
      let placed : Rig × BusId :=
        match ownCapacity with
        | none => (rig, Engine.sharedBus)
        | some capacity =>
            let bus := rig.engine.buses.length
            ({ rig with
                engine :=
                  { rig.engine with buses := rig.engine.buses ++ [.ofCapacity capacity] }
                ownBus := some bus }, bus)
      let watching := placed.1.engine.monitors.length
      ({ placed.1 with
          engine := placed.1.engine.spawnMonitor stages backoff placed.2
          drafted := none, watching := some watching }, .done)

def intervene (rig : Rig) : Command → Rig × Response
  | .observe => (rig, .nothing)
  | .advance millis =>
      let target := rig.engine.clock.nanos + (Duration.ofMillis millis).nanos
      (advanceTo { nanos := target } patience rig, .nothing)
  | .bindInput stage link field => rig.bind stage link field Stage.bindInput
  | .bindOutput stage link field => rig.bind stage link field Stage.bindOutput
  | .findLink source target =>
      match rig.occupancy with
      | .assembled edgeCount backoff =>
          let pipeline : Pipeline :=
            { engine := rig.engine, edgeCount := edgeCount, backoff := backoff }
          (rig, .label ((pipeline.link? source target).map
            fun link => (rig.engine.links.get link).label))
      | _ => (rig, .gone)
  | .run => rig.runPipeline
  | .materialize stage =>
      match rig.occupancy, rig.stage? stage with
      | .stages, some place =>
          match rig.engine.materialize place with
          | none => (rig, .gone)
          | some (moved, .error error) => ({ rig with engine := moved }, .refused (.stage error))
          | some (moved, .ok worker) => ({ rig with engine := moved }, .text worker.stage)
      | _, _ => (rig, .gone)
  | .spawn stage =>
      match (rig.stage? stage).bind rig.engine.spawn with
      | none => (rig, .gone)
      | some (moved, notices) => ({ rig with engine := moved }.note notices, .done)
  | .request stage asked =>
      match rig.stage? stage with
      | none => (rig, .gone)
      | some place =>
          match rig.perform (.request place asked) with
          | none => (rig, .gone)
          | some moved =>
              match moved.engine.lifecycles[place]? with
              | none => (moved, .gone)
              | some life => (moved, .text life.inspect)
  | .reply stage reply =>
      match rig.stage? stage with
      | none => (rig, .gone)
      | some place =>
          match rig.engine.posts[place]? with
          | none => (rig, .gone)
          | some post => rig.attempt (.answer place (reply.forKind post.stage.kind)) .noCall
  | .item stage item =>
      match rig.stage? stage with
      | none => (rig, .gone)
      | some place => rig.attempt (.feed place item) .noStream
  | .endStream stage =>
      match rig.stage? stage with
      | none => (rig, .gone)
      | some place => rig.attempt (.endStream place) .noStream
  | .put link packet =>
      let named := rig.linkNamed link
      let displaced := (named.1.engine.links.get named.2).slot
      match named.1.perform (.put named.2 packet) with
      | none => (named.1, .gone)
      | some moved => (moved, .packet displaced)
  | .take link =>
      let named := rig.linkNamed link
      let held := (named.1.engine.links.get named.2).slot
      match named.1.perform (.take named.2) with
      | none => (named.1, .gone)
      | some moved => (moved, .packet held)
  | .publish stages true =>
      match rig.ownBus with
      | none => (rig, .gone)
      | some bus => (rig.publishAll bus stages, .done)
  | .publish stages false => (rig.publishAll Engine.sharedBus stages, .done)
  | .finishAll =>
      match rig.running? with
      | none => (rig, .gone)
      | some running =>
          let finished := running.engine.finishAll
          ({ rig with engine := finished.1 }.note finished.2, .done)
  | .join =>
      match rig.running? with
      | none => (rig, .gone)
      | some running => ({ rig with engine := running.join, occupancy := .vacated }, .done)
  | .shutdown =>
      match rig.running? with
      | none => (rig, .gone)
      | some running =>
          let stopped := running.shutdown
          ({ rig with engine := stopped.1, occupancy := .vacated }.note stopped.2, .done)
  | .draftMonitor stages backoffMillis =>
      match stages.mapM rig.stage? with
      | none => (rig, .gone)
      | some places => ({ rig with drafted := some (places, .ofMillis backoffMillis) }, .done)
  | .pauseAll =>
      match rig.sweepDrafted .pause with
      | none => (rig, .gone)
      | some swept => (swept.1, .done)
  | .resumeAll =>
      match rig.sweepDrafted .resume with
      | none => (rig, .gone)
      | some swept => (swept.1, .count swept.2)
  | .spawnMonitor ownCapacity => rig.spawnDrafted ownCapacity
  | .stopMonitor =>
      match rig.watching with
      | none => (rig, .gone)
      | some index => rig.attempt (.stopMonitor index) .gone
  | .dropOwnBus =>
      match rig.ownBus with
      | none => (rig, .truth false)
      | some bus =>
          match rig.perform (.closeBus bus) with
          | none => (rig, .truth false)
          | some moved => ({ moved with ownBus := none }, .truth true)

inductive Pending where
  | none
  | unary
  | opening
  | stream
deriving DecidableEq

inductive Employment where
  | absent
  | ready
  | running
  | ended
deriving DecidableEq

structure StageView where
  name : String
  phase : Phase
  calls : Nat
  lastRequest : Option Message
  pending : Pending
  employment : Employment

structure View where
  stages : List StageView
  links : List (String × Bool)
  failures : List (String × StageError)
  reports : List String
  missedReports : Nat
  joined : Option Bool
  monitorStopped : Option Bool
  notices : List Notice

def pendingOf (worker : Worker) : Pending :=
  match worker.control with
  | .calling .. => .unary
  | .opening _ => .opening
  | .reading reading => if reading.stream.complete then .none else .stream
  | .delivering _ (some reading) => if reading.stream.complete then .none else .stream
  | _ => .none

def viewStage (post : Post) (record : CallRecord) : StageView :=
  { name := post.stage.name, phase := post.stage.lifecycle.phase, calls := record.count
    lastRequest := record.last
    pending := match post.spawned? with
      | some worker => pendingOf worker
      | none => .none
    employment := match post.slot with
      | .absent => .absent
      | .ready _ => .ready
      | .spawned worker => if worker.isOver then .ended else .running }

def noticesOf (effects : List Effect) : List Notice :=
  effects.filterMap fun effect =>
    match effect with
    | .noted notice => some notice
    | _ => none

def failuresOf (effects : List Effect) : List (String × StageError) :=
  effects.filterMap fun effect =>
    match effect with
    | .failed failure => some (failure.stage, failure.error)
    | _ => none

def view (rig : Rig) : Rig × View :=
  let observed := rig.observe
  let engine := rig.engine
  ({ observed.1 with effects := [] },
    { stages := List.zipWith viewStage engine.posts rig.records
      links := rig.known.map fun entry => (entry.1, (engine.links.get entry.2).isOccupied)
      failures := failuresOf rig.effects
      reports := observed.2.1
      missedReports := observed.2.2
      joined := engine.joiner.map fun joiner => joiner.control = .joined
      monitorStopped := rig.watching.map engine.monitorIsOver
      notices := noticesOf rig.effects })

/-- Carries out a command, lets all tasks run until they rest, and looks. -/
def step (rig : Rig) (command : Command) : Rig × Response × View :=
  let intervened := rig.intervene command
  let viewed := intervened.1.atRest.view
  (viewed.1, intervened.2, viewed.2)

end Sluice.Bench.Rig
