import Sluice.Monitor
import Sluice.Stage

set_option autoImplicit false

/-! All tasks of a system and what they share, as one transition system: every action either is blocked
or yields the next state and what it did. Tasks and surroundings may act in any order; a schedule is a
list of actions. -/

namespace Sluice

inductive FatalReaction where
  /-- Nothing more: the failing stage finishes. -/
  | note
  | finishAll
  /-- The failing worker's task is torn down on the spot. -/
  | crash
deriving DecidableEq

inductive WorkerSlot where
  | absent
  | ready (worker : Worker)
  | spawned (worker : Worker)

structure Post where
  stage : Stage
  slot : WorkerSlot

abbrev BusId := Nat

structure MonitorTask where
  monitor : Monitor
  bus : BusId
  shutdown : Bool

inductive JoinControl where
  | awaiting (rest : List StageId)
  | closing
  | joined
deriving DecidableEq

/-- Waits for workers in order, then stops a monitor and waits for it. -/
structure Joiner where
  monitor : Nat
  stageCount : Nat
  since : Duration
  control : JoinControl

/-- The first bus is the one that workers report on. -/
structure Engine where
  clock : Duration
  links : LinkStore
  posts : List Post
  buses : List ReportBus
  monitors : List MonitorTask
  joiner : Option Joiner
  onFatal : FatalReaction

inductive Action where
  | worker (stage : StageId) (cancelFirst : Bool)
  | monitor (index : Nat) (cancelFirst : Bool)
  | join
  | request (stage : StageId) (asked : LifecycleRequest)
  | answer (stage : StageId) (given : Worker.Answer)
  | feed (stage : StageId) (item : Except Status Message)
  | endStream (stage : StageId)
  | put (link : LinkId) (packet : Packet)
  | take (link : LinkId)
  | publish (bus : BusId) (stage : String)
  | closeBus (bus : BusId)
  | stopMonitor (index : Nat)
  | elapse (time : Duration)

namespace Post

def spawned? (post : Post) : Option Worker :=
  match post.slot with
  | .spawned worker => some worker
  | _ => none

def setLifecycle (post : Post) (life : Lifecycle) : Post :=
  { post with stage := { post.stage with lifecycle := life } }

end Post

namespace Engine

def sharedBus : BusId :=
  0

def idle (onFatal : FatalReaction) (eventCapacity : Nat) : Engine :=
  { clock := { nanos := 0 }, links := .empty, posts := [], buses := [.ofCapacity eventCapacity]
    monitors := [], joiner := none, onFatal := onFatal }

def stageNamed? (engine : Engine) (name : String) : Option StageId :=
  engine.posts.findIdx? fun post => post.stage.name = name

def lifecycles (engine : Engine) : Lifecycles :=
  engine.posts.map (·.stage.lifecycle)

def withLifecycles (engine : Engine) (lives : Lifecycles) : Engine :=
  { engine with posts := List.zipWith Post.setLifecycle engine.posts lives }

def busAt (engine : Engine) (bus : BusId) : ReportBus :=
  engine.buses.getD bus (.ofCapacity 1)

def withBus (engine : Engine) (bus : BusId) (held : ReportBus) : Engine :=
  { engine with buses := engine.buses.set bus held }

def withPost (engine : Engine) (stage : StageId) (post : Post) : Engine :=
  { engine with posts := engine.posts.set stage post }

def allStages (engine : Engine) : List StageId :=
  List.range engine.posts.length

def finishAll (engine : Engine) : Engine × List Notice :=
  let finished := Lifecycles.requestAll .finish engine.allStages engine.lifecycles
  (engine.withLifecycles finished.1, finished.2)

def isFailure : Effect → Bool
  | .failed _ => true
  | _ => false

def reactTo (engine : Engine) (stage : StageId) : Engine × List Effect :=
  match engine.onFatal with
  | .note => (engine, [])
  | .finishAll =>
      let finished := engine.finishAll
      (finished.1, Effect.ofNotices finished.2)
  | .crash =>
      match engine.posts[stage]? with
      | some post =>
          match post.slot with
          | .spawned worker =>
              (engine.withPost stage
                { post with slot := .spawned { worker with control := .crashed } }, [])
          | _ => (engine, [])
      | none => (engine, [])

def stepWorker (engine : Engine) (stage : StageId) (cancelFirst : Bool) :
    Option (Engine × List Effect) :=
  match engine.posts[stage]? with
  | none => none
  | some post =>
      match post.slot with
      | .spawned worker =>
          match worker.step engine.clock cancelFirst post.stage.lifecycle engine.links
              (engine.busAt sharedBus) with
          | none => none
          | some stepped =>
              let moved := post.setLifecycle stepped.lifecycle
              let next :=
                { (engine.withPost stage { moved with slot := .spawned stepped.worker }).withBus
                    sharedBus stepped.bus with links := stepped.links }
              if stepped.effects.any isFailure then
                let reacted := next.reactTo stage
                some (reacted.1, stepped.effects ++ reacted.2)
              else some (next, stepped.effects)
      | _ => none

def stepMonitor (engine : Engine) (index : Nat) (cancelFirst : Bool) :
    Option (Engine × List Effect) :=
  match engine.monitors[index]? with
  | none => none
  | some task =>
      match task.monitor.step engine.clock task.shutdown cancelFirst engine.lifecycles
          (engine.busAt task.bus) with
      | none => none
      | some stepped =>
          let next := (engine.withLifecycles stepped.lifecycles).withBus task.bus stepped.bus
          some ({ next with
              monitors := next.monitors.set index { task with monitor := stepped.monitor } },
            Effect.ofNotices stepped.notices)

def stopMonitor (engine : Engine) (index : Nat) : Engine :=
  { engine with
    monitors := engine.monitors.modify index fun task => { task with shutdown := true } }

def monitorIsOver (engine : Engine) (index : Nat) : Bool :=
  match engine.monitors[index]? with
  | none => true
  | some task => task.monitor.isOver

/-- What a worker's task left behind: nothing yet, its end, or its collapse. -/
def endOf (engine : Engine) (stage : StageId) : Option (List Notice) :=
  match engine.posts[stage]? with
  | none => some []
  | some post =>
      match post.spawned? with
      | none => some []
      | some worker =>
          match worker.control with
          | .ended => some []
          | _ =>
              if worker.isOver then some [.workerJoinFailed post.stage.name "task panicked"]
              else none

def stepJoin (engine : Engine) : Option (Engine × List Effect) :=
  match engine.joiner with
  | none => none
  | some joiner =>
      let goTo (moved : Engine) (control : JoinControl) (notices : List Notice) :
          Option (Engine × List Effect) :=
        some ({ moved with joiner := some { joiner with control := control } },
          Effect.ofNotices notices)
      match joiner.control with
      | .awaiting (stage :: rest) =>
          match engine.endOf stage with
          | none => none
          | some notices => goTo engine (.awaiting rest) notices
      | .awaiting [] => goTo (engine.stopMonitor joiner.monitor) .closing []
      | .closing =>
          if engine.monitorIsOver joiner.monitor then
            goTo engine .joined
              [.pipelineStopped joiner.stageCount
                { nanos := engine.clock.nanos - joiner.since.nanos }]
          else none
      | .joined => none

def onWorker (engine : Engine) (stage : StageId) (change : Worker → Option Worker) :
    Option (Engine × List Effect) :=
  match engine.posts[stage]? with
  | none => none
  | some post =>
      match post.spawned?.bind change with
      | none => none
      | some worker => some (engine.withPost stage { post with slot := .spawned worker }, [])

/-- One action, `none` while it is blocked or does not apply. -/
def act (engine : Engine) : Action → Option (Engine × List Effect)
  | .worker stage cancelFirst => engine.stepWorker stage cancelFirst
  | .monitor index cancelFirst => engine.stepMonitor index cancelFirst
  | .join => engine.stepJoin
  | .request stage asked =>
      let result := engine.lifecycles.request stage asked
      some (engine.withLifecycles result.1, Effect.ofNotices result.2)
  | .answer stage given => engine.onWorker stage fun worker => worker.answer engine.clock given
  | .feed stage item => engine.onWorker stage (Worker.feed item)
  | .endStream stage => engine.onWorker stage Worker.endStream
  | .put link packet =>
      let stored := engine.links.put link packet
      some ({ engine with links := stored.1 },
        .stored link packet :: Effect.ofNotices stored.2.2)
  | .take link =>
      let taken := (engine.links.get link).takeNow
      some ({ engine with links := engine.links.set link taken.1 }, [])
  | .publish bus stage =>
      some (engine.withBus bus ((engine.busAt bus).publish stage), [.reported stage])
  | .closeBus bus => some (engine.withBus bus (engine.busAt bus).close, [])
  | .stopMonitor index => some (engine.stopMonitor index, [])
  | .elapse time =>
      some ({ engine with clock := { nanos := engine.clock.nanos + time.nanos } }, [])

def materialize (engine : Engine) (stage : StageId) :
    Option (Engine × Except StageError Worker) :=
  match engine.posts[stage]? with
  | none => none
  | some post =>
      let made := post.stage.materialize
      let moved := { post with stage := made.1 }
      match made.2 with
      | .error error => some (engine.withPost stage moved, .error error)
      | .ok worker => some (engine.withPost stage { moved with slot := .ready worker }, .ok worker)

def spawn (engine : Engine) (stage : StageId) : Option (Engine × List Notice) :=
  match engine.posts[stage]? with
  | none => none
  | some post =>
      match post.slot with
      | .ready worker =>
          some (engine.withPost stage { post with slot := .spawned worker }, [worker.started])
      | _ => none

/-- Starts a monitor over some stages, subscribed to a bus from now on. -/
def spawnMonitor (engine : Engine) (stages : List StageId) (backoff : Duration) (bus : BusId) :
    Engine :=
  let held := engine.busAt bus
  let task : MonitorTask :=
    { monitor := .create stages backoff held.nextSubscriber, bus := bus, shutdown := false }
  { engine.withBus bus held.subscribe with monitors := engine.monitors ++ [task] }

def nextDeadline? (engine : Engine) : Option Duration :=
  let deadlines := engine.monitors.filterMap fun task => task.monitor.deadline?
  deadlines.foldl
    (fun least deadline =>
      match least with
      | none => some deadline
      | some held => some (if deadline.nanos < held.nanos then deadline else held))
    none

end Sluice.Engine
