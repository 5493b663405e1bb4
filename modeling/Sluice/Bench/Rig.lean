import Sluice.Bench.StandIn
import Sluice.Pipeline

set_option autoImplicit false

/-! An engine on a bench: stand-ins answer its calls, time moves only on request, and after every
intervention all tasks run until each of them is blocked. -/

namespace Sluice.Bench

structure CallRecord where
  count : Nat
  last : Option Message

/-- What is left of the pipeline that the rig was made for. -/
inductive Occupancy where
  /-- Single stages, no pipeline. -/
  | stages
  | assembled (edgeCount : Nat) (backoff : Duration)
  | running (monitor : Nat) (since : Duration)
  | vacated

/-- `observer` is the rig's own place on the shared bus, `known` the links that have names. -/
structure Rig where
  engine : Engine
  standIns : List StandIn
  records : List CallRecord
  known : List (String × LinkId)
  observer : Nat
  occupancy : Occupancy
  drafted : Option (List StageId × Duration)
  watching : Option Nat
  ownBus : Option BusId
  effects : List Effect

namespace Rig

def ofEngine (engine : Engine) (standIns : List (String × StandIn)) (known : List (String × LinkId))
    (occupancy : Occupancy) : Rig :=
  let bus := engine.busAt Engine.sharedBus
  { engine := engine.withBus Engine.sharedBus bus.subscribe
    standIns := engine.posts.map fun post => (standIns.lookup post.stage.name).getD .manual
    records := engine.posts.map fun _ => { count := 0, last := none }
    known := known, observer := bus.nextSubscriber, occupancy := occupancy, drafted := none
    watching := none, ownBus := none, effects := [] }

def ofStages (descriptors : List StageDescriptor) (standIns : List (String × StandIn))
    (onFatal : FatalReaction) (eventCapacity : Nat) : Except PipelineError Rig :=
  match Pipeline.buildStages (StandIn.connector standIns) descriptors with
  | .error error => .error error
  | .ok stages =>
      let posts := stages.map fun stage => { stage := stage, slot := .absent : Post }
      .ok (ofEngine { Engine.idle onFatal eventCapacity with posts := posts } standIns [] .stages)

def firstNames (links : LinkStore) : List (String × LinkId) :=
  (links.links.map (·.label)).zipIdx.foldl
    (fun held entry => if (held.lookup entry.1).isSome then held else held ++ [entry]) []

def ofPipeline (pipeline : Pipeline) (standIns : List (String × StandIn)) : Rig :=
  ofEngine pipeline.engine standIns (firstNames pipeline.engine.links)
    (.assembled pipeline.edgeCount pipeline.backoff)

def note (rig : Rig) (notices : List Notice) : Rig :=
  { rig with effects := rig.effects ++ Effect.ofNotices notices }

def onCall (rig : Rig) (stage : StageId) (request : Message) : Rig :=
  let recorded :=
    { rig with
      records := rig.records.modify stage fun record =>
        { count := record.count + 1, last := some request } }
  match rig.standIns[stage]?, rig.engine.posts[stage]? with
  | some standIn, some post =>
      let answered := standIn.onCall request
      let moved := { recorded with standIns := recorded.standIns.set stage answered.1 }
      match answered.2 with
      | none => moved
      | some reply =>
          match moved.engine.act (.answer stage (reply.forKind post.stage.kind)) with
          | none => moved
          | some result => { moved with engine := result.1 }
  | _, _ => recorded

def afterEffects (stage : StageId) (rig : Rig) : List Effect → Rig
  | [] => rig
  | .called request :: rest => afterEffects stage (rig.onCall stage request) rest
  | _ :: rest => afterEffects stage rig rest

def perform (rig : Rig) (action : Action) : Option Rig :=
  match rig.engine.act action with
  | none => none
  | some (moved, effects) =>
      let next := { rig with engine := moved, effects := rig.effects ++ effects }
      match action with
      | .worker stage _ => some (afterEffects stage next effects)
      | _ => some next

def tasks (rig : Rig) : List Action :=
  (List.range rig.engine.posts.length).map (fun stage => .worker stage false) ++
    (List.range rig.engine.monitors.length).map (fun index => .monitor index false) ++ [.join]

def exhaust (task : Action) : Nat → Rig → Rig
  | 0, rig => rig
  | steps + 1, rig =>
      match rig.perform task with
      | none => rig
      | some moved => exhaust task steps moved

/-- The steps that a task may take before the others get their turn. -/
def turn : Nat :=
  1024

def round : List Action → Rig → Rig × Bool
  | [], rig => (rig, false)
  | task :: rest, rig =>
      match rig.perform task with
      | none => round rest rig
      | some moved => ((round rest (exhaust task turn moved)).1, true)

/-- Rounds until every task is blocked. A system that never comes to rest is cut off. -/
def settle : Nat → Rig → Rig
  | 0, rig => rig
  | rounds + 1, rig =>
      let next := round rig.tasks rig
      if next.2 then settle rounds next.1 else next.1

def patience : Nat :=
  1000000

def atRest (rig : Rig) : Rig :=
  rig.settle patience

def setClock (rig : Rig) (clock : Duration) : Rig :=
  { rig with engine := { rig.engine with clock := clock } }

/-- Moves time to an instant; timers on the way fire in turn, one that is due at the end included. -/
def advanceTo (target : Duration) : Nat → Rig → Rig
  | 0, rig => rig
  | timers + 1, rig =>
      match rig.engine.nextDeadline? with
      | some deadline =>
          if deadline.nanos ≤ target.nanos then
            advanceTo target timers (rig.setClock deadline).atRest
          else (rig.setClock target).atRest
      | none => (rig.setClock target).atRest

def drain : Nat → Rig → Rig × List String × Nat
  | 0, rig => (rig, [], 0)
  | more + 1, rig =>
      let received := (rig.engine.busAt Engine.sharedBus).receive rig.observer
      let moved := { rig with engine := rig.engine.withBus Engine.sharedBus received.1 }
      match received.2 with
      | .report stage =>
          let later := drain more moved
          (later.1, stage :: later.2.1, later.2.2)
      | .lagged missed =>
          let later := drain more moved
          (later.1, later.2.1, missed + later.2.2)
      | .empty | .closed => (moved, [], 0)

def observe (rig : Rig) : Rig × List String × Nat :=
  rig.drain ((rig.engine.busAt Engine.sharedBus).kept.length + 2)

def linkNamed (rig : Rig) (name : String) : Rig × LinkId :=
  match rig.known.lookup name with
  | some link => (rig, link)
  | none =>
      let link := rig.engine.links.next
      ({ rig with
          engine := { rig.engine with links := rig.engine.links.add name }
          known := rig.known ++ [(name, link)] }, link)

end Sluice.Bench.Rig
