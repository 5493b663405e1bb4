import Sluice.Lifecycle
import Sluice.ReportBus

set_option autoImplicit false

/-! The monitor's answer to reports of unreachable services: pause all stages, wait out a fixed backoff,
drop the reports that came meanwhile, resume all stages. Its sweeps go stage by stage, so workers may
run between any two of them. -/

namespace Sluice

abbrev StageId := Nat

inductive MonitorControl where
  | listening
  | pausing (rest : List StageId)
  | sleeping (deadline : Duration)
  | draining
  | resuming (rest : List StageId) (resumed : Nat)
  | stopped
deriving DecidableEq

/-- `subscriber` is the monitor's place on its bus. -/
structure Monitor where
  stages : List StageId
  backoff : Duration
  subscriber : Nat
  control : MonitorControl
deriving DecidableEq

abbrev Lifecycles := List Lifecycle

structure MonitorStep where
  monitor : Monitor
  lifecycles : Lifecycles
  bus : ReportBus
  notices : List Notice

namespace Lifecycles

def request (lives : Lifecycles) (stage : StageId) (asked : LifecycleRequest) :
    Lifecycles × List Notice :=
  match lives[stage]? with
  | none => (lives, [])
  | some life =>
      let result := life.request asked
      (lives.set stage result.1, result.2)

def isLive (lives : Lifecycles) (stage : StageId) : Bool :=
  match lives[stage]? with
  | none => false
  | some life => !life.isFinished

def requestAll (asked : LifecycleRequest) : List StageId → Lifecycles → Lifecycles × List Notice
  | [], lives => (lives, [])
  | stage :: rest, lives =>
      let result := lives.request stage asked
      let later := requestAll asked rest result.1
      (later.1, result.2 ++ later.2)

/-- Makes a request to each of the stages in turn that has not finished by then; counts them. -/
def sweep (asked : LifecycleRequest) :
    List StageId → Lifecycles → Lifecycles × Nat × List Notice
  | [], lives => (lives, 0, [])
  | stage :: rest, lives =>
      if lives.isLive stage then
        let result := lives.request stage asked
        let later := sweep asked rest result.1
        (later.1, later.2.1 + 1, result.2 ++ later.2.2)
      else sweep asked rest lives

end Lifecycles

namespace Monitor

def create (stages : List StageId) (backoff : Duration) (subscriber : Nat) : Monitor :=
  { stages := stages, backoff := backoff, subscriber := subscriber, control := .listening }

def isOver (monitor : Monitor) : Bool :=
  monitor.control = .stopped

def deadline? (monitor : Monitor) : Option Duration :=
  match monitor.control with
  | .sleeping deadline => some deadline
  | _ => none

/-- One step, `none` while the monitor is blocked or over. A shutdown comes before a report; between a
shutdown and the end of the backoff, `cancelFirst` decides. -/
def step (now : Duration) (shutdown cancelFirst : Bool) (lives : Lifecycles) (bus : ReportBus)
    (monitor : Monitor) : Option MonitorStep :=
  let goTo (control : MonitorControl) (notices : List Notice) : Option MonitorStep :=
    some { monitor := { monitor with control := control }, lifecycles := lives, bus := bus
           notices := notices }
  match monitor.control with
  | .listening =>
      if shutdown then goTo .stopped [.monitorStopped]
      else
        let received := bus.receive monitor.subscriber
        match received.2 with
        | .empty => none
        | .closed => goTo .stopped [.monitorStopped]
        | .lagged missed =>
            some { monitor := monitor, lifecycles := lives, bus := received.1
                   notices := [.reportsLagged missed] }
        | .report stage =>
            some { monitor := { monitor with control := .pausing monitor.stages }
                   lifecycles := lives, bus := received.1
                   notices := [.backoffStarted stage monitor.stages.length monitor.backoff] }
  | .pausing [] => goTo (.sleeping { nanos := now.nanos + monitor.backoff.nanos }) []
  | .pausing (stage :: rest) =>
      let paused := Lifecycles.sweep .pause [stage] lives
      some { monitor := { monitor with control := .pausing rest }, lifecycles := paused.1, bus := bus
             notices := paused.2.2 }
  | .sleeping deadline =>
      let elapsed : Bool := deadline.nanos ≤ now.nanos
      if shutdown && (cancelFirst || !elapsed) then goTo .stopped [.monitorStopped]
      else if elapsed then goTo .draining []
      else none
  | .draining =>
      let received := bus.receive monitor.subscriber
      match received.2 with
      | .empty | .closed => goTo (.resuming monitor.stages 0) []
      | .lagged missed =>
          some { monitor := monitor, lifecycles := lives, bus := received.1
                 notices := [.reportsLagged missed] }
      | .report stage =>
          some { monitor := monitor, lifecycles := lives, bus := received.1
                 notices := [.reportAbsorbed stage] }
  | .resuming [] resumed => goTo .listening [.stagesResumed resumed]
  | .resuming (stage :: rest) resumed =>
      let swept := Lifecycles.sweep .resume [stage] lives
      some { monitor := { monitor with control := .resuming rest (resumed + swept.2.1) }
             lifecycles := swept.1, bus := bus, notices := swept.2.2 }
  | .stopped => none

end Sluice.Monitor
