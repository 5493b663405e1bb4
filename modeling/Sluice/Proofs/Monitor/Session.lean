import Mathlib.Algebra.GroupWithZero.Nat
import Sluice.Proofs.Lifecycle.Sweep
import Sluice.Proofs.Log.Lawful
import Sluice.Proofs.Monitor.Step
import Sluice.Proofs.ReportBus.Numbering

set_option autoImplicit false

/-! A monitor at work while reports, requests, time and the shutdown come as they like, and the log of what
can be seen of it. Each event has its place: a backoff begins, its reports are drained, its stages are
resumed; and the reports that are gone count up to the monitor's place on its bus. -/

namespace Sluice

inductive MonitorEvent where
  | published (stage : String)
  | began (stage : String)
  | absorbed (stage : String)
  | lagged (missed : Nat)
  | drained
  | resumed (stage : StageId)
  | swept (count : Nat)
  | stopped
deriving DecidableEq

namespace MonitorEvent

def begins : MonitorEvent → Bool
  | .began _ => true
  | _ => false

def drains : MonitorEvent → Bool
  | .drained => true
  | _ => false

def sweeps : MonitorEvent → Bool
  | .swept _ => true
  | _ => false

def takes : MonitorEvent → Nat
  | .began _ | .absorbed _ => 1
  | .lagged missed => missed
  | .published _ | .drained | .resumed _ | .swept _ | .stopped => 0

def report? : MonitorEvent → Option String
  | .published stage => some stage
  | _ => none

def ofNotice? : Notice → Option MonitorEvent
  | .backoffStarted stage _ _ => some (.began stage)
  | .reportAbsorbed stage => some (.absorbed stage)
  | .reportsLagged missed => some (.lagged missed)
  | .stagesResumed count => some (.swept count)
  | .monitorStopped => some .stopped
  | _ => none

end MonitorEvent

namespace MonitorLog

def begins (log : List MonitorEvent) : Nat :=
  log.countP MonitorEvent.begins

def drains (log : List MonitorEvent) : Nat :=
  log.countP MonitorEvent.drains

def sweeps (log : List MonitorEvent) : Nat :=
  log.countP MonitorEvent.sweeps

def consumed (log : List MonitorEvent) : Nat :=
  (log.map MonitorEvent.takes).sum

def reports (log : List MonitorEvent) : List String :=
  log.filterMap MonitorEvent.report?

variable {log earlier later : List MonitorEvent} {event : MonitorEvent}

theorem begins_append : begins (earlier ++ later) = begins earlier + begins later :=
  List.countP_append

theorem drains_append : drains (earlier ++ later) = drains earlier + drains later :=
  List.countP_append

theorem sweeps_append : sweeps (earlier ++ later) = sweeps earlier + sweeps later :=
  List.countP_append

theorem consumed_append : consumed (earlier ++ later) = consumed earlier + consumed later := by
  unfold consumed
  rw [List.map_append, List.sum_append]

theorem reports_append : reports (earlier ++ later) = reports earlier ++ reports later :=
  List.filterMap_append

/-- Where a monitor stands by what it has logged: no backoff is under way, one is and its reports are not
drained yet, or they are and the sweep is not complete. -/
def Calm (log : List MonitorEvent) : Prop :=
  begins log = drains log ∧ drains log = sweeps log

def Waiting (log : List MonitorEvent) : Prop :=
  begins log = drains log + 1 ∧ drains log = sweeps log

def Resuming (log : List MonitorEvent) : Prop :=
  begins log = drains log ∧ drains log = sweeps log + 1

theorem Calm.began {stage : String} (calm : Calm log) : Waiting (log ++ [.began stage]) := by
  obtain ⟨begun, drained⟩ := calm
  unfold Waiting
  rw [begins_append, drains_append, sweeps_append]
  exact ⟨congrArg (· + 1) begun, drained⟩

theorem Waiting.drained (waiting : Waiting log) : Resuming (log ++ [.drained]) := by
  obtain ⟨begun, drained⟩ := waiting
  unfold Resuming
  rw [begins_append, drains_append, sweeps_append]
  exact ⟨begun, congrArg (· + 1) drained⟩

theorem Resuming.swept {count : Nat} (resuming : Resuming log) : Calm (log ++ [.swept count]) := by
  obtain ⟨begun, drained⟩ := resuming
  unfold Calm
  rw [begins_append, drains_append, sweeps_append]
  exact ⟨begun, drained⟩

/-- An event that neither begins nor ends a phase of a backoff. -/
def Aside (event : MonitorEvent) : Prop :=
  event.begins = false ∧ event.drains = false ∧ event.sweeps = false

theorem counts_aside (log : List MonitorEvent) (aside : Aside event) :
    begins (log ++ [event]) = begins log ∧ drains (log ++ [event]) = drains log ∧
      sweeps (log ++ [event]) = sweeps log := by
  obtain ⟨begin, drain, sweep⟩ := aside
  unfold begins drains sweeps
  simp only [List.countP_append, List.countP_singleton, begin, drain, sweep]
  exact ⟨rfl, rfl, rfl⟩

/-- When an event can follow. The report that starts or prolongs a backoff is the first that has not been
consumed. -/
def Follows (log : List MonitorEvent) : MonitorEvent → Prop
  | .published _ => True
  | .began stage => .stopped ∉ log ∧ Calm log ∧ (reports log)[consumed log]? = some stage
  | .absorbed stage => .stopped ∉ log ∧ Waiting log ∧ (reports log)[consumed log]? = some stage
  | .lagged missed => .stopped ∉ log ∧ (Calm log ∨ Waiting log) ∧
      consumed log + missed ≤ (reports log).length
  | .drained => .stopped ∉ log ∧ Waiting log ∧ consumed log = (reports log).length
  | .resumed _ | .swept _ => .stopped ∉ log ∧ Resuming log
  | .stopped => .stopped ∉ log ∧ (Calm log ∨ Waiting log)

end MonitorLog

structure MonitorSession where
  monitor : Monitor
  lives : Lifecycles
  bus : ReportBus
  now : Duration
  shutdown : Bool
  log : List MonitorEvent

/-- What can happen next: anything around the monitor, or a step of its own. -/
inductive MonitorAction where
  | publish (stage : String)
  | subscribe
  | close
  | request (stage : StageId) (asked : LifecycleRequest)
  | stop
  | elapse (time : Duration)
  | step (cancelFirst : Bool)

namespace MonitorSession

def start (bus : ReportBus) (stages : List StageId) (backoff now : Duration) (lives : Lifecycles) :
    MonitorSession :=
  { monitor := .create stages backoff bus.nextSubscriber, lives := lives, bus := bus.subscribe
    now := now, shutdown := false, log := [] }

/-- What a step shows. The end of a drain and the turns of a resume sweep are seen by where the monitor
goes, everything else by its notices. -/
def shown (session : MonitorSession) (stepped : MonitorStep) : List MonitorEvent :=
  match session.monitor.control, stepped.monitor.control with
  | .draining, .resuming .. => [.drained]
  | .resuming (stage :: _) _, _ => if session.lives.isLive stage then [.resumed stage] else []
  | .pausing _, _ => []
  | _, _ => stepped.notices.filterMap MonitorEvent.ofNotice?

/-- One action; a step of a monitor that is blocked or over changes nothing. -/
def act (session : MonitorSession) : MonitorAction → MonitorSession
  | .publish stage =>
      { session with bus := session.bus.publish stage, log := session.log ++ [.published stage] }
  | .subscribe => { session with bus := session.bus.subscribe }
  | .close => { session with bus := session.bus.close }
  | .request stage asked => { session with lives := (session.lives.request stage asked).1 }
  | .stop => { session with shutdown := true }
  | .elapse time => { session with now := { nanos := session.now.nanos + time.nanos } }
  | .step cancelFirst =>
      match session.monitor.step session.now session.shutdown cancelFirst session.lives session.bus with
      | none => session
      | some stepped =>
          { session with
            monitor := stepped.monitor, lives := stepped.lifecycles, bus := stepped.bus
            log := session.log ++ session.shown stepped }

def run (actions : List MonitorAction) (session : MonitorSession) : MonitorSession :=
  actions.foldl act session

/-- What the log says of a monitor at this point of its loop. -/
def Shows (log : List MonitorEvent) : MonitorControl → Prop
  | .listening => .stopped ∉ log ∧ MonitorLog.Calm log
  | .pausing _ | .sleeping _ | .draining => .stopped ∉ log ∧ MonitorLog.Waiting log
  | .resuming .. => .stopped ∉ log ∧ MonitorLog.Resuming log
  | .stopped => .stopped ∈ log ∧ (MonitorLog.Calm log ∨ MonitorLog.Waiting log)

structure Kept (stages : List StageId) (first : Nat) (session : MonitorSession) : Prop where
  own : session.monitor.stages = stages
  subscribed : session.monitor.subscriber < session.bus.cursors.length
  counts : session.bus.Counts first (MonitorLog.reports session.log)
  place : session.bus.place session.monitor.subscriber = first + MonitorLog.consumed session.log
  lawful : Log.Lawful MonitorLog.Follows session.log
  shows : Shows session.log session.monitor.control

variable {stages : List StageId} {first : Nat} {session : MonitorSession} {event : MonitorEvent}
  {log : List MonitorEvent} {control : MonitorControl} {lives : Lifecycles} {bus : ReportBus}

theorem Shows.aside (shows : Shows log control) (aside : MonitorLog.Aside event)
    (goesOn : event ≠ .stopped) : Shows (log ++ [event]) control := by
  have ends : .stopped ∈ log ++ [event] ↔ .stopped ∈ log := by
    rw [List.mem_append, List.mem_singleton]
    exact or_iff_left goesOn.symm
  obtain ⟨begun, drained, swept⟩ := MonitorLog.counts_aside log aside
  cases control <;>
    simpa only [Shows, MonitorLog.Calm, MonitorLog.Waiting, MonitorLog.Resuming, ends, begun, drained,
      swept] using shows

theorem unstopped_append (goesOn : .stopped ∉ log) (other : event ≠ .stopped) :
    .stopped ∉ log ++ [event] := by
  intro ended
  rcases List.mem_append.mp ended with old | new
  · exact goesOn old
  · exact other (List.mem_singleton.mp new).symm

private theorem Kept.told (kept : session.Kept stages first) (own : event.report? = none)
    (follows : MonitorLog.Follows session.log event)
    (subscribed : session.monitor.subscriber < bus.cursors.length)
    (counts : bus.Counts first (MonitorLog.reports session.log))
    (place : bus.place session.monitor.subscriber =
      first + (MonitorLog.consumed session.log + event.takes))
    (shows : Shows (session.log ++ [event]) control) :
    Kept stages first
      { session with
        monitor := { session.monitor with control := control }, lives := lives, bus := bus
        log := session.log ++ [event] } := by
  have single : MonitorLog.reports [event] = [] := by simp [MonitorLog.reports, own]
  have taken : MonitorLog.consumed [event] = event.takes := by simp [MonitorLog.consumed]
  refine ⟨kept.own, subscribed, ?_, ?_, .more kept.lawful follows, shows⟩
  · rw [MonitorLog.reports_append, single, List.append_nil]
    exact counts
  · rw [MonitorLog.consumed_append, taken]
    exact place

theorem shows_stopped (stops : MonitorLog.Calm log ∨ MonitorLog.Waiting log) :
    Shows (log ++ [.stopped]) .stopped := by
  refine ⟨List.mem_append_right _ List.mem_cons_self, ?_⟩
  have aside : MonitorLog.Aside .stopped := ⟨rfl, rfl, rfl⟩
  obtain ⟨begun, drained, swept⟩ := MonitorLog.counts_aside log aside
  unfold MonitorLog.Calm MonitorLog.Waiting
  rw [begun, drained, swept]
  exact stops

private theorem Kept.silent (kept : session.Kept stages first) (shows : Shows session.log control) :
    Kept stages first
      { session with
        monitor := { session.monitor with control := control }, lives := lives
        log := session.log ++ [] } := by
  rw [List.append_nil]
  exact ⟨kept.own, kept.subscribed, kept.counts, kept.place, kept.lawful, shows⟩

private theorem Kept.received {given : ReportBus × Reception} (kept : session.Kept stages first)
    (received : session.bus.Received session.monitor.subscriber given) :
    session.monitor.subscriber < given.1.cursors.length ∧
      session.bus.Advanced session.monitor.subscriber first (MonitorLog.reports session.log)
        (MonitorLog.consumed session.log) given := by
  refine ⟨?_, received.advanced kept.counts kept.subscribed kept.place⟩
  rw [ReportBus.length_cursors_received received]
  exact kept.subscribed

private theorem shown_goesTo {before next : MonitorControl} {notices : List Notice} :
    session.monitor.control = before → session.shown (session.monitor.goesTo lives bus next notices) =
      match before, next with
      | .draining, .resuming .. => [.drained]
      | .resuming (stage :: _) _, _ => if session.lives.isLive stage then [.resumed stage] else []
      | .pausing _, _ => []
      | _, _ => notices.filterMap MonitorEvent.ofNotice? := by
  intro control
  unfold shown
  rw [control]
  rfl

private theorem Shows.unswept (shows : Shows log control)
    (waits : control = .listening ∨ control = .draining ∨ ∃ deadline, control = .sleeping deadline) :
    .stopped ∉ log ∧ (MonitorLog.Calm log ∨ MonitorLog.Waiting log) := by
  rcases waits with control | control | ⟨deadline, control⟩
  · subst control
    exact ⟨shows.1, Or.inl shows.2⟩
  · subst control
    exact ⟨shows.1, Or.inr shows.2⟩
  · subst control
    exact ⟨shows.1, Or.inr shows.2⟩

private theorem Kept.stops (kept : session.Kept stages first)
    (stops : session.monitor.control = .listening ∨
      ∃ deadline, session.monitor.control = .sleeping deadline) :
    Kept stages first
      { session with
        monitor := { session.monitor with control := .stopped }, lives := lives
        log := session.log ++
          session.shown (session.monitor.goesTo lives bus .stopped [.monitorStopped]) } := by
  obtain ⟨goesOn, phases⟩ := kept.shows.unswept (stops.imp_right Or.inr)
  have seen : session.shown (session.monitor.goesTo lives bus .stopped [.monitorStopped]) = [.stopped] := by
    rcases stops with control | ⟨deadline, control⟩
    · exact shown_goesTo control
    · exact shown_goesTo control
  rw [seen]
  exact kept.told rfl ⟨goesOn, phases⟩ kept.subscribed kept.counts kept.place (shows_stopped phases)

private theorem Kept.stepped {stepped : MonitorStep} (kept : session.Kept stages first)
    (moved : session.monitor.Stepped session.now session.shutdown session.lives session.bus stepped) :
    Kept stages first
      { session with
        monitor := stepped.monitor, lives := stepped.lifecycles, bus := stepped.bus
        log := session.log ++ session.shown stepped } := by
  have shows := kept.shows
  cases moved with
  | dismissed fired control => exact kept.stops control
  | orphaned control received => exact kept.stops (Or.inl control)
  | @lagged after missed control received =>
      obtain ⟨goesOn, phases⟩ := shows.unswept (control.imp_right Or.inl)
      obtain ⟨subscribed, advanced⟩ := kept.received received
      have seen : session.shown (session.monitor.goesTo session.lives after session.monitor.control
          [.reportsLagged missed]) = [.lagged missed] := by
        rcases control with control | control
        · exact (shown_goesTo control).trans (by rw [control]; rfl)
        · exact (shown_goesTo control).trans (by rw [control]; rfl)
      rw [seen]
      cases advanced with
      | lagged counts place within =>
          exact kept.told rfl ⟨goesOn, phases, within⟩ subscribed counts place
            (shows.aside ⟨rfl, rfl, rfl⟩ nofun)
      | nothing silent => rcases silent with impossible | impossible <;> cases impossible
  | @alarmed after stage control received =>
      obtain ⟨subscribed, advanced⟩ := kept.received received
      rw [control] at shows
      rw [shown_goesTo control]
      cases advanced with
      | report counts place found =>
          exact kept.told rfl ⟨shows.1, shows.2, found⟩ subscribed counts place
            ⟨unstopped_append shows.1 nofun, shows.2.began⟩
      | nothing silent => rcases silent with impossible | impossible <;> cases impossible
  | paused control | slept control | woke control =>
      rw [control] at shows
      rw [shown_goesTo control]
      exact kept.silent shows
  | @absorbed after stage control received =>
      obtain ⟨subscribed, advanced⟩ := kept.received received
      have seen : session.shown (session.monitor.goesTo session.lives after session.monitor.control
          [.reportAbsorbed stage]) = [.absorbed stage] := (shown_goesTo control).trans (by rw [control]; rfl)
      have still := shows
      rw [control] at still
      rw [seen]
      cases advanced with
      | report counts place found =>
          exact kept.told rfl ⟨still.1, still.2, found⟩ subscribed counts place
            (shows.aside ⟨rfl, rfl, rfl⟩ nofun)
      | nothing silent => rcases silent with impossible | impossible <;> cases impossible
  | drained control received silent =>
      have advanced := (kept.received received).2
      rw [control] at shows
      rw [shown_goesTo control]
      have all : MonitorLog.consumed session.log = (MonitorLog.reports session.log).length := by
        cases advanced with
        | nothing _ all => exact all
        | lagged | report => rcases silent with impossible | impossible <;> cases impossible
      exact kept.told rfl ⟨shows.1, shows.2, all⟩ kept.subscribed kept.counts kept.place
        ⟨unstopped_append shows.1 nofun, shows.2.drained⟩
  | @resumed stage rest count control =>
      rw [control] at shows
      rw [shown_goesTo control]
      change Kept stages first
        { session with
          monitor := { session.monitor with control := _ }, lives := _
          log := session.log ++ if session.lives.isLive stage then [.resumed stage] else [] }
      cases live : session.lives.isLive stage with
      | true =>
          have aside : MonitorLog.Aside (.resumed stage) := ⟨rfl, rfl, rfl⟩
          have after : Shows (session.log ++ [.resumed stage]) (.resuming (stage :: rest) count) :=
            Shows.aside shows aside nofun
          exact kept.told rfl shows kept.subscribed kept.counts kept.place after
      | false => exact kept.silent shows
  | recovered control =>
      rw [control] at shows
      rw [shown_goesTo control]
      exact kept.told rfl shows kept.subscribed kept.counts kept.place
        ⟨unstopped_append shows.1 nofun, shows.2.swept⟩

theorem Kept.act (kept : session.Kept stages first) (action : MonitorAction) :
    (session.act action).Kept stages first := by
  cases action with
  | publish stage =>
      have cursors : (session.bus.publish stage).cursors = session.bus.cursors := by
        rw [ReportBus.publish_subscribed kept.subscribed]
      refine ⟨kept.own, ?_, ?_, ?_, .more kept.lawful trivial, kept.shows.aside ⟨rfl, rfl, rfl⟩ nofun⟩
      · exact cursors.symm ▸ kept.subscribed
      · change (session.bus.publish stage).Counts first (MonitorLog.reports (session.log ++ [.published stage]))
        rw [MonitorLog.reports_append]
        exact kept.counts.publish kept.subscribed
      · change (session.bus.publish stage).place session.monitor.subscriber =
          first + MonitorLog.consumed (session.log ++ [.published stage])
        rw [MonitorLog.consumed_append, ReportBus.place_publish kept.subscribed]
        exact kept.place
  | subscribe =>
      refine ⟨kept.own, ?_, kept.counts.subscribe, ?_, kept.lawful, kept.shows⟩
      · change session.monitor.subscriber < (session.bus.cursors ++ [session.bus.sent]).length
        rw [List.length_append]
        exact Nat.lt_add_right 1 kept.subscribed
      · exact (ReportBus.place_subscribe kept.subscribed).trans kept.place
  | close => exact ⟨kept.own, kept.subscribed, kept.counts.close, kept.place, kept.lawful, kept.shows⟩
  | request | stop | elapse =>
      exact ⟨kept.own, kept.subscribed, kept.counts, kept.place, kept.lawful, kept.shows⟩
  | step cancelFirst =>
      simp only [MonitorSession.act]
      cases moved : session.monitor.step session.now session.shutdown cancelFirst session.lives
          session.bus with
      | none => exact kept
      | some stepped => exact kept.stepped (Monitor.step_stepped moved)

theorem Kept.run (kept : session.Kept stages first) (actions : List MonitorAction) :
    (run actions session).Kept stages first := by
  induction actions generalizing session with
  | nil => exact kept
  | cons action rest ih => exact ih (kept.act action)

theorem kept_start (stages : List StageId) (backoff now : Duration) (lives : Lifecycles) (sound : bus.Sound) :
    Kept stages bus.sent (start bus stages backoff now lives) := by
  have counts := (ReportBus.counts_nothing sound).subscribe
  refine ⟨rfl, ?_, counts, ?_, .nothing, nofun, rfl, rfl⟩
  · change bus.cursors.length < (bus.cursors ++ [bus.sent]).length
    rw [List.length_append]
    exact Nat.lt_succ_self _
  · exact ReportBus.place_subscribed

end MonitorSession
end Sluice
