import Sluice.Proofs.Monitor.Session

set_option autoImplicit false

/-! A burst of reports costs one backoff. What is published before the drain is over has been consumed by
then, so only a later report starts the next backoff; each drain is followed by one resume sweep, and a
backoff that is cut short by none. -/

namespace Sluice
namespace MonitorSession

variable {stages : List StageId} {first : Nat} {session : MonitorSession}

theorem run_resuming {rest : List StageId} {count : Nat} {cancels : List Bool}
    (control : session.monitor.control = .resuming rest count)
    (steps : cancels.length = rest.length + 1) :
    run (cancels.map .step) session =
      { session with
        monitor := { session.monitor with control := .listening }
        lives := (Lifecycles.sweep .resume rest session.lives).1
        log := session.log ++ ((rest.filter session.lives.isLive).map .resumed ++
          [.swept (count + (Lifecycles.sweep .resume rest session.lives).2.1)]) } := by
  -- one stage is resumed in each step, and the last step ends the sweep
  induction rest generalizing session count cancels with
  | nil =>
      obtain ⟨cancelFirst, same⟩ := List.length_eq_one_iff.mp steps
      subst same
      simp [run, act, Monitor.step, shown, control, MonitorEvent.ofNotice?, Lifecycles.sweep]
  | cons stage rest ih =>
      cases cancels with
      | nil => cases steps
      | cons cancelFirst cancels =>
          have stepped : session.act (.step cancelFirst) =
              { session with
                monitor := { session.monitor with
                  control := .resuming rest (count + (Lifecycles.sweep .resume [stage] session.lives).2.1) }
                lives := (Lifecycles.sweep .resume [stage] session.lives).1
                log := session.log ++ if session.lives.isLive stage then [.resumed stage] else [] } := by
            simp [act, Monitor.step, shown, control]
          have same : (Lifecycles.sweep .resume [stage] session.lives).1.isLive = session.lives.isLive :=
            funext fun _ => Lifecycles.isLive_sweep_single
          obtain ⟨swept, counted⟩ := Lifecycles.sweep_resume_cons stage rest session.lives
          rw [List.map_cons, run, List.foldl_cons, stepped]
          refine (ih rfl (Nat.succ.inj steps)).trans ?_
          rw [swept, counted, same, Nat.add_assoc, List.append_assoc]
          cases live : session.lives.isLive stage with
          | true => simp [live]
          | false => simp [live]

/-- One resume sweep over these stages: all that had not finished run, no other stage has changed, and the
log tells their number. -/
structure Swept (stages : List StageId) (before after : MonitorSession) : Prop where
  listening : after.monitor.control = .listening
  told : after.log = before.log ++ ((stages.filter before.lives.isLive).map .resumed ++
    [.swept (stages.countP before.lives.isLive)])
  running : ∀ stage ∈ stages, before.lives.isLive stage →
    ∃ life, after.lives[stage]? = some life ∧ life.phase = .running
  finished : ∀ stage, before.lives.isLive stage = false → after.lives[stage]? = before.lives[stage]?
  unlisted : ∀ stage, stage ∉ stages → after.lives[stage]? = before.lives[stage]?

theorem swept_resuming {cancels : List Bool}
    (control : session.monitor.control = .resuming stages 0)
    (steps : cancels.length = stages.length + 1) :
    Swept stages session (run (cancels.map .step) session) := by
  rw [run_resuming control steps]
  refine ⟨rfl, ?_, ?_, ?_, ?_⟩
  · rw [Lifecycles.count_sweep, Nat.zero_add]
  · intro stage listed live
    exact Lifecycles.sweep_running listed live
  · intro stage ended
    exact Lifecycles.sweep_finished stages ended
  · intro stage unlisted
    exact Lifecycles.sweep_unlisted unlisted

theorem control_drained {cancelFirst : Bool}
    (drained : (session.act (.step cancelFirst)).log = session.log ++ [.drained]) :
    (session.act (.step cancelFirst)).monitor.control = .resuming session.monitor.stages 0 := by
  simp only [act] at drained ⊢
  cases moved : session.monitor.step session.now session.shutdown cancelFirst session.lives
      session.bus with
  | none =>
      simp only [moved] at drained
      have longer := congrArg List.length drained
      rw [List.length_append, List.length_singleton] at longer
      omega
  | some stepped =>
      simp only [moved] at drained ⊢
      have seen := List.append_cancel_left drained
      unfold shown at seen
      split at seen
      · rename_i draining resuming
        cases Monitor.step_stepped moved with
        | drained => rfl
        | lagged | absorbed =>
            simp only [Monitor.goesTo, draining] at resuming
            cases resuming
        | dismissed _ control =>
            rcases control with control | ⟨deadline, control⟩ <;> cases draining.symm.trans control
        | orphaned control | alarmed control | paused control | slept control | woke control
          | resumed control | recovered control => cases draining.symm.trans control
      · split at seen <;> cases seen
      · cases seen
      · have listed : MonitorEvent.drained ∈ stepped.notices.filterMap MonitorEvent.ofNotice? := by
          rw [seen]
          exact List.mem_cons_self
        obtain ⟨notice, _, same⟩ := List.mem_filterMap.mp listed
        cases notice <;> cases same

open MonitorLog in
structure OneBackoffPerBurst (stages : List StageId) (session : MonitorSession) : Prop where
  balance : sweeps session.log ≤ begins session.log ∧ begins session.log ≤ sweeps session.log + 1
  /-- A backoff starts when none is in progress, for the first report that is not consumed. -/
  started : ∀ earlier stage later, session.log = earlier ++ .began stage :: later →
    begins earlier = sweeps earlier ∧ (reports earlier)[consumed earlier]? = some stage
  drained : ∀ earlier later, session.log = earlier ++ .drained :: later →
    begins earlier = sweeps earlier + 1 ∧ consumed earlier = (reports earlier).length
  /-- What starts a backoff was published after every drain before. -/
  fresh : ∀ earlier between stage later,
    session.log = earlier ++ .drained :: between ++ .began stage :: later →
      (reports between)[consumed between]? = some stage
  /-- A sweep ends the backoff that is in progress, after its drain. -/
  resumed : ∀ earlier count later, session.log = earlier ++ .swept count :: later →
    begins earlier = sweeps earlier + 1 ∧ drains earlier = begins earlier
  cut : ∀ earlier stage between later,
    session.log = earlier ++ .began stage :: between ++ .stopped :: later →
      (∀ count, .swept count ∉ between) → ∀ other, .resumed other ∉ between
  halts : ∀ earlier later, session.log = earlier ++ .stopped :: later →
    session.monitor.control = .stopped ∧ ∀ event ∈ later, ∃ stage, event = .published stage
  /-- The sweep that follows a drain, if nothing comes between its steps. -/
  swept : ∀ (cancelFirst : Bool) (cancels : List Bool),
    (session.act (.step cancelFirst)).log = session.log ++ [.drained] →
      cancels.length = stages.length + 1 →
        Swept stages (session.act (.step cancelFirst))
          (run (cancels.map .step) (session.act (.step cancelFirst)))
  /-- A backoff goes on unless it sleeps, and it sleeps until its deadline or the shutdown. -/
  awake : ∀ cancelFirst, begins session.log = sweeps session.log + 1 → .stopped ∉ session.log →
    session.monitor.step session.now session.shutdown cancelFirst session.lives session.bus = none →
      session.shutdown = false ∧
        ∃ deadline, session.monitor.control = .sleeping deadline ∧ session.now.nanos < deadline.nanos

theorem Kept.balance (kept : session.Kept stages first) :
    MonitorLog.sweeps session.log ≤ MonitorLog.begins session.log ∧
      MonitorLog.begins session.log ≤ MonitorLog.sweeps session.log + 1 := by
  have shows := kept.shows
  generalize session.monitor.control = control at shows
  have phases : MonitorLog.Calm session.log ∨ MonitorLog.Waiting session.log ∨
      MonitorLog.Resuming session.log := by
    cases control with
    | listening => exact Or.inl shows.2
    | pausing | sleeping | draining => exact Or.inr (Or.inl shows.2)
    | resuming => exact Or.inr (Or.inr shows.2)
    | stopped => exact shows.2.imp_right Or.inl
  unfold MonitorLog.Calm MonitorLog.Waiting MonitorLog.Resuming at phases
  omega

theorem Kept.fresh {earlier between later : List MonitorEvent} {stage : String}
    (kept : session.Kept stages first)
    (whole : session.log = earlier ++ .drained :: between ++ .began stage :: later) :
    (MonitorLog.reports between)[MonitorLog.consumed between]? = some stage := by
  obtain ⟨_, _, found⟩ := kept.lawful.follows whole
  rw [List.append_assoc] at whole
  obtain ⟨_, _, all⟩ := kept.lawful.follows whole
  have consumed : MonitorLog.consumed (earlier ++ .drained :: between) =
      (MonitorLog.reports earlier).length + MonitorLog.consumed between := by
    rw [MonitorLog.consumed_append, all]
    exact congrArg _ (Nat.zero_add _)
  have reports : MonitorLog.reports (earlier ++ .drained :: between) =
      MonitorLog.reports earlier ++ MonitorLog.reports between := MonitorLog.reports_append
  rw [consumed, reports, List.getElem?_append_right (Nat.le_add_right _ _), Nat.add_sub_cancel_left] at found
  exact found

theorem Kept.cut {earlier between later : List MonitorEvent} {stage : String}
    (kept : session.Kept stages first)
    (whole : session.log = earlier ++ .began stage :: between ++ .stopped :: later)
    (unswept : ∀ count, .swept count ∉ between) (other : StageId) : .resumed other ∉ between := by
  intro resumed
  obtain ⟨before, after, same⟩ := List.append_of_mem resumed
  obtain ⟨_, phases⟩ := kept.lawful.follows whole
  have splits : session.log = (earlier ++ .began stage :: before) ++ .resumed other ::
      (after ++ .stopped :: later) := by
    rw [whole, same]
    simp
  -- at a resumed stage one drain is ahead of the sweeps, and no sweep ends before the stop
  obtain ⟨_, begun, drained⟩ := kept.lawful.follows splits
  have join : earlier ++ .began stage :: between =
      (earlier ++ .began stage :: before) ++ .resumed other :: after := by
    rw [same]
    simp
  have none : MonitorLog.sweeps (.resumed other :: after) = 0 := by
    apply List.countP_eq_zero.mpr
    intro event member
    cases event with
    | swept count =>
        have later := (List.mem_cons.mp member).resolve_left nofun
        exact absurd (same ▸ List.mem_append_right _ (List.mem_cons_of_mem _ later)) (unswept count)
    | published | began | absorbed | lagged | drained | resumed | stopped => exact Bool.false_ne_true
  rw [join] at phases
  unfold MonitorLog.Calm MonitorLog.Waiting at phases
  rw [MonitorLog.drains_append, MonitorLog.sweeps_append, none] at phases
  omega

theorem Kept.halts {earlier later : List MonitorEvent} (kept : session.Kept stages first)
    (whole : session.log = earlier ++ .stopped :: later) :
    session.monitor.control = .stopped ∧ ∀ event ∈ later, ∃ stage, event = .published stage := by
  have ended : .stopped ∈ session.log := by
    rw [whole]
    exact List.mem_append_right _ List.mem_cons_self
  constructor
  · have shows := kept.shows
    cases control : session.monitor.control with
    | stopped => rfl
    | listening | pausing | sleeping | draining | resuming =>
        rw [control] at shows
        exact absurd ended shows.1
  · intro event member
    obtain ⟨before, after, same⟩ := List.append_of_mem member
    have splits : session.log = (earlier ++ .stopped :: before) ++ event :: after := by
      rw [whole, same]
      simp
    have follows := kept.lawful.follows splits
    have stopped : .stopped ∈ earlier ++ .stopped :: before := List.mem_append_right _ List.mem_cons_self
    cases event with
    | published stage => exact ⟨stage, rfl⟩
    | began | absorbed | lagged | drained | resumed | swept | stopped => exact absurd stopped follows.1

theorem Kept.awake {cancelFirst : Bool} (kept : session.Kept stages first)
    (backsOff : MonitorLog.begins session.log = MonitorLog.sweeps session.log + 1)
    (goesOn : .stopped ∉ session.log)
    (blocked : session.monitor.step session.now session.shutdown cancelFirst session.lives session.bus =
      none) :
    session.shutdown = false ∧
      ∃ deadline, session.monitor.control = .sleeping deadline ∧ session.now.nanos < deadline.nanos := by
  have shows := kept.shows
  rcases Monitor.step_blocked blocked with control | ⟨deadline, control⟩ | ⟨control, _⟩
  · rw [control] at shows
    exact absurd shows.1 goesOn
  · obtain ⟨unfired, early⟩ := Monitor.step_asleep control blocked
    exact ⟨unfired, deadline, control, early⟩
  · rw [control] at shows
    obtain ⟨_, begun, drained⟩ := shows
    omega

/-- However reports come to a monitor, a burst of them costs one backoff. At most one is in progress; what
has been published when its drain ends is consumed, read or missed, and only a later report starts another
one; it ends with one resume sweep, which leaves every stage running that has not finished, and tells how
many these are; and one that is cut short resumes nothing and is the last. -/
theorem monitor_backs_off_once (bus : ReportBus) (stages : List StageId) (backoff now : Duration)
    (lives : Lifecycles) (actions : List MonitorAction) (sound : bus.Sound) :
    OneBackoffPerBurst stages (run actions (start bus stages backoff now lives)) := by
  have kept := (kept_start stages backoff now lives sound).run actions
  generalize run actions (start bus stages backoff now lives) = session at kept
  constructor
  case balance => exact kept.balance
  case started =>
    intro earlier stage later whole
    obtain ⟨_, calm, found⟩ := kept.lawful.follows whole
    exact ⟨calm.1.trans calm.2, found⟩
  case drained =>
    intro earlier later whole
    obtain ⟨_, waiting, all⟩ := kept.lawful.follows whole
    exact ⟨waiting.1.trans (congrArg (· + 1) waiting.2), all⟩
  case fresh =>
    intro earlier between stage later whole
    exact kept.fresh whole
  case resumed =>
    intro earlier count later whole
    obtain ⟨_, resuming⟩ := kept.lawful.follows whole
    exact ⟨resuming.1.trans resuming.2, resuming.1.symm⟩
  case cut =>
    intro earlier stage between later whole unswept
    exact kept.cut whole unswept
  case halts =>
    intro earlier later whole
    exact kept.halts whole
  case swept =>
    intro cancelFirst cancels drained steps
    have control := control_drained drained
    rw [kept.own] at control
    exact swept_resuming control steps
  case awake =>
    intro cancelFirst backsOff goesOn blocked
    exact kept.awake backsOff goesOn blocked

namespace Outage

def kitchen : Lifecycles :=
  [.fresh "grinder", (Lifecycle.fresh "oven").finish.1]

def channel : ReportBus :=
  .ofCapacity 2

def backoff : Duration :=
  { nanos := 10 }

/-- One report starts a backoff, three more come while the monitor sleeps and one of them is lost; a fifth
comes after the sweep. -/
def course : List MonitorAction :=
  [.publish "grinder", .step false, .step false, .step false, .step false, .publish "grinder",
    .publish "oven", .publish "mixer", .elapse backoff] ++
  List.replicate 8 (.step false) ++ [.publish "grinder", .step false]

end Outage

theorem monitor_backs_off_once_outage :
    Outage.channel.Sound ∧
      let session := run Outage.course
        (start Outage.channel [0, 1] Outage.backoff { nanos := 0 } Outage.kitchen)
      session.log =
        [.published "grinder", .began "grinder", .published "grinder", .published "oven",
          .published "mixer", .lagged 1, .absorbed "oven", .absorbed "mixer", .drained, .resumed 0,
          .swept 1, .published "grinder", .began "grinder"] ∧
      OneBackoffPerBurst [0, 1] session := by
  have sound : Outage.channel.Sound := ReportBus.sound_ofCapacity 2
  refine ⟨sound, by decide, ?_⟩
  exact monitor_backs_off_once Outage.channel [0, 1] Outage.backoff { nanos := 0 } Outage.kitchen
    Outage.course sound

end MonitorSession
end Sluice
