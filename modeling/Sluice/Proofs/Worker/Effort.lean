import Sluice.Proofs.Input.Effort
import Sluice.Proofs.Output.Route
import Sluice.Proofs.Worker.Poised

set_option autoImplicit false

/-! How far the worker of a finished stage is from its end. It comes nearer with every step, and pays for
what it puts on links and for what it reports, so that others can take it up. How far a fetch is from its
end depends on the links that it takes from, so this is left open here. -/

namespace Sluice

/-- What things cost: a fetch from its first field on, the packets of one result, and a report. -/
structure Tariff where
  visit : Nat
  width : Nat
  report : Nat

namespace Tariff

/-- One packet put on a link, where it can send two fetches back to their first fields. -/
def delivery (tariff : Tariff) : Nat :=
  2 * tariff.visit + 1

def result (tariff : Tariff) : Nat :=
  tariff.width * tariff.delivery

/-- One item of a stream: it is read, its result is delivered, and the reading goes on. -/
def item (tariff : Tariff) : Nat :=
  tariff.result + 2

def reading (tariff : Tariff) (stream : OpenStream) : Nat :=
  stream.ready.length * tariff.item + 7 + tariff.report

end Tariff

def Action.items (stage : StageId) : Action → Nat
  | .feed fed _ => if fed = stage then 1 else 0
  | .answer answered (.stream stream) => if answered = stage then stream.ready.length else 0
  | _ => 0

/-- What the surroundings bring in one action: a packet, a report, or items of a stream. -/
def Action.supply : Action → Nat
  | .put .. | .publish .. | .feed .. => 1
  | .answer _ (.stream stream) => stream.ready.length
  | _ => 0

theorem Action.items_le_supply (stage : StageId) (action : Action) :
    action.items stage ≤ action.supply := by
  cases action with
  | feed fed =>
      change (if fed = stage then 1 else 0) ≤ 1
      split <;> omega
  | answer answered given =>
      cases given with
      | stream stream =>
          change (if answered = stage then stream.ready.length else 0) ≤ stream.ready.length
          split <;> omega
      | response | failure => exact Nat.le_refl 0
  | worker | monitor | join | request | endStream | put | take | publish | closeBus | stopMonitor
    | elapse => exact Nat.zero_le _

/-- The steps to the end of a finished stage's worker, and what they cost others. A fetch is as far from its
end as `pull` says. -/
def Control.effort (tariff : Tariff) (pull : InputCall → Nat) : Control → Nat
  | .ended | .crashed => 0
  | .stopping => 1
  | .gated | .passing | .lingering | .condemned => 2
  | .checking | .parking | .failing _ => 3
  | .reporting => 4 + tariff.report
  | .withdrawing => 5 + tariff.report
  | .failed _ => 6 + tariff.report
  | .delivering rest none => rest.length * tariff.delivery + 4
  | .answered .. => tariff.result + 5
  | .calling .. => tariff.result + 7 + tariff.report
  | .reading held => tariff.reading held.stream
  | .delivering rest (some held) => rest.length * tariff.delivery + 1 + tariff.reading held.stream
  | .opening _ => 8 + tariff.report
  | .fetching _ call => pull call + tariff.result + 9 + tariff.report

theorem Control.effort_idle {tariff : Tariff} {pull other : InputCall → Nat} {control : Control}
    (idle : ∀ token call, control ≠ .fetching token call) :
    control.effort tariff pull = control.effort tariff other := by
  cases control with
  | fetching token call => exact absurd rfl (idle token call)
  | delivering rest stream => cases stream <;> rfl
  | checking | parking | gated | passing | calling | opening | answered | reading | failed | withdrawing
    | reporting | lingering | failing | condemned | stopping | ended | crashed => rfl

theorem Control.effort_mono {tariff : Tariff} {pull other : InputCall → Nat} {control : Control}
    {more : Nat} (farther : ∀ call, pull call ≤ other call + more) :
    control.effort tariff pull ≤ control.effort tariff other + more := by
  cases control with
  | fetching token call =>
      have added := farther call
      simp only [effort]
      omega
  | delivering rest stream => cases stream <;> exact Nat.le_add_right _ _
  | checking | parking | gated | passing | calling | opening | answered | reading | failed | withdrawing
    | reporting | lingering | failing | condemned | stopping | ended | crashed =>
      exact Nat.le_add_right _ _

namespace Output

def width : Output → Nat
  | .sink => 0
  | .passthrough _ => 1
  | .duplicate links => links.length
  | .splitter bindings => bindings.length

theorem length_splitFields {packet : Packet} {bindings : List Binding} {deliveries : List Delivery}
    (split : splitFields packet bindings = .ok deliveries) :
    deliveries.length = bindings.length := by
  have lengths := congrArg List.length (links_splitFields split)
  rwa [List.length_map, List.length_map] at lengths

theorem length_route {output : Output} {packet : Packet} {deliveries : List Delivery}
    (routed : output.route packet = .ok deliveries) : deliveries.length = output.width := by
  cases output with
  | sink | passthrough =>
      cases routed
      rfl
  | duplicate links =>
      cases routed
      exact List.length_map _
  | splitter bindings => exact length_splitFields routed

end Output

namespace Worker

def effort (tariff : Tariff) (worker : Worker) : Nat :=
  worker.control.effort tariff (InputCall.effort worker.input.breadth)

/-- The tariff covers the worker's fetches and its results. -/
structure Within (tariff : Tariff) (worker : Worker) : Prop where
  visit : 4 * worker.input.breadth + 4 ≤ tariff.visit
  width : worker.output.width ≤ tariff.width

variable {tariff : Tariff} {now : Duration} {life : Lifecycle} {links : LinkStore}
  {bus : ReportBus} {worker : Worker} {stepped : WorkerStep} {next : Control} {pull : InputCall → Nat}
  {weight : LinkId → Nat} {gauge : LinkStore → Nat} {ids : List LinkId}

theorem Stepped.preserves {kept : Input → Prop}
    (stays : ∀ {links : LinkStore} {input : Input} {call : InputCall} {stepped : InputStep},
      kept input → input.Stepped links call stepped → kept stepped.input)
    (before : kept worker.input) (moved : worker.Stepped now life links bus stepped) :
    kept stepped.worker.input := by
  cases moved with
  | turned | paused | finished | reported | stored => exact before
  | fetching control step | missed control step | began control step =>
      exact stays before (Input.step_stepped step)
  | dispatched offers | refused offers => cases offers <;> exact before

theorem Stepped.breadth (moved : worker.Stepped now life links bus stepped) :
    stepped.worker.input.breadth = worker.input.breadth := by
  have same : ∀ {links : LinkStore} {input : Input} {call : InputCall} {stepped : InputStep},
      input.breadth = worker.input.breadth → input.Stepped links call stepped →
      stepped.input.breadth = worker.input.breadth := fun before step => step.breadth.trans before
  exact @Stepped.preserves now life links bus worker stepped (·.breadth = worker.input.breadth) same
    rfl moved

theorem Stepped.within (within : worker.Within tariff)
    (moved : worker.Stepped now life links bus stepped) : stepped.worker.Within tariff := by
  constructor
  · rw [moved.breadth]
    exact within.visit
  · rw [moved.keeps.2.1]
    exact within.width

private theorem nextRound_effort (worker : Worker) : worker.nextRound.effort tariff pull ≤ 3 :=
  worker.nextRound_elim (·.effort tariff pull ≤ 3) (Nat.le_add_left 1 2) (Nat.le_refl 3)

private theorem afterReport_effort (worker : Worker) : worker.afterReport.effort tariff pull ≤ 3 :=
  worker.afterReport_elim (·.effort tariff pull ≤ 3) (Nat.le_add_left 2 1) (Nat.le_refl 3)

private theorem Turns.effort {control : Control} {effects : List Effect} (closed : life.Closed)
    (turns : worker.Turns life control next effects) :
    next.effort tariff pull + 1 ≤ control.effort tariff pull := by
  have finished : life.isFinished = true := by
    unfold Lifecycle.isFinished
    rw [closed.finished]
    rfl
  cases turns with
  | asked live =>
      rw [finished] at live
      cases live
  | passed running => cases closed.finished.symm.trans running
  | delivered =>
      have round := @nextRound_effort tariff pull worker
      change worker.nextRound.effort tariff pull + 1 ≤ 0 * tariff.delivery + 4
      omega
  | @broken reading status later ready =>
      simp only [Control.effort, Tariff.reading, ready, List.length_cons]
      omega
  | interrupted pending =>
      unfold Lifecycle.isInterrupted at pending
      rw [finished] at pending
      cases pending
  | exhausted | resumed =>
      simp only [Control.effort, Tariff.reading, List.length_nil]
      omega
  | checked | released | caught | unreachable | rejected | outlasted | confessed =>
      simp only [Control.effort]
      omega

private theorem Pauses.effort {control : Control} (pauses : Pauses control next) :
    next.effort tariff pull + 1 ≤ control.effort tariff pull := by
  cases pauses <;> simp only [Control.effort] <;> omega

private theorem Finishes.effort {control : Control} (finishes : Finishes control next) :
    next.effort tariff pull + 1 ≤ control.effort tariff pull := by
  cases finishes <;> simp only [Control.effort] <;> omega

private theorem Offers.effort {held : Worker} {packet : Packet} {stream : Option Reading}
    {deliveries : List Delivery} (offers : worker.Offers now held packet stream)
    (width : deliveries.length ≤ tariff.width) :
    Control.effort tariff pull (.delivering deliveries stream) + 1 ≤
      worker.control.effort tariff pull := by
  have worth : deliveries.length * tariff.delivery ≤ tariff.result :=
    Nat.mul_le_mul_right tariff.delivery width
  cases offers with
  | answered control =>
      rw [control]
      simp only [Control.effort]
      omega
  | @read reading response later control ready =>
      rw [control]
      simp only [Control.effort, Tariff.reading, ready, List.length_cons, Nat.add_mul, Tariff.item]
      omega

private theorem Offers.refused {held : Worker} {packet : Packet} {stream : Option Reading}
    {error : StageError} (offers : worker.Offers now held packet stream) :
    Control.effort tariff pull (.failing error) + 1 ≤ worker.control.effort tariff pull := by
  cases offers with
  | answered control | read control =>
      rw [control]
      simp only [Control.effort, Tariff.reading]
      omega

private theorem begin_effort {input : Input} {packet : Packet} :
    ((Worker.begin { worker with input := input } now packet).1.control).effort tariff pull ≤
      tariff.result + 8 + tariff.report := by
  rcases @begin_control now { worker with input := input } packet with opens | calls
  · rw [opens]
    simp only [Control.effort]
    omega
  · rw [calls]
    simp only [Control.effort]
    omega

private theorem stored_notices {notices : List Notice} :
    (Effect.ofNotices notices).filterMap Effect.stored? = [] :=
  Effect.stored_silent fun _ => Effect.silent_ofNotices

theorem Stepped.nearer (closed : life.Closed) (width : worker.output.width ≤ tariff.width)
    (idle : ∀ token call, worker.control ≠ .fetching token call)
    (moved : worker.Stepped now life links bus stepped) :
    stepped.worker.control.effort tariff pull + 1 +
        2 * tariff.visit * (stepped.effects.filterMap Effect.stored?).length +
        tariff.report * Effect.reportsIn stepped.effects ≤ worker.control.effort tariff pull := by
  have quiet : ∀ {next : Control} {effects : List Effect},
      next.effort tariff pull + 1 ≤ worker.control.effort tariff pull →
      effects.filterMap Effect.stored? = [] → Effect.reportsIn effects = 0 →
      next.effort tariff pull + 1 + 2 * tariff.visit * (effects.filterMap Effect.stored?).length +
        tariff.report * Effect.reportsIn effects ≤ worker.control.effort tariff pull := by
    intro next effects nearer stores reports
    rw [stores, reports]
    exact nearer
  rcases moved.reportsIn with ⟨silent, reports, _⟩ | ⟨reporting, same⟩
  · cases moved with
    | turned turns => exact quiet (turns.effort closed) (Effect.stored_silent turns.silent) reports
    | paused pauses => exact quiet pauses.effort stored_notices reports
    | finished finishes => exact quiet finishes.effort stored_notices reports
    | reported control => exact absurd control silent
    | fetching control | missed control | began control => exact absurd control (idle _ _)
    | dispatched offers routed =>
        exact quiet (offers.effort ((Output.length_route routed).symm ▸ width)) rfl reports
    | refused offers => exact quiet offers.refused rfl reports
    | @stored link packet rest stream control =>
        have before : worker.control.effort tariff pull =
            Control.effort tariff pull (.delivering rest stream) + tariff.delivery := by
          rw [control]
          cases stream <;> simp only [Control.effort, List.length_cons, Nat.add_mul] <;> omega
        rw [reports, before, List.filterMap_cons, stored_notices]
        change Control.effort tariff pull (.delivering rest stream) + 1 + 2 * tariff.visit * 1 + 0 ≤ _
        unfold Tariff.delivery
        omega
  · have after := @afterReport_effort tariff pull worker
    rw [same, reporting]
    change worker.afterReport.effort tariff pull + 1 + 0 + tariff.report * 1 ≤ 4 + tariff.report
    omega

theorem Stepped.fetched {token : TokenId} {call : InputCall} (poised : worker.Poised life)
    (closed : life.Closed) (control : worker.control = .fetching token call)
    (moved : worker.Stepped now life links bus stepped) :
    ∃ cancelFirst fetched, worker.input.step true cancelFirst links call = some fetched ∧
      stepped.links = fetched.links ∧ stepped.worker.input = fetched.input ∧
      Effect.reportsIn stepped.effects = 0 ∧
      ((∃ later, fetched.outcome = .inl later ∧ stepped.worker.control = .fetching token later) ∨
        ∀ (tariff : Tariff) (pull : InputCall → Nat),
          stepped.worker.control.effort tariff pull ≤ tariff.result + 8 + tariff.report) := by
  have fired := (poised.governed token call control).1.fired closed.fired
  have reports : Effect.reportsIn stepped.effects = 0 := by
    rcases moved.reportsIn with ⟨_, none, _⟩ | ⟨reporting, _⟩
    · exact none
    · cases control.symm.trans reporting
  cases moved with
  | turned turns =>
      rw [control] at turns
      cases turns
  | paused pauses =>
      rw [control] at pauses
      cases pauses
  | finished finishes =>
      rw [control] at finishes
      cases finishes
  | dispatched offers | refused offers =>
      cases offers with
      | answered control' | read control' => cases control.symm.trans control'
  | reported control' | stored control' => cases control.symm.trans control'
  | @fetching cancelFirst held call later fetched under step goes =>
      cases control.symm.trans under
      rw [fired] at step
      exact ⟨cancelFirst, fetched, step, rfl, rfl, reports, Or.inl ⟨later, goes, rfl⟩⟩
  | @missed cancelFirst held call fetched under step =>
      cases control.symm.trans under
      rw [fired] at step
      refine ⟨cancelFirst, fetched, step, rfl, rfl, reports, Or.inr fun tariff pull => ?_⟩
      have round := @nextRound_effort tariff pull worker
      change worker.nextRound.effort tariff pull ≤ _
      omega
  | @began cancelFirst held call fetched packet under step =>
      cases control.symm.trans under
      rw [fired] at step
      exact ⟨cancelFirst, fetched, step, rfl, rfl, reports, Or.inr fun _ _ => begin_effort⟩

theorem Stepped.gauged (gauges : LinkStore.Gauges ids weight gauge)
    (moved : worker.Stepped now life links bus stepped) :
    gauge stepped.links ≤ gauge links +
      2 * ((stepped.effects.filterMap Effect.stored?).map fun delivery => weight delivery.1).sum := by
  cases moved with
  | turned | paused | finished | reported | dispatched | refused => exact Nat.le_add_right _ _
  | fetching control step | missed control step | began control step =>
      exact Nat.le_add_right_of_le (gauges.touched (Input.step_touched step))
  | @stored link packet rest stream control =>
      rw [List.filterMap_cons, stored_notices]
      exact gauges.gains

/-- A step of a finished stage's worker costs no more than it brings, and a report is paid for. -/
theorem Stepped.effort (within : worker.Within tariff) (poised : worker.Poised life)
    (closed : life.Closed) (moved : worker.Stepped now life links bus stepped) :
    stepped.worker.effort tariff + tariff.visit * stepped.links.load + 1 +
        tariff.report * Effect.reportsIn stepped.effects ≤
      worker.effort tariff + tariff.visit * links.load := by
  unfold Worker.effort
  rw [moved.breadth]
  by_cases fetches : ∃ token call, worker.control = .fetching token call
  · obtain ⟨token, call, control⟩ := fetches
    obtain ⟨cancelFirst, fetched, step, same, _, reports, ends⟩ :=
      moved.fetched poised closed control
    have joins := poised.joins
    rw [control] at joins
    rw [reports, control, same]
    rcases ends with ⟨later, goes, fetching⟩ | little
    · have pulls := Input.step_pulls within.visit LinkStore.gauges_load joins step goes
      rw [fetching]
      simp only [Control.effort]
      omega
    · have less := little tariff (InputCall.effort worker.input.breadth)
      have kept := Nat.mul_le_mul_left tariff.visit
        ((@LinkStore.gauges_load []).touched (Input.step_touched step))
      change _ + tariff.visit * fetched.links.load + 1 + tariff.report * 0 ≤
        InputCall.effort worker.input.breadth call + tariff.result + 9 + tariff.report + _
      omega
  · have nearer := @Stepped.nearer tariff now life links bus worker stepped
      (InputCall.effort worker.input.breadth) closed within.width
      (fun token call control => fetches ⟨token, call, control⟩) moved
    have load := Nat.mul_le_mul_left tariff.visit (moved.gauged (@LinkStore.gauges_load []))
    rw [List.map_const', List.sum_replicate_nat, Nat.mul_one, Nat.mul_add, ← Nat.mul_assoc,
      Nat.mul_comm tariff.visit 2] at load
    omega

private theorem news_effort {stage : StageId} {action : Action} {before after : OpenStream}
    (news : News stage action before after) :
    tariff.reading after = tariff.reading before + action.items stage * tariff.item := by
  cases news with
  | item =>
      simp only [Tariff.reading, List.length_append, List.length_singleton, Action.items, if_true,
        Nat.add_mul, Nat.one_mul]
      omega
  | ended =>
      simp only [Tariff.reading, Action.items, Nat.zero_mul]
      omega

theorem told_effort {stage : StageId} {action : Action} {control : Control}
    (told : Told now stage action control next) :
    next.effort tariff pull ≤ control.effort tariff pull + action.items stage * tariff.item := by
  cases told with
  | answered | rejected | unopened =>
      simp only [Control.effort]
      omega
  | @opened request stream =>
      have items : (Action.answer stage (.stream stream)).items stage = stream.ready.length :=
        if_pos rfl
      rw [items]
      simp only [Control.effort, Tariff.reading]
      omega
  | @heard action reading stream news => exact Nat.le_of_eq (news_effort news)
  | @overheard action rest reading stream news =>
      have more := @news_effort tariff stage action reading.stream stream news
      simp only [Control.effort]
      omega

end Worker
end Sluice
