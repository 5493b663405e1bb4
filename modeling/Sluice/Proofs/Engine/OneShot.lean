import Sluice.Proofs.Engine.Rounds
import Sluice.Proofs.Stage.Bindings
import Sluice.Proofs.Worker.OneShot
import Sluice.Proofs.Worker.Poised

set_option autoImplicit false

/-! A one-shot stage over whole runs. Whoever pauses, resumes, interrupts or finishes the stage, and whenever,
its worker makes one attempt: it leaves without one only if the stage was finished by somebody else, and it
leaves an outage behind only once its pause is over. -/

namespace Sluice
namespace Engine

/-- Somebody else than the stage's worker asks this of the stage, and its phase changes by it. -/
def Move.Grants (stage : StageId) (asked : LifecycleRequest) (move : Move) : Prop :=
  move.isStepOf stage = false ∧ ∃ post moved,
    move.before.posts[stage]? = some post ∧ move.after.posts[stage]? = some moved ∧
    moved.stage.lifecycle = (post.stage.lifecycle.request asked).1 ∧
    moved.stage.lifecycle.phase ≠ post.stage.lifecycle.phase

/-- Somebody else than its worker has finished the stage, by these calls before the run or in its course. -/
def Dismissed (stage : StageId) (before : List LifecycleCall) (moves : List Move) : Prop :=
  .request .finish ∈ before ∨ ∃ move ∈ moves, move.Grants stage .finish

/-- The stage's worker has paused it because of an outage, and these are the moves since then. -/
def WithdrawnSince (stage : StageId) (moves later : List Move) : Prop :=
  ∃ earlier pausing, moves = earlier ++ pausing :: later ∧ pausing.isStepOf stage = true ∧
    (pausing.worker? stage).map (·.control) = some .withdrawing

/-- The stage's worker has paused it because of an outage, and somebody has resumed it since then. -/
def Resumed (stage : StageId) (moves : List Move) : Prop :=
  ∃ later, WithdrawnSince stage moves later ∧ ∃ move ∈ later, move.Grants stage .resume

variable {first last : Engine} {moves later : List Move} {move : Move} {stage : StageId}
  {prior : List LifecycleCall} {post moved : Post} {worker after : Worker} {reaction : FatalReaction}

theorem Dismissed.further (dismissed : Dismissed stage prior moves) :
    Dismissed stage prior (moves ++ [move]) := by
  rcases dismissed with before | ⟨grant, member, grants⟩
  · exact Or.inl before
  · exact Or.inr ⟨grant, List.mem_append_left _ member, grants⟩

theorem WithdrawnSince.further (withdrawn : WithdrawnSince stage moves later) :
    WithdrawnSince stage (moves ++ [move]) (later ++ [move]) := by
  obtain ⟨earlier, pausing, whole, own, control⟩ := withdrawn
  refine ⟨earlier, pausing, ?_, own, control⟩
  rw [whole, List.append_assoc, List.cons_append]

theorem Resumed.further (resumed : Resumed stage moves) : Resumed stage (moves ++ [move]) := by
  obtain ⟨later, withdrawn, grant, member, grants⟩ := resumed
  exact ⟨_, withdrawn.further, grant, List.mem_append_left _ member, grants⟩

private theorem replied_own {cancelFirst : Bool} (acts : move.action = .worker stage cancelFirst) :
    repliesTo stage (moves ++ [move]) = repliesTo stage moves := by
  have unreplied : move.action.reply stage = none := by
    rw [acts]
    rfl
  rw [repliesTo_append, unreplied, Option.toList_none, List.append_nil]

structure Attempting (stage : StageId) (prior : List LifecycleCall) (reaction : FatalReaction) (post : Post)
    (worker : Worker) (moves : List Move) : Prop where
  makes : worker.MakesPackets
  attempts : worker.control.Attempts worker.unavailable (fetchedBy stage moves) (repliesTo stage moves)
  finished : post.stage.lifecycle.phase = .finished →
    Dismissed stage prior moves ∨ worker.control.Ending
  uncalled : worker.control.Ending → fetchedBy stage moves = [] → Dismissed stage prior moves
  outage : worker.control.Ending →
    (repliesTo stage moves).any (Worker.isOutage worker.unavailable) = true →
      Dismissed stage prior moves ∨ Resumed stage moves
  withdrawn : worker.control.SitsOut → ∃ later, WithdrawnSince stage moves later ∧
    (post.stage.lifecycle.phase = .running → ∃ move ∈ later, move.Grants stage .resume)
  ended : worker.control = .ended → post.stage.lifecycle.phase = .finished
  crashed : worker.control = .crashed → reaction = .crash

private theorem Attempting.rested (attempting : Attempting stage prior reaction post worker moves)
    (found : move.before.posts[stage]? = some post) (there : move.after.posts[stage]? = some moved)
    (apart : ¬ move.action.Concerns stage) (asked : post.stage.lifecycle.Asked moved.stage.lifecycle) :
    Attempting stage prior reaction moved worker (moves ++ [move]) := by
  obtain ⟨makes, attempts, finished, uncalled, outage, withdrawn, ended, crashed⟩ := attempting
  have others := Action.not_worker apart
  have still := (Move.of_others others).2
  have fetched : fetchedBy stage (moves ++ [move]) = fetchedBy stage moves := by
    rw [fetchedBy_append, brings_others others, Option.toList_none, List.append_nil]
  have replied : repliesTo stage (moves ++ [move]) = repliesTo stage moves := by
    rw [repliesTo_append, not_replied apart, Option.toList_none, List.append_nil]
  refine
    { makes := makes, attempts := by rw [fetched, replied]; exact attempts, finished := ?_, uncalled := ?_
      outage := ?_, withdrawn := ?_, ended := fun closed => asked.finished (ended closed), crashed := crashed }
  · intro closed
    by_cases before : post.stage.lifecycle.phase = .finished
    · exact (finished before).imp Dismissed.further id
    · have finishes := asked.finishes before closed
      have changes : moved.stage.lifecycle.phase ≠ post.stage.lifecycle.phase := fun same =>
        before (same.symm.trans closed)
      exact Or.inl (Or.inr ⟨move, List.mem_append_right _ List.mem_cons_self, still, post, moved, found, there,
        finishes, changes⟩)
  · intro ending nothing
    exact (uncalled ending (fetched ▸ nothing)).further
  · intro ending out
    exact (outage ending (replied ▸ out)).imp Dismissed.further Resumed.further
  · intro sits
    obtain ⟨later, since, resumed⟩ := withdrawn sits
    refine ⟨later ++ [move], since.further, ?_⟩
    intro running
    cases phase : post.stage.lifecycle.phase with
    | running =>
        obtain ⟨grant, member, grants⟩ := resumed phase
        exact ⟨grant, List.mem_append_left _ member, grants⟩
    | paused =>
        have resumes := asked.resumes phase running
        have changes : moved.stage.lifecycle.phase ≠ post.stage.lifecycle.phase := by
          rw [phase, running]
          decide
        exact ⟨move, List.mem_append_right _ List.mem_cons_self, still, post, moved, found, there, resumes,
          changes⟩
    | finished => cases (asked.finished phase).symm.trans running

private theorem Attempting.told {control : Control}
    (attempting : Attempting stage prior reaction post worker moves)
    (told : Told move.before.clock stage move.action worker.control control) :
    Attempting stage prior reaction { post with slot := .spawned { worker with control := control } }
      { worker with control := control } (moves ++ [move]) := by
  obtain ⟨makes, attempts, finished, _, _, _, _, _⟩ := attempting
  have fetched : fetchedBy stage (moves ++ [move]) = fetchedBy stage moves := by
    rw [fetchedBy_append, brings_others fun cancelFirst => told.not_worker, Option.toList_none,
      List.append_nil]
  obtain ⟨further, going, standing⟩ := Worker.told_attempts told attempts
  have waited : ¬ worker.control.Ending := told.waited
  refine
    { makes := makes, attempts := by rw [fetched, repliesTo_append]; exact further, finished := ?_
      uncalled := fun ending => absurd ending going, outage := fun ending => absurd ending going
      withdrawn := fun sits => absurd sits standing, ended := ?_, crashed := ?_ }
  · intro closed
    rcases finished closed with dismissed | ending
    · exact Or.inl dismissed.further
    · exact absurd ending waited
  · intro closed
    change control = .ended at closed
    exact absurd (closed ▸ trivial) going
  · intro crashed
    change control = .crashed at crashed
    exact absurd (crashed ▸ trivial) going

private theorem Attempting.stepped {cancelFirst : Bool} {stepped : WorkerStep}
    (attempting : Attempting stage prior reaction post worker moves)
    (once : worker.kind = .oneShotUnary) (acts : move.action = .worker stage cancelFirst)
    (found : move.before.posts[stage]? = some post) (runs : post.slot = .spawned worker)
    (step : worker.step move.before.clock cancelFirst post.stage.lifecycle move.before.links
      (move.before.busAt sharedBus) = some stepped)
    (same : moved.stage.lifecycle = stepped.lifecycle) :
    Attempting stage prior reaction moved stepped.worker (moves ++ [move]) := by
  obtain ⟨makes, attempts, finished, uncalled, outage, withdrawn, _, _⟩ := attempting
  have stepping := Worker.step_stepped step
  have judges : stepped.worker.unavailable = worker.unavailable := stepping.kin.unavailable
  have replied : repliesTo stage (moves ++ [move]) = repliesTo stage moves := replied_own acts
  have fetched : fetchedBy stage (moves ++ [move]) = fetchedBy stage moves ++
      (worker.brings? cancelFirst post.stage.lifecycle move.before.links).toList := by
    rw [fetchedBy_append, brings_own acts found runs]
  obtain ⟨makesOn, further, concludes⟩ := Worker.step_attempts once makes attempts step
  have still : fetchedBy stage (moves ++ [move]) = [] → fetchedBy stage moves = [] := by
    intro nothing
    rw [fetched] at nothing
    exact (List.append_eq_nil_iff.mp nothing).1
  refine
    { makes := makesOn, attempts := by rw [judges, fetched, replied]; exact further, finished := ?_
      uncalled := ?_, outage := ?_, withdrawn := ?_, ended := fun closed => same ▸ stepping.ended closed
      crashed := fun crashed => absurd crashed stepping.uncrashed }
  · intro closed
    rcases stepping.finishing (same ▸ closed) with before | ending
    · exact (finished before).imp Dismissed.further stepping.ending
    · exact Or.inr ending
  · intro ending nothing
    have before := still nothing
    suffices dismissed : Dismissed stage prior moves from dismissed.further
    cases concludes ending with
    | further known => exact uncalled known before
    | finished closed => exact (finished closed).elim id fun known => uncalled known before
    | released lingers =>
        rw [lingers, before] at attempts
        cases attempts.1
    | replied called =>
        rw [before] at called
        cases called
  · intro ending out
    rw [judges, replied] at out
    suffices either : Dismissed stage prior moves ∨ Resumed stage moves from
      either.imp Dismissed.further Resumed.further
    cases concludes ending with
    | further known => exact outage known out
    | finished closed => exact (finished closed).elim Or.inl fun known => outage known out
    | released lingers resumed =>
        cases phase : post.stage.lifecycle.phase with
        | running =>
            obtain ⟨later, since, grants⟩ := withdrawn (by rw [lingers]; trivial)
            exact Or.inr ⟨later, since, grants phase⟩
        | paused => exact absurd phase resumed
        | finished =>
            rcases finished phase with dismissed | ending
            · exact Or.inl dismissed
            · rw [lingers] at ending
              cases ending
    | replied _ calm => exact absurd (out.symm.trans calm) Bool.noConfusion
  · intro sits
    rcases stepping.sitsOut sits with ⟨withdraws, paused⟩ | ⟨reports, life⟩
    · refine ⟨[], ⟨moves, move, rfl, (Move.of_own acts).2, ?_⟩, ?_⟩
      · rw [Move.worker_of_post found runs, Option.map_some, withdraws]
      · intro running
        rw [same, paused] at running
        exact absurd running Lifecycle.phase_pause
    · obtain ⟨later, since, resumed⟩ := withdrawn (by rw [reports]; trivial)
      refine ⟨later ++ [move], since.further, ?_⟩
      intro running
      obtain ⟨grant, member, grants⟩ := resumed (life ▸ same ▸ running)
      exact ⟨grant, List.mem_append_left _ member, grants⟩

private theorem Attempting.failed {cancelFirst : Bool} {stepped : WorkerStep} {control : Control}
    (attempting : Attempting stage prior move.before.onFatal post worker moves)
    (acts : move.action = .worker stage cancelFirst)
    (found : move.before.posts[stage]? = some post) (runs : post.slot = .spawned worker)
    (step : worker.step move.before.clock cancelFirst post.stage.lifecycle move.before.links
      (move.before.busAt sharedBus) = some stepped)
    (fails : stepped.effects.any isFailure = true)
    (runsOn : control = .condemned ∨ move.before.onFatal = .crash ∧ control = .crashed) :
    Attempting stage prior move.before.onFatal moved { worker with control := control }
      (moves ++ [move]) := by
  obtain ⟨error, failing, _⟩ := failing_of_isFailure (Worker.step_stepped step) fails
  have attempts := attempting.attempts
  rw [failing] at attempts
  obtain ⟨called, calm⟩ := attempts
  have apart : ∀ token call, worker.control ≠ .fetching token call := by
    intro token call fetching
    cases failing.symm.trans fetching
  have fetched : fetchedBy stage (moves ++ [move]) = fetchedBy stage moves := by
    rw [fetchedBy_append, brings_own acts found runs, Worker.brings_other apart, Option.toList_none,
      List.append_nil]
  have replied : repliesTo stage (moves ++ [move]) = repliesTo stage moves := replied_own acts
  obtain ⟨attempts, ending, leaves, going⟩ : control.Attempts worker.unavailable (fetchedBy stage moves)
      (repliesTo stage moves) ∧ control.Ending ∧ ¬ control.SitsOut ∧ control ≠ .ended := by
    rcases runsOn with same | ⟨_, same⟩
    · subst same
      exact ⟨⟨called, calm⟩, trivial, id, nofun⟩
    · subst same
      exact ⟨⟨called, calm⟩, trivial, id, nofun⟩
  refine
    { makes := attempting.makes, attempts := by rw [fetched, replied]; exact attempts
      finished := fun _ => Or.inr ending, uncalled := ?_, outage := ?_
      withdrawn := fun sits => absurd sits leaves, ended := fun ended => absurd ended going
      crashed := ?_ }
  · intro _ nothing
    rw [fetched] at nothing
    rw [nothing] at called
    cases called
  · intro _ out
    rw [replied] at out
    exact absurd (out.symm.trans calm) Bool.noConfusion
  · intro crashed
    rcases runsOn with same | ⟨crashes, _⟩
    · cases same.symm.trans crashed
    · exact crashes

private theorem Fares.attempting (attempting : Attempting stage prior move.before.onFatal post worker moves)
    (once : worker.kind = .oneShotUnary) (found : move.before.posts[stage]? = some post)
    (there : move.after.posts[stage]? = some moved) (runs : post.slot = .spawned worker)
    (fares : Fares stage move post moved) :
    ∃ after, moved.slot = .spawned after ∧
      Attempting stage prior move.before.onFatal moved after (moves ++ [move]) := by
  cases fares with
  | rested apart asked kept => exact ⟨worker, kept.trans runs, attempting.rested found there apart asked⟩
  | told spawned told =>
      cases runs.symm.trans spawned
      exact ⟨_, rfl, attempting.told told⟩
  | @worked _ cancelFirst held stepped notices control acts spawned step asked calm goes runsOn =>
      cases runs.symm.trans spawned
      refine ⟨_, goes, ?_⟩
      cases failure : stepped.effects.any isFailure with
      | false =>
          have still : control = stepped.worker.control := by
            rcases runsOn with still | ⟨_, _, fails⟩
            · exact still
            · exact absurd (fails.symm.trans failure) Bool.noConfusion
          subst still
          exact attempting.stepped once acts found runs step (calm failure)
      | true =>
          obtain ⟨error, _, same⟩ := failing_of_isFailure (Worker.step_stepped step) failure
          have leaves : control = .condemned ∨ move.before.onFatal = .crash ∧ control = .crashed := by
            rcases runsOn with still | ⟨crashes, crashed, _⟩
            · rw [same] at still
              exact Or.inl still
            · exact Or.inr ⟨crashes, crashed⟩
          rw [same]
          exact attempting.failed acts found runs step failure leaves

theorem Runs.attempting {name : String} (once : worker.kind = .oneShotUnary) (makes : worker.MakesPackets)
    (starts : worker.control = .checking) (found : first.posts[stage]? = some post)
    (runs : post.slot = .spawned worker) (begins : post.stage.lifecycle = (Custody.after name prior).life)
    (ran : Runs first last moves) :
    ∃ moved after, last.posts[stage]? = some moved ∧ moved.slot = .spawned after ∧ worker.Kin after ∧
      Attempting stage prior first.onFatal moved after moves := by
  refine ran.carries (fun post after moves => Attempting stage prior first.onFatal post after moves) found
    runs ?_ ?_
  · refine
      { makes := makes, attempts := by rw [starts]; exact ⟨rfl, rfl⟩, finished := ?_, uncalled := ?_
        outage := ?_, withdrawn := ?_, ended := ?_, crashed := ?_ }
    · intro closed
      exact Or.inl (Or.inl (Custody.finish_called (begins ▸ closed)))
    · intro ending
      rw [starts] at ending
      cases ending
    · intro ending
      rw [starts] at ending
      cases ending
    · intro sits
      rw [starts] at sits
      cases sits
    · intro ended
      cases starts.symm.trans ended
    · intro crashed
      cases starts.symm.trans crashed
  · intro past move present moved held reaction atStage there spawned kin known fares
    rw [← reaction] at known ⊢
    exact fares.attempting known (kin.kind.trans once) atStage there spawned

private theorem RoundsInOrder.outage (rounds : RoundsInOrder stage worker moves)
    (single : (fetchedBy stage moves).length ≤ 1)
    (out : (repliesTo stage moves).any (Worker.isOutage worker.unavailable) = true) :
    (callsOf stage (recordOf moves)).length = 1 ∧
      reportsOf stage (recordOf moves) + (worker.control.owesReport worker.unavailable).toNat = 1 := by
  obtain ⟨requests, brought, level⟩ := rounds.settled
  have replied : (repliesTo stage moves).length ≤ (fetchedBy stage moves).length := by
    rw [brought, List.length_append, level]
    exact Nat.le_add_right _ _
  have some : 0 < (repliesTo stage moves).countP (Worker.isOutage worker.unavailable) :=
    List.countP_pos_iff.mpr (List.any_eq_true.mp out)
  have most := List.countP_le_length (p := Worker.isOutage worker.unavailable) (l := repliesTo stage moves)
  have reported := rounds.reported
  rw [rounds.called, List.length_map]
  omega

private theorem RoundsInOrder.offered (rounds : RoundsInOrder stage worker moves)
    (single : (fetchedBy stage moves).length ≤ 1)
    (numbered : (fetchedBy stage moves).map (·.id) = List.range' 1 (fetchedBy stage moves).length) :
    (offeredBy stage moves).length ≤ 1 ∧ ∀ packet ∈ offeredBy stage moves, packet.id = 1 := by
  have answered := rounds.answered
  constructor
  · have bounded : (Worker.results (fetchedBy stage moves) (repliesTo stage moves)).length ≤
        (fetchedBy stage moves).length := Worker.length_results_le
    rw [answered, List.length_append] at bounded
    omega
  · intro packet offered
    have result : packet ∈ Worker.results (fetchedBy stage moves) (repliesTo stage moves) := by
      rw [answered]
      exact List.mem_append_left _ offered
    obtain ⟨request, called, same⟩ := Worker.id_of_result result
    have counted : request.id ∈ List.range' 1 (fetchedBy stage moves).length := by
      rw [← numbered]
      exact List.mem_map_of_mem called
    have bounds := List.mem_range'_1.mp counted
    omega

private theorem lingering_blocked (found : last.posts[stage]? = some post)
    (runs : post.slot = .spawned worker) (lingers : worker.control = .lingering) :
    (∀ cancelFirst, last.act (.worker stage cancelFirst) = none) ↔
      post.stage.lifecycle.phase = .paused := by
  constructor
  · intro blocked
    have stuck := stepWorker_none (blocked false) found runs
    by_contra released
    simp only [Worker.step, lingers, Lifecycle.waitWhilePaused, if_neg released] at stuck
    cases stuck
  · intro paused cancelFirst
    change last.stepWorker stage cancelFirst = none
    simp only [stepWorker, found, runs, Worker.step, lingers, Lifecycle.waitWhilePaused, if_pos paused]

/-- A one-shot stage acts at most once, whatever is asked of it before, during and after its run, and whatever
the reply to its call. It makes at most one call, with a packet of its own, and at most one answer goes to its
output, under the id one, and from there to its links. It ends without a call only if somebody else finished
it. Once its call has met an outage it does not call again; it owes the shared bus one report until it has
made it, and no blocked worker owes one; it then waits for the end of its pause and for nothing else, and ends
only after somebody resumed it following its own pause, or finished it. Whenever it has ended, its stage is
finished; it is torn down before that only where failures crash their stage. -/
theorem one_shot_acts_once {descriptor : StageDescriptor} {method : RemoteMethod} {design : Stage}
    {held : Bindings} (built : Stage.build descriptor method = .ok design)
    (once : design.kind = .oneShotUnary) (made : design.workerOf held = .ok worker)
    (found : first.posts[stage]? = some post) (fresh : post.slot = .spawned worker)
    (begins : post.stage.lifecycle = (Custody.after design.name prior).life) (ran : Runs first last moves) :
    ∃ moved after, last.posts[stage]? = some moved ∧ moved.slot = .spawned after ∧
      (callsOf stage (recordOf moves)).length ≤ 1 ∧
      (offeredBy stage moves).length ≤ 1 ∧ (∀ packet ∈ offeredBy stage moves, packet.id = 1) ∧
      emissionsOf stage (recordOf moves) = (offeredBy stage moves).filter worker.output.takes ∧
      (∀ packet, worker.output.takes packet = false ↔ worker.output.Refuses packet) ∧
      after.Forwards (emissionsOf stage (recordOf moves)) (storedBy stage (recordOf moves)) ∧
      (∀ move ∈ moves, move.isStepOf stage = true → move.Fills stage ∧ move.Reports stage design.name) ∧
      (after.control = .ended → callsOf stage (recordOf moves) = [] → Dismissed stage prior moves) ∧
      ((repliesTo stage moves).any (Worker.isOutage method.unavailable) = true →
        (callsOf stage (recordOf moves)).length = 1 ∧
        reportsOf stage (recordOf moves) + (after.control.owesReport method.unavailable).toNat = 1 ∧
        (after.control = .ended →
          reportsOf stage (recordOf moves) = 1 ∧ (Dismissed stage prior moves ∨ Resumed stage moves))) ∧
      (∀ cancelFirst, last.act (.worker stage cancelFirst) = none →
        after.control.outgoing = [] ∧ after.control.owesReport method.unavailable = false) ∧
      (after.control = .lingering →
        ((∀ cancelFirst, last.act (.worker stage cancelFirst) = none) ↔
          moved.stage.lifecycle.phase = .paused)) ∧
      (after.control = .ended → moved.stage.lifecycle.phase = .finished) ∧
      (after.control = .crashed → first.onFatal = .crash) := by
  obtain ⟨output, created⟩ := Stage.oneShot_worker built once made
  have plain : StageKind.oneShotUnary ≠ .serverStreaming := by decide
  have calls : worker.kind ≠ .serverStreaming := by
    rw [created]
    exact plain
  have numbers : worker.input.MakesIds := by
    rw [created]
    trivial
  have numbered := ran.counts calls numbers found fresh
  subst created
  obtain ⟨moved, after, there, runs, kin, rounds⟩ := ran.keeps_rounds plain found fresh
  obtain ⟨same, held, present, runsOn, _, attempting⟩ := ran.attempting rfl ⟨_, _, rfl⟩ rfl found fresh begins
  cases there.symm.trans present
  cases runs.symm.trans runsOn
  have judges : after.unavailable = method.unavailable := kin.unavailable
  have sends : after.output = output := kin.output
  have single := attempting.attempts.length_le
  have uncalled : callsOf stage (recordOf moves) = [] → fetchedBy stage moves = [] := by
    rw [rounds.called]
    exact List.map_eq_nil_iff.mp
  have ends : after.control = .ended → after.control.Ending := by
    intro ended
    rw [ended]
    trivial
  obtain ⟨offered, ids⟩ := rounds.offered single numbered
  obtain ⟨again, forwarding, there', runs', _, forwards⟩ := ran.forwards found fresh
  cases there.symm.trans there'
  cases runs.symm.trans runs'
  refine ⟨moved, after, there, runs, ?_, offered, ids, ?_, fun packet => Output.takes_false_iff, forwards,
    ran.leaves found fresh, ?_, ?_, ?_, lingering_blocked there runs, attempting.ended, attempting.crashed⟩
  · rw [rounds.called, List.length_map]
    exact single
  · rw [rounds.went, sends]
    rfl
  · intro ended none
    exact attempting.uncalled (ends ended) (uncalled none)
  · intro out
    rw [← judges] at out ⊢
    obtain ⟨called, reported⟩ := rounds.outage single out
    refine ⟨called, reported, ?_⟩
    intro ended
    refine ⟨?_, attempting.outage (ends ended) out⟩
    rw [ended] at reported
    exact reported
  · intro cancelFirst blocked
    have stuck := stepWorker_none blocked there runs
    exact ⟨Worker.blocked_forwarded stuck, (Worker.blocked_settled method.unavailable stuck).2⟩

namespace Beacon

def descriptor : StageDescriptor :=
  { name := "beacon", host := "localhost", port := 50051
    method := { name := "vision.Beacon/Light", shape := .unary, input := .unnamed, output := .unnamed }
    mode := .oneShot }

def design : Stage :=
  { descriptor := descriptor, kind := .oneShotUnary, method := .standard, lifecycle := .fresh "beacon"
    bindings := some .none }

/-- Made with an interrupt pending. -/
def lamp : Post :=
  { stage := { design with lifecycle := (Custody.after "beacon" [.request .interrupt]).life, bindings := none }
    slot := .spawned
      (.create "beacon" .oneShotUnary Status.isUnavailable (.source 1 .unnamed) (.passthrough 0)) }

def tower : Engine :=
  { Engine.idle .note 4 with links := { links := [.labelled "light"] }, posts := [lamp] }

/-- The worker parks at its first checkpoint until it is resumed; its stage is paused during the call, which
meets an outage, and resumed between the worker's own pause and its report. -/
def actions : List Action :=
  List.replicate 2 (.worker 0 false) ++ .request 0 .resume :: List.replicate 3 (.worker 0 false) ++
    [.request 0 .pause, .answer 0 (.failure { code := .unavailable, message := "" })] ++
    List.replicate 2 (.worker 0 false) ++ .request 0 .resume :: List.replicate 3 (.worker 0 false)

end Beacon

theorem one_shot_acts_once_beacon :
    ∃ last moves moved after,
      Stage.build Beacon.descriptor .standard = .ok Beacon.design ∧
      Beacon.design.workerOf { inputs := [], outputs := [{ field := "", link := 0 }] } =
        .ok (.create "beacon" .oneShotUnary Status.isUnavailable (.source 1 .unnamed) (.passthrough 0)) ∧
      Beacon.tower.posts[0]? = some Beacon.lamp ∧ Runs Beacon.tower last moves ∧
      last.posts[0]? = some moved ∧ moved.slot = .spawned after ∧ after.control = .ended ∧
      moved.stage.lifecycle.phase = .finished ∧ (callsOf 0 (recordOf moves)).length = 1 ∧
      reportsOf 0 (recordOf moves) = 1 ∧ storedBy 0 (recordOf moves) = [] ∧
      after.Forwards (emissionsOf 0 (recordOf moves)) (storedBy 0 (recordOf moves)) ∧
      (∀ move ∈ moves, move.isStepOf 0 = true → move.Fills 0 ∧ move.Reports 0 "beacon") ∧
      (Dismissed 0 [.request .interrupt] moves ∨ Resumed 0 moves) := by
  have outcome : (perform Beacon.actions Beacon.tower).map (fun reached =>
      (reached.1.endOf 0).map List.isEmpty) = some (some true) := by decide
  obtain ⟨⟨last, past⟩, performed, halts⟩ := Option.map_eq_some_iff.mp outcome
  have ran : Runs Beacon.tower last (movesOf Beacon.actions Beacon.tower) :=
    runs_perform .started performed
  have out : (repliesTo 0 (movesOf Beacon.actions Beacon.tower)).any
      (Worker.isOutage Status.isUnavailable) = true := by decide
  have built : Stage.build Beacon.descriptor .standard = .ok Beacon.design := rfl
  have made : Beacon.design.workerOf { inputs := [], outputs := [{ field := "", link := 0 }] } =
      .ok (.create "beacon" .oneShotUnary Status.isUnavailable (.source 1 .unnamed) (.passthrough 0)) := rfl
  have found : Beacon.tower.posts[0]? = some Beacon.lamp := rfl
  have quiet : (storedBy 0 (recordOf (movesOf Beacon.actions Beacon.tower))).isEmpty = true := by decide
  obtain ⟨moved, after, there, runs, _, _, _, _, _, forwards, leaves, _, outage, _, _, finished, _⟩ :=
    one_shot_acts_once built rfl made found rfl (show _ = (Custody.after "beacon" _).life from rfl) ran
  have stopped : after.control = .ended := by
    simp only [endOf, there, Post.spawned?, runs] at halts
    split at halts
    · assumption
    · split at halts <;> simp at halts
  obtain ⟨called, _, ended⟩ := outage out
  obtain ⟨reported, resumed⟩ := ended stopped
  exact ⟨last, _, moved, after, built, made, found, ran, there, runs, stopped, finished stopped, called, reported,
    List.isEmpty_iff.mp quiet, forwards, leaves, resumed⟩

end Engine
end Sluice
