import Sluice.Proofs.Engine.Forwarding
import Sluice.Proofs.Engine.Order

set_option autoImplicit false

/-! The rounds of a unary stage over whole runs. Requests on the stage and traffic on its links may come
between any two of its worker's steps; no packet that its input brings is lost, repeated or overtaken. -/

namespace Sluice
namespace Engine

/-- The packet that the input of the stage's worker brings in this move. -/
def Move.brings? (stage : StageId) (move : Move) : Option Packet :=
  match move.action, move.before.posts[stage]? with
  | .worker acting cancelFirst, some post =>
      if acting = stage then
        post.spawned?.bind (Worker.brings? cancelFirst post.stage.lifecycle move.before.links)
      else none
  | _, _ => none

/-- The answer that the stage's worker hands to its output in this move. -/
def Move.offers? (stage : StageId) (move : Move) : Option Packet :=
  if move.isStepOf stage then (move.worker? stage).bind (·.control.answer?) else none

def Move.takes (stage : StageId) (link : LinkId) (move : Move) : List Packet :=
  if move.isStepOf stage then move.before.taking move.after link else []

def fetchedBy (stage : StageId) (moves : List Move) : List Packet :=
  moves.flatMap fun move => (move.brings? stage).toList

def repliesTo (stage : StageId) (moves : List Move) : List (Except Status Message) :=
  moves.flatMap fun move => (move.action.reply stage).toList

def offeredBy (stage : StageId) (moves : List Move) : List Packet :=
  moves.flatMap fun move => (move.offers? stage).toList

def takenFrom (link : LinkId) (stage : StageId) (moves : List Move) : List Packet :=
  moves.flatMap (·.takes stage link)

def reportsOf (stage : StageId) (past : List Occurrence) : Nat :=
  (past.map fun occurrence => Effect.reportsIn (occurrence.of stage)).sum

/-- The worker's last step paused its stage, unless the stage had finished. -/
def JustPaused (stage : StageId) (past : List Move) : Prop :=
  ∃ earlier pausing later post moved, past = earlier ++ pausing :: later ∧
    pausing.isStepOf stage = true ∧ stepsOf stage (recordOf later) = 0 ∧
    pausing.before.posts[stage]? = some post ∧ pausing.after.posts[stage]? = some moved ∧
    (moved.stage.lifecycle.phase = .paused ∨
      post.stage.lifecycle.phase = .finished ∧ moved.stage.lifecycle.phase = .finished)

variable {first engine next last : Engine} {moves earlier later : List Move} {move : Move}
  {action : Action} {effects : List Effect} {stage : StageId} {post moved : Post} {link : LinkId}
  {worker : Worker} {name : String} {unavailable : Status → Bool} {cancelFirst : Bool}

theorem brings_own (acts : move.action = .worker stage cancelFirst)
    (found : move.before.posts[stage]? = some post) (runs : post.slot = .spawned worker) :
    move.brings? stage = worker.brings? cancelFirst post.stage.lifecycle move.before.links := by
  unfold Move.brings?
  simp only [acts, found, if_true, Post.spawned?, runs, Option.bind_some]

theorem brings_others (rests : ∀ cancelFirst, move.action ≠ .worker stage cancelFirst) :
    move.brings? stage = none := by
  unfold Move.brings?
  split
  · rename_i acts _
    apply if_neg
    intro same
    exact rests _ (same ▸ acts)
  · rfl

private theorem offers_own (acts : move.action = .worker stage cancelFirst)
    (found : move.before.posts[stage]? = some post) (runs : post.slot = .spawned worker) :
    move.offers? stage = worker.control.answer? := by
  unfold Move.offers?
  rw [if_pos (Move.of_own acts).2, Move.worker_of_post found runs, Option.bind_some]

theorem not_replied (rests : ¬ action.Concerns stage) : action.reply stage = none := by
  cases action with
  | answer acting given =>
      cases given with
      | response | failure => exact if_neg rests
      | stream => rfl
  | worker | monitor | join | request | feed | endStream | put | take | publish | closeBus
    | stopMonitor | elapse => rfl

def RoundsInOrder (stage : StageId) (worker : Worker) (moves : List Move) : Prop :=
  worker.Rounds (fetchedBy stage moves) (repliesTo stage moves) (callsOf stage (recordOf moves))
    (offeredBy stage moves) (emissionsOf stage (recordOf moves)) (reportsOf stage (recordOf moves))

private theorem inOrder_append :
    RoundsInOrder stage worker (moves ++ [move]) =
      worker.Rounds (fetchedBy stage moves ++ (move.brings? stage).toList)
        (repliesTo stage moves ++ (move.action.reply stage).toList)
        (callsOf stage (recordOf moves) ++ (move.of stage).filterMap Effect.called?)
        (offeredBy stage moves ++ (move.offers? stage).toList)
        (emissionsOf stage (recordOf moves) ++ Effect.dispatchedOf (move.of stage))
        (reportsOf stage (recordOf moves) + Effect.reportsIn (move.of stage)) := by
  unfold RoundsInOrder fetchedBy repliesTo offeredBy reportsOf
  rw [recordOf_append, callsOf_append, emissionsOf_append, List.flatMap_append, List.flatMap_append,
    List.flatMap_append, List.flatMap_singleton, List.flatMap_singleton, List.flatMap_singleton,
    List.map_append, List.sum_append, List.map_singleton, List.sum_singleton]

private theorem inOrder_others (rests : ∀ cancelFirst, move.action ≠ .worker stage cancelFirst) :
    RoundsInOrder stage worker (moves ++ [move]) =
      worker.Rounds (fetchedBy stage moves) (repliesTo stage moves ++ (move.action.reply stage).toList)
        (callsOf stage (recordOf moves)) (offeredBy stage moves) (emissionsOf stage (recordOf moves))
        (reportsOf stage (recordOf moves)) := by
  obtain ⟨idle, still⟩ := Move.of_others rests
  have offers : move.offers? stage = none := if_neg (ne_true_of_eq_false still)
  rw [inOrder_append, brings_others rests, idle, offers]
  simp only [Effect.dispatchedOf, Effect.reportsIn, Option.toList_none, List.append_nil,
    List.filterMap_nil, List.countP_nil, Nat.add_zero]

private theorem inOrder_own {after : Worker} {own : List Effect} {notices : List Notice}
    (acts : move.action = .worker stage cancelFirst) (found : move.before.posts[stage]? = some post)
    (runs : post.slot = .spawned worker) (did : move.effects = own ++ Effect.ofNotices notices) :
    RoundsInOrder stage after (moves ++ [move]) =
      after.Rounds
        (fetchedBy stage moves ++
          (worker.brings? cancelFirst post.stage.lifecycle move.before.links).toList)
        (repliesTo stage moves) (callsOf stage (recordOf moves) ++ own.filterMap Effect.called?)
        (offeredBy stage moves ++ worker.control.answer?.toList)
        (emissionsOf stage (recordOf moves) ++ Effect.dispatchedOf own)
        (reportsOf stage (recordOf moves) + Effect.reportsIn own) := by
  have unreplied : move.action.reply stage = none := by
    rw [acts]
    rfl
  rw [inOrder_append, brings_own acts found runs, offers_own acts found runs, unreplied,
    (Move.of_own acts).1, did, List.filterMap_append, Effect.dispatchedOf_append,
    Effect.dispatchedOf_notices, Effect.reportsIn_noted,
    Effect.called_silent fun _ => Effect.silent_ofNotices]
  simp only [Option.toList_none, List.append_nil]

theorem Fares.keeps_rounds (found : move.before.posts[stage]? = some post)
    (runs : post.slot = .spawned worker) (rounds : RoundsInOrder stage worker moves)
    (fares : Fares stage move post moved) :
    ∃ after, moved.slot = .spawned after ∧ RoundsInOrder stage after (moves ++ [move]) := by
  cases fares with
  | rested rests _ kept =>
      refine ⟨worker, kept.trans runs, ?_⟩
      rw [inOrder_others (Action.not_worker rests), not_replied rests, Option.toList_none, List.append_nil]
      exact rounds
  | told spawned told =>
      cases runs.symm.trans spawned
      refine ⟨_, rfl, ?_⟩
      rw [inOrder_others fun cancelFirst => told.not_worker]
      exact rounds.told told
  | worked acts spawned step _ _ goes runsOn _ did =>
      cases runs.symm.trans spawned
      have rounds := rounds.step step
      refine ⟨_, goes, ?_⟩
      rw [inOrder_own acts found runs did]
      rcases runsOn with still | ⟨_, crashed, fails⟩
      · subst still
        exact rounds
      · obtain ⟨_, _, same⟩ := failing_of_isFailure (Worker.step_stepped step) fails
        exact rounds.rest (by rw [same]) crashed

theorem Runs.keeps_rounds {kind : StageKind} {input : Input} {output : Output}
    (plain : kind ≠ .serverStreaming) (found : first.posts[stage]? = some post)
    (fresh : post.slot = .spawned (.create name kind unavailable input output))
    (ran : Runs first last moves) :
    ∃ moved after, last.posts[stage]? = some moved ∧ moved.slot = .spawned after ∧
      (Worker.create name kind unavailable input output).Kin after ∧ RoundsInOrder stage after moves :=
  ran.carries (fun _ after moves => RoundsInOrder stage after moves) found fresh
    (Worker.rounds_created plain) fun _ atStage _ spawned _ rounds fares =>
      fares.keeps_rounds atStage spawned rounds

inductive InputChange (stage : StageId) (move : Move) (worker after : Worker) : Prop
  | unchanged (input : after.input = worker.input) (brings : move.brings? stage = none)
      (takes : ∀ link, move.takes stage link = [])
  | fetched {now : Duration} {cancelFirst : Bool} {life : Lifecycle} {bus : ReportBus} {stepped : WorkerStep}
      (step : worker.step now cancelFirst life move.before.links bus = some stepped)
      (input : after.input = stepped.worker.input)
      (brings : move.brings? stage = worker.brings? cancelFirst life move.before.links)
      (takes : ∀ link, move.takes stage link =
        (MergeLedger.removed move.before.links stepped.links link).toList)

theorem Fares.inputChange (found : move.before.posts[stage]? = some post)
    (runs : post.slot = .spawned worker) (fares : Fares stage move post moved) :
    ∃ after, moved.slot = .spawned after ∧ InputChange stage move worker after := by
  have others : ∀ {after : Worker}, (∀ cancelFirst, move.action ≠ .worker stage cancelFirst) →
      after.input = worker.input → InputChange stage move worker after := by
    intro after rests same
    have still := ne_true_of_eq_false (Move.of_others rests).2
    exact .unchanged same (brings_others rests) fun _ => if_neg still
  cases fares with
  | rested rests _ kept =>
      exact ⟨worker, kept.trans runs, others (Action.not_worker rests) rfl⟩
  | told spawned told =>
      cases runs.symm.trans spawned
      exact ⟨_, rfl, others (fun cancelFirst => told.not_worker) rfl⟩
  | worked acts spawned step _ _ goes _ links =>
      cases runs.symm.trans spawned
      refine ⟨_, goes, .fetched step rfl (brings_own acts found runs) ?_⟩
      intro link
      unfold Move.takes taking
      rw [if_pos (Move.of_own acts).2, links]

theorem fetchedBy_append :
    fetchedBy stage (moves ++ [move]) = fetchedBy stage moves ++ (move.brings? stage).toList := by
  unfold fetchedBy
  rw [List.flatMap_append, List.flatMap_singleton]

theorem repliesTo_append :
    repliesTo stage (moves ++ [move]) = repliesTo stage moves ++ (move.action.reply stage).toList := by
  unfold repliesTo
  rw [List.flatMap_append, List.flatMap_singleton]

private theorem Fares.counts {start : Nat} (plain : worker.kind ≠ .serverStreaming)
    (found : move.before.posts[stage]? = some post) (runs : post.slot = .spawned worker)
    (counts : worker.Counts start (fetchedBy stage moves)) (fares : Fares stage move post moved) :
    ∃ after, moved.slot = .spawned after ∧ after.Counts start (fetchedBy stage (moves ++ [move])) := by
  obtain ⟨after, runsOn, change⟩ := fares.inputChange found runs
  refine ⟨after, runsOn, ?_⟩
  rw [fetchedBy_append]
  cases change with
  | unchanged input brings =>
      rw [brings, Option.toList_none, List.append_nil]
      exact ⟨input ▸ counts.makes, input ▸ counts.counter, counts.ids⟩
  | fetched step input brings =>
      obtain ⟨makes, counter, ids⟩ := counts.step plain step
      rw [brings]
      exact ⟨input ▸ makes, input ▸ counter, ids⟩

theorem Runs.counts (plain : worker.kind ≠ .serverStreaming) (makes : worker.input.MakesIds)
    (found : first.posts[stage]? = some post) (runs : post.slot = .spawned worker)
    (ran : Runs first last moves) :
    (fetchedBy stage moves).map (·.id) =
      List.range' worker.input.counter (fetchedBy stage moves).length := by
  obtain ⟨_, _, _, _, _, counts⟩ := ran.carries
    (fun _ after moves => after.Counts worker.input.counter (fetchedBy stage moves)) found runs
    ⟨makes, rfl, rfl⟩ fun _ atStage _ spawned kin counts fares =>
      fares.counts (kin.kind ▸ plain) atStage spawned counts
  exact counts.ids

private theorem takenFrom_append :
    takenFrom link stage (moves ++ [move]) = takenFrom link stage moves ++ move.takes stage link := by
  unfold takenFrom
  rw [List.flatMap_append, List.flatMap_singleton]

private theorem Fares.takes (plain : worker.kind ≠ .serverStreaming)
    (single : worker.input = .passthrough link) (found : move.before.posts[stage]? = some post)
    (runs : post.slot = .spawned worker) (same : fetchedBy stage moves = takenFrom link stage moves)
    (fares : Fares stage move post moved) :
    ∃ after, moved.slot = .spawned after ∧ after.input = .passthrough link ∧
      fetchedBy stage (moves ++ [move]) = takenFrom link stage (moves ++ [move]) := by
  obtain ⟨after, runsOn, change⟩ := fares.inputChange found runs
  refine ⟨after, runsOn, ?_⟩
  rw [fetchedBy_append, takenFrom_append, same]
  cases change with
  | unchanged input brings takes =>
      rw [brings, takes]
      exact ⟨input.trans single, rfl⟩
  | fetched step input brings takes =>
      obtain ⟨singleOn, taken⟩ := Worker.step_takes plain single step
      rw [brings, takes, taken]
      exact ⟨input.trans singleOn, rfl⟩

theorem Runs.takes (plain : worker.kind ≠ .serverStreaming) (single : worker.input = .passthrough link)
    (found : first.posts[stage]? = some post) (runs : post.slot = .spawned worker)
    (ran : Runs first last moves) : fetchedBy stage moves = takenFrom link stage moves := by
  obtain ⟨_, _, _, _, _, _, same⟩ := ran.carries
    (fun _ after moves => after.input = .passthrough link ∧
      fetchedBy stage moves = takenFrom link stage moves) found runs
    ⟨single, rfl⟩ fun _ atStage _ spawned kin known fares =>
      fares.takes (kin.kind ▸ plain) known.1 atStage spawned known.2
  exact same

private theorem JustPaused.further (paused : JustPaused stage moves)
    (still : move.isStepOf stage = false) : JustPaused stage (moves ++ [move]) := by
  obtain ⟨earlier, pausing, later, post, moved, whole, own, rests, found⟩ := paused
  subst whole
  refine ⟨earlier, pausing, later ++ [move], post, moved, ?_, own, ?_, found⟩
  · rw [List.append_assoc, List.cons_append]
  · unfold stepsOf at rests ⊢
    rw [recordOf_append, List.countP_append, rests, List.countP_singleton, still,
      if_neg Bool.false_ne_true]

private theorem phase_paused (life : Lifecycle) :
    life.pause.1.phase = .paused ∨ life.phase = .finished ∧ life.pause.1.phase = .finished := by
  unfold Lifecycle.pause
  cases phase : life.phase with
  | running => exact Or.inl rfl
  | paused => exact Or.inl phase
  | finished => exact Or.inr ⟨rfl, phase⟩

private theorem Fares.withdraws (found : move.before.posts[stage]? = some post)
    (there : move.after.posts[stage]? = some moved) (runs : post.slot = .spawned worker)
    (paused : worker.control = .reporting → JustPaused stage moves)
    (fares : Fares stage move post moved) :
    ∃ after, moved.slot = .spawned after ∧
      (after.control = .reporting → JustPaused stage (moves ++ [move])) := by
  cases fares with
  | rested rests _ kept =>
      exact ⟨worker, kept.trans runs, fun reporting =>
        (paused reporting).further (Move.of_unconcerned rests).2⟩
  | told spawned told => exact ⟨_, rfl, fun reporting => absurd reporting told.withdraws⟩
  | worked acts spawned step _ calm goes runsOn =>
      cases runs.symm.trans spawned
      refine ⟨_, goes, ?_⟩
      intro reporting
      rcases runsOn with still | ⟨_, crashed, _⟩
      · obtain ⟨life, silent⟩ := (Worker.step_stepped step).withdraws (still ▸ reporting)
        refine ⟨moves, move, [], post, moved, rfl, (Move.of_own acts).2, rfl, found, there, ?_⟩
        rw [calm (silent ▸ calm_notices _), life]
        exact phase_paused _
      · cases crashed.symm.trans reporting

private theorem Runs.withdraws (found : first.posts[stage]? = some post)
    (fresh : post.slot = .spawned worker) (starts : worker.control ≠ .reporting)
    (ran : Runs first last (earlier ++ move :: later)) {reporter : String}
    (reports : .reported reporter ∈ move.of stage) :
    reporter = worker.stage ∧ JustPaused stage earlier := by
  obtain ⟨head, acts, _⟩ := ran.around
  obtain ⟨present, held, atStage, spawned, kin, paused⟩ := head.carries
    (fun _ after moves => after.control = .reporting → JustPaused stage moves) found fresh
    (fun reporting => absurd reporting starts) fun _ atStage there spawned _ paused fares =>
      fares.withdraws atStage there spawned paused
  obtain ⟨moved, there, fares⟩ := act_fares acts atStage
  cases fares with
  | rested rests =>
      rw [(Move.of_unconcerned rests).1] at reports
      cases reports
  | told spawned told =>
      rw [(Move.of_others fun cancelFirst => told.not_worker).1] at reports
      cases reports
  | worked own runs step _ _ _ _ _ did =>
      cases spawned.symm.trans runs
      rw [(Move.of_own own).1, did] at reports
      rcases List.mem_append.mp reports with here | noted
      · obtain ⟨reporting, same⟩ := (Worker.step_stepped step).reporter here
        exact ⟨same.trans kin.stage, paused reporting⟩
      · obtain ⟨notice, _, impossible⟩ := List.mem_map.mp noted
        cases impossible

theorem counter_ofBindings {bindings : List Binding} {schema : Schema} {input : Input}
    (made : Input.ofBindings name bindings .continuous schema = .ok input) : input.counter = 0 := by
  unfold Input.ofBindings at made
  split at made
  · cases made
    rfl
  · cases made
    rfl
  · dsimp only at made
    split at made
    · cases made
    · split at made
      · cases made
      · cases made
        rfl

/-- However requests on the stage, traffic on links and replies fall between the steps of a unary stage's
worker, it neither loses, repeats nor reorders work. Its calls are made with what its input brought, one
each and in order; each answer goes to the output once, under the id of its call and in that order, and what
the output makes of those that it takes is what the worker puts on its links, one packet after the other;
each failure that means an unreachable service is reported once on the shared bus, by a worker that has just
paused its stage. A blocked worker has no answer, no packet and no report left. Packets of its own are
numbered from zero without gaps, and packets that it passes on are exactly those that its waits took from the
link: no request touches a link. -/
theorem unary_rounds_kept {bindings : List Binding} {schema : Schema} {input : Input} {output : Output}
    (made : Input.ofBindings name bindings .continuous schema = .ok input)
    (found : first.posts[stage]? = some post)
    (fresh : post.slot = .spawned (.create name .unary unavailable input output))
    (ran : Runs first last moves) :
    ∃ moved worker, last.posts[stage]? = some moved ∧ moved.slot = .spawned worker ∧
      callsOf stage (recordOf moves) = (fetchedBy stage moves).map (·.message) ∧
      worker.iterations = (callsOf stage (recordOf moves)).length ∧
      (fetchedBy stage moves).length =
        (repliesTo stage moves).length + worker.control.awaits?.toList.length ∧
      Worker.results (fetchedBy stage moves) (repliesTo stage moves) =
        offeredBy stage moves ++ worker.control.answer?.toList ∧
      emissionsOf stage (recordOf moves) = (offeredBy stage moves).filter output.takes ∧
      (∀ packet, output.takes packet = false ↔ output.Refuses packet) ∧
      worker.Forwards (emissionsOf stage (recordOf moves)) (storedBy stage (recordOf moves)) ∧
      (∀ move ∈ moves, move.isStepOf stage = true → move.Fills stage ∧ move.Reports stage name) ∧
      reportsOf stage (recordOf moves) + (worker.control.owesReport unavailable).toNat =
        (repliesTo stage moves).countP (Worker.isOutage unavailable) ∧
      (∀ cancelFirst, last.act (.worker stage cancelFirst) = none →
        worker.control.answer? = none ∧ worker.control.outgoing = [] ∧
          worker.control.owesReport unavailable = false) ∧
      (∀ earlier move later reporter, moves = earlier ++ move :: later →
        .reported reporter ∈ move.of stage → reporter = name ∧ JustPaused stage earlier) ∧
      (input.MakesIds →
        (fetchedBy stage moves).map (·.id) = List.range (fetchedBy stage moves).length) ∧
      (∀ link, input = .passthrough link → fetchedBy stage moves = takenFrom link stage moves) ∧
      (∀ move ∈ moves, ∀ target asked, move.action = .request target asked →
        move.after.links = move.before.links) := by
  have plain : StageKind.unary ≠ .serverStreaming := by decide
  obtain ⟨moved, worker, there, runs, kin, rounds⟩ := ran.keeps_rounds plain found fresh
  obtain ⟨same, forwarding, present, runsOn, _, forwards⟩ := ran.forwards found fresh
  cases there.symm.trans present
  cases runs.symm.trans runsOn
  refine ⟨moved, worker, there, runs, rounds.called, ?_, ?_, rounds.answered, ?_,
    fun packet => Output.takes_false_iff, forwards, ran.leaves found fresh, ?_, ?_, ?_, ?_, ?_, ?_⟩
  · rw [rounds.called, rounds.counted, List.length_map]
  · obtain ⟨requests, brought, level⟩ := rounds.settled
    rw [brought, List.length_append, level]
  · have sends : worker.output = output := kin.output
    rw [← sends]
    exact rounds.went
  · have judges : worker.unavailable = unavailable := kin.unavailable
    rw [← judges]
    exact rounds.reported
  · intro cancelFirst blocked
    have stuck := stepWorker_none blocked there runs
    obtain ⟨answered, reported⟩ := Worker.blocked_settled unavailable stuck
    exact ⟨answered, Worker.blocked_forwarded stuck, reported⟩
  · intro earlier move later reporter whole reports
    exact (whole ▸ ran).withdraws found fresh (by intro impossible; cases impossible) reports
  · intro makes
    have counted := ran.counts plain makes found fresh
    have zero : (Worker.create name .unary unavailable input output).input.counter = 0 :=
      counter_ofBindings made
    rw [zero, ← List.range_eq_range'] at counted
    exact counted
  · intro link single
    exact ran.takes plain single found fresh
  · intro move member target asked requests
    obtain ⟨earlier, later, whole⟩ := List.append_of_mem member
    subst whole
    obtain ⟨_, acts, _⟩ := ran.around
    rw [requests] at acts
    exact (congrArg (·.1.links) (Option.some.inj acts)).symm

namespace Millstone

def filter : Post :=
  { stage :=
      { descriptor :=
          { name := "filter", host := "localhost", port := 50051
            method :=
              { name := "vision.Filter/Apply", shape := .unary, input := .unnamed, output := .unnamed }
            mode := .continuous }
        kind := .unary, method := .standard, lifecycle := .fresh "filter", bindings := none }
    slot :=
      .spawned (.create "filter" .unary Status.isUnavailable (.passthrough 0) (.passthrough 1)) }

def mill : Engine :=
  { Engine.idle .note 4 with
    links := { links := [.labelled "in", .labelled "out"] }, posts := [filter] }

/-- One packet goes through; the next one arrives while the stage is paused and its wait interrupted, waits
for the stage to be resumed, and then the service is down. -/
def actions : List Action :=
  .put 0 { id := 7, message := .empty } :: List.replicate 4 (.worker 0 false) ++
    .answer 0 (.response .empty) :: List.replicate 7 (.worker 0 false) ++
    [.request 0 .pause, .request 0 .interrupt, .put 0 { id := 9, message := .empty }] ++
    List.replicate 3 (.worker 0 true) ++ .request 0 .resume :: List.replicate 3 (.worker 0 false) ++
    .answer 0 (.failure { code := .unavailable, message := "" }) :: List.replicate 3 (.worker 0 false)

end Millstone

theorem unary_rounds_kept_millstone :
    ∃ last moves moved worker,
      Input.ofBindings "filter" [{ field := "", link := 0 }] .continuous .unnamed =
        .ok (.passthrough 0) ∧
      Millstone.mill.posts[0]? = some Millstone.filter ∧
      Millstone.filter.slot =
        .spawned (.create "filter" .unary Status.isUnavailable (.passthrough 0) (.passthrough 1)) ∧
      Runs Millstone.mill last moves ∧ last.posts[0]? = some moved ∧ moved.slot = .spawned worker ∧
      (takenFrom 0 0 moves).map (·.id) = [7, 9] ∧ fetchedBy 0 moves = takenFrom 0 0 moves ∧
      callsOf 0 (recordOf moves) = (fetchedBy 0 moves).map (·.message) ∧
      worker.iterations = (callsOf 0 (recordOf moves)).length ∧
      (emissionsOf 0 (recordOf moves)).map (·.id) = [7] ∧
      (storedBy 0 (recordOf moves)).map (fun delivery => (delivery.1, delivery.2.id)) = [(1, 7)] ∧
      worker.Forwards (emissionsOf 0 (recordOf moves)) (storedBy 0 (recordOf moves)) ∧
      (∀ move ∈ moves, move.isStepOf 0 = true → move.Fills 0 ∧ move.Reports 0 "filter") ∧
      reportsOf 0 (recordOf moves) = 1 := by
  have outcome : (perform Millstone.actions Millstone.mill).isSome = true := by decide
  obtain ⟨⟨last, past⟩, performed⟩ := Option.isSome_iff_exists.mp outcome
  have ran : Runs Millstone.mill last (movesOf Millstone.actions Millstone.mill) :=
    runs_perform .started performed
  have taken : (takenFrom 0 0 (movesOf Millstone.actions Millstone.mill)).map (·.id) = [7, 9] := by
    decide
  have went :
      (emissionsOf 0 (recordOf (movesOf Millstone.actions Millstone.mill))).map (·.id) = [7] := by decide
  have stored : (storedBy 0 (recordOf (movesOf Millstone.actions Millstone.mill))).map
      (fun delivery => (delivery.1, delivery.2.id)) = [(1, 7)] := by decide
  have reported : reportsOf 0 (recordOf (movesOf Millstone.actions Millstone.mill)) = 1 := by decide
  have made : Input.ofBindings "filter" [{ field := "", link := 0 }] .continuous .unnamed =
      .ok (.passthrough 0) := rfl
  have found : Millstone.mill.posts[0]? = some Millstone.filter := rfl
  obtain ⟨moved, worker, there, runs, called, counted, _, _, _, _, forwards, leaves, _, _, _, _, takes, _⟩ :=
    unary_rounds_kept made found rfl ran
  exact ⟨last, _, moved, worker, made, found, rfl, ran, there, runs, taken, takes 0 rfl, called, counted,
    went, stored, forwards, leaves, reported⟩

end Engine
end Sluice
