import Sluice.Proofs.Engine.Chronicle
import Sluice.Proofs.Worker.Streaming

set_option autoImplicit false

/-! The streams of a stage over whole runs. Requests on the stage, its own pauses after an outage and the
items of a stream may come between any two of its worker's steps; the results have one count from the first
stream to the last, and no item that is read is left out. -/

namespace Sluice
namespace Engine

def Move.hands? (stage : StageId) (move : Move) : Option Packet :=
  if move.isStepOf stage then (move.worker? stage).bind Worker.offer? else none

def handedBy (stage : StageId) (moves : List Move) : List Packet :=
  moves.flatMap fun move => (move.hands? stage).toList

/-- The streams that were opened to a stage, in order, each with all items that arrived on it. -/
def streamsOf (stage : StageId) (moves : List Move) : List OpenStream :=
  moves.foldl (fun streams move => move.action.streams stage streams) []

/-- In this move the stage's worker asks for a stream, or gets one. -/
def Move.Opens (stage : StageId) (move : Move) : Prop :=
  (∃ request, .called request ∈ move.of stage) ∨ ∃ stream, move.action = .answer stage (.stream stream)

variable {first last : Engine} {moves earlier later : List Move} {move : Move} {action : Action}
  {stage : StageId} {post moved : Post} {worker : Worker} {name : String} {unavailable : Status → Bool}
  {streams : List OpenStream} {cancelFirst : Bool}

theorem handedBy_append :
    handedBy stage (moves ++ [move]) = handedBy stage moves ++ (move.hands? stage).toList := by
  unfold handedBy
  rw [List.flatMap_append, List.flatMap_singleton]

theorem streamsOf_append :
    streamsOf stage (moves ++ [move]) = move.action.streams stage (streamsOf stage moves) := by
  unfold streamsOf
  rw [List.foldl_append]
  rfl

private theorem streams_unconcerned (rests : ¬ action.Concerns stage) :
    action.streams stage streams = streams := by
  cases action with
  | answer acting given =>
      cases given with
      | stream => exact if_neg rests
      | response | failure => rfl
  | feed | endStream => exact if_neg rests
  | worker | monitor | join | request | put | take | publish | closeBus | stopMonitor | elapse => rfl

private theorem hands_own (acts : move.action = .worker stage cancelFirst)
    (found : move.before.posts[stage]? = some post) (runs : post.slot = .spawned worker) :
    move.hands? stage = worker.offer? := by
  unfold Move.hands?
  rw [if_pos (Move.of_own acts).2, Move.worker_of_post found runs, Option.bind_some]

private theorem hands_others (rests : ∀ cancelFirst, move.action ≠ .worker stage cancelFirst) :
    move.hands? stage = none :=
  if_neg (ne_true_of_eq_false (Move.of_others rests).2)

structure Streamed (stage : StageId) (worker : Worker) (moves : List Move) : Prop where
  streaming : worker.Streaming (streamsOf stage moves) (handedBy stage moves)
  emitted : emissionsOf stage (recordOf moves) = (handedBy stage moves).filter worker.output.takes

private theorem streamed_others {after : Worker} (same : after.output = worker.output)
    (rests : ∀ cancelFirst, move.action ≠ .worker stage cancelFirst)
    (streaming : after.Streaming (move.action.streams stage (streamsOf stage moves)) (handedBy stage moves))
    (emitted : emissionsOf stage (recordOf moves) = (handedBy stage moves).filter worker.output.takes) :
    Streamed stage after (moves ++ [move]) := by
  have kept : handedBy stage (moves ++ [move]) = handedBy stage moves := by
    rw [handedBy_append, hands_others rests, Option.toList_none, List.append_nil]
  refine ⟨?_, ?_⟩
  · rw [streamsOf_append, kept]
    exact streaming
  · rw [recordOf_append, emissionsOf_append, kept, (Move.of_others rests).1, same]
    exact (List.append_nil _).trans emitted

theorem Fares.streamed (found : move.before.posts[stage]? = some post)
    (runs : post.slot = .spawned worker) (streamed : Streamed stage worker moves)
    (fares : Fares stage move post moved) :
    ∃ after, moved.slot = .spawned after ∧ Streamed stage after (moves ++ [move]) := by
  obtain ⟨streaming, emitted⟩ := streamed
  cases fares with
  | rested rests _ kept =>
      refine ⟨worker, kept.trans runs, streamed_others rfl (Action.not_worker rests) ?_ emitted⟩
      rw [streams_unconcerned rests]
      exact streaming
  | told spawned told =>
      cases runs.symm.trans spawned
      exact ⟨_, rfl, streamed_others rfl (fun _ => told.not_worker) (streaming.told told) emitted⟩
  | @worked _ _ _ stepped _ _ acts spawned step _ _ goes runsOn _ did =>
      cases runs.symm.trans spawned
      have stepping := Worker.step_stepped step
      have unopened : move.action.streams stage (streamsOf stage moves) = streamsOf stage moves := by
        rw [acts]
        rfl
      have streamingOn := streaming.step stepping
      refine ⟨_, goes, ?_, ?_⟩
      · rw [streamsOf_append, unopened, handedBy_append, hands_own acts found runs]
        rcases runsOn with still | ⟨_, crashed, fails⟩
        · rw [still]
          exact streamingOn
        -- a worker is torn down only in the step that hands over its failure, and then it holds no stream
        · obtain ⟨_, _, same⟩ := failing_of_isFailure stepping fails
          rw [crashed]
          exact streamingOn.crashed (by rw [same]; trivial)
      · have output : stepped.worker.output = worker.output := stepping.kin.output
        rw [recordOf_append, emissionsOf_append, handedBy_append, (Move.of_own acts).1, did,
          Effect.dispatchedOf_append, Effect.dispatchedOf_notices, List.append_nil, stepping.emissions,
          emitted, hands_own acts found runs, List.filter_append]
        change _ = List.filter stepped.worker.output.takes _ ++ List.filter stepped.worker.output.takes _
        rw [output]

theorem Runs.streamed {input : Input} {output : Output} (found : first.posts[stage]? = some post)
    (fresh : post.slot = .spawned (.create name .serverStreaming unavailable input output))
    (ran : Runs first last moves) :
    ∃ moved after, last.posts[stage]? = some moved ∧ moved.slot = .spawned after ∧
      after.output = output ∧ Streamed stage after moves := by
  obtain ⟨moved, after, there, runsOn, kin, streamed⟩ :=
    ran.carries (fun _ after moves => Streamed stage after moves) found fresh
      ⟨Worker.streaming_created, rfl⟩ fun _ atStage _ spawned _ streamed fares =>
        fares.streamed atStage spawned streamed
  exact ⟨moved, after, there, runsOn, kin.output, streamed⟩

private theorem Fares.opens (runs : post.slot = .spawned worker) (opens : move.Opens stage)
    (fares : Fares stage move post moved) :
    worker.control.stream? = none ∧ ¬ worker.control.Ending := by
  cases fares with
  | rested rests =>
      rcases opens with ⟨request, calls⟩ | ⟨stream, answers⟩
      · rw [(Move.of_unconcerned rests).1] at calls
        cases calls
      · rw [answers] at rests
        exact absurd rfl rests
  | told spawned told =>
      cases runs.symm.trans spawned
      rcases opens with ⟨request, calls⟩ | ⟨stream, answers⟩
      · rw [(Move.of_others fun _ => told.not_worker).1] at calls
        cases calls
      · rw [answers] at told
        generalize worker.control = control at told
        cases told with
        | opened => exact ⟨rfl, id⟩
        | heard news | overheard news => cases news
  | worked acts spawned step _ _ _ _ _ did =>
      cases runs.symm.trans spawned
      rcases opens with ⟨request, calls⟩ | ⟨stream, answers⟩
      · rw [(Move.of_own acts).1, did] at calls
        rcases List.mem_append.mp calls with own | noted
        · exact (Worker.step_stepped step).begins own
        · exact absurd (Effect.silent_ofNotices noted) id
      · cases acts.symm.trans answers

private theorem Fares.requested {target : StageId} {asked : LifecycleRequest}
    (found : move.before.posts[stage]? = some post) (there : move.after.posts[stage]? = some moved)
    (requests : move.action = .request target asked) (fares : Fares stage move post moved) :
    move.after.posts[stage]?.bind Post.spawned? = move.worker? stage := by
  have same : moved.slot = post.slot := by
    cases fares with
    | rested _ _ kept => exact kept
    | told _ told =>
        have concerned := told.concerns
        rw [requests] at concerned
        cases concerned
    | worked acts => cases acts.symm.trans requests
  unfold Move.worker?
  rw [there, found, Option.bind_some, Option.bind_some]
  unfold Post.spawned?
  rw [same]

/-- The results of a streaming stage have one count that starts at zero and has no gap, from its first stream
to its last; those that its output takes go out. They are the items of its streams in order, of each stream
those before its end or its first failed item. A worker that asks for a stream or gets one has handed over
all streams before it, and each of these has ended or failed. Requests leave a worker and the stream that it
holds alone: as long as the output takes every result, what was not handed over is what the worker has not
read yet, and a worker that is blocked has read everything, whatever its stage was asked. A result that the
output does not take is the last one, and the stage is about to end. -/
theorem streams_handed_over {input : Input} {output : Output} (found : first.posts[stage]? = some post)
    (fresh : post.slot = .spawned (.create name .serverStreaming unavailable input output))
    (ran : Runs first last moves) :
    ∃ moved worker, last.posts[stage]? = some moved ∧ moved.slot = .spawned worker ∧
      (handedBy stage moves).map (·.id) = List.range (handedBy stage moves).length ∧
      emissionsOf stage (recordOf moves) = (handedBy stage moves).filter output.takes ∧
      (handedBy stage moves).map (·.message) <+: (streamsOf stage moves).flatMap OpenStream.yields ∧
      (∀ earlier move later, moves = earlier ++ move :: later → move.Opens stage →
        Handled output (streamsOf stage earlier) (handedBy stage earlier)) ∧
      (∀ move ∈ moves, ∀ target asked, move.action = .request target asked →
        move.after.posts[stage]?.bind Post.spawned? = move.worker? stage) ∧
      ((∀ packet ∈ handedBy stage moves, output.takes packet = true) →
        (handedBy stage moves).map (·.message) ++
            worker.control.stream?.toList.flatMap OpenStream.yields =
          (streamsOf stage moves).flatMap OpenStream.yields ∧
        (worker.control.stream? = none → ∀ stream ∈ streamsOf stage moves, stream.Over)) ∧
      (∀ cancelFirst held, last.act (.worker stage cancelFirst) = none →
        worker.control.stream? = some held → held.ready = [] ∧ held.complete = false) ∧
      (∀ packet ∈ handedBy stage moves, output.takes packet = false →
        handedBy stage moves = emissionsOf stage (recordOf moves) ++ [packet] ∧
          worker.control.Ending) := by
  obtain ⟨moved, worker, there, runs, sends, streaming, emitted⟩ := ran.streamed found fresh
  have stands := streaming.stands
  subst sends
  refine ⟨moved, worker, there, runs, streaming.numbered, emitted, stands.along, ?_, ?_, stands.unread,
    ?_, ?_⟩
  · intro earlier move later whole opens
    subst whole
    -- the moves before this one are a run too, and its last worker takes this move
    obtain ⟨head, acts, _⟩ := ran.around
    obtain ⟨present, held, atStage, spawned, sends, streamed⟩ := head.streamed found fresh
    obtain ⟨_, _, fares⟩ := act_fares acts atStage
    obtain ⟨free, live⟩ := fares.opens spawned opens
    rw [← sends]
    exact streamed.streaming.between free live
  · intro move member target asked requests
    obtain ⟨earlier, later, whole⟩ := List.append_of_mem member
    subst whole
    obtain ⟨head, acts, _⟩ := ran.around
    obtain ⟨_, _, atStage, _⟩ := head.streamed found fresh
    obtain ⟨_, there, fares⟩ := act_fares acts atStage
    exact fares.requested atStage there requests
  · intro cancelFirst held blocked holds
    exact Worker.blocked_reads (stepWorker_none blocked there runs) holds
  · intro packet member declines
    rw [emitted]
    exact stands.declined member declines

namespace Fountain

def spout (output : Output) : Post :=
  { stage :=
      { descriptor :=
          { name := "spout", host := "localhost", port := 50051
            method :=
              { name := "vision.Source/Watch", shape := .serverStreaming, input := .unnamed
                output := .ofNames "Frame" ["pixels"] }
            mode := .continuous }
        kind := .serverStreaming, method := .standard, lifecycle := .fresh "spout", bindings := none }
    slot := .spawned (.create "spout" .serverStreaming Status.isUnavailable (.source 0 .unnamed) output) }

def basin (output : Output) : Engine :=
  { Engine.idle .note 4 with links := { links := [.labelled "out"] }, posts := [spout output] }

def flat : Message :=
  .ofFields [("pixels", .bool true)]

def away : Status :=
  { code := .unavailable, message := "" }

/-- Four steps of the worker bring it to its first call, and these actions come with so many steps after
each. -/
def paced (actions : List (Action × Nat)) : List Action :=
  List.replicate 4 (.worker 0 false) ++
    actions.flatMap fun acting => acting.1 :: List.replicate acting.2 (.worker 0 false)

/-- The stage is paused within its first stream, which fails after two items. The next one fails to open, the
one after that has a failed item between two others, and within the last one the stage is finished. -/
def spell : List Action :=
  paced
    [(.answer 0 (.stream { ready := [.ok flat], complete := false }), 1), (.request 0 .pause, 2),
      (.feed 0 (.ok .empty), 3), (.feed 0 (.error away), 5), (.request 0 .resume, 3),
      (.answer 0 (.failure away), 4), (.request 0 .resume, 3),
      (.answer 0 (.stream { ready := [.ok flat, .error away, .ok flat], complete := false }), 8),
      (.request 0 .resume, 3), (.answer 0 (.stream { ready := [.ok flat], complete := false }), 0),
      (.request 0 .finish, 3), (.feed 0 (.ok flat), 0), (.endStream 0, 7)]

def pair : OpenStream :=
  { ready := [.ok flat, .ok .empty], complete := true }

def jet : List Action :=
  paced [(.answer 0 (.stream pair), 4)]

def splitter : Output :=
  .splitter [{ field := "pixels", link := 0 }]

end Fountain

theorem streams_handed_over_spell :
    ∃ last moves moved worker,
      (Fountain.basin (.passthrough 0)).posts[0]? = some (Fountain.spout (.passthrough 0)) ∧
      (Fountain.spout (.passthrough 0)).slot =
        .spawned (.create "spout" .serverStreaming Status.isUnavailable (.source 0 .unnamed)
          (.passthrough 0)) ∧
      Runs (Fountain.basin (.passthrough 0)) last moves ∧ last.posts[0]? = some moved ∧
      moved.slot = .spawned worker ∧ worker.isOver = true ∧ (streamsOf 0 moves).length = 3 ∧
      (emissionsOf 0 (recordOf moves)).map (·.id) = [0, 1, 2, 3, 4] ∧
      emissionsOf 0 (recordOf moves) = (handedBy 0 moves).filter (Output.passthrough 0).takes ∧
      (handedBy 0 moves).map (·.message) ++ worker.control.stream?.toList.flatMap OpenStream.yields =
        (streamsOf 0 moves).flatMap OpenStream.yields := by
  have outcome : (perform Fountain.spell (Fountain.basin (.passthrough 0))).map (fun reached =>
      (reached.1.posts[0]?.bind Post.spawned?).map Worker.isOver) = some (some true) := by decide
  obtain ⟨⟨last, past⟩, performed, halted⟩ := Option.map_eq_some_iff.mp outcome
  have ran : Runs (Fountain.basin (.passthrough 0)) last
      (movesOf Fountain.spell (Fountain.basin (.passthrough 0))) := runs_perform .started performed
  have opened :
      (streamsOf 0 (movesOf Fountain.spell (Fountain.basin (.passthrough 0)))).length = 3 := by decide
  have went : (emissionsOf 0 (recordOf (movesOf Fountain.spell (Fountain.basin (.passthrough 0))))).map
      (·.id) = [0, 1, 2, 3, 4] := by decide
  have found : (Fountain.basin (.passthrough 0)).posts[0]? = some (Fountain.spout (.passthrough 0)) := rfl
  obtain ⟨moved, worker, there, runs, _, emitted, _, _, _, unread, _⟩ := streams_handed_over found rfl ran
  have ended : worker.isOver = true := by
    rw [there, Option.bind_some] at halted
    unfold Post.spawned? at halted
    rw [runs] at halted
    exact Option.some.inj halted
  exact ⟨last, _, moved, worker, found, rfl, ran, there, runs, ended, opened, went, emitted,
    (unread fun _ _ => rfl).1⟩

/-- A result that the output does not take ends its stream before the stream has ended or failed. -/
theorem refused_result_ends_stream :
    ∃ last moves,
      (Fountain.spout Fountain.splitter).slot =
        .spawned (.create "spout" .serverStreaming Status.isUnavailable (.source 0 .unnamed)
          Fountain.splitter) ∧
      Runs (Fountain.basin Fountain.splitter) last moves ∧
      (last.posts[0]?.bind Post.spawned?).map Worker.isOver = some true ∧
      streamsOf 0 moves = [Fountain.pair] ∧ Fountain.pair.yields = [Fountain.flat, .empty] ∧
      (handedBy 0 moves).map (·.message) ≠ (streamsOf 0 moves).flatMap OpenStream.yields := by
  have outcome : (perform Fountain.jet (Fountain.basin Fountain.splitter)).map (fun reached =>
      (reached.1.posts[0]?.bind Post.spawned?).map Worker.isOver) = some (some true) := by decide
  obtain ⟨⟨last, past⟩, performed, halted⟩ := Option.map_eq_some_iff.mp outcome
  have ran : Runs (Fountain.basin Fountain.splitter) last
      (movesOf Fountain.jet (Fountain.basin Fountain.splitter)) := runs_perform .started performed
  have handed :
      (handedBy 0 (movesOf Fountain.jet (Fountain.basin Fountain.splitter))).length = 1 := by decide
  have opened : streamsOf 0 (movesOf Fountain.jet (Fountain.basin Fountain.splitter)) =
      [Fountain.pair] := rfl
  refine ⟨last, _, rfl, ran, halted, opened, rfl, ?_⟩
  intro same
  have lengths := congrArg List.length same
  rw [List.length_map, handed, opened] at lengths
  cases lengths

end Engine
end Sluice
