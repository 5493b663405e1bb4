import Mathlib.Data.List.ModifyLast
import Sluice.Proofs.Worker.Rounds

set_option autoImplicit false

/-! The streams of a streaming worker. It reads one stream after another, each up to its end or its first
failed item, and numbers what it reads by one count that no stream starts anew. A result that its output
does not take is the last one. -/

namespace Sluice

namespace OpenStream

def successes : List (Except Status Message) → List Message
  | .ok message :: rest => message :: successes rest
  | _ => []

def yields (stream : OpenStream) : List Message :=
  successes stream.ready

/-- Nothing more is read from the stream once these items of it were read. -/
def Over (stream : OpenStream) : Prop :=
  stream.complete = true ∨ ∃ status, .error status ∈ stream.ready

theorem successes_append (packets : List Packet) (rest : List (Except Status Message)) :
    successes (packets.map (fun packet => .ok packet.message) ++ rest) =
      packets.map (·.message) ++ successes rest := by
  induction packets with
  | nil => rfl
  | cons packet packets ih =>
      rw [List.map_cons, List.map_cons, List.cons_append, List.cons_append, successes, ih]

end OpenStream

/-- What an action makes of the streams that a stage has opened, each with all its items so far. -/
def Action.streams (stage : StageId) (streams : List OpenStream) : Action → List OpenStream
  | .answer acting (.stream stream) => if acting = stage then streams ++ [stream] else streams
  | .feed acting item =>
      if acting = stage then
        streams.modifyLast fun stream => { stream with ready := stream.ready ++ [item] }
      else streams
  | .endStream acting =>
      if acting = stage then streams.modifyLast fun stream => { stream with complete := true }
      else streams
  | _ => streams

/-- The stream that a worker holds, with the items that it has not read. -/
def Control.stream? : Control → Option OpenStream
  | .reading held => some held.stream
  | .delivering _ (some held) => some held.stream
  | _ => none

def Control.Ending : Control → Prop
  | .failing _ | .condemned | .stopping | .ended | .crashed => True
  | _ => False

theorem Control.Ending.holdsNone {control : Control} (ending : control.Ending) :
    control.stream? = none := by
  cases control with
  | failing | condemned | stopping | ended | crashed => rfl
  | checking | parking | gated | passing | fetching | calling | opening | answered | reading
    | delivering | failed | withdrawing | reporting | lingering => cases ending

/-- Each of the streams was handed to the output up to its end or its first failed item. -/
structure Handled (output : Output) (streams : List OpenStream) (handed : List Packet) : Prop where
  ended : ∀ stream ∈ streams, stream.Over
  whole : handed.map (·.message) = streams.flatMap OpenStream.yields
  taken : ∀ packet ∈ handed, output.takes packet = true

/-- All streams but the last one were handed to the output, and of the last one this is left. -/
inductive Partly (output : Output) : List OpenStream → List Packet → OpenStream → Prop
  | within {earlier : List OpenStream} {before own : List Packet} {current rest : OpenStream}
      (done : Handled output earlier before)
      (arrived : current.ready = own.map (fun packet => .ok packet.message) ++ rest.ready)
      (complete : current.complete = rest.complete)
      (taken : ∀ packet ∈ own, output.takes packet = true) :
      Partly output (earlier ++ [current]) (before ++ own) rest

variable {output : Output} {streams : List OpenStream} {handed : List Packet} {rest next : OpenStream}
  {stage : StageId} {action : Action} {packet : Packet} {response : Message}
  {later : List (Except Status Message)}

theorem Handled.none : Handled output [] [] := by
  refine ⟨?_, rfl, ?_⟩
  · intro stream impossible
    cases impossible
  · intro packet impossible
    cases impossible

theorem Handled.opened (done : Handled output streams handed) (stream : OpenStream) :
    Partly output (streams ++ [stream]) handed stream := by
  have nothing : ∀ packet ∈ ([] : List Packet), output.takes packet = true := by
    intro packet impossible
    cases impossible
  have opened : Partly output (streams ++ [stream]) (handed ++ []) stream := .within done rfl rfl nothing
  rw [List.append_nil] at opened
  exact opened

namespace Partly

theorem taken (partly : Partly output streams handed rest) :
    ∀ packet ∈ handed, output.takes packet = true := by
  cases partly with
  | within done _ _ taken =>
      intro packet member
      rcases List.mem_append.mp member with before | own
      · exact done.taken packet before
      · exact taken packet own

theorem whole (partly : Partly output streams handed rest) :
    handed.map (·.message) ++ rest.yields = streams.flatMap OpenStream.yields := by
  cases partly with
  | @within earlier before own current rest done arrived =>
      have read : current.yields = own.map (·.message) ++ rest.yields := by
        unfold OpenStream.yields
        rw [arrived, OpenStream.successes_append]
      rw [List.map_append, List.append_assoc, ← read, List.flatMap_append, List.flatMap_singleton,
        done.whole]

theorem read (partly : Partly output streams handed rest) (ready : rest.ready = .ok response :: later)
    (takes : output.takes packet = true) (carries : packet.message = response) :
    Partly output streams (handed ++ [packet]) { rest with ready := later } := by
  cases partly with
  | @within earlier before own current rest done arrived complete taken =>
      rw [List.append_assoc]
      refine .within done ?_ complete ?_
      · rw [arrived, ready, List.map_append, List.append_assoc, List.map_singleton, carries,
          List.singleton_append]
      · intro given member
        rcases List.mem_append.mp member with known | new
        · exact taken given known
        · exact List.mem_singleton.mp new ▸ takes

theorem left (partly : Partly output streams handed rest)
    (ends : rest.ready = [] ∧ rest.complete = true ∨
      ∃ status later, rest.ready = .error status :: later) :
    Handled output streams handed := by
  -- what is left of the stream yields no more, be it that it is empty or that its next item failed
  have nothing : rest.yields = [] := by
    unfold OpenStream.yields
    rcases ends with ⟨none, _⟩ | ⟨status, later, ready⟩
    · rw [none]
      rfl
    · rw [ready]
      rfl
  have whole := partly.whole
  rw [nothing, List.append_nil] at whole
  refine ⟨?_, whole, partly.taken⟩
  cases partly with
  | @within earlier before own current rest done arrived complete taken =>
      intro stream member
      rcases List.mem_append.mp member with old | new
      · exact done.ended stream old
      · rw [List.mem_singleton.mp new]
        rcases ends with ⟨_, ended⟩ | ⟨status, later, ready⟩
        · exact Or.inl (complete.trans ended)
        · refine Or.inr ⟨status, ?_⟩
          rw [arrived, ready]
          exact List.mem_append_right _ List.mem_cons_self

theorem told (partly : Partly output streams handed rest) (news : News stage action rest next) :
    Partly output (action.streams stage streams) handed next := by
  cases partly with
  | within done arrived complete taken =>
      cases news with
      | item =>
          rw [Action.streams, if_pos rfl, List.modifyLast_concat]
          refine .within done ?_ complete taken
          rw [arrived, List.append_assoc]
      | ended =>
          rw [Action.streams, if_pos rfl, List.modifyLast_concat]
          exact .within done arrived rfl taken

end Partly

namespace Worker

variable {now : Duration} {cancelFirst : Bool} {life : Lifecycle} {links : LinkStore}
  {bus : ReportBus} {worker after : Worker} {stepped : WorkerStep} {control : Control}

/-- What a step of a streaming worker does with the stream that the worker holds. -/
inductive Treats (worker after : Worker) : Prop
  | apart (same : after.control.stream? = worker.control.stream?) (silent : worker.offer? = none)
      (counted : after.nextId = worker.nextId)
      (closes : worker.control.Ending → after.control.Ending)
  | left {stream : OpenStream} (holds : worker.control.stream? = some stream)
      (ends : stream.ready = [] ∧ stream.complete = true ∨
        ∃ status later, stream.ready = .error status :: later)
      (drops : after.control.stream? = none) (silent : worker.offer? = none)
      (counted : after.nextId = worker.nextId)
  | handed {stream : OpenStream} {response : Message} {later : List (Except Status Message)}
      (holds : worker.control.stream? = some stream) (ready : stream.ready = .ok response :: later)
      (keeps : after.control.stream? = some { stream with ready := later })
      (offers : worker.offer? = some { id := worker.nextId, message := response })
      (takes : worker.output.takes { id := worker.nextId, message := response } = true)
      (counted : after.nextId = worker.nextId + 1)
  | refused {stream : OpenStream} {response : Message} {later : List (Except Status Message)}
      (holds : worker.control.stream? = some stream) (ready : stream.ready = .ok response :: later)
      (offers : worker.offer? = some { id := worker.nextId, message := response })
      (declines : worker.output.takes { id := worker.nextId, message := response } = false)
      (counted : after.nextId = worker.nextId + 1) (closes : after.control.Ending)

private theorem Turns.unoffered {next : Control} {effects : List Effect} (under : worker.control = control)
    (turns : worker.Turns life control next effects) : worker.offer? = none := by
  unfold offer?
  rw [under]
  cases turns with
  | exhausted ready | broken ready => simp only [ready]
  | interrupted | checked | passed | released | caught | asked | resumed | delivered | unreachable
    | rejected | outlasted | confessed => rfl

private theorem Pauses.unoffered {next : Control} (under : worker.control = control)
    (pauses : Pauses control next) : worker.offer? = none := by
  unfold offer?
  rw [under]
  cases pauses <;> rfl

private theorem Finishes.unoffered {next : Control} (under : worker.control = control)
    (finishes : Finishes control next) : worker.offer? = none := by
  unfold offer?
  rw [under]
  cases finishes <;> rfl

private theorem nextRound_free (worker : Worker) : worker.nextRound.stream? = none :=
  worker.nextRound_elim (·.stream? = none) rfl rfl

private theorem afterReport_free (worker : Worker) : worker.afterReport.stream? = none :=
  worker.afterReport_elim (·.stream? = none) rfl rfl

private theorem treats_apart (under : worker.control = control) (live : ¬ control.Ending)
    (same : after.control.stream? = control.stream?) (silent : worker.offer? = none)
    (counted : after.nextId = worker.nextId) : worker.Treats after := by
  subst under
  exact .apart same silent counted fun ending => absurd ending live

private theorem Turns.treats {next : Control} {effects : List Effect} (under : worker.control = control)
    (turns : worker.Turns life control next effects) :
    worker.Treats { worker with control := next } := by
  have silent := turns.unoffered under
  cases turns with
  | exhausted none complete =>
      exact .left (congrArg Control.stream? under) (Or.inl ⟨none, complete⟩) rfl silent rfl
  | broken ready => exact .left (congrArg Control.stream? under) (Or.inr ⟨_, _, ready⟩) rfl silent rfl
  | delivered => exact treats_apart under id (nextRound_free worker) silent rfl
  | confessed => exact .apart (congrArg Control.stream? under).symm silent rfl fun _ => trivial
  | interrupted | checked | passed | released | caught | asked | resumed | unreachable | rejected
    | outlasted => exact treats_apart under id rfl silent rfl

private theorem Pauses.treats {next : Control} (under : worker.control = control)
    (pauses : Pauses control next) : worker.Treats { worker with control := next } := by
  have silent := pauses.unoffered under
  cases pauses with
  | parked | withdrawn => exact treats_apart under id rfl silent rfl

private theorem Finishes.treats {next : Control} (under : worker.control = control)
    (finishes : Finishes control next) : worker.Treats { worker with control := next } := by
  have silent := finishes.unoffered under
  cases finishes with
  | condemned | stopped => exact .apart (congrArg Control.stream? under).symm silent rfl fun _ => trivial

theorem Stepped.treats (streaming : worker.kind = .serverStreaming)
    (suits : worker.control.Suits worker.kind) (moved : worker.Stepped now life links bus stepped) :
    worker.Treats stepped.worker := by
  cases moved with
  | turned turns => exact turns.treats rfl
  | paused pauses => exact pauses.treats rfl
  | finished finishes => exact finishes.treats rfl
  | reported control =>
      exact treats_apart control id (afterReport_free worker) (by simp only [offer?, control]) rfl
  | fetching control => exact treats_apart control id rfl (by simp only [offer?, control]) rfl
  | missed control =>
      exact treats_apart control id (nextRound_free worker) (by simp only [offer?, control]) rfl
  | @began _ _ _ fetched packet control =>
      have begins := @begin_streaming now { worker with input := fetched.input } packet streaming
      rw [begins]
      exact treats_apart control id rfl (by simp only [offer?, control]) rfl
  | dispatched offers routed =>
      cases offers with
      | answered control =>
          rw [control] at suits
          exact absurd streaming suits
      | read control ready =>
          refine .handed (congrArg Control.stream? control) ready rfl ?_ (Output.takes_ok routed) rfl
          simp only [offer?, control, ready]
  | refused offers unrouted =>
      cases offers with
      | answered control =>
          rw [control] at suits
          exact absurd streaming suits
      | read control ready =>
          refine .refused (congrArg Control.stream? control) ready ?_ (Output.takes_error unrouted) rfl
            trivial
          simp only [offer?, control, ready]
  | @stored _ _ _ stream control =>
      refine treats_apart control id ?_ (by simp only [offer?, control]) rfl
      cases stream <;> rfl

theorem Stepped.emissions (moved : worker.Stepped now life links bus stepped) :
    Effect.dispatchedOf stepped.effects = worker.offer?.toList.filter worker.output.takes := by
  cases moved with
  | turned turns =>
      rw [Effect.dispatchedOf_silent turns.silent, turns.unoffered rfl]
      rfl
  | paused pauses =>
      rw [Effect.dispatchedOf_notices, pauses.unoffered rfl]
      rfl
  | finished finishes =>
      rw [Effect.dispatchedOf_notices, finishes.unoffered rfl]
      rfl
  | reported control =>
      simp only [offer?, control]
      rfl
  | fetching control | missed control | began control =>
      rw [Effect.dispatchedOf_append, Effect.dispatchedOf_notices]
      simp only [offer?, control]
      rfl
  | @dispatched _ packet _ _ _ offers routed =>
      have taken : [packet].filter worker.output.takes = [packet] :=
        List.filter_cons_of_pos (Output.takes_ok routed)
      cases offers with
      | answered control =>
          simp only [offer?, control]
          exact taken.symm
      | read control ready =>
          simp only [offer?, control, ready]
          exact taken.symm
  | @refused _ packet _ _ _ offers unrouted =>
      have refused : [packet].filter worker.output.takes = [] :=
        List.filter_cons_of_neg (ne_true_of_eq_false (Output.takes_error unrouted))
      cases offers with
      | answered control =>
          simp only [offer?, control]
          exact refused.symm
      | read control ready =>
          simp only [offer?, control, ready]
          exact refused.symm
  | stored control =>
      simp only [offer?, control]
      exact Effect.dispatchedOf_notices _

theorem Stepped.begins {request : Message} (moved : worker.Stepped now life links bus stepped)
    (calls : .called request ∈ stepped.effects) :
    worker.control.stream? = none ∧ ¬ worker.control.Ending := by
  have silent : ∀ {effects : List Effect}, (∀ effect ∈ effects, effect.Silent) →
      .called request ∉ effects := fun quiet member => quiet _ member
  cases moved with
  | turned turns => exact absurd calls (silent turns.silent)
  | paused | finished => exact absurd calls (silent fun _ => Effect.silent_ofNotices)
  | reported => cases List.mem_singleton.mp calls
  | fetching control | missed control | began control =>
      rw [control]
      exact ⟨rfl, id⟩
  | dispatched =>
      rcases List.mem_cons.mp calls with noted | sent
      · cases noted
      · cases List.mem_singleton.mp sent
  | refused => cases List.mem_singleton.mp calls
  | stored =>
      rcases List.mem_cons.mp calls with put | noted
      · cases put
      · exact absurd noted (silent fun _ => Effect.silent_ofNotices)

theorem blocked_reads {held : OpenStream} (blocked : worker.step now cancelFirst life links bus = none)
    (holds : worker.control.stream? = some held) : held.ready = [] ∧ held.complete = false := by
  cases control : worker.control with
  | reading reading =>
      rw [control] at holds
      cases holds
      simp only [Worker.step, control] at blocked
      cases ready : reading.stream.ready with
      | nil =>
          simp only [ready] at blocked
          refine ⟨rfl, ?_⟩
          cases complete : reading.stream.complete with
          | false => rfl
          | true =>
              rw [complete] at blocked
              cases blocked
      | cons item later =>
          simp only [ready] at blocked
          cases item <;> cases blocked
  | delivering rest stream =>
      simp only [Worker.step, control] at blocked
      rcases rest with _ | ⟨delivery, rest⟩
      · cases stream <;> cases blocked
      · cases blocked
  | checking | parking | gated | passing | fetching | calling | opening | answered | failed
    | withdrawing | reporting | lingering | failing | condemned | stopping | ended | crashed =>
      rw [control] at holds
      cases holds

/-- Where a streaming worker stands: between two streams, within one, or past a result that its output did
not take. -/
inductive Stands (streams : List OpenStream) (handed : List Packet) (worker : Worker) : Prop
  | between (free : worker.control.stream? = none) (done : Handled worker.output streams handed)
  | within {held : OpenStream} (holds : worker.control.stream? = some held)
      (partly : Partly worker.output streams handed held)
  | refused {before : List Packet} {packet : Packet} {rest : OpenStream}
      {later : List (Except Status Message)} (ending : worker.control.Ending)
      (last : handed = before ++ [packet]) (partly : Partly worker.output streams before rest)
      (ready : rest.ready = .ok packet.message :: later)
      (declines : worker.output.takes packet = false)

structure Streaming (streams : List OpenStream) (handed : List Packet) (worker : Worker) : Prop where
  kind : worker.kind = .serverStreaming
  suits : worker.control.Suits worker.kind
  numbered : handed.map (·.id) = List.range handed.length
  counted : worker.nextId = handed.length
  stands : worker.Stands streams handed

theorem streaming_created {name : String} {unavailable : Status → Bool} {input : Input} {output : Output} :
    Streaming [] [] (.create name .serverStreaming unavailable input output) :=
  ⟨rfl, trivial, rfl, rfl, .between rfl .none⟩

private theorem Stands.holding {held : OpenStream} (stands : worker.Stands streams handed)
    (holds : worker.control.stream? = some held) : Partly worker.output streams handed held := by
  cases stands with
  | between free => cases free.symm.trans holds
  | within known partly =>
      cases known.symm.trans holds
      exact partly
  | refused ending => cases ending.holdsNone.symm.trans holds

private theorem Stands.treated (output : after.output = worker.output)
    (stands : worker.Stands streams handed) (treats : worker.Treats after) :
    after.Stands streams (handed ++ worker.offer?.toList) := by
  cases treats with
  | apart same silent _ closes =>
      rw [silent, Option.toList_none, List.append_nil]
      -- a worker past a refused result takes no other kind of step
      cases stands with
      | between free done => exact .between (same.trans free) (output ▸ done)
      | within holds partly => exact .within (same.trans holds) (output ▸ partly)
      | refused ending last partly ready declines =>
          exact .refused (closes ending) last (output ▸ partly) ready (output ▸ declines)
  | left holds ends drops silent =>
      rw [silent, Option.toList_none, List.append_nil]
      exact .between drops (output ▸ (stands.holding holds).left ends)
  | handed holds ready keeps offers takes =>
      rw [offers, Option.toList_some]
      exact .within keeps (output ▸ (stands.holding holds).read ready takes rfl)
  | refused holds ready offers declines _ ending =>
      rw [offers, Option.toList_some]
      exact .refused ending rfl (output ▸ stands.holding holds) ready (output ▸ declines)

private theorem Treats.counts (treats : worker.Treats after) :
    worker.offer?.toList.map (·.id) = List.range' worker.nextId worker.offer?.toList.length ∧
      after.nextId = worker.nextId + worker.offer?.toList.length := by
  cases treats with
  | apart _ silent counted | left _ _ _ silent counted =>
      rw [silent]
      exact ⟨rfl, counted⟩
  | handed _ _ _ offers _ counted | refused _ _ offers _ counted =>
      rw [offers]
      exact ⟨rfl, counted⟩

theorem Streaming.step (streaming : worker.Streaming streams handed)
    (moved : worker.Stepped now life links bus stepped) :
    stepped.worker.Streaming streams (handed ++ worker.offer?.toList) := by
  have kin := moved.kin
  have treats := moved.treats streaming.kind streaming.suits
  obtain ⟨ids, count⟩ := treats.counts
  refine ⟨kin.kind.trans streaming.kind, moved.suits streaming.suits, ?_, ?_,
    streaming.stands.treated kin.output treats⟩
  · have onward := @List.range'_append_1 0 handed.length worker.offer?.toList.length
    rw [Nat.zero_add] at onward
    rw [List.map_append, List.length_append, streaming.numbered, ids, streaming.counted,
      List.range_eq_range', List.range_eq_range', onward]
  · rw [count, streaming.counted, List.length_append]

private theorem Stands.told (stands : worker.Stands streams handed)
    (told : Told now stage action worker.control control) :
    Stands (action.streams stage streams) handed { worker with control := control } := by
  generalize under : worker.control = before at told
  cases told with
  | answered | rejected | unopened =>
      cases stands with
      | between _ done => exact .between rfl done
      | within holds => cases (congrArg Control.stream? under).symm.trans holds
      | refused ending =>
          rw [under] at ending
          cases ending
  | @opened request stream =>
      rw [Action.streams, if_pos rfl]
      cases stands with
      | between _ done => exact .within rfl (done.opened stream)
      | within holds => cases (congrArg Control.stream? under).symm.trans holds
      | refused ending =>
          rw [under] at ending
          cases ending
  | heard news | overheard news =>
      exact .within rfl ((stands.holding (congrArg Control.stream? under)).told news)

theorem Streaming.told (streaming : worker.Streaming streams handed)
    (told : Told now stage action worker.control control) :
    Streaming (action.streams stage streams) handed { worker with control := control } :=
  ⟨streaming.kind, told.keeps.2.2.2 _ streaming.suits, streaming.numbered, streaming.counted,
    streaming.stands.told told⟩

theorem Streaming.crashed (streaming : worker.Streaming streams handed) (ending : worker.control.Ending) :
    Streaming streams handed { worker with control := .crashed } := by
  refine ⟨streaming.kind, trivial, streaming.numbered, streaming.counted, ?_⟩
  cases streaming.stands with
  | between _ done => exact .between rfl done
  | within holds => cases ending.holdsNone.symm.trans holds
  | refused _ last partly ready declines => exact .refused trivial last partly ready declines

theorem Streaming.between (streaming : worker.Streaming streams handed)
    (free : worker.control.stream? = none) (live : ¬ worker.control.Ending) :
    Handled worker.output streams handed := by
  cases streaming.stands with
  | between _ done => exact done
  | within holds => cases free.symm.trans holds
  | refused ending => exact absurd ending live

theorem Stands.along (stands : worker.Stands streams handed) :
    handed.map (·.message) <+: streams.flatMap OpenStream.yields := by
  cases stands with
  | between _ done => exact ⟨[], (List.append_nil _).trans done.whole⟩
  | within _ partly => exact ⟨_, partly.whole⟩
  | @refused before packet rest later _ last partly ready =>
      have yields : rest.yields = packet.message :: OpenStream.successes later := by
        unfold OpenStream.yields
        rw [ready]
        rfl
      refine ⟨OpenStream.successes later, ?_⟩
      rw [last, List.map_append, List.append_assoc, List.map_singleton, List.singleton_append, ← yields]
      exact partly.whole

theorem Stands.unread (stands : worker.Stands streams handed)
    (taken : ∀ packet ∈ handed, worker.output.takes packet = true) :
    handed.map (·.message) ++ worker.control.stream?.toList.flatMap OpenStream.yields =
        streams.flatMap OpenStream.yields ∧
      (worker.control.stream? = none → ∀ stream ∈ streams, stream.Over) := by
  cases stands with
  | between free done =>
      rw [free]
      exact ⟨(List.append_nil _).trans done.whole, fun _ => done.ended⟩
  | within holds partly =>
      rw [holds, Option.toList_some, List.flatMap_singleton]
      refine ⟨partly.whole, ?_⟩
      intro impossible
      cases impossible
  | @refused before packet rest later _ last _ _ declines =>
      have takes := taken packet (last ▸ List.mem_append_right _ List.mem_cons_self)
      rw [declines] at takes
      cases takes

theorem Stands.declined (stands : worker.Stands streams handed) (member : packet ∈ handed)
    (declines : worker.output.takes packet = false) :
    handed = handed.filter worker.output.takes ++ [packet] ∧ worker.control.Ending := by
  have apart : ∀ {packets : List Packet}, (∀ known ∈ packets, worker.output.takes known = true) →
      packet ∉ packets := by
    intro packets taken among
    rw [taken packet among] at declines
    cases declines
  cases stands with
  | between _ done => exact absurd member (apart done.taken)
  | within _ partly => exact absurd member (apart partly.taken)
  | @refused before final rest later ending last partly ready refuses =>
      rw [last] at member ⊢
      rcases List.mem_append.mp member with among | final
      · exact absurd among (apart partly.taken)
      · cases List.mem_singleton.mp final
        rw [List.filter_append, List.filter_eq_self.mpr partly.taken,
          List.filter_cons_of_neg (ne_true_of_eq_false refuses), List.filter_nil, List.append_nil]
        exact ⟨rfl, ending⟩

end Worker
end Sluice
