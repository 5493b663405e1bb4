import Sluice.Proofs.Worker.Failing
import Sluice.Proofs.Worker.Ordering

set_option autoImplicit false

/-! The rounds of a worker whose calls have one answer each. Every packet that its input brings becomes one
call, every answer goes to the output once and under the id of its call, and every failure that means an
unreachable service is reported once. -/

namespace Sluice

def Action.reply (stage : StageId) : Action → Option (Except Status Message)
  | .answer acting (.response message) => if acting = stage then some (.ok message) else none
  | .answer acting (.failure status) => if acting = stage then some (.error status) else none
  | _ => none

theorem Told.withdraws {now : Duration} {stage : StageId} {action : Action} {control next : Control}
    (told : Told now stage action control next) : next ≠ .reporting := by
  intro impossible
  cases told <;> cases impossible

def Output.takes (output : Output) (packet : Packet) : Bool :=
  match output.route packet with
  | .ok _ => true
  | .error _ => false

theorem Output.takes_ok {output : Output} {packet : Packet} {deliveries : List Delivery}
    (routed : output.route packet = .ok deliveries) : output.takes packet = true := by
  unfold takes
  rw [routed]

theorem Output.takes_error {output : Output} {packet : Packet} {cause : MessageError}
    (unrouted : output.route packet = .error cause) : output.takes packet = false := by
  unfold takes
  rw [unrouted]

def InputStep.brought? (fetched : InputStep) : Option Packet :=
  fetched.outcome.getRight?.join

/-- The packet of the call that waits for its reply. -/
def Control.awaits? : Control → Option Packet
  | .calling request _ => some request
  | _ => none

/-- The answer that is to go to the output, under the id of its call. -/
def Control.answer? : Control → Option Packet
  | .answered request _ response => some (request.carry response)
  | _ => none

/-- The service was found to be unreachable, and this is not yet reported. -/
def Control.owesReport (unavailable : Status → Bool) : Control → Bool
  | .failed status => unavailable status
  | .withdrawing | .reporting => true
  | _ => false

theorem Control.rests {control : Control} (holds : control.held? = none) :
    control.awaits? = none ∧ control.answer? = none := by
  cases control with
  | calling | answered => cases holds
  | checking | parking | gated | passing | fetching | opening | reading | delivering | failed
    | withdrawing | reporting | lingering | failing | condemned | stopping | ended | crashed =>
      exact ⟨rfl, rfl⟩

namespace Worker

def brings? (cancelFirst : Bool) (life : Lifecycle) (links : LinkStore) (worker : Worker) :
    Option Packet :=
  match worker.control with
  | .fetching token call =>
      match worker.input.step (life.tokens.isFired token) cancelFirst links call with
      | some fetched => fetched.brought?
      | none => none
  | _ => none

/-- What becomes of calls with these requests by these replies: each answer, under the id of its call. -/
def results (requests : List Packet) (replies : List (Except Status Message)) : List Packet :=
  (requests.zip replies).filterMap fun call => call.2.toOption.map call.1.carry

def isOutage (unavailable : Status → Bool) : Except Status Message → Bool
  | .ok _ => false
  | .error status => unavailable status

variable {now : Duration} {cancelFirst : Bool} {life : Lifecycle} {links : LinkStore}
  {bus : ReportBus} {worker : Worker} {stepped : WorkerStep} {stage : StageId} {action : Action}
  {control : Control} {link : LinkId} {packet : Packet} {token : TokenId} {call : InputCall}

theorem brings_other (apart : ∀ token call, worker.control ≠ .fetching token call) :
    worker.brings? cancelFirst life links = none := by
  unfold brings?
  split
  · rename_i control
    exact absurd control (apart _ _)
  · rfl

private theorem fetching_step (plain : worker.kind ≠ .serverStreaming)
    (control : worker.control = .fetching token call)
    (moved : worker.step now cancelFirst life links bus = some stepped) :
    ∃ fetched, worker.input.Stepped links call fetched ∧ stepped.links = fetched.links ∧
      stepped.worker.input = fetched.input ∧
      worker.brings? cancelFirst life links = fetched.brought? ∧
      stepped.effects.filterMap Effect.called? =
        fetched.brought?.toList.map (·.message) ∧
      stepped.worker.iterations = worker.iterations + fetched.brought?.toList.length ∧
      stepped.worker.control.awaits? = fetched.brought? := by
  have quiet : ∀ notices, (Effect.ofNotices notices).filterMap Effect.called? = [] :=
    fun _ => Effect.called_silent fun _ => Effect.silent_ofNotices
  simp only [Worker.step, control] at moved
  cases fetch : worker.input.step (life.tokens.isFired token) cancelFirst links call with
  | none =>
      rw [fetch] at moved
      cases moved
  | some fetched =>
      have brought : worker.brings? cancelFirst life links = fetched.brought? := by
        simp only [brings?, control, fetch]
      simp only [fetch, Option.some.injEq] at moved
      subst moved
      refine ⟨fetched, Input.step_stepped fetch, rfl, ?_⟩
      rw [brought]
      unfold InputStep.brought?
      cases fetched.outcome with
      | inl later =>
          refine ⟨rfl, rfl, ?_, rfl, rfl⟩
          rw [List.append_nil, quiet]
          rfl
      | inr ended =>
          cases ended with
          | none =>
              refine ⟨rfl, rfl, ?_, rfl, ?_⟩
              · rw [List.append_nil, quiet]
                rfl
              · exact (Control.rests (nextRound_bare { worker with input := fetched.input }).holds).1
          | some packet =>
              have begins := @begin_calling now { worker with input := fetched.input } packet plain
              refine ⟨?_, rfl, ?_, ?_, ?_⟩
              · exact congrArg (·.1.input) begins
              · rw [List.filterMap_append, quiet]
                rfl
              · exact congrArg (·.1.iterations) begins
              · exact congrArg (·.1.control.awaits?) begins

theorem step_calls (plain : worker.kind ≠ .serverStreaming)
    (moved : worker.step now cancelFirst life links bus = some stepped) :
    stepped.effects.filterMap Effect.called? =
        (worker.brings? cancelFirst life links).toList.map (·.message) ∧
      stepped.worker.iterations =
        worker.iterations + (worker.brings? cancelFirst life links).toList.length ∧
      stepped.worker.control.awaits? = worker.brings? cancelFirst life links := by
  by_cases fetching : ∃ token call, worker.control = .fetching token call
  · obtain ⟨token, call, control⟩ := fetching
    obtain ⟨fetched, _, _, _, brought, calls, counted, waits⟩ := fetching_step plain control moved
    rw [brought]
    exact ⟨calls, counted, waits⟩
  · have apart : ∀ token call, worker.control ≠ .fetching token call :=
      fun token call control => fetching ⟨token, call, control⟩
    have silent : ∀ {notices}, ∀ effect ∈ Effect.ofNotices notices, effect.Silent :=
      fun {_ _} => Effect.silent_ofNotices
    rw [brings_other apart]
    cases step_stepped moved with
    | turned turns =>
        refine ⟨Effect.called_silent turns.silent, rfl, ?_⟩
        exact (Control.rests turns.holdsNothing).1
    | paused pauses =>
        exact ⟨Effect.called_silent silent, rfl, (Control.rests pauses.holdsNothing).1⟩
    | finished finishes =>
        exact ⟨Effect.called_silent silent, rfl, (Control.rests finishes.holdsNothing).1⟩
    | reported => exact ⟨rfl, rfl, (Control.rests worker.afterReport_bare.holds).1⟩
    | fetching control | missed control | began control => exact absurd control (apart _ _)
    | dispatched offers => cases offers <;> exact ⟨rfl, rfl, rfl⟩
    | refused offers => cases offers <;> exact ⟨rfl, rfl, rfl⟩
    | stored =>
        refine ⟨?_, rfl, rfl⟩
        rw [List.filterMap_cons_none rfl]
        exact Effect.called_silent silent

private theorem Turns.unanswered {next : Control} {effects : List Effect}
    (turns : worker.Turns life control next effects) : control.answer? = none := by
  cases turns <;> rfl

private theorem Pauses.unanswered {next : Control} (pauses : Pauses control next) :
    control.answer? = none := by
  cases pauses <;> rfl

private theorem Finishes.unanswered {next : Control} (finishes : Finishes control next) :
    control.answer? = none := by
  cases finishes <;> rfl

theorem Stepped.emits (plain : worker.kind ≠ .serverStreaming)
    (suits : worker.control.Suits worker.kind) (moved : worker.Stepped now life links bus stepped) :
    Effect.dispatchedOf stepped.effects = worker.control.answer?.toList.filter worker.output.takes ∧
      stepped.worker.control.answer? = none := by
  cases moved with
  | turned turns =>
      rw [turns.unanswered, Effect.dispatchedOf_silent turns.silent]
      exact ⟨rfl, (Control.rests turns.holdsNothing).2⟩
  | paused pauses =>
      rw [pauses.unanswered, Effect.dispatchedOf_notices]
      exact ⟨rfl, (Control.rests pauses.holdsNothing).2⟩
  | finished finishes =>
      rw [finishes.unanswered, Effect.dispatchedOf_notices]
      exact ⟨rfl, (Control.rests finishes.holdsNothing).2⟩
  | reported control =>
      rw [control]
      exact ⟨rfl, (Control.rests worker.afterReport_bare.holds).2⟩
  | fetching control =>
      rw [control, List.append_nil, Effect.dispatchedOf_notices]
      exact ⟨rfl, rfl⟩
  | missed control =>
      rw [control, List.append_nil, Effect.dispatchedOf_notices]
      exact ⟨rfl, (Control.rests worker.nextRound_bare.holds).2⟩
  | @began _ _ _ fetched packet control =>
      have begins := @begin_calling now { worker with input := fetched.input } packet plain
      rw [control, Effect.dispatchedOf_append, Effect.dispatchedOf_notices]
      exact ⟨rfl, congrArg (·.1.control.answer?) begins⟩
  | dispatched offers routed =>
      cases offers with
      | @answered request since response control =>
          have taken : [request.carry response].filter worker.output.takes = [request.carry response] :=
            List.filter_cons_of_pos (Output.takes_ok routed)
          rw [control]
          exact ⟨taken.symm, rfl⟩
      | read control =>
          rw [control] at suits
          exact absurd suits plain
  | refused offers unrouted =>
      cases offers with
      | @answered request since response control =>
          have refused : [request.carry response].filter worker.output.takes = [] :=
            List.filter_cons_of_neg (ne_true_of_eq_false (Output.takes_error unrouted))
          rw [control]
          exact ⟨refused.symm, rfl⟩
      | read control =>
          rw [control] at suits
          exact absurd suits plain
  | stored control =>
      rw [control]
      refine ⟨?_, rfl⟩
      exact Effect.dispatchedOf_notices _

private theorem nextRound_owes (unavailable : Status → Bool) :
    worker.nextRound.owesReport unavailable = false :=
  worker.nextRound_elim (·.owesReport unavailable = false) rfl rfl

private theorem Turns.owes {next : Control} {effects : List Effect}
    (plain : worker.kind ≠ .serverStreaming) (suits : control.Suits worker.kind)
    (turns : worker.Turns life control next effects) :
    next.owesReport worker.unavailable = control.owesReport worker.unavailable := by
  cases turns with
  | delivered => exact nextRound_owes _
  | unreachable unavailable => exact unavailable.symm
  | rejected available => exact available.symm
  | broken | resumed => exact absurd suits plain
  | interrupted | checked | passed | released | caught | asked | exhausted | outlasted
    | confessed => rfl

private theorem Pauses.owes {unavailable : Status → Bool} {next : Control} (pauses : Pauses control next) :
    next.owesReport unavailable = control.owesReport unavailable := by
  cases pauses <;> rfl

theorem Stepped.owes (plain : worker.kind ≠ .serverStreaming)
    (suits : worker.control.Suits worker.kind) (moved : worker.Stepped now life links bus stepped) :
    Effect.reportsIn stepped.effects + (stepped.worker.control.owesReport worker.unavailable).toNat =
      (worker.control.owesReport worker.unavailable).toNat := by
  rcases moved.reportsIn with ⟨otherwise, none, _⟩ | ⟨control, same⟩
  · rw [none, Nat.zero_add]
    apply congrArg Bool.toNat
    cases moved with
    | turned turns => exact turns.owes plain suits
    | paused pauses => exact pauses.owes
    | finished finishes =>
        generalize worker.control = control at finishes
        cases finishes <;> rfl
    | reported control => exact absurd control otherwise
    | fetching control | stored control =>
        rw [control]
        rfl
    | missed control =>
        rw [control]
        exact nextRound_owes _
    | @began _ _ _ fetched packet control =>
        have begins := @begin_calling now { worker with input := fetched.input } packet plain
        rw [control]
        exact congrArg (·.1.control.owesReport worker.unavailable) begins
    | dispatched offers | refused offers =>
        cases offers with
        | answered control | read control =>
            rw [control]
            rfl
  · rw [same, control]
    have settled : worker.afterReport.owesReport worker.unavailable = false :=
      worker.afterReport_elim (·.owesReport worker.unavailable = false) rfl rfl
    change 1 + (worker.afterReport.owesReport worker.unavailable).toNat = 1
    rw [settled]
    rfl

theorem told_reply (plain : worker.kind ≠ .serverStreaming) (suits : worker.control.Suits worker.kind)
    (told : Told now stage action worker.control control) :
    ∃ request reply, worker.control.awaits? = some request ∧ worker.control.answer? = none ∧
      (∀ unavailable, worker.control.owesReport unavailable = false) ∧
      action.reply stage = some reply ∧ control.awaits? = none ∧
      control.answer? = reply.toOption.map request.carry ∧
      ∀ unavailable, control.owesReport unavailable = isOutage unavailable reply := by
  generalize worker.control = before at suits told
  cases told with
  | answered | rejected => exact ⟨_, _, rfl, rfl, fun _ => rfl, if_pos rfl, rfl, rfl, fun _ => rfl⟩
  | opened | unopened | heard | overheard => exact absurd suits plain

variable {brought requests more : List Packet} {replies : List (Except Status Message)}
  {reply : Except Status Message} {request : Packet}

theorem results_waiting (level : requests.length = replies.length) :
    results (requests ++ more) replies = results requests replies := by
  have zipped : (requests ++ more).zip (replies ++ []) = requests.zip replies ++ more.zip [] :=
    List.zip_append level
  rw [List.append_nil, List.zip_nil_right, List.append_nil] at zipped
  unfold results
  rw [zipped]

theorem id_of_result (result : packet ∈ results requests replies) :
    ∃ request ∈ requests, packet.id = request.id := by
  obtain ⟨⟨request, reply⟩, called, answered⟩ := List.mem_filterMap.mp result
  obtain ⟨response, _, same⟩ := Option.map_eq_some_iff.mp answered
  exact ⟨request, (List.of_mem_zip called).1, (congrArg (·.id) same).symm⟩

theorem length_results_le : (results requests replies).length ≤ requests.length := by
  have zipped : (requests.zip replies).length ≤ requests.length := by
    rw [List.length_zip]
    exact Nat.min_le_left _ _
  exact Nat.le_trans (List.length_filterMap_le _ _) zipped

theorem results_append (level : requests.length = replies.length) :
    results (requests ++ [request]) (replies ++ [reply]) =
      results requests replies ++ (reply.toOption.map request.carry).toList := by
  unfold results
  rw [List.zip_append level, List.filterMap_append]
  apply congrArg
  cases reply with
  | ok | error => rfl

/-- The rounds of a worker so far: what its input brought, the replies to its calls, the calls, the answers
that it handed to its output and those that went out, and how many reports it made. -/
structure Rounds (brought : List Packet) (replies : List (Except Status Message))
    (calls : List Message) (offered emitted : List Packet) (reports : Nat) (worker : Worker) :
    Prop where
  plain : worker.kind ≠ .serverStreaming
  suits : worker.control.Suits worker.kind
  called : calls = brought.map (·.message)
  counted : worker.iterations = brought.length
  settled : ∃ requests, brought = requests ++ worker.control.awaits?.toList ∧
    requests.length = replies.length
  answered : results brought replies = offered ++ worker.control.answer?.toList
  went : emitted = offered.filter worker.output.takes
  reported : reports + (worker.control.owesReport worker.unavailable).toNat =
    replies.countP (isOutage worker.unavailable)

variable {calls : List Message} {offered emitted : List Packet} {reports : Nat}

theorem rounds_created {name : String} {kind : StageKind} {unavailable : Status → Bool} {input : Input}
    {output : Output} (plain : kind ≠ .serverStreaming) :
    (create name kind unavailable input output).Rounds [] [] [] [] [] 0 :=
  ⟨plain, trivial, rfl, rfl, ⟨[], rfl, rfl⟩, rfl, rfl, rfl⟩

theorem Rounds.rest (rounds : worker.Rounds brought replies calls offered emitted reports)
    (idle : worker.control = .condemned) (next : control = .crashed) :
    Rounds brought replies calls offered emitted reports { worker with control := control } := by
  obtain ⟨plain, _, called, counted, settled, answered, went, reported⟩ := rounds
  subst next
  rw [idle] at settled answered reported
  exact ⟨plain, trivial, called, counted, settled, answered, went, reported⟩

theorem Rounds.step (rounds : worker.Rounds brought replies calls offered emitted reports)
    (moved : worker.step now cancelFirst life links bus = some stepped) :
    stepped.worker.Rounds (brought ++ (worker.brings? cancelFirst life links).toList) replies
      (calls ++ stepped.effects.filterMap Effect.called?)
      (offered ++ worker.control.answer?.toList) (emitted ++ Effect.dispatchedOf stepped.effects)
      (reports + Effect.reportsIn stepped.effects) := by
  obtain ⟨plain, suits, called, counted, ⟨requests, before, level⟩, answered, went, reported⟩ := rounds
  have stepping := step_stepped moved
  obtain ⟨_, kind, unavailable, output⟩ := stepping.kin
  obtain ⟨calls, counts, waits⟩ := step_calls plain moved
  obtain ⟨emits, quiet⟩ := stepping.emits plain suits
  have reports := stepping.owes plain suits
  -- a worker that takes a step has no call that waits
  have free : worker.control.awaits? = none := by
    cases control : worker.control with
    | calling =>
        simp only [Worker.step, control] at moved
        cases moved
    | checking | parking | gated | passing | fetching | opening | answered | reading | delivering
      | failed | withdrawing | reporting | lingering | failing | condemned | stopping | ended
      | crashed => rfl
  rw [free, Option.toList_none, List.append_nil] at before
  subst before
  refine ⟨kind ▸ plain, stepping.suits suits, ?_, ?_, ⟨brought, ?_, level⟩, ?_, ?_, ?_⟩
  · rw [called, calls, List.map_append]
  · rw [counts, counted, List.length_append]
  · rw [waits]
  · rw [results_waiting level, answered, quiet, Option.toList_none, List.append_nil]
  · rw [went, emits, output, List.filter_append]
  · rw [unavailable, Nat.add_assoc, reports, reported]

theorem Rounds.told (rounds : worker.Rounds brought replies calls offered emitted reports)
    (told : Told now stage action worker.control control) :
    Rounds brought (replies ++ (action.reply stage).toList) calls offered emitted reports
      { worker with control := control } := by
  obtain ⟨plain, suits, called, counted, ⟨requests, before, level⟩, answered, went, reported⟩ := rounds
  obtain ⟨request, reply, waits, quiet, calm, replied, free, answers, owes⟩ := told_reply plain suits told
  have shaped := (told.keeps).2.2.2 worker.kind suits
  rw [waits, Option.toList_some] at before
  subst before
  rw [results_waiting level, quiet, Option.toList_none, List.append_nil] at answered
  rw [replied, Option.toList_some]
  refine ⟨plain, shaped, called, counted, ⟨requests ++ [request], ?_, ?_⟩, ?_, went, ?_⟩
  · rw [free, Option.toList_none, List.append_nil]
  · rw [List.length_append, List.length_append, level]
    rfl
  · rw [results_append level, answered, answers]
  · rw [calm, Bool.toNat_false, Nat.add_zero] at reported
    rw [owes, reported, List.countP_append, List.countP_singleton]
    change _ + (isOutage worker.unavailable reply).toNat =
      _ + if isOutage worker.unavailable reply = true then 1 else 0
    cases isOutage worker.unavailable reply <;> rfl

private theorem step_apart (apart : ∀ token call, worker.control ≠ .fetching token call)
    (moved : worker.Stepped now life links bus stepped) :
    stepped.worker.input = worker.input ∧
      ∀ link, MergeLedger.removed links stepped.links link = none := by
  have nothing : ∀ link, MergeLedger.removed links links link = none := by
    intro link
    cases removed : MergeLedger.removed links links link with
    | none => rfl
    | some packet =>
        obtain ⟨lay, empty⟩ := MergeLedger.removed_iff.mp removed
        cases lay.symm.trans empty
  cases moved with
  | turned | paused | finished | reported => exact ⟨rfl, nothing⟩
  | fetching control | missed control | began control => exact absurd control (apart _ _)
  | dispatched offers | refused offers => cases offers <;> exact ⟨rfl, nothing⟩
  | @stored target packet =>
      refine ⟨rfl, ?_⟩
      intro link
      cases removed : MergeLedger.removed links (links.put target packet).1 link with
      | none => rfl
      | some known =>
          obtain ⟨lay, empty⟩ := MergeLedger.removed_iff.mp removed
          rw [LinkStore.slot_put] at empty
          split at empty
          · cases empty
          · cases lay.symm.trans empty

theorem step_takes (plain : worker.kind ≠ .serverStreaming) (single : worker.input = .passthrough link)
    (moved : worker.step now cancelFirst life links bus = some stepped) :
    stepped.worker.input = .passthrough link ∧
      MergeLedger.removed links stepped.links link = worker.brings? cancelFirst life links := by
  by_cases fetching : ∃ token call, worker.control = .fetching token call
  · obtain ⟨token, call, control⟩ := fetching
    obtain ⟨fetched, step, sameLinks, sameInput, brought, _⟩ := fetching_step plain control moved
    rw [sameLinks, sameInput, brought]
    rw [single] at step
    cases step with
    | waited keeps | quit keeps => exact ⟨rfl, MergeLedger.removed_keeping keeps⟩
    | took slot => exact ⟨rfl, MergeLedger.removed_emptied slot⟩
  · have apart : ∀ token call, worker.control ≠ .fetching token call :=
      fun token call control => fetching ⟨token, call, control⟩
    obtain ⟨sameInput, nothing⟩ := step_apart apart (step_stepped moved)
    rw [brings_other apart]
    exact ⟨sameInput.trans single, nothing link⟩

/-- A worker that makes its ids has made these packets, counting from a first id. -/
structure Counts (start : Nat) (packets : List Packet) (worker : Worker) : Prop where
  makes : worker.input.MakesIds
  counter : worker.input.counter = start + packets.length
  ids : packets.map (·.id) = List.range' start packets.length

variable {start : Nat} {packets : List Packet}

private theorem Counts.next {after : Worker} {packet : Packet} (counts : worker.Counts start packets)
    (makes : after.input.MakesIds) (made : packet.id = worker.input.counter)
    (counted : after.input.counter = worker.input.counter + 1) :
    after.Counts start (packets ++ [packet]) := by
  refine ⟨makes, ?_, ?_⟩
  · rw [counted, counts.counter, List.length_append, Nat.add_assoc]
    rfl
  · rw [List.map_append, List.length_append, List.length_singleton, List.range'_1_concat, counts.ids,
      List.map_singleton, made, counts.counter]

theorem Counts.step (plain : worker.kind ≠ .serverStreaming) (counts : worker.Counts start packets)
    (moved : worker.step now cancelFirst life links bus = some stepped) :
    stepped.worker.Counts start (packets ++ (worker.brings? cancelFirst life links).toList) := by
  have same : ∀ {after : Worker}, after.input.MakesIds → after.input.counter = worker.input.counter →
      after.Counts start (packets ++ []) := by
    intro after makes same
    rw [List.append_nil]
    exact ⟨makes, same.trans counts.counter, counts.ids⟩
  by_cases fetching : ∃ token call, worker.control = .fetching token call
  · obtain ⟨token, call, control⟩ := fetching
    obtain ⟨fetched, step, _, sameInput, brought, _⟩ := fetching_step plain control moved
    rw [brought]
    unfold InputStep.brought?
    obtain ⟨makes, ⟨packet, brings, made, counted⟩ | ⟨nothing, counted⟩⟩ := step.counts counts.makes
    · rw [brings]
      exact counts.next (sameInput ▸ makes) made (sameInput ▸ counted)
    · cases outcome : fetched.outcome with
      | inl later => exact same (sameInput ▸ makes) (sameInput ▸ counted)
      | inr ended =>
          cases ended with
          | none => exact same (sameInput ▸ makes) (sameInput ▸ counted)
          | some packet => exact absurd outcome (nothing packet)
  · have apart : ∀ token call, worker.control ≠ .fetching token call :=
      fun token call control => fetching ⟨token, call, control⟩
    obtain ⟨sameInput, _⟩ := step_apart apart (step_stepped moved)
    rw [brings_other apart]
    exact same (sameInput ▸ counts.makes) (congrArg Input.counter sameInput)

/-- A worker that is about to report has just paused its stage. -/
theorem Stepped.withdraws (moved : worker.Stepped now life links bus stepped)
    (reporting : stepped.worker.control = .reporting) :
    stepped.lifecycle = life.pause.1 ∧ stepped.effects = Effect.ofNotices life.pause.2 := by
  have further : worker.nextRound ≠ .reporting :=
    worker.nextRound_elim (· ≠ .reporting) nofun nofun
  cases moved with
  | paused => exact ⟨rfl, rfl⟩
  | turned turns =>
      generalize worker.control = control at turns
      cases turns with
      | delivered => exact absurd reporting further
      | interrupted | checked | passed | released | caught | asked | exhausted | broken | resumed
        | unreachable | rejected | outlasted | confessed => cases reporting
  | finished finishes =>
      generalize worker.control = control at finishes
      cases finishes <;> cases reporting
  | reported =>
      have once : worker.afterReport ≠ .reporting :=
        worker.afterReport_elim (· ≠ .reporting) nofun nofun
      exact absurd reporting once
  | missed => exact absurd reporting further
  | @began _ _ _ fetched packet =>
      rcases @begin_control now { worker with input := fetched.input } packet with opens | calls
      · cases opens.symm.trans reporting
      · cases calls.symm.trans reporting
  | fetching | dispatched | refused | stored => cases reporting

theorem Stepped.reporter {reporter : String} (moved : worker.Stepped now life links bus stepped)
    (member : .reported reporter ∈ stepped.effects) :
    worker.control = .reporting ∧ reporter = worker.stage := by
  rcases moved.reportsIn with ⟨_, silent, _⟩ | ⟨control, same⟩
  · exact absurd rfl (List.countP_eq_zero.mp silent _ member)
  · rw [same] at member
    cases List.mem_singleton.mp member
    exact ⟨control, rfl⟩

/-- A blocked worker has handed on every answer and reported every outage. -/
theorem blocked_settled (unavailable : Status → Bool)
    (blocked : worker.step now cancelFirst life links bus = none) :
    worker.control.answer? = none ∧ worker.control.owesReport unavailable = false := by
  cases control : worker.control with
  | answered | withdrawing | reporting =>
      simp only [Worker.step, control] at blocked
      cases blocked
  | failed status =>
      simp only [Worker.step, control] at blocked
      split at blocked <;> cases blocked
  | checking | parking | gated | passing | fetching | calling | opening | reading | delivering
    | lingering | failing | condemned | stopping | ended | crashed => exact ⟨rfl, rfl⟩

end Worker
end Sluice
