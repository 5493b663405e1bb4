import Sluice.Proofs.Input.Carrying
import Sluice.Proofs.Worker.Numbering

set_option autoImplicit false

/-! What a worker holds. If whatever the links hold was carried by them in some sense, so was what the
worker took from its only link, what its merge caches, and what it has yet to put on links. -/

namespace Sluice

namespace Control

def joining? : Control → Option MergeCall
  | .fetching _ call => call.joining?
  | _ => none

def outgoing : Control → List Delivery
  | .delivering rest _ => rest
  | _ => []

structure Bare (control : Control) : Prop where
  joins : control.joining? = none
  holds : control.held? = none
  delivers : control.outgoing = []

end Control

theorem Told.keeps {now : Duration} {stage : StageId} {action : Action} {control next : Control}
    (told : Told now stage action control next) :
    next.joining? = none ∧ (next.held? = none ∨ next.held? = control.held?) ∧
      (next.outgoing = [] ∨ next.outgoing = control.outgoing) ∧
      ∀ kind, control.Suits kind → next.Suits kind := by
  cases told with
  | answered => exact ⟨rfl, Or.inr rfl, Or.inl rfl, fun _ => id⟩
  | rejected | unopened => exact ⟨rfl, Or.inl rfl, Or.inl rfl, fun _ _ => trivial⟩
  | opened | heard => exact ⟨rfl, Or.inl rfl, Or.inl rfl, fun _ => id⟩
  | overheard => exact ⟨rfl, Or.inl rfl, Or.inr rfl, fun _ => id⟩

namespace Worker

/-- What a worker takes from links and puts on links is carried by them, and as long as it has a single
input its results are those of a function. -/
structure Carries (carries : LinkId → Packet → Prop) (function : Message → Message)
    (worker : Worker) : Prop where
  joins : worker.input.Joins carries worker.control.joining?
  holds : ∀ link, worker.input = .passthrough link →
    ∀ packet, worker.control.held? = some packet → carries link packet
  answers : ∀ link, worker.input = .passthrough link → ∀ request since response,
    worker.control = .answered request since response → response = function request.message
  delivers : ∀ delivery ∈ worker.control.outgoing, carries delivery.1 delivery.2

/-- A change of control that takes in nothing new but the answer of the function. -/
structure Eases (function : Message → Message) (worker : Worker) (next : Control) : Prop where
  joins : next.joining? = none ∨ next.joining? = worker.control.joining?
  holds : next.held? = none ∨ next.held? = worker.control.held?
  answers : ∀ link, worker.input = .passthrough link → ∀ request since response,
    next = .answered request since response → response = function request.message
  delivers : ∀ delivery ∈ next.outgoing, delivery ∈ worker.control.outgoing

variable {carries further : LinkId → Packet → Prop} {function : Message → Message}
  {now : Duration} {life : Lifecycle} {links : LinkStore} {bus : ReportBus} {worker : Worker}
  {stepped : WorkerStep} {next : Control}

theorem Carries.mono (tracked : worker.Carries carries function)
    (grows : ∀ link packet, carries link packet → further link packet) :
    worker.Carries further function :=
  { joins := tracked.joins.mono grows
    holds := fun link single packet held => grows _ _ (tracked.holds link single packet held)
    answers := tracked.answers
    delivers := fun delivery outgoing => grows _ _ (tracked.delivers delivery outgoing) }

theorem Carries.ease (tracked : worker.Carries carries function)
    (eases : worker.Eases function next) :
    Carries carries function { worker with control := next } := by
  refine ⟨?_, ?_, eases.answers, ?_⟩
  · rcases eases.joins with none | same
    · exact none ▸ tracked.joins.stop
    · exact same ▸ tracked.joins
  · intro link single packet held
    rcases eases.holds with none | same
    · rw [none] at held
      cases held
    · exact tracked.holds link single packet (same ▸ held)
  · intro delivery outgoing
    exact tracked.delivers delivery (eases.delivers delivery outgoing)

theorem eases_of_bare (bare : next.Bare) : worker.Eases function next := by
  refine ⟨Or.inl bare.joins, Or.inl bare.holds, ?_, ?_⟩
  · intro link single request since response answered
    have holds := bare.holds
    rw [answered] at holds
    cases holds
  · intro delivery outgoing
    rw [bare.delivers] at outgoing
    cases outgoing

theorem nextRound_bare (worker : Worker) : worker.nextRound.Bare := by
  unfold nextRound
  cases worker.kind <;> exact ⟨rfl, rfl, rfl⟩

theorem afterReport_bare (worker : Worker) : worker.afterReport.Bare := by
  unfold afterReport
  cases worker.kind <;> exact ⟨rfl, rfl, rfl⟩

theorem Turns.bare {control : Control} {effects : List Effect}
    (turns : worker.Turns life control next effects) :
    next.Bare ∨ control = .passing ∧ next = .fetching life.cancellation worker.input.call := by
  cases turns with
  | asked => exact Or.inr ⟨rfl, rfl⟩
  | delivered => exact Or.inl worker.nextRound_bare
  | interrupted | checked | passed | released | caught | exhausted | broken | resumed
    | unreachable | rejected | outlasted | confessed => exact Or.inl ⟨rfl, rfl, rfl⟩

theorem Pauses.bare {control : Control} (pauses : Pauses control next) : next.Bare := by
  cases pauses <;> exact ⟨rfl, rfl, rfl⟩

theorem Finishes.bare {control : Control} (finishes : Finishes control next) : next.Bare := by
  cases finishes <;> exact ⟨rfl, rfl, rfl⟩

private theorem Offers.idle {held : Worker} {packet : Packet} {stream : Option Reading}
    (offers : worker.Offers now held packet stream) :
    held.input = worker.input ∧ worker.control.joining? = none := by
  cases offers with
  | answered control => exact ⟨rfl, by rw [control]; rfl⟩
  | read control => exact ⟨rfl, by rw [control]; rfl⟩

theorem carries_of_idle (joins : worker.input.Joins carries worker.control.joining?)
    (holds : worker.control.held? = none) (delivers : worker.control.outgoing = []) :
    worker.Carries carries function := by
  refine ⟨joins, ?_, ?_, ?_⟩
  · intro link single packet held
    rw [holds] at held
    cases held
  · intro link single request since response answered
    rw [answered] at holds
    cases holds
  · intro delivery outgoing
    rw [delivers] at outgoing
    cases outgoing

private theorem Carries.begins {input : Input} {packet : Packet} (joins : input.Joins carries none)
    (carried : ∀ link, input = .passthrough link → carries link packet) :
    (Worker.begin { worker with input := input } now packet).1.Carries carries function := by
  by_cases streaming : worker.kind = .serverStreaming
  · rw [@begin_streaming now { worker with input := input } packet streaming]
    exact carries_of_idle joins rfl rfl
  · rw [@begin_calling now { worker with input := input } packet streaming]
    refine ⟨joins, ?_, ?_, ?_⟩
    · intro link single other held
      cases held
      exact carried link single
    · intro link single request since response impossible
      cases impossible
    · intro delivery impossible
      cases impossible

private theorem Carries.turned {control : Control} {effects : List Effect}
    (tracked : worker.Carries carries function) (under : worker.control = control)
    (turns : worker.Turns life control next effects) :
    Carries carries function { worker with control := next } := by
  rcases turns.bare with bare | ⟨passing, same⟩
  · exact tracked.ease (eases_of_bare bare)
  · subst same
    have joins := tracked.joins
    rw [under, passing] at joins
    exact carries_of_idle joins.begin rfl rfl

theorem Stepped.joins (joins : worker.input.Joins carries worker.control.joining?)
    (slots : ∀ link packet, (links.get link).slot = some packet → carries link packet)
    (moved : worker.Stepped now life links bus stepped) :
    stepped.worker.input.Joins carries stepped.worker.control.joining? := by
  have bared : ∀ {next : Control}, next.Bare → worker.input.Joins carries next.joining? :=
    fun bare => bare.joins ▸ joins.stop
  -- a fetch under way leaves the caches with packets that links held
  have fetched : ∀ {token call cancelFirst fetched}, worker.control = .fetching token call →
      worker.input.step (life.tokens.isFired token) cancelFirst links call = some fetched →
        fetched.input.Joins carries (fetched.outcome.getLeft?.bind InputCall.joining?) := by
    intro token call cancelFirst fetched control step
    have under := joins
    rw [control] at under
    exact (Input.step_stepped step).joins under slots
  have offered : ∀ {held packet stream}, worker.Offers now held packet stream →
      held.input.Joins carries none := by
    intro held packet stream offers
    rw [offers.idle.1]
    exact joins.stop
  cases moved with
  | turned turns =>
      rcases turns.bare with bare | ⟨_, same⟩
      · exact bared bare
      · rw [same]
        exact joins.stop.begin
  | paused pauses => exact bared pauses.bare
  | finished finishes => exact bared finishes.bare
  | reported => exact bared worker.afterReport_bare
  | fetching control step goes =>
      have left := fetched control step
      rw [goes] at left
      exact left
  | @missed _ _ _ after control step none =>
      have left := fetched control step
      rw [none] at left
      rw [worker.nextRound_bare.joins]
      exact left
  | @began _ _ _ after packet control step brings =>
      have left := fetched control step
      rw [brings] at left
      by_cases streaming : worker.kind = .serverStreaming
      · rw [@begin_streaming now { worker with input := after.input } packet streaming]
        exact left
      · rw [@begin_calling now { worker with input := after.input } packet streaming]
        exact left
  | dispatched offers | refused offers =>
      have left := offered offers
      exact left
  | stored => exact joins.stop

/-- Every step keeps what a worker knows of its packets, as long as a result goes out only to links that
are then said to carry it. -/
theorem Carries.step (tracked : worker.Carries carries function)
    (slots : ∀ link packet, (links.get link).slot = some packet → carries link packet)
    (moved : worker.Stepped now life links bus stepped)
    (routes : ∀ held packet stream deliveries, worker.Offers now held packet stream →
      packet ∈ Effect.dispatchedOf stepped.effects → worker.output.route packet = .ok deliveries →
        ∀ delivery ∈ deliveries, carries delivery.1 delivery.2) :
    stepped.worker.Carries carries function := by
  have joins := moved.joins tracked.joins slots
  cases moved with
  | turned turns => exact tracked.turned rfl turns
  | paused pauses => exact tracked.ease (eases_of_bare pauses.bare)
  | finished finishes => exact tracked.ease (eases_of_bare finishes.bare)
  | reported => exact tracked.ease (eases_of_bare worker.afterReport_bare)
  | fetching => exact carries_of_idle joins rfl rfl
  | @missed _ _ _ after =>
      have idle : Carries carries function { worker with input := after.input, control := .checking } :=
        carries_of_idle joins.stop rfl rfl
      exact idle.ease (eases_of_bare worker.nextRound_bare)
  | began control step brings =>
      exact Carries.begins joins.stop fun link single =>
        slots link _ ((Input.step_stepped step).takes single brings)
  | @dispatched held packet stream notice deliveries offers routed =>
      have out := routes held packet stream deliveries offers List.mem_cons_self routed
      refine ⟨joins, ?_, ?_, out⟩
      · intro link single other impossible
        cases impossible
      · intro link single request since response impossible
        cases impossible
  | refused => exact carries_of_idle joins rfl rfl
  | @stored link packet rest stream control =>
      refine tracked.ease ⟨Or.inl rfl, Or.inl rfl, ?_, ?_⟩
      · intro link single request since response impossible
        cases impossible
      · intro delivery outgoing
        rw [control]
        exact List.mem_cons_of_mem _ outgoing

theorem Stepped.keeps (moved : worker.Stepped now life links bus stepped) :
    stepped.worker.kind = worker.kind ∧ stepped.worker.output = worker.output ∧
      ∀ bindings, worker.input.Fits bindings → stepped.worker.input.Fits bindings := by
  cases moved with
  | turned | paused | finished | reported | stored => exact ⟨rfl, rfl, fun _ => id⟩
  | fetching control step | missed control step | began control step =>
      exact ⟨rfl, rfl, fun _ fits => (Input.step_stepped step).fits fits⟩
  | dispatched offers | refused offers => cases offers <;> exact ⟨rfl, rfl, fun _ => id⟩

/-- One worker at two times: what it was made with stays the same. -/
structure Kin (worker after : Worker) : Prop where
  stage : after.stage = worker.stage
  kind : after.kind = worker.kind
  unavailable : after.unavailable = worker.unavailable
  output : after.output = worker.output

theorem Kin.trans {after later : Worker} (first : worker.Kin after) (second : after.Kin later) :
    worker.Kin later :=
  ⟨second.stage.trans first.stage, second.kind.trans first.kind,
    second.unavailable.trans first.unavailable, second.output.trans first.output⟩

theorem Stepped.kin (moved : worker.Stepped now life links bus stepped) : worker.Kin stepped.worker := by
  cases moved with
  | turned | paused | finished | reported | fetching | missed | began | stored =>
      exact ⟨rfl, rfl, rfl, rfl⟩
  | dispatched offers | refused offers => cases offers <;> exact ⟨rfl, rfl, rfl, rfl⟩

theorem Stepped.stores {link : LinkId} {packet : Packet}
    (moved : worker.Stepped now life links bus stepped)
    (member : Effect.stored link packet ∈ stepped.effects) :
    (link, packet) ∈ worker.control.outgoing := by
  cases moved with
  | turned turns => exact absurd (turns.silent _ member) id
  | paused | finished => exact absurd (Effect.silent_ofNotices member) id
  | reported | refused => cases List.mem_singleton.mp member
  | fetching | missed =>
      rw [List.append_nil] at member
      exact absurd (Effect.silent_ofNotices member) id
  | began =>
      rcases List.mem_append.mp member with noted | called
      · exact absurd (Effect.silent_ofNotices noted) id
      · cases List.mem_singleton.mp called
  | dispatched =>
      rcases List.mem_cons.mp member with noted | dispatched
      · cases noted
      · cases List.mem_singleton.mp dispatched
  | stored control =>
      rw [control]
      rcases List.mem_cons.mp member with here | noted
      · cases here
        exact List.mem_cons_self
      · exact absurd (Effect.silent_ofNotices noted) id

theorem Stepped.settles {link : LinkId} {packet : Packet}
    (moved : worker.Stepped now life links bus stepped)
    (slot : (stepped.links.get link).slot = some packet) :
    (links.get link).slot = some packet ∨ Effect.stored link packet ∈ stepped.effects := by
  cases moved with
  | turned | paused | finished | reported | dispatched | refused => exact Or.inl slot
  | fetching control step | missed control step | began control step =>
      exact Or.inl ((Input.step_stepped step).slots slot)
  | stored control =>
      rw [LinkStore.slot_put] at slot
      split at slot
      · rename_i here
        cases slot
        rw [here.1]
        exact Or.inr List.mem_cons_self
      · exact Or.inl slot

theorem Stepped.calls {request : Message} (moved : worker.Stepped now life links bus stepped)
    (member : Effect.called request ∈ stepped.effects) :
    ∃ token call fetched packet, worker.control = .fetching token call ∧
      worker.input.Stepped links call fetched ∧ fetched.outcome = .inr (some packet) ∧
      packet.message = request := by
  cases moved with
  | turned turns => exact absurd (turns.silent _ member) id
  | paused | finished => exact absurd (Effect.silent_ofNotices member) id
  | reported | refused => cases List.mem_singleton.mp member
  | fetching | missed =>
      rw [List.append_nil] at member
      exact absurd (Effect.silent_ofNotices member) id
  | began control step brings =>
      rcases List.mem_append.mp member with noted | called
      · exact absurd (Effect.silent_ofNotices noted) id
      · cases List.mem_singleton.mp called
        exact ⟨_, _, _, _, control, Input.step_stepped step, brings, rfl⟩
  | dispatched =>
      rcases List.mem_cons.mp member with noted | dispatched
      · cases noted
      · cases List.mem_singleton.mp dispatched
  | stored =>
      rcases List.mem_cons.mp member with here | noted
      · cases here
      · exact absurd (Effect.silent_ofNotices noted) id

theorem Carries.composes {bindings : List Binding} {request : Message}
    (tracked : worker.Carries carries function) (fits : worker.input.Fits bindings)
    (several : 2 ≤ bindings.length) (moved : worker.Stepped now life links bus stepped)
    (member : Effect.called request ∈ stepped.effects) :
    Merge.Composed carries (MergeSession.layoutOf bindings) request := by
  obtain ⟨token, call, fetched, packet, control, step, brings, same⟩ := moved.calls member
  have joins := tracked.joins
  rw [control] at joins
  exact same ▸ step.composes fits several joins brings

end Worker
end Sluice
