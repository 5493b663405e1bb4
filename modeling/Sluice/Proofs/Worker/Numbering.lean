import Sluice.Proofs.Engine.Act
import Sluice.Proofs.Input.Step

set_option autoImplicit false

/-! The ids of what a worker hands to its output. A worker that makes ids of its own, by a source, by a
merge or from streams, hands out increasing ones: the id of the call under way is above all that went
out, and the input's count is above that id. -/

namespace Sluice

def Control.held? : Control → Option Packet
  | .calling request _ | .answered request _ _ => some request
  | _ => none

/-- Which controls a worker of some kind can have: streams belong to streaming stages alone. -/
def Control.Suits (kind : StageKind) : Control → Prop
  | .calling .. | .answered .. => kind ≠ .serverStreaming
  | .opening _ | .reading _ | .delivering _ (some _) => kind = .serverStreaming
  | _ => True

namespace Input

def counter : Input → Nat
  | .source nextId _ => nextId
  | .merge held => held.nextId
  | .passthrough _ => 0

def MakesIds : Input → Prop
  | .source .. | .merge _ => True
  | .passthrough _ => False

variable {links : LinkStore} {input : Input} {call : InputCall} {stepped : InputStep}

theorem Stepped.counts (makes : input.MakesIds) (moved : Stepped links input call stepped) :
    stepped.input.MakesIds ∧
      ((∃ packet, stepped.outcome = .inr (some packet) ∧ packet.id = input.counter ∧
          stepped.input.counter = input.counter + 1) ∨
        (∀ packet, stepped.outcome ≠ .inr (some packet)) ∧
          stepped.input.counter = input.counter) := by
  cases moved with
  | made => exact ⟨trivial, Or.inl ⟨_, rfl, rfl, rfl⟩⟩
  | waited | took | quit => exact absurd makes id
  | joined step =>
      refine ⟨trivial, ?_⟩
      rcases step.counted with ⟨composite, outcome, id, _, counted⟩ | ⟨none, counted⟩
      · refine Or.inl ⟨composite, ?_, id, counted⟩
        change passOn _ = _
        rw [outcome]
        rfl
      · refine Or.inr ⟨?_, counted⟩
        intro packet passed
        exact none packet (passOn_brought passed)

end Input

namespace Effect

def dispatched? : Effect → Option Packet
  | .dispatched packet => some packet
  | _ => none

def dispatchedOf (effects : List Effect) : List Packet :=
  effects.filterMap dispatched?

def Silent : Effect → Prop
  | .called _ | .dispatched _ | .stored .. => False
  | .noted _ | .reported _ | .failed _ => True

theorem silent_ofNotices {notices : List Notice} {effect : Effect}
    (member : effect ∈ ofNotices notices) : effect.Silent := by
  obtain ⟨notice, _, same⟩ := List.mem_map.mp member
  subst same
  exact trivial

theorem dispatchedOf_silent {effects : List Effect} (silent : ∀ effect ∈ effects, effect.Silent) :
    dispatchedOf effects = [] := by
  apply List.filterMap_eq_nil_iff.mpr
  intro effect member
  have quiet := silent effect member
  cases effect with
  | dispatched => cases quiet
  | noted | called | stored | reported | failed => rfl

theorem dispatchedOf_notices (notices : List Notice) : dispatchedOf (ofNotices notices) = [] :=
  dispatchedOf_silent fun _ => silent_ofNotices

theorem dispatchedOf_append (first second : List Effect) :
    dispatchedOf (first ++ second) = dispatchedOf first ++ dispatchedOf second :=
  List.filterMap_append

end Effect

namespace Worker

/-- The id that goes out next, if anything goes out before the next fetch. -/
def frontier (worker : Worker) : Nat :=
  match worker.kind with
  | .serverStreaming => worker.nextId
  | .unary | .oneShotUnary =>
      match worker.control.held? with
      | some packet => packet.id
      | none => worker.input.counter

/-- The ids that went out are below those to come. -/
structure Numbered (worker : Worker) (ids : List Nat) : Prop where
  below : ∀ id ∈ ids, id < worker.frontier
  ahead : ∀ packet, worker.control.held? = some packet → packet.id < worker.input.counter

variable {now : Duration} {life : Lifecycle} {links : LinkStore} {bus : ReportBus} {worker : Worker}
  {stepped : WorkerStep} {ids : List Nat}

theorem frontier_of_held {packet : Packet} (unary : worker.kind ≠ .serverStreaming)
    (held : worker.control.held? = some packet) : worker.frontier = packet.id := by
  unfold frontier
  cases kind : worker.kind with
  | serverStreaming => exact absurd kind unary
  | unary | oneShotUnary => simp only [held]

theorem frontier_of_idle (unary : worker.kind ≠ .serverStreaming)
    (idle : worker.control.held? = none) : worker.frontier = worker.input.counter := by
  unfold frontier
  cases kind : worker.kind with
  | serverStreaming => exact absurd kind unary
  | unary | oneShotUnary => simp only [idle]

theorem frontier_of_streaming (streaming : worker.kind = .serverStreaming) :
    worker.frontier = worker.nextId := by
  unfold frontier
  rw [streaming]

private theorem frontier_le {next : Control} (numbered : worker.Numbered ids)
    (kept : next.held? = none ∨ next.held? = worker.control.held?) :
    worker.frontier ≤ Worker.frontier { worker with control := next } := by
  by_cases streaming : worker.kind = .serverStreaming
  · have after : Worker.frontier { worker with control := next } = worker.nextId :=
      frontier_of_streaming streaming
    exact Nat.le_of_eq ((frontier_of_streaming streaming).trans after.symm)
  · cases held : worker.control.held? with
    | none =>
        have idle : next.held? = none := kept.elim id fun same => same.trans held
        have after : Worker.frontier { worker with control := next } = worker.input.counter :=
          frontier_of_idle streaming idle
        exact Nat.le_of_eq ((frontier_of_idle streaming held).trans after.symm)
    | some packet =>
        rw [frontier_of_held streaming held]
        rcases kept with idle | same
        · have after : Worker.frontier { worker with control := next } = worker.input.counter :=
            frontier_of_idle streaming idle
          rw [after]
          exact Nat.le_of_lt (numbered.ahead packet held)
        · have after : Worker.frontier { worker with control := next } = packet.id :=
            frontier_of_held streaming (same.trans held)
          exact Nat.le_of_eq after.symm

theorem Numbered.turn {next : Control} (numbered : worker.Numbered ids)
    (kept : next.held? = none ∨ next.held? = worker.control.held?) :
    Numbered { worker with control := next } ids := by
  constructor
  · intro id listed
    exact Nat.lt_of_lt_of_le (numbered.below id listed) (frontier_le numbered kept)
  · intro packet held
    rcases kept with idle | same
    · rw [idle] at held
      cases held
    · exact numbered.ahead packet (same.symm.trans held)

private theorem nextRound_plain (worker : Worker) :
    worker.nextRound.Suits worker.kind ∧ worker.nextRound.held? = none := by
  unfold nextRound
  cases worker.kind <;> exact ⟨trivial, rfl⟩

private theorem afterReport_plain (worker : Worker) :
    worker.afterReport.Suits worker.kind ∧ worker.afterReport.held? = none := by
  unfold afterReport
  cases worker.kind <;> exact ⟨trivial, rfl⟩

theorem Turns.holdsNothing {control next : Control} {effects : List Effect}
    (turns : worker.Turns life control next effects) : next.held? = none := by
  cases turns with
  | delivered => exact worker.nextRound_plain.2
  | resumed | interrupted | checked | passed | released | caught | asked | exhausted | broken
    | unreachable | rejected | outlasted | confessed => rfl

theorem Pauses.holdsNothing {control next : Control} (pauses : Pauses control next) :
    next.held? = none := by
  cases pauses <;> rfl

theorem Finishes.holdsNothing {control next : Control} (finishes : Finishes control next) :
    next.held? = none := by
  cases finishes <;> rfl

theorem Stepped.suits (suits : worker.control.Suits worker.kind)
    (moved : worker.Stepped now life links bus stepped) :
    stepped.worker.control.Suits stepped.worker.kind := by
  cases moved with
  | turned turns =>
      change Control.Suits worker.kind _
      generalize worker.control = control at turns suits
      cases turns with
      | delivered => exact worker.nextRound_plain.1
      | resumed => exact suits
      | interrupted | checked | passed | released | caught | asked | exhausted | broken
        | unreachable | rejected | outlasted | confessed => trivial
  | paused pauses =>
      change Control.Suits worker.kind _
      generalize worker.control = control at pauses
      cases pauses <;> trivial
  | finished finishes =>
      change Control.Suits worker.kind _
      generalize worker.control = control at finishes
      cases finishes <;> trivial
  | reported => exact worker.afterReport_plain.1
  | fetching => trivial
  | missed => exact worker.nextRound_plain.1
  | @began _ _ _ fetched packet =>
      by_cases streaming : worker.kind = .serverStreaming
      · rw [@begin_streaming now { worker with input := fetched.input } packet streaming]
        exact streaming
      · rw [@begin_calling now { worker with input := fetched.input } packet streaming]
        exact streaming
  | dispatched offers =>
      cases offers with
      | answered => trivial
      | read control =>
          rw [control] at suits
          exact suits
  | refused => trivial
  | @stored _ _ rest stream control =>
      rw [control] at suits
      cases stream with
      | none => trivial
      | some => exact suits

theorem Turns.silent {control next : Control} {effects : List Effect}
    (turns : worker.Turns life control next effects) : ∀ effect ∈ effects, effect.Silent := by
  intro effect member
  cases turns with
  | interrupted | unreachable =>
      cases List.mem_singleton.mp member
      exact trivial
  | confessed =>
      rcases List.mem_cons.mp member with noted | failed
      · subst noted
        exact trivial
      · cases List.mem_singleton.mp failed
        exact trivial
  | checked | passed | released | caught | asked | exhausted | broken | resumed | delivered
    | rejected | outlasted => cases member

theorem Stepped.dispatches (moved : worker.Stepped now life links bus stepped) :
    Effect.dispatchedOf stepped.effects = [] ∨
      ∃ held packet stream deliveries notice, worker.Offers now held packet stream ∧
        worker.output.route packet = .ok deliveries ∧
        stepped =
          { worker := { held with control := .delivering deliveries stream }, lifecycle := life
            links := links, bus := bus, effects := [.noted notice, .dispatched packet] } := by
  cases moved with
  | turned turns => exact Or.inl (Effect.dispatchedOf_silent turns.silent)
  | paused | finished => exact Or.inl (Effect.dispatchedOf_notices _)
  | reported | refused => exact Or.inl rfl
  | fetching | missed | began =>
      apply Or.inl
      rw [Effect.dispatchedOf_append, Effect.dispatchedOf_notices]
      rfl
  | dispatched offers routed => exact Or.inr ⟨_, _, _, _, _, offers, routed, rfl⟩
  | stored =>
      apply Or.inl
      change Effect.dispatchedOf (Effect.ofNotices _) = []
      exact Effect.dispatchedOf_notices _

theorem Stepped.increasing (moved : worker.Stepped now life links bus stepped)
    (increasing : ids.Pairwise (· < ·))
    (above : ∀ packet ∈ Effect.dispatchedOf stepped.effects, ∀ id ∈ ids, id < packet.id) :
    (ids ++ (Effect.dispatchedOf stepped.effects).map (·.id)).Pairwise (· < ·) := by
  apply List.pairwise_append.mpr
  refine ⟨increasing, ?_, ?_⟩
  · rcases moved.dispatches with none | ⟨_, packet, _, _, _, _, _, same⟩
    · rw [none]
      exact List.Pairwise.nil
    · rw [same]
      exact List.pairwise_singleton _ _
  · intro earlier old later new
    obtain ⟨packet, out, same⟩ := List.mem_map.mp new
    exact same ▸ above packet out earlier old

private theorem Offers.sameInput {held : Worker} {packet : Packet} {stream : Option Reading}
    (offers : worker.Offers now held packet stream) : worker.input = held.input := by
  cases offers <;> rfl

private theorem Numbered.offer {held : Worker} {packet : Packet} {stream : Option Reading}
    {next : Control} (shape : worker.control.Suits worker.kind) (numbered : worker.Numbered ids)
    (offers : worker.Offers now held packet stream) (idle : next.held? = none) :
    packet.id = worker.frontier ∧
      Numbered { held with control := next } (ids ++ [packet.id]) := by
  have past : packet.id = worker.frontier ∧
      packet.id < Worker.frontier { held with control := next } := by
    cases offers with
    | @answered request since response control =>
        rw [control] at shape
        have under : worker.control.held? = some request := by rw [control]; rfl
        have after : Worker.frontier { worker with control := next } = worker.input.counter :=
          frontier_of_idle shape idle
        rw [after]
        exact ⟨(frontier_of_held shape under).symm, numbered.ahead request under⟩
    | @read reading response later control ready =>
        rw [control] at shape
        have after : Worker.frontier
            { worker with nextId := worker.nextId + 1, control := next } = worker.nextId + 1 :=
          frontier_of_streaming shape
        exact ⟨(frontier_of_streaming shape).symm, Nat.lt_of_lt_of_eq (Nat.lt_succ_self _) after.symm⟩
  refine ⟨past.1, ?_, ?_⟩
  · intro id listed
    rcases List.mem_append.mp listed with old | new
    · have below := numbered.below id old
      rw [← past.1] at below
      exact Nat.lt_trans below past.2
    · cases List.mem_singleton.mp new
      exact past.2
  · intro other impossible
    rw [idle] at impossible
    cases impossible

private theorem Numbered.fetch {input : Input} {next : Control} (numbered : worker.Numbered ids)
    (idle : worker.control.held? = none) (counts : input.counter = worker.input.counter)
    (none : next.held? = none) :
    Numbered { worker with input := input, control := next } ids := by
  constructor
  · intro id listed
    have below := numbered.below id listed
    by_cases streaming : worker.kind = .serverStreaming
    · rw [frontier_of_streaming streaming] at below
      have after : Worker.frontier { worker with input := input, control := next } = worker.nextId :=
        frontier_of_streaming streaming
      exact Nat.lt_of_lt_of_eq below after.symm
    · rw [frontier_of_idle streaming idle] at below
      have after : Worker.frontier { worker with input := input, control := next } = input.counter :=
        frontier_of_idle streaming none
      exact Nat.lt_of_lt_of_eq below (counts.symm.trans after.symm)
  · intro packet held
    exact absurd (none.symm.trans held) (by intro impossible; cases impossible)

private theorem Numbered.begins {input : Input} {packet : Packet} (numbered : worker.Numbered ids)
    (idle : worker.control.held? = none) (made : packet.id = worker.input.counter)
    (counts : input.counter = worker.input.counter + 1) :
    (Worker.begin { worker with input := input } now packet).1.Numbered ids := by
  have fresh : packet.id < input.counter := by omega
  by_cases streaming : worker.kind = .serverStreaming
  · rw [@begin_streaming now { worker with input := input } packet streaming]
    constructor
    · intro id listed
      have below := numbered.below id listed
      rw [frontier_of_streaming streaming] at below
      have after : Worker.frontier
          { worker with
            input := input, iterations := worker.iterations + 1, control := .opening packet } =
          worker.nextId := frontier_of_streaming streaming
      exact Nat.lt_of_lt_of_eq below after.symm
    · intro other impossible
      cases impossible
  · rw [@begin_calling now { worker with input := input } packet streaming]
    constructor
    · intro id listed
      have below := numbered.below id listed
      rw [frontier_of_idle streaming idle, ← made] at below
      have after : Worker.frontier
          { worker with
            input := input, iterations := worker.iterations + 1
            control := .calling packet now } = packet.id := frontier_of_held streaming rfl
      exact Nat.lt_of_lt_of_eq below after.symm
    · intro other held
      cases held
      exact fresh

/-- Every step keeps the numbering, and what it hands out is above all that went out before. -/
theorem Numbered.step (suits : worker.control.Suits worker.kind) (numbered : worker.Numbered ids)
    (makes : worker.input.MakesIds) (moved : worker.Stepped now life links bus stepped) :
    stepped.worker.input.MakesIds ∧
      stepped.worker.Numbered (ids ++ (Effect.dispatchedOf stepped.effects).map (·.id)) ∧
      ∀ packet ∈ Effect.dispatchedOf stepped.effects, ∀ id ∈ ids, id < packet.id := by
  have idle : ∀ {token call}, worker.control = .fetching token call → worker.control.held? = none := by
    intro token call control
    rw [control]
    rfl
  -- what goes out, if anything, is offered under the id of the frontier
  rcases moved.dispatches with nothing | ⟨held, packet, stream, deliveries, notice, offers, _, same⟩
  · rw [nothing, List.map_nil, List.append_nil]
    suffices kept : stepped.worker.input.MakesIds ∧ stepped.worker.Numbered ids from
      ⟨kept.1, kept.2, fun packet impossible => absurd impossible List.not_mem_nil⟩
    cases moved with
    | turned turns => exact ⟨makes, numbered.turn (Or.inl turns.holdsNothing)⟩
    | paused pauses => exact ⟨makes, numbered.turn (Or.inl pauses.holdsNothing)⟩
    | finished finishes => exact ⟨makes, numbered.turn (Or.inl finishes.holdsNothing)⟩
    | reported => exact ⟨makes, numbered.turn (Or.inl worker.afterReport_plain.2)⟩
    | fetching control step goes =>
        obtain ⟨stillMakes, ⟨packet, brings, _⟩ | ⟨_, counts⟩⟩ := (Input.step_stepped step).counts makes
        · rw [goes] at brings
          cases brings
        · exact ⟨stillMakes, numbered.fetch (idle control) counts rfl⟩
    | missed control step none =>
        obtain ⟨stillMakes, ⟨packet, brings, _⟩ | ⟨_, counts⟩⟩ := (Input.step_stepped step).counts makes
        · rw [none] at brings
          cases brings
        · exact ⟨stillMakes, numbered.fetch (idle control) counts worker.nextRound_plain.2⟩
    | began control step brings =>
        obtain ⟨stillMakes, ⟨packet, brought, made, counts⟩ | ⟨none, _⟩⟩ :=
          (Input.step_stepped step).counts makes
        · cases brings.symm.trans brought
          refine ⟨?_, numbered.begins (idle control) made counts⟩
          exact stillMakes
        · exact absurd brings (none _)
    | dispatched => cases nothing
    | @refused held _ _ _ cause offers =>
        have offered := (numbered.offer suits offers
          (show (Control.failing (.dispatch held.stage cause)).held? = none from rfl)).2
        refine ⟨offers.sameInput ▸ makes, ?_, offered.ahead⟩
        intro id listed
        exact offered.below id (List.mem_append_left _ listed)
    | stored => exact ⟨makes, numbered.turn (Or.inl rfl)⟩
  · subst same
    obtain ⟨level, offered⟩ := numbered.offer suits offers
      (show (Control.delivering deliveries stream).held? = none from rfl)
    refine ⟨offers.sameInput ▸ makes, offered, ?_⟩
    intro other single id listed
    cases List.mem_singleton.mp single
    exact level ▸ numbered.below id listed

end Worker
end Sluice
