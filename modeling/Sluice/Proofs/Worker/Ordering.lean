import Sluice.Proofs.Engine.History
import Sluice.Proofs.Worker.Fitting

set_option autoImplicit false

/-! The order of what a worker hands out. A worker that makes its ids counts upwards; one that passes packets
on works under the ids that it took, one after the other. Either way its results leave under increasing
ids, and so does what is put on each link that leaves its stage, in the order of the results. -/

namespace Sluice

namespace Input

variable {links : LinkStore} {input : Input} {call : InputCall} {stepped : InputStep}

theorem Stepped.empties {link : LinkId} {packet : Packet} (moved : Stepped links input call stepped)
    (single : input = .passthrough link) (brings : stepped.outcome = .inr (some packet)) :
    (links.get link).slot = some packet ∧ (stepped.links.get link).slot = none := by
  cases moved with
  | took slot =>
      cases single
      cases brings
      refine ⟨slot, ?_⟩
      rw [LinkStore.slot_set, if_pos ⟨rfl, LinkStore.known_of_slot slot⟩]
  | waited | quit => cases brings
  | made | joined => cases single

end Input

namespace Worker

variable {topology : Topology} {stage : StageId} {descriptor : StageDescriptor} {link : LinkId}
  {now : Duration} {life : Lifecycle} {links : LinkStore} {bus : ReportBus} {worker : Worker}
  {stepped : WorkerStep} {next : Control}

theorem Stepped.holds {packet : Packet} (moved : worker.Stepped now life links bus stepped)
    (held : stepped.worker.control.held? = some packet) :
    Effect.dispatchedOf stepped.effects = [] ∧
      ∃ call fetched, Input.Stepped links worker.input call fetched ∧
        fetched.outcome = .inr (some packet) ∧ stepped.links = fetched.links := by
  have idle : ∀ {control : Control}, control.held? = none → control.held? ≠ some packet := by
    intro control none some
    cases none.symm.trans some
  cases moved with
  | turned turns => exact absurd held (idle turns.holdsNothing)
  | paused pauses => exact absurd held (idle pauses.holdsNothing)
  | finished finishes => exact absurd held (idle finishes.holdsNothing)
  | reported => exact absurd held (idle worker.afterReport_bare.holds)
  | missed => exact absurd held (idle worker.nextRound_bare.holds)
  | @began _ _ call fetched brought control step brings =>
      refine ⟨?_, call, fetched, Input.step_stepped step, ?_, rfl⟩
      · rw [Effect.dispatchedOf_append, Effect.dispatchedOf_notices]
        rfl
      · by_cases streaming : worker.kind = .serverStreaming
        · rw [@begin_streaming now { worker with input := fetched.input } brought streaming] at held
          cases held
        · rw [@begin_calling now { worker with input := fetched.input } brought streaming] at held
          cases held
          exact brings
  | fetching | dispatched | refused | stored => cases held

private theorem Turns.outgoing {control : Control} {effects : List Effect}
    (turns : worker.Turns life control next effects) : control.outgoing = next.outgoing := by
  cases turns with
  | delivered => exact worker.nextRound_bare.delivers.symm
  | interrupted | checked | passed | released | caught | asked | exhausted | broken | resumed
    | unreachable | rejected | outlasted | confessed => rfl

private theorem Pauses.outgoing {control : Control} (pauses : Pauses control next) :
    control.outgoing = next.outgoing := by
  cases pauses <;> rfl

private theorem Finishes.outgoing {control : Control} (finishes : Finishes control next) :
    control.outgoing = next.outgoing := by
  cases finishes <;> rfl

/-- Either a result goes out to all its links at once, or what is still going out is what was not put on
its link by now. -/
theorem Stepped.delivers (moved : worker.Stepped now life links bus stepped) :
    Effect.dispatchedOf stepped.effects = [] ∧
        worker.control.outgoing =
          stepped.effects.filterMap Effect.stored? ++ stepped.worker.control.outgoing ∨
      ∃ packet, Effect.dispatchedOf stepped.effects = [packet] ∧
        stepped.effects.filterMap Effect.stored? = [] ∧ worker.control.outgoing = [] ∧
        worker.output.route packet = .ok stepped.worker.control.outgoing := by
  have quiet : ∀ notices, (Effect.ofNotices notices).filterMap Effect.stored? = [] :=
    fun _ => Effect.stored_silent fun _ => Effect.silent_ofNotices
  cases moved with
  | turned turns =>
      refine Or.inl ⟨Effect.dispatchedOf_silent turns.silent, ?_⟩
      rw [Effect.stored_silent turns.silent]
      exact turns.outgoing
  | paused pauses =>
      refine Or.inl ⟨Effect.dispatchedOf_notices _, ?_⟩
      rw [quiet]
      exact pauses.outgoing
  | finished finishes =>
      refine Or.inl ⟨Effect.dispatchedOf_notices _, ?_⟩
      rw [quiet]
      exact finishes.outgoing
  | reported control =>
      refine Or.inl ⟨rfl, ?_⟩
      rw [control]
      exact worker.afterReport_bare.delivers.symm
  | fetching control =>
      refine Or.inl ⟨?_, ?_⟩
      · rw [List.append_nil, Effect.dispatchedOf_notices]
      · rw [control, List.append_nil, quiet]
        rfl
  | missed control =>
      refine Or.inl ⟨?_, ?_⟩
      · rw [List.append_nil, Effect.dispatchedOf_notices]
      · rw [control, List.append_nil, quiet]
        exact worker.nextRound_bare.delivers.symm
  | @began _ _ _ fetched packet control =>
      refine Or.inl ⟨?_, ?_⟩
      · rw [Effect.dispatchedOf_append, Effect.dispatchedOf_notices]
        rfl
      · have after :
            (begin { worker with input := fetched.input } now packet).1.control.outgoing = [] := by
          rcases @begin_control now { worker with input := fetched.input } packet with same | same <;>
            rw [same] <;> rfl
        rw [List.filterMap_append, quiet, after, control]
        rfl
  | dispatched offers routed =>
      refine Or.inr ⟨_, rfl, rfl, ?_, routed⟩
      cases offers with
      | answered control | read control => rw [control]; rfl
  | refused offers =>
      refine Or.inl ⟨rfl, ?_⟩
      cases offers with
      | answered control | read control => rw [control]; rfl
  | stored control =>
      refine Or.inl ⟨Effect.dispatchedOf_notices _, ?_⟩
      rw [control, List.filterMap_cons, quiet]
      rfl

/-- A worker that passes packets on: what it has handed out and what it works on was taken from its link,
and what it works on was taken last. -/
structure Relaying (taken ids : List Nat) (worker : Worker) : Prop where
  past : ∀ id ∈ ids, id ∈ taken
  held : ∀ packet, worker.control.held? = some packet →
    packet.id ∈ taken ∧ ∀ id ∈ ids, id < packet.id

variable {taken further ids : List Nat}

theorem Relaying.turn (relaying : worker.Relaying taken ids)
    (kept : next.held? = none ∨ next.held? = worker.control.held?) :
    Relaying taken ids { worker with control := next } := by
  refine ⟨relaying.past, ?_⟩
  intro packet held
  rcases kept with none | same
  · cases none.symm.trans held
  · exact relaying.held packet (same.symm.trans held)

theorem Relaying.mono (relaying : worker.Relaying taken ids) (grows : ∀ id ∈ taken, id ∈ further) :
    worker.Relaying further ids := by
  refine ⟨fun id listed => grows id (relaying.past id listed), ?_⟩
  intro packet held
  obtain ⟨known, above⟩ := relaying.held packet held
  exact ⟨grows _ known, above⟩

theorem Relaying.step (relaying : worker.Relaying taken ids) (single : worker.input = .passthrough link)
    (unary : worker.kind ≠ .serverStreaming) (suits : worker.control.Suits worker.kind)
    (slots : ∀ packet, (links.get link).slot = some packet → ∀ id ∈ taken, id < packet.id)
    (grows : ∀ id ∈ taken, id ∈ further)
    (takes : ∀ packet, (links.get link).slot = some packet → (stepped.links.get link).slot = none →
      packet.id ∈ further)
    (moved : worker.Stepped now life links bus stepped) :
    stepped.worker.Relaying further (ids ++ (Effect.dispatchedOf stepped.effects).map (·.id)) ∧
      ∀ packet ∈ Effect.dispatchedOf stepped.effects, ∀ id ∈ ids, id < packet.id := by
  -- what goes out is the answer to the call under way, under the same id
  have out : ∀ packet ∈ Effect.dispatchedOf stepped.effects,
      packet.id ∈ taken ∧ ∀ id ∈ ids, id < packet.id := by
    intro packet member
    rcases moved.dispatches with none | ⟨held, sent, stream, deliveries, notice, offers, _, same⟩
    · rw [none] at member
      cases member
    · subst same
      cases List.mem_singleton.mp member
      cases offers with
      | @answered request since response control =>
          have under : worker.control.held? = some request := by rw [control]; rfl
          exact relaying.held request under
      | read control =>
          rw [control] at suits
          exact absurd suits unary
  refine ⟨⟨?_, ?_⟩, fun packet member => (out packet member).2⟩
  · intro id listed
    rcases List.mem_append.mp listed with old | new
    · exact grows id (relaying.past id old)
    · obtain ⟨packet, member, same⟩ := List.mem_map.mp new
      exact same ▸ grows _ (out packet member).1
  · intro packet held
    obtain ⟨none, call, fetched, step, brings, same⟩ := moved.holds held
    obtain ⟨slot, empty⟩ := step.empties single brings
    rw [none, List.map_nil, List.append_nil]
    exact ⟨takes packet slot (same ▸ empty),
      fun id listed => slots packet slot id (relaying.past id listed)⟩

/-- The worker of a stage that has handed out results under these ids, after these packets were put on
links and under these ids others were taken from them. -/
structure Ordered (topology : Topology) (stage : StageId) (descriptor : StageDescriptor)
    (ids : List Nat) (put : List Delivery) (taken : LinkId → List Nat) (worker : Worker) : Prop where
  fits : worker.Fits topology descriptor
  suits : worker.control.Suits worker.kind
  numbered : worker.input.MakesIds → worker.Numbered ids
  relaying : ∀ link, worker.input = .passthrough link → worker.Relaying (taken link) ids
  increasing : ids.Pairwise (· < ·)
  leads : ∀ delivery ∈ worker.control.outgoing, ∃ key, topology.Leaves delivery.1 stage key
  queued : ∀ link key, topology.Leaves link stage key →
    (Output.idsOn link (put ++ worker.control.outgoing)).Sublist ids

variable {put more : List Delivery} {took after : LinkId → List Nat}

theorem Ordered.sent {key : String} (ordered : worker.Ordered topology stage descriptor ids put took)
    (leaves : topology.Leaves link stage key) : (Output.idsOn link put).Sublist ids := by
  refine List.Sublist.trans ?_ (ordered.queued link key leaves)
  rw [Output.idsOn_append]
  exact List.sublist_append_left _ _

theorem Ordered.turn (ordered : worker.Ordered topology stage descriptor ids put took)
    (suits : next.Suits worker.kind) (held : next.held? = none ∨ next.held? = worker.control.held?)
    (outgoing : next.outgoing = [] ∨ next.outgoing = worker.control.outgoing) :
    Ordered topology stage descriptor ids put took { worker with control := next } := by
  refine ⟨⟨ordered.fits.kind, ordered.fits.fed, ordered.fits.input, ordered.fits.output⟩, suits,
    fun makes => (ordered.numbered makes).turn held,
    fun link single => (ordered.relaying link single).turn held, ordered.increasing, ?_, ?_⟩
  · intro delivery member
    rcases outgoing with none | same
    · change delivery ∈ next.outgoing at member
      rw [none] at member
      cases member
    · exact ordered.leads delivery (same ▸ member)
  · intro link key leaves
    change (Output.idsOn link (put ++ next.outgoing)).Sublist ids
    rcases outgoing with none | same
    · rw [none, List.append_nil]
      exact ordered.sent leaves
    · exact same ▸ ordered.queued link key leaves

theorem Ordered.rest (ordered : worker.Ordered topology stage descriptor ids put took)
    (apart : ∀ link key, topology.Leaves link stage key →
      Output.idsOn link more = Output.idsOn link put)
    (grows : ∀ link, ∀ id ∈ took link, id ∈ after link) :
    worker.Ordered topology stage descriptor ids more after := by
  obtain ⟨fits, suits, numbered, relaying, increasing, leads, queued⟩ := ordered
  refine ⟨fits, suits, numbered, fun link single => (relaying link single).mono (grows link), increasing,
    leads, ?_⟩
  intro link key leaves
  rw [Output.idsOn_append, apart link key leaves, ← Output.idsOn_append]
  exact queued link key leaves

private theorem passthrough_stepped (single : worker.input = .passthrough link)
    (moved : worker.Stepped now life links bus stepped) : stepped.worker.input = .passthrough link := by
  have fits : worker.input.Fits [{ field := "", link := link }] := single ▸ .passthrough
  have still := moved.keeps.2.2 _ fits
  generalize stepped.worker.input = input at still
  cases still with
  | passthrough => rfl
  | merge several => exact absurd several (Nat.lt_irrefl 1)

private theorem Ordered.counts (ordered : worker.Ordered topology stage descriptor ids put took)
    (slots : ∀ link packet, (links.get link).slot = some packet → ∀ id ∈ took link, id < packet.id)
    (grows : ∀ link, ∀ id ∈ took link, id ∈ after link)
    (takes : ∀ link packet, (links.get link).slot = some packet →
      (stepped.links.get link).slot = none → packet.id ∈ after link)
    (moved : worker.Stepped now life links bus stepped) :
    (stepped.worker.input.MakesIds →
        stepped.worker.Numbered (ids ++ (Effect.dispatchedOf stepped.effects).map (·.id))) ∧
      (∀ link, stepped.worker.input = .passthrough link → stepped.worker.Relaying (after link)
        (ids ++ (Effect.dispatchedOf stepped.effects).map (·.id))) ∧
      ∀ packet ∈ Effect.dispatchedOf stepped.effects, ∀ id ∈ ids, id < packet.id := by
  have numbering : worker.input.MakesIds → _ := fun makes =>
    (ordered.numbered makes).step ordered.suits makes moved
  cases input : worker.input with
  | source | merge =>
      rw [input] at numbering
      obtain ⟨makes, numbered, above⟩ := numbering trivial
      refine ⟨fun _ => numbered, ?_, above⟩
      intro link single
      rw [single] at makes
      exact absurd makes id
  | passthrough link =>
      obtain ⟨relaying, above⟩ := (ordered.relaying link input).step input (ordered.fits.unary input)
        ordered.suits (slots link) (grows link) (takes link) moved
      have single := passthrough_stepped input moved
      refine ⟨?_, ?_, above⟩
      · intro makes
        rw [single] at makes
        exact absurd makes id
      · intro other same
        cases single.symm.trans same
        exact relaying

/-- A step keeps the order of the worker's results and of what is put on each of its links. -/
theorem Ordered.step (ordered : worker.Ordered topology stage descriptor ids put took)
    (found : topology.stages[stage]? = some descriptor)
    (slots : ∀ link packet, (links.get link).slot = some packet → ∀ id ∈ took link, id < packet.id)
    (grows : ∀ link, ∀ id ∈ took link, id ∈ after link)
    (takes : ∀ link packet, (links.get link).slot = some packet →
      (stepped.links.get link).slot = none → packet.id ∈ after link)
    (moved : worker.Stepped now life links bus stepped) :
    stepped.worker.Ordered topology stage descriptor
      (ids ++ (Effect.dispatchedOf stepped.effects).map (·.id))
      (put ++ stepped.effects.filterMap Effect.stored?) after := by
  obtain ⟨numbered, relaying, above⟩ := ordered.counts slots grows takes moved
  refine ⟨ordered.fits.step moved, moved.suits ordered.suits, numbered, relaying,
    moved.increasing ordered.increasing above, ?_, ?_⟩
  · intro delivery member
    rcases moved.delivers with ⟨_, outgoing⟩ | ⟨packet, _, _, _, routed⟩
    · apply ordered.leads delivery
      rw [outgoing]
      exact List.mem_append_right _ member
    · obtain ⟨binding, bound, sends⟩ := Output.mem_route ordered.fits.output routed member
      exact ⟨binding.field, sends.link ▸ Topology.leaves_of_output found bound⟩
  · intro link key leaves
    have queued := ordered.queued link key leaves
    rcases moved.delivers with ⟨none, outgoing⟩ | ⟨packet, one, nothing, idle, routed⟩
    · rw [none, List.map_nil, List.append_nil, List.append_assoc, ← outgoing]
      exact queued
    · rw [idle, List.append_nil] at queued
      rw [one, nothing, List.append_nil, Output.idsOn_append]
      have distinct : (stepped.worker.control.outgoing.map (·.1)).Nodup := by
        rw [Output.links_route ordered.fits.output routed]
        exact Topology.nodup_outputs topology descriptor.name
      refine queued.append (Output.idsOn_route distinct ?_)
      intro delivery member
      obtain ⟨binding, _, sends⟩ := Output.mem_route ordered.fits.output routed member
      exact sends.id

end Worker
end Sluice
