import Sluice.Proofs.Engine.History
import Sluice.Proofs.Engine.Stagewise
import Sluice.Proofs.Worker.Fitting

set_option autoImplicit false

/-! Where packets come from. Over any run each packet on a link that traces back to a generating stage is
the image of the emission of that stage under the same id, whatever was overwritten, discarded, paused or
lost on the way. -/

namespace Sluice

namespace Engine

/-- If the link traces back to a generating stage, the packet is the image of the emission under its id. -/
def Carried (topology : Topology) (functions : StageId → Message → Message)
    (past : List Occurrence) (link : LinkId) (packet : Packet) : Prop :=
  ∀ generator image, topology.Traces functions link generator image →
    ∃ emission ∈ emissionsOf generator past, emission.id = packet.id ∧
      image emission.message = .ok packet.message

/-- Nobody but workers puts packets on links, and the methods of relaying stages answer by functions of
their requests, when they answer. -/
def Functional (topology : Topology) (functions : StageId → Message → Message) (engine : Engine) :
    Action → Prop
  | .put .. => False
  | .answer stage (.response message) =>
      ∀ incoming post worker request since, topology.Relays stage incoming →
        engine.posts[stage]? = some post → post.slot = .spawned worker →
          worker.control = .calling request since → message = functions stage request.message
  | _ => True

end Engine

namespace Worker

variable {topology : Topology} {stage : StageId} {descriptor : StageDescriptor} {link : LinkId}
  {now : Duration} {life : Lifecycle} {links : LinkStore} {bus : ReportBus} {worker : Worker}
  {stepped : WorkerStep}

structure Tracked (topology : Topology) (functions : StageId → Message → Message)
    (past : List Engine.Occurrence) (stage : StageId) (descriptor : StageDescriptor)
    (worker : Worker) : Prop where
  fits : worker.Fits topology descriptor
  suits : worker.control.Suits worker.kind
  carries : worker.Carries (Engine.Carried topology functions past) (functions stage)
  numbered : topology.Generates stage →
    worker.Numbered ((Engine.emissionsOf stage past).map (·.id))

variable {functions : StageId → Message → Message} {past : List Engine.Occurrence}

theorem Tracked.turn {control : Control}
    (tracked : worker.Tracked topology functions past stage descriptor)
    (suits : control.Suits worker.kind) (eases : worker.Eases (functions stage) control) :
    Tracked topology functions past stage descriptor { worker with control := control } := by
  refine ⟨?_, suits, tracked.carries.ease eases, fun generates => ?_⟩
  · exact ⟨tracked.fits.kind, tracked.fits.fed, tracked.fits.input, tracked.fits.output⟩
  · exact (tracked.numbered generates).turn eases.holds

theorem Carries.routes (unique : (topology.stages.map (·.name)).Nodup)
    (found : topology.stages[stage]? = some descriptor) (fits : worker.Fits topology descriptor)
    (suits : worker.control.Suits worker.kind)
    (carries : worker.Carries (Engine.Carried topology functions past) (functions stage))
    {held : Worker} {packet : Packet} {stream : Option Reading} {deliveries : List Delivery}
    (offers : worker.Offers now held packet stream) (emitted : packet ∈ Engine.emissionsOf stage past)
    (routed : worker.output.route packet = .ok deliveries) :
    ∀ delivery ∈ deliveries, Engine.Carried topology functions past delivery.1 delivery.2 := by
  intro delivery member generator image traces
  obtain ⟨binding, bound, sends⟩ := Output.mem_route fits.output routed member
  have leaves := Topology.leaves_of_output found bound
  rw [sends.link] at leaves
  -- the link leaves this stage alone, so the trace ends here or goes on through it
  cases traces with
  | direct also =>
      obtain ⟨sameStage, sameKey⟩ := leaves.unique unique also
      subst sameStage
      subst sameKey
      exact ⟨packet, emitted, sends.id.symm, sends.share⟩
  | @through _ incoming _ _ _ image also relays earlier =>
      obtain ⟨sameStage, sameKey⟩ := leaves.unique unique also
      subst sameStage
      subst sameKey
      have single := fits.onlyInput found relays.onlyInput
      cases offers with
      | @answered request since response control =>
          have under : worker.control.held? = some request := by rw [control]; rfl
          obtain ⟨emission, listed, level, imaged⟩ :=
            carries.holds incoming single request under generator image earlier
          have answer := carries.answers incoming single request since response control
          refine ⟨emission, listed, level.trans sends.id.symm, ?_⟩
          calc (image emission.message).bind
                (fun received => shareOf binding.field (functions stage received))
              = shareOf binding.field (functions stage request.message) := by rw [imaged]; rfl
            _ = shareOf binding.field response := by rw [answer]
            _ = .ok delivery.2.message := sends.share
      | read control =>
          rw [control] at suits
          exact absurd suits (fits.unary single)

end Worker

namespace Engine

variable {topology : Topology} {functions : StageId → Message → Message} {engine next : Engine}
  {past : List Occurrence} {occurrence : Occurrence} {stage : StageId} {link : LinkId}
  {packet : Packet} {action : Action} {effects : List Effect}

theorem Carried.append (carried : Carried topology functions past link packet) :
    Carried topology functions (past ++ [occurrence]) link packet := by
  intro generator image traces
  obtain ⟨emission, listed, known⟩ := carried generator image traces
  rw [emissionsOf_append]
  exact ⟨emission, List.mem_append_left _ listed, known⟩

structure Traced (topology : Topology) (functions : StageId → Message → Message) (engine : Engine)
    (past : List Occurrence) : Prop where
  posts : ∀ (stage : StageId) (post : Post), engine.posts[stage]? = some post →
    ∃ descriptor worker, topology.stages[stage]? = some descriptor ∧
      post.slot = .spawned worker ∧ worker.Tracked topology functions past stage descriptor
  slots : ∀ link packet, (engine.links.get link).slot = some packet →
    Carried topology functions past link packet
  stored : ∀ link packet, (link, packet) ∈ storedOf past →
    Carried topology functions past link packet
  increasing : ∀ stage, topology.Generates stage →
    ((emissionsOf stage past).map (·.id)).Pairwise (· < ·)
  composed : ∀ (stage : StageId) (descriptor : StageDescriptor),
    topology.stages[stage]? = some descriptor →
      2 ≤ (topology.bindingsOf descriptor.name).inputs.length →
        ∀ request ∈ callsOf stage past,
          Merge.Composed (Carried topology functions past)
            (MergeSession.layoutOf (topology.bindingsOf descriptor.name).inputs) request

theorem Functional.unsupplied (allows : engine.Functional topology functions action) :
    ¬ action.Supplies := by
  intro supplies
  cases action with
  | put => exact allows
  | worker | monitor | join | request | answer | feed | endStream | take | publish | closeBus
    | stopMonitor | elapse => exact supplies

private theorem tracked_elsewhere {descriptor : StageDescriptor} {worker : Worker}
    (rests : ∀ cancelFirst, action ≠ .worker stage cancelFirst)
    (tracked : worker.Tracked topology functions past stage descriptor) :
    worker.Tracked topology functions (past ++ [{ action := action, effects := effects }]) stage
      descriptor := by
  refine ⟨tracked.fits, tracked.suits, tracked.carries.mono fun _ _ carried => carried.append, ?_⟩
  rw [emissionsOf_other rests]
  exact tracked.numbered

section Stepped

variable {cancelFirst : Bool} {life : Lifecycle} {worker : Worker} {stepped : WorkerStep}
  {descriptor : StageDescriptor} {notices : List Notice}

/-- The history after a step of a worker, with what was noted about its failure. -/
def afterStep (past : List Occurrence) (stage : StageId) (cancelFirst : Bool) (stepped : WorkerStep)
    (notices : List Notice) : List Occurrence :=
  past ++ [{ action := .worker stage cancelFirst
             effects := stepped.effects ++ Effect.ofNotices notices }]

private theorem tracked_stepped (unique : (topology.stages.map (·.name)).Nodup)
    (slots : ∀ link packet, (engine.links.get link).slot = some packet →
      Carried topology functions past link packet)
    (listed : topology.stages[stage]? = some descriptor)
    (tracked : worker.Tracked topology functions past stage descriptor)
    (step : worker.Stepped engine.clock life engine.links (engine.busAt sharedBus) stepped) :
    stepped.worker.Tracked topology functions (afterStep past stage cancelFirst stepped notices) stage
      descriptor := by
  have carries : worker.Carries
      (Carried topology functions (afterStep past stage cancelFirst stepped notices))
      (functions stage) :=
    tracked.carries.mono fun link packet carried => carried.append
  refine ⟨tracked.fits.step step, step.suits tracked.suits, ?_, ?_⟩
  · refine carries.step ?_ step ?_
    · intro link packet slot
      exact (slots link packet slot).append
    · intro held packet stream deliveries offers out routed
      have emitted : packet ∈ emissionsOf stage (afterStep past stage cancelFirst stepped notices) := by
        unfold afterStep
        rw [emissionsOf_noted]
        exact List.mem_append_right _ out
      exact Worker.Carries.routes unique listed tracked.fits tracked.suits carries offers emitted routed
  · intro generates
    have makes := tracked.fits.makesIds listed generates
    have numbered := ((tracked.numbered generates).step tracked.suits makes step).2.1
    unfold afterStep
    rw [emissionsOf_noted, List.map_append]
    exact numbered

private theorem increasing_stepped (listed : topology.stages[stage]? = some descriptor)
    (tracked : worker.Tracked topology functions past stage descriptor)
    (step : worker.Stepped engine.clock life engine.links (engine.busAt sharedBus) stepped)
    (generates : topology.Generates stage)
    (increasing : ((emissionsOf stage past).map (·.id)).Pairwise (· < ·)) :
    ((emissionsOf stage (afterStep past stage cancelFirst stepped notices)).map (·.id)).Pairwise
      (· < ·) := by
  have makes := tracked.fits.makesIds listed generates
  have above := ((tracked.numbered generates).step tracked.suits makes step).2.2
  unfold afterStep
  rw [emissionsOf_noted, List.map_append]
  exact step.increasing increasing above

end Stepped

private theorem Traced.acting {cancelFirst : Bool} (traced : engine.Traced topology functions past)
    (acted : engine.Acted (.worker stage cancelFirst) next effects) :
    ∃ (descriptor : StageDescriptor) (worker : Worker) (stepped : WorkerStep) (life : Lifecycle)
        (notices : List Notice), topology.stages[stage]? = some descriptor ∧
      worker.Tracked topology functions past stage descriptor ∧
      worker.Stepped engine.clock life engine.links (engine.busAt sharedBus) stepped ∧
      effects = stepped.effects ++ Effect.ofNotices notices ∧
      ∃ control, next.slots =
          engine.slots.set stage (.spawned { stepped.worker with control := control }) ∧
        (control = stepped.worker.control ∨ control = .crashed) := by
  obtain ⟨post, worker, stepped, _, notices, found, runs, step, _, did, slots⟩ := acted.steps
  obtain ⟨descriptor, held, listed, spawned, tracked⟩ := traced.posts stage post found
  cases runs.symm.trans spawned
  refine ⟨descriptor, worker, stepped, _, notices, listed, tracked, step, did, ?_⟩
  rcases slots with runsOn | ⟨_, torn⟩
  · exact ⟨_, runsOn, Or.inl rfl⟩
  · exact ⟨_, torn, Or.inr rfl⟩

private theorem told_eases {now : Duration} {control after : Control} {worker : Worker}
    {function : Message → Message} (under : worker.control = control)
    (told : Told now stage action control after) (suits : worker.control.Suits worker.kind)
    (answers : ∀ link, worker.input = .passthrough link → ∀ request since message,
      worker.control = .calling request since → action = .answer stage (.response message) →
        message = function request.message) :
    after.Suits worker.kind ∧ worker.Eases function after := by
  obtain ⟨joins, held, outgoing, suited⟩ := told.keeps
  refine ⟨suited _ (under ▸ suits), Or.inl joins, under ▸ held, ?_, ?_⟩
  · intro link single request since message same
    subst same
    cases told with
    | answered => exact answers link single request since message under rfl
  · intro delivery member
    rcases outgoing with none | same
    · rw [none] at member
      cases member
    · rw [under, ← same]
      exact member

private theorem Traced.tracks {moved : Post} (unique : (topology.stages.map (·.name)).Nodup)
    (traced : engine.Traced topology functions past)
    (allows : engine.Functional topology functions action)
    (acted : engine.Acted action next effects) (found : next.posts[stage]? = some moved) :
    ∃ descriptor worker, topology.stages[stage]? = some descriptor ∧
      moved.slot = .spawned worker ∧ worker.Tracked topology functions
        (past ++ [{ action := action, effects := effects }]) stage descriptor := by
  by_cases acts : ∃ cancelFirst, action = .worker stage cancelFirst
  · obtain ⟨cancelFirst, same⟩ := acts
    subst same
    obtain ⟨descriptor, worker, stepped, life, notices, listed, tracked, step, did, control, slots,
      either⟩ := traced.acting acted
    subst did
    have still := @tracked_stepped _ _ _ _ _ cancelFirst _ _ _ _ notices unique traced.slots listed
      tracked step
    refine ⟨descriptor, _, listed, slot_of_set found slots, ?_⟩
    rcases either with same | torn
    · rw [same]
      exact still
    · rw [torn]
      exact still.turn trivial (Worker.eases_of_bare ⟨rfl, rfl, rfl⟩)
  · have rests : ∀ cancelFirst, action ≠ .worker stage cancelFirst := fun _ same => acts ⟨_, same⟩
    obtain ⟨post, original, befalls⟩ := acted.befalls found
    obtain ⟨descriptor, worker, listed, spawned, tracked⟩ := traced.posts stage post original
    cases befalls with
    | rested => exact ⟨descriptor, worker, listed, spawned, tracked_elsewhere rests tracked⟩
    | worked | failed => exact absurd rfl (rests _)
    | @told _ held control runs told =>
        cases runs.symm.trans spawned
        have eases : control.Suits worker.kind ∧ worker.Eases (functions stage) control := by
          refine told_eases rfl told tracked.suits ?_
          intro link single request since message waits answer
          subst answer
          exact allows link post worker request since (tracked.fits.relaying listed single) original runs
            waits
        exact ⟨descriptor, _, listed, rfl,
          tracked_elsewhere rests (tracked.turn eases.1 eases.2)⟩

private theorem Traced.puts (traced : engine.Traced topology functions past)
    (allows : engine.Functional topology functions action)
    (acted : engine.Acted action next effects) (stores : Effect.stored link packet ∈ effects) :
    Carried topology functions past link packet := by
  obtain ⟨stage, _, post, worker, _, found, runs, outgoing⟩ := acted.stores allows.unsupplied stores
  obtain ⟨descriptor, held, _, spawned, tracked⟩ := traced.posts stage post found
  cases runs.symm.trans spawned
  exact tracked.carries.delivers (link, packet) outgoing

/-- Whatever happens, the generating stages emit in order, and packets are images of emissions. -/
theorem Traced.acted (unique : (topology.stages.map (·.name)).Nodup)
    (traced : engine.Traced topology functions past)
    (allows : engine.Functional topology functions action)
    (acted : engine.Acted action next effects) :
    next.Traced topology functions (past ++ [{ action := action, effects := effects }]) := by
  constructor
  · exact fun stage post found => traced.tracks unique allows acted found
  · intro link packet slot
    rcases acted.settles slot with old | new
    · exact (traced.slots link packet old).append
    · exact (traced.puts allows acted new).append
  · intro link packet stored
    rcases stored_append stored with old | new
    · exact (traced.stored link packet old).append
    · exact (traced.puts allows acted new).append
  · intro stage generates
    by_cases acts : ∃ cancelFirst, action = .worker stage cancelFirst
    · obtain ⟨cancelFirst, same⟩ := acts
      subst same
      obtain ⟨descriptor, worker, stepped, life, notices, listed, tracked, step, did, _⟩ :=
        traced.acting acted
      subst did
      exact increasing_stepped listed tracked step generates (traced.increasing stage generates)
    · rw [emissionsOf_other fun _ same => acts ⟨_, same⟩]
      exact traced.increasing stage generates
  · intro stage descriptor listed several request called
    rcases called_append called with old | ⟨⟨cancelFirst, acts⟩, new⟩
    · exact (traced.composed stage descriptor listed several request old).mono
        fun link packet carried => carried.append
    · cases acts
      obtain ⟨known, worker, stepped, life, notices, atStage, tracked, step, did, _⟩ :=
        traced.acting acted
      cases listed.symm.trans atStage
      subst did
      have member : Effect.called request ∈ stepped.effects := by
        rcases List.mem_append.mp new with own | noted
        · exact own
        · exact absurd (Effect.silent_ofNotices noted) id
      exact (tracked.carries.composes tracked.fits.input several step member).mono
        fun link packet carried => carried.append

theorem Traced.joined {joiner : Option Joiner} (traced : engine.Traced topology functions past) :
    Traced topology functions { engine with joiner := joiner } past :=
  ⟨traced.posts, traced.slots, traced.stored, traced.increasing, traced.composed⟩

theorem Traced.reached {first : Engine} (unique : (topology.stages.map (·.name)).Nodup)
    (traced : first.Traced topology functions [])
    (reached : Reaches (Functional topology functions) first engine past) :
    engine.Traced topology functions past := by
  induction reached with
  | started => exact traced
  | acted before allows acts ih => exact ih.acted unique allows (act_acted acts)
  | joined before ih => exact ih.joined

end Engine
end Sluice
