import Sluice.Proofs.Engine.Chronicle
import Sluice.Proofs.Output.Delivery
import Sluice.Proofs.ReportBus.Unread
import Sluice.Proofs.Worker.Ordering
import Sluice.Proofs.Worker.Rounds

set_option autoImplicit false

/-! What the moves of a stage's worker leave behind: on the links the packets that its output makes of its
results, and on the shared bus the reports that it makes. -/

namespace Sluice

theorem Told.outgoing {now : Duration} {stage : StageId} {action : Action} {control next : Control}
    (told : Told now stage action control next) : next.outgoing = control.outgoing := by
  cases told <;> rfl

/-- A splitter refuses a packet whose message does not have a record where one goes to a link. -/
def Output.Refuses (output : Output) (packet : Packet) : Prop :=
  ∃ bindings, output = .splitter bindings ∧ ∃ binding ∈ bindings, packet.message.Unstructured binding.field

theorem Output.takes_false_iff {output : Output} {packet : Packet} :
    output.takes packet = false ↔ output.Refuses packet := by
  constructor
  · intro refused
    unfold takes at refused
    cases output with
    | sink | passthrough | duplicate => cases refused
    | splitter bindings =>
        split at refused
        · cases refused
        · rename_i cause unrouted
          obtain ⟨binding, first, _⟩ := splitFields_error_iff.mp unrouted
          exact ⟨bindings, rfl, binding, first.mem, first.unstructured⟩
  · rintro ⟨bindings, same, offends⟩
    subst same
    obtain ⟨binding, first⟩ := firstUnstructured_exists.mpr offends
    exact takes_error (splitFields_error_iff.mpr ⟨binding, first, rfl⟩)

namespace Worker

/-- What the worker has put on links, and what it has yet to put there, is what its output makes of the
results that went out. -/
def Forwards (emitted : List Packet) (stored : List Delivery) (worker : Worker) : Prop :=
  ∃ shares, List.Forall₂ (fun packet deliveries => Output.Shares packet worker.output deliveries)
    emitted shares ∧ stored ++ worker.control.outgoing = shares.flatten

variable {now : Duration} {cancelFirst : Bool} {life : Lifecycle} {links : LinkStore}
  {bus : ReportBus} {worker : Worker} {stepped : WorkerStep} {emitted : List Packet}
  {stored : List Delivery}

theorem Forwards.turn {control : Control} (forwards : worker.Forwards emitted stored)
    (outgoing : control.outgoing = worker.control.outgoing) :
    Worker.Forwards emitted stored { worker with control := control } := by
  obtain ⟨shares, shared, level⟩ := forwards
  exact ⟨shares, shared, outgoing ▸ level⟩

theorem Stepped.storing (moved : worker.Stepped now life links bus stepped) :
    stepped.effects.filterMap Effect.stored? = [] ∨
      ∃ link packet, stepped.effects.filterMap Effect.stored? = [(link, packet)] ∧
        stepped.links = (links.put link packet).1 := by
  have silent : ∀ {notices}, (Effect.ofNotices notices).filterMap Effect.stored? = [] :=
    fun {_} => Effect.stored_silent fun _ => Effect.silent_ofNotices
  cases moved with
  | turned turns => exact Or.inl (Effect.stored_silent turns.silent)
  | paused | finished => exact Or.inl silent
  | reported | dispatched | refused => exact Or.inl rfl
  | fetching | missed | began =>
      apply Or.inl
      rw [List.filterMap_append, silent]
      rfl
  | @stored link packet =>
      refine Or.inr ⟨link, packet, ?_, rfl⟩
      rw [List.filterMap_cons, silent]
      rfl

theorem Forwards.step (forwards : worker.Forwards emitted stored)
    (moved : worker.Stepped now life links bus stepped) :
    stepped.worker.Forwards (emitted ++ Effect.dispatchedOf stepped.effects)
      (stored ++ stepped.effects.filterMap Effect.stored?) := by
  obtain ⟨shares, shared, level⟩ := forwards
  unfold Forwards
  rw [moved.kin.output]
  rcases moved.delivers with ⟨none, goes⟩ | ⟨packet, one, none, idle, routed⟩
  · refine ⟨shares, ?_, ?_⟩
    · rw [none, List.append_nil]
      exact shared
    · rw [List.append_assoc, ← goes, level]
  · refine ⟨shares ++ [stepped.worker.control.outgoing], ?_, ?_⟩
    · rw [one]
      exact List.rel_append shared (.cons (Output.shares_route routed) .nil)
    · rw [idle, List.append_nil] at level
      rw [none, List.append_nil, level, List.flatten_append, List.flatten_singleton]

theorem blocked_forwarded (blocked : worker.step now cancelFirst life links bus = none) :
    worker.control.outgoing = [] := by
  cases control : worker.control with
  | delivering rest stream =>
      cases rest with
      | nil => rfl
      | cons =>
          simp only [Worker.step, control] at blocked
          cases blocked
  | checking | parking | gated | passing | fetching | calling | opening | answered | reading | failed
    | withdrawing | reporting | lingering | failing | condemned | stopping | ended | crashed => rfl

end Worker

namespace Engine

def storedBy (stage : StageId) (past : List Occurrence) : List Delivery :=
  past.flatMap fun occurrence => (occurrence.of stage).filterMap Effect.stored?

/-- In this move a packet goes to one link at most, where it now lies, and nothing else has come to lie on a
link. -/
structure Move.Fills (stage : StageId) (move : Move) : Prop where
  single : ((move.of stage).filterMap Effect.stored?).length ≤ 1
  filled : ∀ link packet, .stored link packet ∈ move.of stage → link < move.before.links.next →
    Link.Refilled packet (move.before.links.get link) (move.after.links.get link)
  others : ∀ link packet, (move.after.links.get link).slot = some packet →
    (move.before.links.get link).slot = some packet ∨ .stored link packet ∈ move.of stage

/-- In this move the shared bus gains one report, under this name, or it stays as it is. -/
structure Move.Reports (stage : StageId) (name : String) (move : Move) : Prop where
  single : Effect.reportsIn (move.of stage) ≤ 1
  named : ∀ reporter, .reported reporter ∈ move.of stage → reporter = name
  gains : Effect.reportsIn (move.of stage) = 1 →
    (move.before.busAt sharedBus).Gains name (move.after.busAt sharedBus)
  silent : Effect.reportsIn (move.of stage) = 0 →
    move.after.busAt sharedBus = move.before.busAt sharedBus

variable {first last : Engine} {moves : List Move} {move : Move} {stage : StageId} {post moved : Post}
  {worker : Worker} {name : String} {emitted : List Packet} {stored : List Delivery}

theorem storedBy_append {past : List Occurrence} {occurrence : Occurrence} :
    storedBy stage (past ++ [occurrence]) =
      storedBy stage past ++ (occurrence.of stage).filterMap Effect.stored? := by
  unfold storedBy
  rw [List.flatMap_append, List.flatMap_singleton]

private theorem Fares.forwards
    (forwards : worker.Forwards (emissionsOf stage (recordOf moves)) (storedBy stage (recordOf moves)))
    (runs : post.slot = .spawned worker) (fares : Fares stage move post moved) :
    ∃ after, moved.slot = .spawned after ∧ after.Forwards (emissionsOf stage (recordOf (moves ++ [move])))
      (storedBy stage (recordOf (moves ++ [move]))) := by
  rw [recordOf_append, emissionsOf_append, storedBy_append]
  cases fares with
  | rested rests _ kept =>
      refine ⟨worker, kept.trans runs, ?_⟩
      rw [(Move.of_unconcerned rests).1]
      simpa [Effect.dispatchedOf] using forwards
  | told spawned told =>
      cases runs.symm.trans spawned
      refine ⟨_, rfl, ?_⟩
      rw [(Move.of_others fun cancelFirst => told.not_worker).1]
      simpa [Effect.dispatchedOf] using forwards.turn told.outgoing
  | worked acts spawned step _ _ goes runsOn _ did =>
      cases runs.symm.trans spawned
      have stepping := Worker.step_stepped step
      have forwardsOn := forwards.step stepping
      refine ⟨_, goes, ?_⟩
      rw [(Move.of_own acts).1, did, Effect.dispatchedOf_append, Effect.dispatchedOf_notices,
        List.append_nil, List.filterMap_append, Effect.stored_silent fun _ => Effect.silent_ofNotices,
        List.append_nil]
      apply forwardsOn.turn
      rcases runsOn with still | ⟨_, crashed, fails⟩
      · rw [still]
      -- a worker that is torn down had nothing left to put on links
      · obtain ⟨_, _, same⟩ := failing_of_isFailure stepping fails
        rw [crashed, same]
        rfl

theorem Runs.forwards {kind : StageKind} {unavailable : Status → Bool} {input : Input} {output : Output}
    (found : first.posts[stage]? = some post)
    (fresh : post.slot = .spawned (.create name kind unavailable input output))
    (ran : Runs first last moves) :
    ∃ moved after, last.posts[stage]? = some moved ∧ moved.slot = .spawned after ∧
      (Worker.create name kind unavailable input output).Kin after ∧
      after.Forwards (emissionsOf stage (recordOf moves)) (storedBy stage (recordOf moves)) :=
  ran.carries
    (fun _ after moves => after.Forwards (emissionsOf stage (recordOf moves))
      (storedBy stage (recordOf moves))) found fresh ⟨[], .nil, rfl⟩
      fun _ _ _ spawned _ forwards fares => fares.forwards forwards spawned

/-- A step of a stage's worker, with what was noted about its failure. -/
private theorem Fares.own (own : move.isStepOf stage = true) (runs : post.slot = .spawned worker)
    (fares : Fares stage move post moved) :
    ∃ life stepped notices,
      worker.Stepped move.before.clock life move.before.links (move.before.busAt sharedBus) stepped ∧
      move.of stage = stepped.effects ++ Effect.ofNotices notices ∧ move.after.links = stepped.links ∧
      move.after.buses = move.before.buses.set sharedBus stepped.bus := by
  cases fares with
  | rested rests => exact absurd own (ne_true_of_eq_false (Move.of_unconcerned rests).2)
  | told _ told =>
      exact absurd own (ne_true_of_eq_false (Move.of_others fun cancelFirst => told.not_worker).2)
  | worked acts spawned step _ _ _ _ links did buses =>
      cases runs.symm.trans spawned
      exact ⟨_, _, _, Worker.step_stepped step, (Move.of_own acts).1.trans did, links, buses⟩

private theorem Fares.fills (own : move.isStepOf stage = true) (runs : post.slot = .spawned worker)
    (fares : Fares stage move post moved) : move.Fills stage := by
  obtain ⟨_, stepped, _, step, did, links, _⟩ := fares.own own runs
  have effects : (move.of stage).filterMap Effect.stored? = stepped.effects.filterMap Effect.stored? := by
    rw [did, List.filterMap_append, Effect.stored_silent fun _ => Effect.silent_ofNotices, List.append_nil]
  constructor
  · rw [effects]
    rcases step.storing with none | ⟨_, _, one, _⟩
    · exact none ▸ Nat.zero_le 1
    · exact one ▸ Nat.le_refl 1
  · intro link packet stores known
    have listed := effects ▸ Effect.mem_stored.mpr stores
    rcases step.storing with none | ⟨_, _, one, put⟩
    · rw [none] at listed
      cases listed
    · rw [one] at listed
      cases List.mem_singleton.mp listed
      have here : ((move.before.links.put link packet).1).get link =
          ((move.before.links.get link).put packet).1 := LinkStore.get_set_same known
      rw [links, put, here]
      exact ⟨rfl, rfl, rfl⟩
  · intro link packet slot
    rw [links] at slot
    rcases step.settles slot with before | stores
    · exact Or.inl before
    · exact Or.inr (Effect.mem_stored.mp (effects ▸ Effect.mem_stored.mpr stores))

/-- What is written to the shared bus is found there, unless there is none, and then nobody hears. -/
private theorem busAt_written {held : ReportBus}
    (written : move.after.buses = move.before.buses.set sharedBus held) :
    move.after.busAt sharedBus = held ∨
      move.after.busAt sharedBus = move.before.busAt sharedBus ∧
        (move.before.busAt sharedBus).cursors = [] := by
  unfold busAt
  rw [written]
  cases move.before.buses with
  | nil => exact Or.inr ⟨rfl, rfl⟩
  | cons => exact Or.inl rfl

private theorem Fares.reports (own : move.isStepOf stage = true) (runs : post.slot = .spawned worker)
    (fares : Fares stage move post moved) : move.Reports stage worker.stage := by
  obtain ⟨_, stepped, _, step, did, _, buses⟩ := fares.own own runs
  have effects : Effect.reportsIn (move.of stage) = Effect.reportsIn stepped.effects := by
    rw [did, Effect.reportsIn_noted]
  have named : ∀ reporter, .reported reporter ∈ move.of stage → reporter = worker.stage := by
    intro reporter reports
    rw [did] at reports
    rcases List.mem_append.mp reports with here | noted
    · exact (step.reporter here).2
    · obtain ⟨notice, _, impossible⟩ := List.mem_map.mp noted
      cases impossible
  rcases step.reportsIn with ⟨_, none, same⟩ | ⟨_, same⟩
  · refine ⟨?_, named, ?_, ?_⟩
    · omega
    · omega
    · intro _
      rcases busAt_written buses with found | ⟨kept, _⟩
      · exact found.trans same
      · exact kept
  · have one : Effect.reportsIn stepped.effects = 1 := by
      rw [same]
      rfl
    refine ⟨?_, named, ?_, ?_⟩
    · omega
    · intro _
      rcases busAt_written buses with found | ⟨kept, unheard⟩
      · rw [found, same]
        exact ReportBus.gains_publish
      · exact ⟨fun _ => kept, absurd unheard, absurd unheard, absurd unheard, congrArg _ kept⟩
    · omega

theorem Runs.leaves {kind : StageKind} {unavailable : Status → Bool} {input : Input} {output : Output}
    (found : first.posts[stage]? = some post)
    (fresh : post.slot = .spawned (.create name kind unavailable input output))
    (ran : Runs first last moves) :
    ∀ move ∈ moves, move.isStepOf stage = true → move.Fills stage ∧ move.Reports stage name := by
  intro move member own
  obtain ⟨earlier, later, whole⟩ := List.append_of_mem member
  subst whole
  obtain ⟨head, acts, _⟩ := ran.around
  obtain ⟨present, held, atStage, spawned, kin, _⟩ := head.forwards found fresh
  obtain ⟨moved, there, fares⟩ := act_fares acts atStage
  have named : held.stage = name := kin.stage
  exact ⟨fares.fills own spawned, named ▸ fares.reports own spawned⟩

end Engine
end Sluice
