import Sluice.Proofs.Engine.History
import Sluice.Proofs.Worker.Carrying

set_option autoImplicit false

/-! Failures that end a stage. A worker meets one when a call, an opening or an item of its stream fails
although the service is there, or when its output does not take a result; it hands it over, finishes its
stage and ends, and on the way does nothing else. -/

namespace Sluice

def Action.rejection (stage : StageId) : Action → Option Status
  | .answer acting (.failure status) => if acting = stage then some status else none
  | _ => none

inductive Fatal (name : String) (unavailable : Status → Bool) : FatalFailure → Prop
  | remoteCall {status : Status} (available : unavailable status = false) :
      Fatal name unavailable { stage := name, error := .remoteCall name status }
  | dispatch {cause : MessageError} :
      Fatal name unavailable { stage := name, error := .dispatch name cause }

theorem Lifecycle.Asked.finished {life next : Lifecycle} (asked : life.Asked next)
    (finished : life.phase = .finished) : next.phase = .finished := by
  cases asked with
  | left => exact finished
  | asked request =>
      cases request with
      | pause =>
          change life.pause.1.phase = .finished
          unfold Lifecycle.pause
          rw [finished]
          exact finished
      | resume =>
          change life.resume.1.phase = .finished
          unfold Lifecycle.resume
          rw [finished]
          exact finished
      | finish => exact Lifecycle.phase_finish
      | interrupt => exact finished

namespace Effect

def failed? : Effect → Option FatalFailure
  | .failed failure => some failure
  | _ => none

/-- An effect that is only told: to the log, or to the failure handler. -/
def Told : Effect → Prop
  | .noted _ | .failed _ => True
  | .called _ | .dispatched _ | .stored .. | .reported _ => False

variable {effects : List Effect}

theorem failed_notices (notices : List Notice) : (ofNotices notices).filterMap failed? = [] := by
  apply List.filterMap_eq_nil_iff.mpr
  intro effect member
  obtain ⟨notice, _, same⟩ := List.mem_map.mp member
  exact same ▸ rfl

theorem told_notices {notices : List Notice} {effect : Effect} (member : effect ∈ ofNotices notices) :
    effect.Told := by
  obtain ⟨notice, _, same⟩ := List.mem_map.mp member
  exact same ▸ trivial

theorem told_noted {notices : List Notice} (told : ∀ effect ∈ effects, effect.Told) :
    ∀ effect ∈ effects ++ ofNotices notices, effect.Told := by
  intro effect member
  rcases List.mem_append.mp member with own | noted
  · exact told effect own
  · exact told_notices noted

end Effect

namespace Worker

/-- The failure that a status means for the stage, unless the service is unreachable for now. -/
def fatality (worker : Worker) (status : Status) : Option FatalFailure :=
  if worker.unavailable status then none
  else some { stage := worker.stage, error := .remoteCall worker.stage status }

def offer? (worker : Worker) : Option Packet :=
  match worker.control with
  | .answered request _ response => some (request.carry response)
  | .reading reading =>
      match reading.stream.ready with
      | .ok response :: _ => some { id := worker.nextId, message := response }
      | _ => none
  | _ => none

/-- The status that the worker's next step reads from its stream instead of an item. -/
def breach? (worker : Worker) : Option Status :=
  match worker.control with
  | .reading reading =>
      match reading.stream.ready with
      | .error status :: _ => some status
      | _ => none
  | _ => none

def refusal (worker : Worker) (packet : Packet) : Option FatalFailure :=
  match worker.output.route packet with
  | .ok _ => none
  | .error cause => some { stage := worker.stage, error := .dispatch worker.stage cause }

/-- The failure that ends the stage and that the worker meets in its next step. -/
def setback? (worker : Worker) : Option FatalFailure :=
  match worker.breach? with
  | some status => worker.fatality status
  | none => worker.offer?.bind worker.refusal

/-- The failure that the worker has met and not yet handed over. -/
def pending? (worker : Worker) : Option FatalFailure :=
  match worker.control with
  | .failed status => worker.fatality status
  | .failing error => some { stage := worker.stage, error := error }
  | _ => none

variable {now : Duration} {cancelFirst : Bool} {life next : Lifecycle} {links : LinkStore}
  {bus : ReportBus} {worker : Worker} {stepped : WorkerStep} {stage : StageId} {action : Action}
  {control : Control} {failure : FatalFailure}

private theorem settled_nextRound (worker other : Worker) :
    pending? { other with control := worker.nextRound } = none :=
  worker.nextRound_elim (fun control => pending? { other with control := control } = none) rfl rfl

private theorem settled_afterReport (worker other : Worker) :
    pending? { other with control := worker.afterReport } = none :=
  worker.afterReport_elim (fun control => pending? { other with control := control } = none) rfl rfl

private theorem settled_begin (worker : Worker) (packet : Packet) :
    (worker.begin now packet).1.pending? = none := by
  unfold pending?
  rcases @begin_control now worker packet with opens | calls
  · rw [opens]
  · rw [calls]

private theorem Turns.failures {control after : Control} {effects : List Effect}
    (under : worker.control = control) (turns : worker.Turns life control after effects) :
    worker.pending?.toList ++ worker.setback?.toList =
      effects.filterMap Effect.failed? ++ (pending? { worker with control := after }).toList := by
  unfold setback? breach? offer?
  cases turns with
  | delivered =>
      rw [settled_nextRound]
      simp [pending?, under]
  | rejected available => simp [pending?, under, fatality, available]
  | unreachable unavailable => simp [pending?, under, fatality, unavailable, Effect.failed?]
  | broken ready => simp [pending?, under, ready, fatality]
  | exhausted none => simp [pending?, under, none]
  | confessed =>
      simp only [pending?, under]
      rfl
  | interrupted | checked | passed | released | caught | asked | resumed | outlasted =>
      simp [pending?, under, Effect.failed?]

/-- Every failure that a worker meets is pending until it is handed over. -/
theorem Stepped.failures (moved : worker.Stepped now life links bus stepped) :
    worker.pending?.toList ++ worker.setback?.toList =
      stepped.effects.filterMap Effect.failed? ++ stepped.worker.pending?.toList := by
  cases moved with
  | turned turns => exact turns.failures rfl
  | paused pauses =>
      unfold setback? breach? offer? pending?
      rw [Effect.failed_notices]
      generalize worker.control = control at pauses
      cases pauses <;> rfl
  | finished finishes =>
      unfold setback? breach? offer? pending?
      rw [Effect.failed_notices]
      generalize worker.control = control at finishes
      cases finishes <;> rfl
  | reported control =>
      rw [settled_afterReport]
      simp [setback?, breach?, offer?, pending?, control, Effect.failed?]
  | fetching control =>
      rw [List.filterMap_append, Effect.failed_notices]
      simp [setback?, breach?, offer?, pending?, control]
  | @missed _ _ _ fetched control =>
      have settled := settled_nextRound worker { worker with input := fetched.input }
      have quiet : worker.pending?.toList ++ worker.setback?.toList = [] := by
        simp [setback?, breach?, offer?, pending?, control]
      rw [List.filterMap_append, Effect.failed_notices, quiet]
      exact (congrArg Option.toList settled).symm
  | began control =>
      rw [List.filterMap_append, Effect.failed_notices, settled_begin]
      simp [setback?, breach?, offer?, pending?, control, Effect.failed?]
  | dispatched offers routed =>
      cases offers with
      | answered control =>
          simp [setback?, breach?, offer?, refusal, pending?, control, routed, Effect.failed?]
      | read control ready =>
          simp [setback?, breach?, offer?, refusal, pending?, control, ready, routed, Effect.failed?]
  | refused offers unrouted =>
      cases offers with
      | answered control =>
          simp [setback?, breach?, offer?, refusal, pending?, control, unrouted, Effect.failed?]
      | read control ready =>
          simp [setback?, breach?, offer?, refusal, pending?, control, ready, unrouted, Effect.failed?]
  | stored control =>
      rw [List.filterMap_cons_none rfl, Effect.failed_notices]
      simp [setback?, breach?, offer?, pending?, control]

/-- A worker that has met a failure that ends its stage, and one that comes to its end in a finished
stage. -/
inductive Doomed (life : Lifecycle) (worker : Worker) : Prop
  | struck {status : Status} (control : worker.control = .failed status)
      (fatal : worker.unavailable status = false)
  | failing {error : StageError} (control : worker.control = .failing error)
  | condemned (control : worker.control = .condemned)
  | stopping (control : worker.control = .stopping) (finished : life.phase = .finished)
  | ended (control : worker.control = .ended) (finished : life.phase = .finished)

theorem doomed_of_pending (pending : worker.pending? = some failure) :
    worker.Doomed life := by
  unfold pending? at pending
  cases control : worker.control with
  | failed status =>
      simp only [control, fatality] at pending
      split at pending
      · cases pending
      · rename_i fatal
        exact .struck control (eq_false_of_ne_true fatal)
  | failing error => exact .failing control
  | checking | parking | gated | passing | fetching | calling | opening | answered | reading
    | delivering | withdrawing | reporting | lingering | condemned | stopping | ended | crashed =>
      rw [control] at pending
      cases pending

theorem Doomed.asked (doomed : worker.Doomed life) (asked : life.Asked next) :
    worker.Doomed next := by
  cases doomed with
  | struck control fatal => exact .struck control fatal
  | failing control => exact .failing control
  | condemned control => exact .condemned control
  | stopping control finished => exact .stopping control (asked.finished finished)
  | ended control finished => exact .ended control (asked.finished finished)

def toEnd (worker : Worker) : Nat :=
  match worker.control with
  | .failed _ => 4
  | .failing _ => 3
  | .condemned => 2
  | .stopping => 1
  | _ => 0

theorem toEnd_le_four (worker : Worker) : worker.toEnd ≤ 4 := by
  unfold toEnd
  split <;> omega

private theorem setback_none (offers : worker.offer? = none) (breach : worker.breach? = none) :
    worker.setback? = none := by
  unfold setback?
  rw [breach, offers]
  rfl

/-- The step in which a worker meets a failure touches no link: a result that the output does not take has
reached none of its links. -/
theorem Stepped.struck (moved : worker.Stepped now life links bus stepped)
    (setback : worker.setback? = some failure) :
    stepped.links = links ∧ ∀ effect ∈ stepped.effects, effect.Told := by
  cases moved with
  | turned turns =>
      refine ⟨rfl, ?_⟩
      unfold setback? breach? offer? at setback
      generalize worker.control = before at turns setback
      cases turns with
      | broken => exact fun _ impossible => absurd impossible List.not_mem_nil
      | exhausted none =>
          simp only [none] at setback
          cases setback
      | interrupted | checked | passed | released | caught | asked | resumed | delivered | unreachable
        | rejected | outlasted | confessed => cases setback
  | paused | finished => exact ⟨rfl, fun _ => Effect.told_notices⟩
  | reported control | fetching control | missed control | began control | stored control =>
      rw [setback_none (by simp only [offer?, control]) (by simp only [breach?, control])] at setback
      cases setback
  | dispatched offers routed =>
      cases offers with
      | answered control =>
          simp [setback?, breach?, offer?, refusal, control, routed] at setback
      | read control ready =>
          simp [setback?, breach?, offer?, refusal, control, ready, routed] at setback
  | refused =>
      refine ⟨rfl, ?_⟩
      intro effect member
      cases List.mem_singleton.mp member
      trivial

theorem Doomed.step (doomed : worker.Doomed life)
    (moved : worker.step now cancelFirst life links bus = some stepped) :
    stepped.worker.Doomed stepped.lifecycle ∧ stepped.worker.toEnd + 1 = worker.toEnd ∧
      stepped.links = links ∧ worker.setback? = none ∧ ∀ effect ∈ stepped.effects, effect.Told := by
  have idle : worker.setback? = none := by
    apply setback_none
    · cases doomed <;> simp only [offer?, *]
    · cases doomed <;> simp only [breach?, *]
  cases doomed with
  | struck control fatal =>
      simp only [Worker.step, control, fatal] at moved
      cases moved
      refine ⟨.failing rfl, ?_, rfl, idle, ?_⟩
      · simp only [toEnd, control]
      · intro effect impossible
        cases impossible
  | failing control =>
      simp only [Worker.step, control] at moved
      cases moved
      refine ⟨.condemned rfl, ?_, rfl, idle, ?_⟩
      · simp only [toEnd, control]
      · intro effect member
        rcases List.mem_cons.mp member with noted | failed
        · exact noted ▸ trivial
        · exact List.mem_singleton.mp failed ▸ trivial
  | condemned control =>
      simp only [Worker.step, control] at moved
      cases moved
      refine ⟨.stopping rfl Lifecycle.phase_finish, ?_, rfl, idle, fun _ => Effect.told_notices⟩
      simp only [toEnd, control]
  | stopping control finished =>
      simp only [Worker.step, control] at moved
      cases moved
      refine ⟨.ended rfl Lifecycle.phase_finish, ?_, rfl, idle, fun _ => Effect.told_notices⟩
      simp only [toEnd, control]
  | ended control =>
      simp only [Worker.step, control] at moved
      cases moved

theorem Doomed.finished (doomed : worker.Doomed life) (near : worker.toEnd ≤ 1) :
    life.phase = .finished := by
  cases doomed with
  | stopping _ finished | ended _ finished => exact finished
  | struck control | failing control | condemned control =>
      simp only [toEnd, control] at near
      omega

theorem Doomed.blocked (doomed : worker.Doomed life)
    (blocked : worker.step now cancelFirst life links bus = none) :
    worker.control = .ended ∧ life.phase = .finished ∧ worker.pending? = none := by
  cases doomed with
  | struck control fatal =>
      simp only [Worker.step, control, fatal] at blocked
      cases blocked
  | failing control | condemned control | stopping control =>
      simp only [Worker.step, control] at blocked
      cases blocked
  | ended control finished =>
      refine ⟨control, finished, ?_⟩
      simp only [pending?, control]

theorem Doomed.untold (doomed : worker.Doomed life) :
    ¬ Told now stage action worker.control control := by
  intro told
  cases doomed with
  | struck under | failing under | condemned under | stopping under | ended under =>
      rw [under] at told
      cases told

theorem told_failures (told : Told now stage action worker.control control) :
    worker.pending? = none ∧
      pending? { worker with control := control } = (action.rejection stage).bind worker.fatality := by
  unfold pending?
  generalize worker.control = before at told
  cases told with
  | answered | opened => exact ⟨rfl, rfl⟩
  | rejected | unopened =>
      refine ⟨rfl, ?_⟩
      simp only [Action.rejection, if_true]
      rfl
  | heard news | overheard news => cases news <;> exact ⟨rfl, rfl⟩

theorem Stepped.hands (moved : worker.Stepped now life links bus stepped)
    (member : .failed failure ∈ stepped.effects) : ∃ known, worker.control = .failing known := by
  have fails : stepped.effects.any Engine.isFailure = true :=
    List.any_eq_true.mpr ⟨_, member, rfl⟩
  obtain ⟨known, control, _⟩ := Engine.failing_of_isFailure moved fails
  exact ⟨known, control⟩

private theorem Stepped.unfailing (moved : worker.Stepped now life links bus stepped)
    (settled : worker.pending? = none) : stepped.effects.filterMap Effect.failed? = [] := by
  apply List.filterMap_eq_nil_iff.mpr
  intro effect member
  cases effect with
  | failed failure =>
      obtain ⟨known, control⟩ := moved.hands member
      simp only [pending?, control] at settled
      cases settled
  | noted | called | dispatched | stored | reported => rfl

theorem fatal_of_fatality {status : Status} (fatal : worker.fatality status = some failure) :
    Fatal worker.stage worker.unavailable failure := by
  unfold fatality at fatal
  split at fatal
  · cases fatal
  · rename_i available
    cases fatal
    exact .remoteCall (eq_false_of_ne_true available)

theorem fatal_of_setback (setback : worker.setback? = some failure) :
    Fatal worker.stage worker.unavailable failure := by
  unfold setback? at setback
  split at setback
  · exact fatal_of_fatality setback
  · obtain ⟨packet, _, refused⟩ := Option.bind_eq_some_iff.mp setback
    unfold refusal at refused
    split at refused
    · cases refused
    · cases refused
      exact .dispatch

/-- What is known of a worker that has met these failures and handed over those: it has met one at most,
and then it is doomed. -/
structure Accounts (name : String) (unavailable : Status → Bool) (met handed : List FatalFailure)
    (life : Lifecycle) (worker : Worker) : Prop where
  named : worker.stage = name
  judges : worker.unavailable = unavailable
  tally : met = handed ++ worker.pending?.toList
  once : met = [] ∨ ∃ failure, met = [failure] ∧ Fatal name unavailable failure ∧ worker.Doomed life

variable {name : String} {unavailable : Status → Bool} {met handed : List FatalFailure}

theorem Accounts.asked (accounts : worker.Accounts name unavailable met handed life)
    (asked : life.Asked next) : worker.Accounts name unavailable met handed next := by
  refine ⟨accounts.named, accounts.judges, accounts.tally, ?_⟩
  rcases accounts.once with nothing | ⟨failure, single, fatal, doomed⟩
  · exact Or.inl nothing
  · exact Or.inr ⟨failure, single, fatal, doomed.asked asked⟩

theorem Accounts.only (accounts : worker.Accounts name unavailable met handed life)
    (member : failure ∈ met) : met = [failure] ∧ Fatal name unavailable failure ∧ worker.Doomed life := by
  rcases accounts.once with nothing | ⟨struck, single, fatal, doomed⟩
  · rw [nothing] at member
    cases member
  · rw [single] at member
    cases List.mem_singleton.mp member
    exact ⟨single, fatal, doomed⟩

private theorem Accounts.settled (accounts : worker.Accounts name unavailable met handed life)
    (nothing : met = []) : worker.pending? = none := by
  have tally := accounts.tally
  rw [nothing] at tally
  exact Option.toList_eq_nil_iff.mp (List.append_eq_nil_iff.mp tally.symm).2

private theorem Accounts.strikes {after : Worker} {struck : Option FatalFailure}
    (accounts : worker.Accounts name unavailable met handed life) (nothing : met = [])
    (pending : after.pending? = struck)
    (fatal : ∀ failure, struck = some failure → Fatal worker.stage worker.unavailable failure) :
    met ++ struck.toList = [] ∨ ∃ failure, met ++ struck.toList = [failure] ∧
      Fatal name unavailable failure ∧ after.Doomed next := by
  rw [nothing]
  cases same : struck with
  | none => exact Or.inl rfl
  | some failure =>
      have ends := fatal failure same
      rw [accounts.named, accounts.judges] at ends
      exact Or.inr ⟨failure, rfl, ends, doomed_of_pending (pending.trans same)⟩

theorem Accounts.step (accounts : worker.Accounts name unavailable met handed life)
    (moved : worker.step now cancelFirst life links bus = some stepped) :
    stepped.worker.Accounts name unavailable (met ++ worker.setback?.toList)
      (handed ++ stepped.effects.filterMap Effect.failed?) stepped.lifecycle := by
  have stepping := step_stepped moved
  have kin := stepping.kin
  refine ⟨kin.stage.trans accounts.named, kin.unavailable.trans accounts.judges, ?_, ?_⟩
  · rw [accounts.tally, List.append_assoc, stepping.failures, List.append_assoc]
  · rcases accounts.once with nothing | ⟨failure, single, fatal, doomed⟩
    · have settled := accounts.settled nothing
      have failures := stepping.failures
      rw [settled, stepping.unfailing settled] at failures
      have pending : stepped.worker.pending? = worker.setback? := by
        simpa using congrArg List.head? failures.symm
      exact accounts.strikes nothing pending fun _ => fatal_of_setback
    · obtain ⟨doomedOn, _, _, calm, _⟩ := doomed.step moved
      rw [calm]
      exact Or.inr ⟨failure, (List.append_nil _).trans single, fatal, doomedOn⟩

theorem Accounts.told (accounts : worker.Accounts name unavailable met handed life)
    (told : Told now stage action worker.control control) :
    Accounts name unavailable (met ++ ((action.rejection stage).bind worker.fatality).toList) handed life
      { worker with control := control } := by
  obtain ⟨settled, pending⟩ := told_failures told
  refine ⟨accounts.named, accounts.judges, ?_, ?_⟩
  · have tally := accounts.tally
    rw [settled] at tally
    rw [pending, tally, Option.toList_none, List.append_nil]
  · rcases accounts.once with nothing | ⟨_, _, _, doomed⟩
    · refine accounts.strikes nothing pending ?_
      intro failure fatal
      obtain ⟨status, _, fatal⟩ := Option.bind_eq_some_iff.mp fatal
      exact fatal_of_fatality fatal
    · exact absurd told doomed.untold

end Worker
end Sluice
