import Mathlib.Algebra.BigOperators.Group.List.Basic
import Sluice.Proofs.Engine.Staffed
import Sluice.Proofs.Worker.Effort

set_option autoImplicit false

/-! How many steps a finished stage's worker has left, whatever the rest of its engine does. Items of its
stream can add to them, and so can what others put on the links that it takes from; where it takes from one
link and nobody else does, not even that can. -/

namespace Sluice

def Tariff.ofWidth (width : Nat) : Tariff :=
  { visit := 0, width := width, report := 0 }

structure Input.Spans (fields : Nat) (ids : List LinkId) (input : Input) : Prop where
  breadth : input.breadth = fields
  links : input.links = ids

namespace InputCall

/-- How far a call is from its end as long as others put nothing on its links. -/
def distance (fields : Nat) (ids : List LinkId) (links : LinkStore) (call : InputCall) : Nat :=
  call.effort fields + (4 * fields + 4) * links.loadOf ids

/-- How far a call that takes from one link is from its end as long as nobody else takes from there. -/
def patience (id : LinkId) (links : LinkStore) : InputCall → Nat
  | .taking posture => (links.get id).patience posture
  | .making | .joining _ => 0

end InputCall

namespace Engine

variable {engine next first last : Engine} {stage acting : StageId} {action : Action} {cancelFirst : Bool}
  {effects : List Effect} {past later : List Occurrence} {post moved : Post} {worker : Worker}
  {onFatal : FatalReaction} {allowed : Engine → Action → Prop} {ids : List LinkId} {id : LinkId}
  {weight : LinkId → Nat} {gauge : LinkStore → Nat}

theorem poised_of_staffed (staffed : engine.Staffed onFatal) (found : engine.posts[stage]? = some post)
    (runs : post.slot = .spawned worker) : worker.Poised post.stage.lifecycle := by
  obtain ⟨_, same, spawned, poised, _⟩ := staffed.posts stage post found
  cases runs.symm.trans spawned
  exact poised

/-- Only packets that are put on links add to what the links have in store. -/
theorem Acted.gauged (gauges : LinkStore.Gauges ids weight gauge)
    (acted : engine.Acted action next effects) :
    gauge next.links ≤ gauge engine.links +
      2 * ((effects.filterMap Effect.stored?).map fun delivery => weight delivery.1).sum := by
  cases acted with
  | worked found runs step => exact step.gauged gauges
  | @collapsed acting cancelFirst post worker stepped found runs step =>
      obtain ⟨posts, _, same⟩ := reactTo_posts (engine.afterWorker acting post stepped) acting
      have within := step.gauged gauges
      rw [List.filterMap_append, List.map_append, List.sum_append]
      simp only [same]
      change gauge stepped.links ≤ _
      omega
  | put =>
      rw [List.filterMap_cons, Effect.stored_silent fun _ => Effect.silent_ofNotices]
      exact gauges.gains
  | took => exact Nat.le_add_right_of_le (gauges.keeps Link.load_emptied)
  | supervised | awaited | closing | joined | requested | told | published | closed | stopped
    | elapsed =>
      exact Nat.le_add_right _ _

theorem Acted.load (acted : engine.Acted action next effects) :
    next.links.load ≤ engine.links.load + 2 * (effects.filterMap Effect.stored?).length := by
  have gauged := acted.gauged (@LinkStore.gauges_load [])
  rw [List.map_const', List.sum_replicate_nat, Nat.mul_one] at gauged
  exact gauged

def Occurrence.isStepOf (stage : StageId) (occurrence : Occurrence) : Bool :=
  match occurrence.action with
  | .worker acting _ => acting = stage
  | _ => false

/-- How many packets others than the worker of the stage put on these links in one action, each as often as
its link is listed. -/
def Occurrence.puts (ids : List LinkId) (stage : StageId) (occurrence : Occurrence) : Nat :=
  if occurrence.isStepOf stage then 0
  else ((occurrence.effects.filterMap Effect.stored?).map fun delivery => ids.count delivery.1).sum

def stepsOf (stage : StageId) (past : List Occurrence) : Nat :=
  past.countP (·.isStepOf stage)

/-- How many packets others put on these links. -/
def putsTo (ids : List LinkId) (stage : StageId) (past : List Occurrence) : Nat :=
  (past.map (·.puts ids stage)).sum

def itemsFor (stage : StageId) (past : List Occurrence) : Nat :=
  (past.map (·.action.items stage)).sum

def inputsOf (engine : Engine) (stage : StageId) : List LinkId :=
  match engine.slots[stage]? with
  | some (.spawned worker) => worker.input.links
  | _ => []

theorem isStepOf_worker :
    Occurrence.isStepOf stage { action := .worker stage cancelFirst, effects := effects } = true :=
  decide_eq_true rfl

theorem isStepOf_other (rests : ∀ cancelFirst, action ≠ .worker stage cancelFirst) :
    Occurrence.isStepOf stage { action := action, effects := effects } = false := by
  cases action with
  | worker acting cancelFirst =>
      apply decide_eq_false
      intro here
      exact rests cancelFirst (here ▸ rfl)
  | monitor | join | request | answer | feed | endStream | put | take | publish | closeBus
    | stopMonitor | elapse => rfl

/-- A measure of how far fetches from inputs of some kind are from their end. The fetching worker's own
steps bring it nearer; by what others do it is no farther than that is rated. -/
structure Measures (stage : StageId) (kept : Input → Prop) (pull : LinkStore → InputCall → Nat)
    (allowed : Engine → Action → Prop) (lure : Occurrence → Nat) : Prop where
  stays : ∀ {links : LinkStore} {input : Input} {call : InputCall} {stepped : InputStep},
    kept input → input.Stepped links call stepped → kept stepped.input
  spends : ∀ {cancelFirst : Bool} {links : LinkStore} {input : Input} {call later : InputCall}
    {stepped : InputStep}, kept input → input.Joins (fun _ _ => True) call.joining? →
    input.step true cancelFirst links call = some stepped → stepped.outcome = .inl later →
    pull stepped.links later + 1 ≤ pull links call
  waits : ∀ {engine next : Engine} {action : Action} {effects : List Effect}, allowed engine action →
    engine.Acted action next effects → (∀ cancelFirst, action ≠ .worker stage cancelFirst) →
    ∀ call, pull next.links call ≤ pull engine.links call + lure { action := action, effects := effects }

theorem measures_distance {fields : Nat} :
    Measures stage (Input.Spans fields ids) (InputCall.distance fields ids) allowed
      fun occurrence => 2 * (4 * fields + 4) * occurrence.puts ids stage := by
  constructor
  · intro links input call stepped spans moved
    exact ⟨moved.breadth.trans spans.breadth, moved.sameLinks.trans spans.links⟩
  · intro cancelFirst links input call later stepped spans joins moved goes
    obtain ⟨breadth, same⟩ := spans
    subst breadth same
    exact Input.step_pulls (Nat.le_refl _) LinkStore.gauges_loadOf joins moved goes
  · intro engine next action effects _ acted rests call
    have gauged := Nat.mul_le_mul_left (4 * fields + 4) (acted.gauged (@LinkStore.gauges_loadOf ids))
    rw [Nat.mul_add, ← Nat.mul_assoc, Nat.mul_comm _ 2] at gauged
    unfold InputCall.distance Occurrence.puts
    rw [isStepOf_other rests]
    change _ ≤ _ + 2 * (4 * fields + 4) *
      ((effects.filterMap Effect.stored?).map fun delivery => ids.count delivery.1).sum
    omega

theorem sum_map_puts {rate : Nat} :
    (past.map fun occurrence => rate * occurrence.puts ids stage).sum = rate * putsTo ids stage past := by
  induction past with
  | nil => rfl
  | cons occurrence rest ih =>
      unfold putsTo at ih ⊢
      rw [List.map_cons, List.sum_cons, ih, List.map_cons, List.sum_cons, Nat.mul_add]

/-- A finished stage whose worker has no more than so much to do, by a measure of its fetches. -/
def Owes (engine : Engine) (stage : StageId) (kept : Input → Prop) (pull : LinkStore → InputCall → Nat)
    (width cost : Nat) : Prop :=
  ∃ post worker, engine.posts[stage]? = some post ∧ post.slot = .spawned worker ∧
    post.stage.lifecycle.Closed ∧ kept worker.input ∧ worker.output.width ≤ width ∧
    worker.control.effort (.ofWidth width) (pull engine.links) ≤ cost

variable {kept : Input → Prop} {pull : LinkStore → InputCall → Nat} {lure : Occurrence → Nat}
  {width cost : Nat}

private theorem Measures.worked {now : Duration} {life : Lifecycle} {links : LinkStore} {bus : ReportBus}
    {stepped : WorkerStep} (measures : Measures stage kept pull allowed lure) (holds : kept worker.input)
    (poised : worker.Poised life) (closed : life.Closed) (narrow : worker.output.width ≤ width)
    (moved : worker.Stepped now life links bus stepped) :
    stepped.worker.control.effort (.ofWidth width) (pull stepped.links) + 1 ≤
      worker.control.effort (.ofWidth width) (pull links) := by
  by_cases fetches : ∃ token call, worker.control = .fetching token call
  · obtain ⟨token, call, control⟩ := fetches
    obtain ⟨cancelFirst, fetched, step, same, _, _, ends⟩ := moved.fetched poised closed control
    have joins := poised.joins
    rw [control] at joins
    rw [control, same]
    rcases ends with ⟨later, goes, fetching⟩ | little
    · have nearer := measures.spends holds joins step goes
      rw [fetching]
      simp only [Control.effort]
      omega
    · have less := little (.ofWidth width) (pull fetched.links)
      change _ + 1 ≤ pull links call + (Tariff.ofWidth width).result + 9 + (Tariff.ofWidth width).report
      omega
  · have idle : ∀ token call, worker.control ≠ .fetching token call :=
      fun token call control => fetches ⟨token, call, control⟩
    have nearer := @Worker.Stepped.nearer (.ofWidth width) now life links bus worker stepped
      (pull stepped.links) closed narrow idle moved
    rw [@Control.effort_idle (.ofWidth width) _ (pull links) _ idle] at nearer
    omega

private theorem Owes.steps (measures : Measures stage kept pull allowed lure)
    (staffed : engine.Staffed onFatal) (owes : engine.Owes stage kept pull width cost)
    (acted : engine.Acted (.worker stage cancelFirst) next effects) :
    ∃ left, next.Owes stage kept pull width left ∧ left + 1 ≤ cost := by
  obtain ⟨post, worker, found, runs, closed, holds, narrow, covered⟩ := owes
  obtain ⟨moved, there, befalls⟩ := acted.onward found
  obtain ⟨present, acting, stepped, posts, _, atStage, spawned, step, same, _, slots⟩ := acted.steps
  cases found.symm.trans atStage
  cases runs.symm.trans spawned
  have nearer := measures.worked holds (poised_of_staffed staffed found runs) closed narrow step
  have after := step.preserves measures.stays holds
  have still : stepped.worker.output.width ≤ width := step.keeps.2.1 ▸ narrow
  have links : next.links = stepped.links := by rw [same]
  have bound : stage < engine.slots.length := (List.getElem?_eq_some_iff.mp (slot_of_post found)).1
  have slot := slot_of_post there
  rcases slots with kept | ⟨_, torn⟩
  · rw [kept, List.getElem?_set_self bound] at slot
    refine ⟨_, ⟨moved, _, there, (Option.some.inj slot).symm, befalls.asked.closed closed, after, still,
      Nat.le_refl _⟩, ?_⟩
    rw [links]
    omega
  · rw [torn, List.getElem?_set_self bound] at slot
    refine ⟨0, ⟨moved, _, there, (Option.some.inj slot).symm, befalls.asked.closed closed, after, still,
      Nat.le_refl 0⟩, ?_⟩
    omega

private theorem Owes.waits (measures : Measures stage kept pull allowed lure)
    (owes : engine.Owes stage kept pull width cost) (allows : allowed engine action)
    (acted : engine.Acted action next effects)
    (rests : ∀ cancelFirst, action ≠ .worker stage cancelFirst) :
    ∃ left, next.Owes stage kept pull width left ∧
      left ≤ cost + lure { action := action, effects := effects } +
        (width + 2) * action.items stage := by
  obtain ⟨post, worker, found, runs, closed, holds, narrow, covered⟩ := owes
  obtain ⟨moved, there, befalls⟩ := acted.onward found
  have farther := measures.waits allows acted rests
  cases befalls with
  | rested asked =>
      have more := @Control.effort_mono (.ofWidth width) _ _ worker.control _ farther
      refine ⟨_, ⟨_, worker, there, runs, asked.closed closed, holds, narrow, Nat.le_refl _⟩, ?_⟩
      omega
  | worked | failed => exact absurd rfl (rests _)
  | @told action acting control spawned told =>
      cases runs.symm.trans spawned
      have more := @Control.effort_mono (.ofWidth width) _ _ worker.control _ farther
      have items := @Worker.told_effort (.ofWidth width) _ control (pull next.links) _ _ _ told
      have item : (Tariff.ofWidth width).item = width + 2 := by
        change width * 1 + 2 = width + 2
        rw [Nat.mul_one]
      rw [item, Nat.mul_comm] at items
      refine ⟨_, ⟨_, _, there, rfl, closed, holds, narrow, Nat.le_refl _⟩, ?_⟩
      change control.effort (.ofWidth width) (pull next.links) ≤ _
      omega

/-- Over a run the worker's steps are among those that it had left, and those that others brought. -/
theorem Owes.reached (measures : Measures stage kept pull allowed lure) (staffed : first.Staffed onFatal)
    (owes : first.Owes stage kept pull width cost) (reached : Reaches allowed first last later) :
    ∃ left, last.Owes stage kept pull width left ∧ stepsOf stage later + left ≤
      cost + (later.map lure).sum + (width + 2) * itemsFor stage later := by
  induction reached with
  | started => exact ⟨cost, owes, Nat.le_of_eq (Nat.zero_add cost)⟩
  | @acted engine next later action effects before allows acts ih =>
      obtain ⟨held, still, counts⟩ := ih
      have acted := act_acted acts
      unfold stepsOf itemsFor at counts ⊢
      simp only [List.countP_append, List.countP_singleton, List.map_append, List.sum_append,
        List.map_singleton, List.sum_singleton, Nat.mul_add]
      by_cases own : ∃ cancelFirst, action = .worker stage cancelFirst
      · obtain ⟨cancelFirst, same⟩ := own
        subst same
        obtain ⟨left, further, less⟩ := still.steps measures (staffed.reached before) acted
        refine ⟨left, further, ?_⟩
        rw [isStepOf_worker, if_pos rfl]
        omega
      · have rests : ∀ cancelFirst, action ≠ .worker stage cancelFirst :=
          fun cancelFirst same => own ⟨cancelFirst, same⟩
        obtain ⟨left, further, more⟩ := still.waits measures allows acted rests
        refine ⟨left, further, ?_⟩
        rw [isStepOf_other rests]
        simp only [Bool.false_eq_true, if_false]
        omega
  | joined before ih =>
      obtain ⟨left, still, counts⟩ := ih
      exact ⟨left, still, counts⟩

end Engine
end Sluice
