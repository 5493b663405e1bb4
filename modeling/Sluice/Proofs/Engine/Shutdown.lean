import Sluice.Proofs.Engine.Completion
import Sluice.Proofs.Engine.Supervision
import Sluice.Proofs.Engine.Watched
import Sluice.Proofs.Engine.Workload

set_option autoImplicit false

/-! The end of an engine that shuts down: every stage has finished, and somebody waits for the workers one
after the other and then for the monitor. Tasks can take no more steps than they have left and than the
surroundings bring work for; where they can take none and no call or stream is outstanding, all is over. -/

namespace Sluice

namespace JoinControl

def awaited : JoinControl → List StageId
  | .awaiting rest => rest
  | .closing | .joined => []

def effort : JoinControl → Nat
  | .awaiting rest => rest.length + 2
  | .closing => 1
  | .joined => 0

end JoinControl

def Action.steps (action : Action) : Nat :=
  action.stepsAs .worker + action.stepsAs .monitor + action.stepsAs .joiner

/-- What lets an engine come to its end: steps of its tasks, and what completes a stage. -/
def Action.Concludes (action : Action) : Prop :=
  action.task? ≠ none ∨ ∃ stage, action.Completes stage

/-- What one packet, one report or one item from outside can cost. -/
def Tariff.rate (tariff : Tariff) : Nat :=
  2 * tariff.visit + tariff.item + tariff.report

theorem Worker.Stepped.unended {now : Duration} {life : Lifecycle} {links : LinkStore}
    {bus : ReportBus} {worker : Worker} {stepped : WorkerStep}
    (moved : worker.Stepped now life links bus stepped) : ¬ worker.Ended := by
  intro ended
  cases moved with
  | turned turns =>
      rcases ended with ended | ⟨_, _, ended, _⟩
      all_goals
        rw [ended] at turns
        cases turns
  | paused pauses =>
      rcases ended with ended | ⟨_, _, ended, _⟩
      all_goals
        rw [ended] at pauses
        cases pauses
  | finished finishes =>
      rcases ended with ended | ⟨_, _, ended, _⟩
      all_goals
        rw [ended] at finishes
        cases finishes
  | dispatched offers | refused offers =>
      cases offers with
      | answered control | read control =>
          rcases ended with ended | ⟨_, _, ended, _⟩
          all_goals cases ended.symm.trans control
  | reported control | stored control =>
      rcases ended with ended | ⟨_, _, ended, _⟩
      all_goals cases ended.symm.trans control
  | fetching control step | missed control step | began control step =>
      rcases ended with ended | ⟨_, _, ended, merges, _⟩
      · cases ended.symm.trans control
      · cases ended.symm.trans control
        rw [merges] at step
        cases step

namespace Engine

variable {engine next last : Engine} {stage : StageId} {action : Action} {actions : List Action}
  {effects : List Effect} {post moved : Post} {worker : Worker} {onFatal : FatalReaction}
  {tariff : Tariff} {task changed : MonitorTask} {joiner : Joiner} {later : List Occurrence}

def taskSteps (actions : List Action) : Nat :=
  (actions.map Action.steps).sum

/-- How much work the surroundings bring by the actions. -/
def supplyOf (actions : List Action) : Nat :=
  (actions.map Action.supply).sum

/-- Every worker has ended with its stage finished, the monitor has stopped, and whoever waited for them
knows. -/
structure Over (monitor : Nat) (engine : Engine) : Prop where
  workers : ∀ (stage : StageId) (post : Post), engine.posts[stage]? = some post →
    post.Ended ∧ post.stage.lifecycle.phase = .finished
  stopped : ∃ task, engine.monitors[monitor]? = some task ∧ task.monitor.control = .stopped
  joined : ∃ joiner, engine.joiner = some joiner ∧ joiner.control = .joined

/-- No call waits for its answer and no stream that is read for its next item. -/
def Answered (engine : Engine) : Prop :=
  ∀ (stage : StageId) (post : Post) (worker : Worker), engine.posts[stage]? = some post →
    post.slot = .spawned worker → ¬ worker.control.AwaitsRemote

/-- Somebody waits for the workers of all stages, and then for the monitor. -/
structure Joining (engine : Engine) (task : MonitorTask) (joiner : Joiner) : Prop where
  waits : engine.joiner = some joiner
  first : joiner.monitor = 0
  ended : ∀ (stage : StageId) (post : Post), engine.posts[stage]? = some post →
    stage ∉ joiner.control.awaited → post.Ended
  told : joiner.control = .closing → task.shutdown = true
  halted : joiner.control = .joined → task.monitor.control = .stopped

private theorem Befalls.ended (ended : post.Ended)
    (befalls : engine.Befalls stage post action effects moved) : moved.Ended := by
  obtain ⟨worker, spawned, isOver⟩ := ended
  cases befalls with
  | rested => exact ⟨worker, spawned, isOver⟩
  | worked runs step =>
      cases spawned.symm.trans runs
      exact absurd isOver step.unended
  | failed runs failing =>
      cases spawned.symm.trans runs
      rcases isOver with ended | ⟨_, _, fetches, _⟩
      · cases ended.symm.trans failing
      · cases fetches.symm.trans failing
  | told runs told =>
      cases spawned.symm.trans runs
      rcases isOver with ended | ⟨_, _, fetches, _⟩
      · rw [ended] at told
        cases told
      · rw [fetches] at told
        cases told

private theorem Acted.waits (acted : engine.Acted action next effects) (apart : action ≠ .join) :
    next.joiner = engine.joiner := by
  cases acted with
  | @collapsed stage cancelFirst post worker stepped =>
      obtain ⟨posts, _, same⟩ := reactTo_posts (engine.afterWorker stage post stepped) stage
      rw [same]
      rfl
  | awaited | closing | joined => exact absurd rfl apart
  | worked | supervised | requested | told | put | took | published | closed | stopped | elapsed =>
      rfl

private theorem endOf_spawned (found : engine.posts[stage]? = some post)
    (spawned : post.slot = .spawned worker) :
    (∃ notices, engine.endOf stage = some notices) ↔ worker.isOver = true := by
  simp only [endOf, found, Post.spawned?, spawned]
  split
  · rename_i ended
    simp only [Worker.isOver, ended, Option.some.injEq, exists_eq']
  · split
    · rename_i isOver
      simp only [isOver, Option.some.injEq, exists_eq']
    · rename_i going
      simp only [going, reduceCtorEq, exists_false]

private theorem ended_of_left {notices : List Notice} (staffed : engine.Staffed onFatal)
    (survives : onFatal ≠ .crash) (left : engine.endOf stage = some notices)
    (found : engine.posts[stage]? = some post) : post.Ended := by
  obtain ⟨_, worker, spawned, poised, torn⟩ := staffed.posts stage post found
  refine ⟨worker, spawned, ?_⟩
  rcases poised.ended_or_crashed ((endOf_spawned found spawned).mp ⟨notices, left⟩) with ended | crashed
  · exact ended
  · exact absurd (torn crashed) survives

private theorem Joining.waited (joining : engine.Joining task joiner) (staffed : engine.Staffed onFatal)
    (survives : onFatal ≠ .crash) (watched : engine.Watched task)
    (acted : engine.Acted .join next effects) (onward : task.Onward changed)
    (still : next.Watched changed) :
    ∃ after, next.Joining changed after ∧ after.control.effort + 1 ≤ joiner.control.effort := by
  cases acted with
  | @awaited held stage rest notices waits control left =>
      cases joining.waits.symm.trans waits
      refine ⟨{ joiner with control := .awaiting rest }, ⟨rfl, joining.first, ?_, ?_, ?_⟩, ?_⟩
      · intro other post found unlisted
        by_cases here : stage = other
        · subst here
          exact ended_of_left staffed survives left found
        · apply joining.ended other post found
          rw [control]
          intro listed
          rcases List.mem_cons.mp listed with same | later
          · exact here same.symm
          · exact unlisted later
      · intro impossible
        cases impossible
      · intro impossible
        cases impossible
      · rw [control]
        exact Nat.le_refl _
  | closing waits control =>
      cases joining.waits.symm.trans waits
      refine ⟨{ joiner with control := .closing }, ⟨rfl, joining.first, ?_, ?_, ?_⟩, ?_⟩
      · intro other post found _
        apply joining.ended other post found
        rw [control]
        exact List.not_mem_nil
      · intro _
        have alone := still.alone
        change engine.monitors.modify joiner.monitor _ = [changed] at alone
        rw [joining.first, watched.alone] at alone
        cases alone
        rfl
      · intro impossible
        cases impossible
      · rw [control]
        exact Nat.le_refl _
  | joined waits control halted =>
      cases joining.waits.symm.trans waits
      refine ⟨{ joiner with control := .joined }, ⟨rfl, joining.first, ?_, ?_, ?_⟩, ?_⟩
      · intro other post found _
        apply joining.ended other post found
        rw [control]
        exact List.not_mem_nil
      · intro impossible
        cases impossible
      · intro _
        rw [joining.first, monitorIsOver, watched.alone] at halted
        exact onward.stopped (of_decide_eq_true halted)
      · rw [control]
        exact Nat.le_refl _
  | told found runs told => cases told.no_task

private theorem Joining.meanwhile (joining : engine.Joining task joiner)
    (acted : engine.Acted action next effects) (apart : action ≠ .join) (onward : task.Onward changed) :
    next.Joining changed joiner := by
  refine ⟨(acted.waits apart).trans joining.waits, joining.first, ?_, ?_, ?_⟩
  · intro stage moved found unlisted
    obtain ⟨post, original, befalls⟩ := acted.befalls found
    exact befalls.ended (joining.ended stage post original unlisted)
  · exact fun closing => onward.shutdown (joining.told closing)
  · exact fun joined => onward.stopped (joining.halted joined)

theorem Joining.acted (joining : engine.Joining task joiner) (staffed : engine.Staffed onFatal)
    (survives : onFatal ≠ .crash) (watched : engine.Watched task)
    (acted : engine.Acted action next effects) (onward : task.Onward changed)
    (still : next.Watched changed) :
    ∃ after, next.Joining changed after ∧
      after.control.effort + action.stepsAs .joiner ≤ joiner.control.effort := by
  by_cases own : action = .join
  · subst own
    exact joining.waited staffed survives watched acted onward still
  · refine ⟨joiner, joining.meanwhile acted own onward, ?_⟩
    have none : action.stepsAs .joiner = 0 := by
      cases action with
      | join => exact absurd rfl own
      | worker | monitor | request | answer | feed | endStream | put | take | publish | closeBus
        | stopMonitor | elapse => rfl
    rw [none]
    exact Nat.le_refl _

private theorem Joining.blocked (joining : engine.Joining task joiner)
    (ended : ∀ (stage : StageId) (post : Post), engine.posts[stage]? = some post → post.Ended)
    (stopped : joiner.control = .closing → engine.monitorIsOver joiner.monitor = true)
    (unjoined : engine.stepJoin = none) : joiner.control = .joined := by
  unfold stepJoin at unjoined
  simp only [joining.waits] at unjoined
  cases control : joiner.control with
  | joined => rfl
  | awaiting stages =>
      cases stages with
      | nil =>
          rw [control] at unjoined
          cases unjoined
      | cons stage stages =>
          have left : ∃ notices, engine.endOf stage = some notices := by
            cases found : engine.posts[stage]? with
            | none =>
                simp only [endOf, found]
                exact ⟨_, rfl⟩
            | some post =>
                obtain ⟨worker, spawned, last⟩ := ended stage post found
                exact (endOf_spawned found spawned).mpr last.isOver
          obtain ⟨notices, left⟩ := left
          simp only [control, left] at unjoined
          cases unjoined
  | closing =>
      simp only [control, stopped control, if_true] at unjoined
      cases unjoined

/-- An engine all of whose stages have finished while somebody waits for its end. -/
structure Closing (tariff : Tariff) (onFatal : FatalReaction) (engine : Engine) (task : MonitorTask)
    (joiner : Joiner) : Prop where
  retiring : engine.Retiring tariff onFatal
  survives : onFatal ≠ .crash
  audible : engine.Audible
  watched : engine.Watched task
  cost : task.monitor.backoffCost = tariff.report
  joining : engine.Joining task joiner

/-- The steps that all tasks have left, should nothing come from outside. -/
def left (tariff : Tariff) (engine : Engine) (task : MonitorTask) (joiner : Joiner) : Nat :=
  engine.work tariff + engine.vigil task + joiner.control.effort

private theorem steps_of_task (task : action.task? ≠ none) : action.supply = 0 ∧ 1 ≤ action.steps := by
  cases action with
  | worker | monitor | join => exact ⟨rfl, Nat.le_refl 1⟩
  | request | answer | feed | endStream | put | take | publish | closeBus | stopMonitor | elapse =>
      exact absurd rfl task

private theorem reports_supplied (acted : engine.Acted action next effects)
    (rests : ∀ stage cancelFirst, action ≠ .worker stage cancelFirst) :
    Effect.reportsIn effects ≤ action.supply := by
  cases acted with
  | worked | collapsed => exact absurd rfl (rests _ _)
  | supervised | requested | awaited | joined =>
      rw [Effect.reportsIn_notices]
      exact Nat.zero_le _
  | @put link packet =>
      have none : Effect.reportsIn (.stored link packet ::
          Effect.ofNotices (engine.links.put link packet).2.2) = 0 :=
        Effect.reportsIn_notices (engine.links.put link packet).2.2
      rw [none]
      exact Nat.zero_le _
  | published => exact Nat.le_refl 1
  | told | took | closing | closed | stopped | elapsed => exact Nat.zero_le _

theorem Closing.acted (closing : engine.Closing tariff onFatal task joiner)
    (acted : engine.Acted action next effects) :
    ∃ changed after, next.Closing tariff onFatal changed after ∧
      next.left tariff changed after + action.steps ≤
        engine.left tariff task joiner + tariff.rate * action.supply := by
  obtain ⟨retiring, survives, audible, watched, cost, joining⟩ := closing
  obtain ⟨changed, still, onward, vigil⟩ := watched.acted audible acted
  obtain ⟨after, joins, waiting⟩ :=
    joining.acted retiring.staffed survives watched acted onward still
  refine ⟨changed, after, ⟨retiring.acted acted, survives, audible.acted acted, still,
    onward.cost.trans cost, joins⟩, ?_⟩
  rw [cost] at vigil
  unfold left Action.steps
  by_cases own : ∃ stage cancelFirst, action = .worker stage cancelFirst
  · obtain ⟨stage, cancelFirst, same⟩ := own
    subst same
    have work := retiring.works survives acted
    change next.work tariff + next.vigil changed + after.control.effort + (1 + 0 + 0) ≤ _
    change next.vigil changed + 0 ≤ _ at vigil
    change after.control.effort + 0 ≤ _ at waiting
    omega
  · have rests : ∀ stage cancelFirst, action ≠ .worker stage cancelFirst :=
      fun stage cancelFirst same => own ⟨stage, cancelFirst, same⟩
    have work := @Acted.supplied _ _ _ _ tariff acted rests
    have reports := Nat.mul_le_mul_left tariff.report (reports_supplied acted rests)
    have none : action.stepsAs .worker = 0 := by
      cases action with
      | worker stage cancelFirst => exact absurd rfl (rests stage cancelFirst)
      | monitor | join | request | answer | feed | endStream | put | take | publish | closeBus
        | stopMonitor | elapse => rfl
    unfold Tariff.rate
    rw [Nat.add_mul (2 * tariff.visit + tariff.item)]
    omega

/-- Over a run the steps of the tasks are among those that were left and those that the surroundings
brought. -/
theorem Closing.performed (closing : engine.Closing tariff onFatal task joiner)
    (performed : perform actions engine = some (last, later)) :
    ∃ changed after, last.Closing tariff onFatal changed after ∧
      last.left tariff changed after + taskSteps actions ≤
        engine.left tariff task joiner + tariff.rate * supplyOf actions := by
  induction actions generalizing engine task joiner later with
  | nil =>
      cases performed
      exact ⟨task, joiner, closing, Nat.le_refl _⟩
  | cons action rest ih =>
      obtain ⟨next, effects, after, acts, remaining, _⟩ := perform_cons performed
      obtain ⟨changed, held, still, step⟩ := closing.acted (act_acted acts)
      obtain ⟨final, waits, ends, run⟩ := ih still remaining
      refine ⟨final, waits, ends, ?_⟩
      unfold taskSteps supplyOf at run ⊢
      rw [List.map_cons, List.sum_cons, List.map_cons, List.sum_cons, Nat.mul_add]
      omega

theorem Closing.settled (closing : engine.Closing tariff onFatal task joiner)
    (rest : engine.AtRest) (unjoined : engine.stepJoin = none) (answered : engine.Answered) :
    engine.Over 0 := by
  have ended : ∀ (stage : StageId) (post : Post), engine.posts[stage]? = some post → post.Ended := by
    intro stage post found
    obtain ⟨_, worker, spawned, _⟩ := closing.retiring.staffed.posts stage post found
    have closed := (closing.retiring.posts stage post found).closed
    rcases closing.retiring.staffed.blocked closing.survives found spawned closed
      (rest.1 stage false) with ended | awaits
    · exact ⟨worker, spawned, ended⟩
    · exact absurd awaits (answered stage post worker found spawned)
  have first : engine.monitors[0]? = some task := by
    rw [closing.watched.alone]
    rfl
  have joining := closing.joining
  have joined : joiner.control = .joined := by
    refine joining.blocked ended ?_ unjoined
    intro control
    have blocked := rest.2 0 false
    simp only [stepMonitor, first, joining.told control] at blocked
    have stopped : task.monitor.control = .stopped := by
      split at blocked
      · rename_i still
        exact Monitor.step_shutdown still
      · cases blocked
    unfold monitorIsOver
    rw [joining.first, first]
    exact decide_eq_true stopped
  refine ⟨?_, ⟨task, first, joining.halted joined⟩, ⟨joiner, joining.waits, joined⟩⟩
  intro stage post found
  exact ⟨ended stage post found, (closing.retiring.posts stage post found).closed.finished⟩

private theorem Closing.advances (closing : engine.Closing tariff onFatal task joiner)
    (unsettled : ¬ (engine.AtRest ∧ engine.stepJoin = none ∧ engine.Answered)) :
    ∃ actions last later, perform actions engine = some (last, later) ∧
      (∀ action ∈ actions, action.Concludes) ∧ supplyOf actions = 0 ∧ 1 ≤ taskSteps actions := by
  by_cases moves : ∃ action moved, action.task? ≠ none ∧ engine.act action = some moved
  · obtain ⟨action, ⟨next, effects⟩, task, acts⟩ := moves
    refine ⟨[action], next, _, perform_single acts, ?_, ?_, ?_⟩
    · intro other member
      exact List.mem_singleton.mp member ▸ Or.inl task
    · exact (steps_of_task task).1
    · exact (steps_of_task task).2
  · have still : ∀ action, action.task? ≠ none → engine.act action = none := by
      intro action task
      apply Option.eq_none_iff_forall_ne_some.mpr
      intro moved acts
      exact moves ⟨action, moved, task, acts⟩
    have rest : engine.AtRest :=
      ⟨fun stage cancelFirst => still (.worker stage cancelFirst) (Option.some_ne_none _),
        fun index cancelFirst => still (.monitor index cancelFirst) (Option.some_ne_none _)⟩
    have outstanding : ¬ engine.Answered := by
      intro answered
      exact unsettled ⟨rest, still .join (Option.some_ne_none _), answered⟩
    obtain ⟨stage, post, worker, found, runs, awaits⟩ :
        ∃ (stage : StageId) (post : Post) (worker : Worker), engine.posts[stage]? = some post ∧
          post.slot = .spawned worker ∧ worker.control.AwaitsRemote := by
      by_contra none
      apply outstanding
      intro stage post worker found runs awaits
      exact none ⟨stage, post, worker, found, runs, awaits⟩
    obtain ⟨action, middle, last, done, completes, supply, _, acts, resumes⟩ :=
      closing.retiring.staffed.resumed closing.survives found runs
        (closing.retiring.posts stage post found).closed awaits
    refine ⟨[action] ++ [.worker stage false], last, _,
      perform_append (perform_single acts) (perform_single resumes), ?_, ?_, ?_⟩
    · intro other member
      rcases List.mem_cons.mp member with here | later
      · exact here ▸ Or.inr ⟨stage, completes⟩
      · exact List.mem_singleton.mp later ▸ Or.inl (Option.some_ne_none _)
    · change action.supply + (0 + 0) = 0
      rw [supply]
    · change 1 ≤ action.steps + (1 + 0 + 0 + 0)
      omega

theorem Closing.completes (closing : engine.Closing tariff onFatal task joiner) :
    ∃ actions last later, perform actions engine = some (last, later) ∧
      (∀ action ∈ actions, action.Concludes) ∧ last.Over 0 := by
  -- every round of it uses up some of the steps that are left
  generalize cost : engine.left tariff task joiner = steps
  induction steps using Nat.strongRecOn generalizing engine task joiner with
  | ind steps ih =>
      by_cases settled : engine.AtRest ∧ engine.stepJoin = none ∧ engine.Answered
      · obtain ⟨rest, unjoined, answered⟩ := settled
        refine ⟨[], engine, [], rfl, ?_, closing.settled rest unjoined answered⟩
        intro action impossible
        cases impossible
      · obtain ⟨actions, next, past, performed, completes, supply, counts⟩ := closing.advances settled
        obtain ⟨changed, after, still, spent⟩ := closing.performed performed
        rw [supply] at spent
        obtain ⟨more, last, later, remaining, finishes, done⟩ :=
          ih (next.left tariff changed after) (by omega) still rfl
        refine ⟨actions ++ more, last, past ++ later, perform_append performed remaining, ?_, done⟩
        intro action member
        rcases List.mem_append.mp member with early | late
        · exact completes action early
        · exact finishes action late

end Engine
end Sluice
