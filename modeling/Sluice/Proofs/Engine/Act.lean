import Sluice.Proofs.Engine.Posts
import Sluice.Proofs.Monitor.Step
import Sluice.Proofs.Worker.Step

set_option autoImplicit false

/-! What one action does to an engine, case by case, and the states that an engine reaches when its
tasks and its surroundings act in any order. -/

namespace Sluice

def Action.Supplies : Action → Prop
  | .put .. => True
  | _ => False

instance (action : Action) : Decidable action.Supplies :=
  match action with
  | .put .. => .isTrue trivial
  | .worker .. | .monitor .. | .join | .request .. | .answer .. | .feed .. | .endStream _ | .take _
    | .publish .. | .closeBus _ | .stopMonitor _ | .elapse _ => .isFalse id

inductive News (stage : StageId) : Action → OpenStream → OpenStream → Prop
  | item {stream : OpenStream} {item : Except Status Message} (unfinished : stream.complete = false) :
      News stage (.feed stage item) stream { stream with ready := stream.ready ++ [item] }
  | ended {stream : OpenStream} (unfinished : stream.complete = false) :
      News stage (.endStream stage) stream { stream with complete := true }

/-- What the answer to a worker's call, or news of its stream, does to the worker's control. -/
inductive Told (now : Duration) (stage : StageId) : Action → Control → Control → Prop
  | answered {request : Packet} {since : Duration} {message : Message} :
      Told now stage (.answer stage (.response message)) (.calling request since)
        (.answered request since message)
  | rejected {request : Packet} {since : Duration} {status : Status} :
      Told now stage (.answer stage (.failure status)) (.calling request since) (.failed status)
  | opened {request : Packet} {stream : OpenStream} :
      Told now stage (.answer stage (.stream stream)) (.opening request)
        (.reading
          { stream := stream, requestSize := request.message.encodedSize, since := now })
  | unopened {request : Packet} {status : Status} :
      Told now stage (.answer stage (.failure status)) (.opening request) (.failed status)
  | heard {action : Action} {reading : Reading} {stream : OpenStream}
      (news : News stage action reading.stream stream) :
      Told now stage action (.reading reading) (.reading { reading with stream := stream })
  | overheard {action : Action} {rest : List Delivery} {reading : Reading} {stream : OpenStream}
      (news : News stage action reading.stream stream) :
      Told now stage action (.delivering rest (some reading))
        (.delivering rest (some { reading with stream := stream }))

namespace Worker

variable {now : Duration} {stage : StageId} {worker changed : Worker} {given : Answer}

theorem answer_told (answers : worker.answer now given = some changed) :
    ∃ next, changed = { worker with control := next } ∧
      Told now stage (.answer stage given) worker.control next := by
  unfold answer at answers
  split at answers
  · rename_i control
    cases answers
    exact ⟨_, rfl, control ▸ .answered⟩
  · rename_i control
    cases answers
    exact ⟨_, rfl, control ▸ .rejected⟩
  · rename_i control
    cases answers
    exact ⟨_, rfl, control ▸ .opened⟩
  · rename_i control
    cases answers
    exact ⟨_, rfl, control ▸ .unopened⟩
  · cases answers

theorem onStream_told {action : Action} {change : OpenStream → OpenStream}
    (news : ∀ stream, stream.complete = false → News stage action stream (change stream))
    (changes : worker.onStream change = some changed) :
    ∃ next, changed = { worker with control := next } ∧ Told now stage action worker.control next := by
  unfold onStream at changes
  split at changes
  · rename_i control
    split at changes
    · cases changes
    · rename_i unfinished
      cases changes
      exact ⟨_, rfl, control ▸ .heard (news _ (eq_false_of_ne_true unfinished))⟩
  · rename_i control
    split at changes
    · cases changes
    · rename_i unfinished
      cases changes
      exact ⟨_, rfl, control ▸ .overheard (news _ (eq_false_of_ne_true unfinished))⟩
  · cases changes

end Worker

namespace Engine

def afterWorker (engine : Engine) (stage : StageId) (post : Post) (stepped : WorkerStep) : Engine :=
  { (engine.withPost stage
      { post.setLifecycle stepped.lifecycle with slot := .spawned stepped.worker }).withBus sharedBus
        stepped.bus with links := stepped.links }

def afterMonitor (engine : Engine) (index : Nat) (task : MonitorTask) (stepped : MonitorStep) :
    Engine :=
  { (engine.withLifecycles stepped.lifecycles).withBus task.bus stepped.bus with
    monitors := engine.monitors.set index { task with monitor := stepped.monitor } }

def afterTold (engine : Engine) (stage : StageId) (post : Post) (worker : Worker)
    (next : Control) : Engine :=
  engine.withPost stage { post with slot := .spawned { worker with control := next } }

inductive Acted (engine : Engine) : Action → Engine → List Effect → Prop
  | worked {stage : StageId} {cancelFirst : Bool} {post : Post} {worker : Worker}
      {stepped : WorkerStep} (found : engine.posts[stage]? = some post)
      (runs : post.slot = .spawned worker)
      (step : worker.Stepped engine.clock post.stage.lifecycle engine.links
        (engine.busAt sharedBus) stepped)
      (calm : stepped.effects.any isFailure = false) :
      Acted engine (.worker stage cancelFirst) (engine.afterWorker stage post stepped)
        stepped.effects
  | collapsed {stage : StageId} {cancelFirst : Bool} {post : Post} {worker : Worker}
      {stepped : WorkerStep} (found : engine.posts[stage]? = some post)
      (runs : post.slot = .spawned worker)
      (step : worker.Stepped engine.clock post.stage.lifecycle engine.links
        (engine.busAt sharedBus) stepped)
      (fails : stepped.effects.any isFailure = true) :
      Acted engine (.worker stage cancelFirst)
        ((engine.afterWorker stage post stepped).reactTo stage).1
        (stepped.effects ++ ((engine.afterWorker stage post stepped).reactTo stage).2)
  | supervised {index : Nat} {cancelFirst : Bool} {task : MonitorTask} {stepped : MonitorStep}
      (found : engine.monitors[index]? = some task)
      (step : task.monitor.Stepped engine.clock task.shutdown engine.lifecycles
        (engine.busAt task.bus) stepped) :
      Acted engine (.monitor index cancelFirst) (engine.afterMonitor index task stepped)
        (Effect.ofNotices stepped.notices)
  | awaited {joiner : Joiner} {stage : StageId} {rest : List StageId} {notices : List Notice}
      (waits : engine.joiner = some joiner) (control : joiner.control = .awaiting (stage :: rest))
      (left : engine.endOf stage = some notices) :
      Acted engine .join
        { engine with joiner := some { joiner with control := .awaiting rest } }
        (Effect.ofNotices notices)
  | closing {joiner : Joiner} (waits : engine.joiner = some joiner)
      (control : joiner.control = .awaiting []) :
      Acted engine .join
        { engine.stopMonitor joiner.monitor with
          joiner := some { joiner with control := .closing } } []
  | joined {joiner : Joiner} {notices : List Notice} (waits : engine.joiner = some joiner)
      (control : joiner.control = .closing) (halted : engine.monitorIsOver joiner.monitor = true) :
      Acted engine .join { engine with joiner := some { joiner with control := .joined } }
        (Effect.ofNotices notices)
  | requested {stage : StageId} {asked : LifecycleRequest} :
      Acted engine (.request stage asked)
        (engine.withLifecycles (engine.lifecycles.request stage asked).1)
        (Effect.ofNotices (engine.lifecycles.request stage asked).2)
  | told {action : Action} {stage : StageId} {post : Post} {worker : Worker} {next : Control}
      (found : engine.posts[stage]? = some post) (runs : post.slot = .spawned worker)
      (told : Told engine.clock stage action worker.control next) :
      Acted engine action (engine.afterTold stage post worker next) []
  | put {link : LinkId} {packet : Packet} :
      Acted engine (.put link packet) { engine with links := (engine.links.put link packet).1 }
        (.stored link packet :: Effect.ofNotices (engine.links.put link packet).2.2)
  | took {link : LinkId} :
      Acted engine (.take link)
        { engine with links := engine.links.set link (engine.links.get link).takeNow.1 } []
  | published {bus : BusId} {stage : String} :
      Acted engine (.publish bus stage) (engine.withBus bus ((engine.busAt bus).publish stage))
        [.reported stage]
  | closed {bus : BusId} :
      Acted engine (.closeBus bus) (engine.withBus bus (engine.busAt bus).close) []
  | stopped {index : Nat} : Acted engine (.stopMonitor index) (engine.stopMonitor index) []
  | elapsed {time : Duration} :
      Acted engine (.elapse time)
        { engine with clock := { nanos := engine.clock.nanos + time.nanos } } []

variable {engine next : Engine} {action : Action} {effects : List Effect}

theorem stepWorker_some {stage : StageId} {cancelFirst : Bool}
    (moved : engine.stepWorker stage cancelFirst = some (next, effects)) :
    ∃ post worker stepped, engine.posts[stage]? = some post ∧ post.slot = .spawned worker ∧
      worker.step engine.clock cancelFirst post.stage.lifecycle engine.links
        (engine.busAt sharedBus) = some stepped ∧
      (stepped.effects.any isFailure = false ∧ next = engine.afterWorker stage post stepped ∧
          effects = stepped.effects ∨
        stepped.effects.any isFailure = true ∧
          next = ((engine.afterWorker stage post stepped).reactTo stage).1 ∧
          effects = stepped.effects ++ ((engine.afterWorker stage post stepped).reactTo stage).2) := by
  unfold stepWorker at moved
  cases found : engine.posts[stage]? with
  | none =>
      rw [found] at moved
      cases moved
  | some post =>
      cases runs : post.slot with
      | absent | ready =>
          simp only [found, runs] at moved
          cases moved
      | spawned worker =>
          simp only [found, runs] at moved
          cases step : worker.step engine.clock cancelFirst post.stage.lifecycle engine.links
              (engine.busAt sharedBus) with
          | none =>
              rw [step] at moved
              cases moved
          | some stepped =>
              refine ⟨post, worker, stepped, rfl, runs, step, ?_⟩
              simp only [step] at moved
              cases fails : stepped.effects.any isFailure with
              | false =>
                  rw [fails] at moved
                  cases moved
                  exact Or.inl ⟨rfl, rfl, rfl⟩
              | true =>
                  rw [fails] at moved
                  cases moved
                  exact Or.inr ⟨rfl, rfl, rfl⟩

theorem stepWorker_none {stage : StageId} {cancelFirst : Bool} {post : Post} {worker : Worker}
    (blocked : engine.stepWorker stage cancelFirst = none)
    (found : engine.posts[stage]? = some post) (runs : post.slot = .spawned worker) :
    worker.step engine.clock cancelFirst post.stage.lifecycle engine.links
      (engine.busAt sharedBus) = none := by
  simp only [stepWorker, found, runs] at blocked
  split at blocked
  · assumption
  · split at blocked <;> cases blocked

private theorem stepWorker_acted {stage : StageId} {cancelFirst : Bool}
    (moved : engine.stepWorker stage cancelFirst = some (next, effects)) :
    engine.Acted (.worker stage cancelFirst) next effects := by
  obtain ⟨post, worker, stepped, found, runs, step, outcome⟩ := stepWorker_some moved
  rcases outcome with ⟨calm, same, did⟩ | ⟨fails, same, did⟩
  · rw [same, did]
    exact .worked found runs (Worker.step_stepped step) calm
  · rw [same, did]
    exact .collapsed found runs (Worker.step_stepped step) fails

private theorem stepMonitor_acted {index : Nat} {cancelFirst : Bool}
    (moved : engine.stepMonitor index cancelFirst = some (next, effects)) :
    engine.Acted (.monitor index cancelFirst) next effects := by
  unfold stepMonitor at moved
  cases found : engine.monitors[index]? with
  | none =>
      rw [found] at moved
      cases moved
  | some task =>
      simp only [found] at moved
      cases step : task.monitor.step engine.clock task.shutdown cancelFirst engine.lifecycles
          (engine.busAt task.bus) with
      | none =>
          rw [step] at moved
          cases moved
      | some stepped =>
          rw [step] at moved
          cases moved
          exact .supervised found (Monitor.step_stepped step)

private theorem stepJoin_acted (moved : engine.stepJoin = some (next, effects)) :
    engine.Acted .join next effects := by
  unfold stepJoin at moved
  cases waits : engine.joiner with
  | none =>
      rw [waits] at moved
      cases moved
  | some joiner =>
      simp only [waits] at moved
      cases control : joiner.control with
      | awaiting rest =>
          cases rest with
          | nil =>
              rw [control] at moved
              cases moved
              exact .closing waits control
          | cons stage rest =>
              simp only [control] at moved
              cases left : engine.endOf stage with
              | none =>
                  rw [left] at moved
                  cases moved
              | some notices =>
                  rw [left] at moved
                  cases moved
                  exact .awaited waits control left
      | closing =>
          simp only [control] at moved
          split at moved
          · rename_i halted
            cases moved
            exact .joined waits control halted
          · cases moved
      | joined =>
          rw [control] at moved
          cases moved

private theorem onWorker_acted {stage : StageId} {change : Worker → Option Worker}
    (tells : ∀ worker changed, change worker = some changed →
      ∃ next, changed = { worker with control := next } ∧
        Told engine.clock stage action worker.control next)
    (moved : engine.onWorker stage change = some (next, effects)) :
    engine.Acted action next effects := by
  unfold onWorker at moved
  cases found : engine.posts[stage]? with
  | none =>
      rw [found] at moved
      cases moved
  | some post =>
      cases runs : post.slot with
      | absent | ready =>
          simp only [found, Post.spawned?, runs] at moved
          cases moved
      | spawned worker =>
          simp only [found, Post.spawned?, runs, Option.bind_some] at moved
          cases changes : change worker with
          | none =>
              rw [changes] at moved
              cases moved
          | some changed =>
              rw [changes] at moved
              cases moved
              obtain ⟨control, same, told⟩ := tells worker changed changes
              subst same
              exact .told found runs told

theorem act_acted (acted : engine.act action = some (next, effects)) :
    engine.Acted action next effects := by
  cases action with
  | worker stage cancelFirst => exact stepWorker_acted acted
  | monitor index cancelFirst => exact stepMonitor_acted acted
  | join => exact stepJoin_acted acted
  | answer stage given => exact onWorker_acted (fun _ _ => Worker.answer_told) acted
  | feed stage item =>
      exact onWorker_acted (fun _ _ => Worker.onStream_told fun _ => .item) acted
  | endStream stage =>
      exact onWorker_acted (fun _ _ => Worker.onStream_told fun _ => .ended) acted
  | request stage asked =>
      cases acted
      exact .requested
  | put link packet =>
      cases acted
      exact .put
  | take link =>
      cases acted
      exact .took
  | publish bus stage =>
      cases acted
      exact .published
  | closeBus bus =>
      cases acted
      exact .closed
  | stopMonitor index =>
      cases acted
      exact .stopped
  | elapse time =>
      cases acted
      exact .elapsed

theorem reactTo_cases (stage : StageId) :
    engine.reactTo stage = (engine, []) ∨
      engine.reactTo stage = (engine.finishAll.1, Effect.ofNotices engine.finishAll.2) ∨
      ∃ post worker, engine.posts[stage]? = some post ∧ post.slot = .spawned worker ∧
        engine.reactTo stage = (engine.afterTold stage post worker .crashed, []) := by
  unfold reactTo
  cases engine.onFatal with
  | note => exact Or.inl rfl
  | finishAll => exact Or.inr (Or.inl rfl)
  | crash =>
      cases found : engine.posts[stage]? with
      | none => exact Or.inl rfl
      | some post =>
          cases runs : post.slot with
          | absent | ready =>
              simp only [runs]
              exact Or.inl trivial
          | spawned worker =>
              simp only [runs]
              exact Or.inr (Or.inr ⟨post, worker, rfl, runs, rfl⟩)

theorem reactTo_posts (engine : Engine) (stage : StageId) :
    ∃ posts, posts.length = engine.posts.length ∧
      (engine.reactTo stage).1 = { engine with posts := posts } := by
  rcases @reactTo_cases engine stage with same | same | ⟨post, worker, found, runs, same⟩
  · rw [same]
    exact ⟨engine.posts, rfl, rfl⟩
  · rw [same]
    exact ⟨_, length_withLifecycles ((Lifecycles.length_requestAll _).trans length_lifecycles), rfl⟩
  · rw [same]
    exact ⟨_, length_withPost, rfl⟩

theorem calm_notices (notices : List Notice) : (Effect.ofNotices notices).any isFailure = false := by
  simp [Effect.ofNotices, isFailure]

theorem failing_of_isFailure {now : Duration} {life : Lifecycle} {links : LinkStore}
    {bus : ReportBus} {worker : Worker} {stepped : WorkerStep}
    (step : worker.Stepped now life links bus stepped)
    (fails : stepped.effects.any isFailure = true) :
    ∃ error, worker.control = .failing error ∧
      stepped =
        { worker := { worker with control := .condemned }, lifecycle := life, links := links
          bus := bus
          effects :=
            [.noted (.stageFailed worker.stage error.text),
              .failed { stage := worker.stage, error := error }] } := by
  have quiet := calm_notices
  cases step with
  | @turned next effects turns =>
      generalize under : worker.control = control at turns
      cases turns with
      | @confessed error => exact ⟨error, rfl, rfl⟩
      | interrupted | checked | passed | released | caught | asked | exhausted | broken | resumed
        | delivered | unreachable | rejected | outlasted => cases fails
  | paused | finished =>
      rw [quiet] at fails
      cases fails
  | reported => cases fails
  | fetching | missed | began =>
      rw [List.any_append, quiet] at fails
      cases fails
  | dispatched | refused => cases fails
  | stored =>
      rw [List.any_cons, quiet] at fails
      cases fails

theorem Acted.length (acted : engine.Acted action next effects) :
    next.posts.length = engine.posts.length := by
  cases acted with
  | worked | told => exact length_withPost
  | @collapsed stage cancelFirst post worker stepped =>
      have moved : (engine.afterWorker stage post stepped).posts.length = engine.posts.length :=
        length_withPost
      obtain ⟨posts, length, same⟩ := reactTo_posts (engine.afterWorker stage post stepped) stage
      rw [same]
      exact length.trans moved
  | supervised _ step => exact length_withLifecycles (step.length.trans length_lifecycles)
  | requested => exact length_withLifecycles (Lifecycles.length_request.trans length_lifecycles)
  | awaited | closing | joined | put | took | published | closed | stopped | elapsed => rfl

structure Occurrence where
  action : Action
  effects : List Effect

/-- What an engine reaches by actions that are allowed, each with what happened on the way. Somebody
may start to wait for the end at any time. -/
inductive Reaches (allowed : Engine → Action → Prop) (first : Engine) :
    Engine → List Occurrence → Prop
  | started : Reaches allowed first first []
  | acted {engine next : Engine} {past : List Occurrence} {action : Action} {effects : List Effect}
      (before : Reaches allowed first engine past) (allows : allowed engine action)
      (acts : engine.act action = some (next, effects)) :
      Reaches allowed first next (past ++ [{ action := action, effects := effects }])
  | joined {engine : Engine} {past : List Occurrence} {joiner : Joiner}
      (before : Reaches allowed first engine past) :
      Reaches allowed first { engine with joiner := some joiner } past

theorem Reaches.append {allowed : Engine → Action → Prop} {first last : Engine}
    {past later : List Occurrence} (before : Reaches allowed first engine past)
    (after : Reaches allowed engine last later) : Reaches allowed first last (past ++ later) := by
  induction after with
  | started =>
      rw [List.append_nil]
      exact before
  | acted earlier allows acts ih =>
      rw [← List.append_assoc]
      exact ih.acted allows acts
  | joined earlier ih => exact ih.joined

theorem Reaches.imp {allowed wider : Engine → Action → Prop} {first last : Engine}
    {past : List Occurrence} (reached : Reaches allowed first last past)
    (widens : ∀ engine action, allowed engine action → wider engine action) :
    Reaches wider first last past := by
  induction reached with
  | started => exact .started
  | acted before allows acts ih => exact ih.acted (widens _ _ allows) acts
  | joined before ih => exact ih.joined

/-- The run that takes these actions in turn, `none` if one of them is blocked. -/
def perform : List Action → Engine → Option (Engine × List Occurrence)
  | [], engine => some (engine, [])
  | action :: rest, engine =>
      match engine.act action with
      | none => none
      | some (next, effects) =>
          match perform rest next with
          | none => none
          | some (last, later) => some (last, { action := action, effects := effects } :: later)

theorem perform_single (acts : engine.act action = some (next, effects)) :
    perform [action] engine = some (next, [{ action := action, effects := effects }]) := by
  simp only [perform, acts]

theorem perform_cons {first last : Engine} {later : List Occurrence} {actions : List Action}
    (performed : perform (action :: actions) first = some (last, later)) :
    ∃ middle effects after, first.act action = some (middle, effects) ∧
      perform actions middle = some (last, after) ∧
      later = { action := action, effects := effects } :: after := by
  simp only [perform] at performed
  cases acts : first.act action with
  | none =>
      rw [acts] at performed
      cases performed
  | some moved =>
      obtain ⟨middle, effects⟩ := moved
      simp only [acts] at performed
      cases remaining : perform actions middle with
      | none =>
          rw [remaining] at performed
          cases performed
      | some result =>
          obtain ⟨reached, after⟩ := result
          rw [remaining] at performed
          cases performed
          exact ⟨middle, effects, after, rfl, remaining, rfl⟩

theorem perform_append {first middle last : Engine} {past later : List Occurrence}
    {actions more : List Action} (performed : perform actions first = some (middle, past))
    (continued : perform more middle = some (last, later)) :
    perform (actions ++ more) first = some (last, past ++ later) := by
  induction actions generalizing first past with
  | nil =>
      cases performed
      exact continued
  | cons action rest ih =>
      obtain ⟨next, effects, after, acts, remaining, same⟩ := perform_cons performed
      subst same
      simp only [List.cons_append, perform, acts, ih remaining]

theorem reaches_perform {allowed : Engine → Action → Prop} {first last : Engine}
    {past later : List Occurrence} {actions : List Action}
    (before : Reaches allowed first engine past)
    (allows : ∀ action ∈ actions, ∀ engine, allowed engine action)
    (performed : perform actions engine = some (last, later)) :
    Reaches allowed first last (past ++ later) := by
  induction actions generalizing engine past later with
  | nil =>
      cases performed
      rw [List.append_nil]
      exact before
  | cons action rest ih =>
      obtain ⟨next, effects, after, acts, remaining, same⟩ := perform_cons performed
      subst same
      have here := Reaches.acted before (allows action List.mem_cons_self engine) acts
      have through := ih here (fun later member => allows later (List.mem_cons_of_mem _ member))
        remaining
      rw [List.append_assoc] at through
      exact through

end Engine
end Sluice
