import Mathlib.Data.List.Induction
import Sluice.Proofs.Stage.Bindings
import Sluice.Proofs.Text.Marks

set_option autoImplicit false

/-! A stage before it runs, call by call. What is bound to it is kept until its worker is asked for, and that
uses the bindings up even if they make no worker: from then on every call is refused for the same reason, as
if there were one. -/

namespace Sluice

inductive StageCall where
  | bindInput (binding : Binding)
  | bindOutput (binding : Binding)
  | materialize
deriving DecidableEq

inductive StageAnswer where
  | bound
  | made (worker : Worker)
  | refused (error : StageError)

namespace StageAnswer

def ofWorker : Except StageError Worker → StageAnswer
  | .ok worker => .made worker
  | .error error => .refused error

end StageAnswer

namespace StageCall

def input? : StageCall → Option Binding
  | .bindInput binding => some binding
  | .bindOutput _ | .materialize => none

def output? : StageCall → Option Binding
  | .bindOutput binding => some binding
  | .bindInput _ | .materialize => none

end StageCall

def Bindings.ofCalls (calls : List StageCall) : Bindings :=
  { inputs := calls.filterMap StageCall.input?, outputs := calls.filterMap StageCall.output? }

namespace Stage

def bindingOf (stage : Stage) : Except StageError Stage → Stage × StageAnswer
  | .ok bound => (bound, .bound)
  | .error error => (stage, .refused error)

def call (stage : Stage) : StageCall → Stage × StageAnswer
  | .bindInput binding => stage.bindingOf (stage.bindInput binding)
  | .bindOutput binding => stage.bindingOf (stage.bindOutput binding)
  | .materialize => (stage.materialize.1, .ofWorker stage.materialize.2)

def after (stage : Stage) (calls : List StageCall) : Stage :=
  calls.foldl (fun held asked => (held.call asked).1) stage

def answer (stage : Stage) (earlier : List StageCall) (asked : StageCall) : StageAnswer :=
  ((stage.after earlier).call asked).2

/-- One of the calls got the worker. -/
def Served (stage : Stage) (calls : List StageCall) : Prop :=
  ∃ before later worker, calls = before ++ .materialize :: later ∧
    stage.answer before .materialize = .made worker

/-- The first call for the worker failed. -/
def Spoilt (stage : Stage) (calls : List StageCall) : Prop :=
  ∃ before later error, calls = before ++ .materialize :: later ∧ .materialize ∉ before ∧
    stage.answer before .materialize = .refused error

variable {descriptor : StageDescriptor} {method : RemoteMethod} {stage : Stage}
  {earlier before later : List StageCall} {asked : StageCall} {held : Bindings}

theorem after_concat : stage.after (earlier ++ [asked]) = ((stage.after earlier).call asked).1 := by
  unfold after
  rw [List.foldl_append]
  rfl

theorem call_closed (closed : stage.bindings = none) :
    stage.call asked = (stage, .refused (.alreadyMaterialized stage.name)) := by
  cases asked with
  | bindInput binding => simp only [call, bindInput, closed, bindingOf]
  | bindOutput binding => simp only [call, bindOutput, closed, bindingOf]
  | materialize => simp only [call, materialize, closed, StageAnswer.ofWorker]

/-- What is bound after some calls: all that they bound, until one of them asks for the worker. -/
def bindingsAfter (calls : List StageCall) : Option Bindings :=
  if .materialize ∈ calls then none else some (.ofCalls calls)

theorem bindingsAfter_open (unasked : .materialize ∉ earlier) :
    bindingsAfter earlier = some (.ofCalls earlier) :=
  if_neg unasked

theorem bindingsAfter_closed (asks : .materialize ∈ earlier) : bindingsAfter earlier = none :=
  if_pos asks

theorem call_bindingsAfter :
    ({ stage with bindings := bindingsAfter earlier }.call asked).1 =
      { stage with bindings := bindingsAfter (earlier ++ [asked]) } := by
  by_cases asks : .materialize ∈ earlier
  · rw [bindingsAfter_closed asks, bindingsAfter_closed (List.mem_append_left _ asks),
      call_closed rfl]
  · rw [bindingsAfter_open asks]
    cases asked with
    | bindInput binding | bindOutput binding =>
        rw [bindingsAfter_open (by simp [asks])]
        simp [call, bindInput, bindOutput, bindingOf, Bindings.ofCalls, StageCall.input?,
          StageCall.output?]
    | materialize => rw [bindingsAfter_closed (by simp), call, materialize]

theorem after_calls (fresh : stage.bindings = some .none) :
    stage.after earlier = { stage with bindings := bindingsAfter earlier } := by
  induction earlier using List.reverseRecOn with
  | nil =>
      unfold after bindingsAfter
      rw [if_neg List.not_mem_nil, List.foldl_nil]
      exact fresh ▸ rfl
  | append_singleton earlier asked ih => rw [after_concat, ih, call_bindingsAfter]

theorem answer_closed (fresh : stage.bindings = some .none) (asks : .materialize ∈ earlier) :
    stage.answer earlier asked = .refused (.alreadyMaterialized stage.name) := by
  unfold answer
  rw [after_calls fresh, bindingsAfter_closed asks, call_closed rfl]
  rfl

theorem answer_binding (fresh : stage.bindings = some .none) (unasked : .materialize ∉ earlier)
    (binds : asked ≠ .materialize) : stage.answer earlier asked = .bound := by
  unfold answer
  rw [after_calls fresh, bindingsAfter_open unasked]
  cases asked with
  | bindInput binding | bindOutput binding => rfl
  | materialize => exact absurd rfl binds

theorem answer_materialize (fresh : stage.bindings = some .none) (unasked : .materialize ∉ earlier) :
    stage.answer earlier .materialize = .ofWorker (stage.workerOf (.ofCalls earlier)) := by
  unfold answer
  rw [after_calls fresh, bindingsAfter_open unasked]
  rfl

theorem fresh_of_build (built : build descriptor method = .ok stage) :
    stage.descriptor = descriptor ∧ stage.bindings = some .none ∧
      StageKind.select stage.descriptor.name stage.descriptor.method.shape stage.descriptor.mode =
        .ok stage.kind := by
  unfold build at built
  cases selects : StageKind.select descriptor.name descriptor.method.shape descriptor.mode with
  | error error =>
      rw [selects] at built
      cases built
  | ok kind =>
      rw [selects] at built
      cases built
      exact ⟨rfl, rfl, selects⟩

theorem workerOf_ne_alreadyMaterialized {name : String}
    (selects : StageKind.select stage.descriptor.name stage.descriptor.method.shape
      stage.descriptor.mode = .ok stage.kind) :
    stage.workerOf held ≠ .error (.alreadyMaterialized name) := by
  intro fails
  cases (workerOf_error selects).mp fails with
  | gathering _ _ offence | splitting _ _ _ offence => cases offence

theorem refused_of_asked (fresh : stage.bindings = some .none) (asks : .materialize ∈ before)
    {worker : Worker} : stage.answer before .materialize ≠ .made worker := by
  rw [answer_closed fresh asks]
  nofun

/-- The first call for the worker decides: a later one does not get it any more. -/
theorem served_iff_not_spoilt (fresh : stage.bindings = some .none) (asks : .materialize ∈ earlier) :
    stage.Served earlier ↔ ¬ stage.Spoilt earlier := by
  constructor
  · rintro ⟨before, later, worker, split, made⟩ ⟨other, _, error, otherSplit, unasked, refused⟩
    have first : StageCall.materialize ∉ before := fun asked => refused_of_asked fresh asked made
    obtain ⟨same, _⟩ := Text.split_unique first unasked (split.symm.trans otherSplit)
    subst same
    rw [made] at refused
    cases refused
  · intro unspoilt
    obtain ⟨before, later, split, unasked⟩ := List.eq_append_cons_of_mem asks
    have outcome := answer_materialize fresh unasked
    cases made : stage.workerOf (.ofCalls before) with
    | ok worker =>
        rw [made] at outcome
        exact ⟨before, later, worker, split, outcome⟩
    | error error =>
        rw [made] at outcome
        exact absurd ⟨before, later, error, split, unasked, outcome⟩ unspoilt

theorem not_served (unasked : .materialize ∉ earlier) :
    ¬ stage.Served earlier ∧ ¬ stage.Spoilt earlier := by
  constructor
  · rintro ⟨before, later, worker, split, _⟩
    exact unasked (split ▸ List.mem_append_right _ List.mem_cons_self)
  · rintro ⟨before, later, error, split, _, _⟩
    exact unasked (split ▸ List.mem_append_right _ List.mem_cons_self)

theorem refused_iff (built : build descriptor method = .ok stage) :
    stage.answer earlier asked = .refused (.alreadyMaterialized stage.name) ↔
      .materialize ∈ earlier := by
  obtain ⟨_, fresh, selects⟩ := fresh_of_build built
  constructor
  · intro refused
    apply Classical.not_not.mp
    intro unasked
    by_cases asks : asked = .materialize
    · subst asks
      rw [answer_materialize fresh unasked] at refused
      cases made : stage.workerOf (.ofCalls earlier) with
      | ok worker =>
          rw [made] at refused
          cases refused
      | error error =>
          rw [made] at refused
          cases refused
          exact workerOf_ne_alreadyMaterialized selects made
    · rw [answer_binding fresh unasked asks] at refused
      cases refused
  · exact answer_closed fresh

theorem made_iff (fresh : stage.bindings = some .none) {worker : Worker} :
    stage.answer earlier asked = .made worker ↔
      asked = .materialize ∧ .materialize ∉ earlier ∧ stage.workerOf (.ofCalls earlier) = .ok worker := by
  constructor
  · intro made
    have unasked : .materialize ∉ earlier := by
      intro asks
      rw [answer_closed fresh asks] at made
      cases made
    have asks : asked = .materialize := by
      apply Classical.not_not.mp
      intro binds
      rw [answer_binding fresh unasked binds] at made
      cases made
    subst asks
    rw [answer_materialize fresh unasked] at made
    cases outcome : stage.workerOf (.ofCalls earlier) with
    | error error =>
        rw [outcome] at made
        cases made
    | ok known =>
        rw [outcome] at made
        cases made
        exact ⟨rfl, unasked, rfl⟩
  · rintro ⟨rfl, unasked, outcome⟩
    rw [answer_materialize fresh unasked, outcome]
    rfl

theorem refusal_tells_iff (built : build descriptor method = .ok stage) :
    (stage.answer earlier asked = .refused (.alreadyMaterialized stage.name) ↔ stage.Served earlier) ↔
      ¬ stage.Spoilt earlier := by
  obtain ⟨_, fresh, _⟩ := fresh_of_build built
  rw [refused_iff built]
  by_cases asks : .materialize ∈ earlier
  · rw [← served_iff_not_spoilt fresh asks]
    constructor
    · intro tells
      exact tells.mp asks
    · intro served
      exact ⟨fun _ => served, fun _ => asks⟩
  · obtain ⟨unserved, unspoilt⟩ := @not_served stage earlier asks
    constructor
    · intro _
      exact unspoilt
    · intro _
      exact ⟨fun impossible => absurd impossible asks, fun served => absurd served unserved⟩

/-- As long as nobody asked for the worker, all that was bound is held in its order, and the worker is made
from exactly that. Asking for it closes the bindings and leaves none, also if it fails: a second call is then
refused for another reason than the first, and a refusal does not tell any more that there is a worker. -/
theorem materializing_closes (built : build descriptor method = .ok stage) (earlier : List StageCall)
    (asked : StageCall) :
    (stage.answer earlier asked = .refused (.alreadyMaterialized stage.name) ↔
      .materialize ∈ earlier) ∧
    (.materialize ∉ earlier →
      (stage.after earlier).bindings = some (.ofCalls earlier) ∧
      (asked ≠ .materialize → stage.answer earlier asked = .bound) ∧
      (asked = .materialize →
        stage.answer earlier asked = .ofWorker (stage.workerOf (.ofCalls earlier)) ∧
        (stage.after (earlier ++ [asked])).bindings = none)) ∧
    (∀ worker, stage.answer earlier asked = .made worker → ∃ input output,
      Input.ofBindings stage.name (Bindings.ofCalls earlier).inputs descriptor.mode
        descriptor.method.input = .ok input ∧
      Output.ofBindings stage.name (Bindings.ofCalls earlier).outputs descriptor.method.output =
        .ok output ∧
      worker = .create stage.name stage.kind stage.method.unavailable input output) ∧
    ((stage.answer earlier asked = .refused (.alreadyMaterialized stage.name) ↔ stage.Served earlier) ↔
      ¬ stage.Spoilt earlier) := by
  obtain ⟨same, fresh, _⟩ := fresh_of_build built
  refine ⟨refused_iff built, ?_, ?_, refusal_tells_iff built⟩
  · intro unasked
    have held : (stage.after earlier).bindings = some (.ofCalls earlier) := by
      rw [after_calls fresh]
      exact bindingsAfter_open unasked
    refine ⟨held, answer_binding fresh unasked, ?_⟩
    intro asks
    subst asks
    refine ⟨answer_materialize fresh unasked, ?_⟩
    rw [after_calls fresh]
    exact bindingsAfter_closed (by simp)
  · intro worker made
    obtain ⟨_, _, outcome⟩ := (made_iff fresh).mp made
    obtain ⟨_, adapters⟩ := workerOf_ok outcome
    exact same ▸ adapters

namespace Ticker

def ticking (shape : MethodShape) : StageDescriptor :=
  { name := "ticker", host := "localhost", port := 50051
    method :=
      { name := "test.Service/Tick", shape := shape
        input := { name := "", records := [] }, output := { name := "", records := [] } }
    mode := .continuous }

def relay : Stage :=
  { descriptor := ticking .unary, kind := .unary, method := .standard
    lifecycle := .fresh "ticker", bindings := some .none }

def clock : Stage :=
  { descriptor := ticking .serverStreaming, kind := .serverStreaming, method := .standard
    lifecycle := .fresh "ticker", bindings := some .none }

def inlet : StageCall :=
  .bindInput { field := wholeMessage, link := 0 }

def outlet : StageCall :=
  .bindOutput { field := wholeMessage, link := 1 }

end Ticker

/-- A relay gets its worker from the two links that were bound first; the clock, which must not have an
input, gets none, and keeps none of its bindings. -/
theorem materializing_closes_ticker :
    (∃ worker, Ticker.relay.answer [Ticker.inlet, Ticker.outlet] .materialize = .made worker ∧
      worker = .create "ticker" .unary Status.isUnavailable (.passthrough 0) (.passthrough 1)) ∧
    Ticker.relay.answer [Ticker.inlet, Ticker.outlet, .materialize] Ticker.outlet =
      .refused (.alreadyMaterialized "ticker") ∧
    (Ticker.clock.after [Ticker.inlet, .materialize]).bindings = none := by
  have relayBuilt : build (Ticker.ticking .unary) .standard = .ok Ticker.relay := rfl
  have clockBuilt : build (Ticker.ticking .serverStreaming) .standard = .ok Ticker.clock := rfl
  refine ⟨?_, ?_, ?_⟩
  · obtain ⟨_, opened, _⟩ := materializing_closes relayBuilt [Ticker.inlet, Ticker.outlet] .materialize
    obtain ⟨_, _, asks⟩ := opened (by decide)
    exact ⟨_, (asks rfl).1, rfl⟩
  · obtain ⟨refused, _⟩ := materializing_closes relayBuilt
      [Ticker.inlet, Ticker.outlet, .materialize] Ticker.outlet
    exact refused.mpr (by decide)
  · obtain ⟨_, opened, _⟩ := materializing_closes clockBuilt [Ticker.inlet] .materialize
    obtain ⟨_, _, asks⟩ := opened (by decide)
    exact (asks rfl).2

/-- The same call is refused for two reasons, one after the other, and the second speaks of adapters that
were never made. -/
theorem materialize_loses_bindings :
    build (Ticker.ticking .serverStreaming) .standard = .ok Ticker.clock ∧
    Ticker.clock.answer [Ticker.inlet] .materialize = .refused (.requiresSourceInput "ticker" 1) ∧
    Ticker.clock.answer [Ticker.inlet, .materialize] .materialize =
      .refused (.alreadyMaterialized "ticker") ∧
    ¬ Ticker.clock.Served [Ticker.inlet, .materialize] := by
  have failed : Ticker.clock.answer [Ticker.inlet] .materialize =
      .refused (.requiresSourceInput "ticker" 1) := rfl
  refine ⟨rfl, failed, rfl, ?_⟩
  intro served
  have asks : StageCall.materialize ∈ [Ticker.inlet, .materialize] := by decide
  apply (served_iff_not_spoilt rfl asks).mp served
  exact ⟨[Ticker.inlet], [], _, rfl, by decide, failed⟩

end Stage
end Sluice
