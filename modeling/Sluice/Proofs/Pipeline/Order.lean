import Sluice.Proofs.Engine.Order
import Sluice.Proofs.Pipeline.Lineage

set_option autoImplicit false

/-! The order that merges rely on. In a pipeline that nobody feeds but its own stages, whatever its topology,
packets are put on each link under increasing ids and taken from it under increasing ids. -/

namespace Sluice
namespace Pipeline

variable {engine : Engine} {topology : Topology} {connector : Connector} {options : EngineOptions}
  {onFatal : FatalReaction} {pipeline : Pipeline} {running : Running} {notices : List Notice}

theorem ordered_started (before : pipeline.engine.Unstarted topology)
    (launched : pipeline.Launched running) : running.engine.Ordered topology [] fun _ => [] := by
  refine ⟨?_, ?_, fun _ _ => rfl⟩
  · intro stage post found
    obtain ⟨descriptor, worker, listed, runs, fits, control, _⟩ :=
      placed_started before launched found
    have empty : worker.control.held? = none := by rw [control]; rfl
    have idle : worker.control.outgoing = [] := by rw [control]; rfl
    refine ⟨descriptor, worker, listed, runs, fits, ?_, ?_, ?_, List.Pairwise.nil, ?_, ?_⟩
    · rw [control]
      exact trivial
    · intro makes
      refine ⟨fun _ impossible => absurd impossible List.not_mem_nil, ?_⟩
      intro packet held
      cases empty.symm.trans held
    · intro link single
      refine ⟨fun _ impossible => absurd impossible List.not_mem_nil, ?_⟩
      intro packet held
      cases empty.symm.trans held
    · intro delivery impossible
      rw [idle] at impossible
      cases impossible
    · intro link key leaves
      rw [idle]
      exact List.nil_sublist _
  · intro link
    refine ⟨List.Pairwise.nil, List.Pairwise.nil,
      fun _ impossible => absurd impossible List.not_mem_nil, ?_⟩
    intro packet slot
    cases (idle_started before launched link).symm.trans slot

/-- Whatever the topology and its methods, and in whatever order tasks and surroundings act, with whatever
pauses, failures and finishes: packets are put on each link under increasing ids, so under no id twice, and
are taken from it under increasing ids; and nothing is ever put on a link of a cycle of stages with a single
input each. -/
theorem run_keeps_order {past : List Engine.Occurrence} {taken : LinkId → List Packet}
    (standalone : Standalone topology connector options onFatal pipeline)
    (started : pipeline.run = .ok (running, notices))
    (drawn : Engine.Draws (fun _ action => ¬ action.Supplies) running.engine engine past taken) :
    (∀ link, (Output.idsOn link (Engine.storedOf past)).Pairwise (· < ·) ∧
      (Output.idsOn link (Engine.storedOf past)).Nodup ∧
      (Engine.takenIds taken link).Pairwise (· < ·)) ∧
    ∀ link, topology.Circles link → ∀ packet, (link, packet) ∉ Engine.storedOf past := by
  have start := ordered_started standalone.unstarted (run_launched started)
  have ordered := start.drawn standalone.unique drawn
  constructor
  · intro link
    obtain ⟨increasing, taken, _, _⟩ := ordered.links link
    exact ⟨increasing, increasing.imp fun less => Nat.ne_of_lt less, taken⟩
  · intro link circles packet stored
    have put : packet.id ∈ Output.idsOn link (Engine.storedOf past) :=
      Output.mem_idsOn.mpr ⟨packet, stored, rfl⟩
    rw [ordered.vacant link circles] at put
    cases put

namespace Millrace

/-- A camera whose frames go through a filter, and beside it two stages that wait for each other. -/
def graph : Topology :=
  { stages :=
      [Fusion.stage "camera" [] [], Fusion.stage "filter" [] [], Fusion.stage "sink" [] [],
       Fusion.stage "left" [] [], Fusion.stage "right" [] []]
    edges :=
      [{ source := "camera", target := "filter", sourceField := none, targetField := none },
       { source := "filter", target := "sink", sourceField := none, targetField := none },
       { source := "left", target := "right", sourceField := none, targetField := none },
       { source := "right", target := "left", sourceField := none, targetField := none }] }

def capture : List Action :=
  List.replicate 4 (.worker 0 false) ++ .answer 0 (.response .empty) ::
    List.replicate 3 (.worker 0 false)

/-- The filter passes the first frame on and takes the second, while left and right wait for input. -/
def actions : List Action :=
  capture ++ List.replicate 4 (.worker 1 false) ++ .answer 1 (.response .empty) ::
    (List.replicate 2 (.worker 1 false) ++ capture ++ List.replicate 5 (.worker 1 false) ++
      List.replicate 3 (.worker 3 false) ++ List.replicate 3 (.worker 4 false))

private theorem unsupplied {action : Action} (member : action ∈ actions) : ¬ action.Supplies := by
  have all : ∀ action ∈ actions, ¬ action.Supplies := by decide
  exact all action member

private theorem circles_loop : graph.Circles 2 := by
  have right : graph.OnlyInput 4 2 := ⟨Fusion.stage "right" [] [], wholeMessage, rfl, by decide⟩
  have left : graph.OnlyInput 3 3 := ⟨Fusion.stage "left" [] [], wholeMessage, rfl, by decide⟩
  have onward : graph.Onward 2 3 := ⟨4, wholeMessage, right, _, _, rfl, rfl, rfl, rfl⟩
  have back : graph.Onward 3 2 := ⟨3, wholeMessage, left, _, _, rfl, rfl, rfl, rfl⟩
  exact Relation.TransGen.head onward (.single back)

end Millrace

theorem run_keeps_order_millrace :
    ∃ pipeline running notices engine past taken,
      Standalone Millrace.graph (fun _ => .ok .standard) .standard .note pipeline ∧
      pipeline.run = .ok (running, notices) ∧
      Engine.Draws (fun _ action => ¬ action.Supplies) running.engine engine past taken ∧
      Millrace.graph.Circles 2 ∧
      Output.idsOn 0 (Engine.storedOf past) = [0, 1] ∧ Engine.takenIds taken 0 = [0, 1] ∧
      Output.idsOn 1 (Engine.storedOf past) = [0] ∧
      (∀ link, (Output.idsOn link (Engine.storedOf past)).Pairwise (· < ·) ∧
        (Output.idsOn link (Engine.storedOf past)).Nodup ∧
        (Engine.takenIds taken link).Pairwise (· < ·)) ∧
      ∀ link, Millrace.graph.Circles link → ∀ packet, (link, packet) ∉ Engine.storedOf past := by
  have outcome : ((build Millrace.graph (fun _ => .ok .standard) .standard .note).toOption.bind
      fun pipeline => pipeline.run.toOption.bind
        fun started => (Engine.perform Millrace.actions started.1.engine).map
          fun reached => (Output.idsOn 0 (Engine.storedOf reached.2),
            (Engine.takenBy 0 Millrace.actions started.1.engine).map (·.id),
            Output.idsOn 1 (Engine.storedOf reached.2))) = some ([0, 1], [0, 1], [0]) := by decide
  obtain ⟨pipeline, made, ran⟩ := Option.bind_eq_some_iff.mp outcome
  obtain ⟨⟨running, notices⟩, started, performs⟩ := Option.bind_eq_some_iff.mp ran
  obtain ⟨⟨engine, past⟩, performed, seen⟩ := Option.map_eq_some_iff.mp performs
  have standalone := Standalone.built (ok_of_toOption made)
  have launched := ok_of_toOption started
  have drawn : Engine.Draws (fun _ action => ¬ action.Supplies) running.engine engine past _ :=
    Engine.draws_perform .started (fun action member _ => Millrace.unsupplied member) performed
  exact ⟨pipeline, running, notices, engine, past, _, standalone, launched, drawn,
    Millrace.circles_loop, congrArg (·.1) seen, congrArg (·.2.1) seen, congrArg (·.2.2) seen,
    run_keeps_order standalone launched drawn⟩

end Pipeline
end Sluice
