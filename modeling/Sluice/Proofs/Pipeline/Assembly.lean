import Sluice.Proofs.Engine.Staffed
import Sluice.Proofs.Engine.Watched
import Sluice.Proofs.Pipeline.Start
import Sluice.Proofs.Pipeline.Wiring

set_option autoImplicit false

/-! Every pipeline starts fully staffed, with a monitor on the shared bus, whatever links it was bound to
and whatever happened before its start. -/

namespace Sluice

/-- An engine before its start: no worker, no monitor, and lifecycles that any requests left behind. -/
structure Engine.Dormant (onFatal : FatalReaction) (engine : Engine) : Prop where
  reaction : engine.onFatal = onFatal
  audible : engine.Audible
  unwatched : engine.monitors = []
  vacant : ∀ (stage : StageId) (post : Post), engine.posts[stage]? = some post → post.slot = .absent
  lawful : ∀ (stage : StageId) (post : Post), engine.posts[stage]? = some post →
    post.stage.lifecycle.Lawful

namespace Pipeline

/-- A pipeline between its construction and its start: links may be added, stages bound to them and
reports subscribed to, and whatever surroundings do may happen. -/
inductive Assembled (topology : Topology) (connector : Connector) (options : EngineOptions)
    (onFatal : FatalReaction) : Pipeline → Prop
  | built {pipeline : Pipeline} (made : build topology connector options onFatal = .ok pipeline) :
      Assembled topology connector options onFatal pipeline
  | linked {pipeline : Pipeline} {label : String}
      (before : Assembled topology connector options onFatal pipeline) :
      Assembled topology connector options onFatal
        { pipeline with
          engine := { pipeline.engine with links := pipeline.engine.links.add label } }
  | boundInput {pipeline : Pipeline} {engine : Engine} {stage : StageId} {binding : Binding}
      (before : Assembled topology connector options onFatal pipeline)
      (done : bindAt pipeline.engine stage (fun held => held.bindInput binding) = .ok engine) :
      Assembled topology connector options onFatal { pipeline with engine := engine }
  | boundOutput {pipeline : Pipeline} {engine : Engine} {stage : StageId} {binding : Binding}
      (before : Assembled topology connector options onFatal pipeline)
      (done : bindAt pipeline.engine stage (fun held => held.bindOutput binding) = .ok engine) :
      Assembled topology connector options onFatal { pipeline with engine := engine }
  | subscribed {pipeline : Pipeline}
      (before : Assembled topology connector options onFatal pipeline) :
      Assembled topology connector options onFatal
        { pipeline with
          engine := pipeline.engine.withBus Engine.sharedBus
            (pipeline.engine.busAt Engine.sharedBus).subscribe }
  | acted {pipeline : Pipeline} {action : Action} {engine : Engine} {effects : List Effect}
      (before : Assembled topology connector options onFatal pipeline)
      (acts : pipeline.engine.act action = some (engine, effects)) :
      Assembled topology connector options onFatal { pipeline with engine := engine }

variable {engine next : Engine} {topology : Topology} {connector : Connector}
  {options : EngineOptions} {onFatal : FatalReaction} {pipeline : Pipeline} {running : Running}
  {notices : List Notice}

private theorem dormant_built (made : build topology connector options onFatal = .ok pipeline) :
    pipeline.engine.Dormant onFatal := by
  have wired := build_wired made
  have bus : pipeline.engine.busAt Engine.sharedBus = .ofCapacity options.eventCapacity := by
    unfold Engine.busAt
    rw [wired.buses]
    rfl
  refine ⟨wired.reaction, ⟨?_, ?_⟩, wired.monitors, ?_, ?_⟩
  · rw [wired.buses]
    exact Nat.zero_lt_one
  · rw [bus]
    exact ReportBus.sound_ofCapacity _
  · intro stage post found
    obtain ⟨descriptor, method, kind, _, _, _, same⟩ := wired.posts stage post found
    rw [same]
  · intro stage post found
    obtain ⟨descriptor, method, kind, _, _, _, same⟩ := wired.posts stage post found
    rw [same]
    exact Lifecycle.lawful_fresh _

private theorem dormant_bound {stage : StageId} {post : Post} {inputs outputs : List Binding}
    (dormant : engine.Dormant onFatal) (found : engine.posts[stage]? = some post) :
    (engine.withPost stage (post.bind inputs outputs)).Dormant onFatal := by
  refine ⟨dormant.reaction, dormant.audible.same rfl, dormant.unwatched, ?_, ?_⟩
  · intro other present atOther
    obtain ⟨earlier, original, slot, _⟩ := bound_kept found atOther
    exact slot.trans (dormant.vacant other earlier original)
  · intro other present atOther
    obtain ⟨earlier, original, _, life⟩ := bound_kept found atOther
    exact life ▸ dormant.lawful other earlier original

private theorem dormant_acted {action : Action} {effects : List Effect}
    (dormant : engine.Dormant onFatal) (acted : engine.Acted action next effects) :
    next.Dormant onFatal := by
  have reaction := acted.reaction.trans dormant.reaction
  have audible := dormant.audible.acted acted
  cases acted with
  | worked found runs | collapsed found runs | told found runs =>
      have vacant := dormant.vacant _ _ found
      rw [runs] at vacant
      cases vacant
  | supervised found =>
      rw [dormant.unwatched] at found
      cases found
  | requested =>
      refine ⟨reaction, audible, dormant.unwatched, ?_, ?_⟩
      · intro other moved found
        obtain ⟨post, life, original, _, same⟩ := Engine.post_withLifecycles found
        rw [same]
        exact dormant.vacant other post original
      · intro other moved found
        obtain ⟨post, original, ⟨_, same⟩ | ⟨_, same⟩⟩ := Engine.post_requested found
        · rw [same]
          exact (dormant.lawful other post original).request
        · rw [same]
          exact dormant.lawful other post original
  | closing | stopped =>
      refine ⟨reaction, audible, ?_, dormant.vacant, dormant.lawful⟩
      change engine.monitors.modify _ _ = []
      rw [dormant.unwatched]
      exact List.modify_nil _ _
  | awaited | joined | put | took | published | closed | elapsed =>
      exact ⟨reaction, audible, dormant.unwatched, dormant.vacant, dormant.lawful⟩

theorem Assembled.dormant (assembled : Assembled topology connector options onFatal pipeline) :
    pipeline.engine.Dormant onFatal := by
  induction assembled with
  | built made => exact dormant_built made
  | linked before ih =>
      exact ⟨ih.reaction, ih.audible.same rfl, ih.unwatched, ih.vacant, ih.lawful⟩
  | boundInput before done ih =>
      rcases bindAt_cases Stage.adds_bindInput done with same | ⟨post, found, same⟩
      · rw [same]
        exact ih
      · rw [same]
        exact dormant_bound ih found
  | boundOutput before done ih =>
      rcases bindAt_cases Stage.adds_bindOutput done with same | ⟨post, found, same⟩
      · rw [same]
        exact ih
      · rw [same]
        exact dormant_bound ih found
  | subscribed before ih =>
      refine ⟨ih.reaction, ?_, ih.unwatched, ih.vacant, ih.lawful⟩
      exact ih.audible.withBus fun _ => ih.audible.sound.subscribe
  | acted before acts ih => exact dormant_acted ih (Engine.act_acted acts)

theorem staffed_started (dormant : pipeline.engine.Dormant onFatal)
    (launched : pipeline.Launched running) : running.engine.Staffed onFatal := by
  constructor
  · exact launched.reaction.trans dormant.reaction
  · intro stage post found
    obtain ⟨built, held, worker, atStage, _, works, same⟩ := launched.posts stage post found
    obtain ⟨_, input, output, reads, _, created⟩ := Stage.workerOf_ok works
    subst same
    subst created
    refine ⟨dormant.lawful stage built atStage, _, rfl, ?_, ?_⟩
    · exact Worker.poised_of_passing trivial (Input.ofBindings_fits reads).2
    · intro impossible
      cases impossible

end Pipeline
end Sluice
