import Sluice.Proofs.Engine.Stagewise
import Sluice.Proofs.Worker.Ordering

set_option autoImplicit false

/-! The order of packets on links. Stages may feed each other in circles, so none of them comes first: what
is known of all workers and of all links is kept together, step by step. -/

namespace Sluice

/-- A link that packets were put on and taken from under these ids: both in order, and what lies on the link
was put there after all that was taken. -/
structure Link.InOrder (link : Link) (put taken : List Nat) : Prop where
  increasing : put.Pairwise (· < ·)
  drawn : taken.Pairwise (· < ·)
  known : ∀ id ∈ taken, id ∈ put
  slot : ∀ packet, link.slot = some packet → packet.id ∈ put ∧ ∀ id ∈ taken, id < packet.id

/-- As long as packets are put on a link in order, they are taken from it in order. -/
theorem Link.InOrder.step {before after : LinkStore} {link : LinkId} {put more taken : List Nat}
    (ordered : (before.get link).InOrder put taken) (increasing : (put ++ more).Pairwise (· < ·))
    (settles : ∀ packet, (after.get link).slot = some packet →
      (before.get link).slot = some packet ∨ packet.id ∈ more) :
    (after.get link).InOrder (put ++ more)
      (taken ++ (MergeLedger.removed before after link).toList.map (·.id)) := by
  have known : ∀ id ∈ taken, id ∈ put ++ more := fun id member =>
    List.mem_append_left _ (ordered.known id member)
  have slot : ∀ packet, (after.get link).slot = some packet →
      packet.id ∈ put ++ more ∧ ∀ id ∈ taken, id < packet.id := by
    intro packet lies
    rcases settles packet lies with old | new
    · obtain ⟨listed, above⟩ := ordered.slot packet old
      exact ⟨List.mem_append_left _ listed, above⟩
    · refine ⟨List.mem_append_right _ new, ?_⟩
      intro id member
      exact (List.pairwise_append.mp increasing).2.2 id (ordered.known id member) _ new
  cases removed : MergeLedger.removed before after link with
  | none =>
      change (after.get link).InOrder _ (taken ++ [])
      rw [List.append_nil]
      exact ⟨increasing, ordered.drawn, known, slot⟩
  | some packet =>
      obtain ⟨lay, empty⟩ := MergeLedger.removed_iff.mp removed
      obtain ⟨listed, above⟩ := ordered.slot packet lay
      change (after.get link).InOrder _ (taken ++ [packet.id])
      refine ⟨increasing, ?_, ?_, ?_⟩
      · apply List.pairwise_append.mpr
        refine ⟨ordered.drawn, List.pairwise_singleton _ _, ?_⟩
        intro id member last same
        exact List.mem_singleton.mp same ▸ above id member
      · intro id member
        rcases List.mem_append.mp member with old | last
        · exact known id old
        · exact List.mem_singleton.mp last ▸ List.mem_append_left _ listed
      · intro other lies
        cases empty.symm.trans lies

namespace Engine

def taking (engine next : Engine) (link : LinkId) : List Packet :=
  (MergeLedger.removed engine.links next.links link).toList

/-- A run along with what was taken from each link, in order. -/
inductive Draws (allowed : Engine → Action → Prop) (first : Engine) :
    Engine → List Occurrence → (LinkId → List Packet) → Prop
  | started : Draws allowed first first [] fun _ => []
  | acted {engine next : Engine} {past : List Occurrence} {taken : LinkId → List Packet}
      {action : Action} {effects : List Effect} (before : Draws allowed first engine past taken)
      (allows : allowed engine action) (acts : engine.act action = some (next, effects)) :
      Draws allowed first next (past ++ [{ action := action, effects := effects }])
        fun link => taken link ++ engine.taking next link
  | joined {engine : Engine} {past : List Occurrence} {taken : LinkId → List Packet} {joiner : Joiner}
      (before : Draws allowed first engine past taken) :
      Draws allowed first { engine with joiner := some joiner } past taken

variable {allowed : Engine → Action → Prop} {first engine next : Engine} {past : List Occurrence}
  {taken : LinkId → List Packet} {action : Action} {effects : List Effect} {stage : StageId}
  {link : LinkId} {packet : Packet} {topology : Topology} {cancelFirst : Bool}

def takenBy (link : LinkId) : List Action → Engine → List Packet
  | [], _ => []
  | action :: rest, engine =>
      match engine.act action with
      | none => []
      | some (next, _) => engine.taking next link ++ takenBy link rest next

theorem draws_perform {last : Engine} {later : List Occurrence} {actions : List Action}
    (before : Draws allowed first engine past taken)
    (allows : ∀ action ∈ actions, ∀ engine, allowed engine action)
    (performed : perform actions engine = some (last, later)) :
    Draws allowed first last (past ++ later) fun link => taken link ++ takenBy link actions engine := by
  induction actions generalizing engine past taken later with
  | nil =>
      cases performed
      simp only [takenBy, List.append_nil]
      exact before
  | cons action rest ih =>
      obtain ⟨next, effects, after, acts, remaining, same⟩ := perform_cons performed
      subst same
      have here := before.acted (allows action List.mem_cons_self engine) acts
      have through := ih here (fun later member => allows later (List.mem_cons_of_mem _ member))
        remaining
      simp only [takenBy, acts]
      simp only [List.append_assoc] at through
      exact through

def takenIds (taken : LinkId → List Packet) (link : LinkId) : List Nat :=
  (taken link).map (·.id)

def Keeps (topology : Topology) (past : List Occurrence) (taken : LinkId → List Packet)
    (stage : StageId) (descriptor : StageDescriptor) (worker : Worker) : Prop :=
  worker.Ordered topology stage descriptor ((emissionsOf stage past).map (·.id)) (storedOf past)
    (takenIds taken)

structure Ordered (topology : Topology) (engine : Engine) (past : List Occurrence)
    (taken : LinkId → List Packet) : Prop where
  posts : ∀ (stage : StageId) (post : Post), engine.posts[stage]? = some post →
    ∃ descriptor worker, topology.stages[stage]? = some descriptor ∧
      post.slot = .spawned worker ∧ Keeps topology past taken stage descriptor worker
  links : ∀ link,
    (engine.links.get link).InOrder (Output.idsOn link (storedOf past)) (takenIds taken link)
  vacant : ∀ link, topology.Circles link → Output.idsOn link (storedOf past) = []

private theorem Ordered.source (ordered : engine.Ordered topology past taken)
    (acted : engine.Acted action next effects) (allows : ¬ action.Supplies)
    (stores : Effect.stored link packet ∈ effects) :
    ∃ stage cancelFirst descriptor worker key, action = .worker stage cancelFirst ∧
      topology.stages[stage]? = some descriptor ∧ topology.Leaves link stage key ∧
      Keeps topology past taken stage descriptor worker ∧
      (link, packet) ∈ worker.control.outgoing := by
  obtain ⟨stage, cancelFirst, post, worker, same, found, runs, outgoing⟩ := acted.stores allows stores
  obtain ⟨descriptor, held, listed, spawned, keeps⟩ := ordered.posts stage post found
  cases runs.symm.trans spawned
  obtain ⟨key, leaves⟩ := keeps.leads _ outgoing
  exact ⟨stage, cancelFirst, descriptor, worker, key, same, listed, leaves, keeps, outgoing⟩

private theorem takenIds_append :
    takenIds (fun link => taken link ++ engine.taking next link) link =
      takenIds taken link ++ (MergeLedger.removed engine.links next.links link).toList.map (·.id) :=
  List.map_append

private theorem takenIds_grows : ∀ link, ∀ id ∈ takenIds taken link,
    id ∈ takenIds (fun link => taken link ++ engine.taking next link) link := by
  intro link id member
  rw [takenIds_append]
  exact List.mem_append_left _ member

private theorem Ordered.works (ordered : engine.Ordered topology past taken)
    (acted : engine.Acted (.worker stage cancelFirst) next effects) :
    ∃ descriptor worker, topology.stages[stage]? = some descriptor ∧
      next.slots = engine.slots.set stage (.spawned worker) ∧
      Keeps topology (past ++ [{ action := .worker stage cancelFirst, effects := effects }])
        (fun link => taken link ++ engine.taking next link) stage descriptor worker := by
  obtain ⟨post, worker, stepped, posts, notices, found, runs, step, same, did, slots⟩ := acted.steps
  obtain ⟨descriptor, held, listed, spawned, keeps⟩ := ordered.posts stage post found
  cases runs.symm.trans spawned
  have links : next.links = stepped.links := by rw [same]
  have moved := keeps.step listed (fun link packet lies => ((ordered.links link).slot packet lies).2)
    (@takenIds_grows engine next taken) ?_ step
  · have keepsOn : Keeps topology
        (past ++ [{ action := .worker stage cancelFirst, effects := effects }])
        (fun link => taken link ++ engine.taking next link) stage descriptor stepped.worker := by
      unfold Keeps
      rw [did, emissionsOf_noted, storedOf_noted, List.map_append]
      exact moved
    rcases slots with runsOn | ⟨_, crashed⟩
    · exact ⟨descriptor, _, listed, runsOn, keepsOn⟩
    · exact ⟨descriptor, _, listed, crashed, keepsOn.turn trivial (Or.inl rfl) (Or.inl rfl)⟩
  · intro link packet lay empty
    rw [takenIds_append, links, MergeLedger.removed_iff.mpr ⟨lay, empty⟩]
    exact List.mem_append_right _ (List.mem_singleton_self _)

private theorem idsOn_quiet (quiet : ¬ ∃ packet, Effect.stored link packet ∈ effects) :
    Output.idsOn link (effects.filterMap Effect.stored?) = [] := by
  apply List.eq_nil_iff_forall_not_mem.mpr
  intro id listed
  obtain ⟨packet, put, _⟩ := Output.mem_idsOn.mp listed
  exact quiet ⟨packet, Effect.mem_stored.mp put⟩

private theorem Ordered.increases (ordered : engine.Ordered topology past taken)
    (acted : engine.Acted action next effects) (allows : ¬ action.Supplies) (link : LinkId) :
    (Output.idsOn link (storedOf past) ++
      Output.idsOn link (effects.filterMap Effect.stored?)).Pairwise (· < ·) := by
  by_cases puts : ∃ packet, Effect.stored link packet ∈ effects
  · obtain ⟨packet, stores⟩ := puts
    obtain ⟨stage, cancelFirst, _, _, key, same, _, leaves, _⟩ := ordered.source acted allows stores
    subst same
    obtain ⟨descriptor, worker, _, _, keeps⟩ := ordered.works acted
    have sent := keeps.sent leaves
    rw [storedOf_append, Output.idsOn_append] at sent
    exact keeps.increasing.sublist sent
  · rw [idsOn_quiet puts, List.append_nil]
    exact (ordered.links link).increasing

private theorem Ordered.elsewhere {descriptor : StageDescriptor} {worker : Worker}
    (unique : (topology.stages.map (·.name)).Nodup) (ordered : engine.Ordered topology past taken)
    (acted : engine.Acted action next effects) (allows : ¬ action.Supplies)
    (rests : ∀ cancelFirst, action ≠ .worker stage cancelFirst)
    (keeps : Keeps topology past taken stage descriptor worker) :
    Keeps topology (past ++ [{ action := action, effects := effects }])
      (fun link => taken link ++ engine.taking next link) stage descriptor worker := by
  unfold Keeps
  rw [emissionsOf_other rests, storedOf_append]
  refine keeps.rest ?_ takenIds_grows
  intro link key leaves
  rw [Output.idsOn_append, idsOn_quiet, List.append_nil]
  rintro ⟨packet, stores⟩
  obtain ⟨acting, cancelFirst, _, _, _, same, _, also, _⟩ := ordered.source acted allows stores
  obtain ⟨here, _⟩ := leaves.unique unique also
  exact rests cancelFirst (here ▸ same)

private theorem Ordered.tracks {moved : Post} (unique : (topology.stages.map (·.name)).Nodup)
    (ordered : engine.Ordered topology past taken) (acted : engine.Acted action next effects)
    (allows : ¬ action.Supplies) (found : next.posts[stage]? = some moved) :
    ∃ descriptor worker, topology.stages[stage]? = some descriptor ∧
      moved.slot = .spawned worker ∧
      Keeps topology (past ++ [{ action := action, effects := effects }])
        (fun link => taken link ++ engine.taking next link) stage descriptor worker := by
  by_cases acts : ∃ cancelFirst, action = .worker stage cancelFirst
  · obtain ⟨cancelFirst, same⟩ := acts
    subst same
    obtain ⟨descriptor, worker, listed, slots, keeps⟩ := ordered.works acted
    exact ⟨descriptor, worker, listed, slot_of_set found slots, keeps⟩
  · have rests : ∀ cancelFirst, action ≠ .worker stage cancelFirst := fun _ same => acts ⟨_, same⟩
    obtain ⟨post, original, befalls⟩ := acted.befalls found
    obtain ⟨descriptor, worker, listed, spawned, keeps⟩ := ordered.posts stage post original
    have keepsOn := ordered.elsewhere unique acted allows rests keeps
    cases befalls with
    | rested => exact ⟨descriptor, worker, listed, spawned, keepsOn⟩
    | worked | failed => exact absurd rfl (rests _)
    | told runs told =>
        cases runs.symm.trans spawned
        obtain ⟨_, held, outgoing, suited⟩ := told.keeps
        exact ⟨descriptor, _, listed, rfl, keepsOn.turn (suited _ keeps.suits) held outgoing⟩

/-- Nothing comes out of a stage that only gets what has been around a cycle it is on. -/
private theorem Ordered.idle {descriptor : StageDescriptor} {worker : Worker} {incoming : LinkId}
    {key : String} (ordered : engine.Ordered topology past taken)
    (listed : topology.stages[stage]? = some descriptor) (leaves : topology.Leaves link stage key)
    (keeps : Keeps topology past taken stage descriptor worker)
    (only : topology.OnlyInput stage incoming) (circles : topology.Circles incoming) :
    (link, packet) ∉ worker.control.outgoing := by
  have single := keeps.fits.onlyInput listed only
  -- the stage hands out only what it took, and nothing was ever put where it takes from
  have nothing : (emissionsOf stage past).map (·.id) = [] := by
    apply List.eq_nil_iff_forall_not_mem.mpr
    intro id emitted
    have known := (ordered.links incoming).known id ((keeps.relaying incoming single).past id emitted)
    rw [ordered.vacant incoming circles] at known
    cases known
  intro outgoing
  have queued := keeps.queued link key leaves
  rw [nothing, Output.idsOn_append] at queued
  have here : packet.id ∈ Output.idsOn link worker.control.outgoing :=
    Output.mem_idsOn.mpr ⟨packet, outgoing, rfl⟩
  cases queued.subset (List.mem_append_right _ here)

theorem Ordered.acted (unique : (topology.stages.map (·.name)).Nodup)
    (ordered : engine.Ordered topology past taken) (allows : ¬ action.Supplies)
    (acted : engine.Acted action next effects) :
    next.Ordered topology (past ++ [{ action := action, effects := effects }])
      fun link => taken link ++ engine.taking next link := by
  refine ⟨fun stage post found => ordered.tracks unique acted allows found, ?_, ?_⟩
  · intro link
    rw [storedOf_append, Output.idsOn_append, takenIds_append]
    refine (ordered.links link).step (ordered.increases acted allows link) ?_
    intro packet slot
    rcases acted.settles slot with old | stores
    · exact Or.inl old
    · exact Or.inr (Output.mem_idsOn.mpr ⟨packet, Effect.mem_stored.mpr stores, rfl⟩)
  · intro link circles
    rw [storedOf_append, Output.idsOn_append, ordered.vacant link circles, idsOn_quiet]
    · rfl
    · -- whatever is put there comes out of a stage that another link of the cycle feeds alone
      rintro ⟨packet, stores⟩
      obtain ⟨stage, _, descriptor, worker, key, _, listed, leaves, keeps, outgoing⟩ :=
        ordered.source acted allows stores
      obtain ⟨incoming, only, around⟩ := circles.before unique leaves
      exact ordered.idle listed leaves keeps only around outgoing

theorem Ordered.drawn (unique : (topology.stages.map (·.name)).Nodup)
    (ordered : first.Ordered topology [] fun _ => [])
    (drawn : Draws (fun _ action => ¬ action.Supplies) first engine past taken) :
    engine.Ordered topology past taken := by
  induction drawn with
  | started => exact ordered
  | acted before allows acts ih => exact ih.acted unique allows (act_acted acts)
  | joined before ih => exact ⟨ih.posts, ih.links, ih.vacant⟩

end Engine
end Sluice
