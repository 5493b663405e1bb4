import Mathlib.Data.Finset.Card
import Mathlib.Data.List.Nodup
import Sluice.Proofs.Text.Trimming
import Sluice.Proofs.Topology.Faultless

set_option autoImplicit false

/-! The faults of a topology, one by one. Each name that occurred before, each stage without a method, each
end of an edge that names no stage and each edge from a stage to itself is listed once, in this order, and
nothing else is; so feedback through several stages never is. -/

namespace Sluice

def TopologyFault.isDuplicate : TopologyFault → Bool
  | .duplicateStageName _ => true
  | .missingMethod _ | .unresolvedEdgeEndpoint .. | .selfLoop _ => false

namespace Topology

def stageNames (topology : Topology) : List String :=
  topology.stages.map (·.name)

/-- The names that occur further ahead as well, one for each place where one does. -/
def recurring (names : List String) : List String :=
  (names.zipIdx.filter fun entry => entry.1 ∈ names.take entry.2).map Prod.fst

/-- The ends of an edge that name no stage, where it comes from before where it leads. -/
def unresolvedEnds (topology : Topology) (edge : EdgeDescriptor) : List TopologyFault :=
  (if edge.source ∈ topology.stageNames then []
    else [.unresolvedEdgeEndpoint edge.source edge.target edge.source]) ++
  (if edge.target ∈ topology.stageNames then []
    else [.unresolvedEdgeEndpoint edge.source edge.target edge.target])

def grievances (topology : Topology) : List TopologyFault :=
  (recurring topology.stageNames).map .duplicateStageName ++
    (topology.stages.filter fun stage => Text.trimBlanks stage.method.name.toList = []).map
      (fun stage => .missingMethod stage.name) ++
    topology.edges.flatMap topology.unresolvedEnds ++
    (topology.edges.filter fun edge => edge.source = edge.target).map (fun edge => .selfLoop edge.source)

structure Sound (topology : Topology) : Prop where
  unique : topology.stageNames.Nodup
  methods : ∀ stage ∈ topology.stages, Text.trimBlanks stage.method.name.toList ≠ []
  ends : ∀ edge ∈ topology.edges,
    edge.source ∈ topology.stageNames ∧ edge.target ∈ topology.stageNames
  apart : ∀ edge ∈ topology.edges, edge.source ≠ edge.target

variable {topology : Topology} {edge : EdgeDescriptor} {names seen : List String} {name : String}

/-- What is remembered of the names ahead counts as if it stood ahead. -/
theorem repeatedNames_eq :
    repeatedNames seen names =
      (names.zipIdx.filter fun entry => entry.1 ∈ seen ∨ entry.1 ∈ names.take entry.2).map Prod.fst := by
  induction names generalizing seen with
  | nil => rfl
  | cons name rest ih =>
      have later : (rest.zipIdx 1).filter (fun entry =>
            entry.1 ∈ seen ∨ entry.1 ∈ (name :: rest).take entry.2) =
          (rest.zipIdx.filter fun entry =>
            entry.1 ∈ name :: seen ∨ entry.1 ∈ rest.take entry.2).map
              (fun entry => (entry.1, 1 + entry.2)) := by
        rw [List.zipIdx_eq_map_add, List.filter_map]
        refine congrArg (List.map _) (List.filter_congr fun entry _ => ?_)
        simp only [Function.comp_apply, Nat.add_comm 1, List.take_succ_cons, List.mem_cons,
          decide_eq_decide]
        tauto
      have here : decide (name ∈ seen ∨ name ∈ (name :: rest).take 0) = decide (name ∈ seen) := by
        simp only [List.take_zero, List.not_mem_nil, or_false]
      simp only [repeatedNames, List.zipIdx_cons, Nat.zero_add, List.filter_cons, here, later, ih]
      by_cases known : name ∈ seen
      · have same : ∀ entry : String × Nat, (entry.1 ∈ name :: seen ∨ entry.1 ∈ rest.take entry.2) ↔
            (entry.1 ∈ seen ∨ entry.1 ∈ rest.take entry.2) := by
          intro entry
          refine or_congr_left ⟨?_, List.mem_cons_of_mem _⟩
          intro listed
          rcases List.mem_cons.mp listed with first | there
          · exact first ▸ known
          · exact there
        rw [if_pos (List.contains_iff_mem.mpr known), if_pos (decide_eq_true known)]
        simp only [same, List.map_cons, List.map_map]
        rfl
      · rw [if_neg (fun listed => known (List.contains_iff_mem.mp listed)),
          if_neg (fun listed => known (of_decide_eq_true listed)), List.map_map]
        rfl

theorem repeatedNames_recurring : repeatedNames [] names = recurring names := by
  rw [repeatedNames_eq]
  unfold recurring
  refine congrArg (List.map _) (List.filter_congr fun entry _ => ?_)
  simp only [List.not_mem_nil, false_or]

private theorem length_repeatedNames :
    (repeatedNames seen names).length + (names.toFinset \ seen.toFinset).card = names.length := by
  induction names generalizing seen with
  | nil => simp [repeatedNames]
  | cons name rest ih =>
      simp only [repeatedNames, List.toFinset_cons, List.length_cons]
      by_cases known : name ∈ seen
      · have before := @ih seen
        rw [if_pos (List.contains_iff_mem.mpr known),
          Finset.insert_sdiff_of_mem _ (List.mem_toFinset.mpr known), List.length_cons]
        omega
      · have before := @ih (name :: seen)
        rw [List.toFinset_cons] at before
        have fresh : name ∉ seen.toFinset := fun listed => known (List.mem_toFinset.mp listed)
        have apart : insert name rest.toFinset \ seen.toFinset =
            insert name (rest.toFinset \ insert name seen.toFinset) := by
          ext other
          simp only [Finset.mem_sdiff, Finset.mem_insert]
          by_cases same : other = name
          · subst same
            exact iff_of_true ⟨Or.inl rfl, fresh⟩ (Or.inl rfl)
          · simp only [same, false_or]
        have new : name ∉ rest.toFinset \ insert name seen.toFinset := by
          rw [Finset.mem_sdiff]
          exact fun listed => listed.2 (Finset.mem_insert_self _ _)
        rw [if_neg (fun listed => known (List.contains_iff_mem.mp listed)), apart,
          Finset.card_insert_of_notMem new]
        omega

theorem length_recurring : (recurring names).length + names.toFinset.card = names.length := by
  have balance := @length_repeatedNames names []
  rw [repeatedNames_recurring, List.toFinset_nil, Finset.sdiff_empty] at balance
  exact balance

theorem recurring_nil (unique : names.Nodup) : recurring names = [] := by
  have balance := @length_recurring names
  rw [List.toFinset_card_of_nodup unique] at balance
  exact List.eq_nil_of_length_eq_zero (by omega)

theorem isNone_stage : (topology.stage? name).isNone = true ↔ name ∉ topology.stageNames := by
  unfold stage? stageNames
  rw [Option.isNone_iff_eq_none, List.find?_eq_none, List.mem_map]
  constructor
  · rintro none ⟨stage, listed, same⟩
    exact none stage listed (decide_eq_true same)
  · intro absent stage listed same
    exact absent ⟨stage, listed, of_decide_eq_true same⟩

theorem danglingEnds_eq : topology.danglingEnds edge = topology.unresolvedEnds edge := by
  have known : ∀ name, (topology.stage? name).isNone = decide (name ∉ topology.stageNames) := by
    intro name
    rw [Bool.eq_iff_iff, decide_eq_true_iff]
    exact isNone_stage
  unfold danglingEnds unresolvedEnds
  simp only [known]
  by_cases source : edge.source ∈ topology.stageNames <;>
    by_cases target : edge.target ∈ topology.stageNames <;>
      simp [source, target]

theorem faults_eq : topology.faults = topology.grievances := by
  have ends : topology.edges.flatMap topology.danglingEnds =
      topology.edges.flatMap topology.unresolvedEnds :=
    congrArg topology.edges.flatMap (funext fun _ => danglingEnds_eq)
  have methods : topology.missingMethods =
      (topology.stages.filter fun stage => Text.trimBlanks stage.method.name.toList = []).map
        fun stage => .missingMethod stage.name := by
    refine congrArg (List.map _) (List.filter_congr fun stage _ => ?_)
    rw [Bool.eq_iff_iff, decide_eq_true_iff]
    exact Text.allBlank_iff
  unfold faults grievances duplicateNames selfLoops
  rw [ends, methods]
  exact congrArg (fun names => List.map _ names ++ _ ++ _ ++ _) repeatedNames_recurring

theorem sound_of_faultless (faultless : topology.faults = []) : topology.Sound := by
  refine ⟨unique_of_faultless faultless, ?_, ?_, ?_⟩
  · intro stage listed blank
    rw [faults_eq] at faultless
    unfold grievances at faultless
    have methods := (List.append_eq_nil_iff.mp (List.append_eq_nil_iff.mp
      (List.append_eq_nil_iff.mp faultless).1).1).2
    exact List.filter_eq_nil_iff.mp (List.map_eq_nil_iff.mp methods) stage listed (decide_eq_true blank)
  · intro edge listed
    exact ⟨ends_of_faultless faultless listed (Or.inl rfl),
      ends_of_faultless faultless listed (Or.inr rfl)⟩
  · intro edge listed
    exact apart_of_faultless faultless listed

theorem Sound.faultless (sound : topology.Sound) : topology.faults = [] := by
  have methods : (topology.stages.filter fun stage =>
      Text.trimBlanks stage.method.name.toList = []) = [] :=
    List.filter_eq_nil_iff.mpr fun stage listed blank =>
      sound.methods stage listed (of_decide_eq_true blank)
  have ends : topology.edges.flatMap topology.unresolvedEnds = [] := by
    refine List.flatMap_eq_nil_iff.mpr fun edge listed => ?_
    obtain ⟨source, target⟩ := sound.ends edge listed
    unfold unresolvedEnds
    rw [if_pos source, if_pos target]
    rfl
  have apart : (topology.edges.filter fun edge => edge.source = edge.target) = [] :=
    List.filter_eq_nil_iff.mpr fun edge listed same =>
      sound.apart edge listed (of_decide_eq_true same)
  rw [faults_eq]
  unfold grievances
  rw [recurring_nil sound.unique, methods, ends, apart]
  rfl

theorem countP_isDuplicate :
    topology.faults.countP (·.isDuplicate) = (recurring topology.stageNames).length := by
  have dangling : (topology.edges.flatMap topology.unresolvedEnds).countP (·.isDuplicate) = 0 := by
    refine List.countP_eq_zero.mpr fun fault listed => ?_
    obtain ⟨edge, _, ends⟩ := List.mem_flatMap.mp listed
    rcases List.mem_append.mp ends with source | target
    · split at source
      · cases source
      · cases List.mem_singleton.mp source
        exact Bool.false_ne_true
    · split at target
      · cases target
      · cases List.mem_singleton.mp target
        exact Bool.false_ne_true
  rw [faults_eq]
  unfold grievances
  rw [List.countP_append, List.countP_append, List.countP_append, dangling, List.countP_map,
    List.countP_map, List.countP_map]
  have all : (recurring topology.stageNames).countP
      ((·.isDuplicate) ∘ TopologyFault.duplicateStageName) = (recurring topology.stageNames).length :=
    List.countP_eq_length.mpr fun _ _ => rfl
  have methods : (topology.stages.filter fun stage =>
      Text.trimBlanks stage.method.name.toList = []).countP
        ((·.isDuplicate) ∘ fun stage => TopologyFault.missingMethod stage.name) = 0 :=
    List.countP_eq_zero.mpr fun _ _ => Bool.false_ne_true
  have loops : (topology.edges.filter fun edge => edge.source = edge.target).countP
        ((·.isDuplicate) ∘ fun edge => TopologyFault.selfLoop edge.source) = 0 :=
    List.countP_eq_zero.mpr fun _ _ => Bool.false_ne_true
  omega

/-- Edges that lead from each stage to the next and from the last one back to the first, through at least
two stages and through none of them twice. -/
structure Feedback (edges : List EdgeDescriptor) : Prop where
  linked : ∀ place edge next, edges[place]? = some edge →
    edges[(place + 1) % edges.length]? = some next → edge.target = next.source
  once : (edges.map (·.source)).Nodup
  several : 2 ≤ edges.length

variable {edges : List EdgeDescriptor}

theorem Feedback.follows (feedback : Feedback edges) (listed : edge ∈ edges) :
    (∃ next ∈ edges, edge.target = next.source) ∧ edge.source ≠ edge.target := by
  obtain ⟨place, found⟩ := List.mem_iff_getElem?.mp listed
  have within : place < edges.length := (List.getElem?_eq_some_iff.mp found).1
  have several := feedback.several
  have onward : (place + 1) % edges.length < edges.length := Nat.mod_lt _ (by omega)
  have there := List.getElem?_eq_getElem onward
  have leads := feedback.linked place edge _ found there
  refine ⟨⟨_, List.getElem_mem onward, leads⟩, ?_⟩
  intro same
  have places : place = (place + 1) % edges.length := by
    have listed : place < (edges.map (·.source)).length := by rwa [List.length_map]
    apply (List.getElem?_inj listed feedback.once).mp
    rw [List.getElem?_map, List.getElem?_map, found, there]
    exact congrArg some (same.trans leads)
  rcases Nat.lt_or_ge (place + 1) edges.length with before | last
  · rw [Nat.mod_eq_of_lt before] at places
    omega
  · have wraps : place + 1 = edges.length := by omega
    rw [wraps, Nat.mod_self] at places
    omega

def without (topology : Topology) (edges : List EdgeDescriptor) : Topology :=
  { topology with edges := topology.edges.filter (· ∉ edges) }

theorem faults_without (proper : ∀ edge ∈ edges, edge.source ≠ edge.target ∧
    edge.source ∈ topology.stageNames ∧ edge.target ∈ topology.stageNames) :
    (topology.without edges).faults = topology.faults := by
  have ends : ∀ some : List EdgeDescriptor, (some.filter (· ∉ edges)).flatMap topology.unresolvedEnds =
      some.flatMap topology.unresolvedEnds := by
    intro some
    induction some with
    | nil => rfl
    | cons edge rest ih =>
        rw [List.flatMap_cons]
        by_cases listed : edge ∈ edges
        · obtain ⟨_, source, target⟩ := proper edge listed
          have resolved : topology.unresolvedEnds edge = [] := by
            unfold unresolvedEnds
            rw [if_pos source, if_pos target]
            rfl
          rw [List.filter_cons_of_neg (by simp [listed]), ih, resolved, List.nil_append]
        · rw [List.filter_cons_of_pos (by simp [listed]), List.flatMap_cons, ih]
  have loops : (topology.edges.filter (· ∉ edges)).filter (fun edge => edge.source = edge.target) =
      topology.edges.filter fun edge => edge.source = edge.target := by
    rw [List.filter_filter]
    refine List.filter_congr fun edge _ => ?_
    by_cases listed : edge ∈ edges
    · simp [(proper edge listed).1]
    · simp [listed]
  rw [faults_eq, faults_eq]
  change _ ++ _ ++ (topology.edges.filter (· ∉ edges)).flatMap topology.unresolvedEnds ++
    ((topology.edges.filter (· ∉ edges)).filter fun edge => edge.source = edge.target).map _ = _
  rw [ends, loops]
  rfl

/-- The faults of a topology are all that is wrong with it, in their order. There are none exactly if no two
stages share a name, every stage names a method, and every edge joins two different stages; there are as many
duplicates as stages beyond the distinct names; and a feedback through several stages adds none. -/
theorem faults_exact (topology : Topology) :
    (topology.faults = [] ↔ topology.Sound) ∧
    topology.faults = topology.grievances ∧
    topology.faults.countP (·.isDuplicate) + topology.stageNames.toFinset.card =
      topology.stages.length ∧
    ∀ edges, Feedback edges → (∀ edge ∈ edges, edge.source ∈ topology.stageNames) →
      (topology.without edges).faults = topology.faults := by
  refine ⟨⟨sound_of_faultless, Sound.faultless⟩, faults_eq, ?_, ?_⟩
  · have balance := @length_recurring topology.stageNames
    have names : topology.stageNames.length = topology.stages.length := List.length_map _
    rw [countP_isDuplicate]
    omega
  · intro edges feedback there
    apply faults_without
    intro edge listed
    obtain ⟨⟨next, follows, leads⟩, apart⟩ := feedback.follows listed
    exact ⟨apart, there edge listed, leads ▸ there next follows⟩

namespace Muddle

def stage (name method : String) : StageDescriptor :=
  { name := name, host := "localhost", port := 50051
    method :=
      { name := method, shape := .unary, input := { name := "", records := [] }
        output := { name := "", records := [] } }
    mode := .continuous }

def line (source target : String) : EdgeDescriptor :=
  { source := source, target := target, sourceField := none, targetField := none }

def feedback : List EdgeDescriptor :=
  [line "mixer" "filter", line "filter" "mixer"]

/-- A name that is taken, a stage without a method, and an edge from an unknown stage to itself. -/
def graph : Topology :=
  { stages := [stage "mixer" "audio.Mixer/Mix", stage "filter" " \t", stage "mixer" "audio.Mixer/Mix"]
    edges := feedback ++ [line "ghost" "ghost"] }

end Muddle

theorem faults_exact_muddle :
    Feedback Muddle.feedback ∧
      (∀ edge ∈ Muddle.feedback, edge.source ∈ Muddle.graph.stageNames) ∧
      (Muddle.graph.without Muddle.feedback).faults = Muddle.graph.faults ∧
      Muddle.graph.faults =
        [.duplicateStageName "mixer", .missingMethod "filter",
          .unresolvedEdgeEndpoint "ghost" "ghost" "ghost",
          .unresolvedEdgeEndpoint "ghost" "ghost" "ghost", .selfLoop "ghost"] := by
  obtain ⟨_, listed, _, unharmed⟩ := faults_exact Muddle.graph
  have feedback : Feedback Muddle.feedback := by
    refine ⟨?_, by decide, by decide⟩
    rintro (_ | _ | place) edge next found follows
    · cases found
      cases follows
      rfl
    · cases found
      cases follows
      rfl
    · cases found
  have there : ∀ edge ∈ Muddle.feedback, edge.source ∈ Muddle.graph.stageNames := by decide
  exact ⟨feedback, there, unharmed Muddle.feedback feedback there, listed.trans (by decide)⟩

end Topology
end Sluice
