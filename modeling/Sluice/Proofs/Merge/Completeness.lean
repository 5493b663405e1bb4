import Mathlib.Data.List.Nodup
import Sluice.Proofs.Merge.Soundness

set_option autoImplicit false

/-! Completeness of a merge whose fields receive increasing ids: at rest, the ids of rendezvous are
exactly those that every field has received. An id below the floor that was not met is one that some
field has passed by, and an increasing field never returns to it. -/

namespace Sluice
namespace MergeLedger

variable {ledger : MergeLedger} {field : MergeField} {packet composite : Packet} {floor : Nat}
  {name : String}

/-- Every field received increasing ids, those discarded included. -/
def Ordered (ledger : MergeLedger) : Prop :=
  ∀ name, (ledger.idsOf name).Pairwise (· < ·)

private theorem idsOf_mapped {change : Intake → Intake} {intakes : List Intake}
    (named : ∀ intake, (change intake).field = intake.field)
    (kept : ∀ intake, (change intake).packet = intake.packet) :
    ((intakes.map change).filter fun intake => intake.field = name).map (·.packet.id) =
      (intakes.filter fun intake => intake.field = name).map (·.packet.id) := by
  rw [List.filter_map, List.map_map]
  simp only [Function.comp_def, named, kept]

private theorem idsOf_append (intakes : List Intake) (intake : Intake) :
    ((intakes ++ [intake]).filter fun intake => intake.field = name).map (·.packet.id) =
      (intakes.filter fun intake => intake.field = name).map (·.packet.id) ++
        if intake.field = name then [intake.packet.id] else [] := by
  rw [List.filter_append, List.map_append]
  by_cases same : intake.field = name <;> simp [same]

theorem idsOf_discard :
    (ledger.discard field packet floor).idsOf name =
      ledger.idsOf name ++ if field.name = name then [packet.id] else [] :=
  idsOf_append _ _

theorem idsOf_keep :
    (ledger.keep field packet floor).idsOf name =
      ledger.idsOf name ++ if field.name = name then [packet.id] else [] := by
  unfold idsOf keep
  rw [idsOf_append, idsOf_mapped (fun _ => Intake.field_release) fun _ => Intake.packet_release]

theorem idsOf_emit (rendezvous : Nat) :
    (ledger.emit composite rendezvous).idsOf name = ledger.idsOf name := by
  unfold idsOf emit
  exact idsOf_mapped (fun _ => Intake.field_join) fun _ => Intake.packet_join

theorem mem_idsOf {id : Nat} :
    id ∈ ledger.idsOf name ↔ ∃ intake ∈ ledger.intakes, intake.field = name ∧ intake.packet.id = id := by
  unfold idsOf
  rw [List.mem_map]
  constructor
  · rintro ⟨intake, member, same⟩
    obtain ⟨taken, named⟩ := List.mem_filter.mp member
    exact ⟨intake, taken, of_decide_eq_true named, same⟩
  · rintro ⟨intake, taken, named, same⟩
    exact ⟨intake, List.mem_filter.mpr ⟨taken, decide_eq_true named⟩, same⟩

theorem Ordered.unique {left right : Intake} (ordered : ledger.Ordered)
    (leftTaken : left ∈ ledger.intakes) (rightTaken : right ∈ ledger.intakes)
    (sameField : left.field = right.field) (sameId : left.packet.id = right.packet.id) :
    left = right := by
  have ids : (ledger.idsOf right.field).Nodup := (ordered right.field).imp Nat.ne_of_lt
  apply List.inj_on_of_nodup_map ids
  · exact List.mem_filter.mpr ⟨leftTaken, decide_eq_true sameField⟩
  · exact List.mem_filter.mpr ⟨rightTaken, decide_eq_true rfl⟩
  · exact sameId

theorem ordered_iff :
    ledger.Ordered ↔ ∀ intake ∈ ledger.intakes, (ledger.idsOf intake.field).Pairwise (· < ·) := by
  constructor
  · intro ordered intake _
    exact ordered intake.field
  · intro ordered name
    cases received : ledger.idsOf name with
    | nil => exact List.Pairwise.nil
    | cons id rest =>
        have listed : id ∈ ledger.idsOf name := received ▸ List.mem_cons_self
        obtain ⟨intake, taken, same, _⟩ := mem_idsOf.mp listed
        rw [← received, ← same]
        exact ordered intake taken

instance : Decidable ledger.Ordered :=
  decidable_of_iff _ ordered_iff.symm

/-- An id that a field has passed by without receiving it. -/
def Passed (ledger : MergeLedger) (name : String) (id : Nat) : Prop :=
  id ∉ ledger.idsOf name ∧ ∃ later ∈ ledger.idsOf name, id < later

/-- Below the floor every id was met or passed by. -/
def Thorough (ledger : MergeLedger) (names : List String) (floor : Nat) : Prop :=
  ∀ id < floor, id ∈ ledger.rendezvous ∨ ∃ name ∈ names, ledger.Passed name id

private theorem passed_grown {grown : MergeLedger} {other : String} {id received : Nat}
    (ordered : grown.Ordered)
    (grows : ∀ name, grown.idsOf name =
      ledger.idsOf name ++ if other = name then [received] else [])
    (passed : ledger.Passed name id) : grown.Passed name id := by
  obtain ⟨absent, later, member, before⟩ := passed
  unfold Passed
  rw [grows]
  refine ⟨?_, later, List.mem_append_left _ member, before⟩
  intro listed
  rcases List.mem_append.mp listed with old | new
  · exact absent old
  · by_cases same : other = name
    · rw [if_pos same] at new
      cases List.mem_singleton.mp new
      have increasing := ordered name
      rw [grows, if_pos same] at increasing
      have above := (List.pairwise_append.mp increasing).2.2 later member id List.mem_cons_self
      omega
    · rw [if_neg same] at new
      cases new

theorem ordered_of_grown {grown : MergeLedger} {other : String} {received : Nat}
    (ordered : grown.Ordered)
    (grows : ∀ name, grown.idsOf name =
      ledger.idsOf name ++ if other = name then [received] else []) : ledger.Ordered := by
  intro name
  have increasing := ordered name
  rw [grows] at increasing
  exact (List.pairwise_append.mp increasing).1

end MergeLedger

namespace MergeSession

/-- A field has received nothing but ids below the floor and the id that it caches. -/
def Recent (ledger : MergeLedger) (floor : Nat) (field : MergeField) : Prop :=
  ∀ id ∈ ledger.idsOf field.name, id < floor ∨ Merge.StandsAt field id

structure Gathered (layout : List (String × LinkId)) (session : MergeSession) : Prop where
  coherent : session.Coherent layout
  recent : ∀ field ∈ session.merge.fields, Recent session.ledger session.merge.floor field
  /-- Between calls some field is behind. -/
  behind : session.call = none → ∃ field ∈ session.merge.fields,
    ∀ id ∈ session.ledger.idsOf field.name, id < session.merge.floor
  thorough : session.ledger.Ordered →
    session.ledger.Thorough (layout.map Prod.fst) session.merge.floor

variable {layout : List (String × LinkId)} {session next : MergeSession}

theorem below_of_recent {ledger : MergeLedger} {floor : Nat} {field : MergeField}
    (recent : Recent ledger floor field) (lies : Merge.LiesBelow field floor) :
    ∀ id ∈ ledger.idsOf field.name, id < floor := by
  intro id listed
  rcases recent id listed with below | ⟨packet, cached, same⟩
  · exact below
  · exact same ▸ lies packet cached

variable {links : LinkStore} {merge after : Merge} {call : MergeCall} {stepped : MergeStep}
  {ledger grown : MergeLedger} {names : List String}

theorem recent_grown (distinct : merge.Distinct) (grows : Grown ledger merge after grown)
    (recent : ∀ field ∈ merge.fields, Recent ledger merge.floor field) :
    ∀ field ∈ after.fields, Recent grown after.floor field := by
  intro field member id listed
  cases grows with
  | unchanged => exact recent field member id listed
  | emitted complete =>
      rw [MergeLedger.idsOf_emit] at listed
      rcases recent field member id listed with below | stands
      · exact Or.inl (Nat.lt_succ_of_lt below)
      · exact Or.inr stands
  | @discarded position received packet found below =>
      rw [MergeLedger.idsOf_discard] at listed
      rcases List.mem_append.mp listed with old | new
      · exact recent field member id old
      · by_cases same : received.name = field.name
        · rw [if_pos same] at new
          cases List.mem_singleton.mp new
          exact Or.inl below
        · rw [if_neg same] at new
          cases new
  | @kept position received packet found lies reaches =>
      rw [MergeLedger.idsOf_keep] at listed
      rcases Merge.mem_fields_cache found member with same | ⟨index, apart, original⟩
      · subst same
        rcases List.mem_append.mp listed with old | new
        · have before := below_of_recent (recent received (List.mem_of_getElem? found)) lies id old
          exact Or.inl (Nat.lt_of_lt_of_le before reaches)
        · rw [if_pos rfl] at new
          cases List.mem_singleton.mp new
          exact Or.inr ⟨packet, rfl, rfl⟩
      · have different : received.name ≠ field.name := fun same => apart (distinct.at found original same)
        rw [if_neg different, List.append_nil] at listed
        rcases recent field (List.mem_of_getElem? original) id listed with below | stands
        · exact Or.inl (Nat.lt_of_lt_of_le below reaches)
        · exact Or.inr stands

theorem behind_stepped (filled : merge.fields ≠ []) (steady : merge.Steady (some call))
    (recent : ∀ field ∈ merge.fields, Recent ledger merge.floor field)
    (moved : merge.Stepped links call stepped) (ended : stepped.outcome.getLeft? = none) :
    ∃ field ∈ stepped.merge.fields,
      ∀ id ∈ (ledger.record links merge call stepped).idsOf field.name, id < stepped.merge.floor := by
  cases moved with
  | emitted beyond =>
      obtain ⟨field, member⟩ := List.exists_mem_of_ne_nil merge.fields filled
      refine ⟨field, member, ?_⟩
      intro id listed
      change id ∈ (ledger.emit merge.emit.2 merge.floor).idsOf field.name at listed
      rw [MergeLedger.idsOf_emit] at listed
      obtain ⟨held, cached, level⟩ := steady.complete beyond field member
      rcases recent field member id listed with below | ⟨packet, same, atId⟩
      · exact Nat.lt_succ_of_lt below
      · cases same.symm.trans cached
        exact Nat.lt_succ_of_le (Nat.le_of_eq (atId.symm.trans level))
  | @cancelled position posture field link found keeps =>
      obtain ⟨awaited, sameField, lies⟩ := steady.awaited position posture rfl
      refine ⟨awaited, List.mem_of_getElem? sameField, ?_⟩
      rw [MergeLedger.record_waited found keeps (by intro composite impossible; cases impossible)]
      exact below_of_recent (recent awaited (List.mem_of_getElem? sameField)) lies
  | overflowed | reused | turned | waited | discarded | kept => cases ended

/-- An increasing ledger that was thorough below the old floor is thorough below the new one: the field
that raised the floor had received nothing from the ids in between. -/
theorem thorough_grown (named : ∀ field ∈ merge.fields, field.name ∈ names)
    (recent : ∀ field ∈ merge.fields, Recent ledger merge.floor field)
    (grows : Grown ledger merge after grown)
    (thorough : ledger.Ordered → ledger.Thorough names merge.floor) (ordered : grown.Ordered) :
    grown.Thorough names after.floor := by
  cases grows with
  | unchanged => exact thorough ordered
  | emitted complete =>
      have before : ledger.Ordered := by
        intro name
        have increasing := ordered name
        rw [MergeLedger.idsOf_emit] at increasing
        exact increasing
      intro id below
      rw [MergeLedger.rendezvous_emit]
      rcases Nat.lt_succ_iff_lt_or_eq.mp below with earlier | last
      · rcases thorough before id earlier with met | ⟨name, listed, passed⟩
        · exact Or.inl (List.mem_append_left _ met)
        · refine Or.inr ⟨name, listed, ?_⟩
          unfold MergeLedger.Passed
          rw [MergeLedger.idsOf_emit]
          exact passed
      · subst last
        exact Or.inl (List.mem_append_right _ List.mem_cons_self)
  | @discarded position field packet found =>
      intro id below
      have before := MergeLedger.ordered_of_grown ordered fun name => MergeLedger.idsOf_discard
      rcases thorough before id below with met | ⟨name, listed, passed⟩
      · exact Or.inl met
      · exact Or.inr ⟨name, listed,
          MergeLedger.passed_grown ordered (fun name => MergeLedger.idsOf_discard) passed⟩
  | @kept position field packet found lies reaches =>
      intro id below
      have before := MergeLedger.ordered_of_grown ordered fun name => MergeLedger.idsOf_keep
      have member := List.mem_of_getElem? found
      rcases Nat.lt_or_ge id merge.floor with earlier | later
      · rcases thorough before id earlier with met | ⟨name, listed, passed⟩
        · exact Or.inl met
        · exact Or.inr ⟨name, listed,
            MergeLedger.passed_grown ordered (fun name => MergeLedger.idsOf_keep) passed⟩
      -- from the old floor up to the packet the field had nothing, and it will not go back
      · refine Or.inr ⟨field.name, named field member, ?_⟩
        unfold MergeLedger.Passed
        rw [MergeLedger.idsOf_keep, if_pos rfl]
        refine ⟨?_, packet.id, List.mem_append_right _ List.mem_cons_self, below⟩
        intro listed
        rcases List.mem_append.mp listed with old | new
        · have under := below_of_recent (recent field member) lies id old
          omega
        · cases List.mem_singleton.mp new
          exact Nat.lt_irrefl _ below

theorem Gathered.moved (filled : layout ≠ []) (gathered : session.Gathered layout)
    (moved : session.Moved next) : next.Gathered layout := by
  have coherent := gathered.coherent.moved filled moved
  cases moved with
  | put => exact ⟨coherent, gathered.recent, gathered.behind, gathered.thorough⟩
  | begun idle =>
      refine ⟨coherent, gathered.recent, ?_, gathered.thorough⟩
      intro impossible
      cases impossible
  | stepped under step =>
      have steady := gathered.coherent.steady
      rw [under] at steady
      have grows := @grown_stepped _ _ _ _ session.ledger steady step
      have fields : session.merge.fields ≠ [] := by
        intro none
        apply filled
        rw [← gathered.coherent.layout, Merge.layout, none]
        rfl
      refine ⟨coherent, recent_grown gathered.coherent.distinct grows gathered.recent, ?_, ?_⟩
      · exact behind_stepped fields steady gathered.recent step
      · refine thorough_grown ?_ gathered.recent grows gathered.thorough
        intro field member
        rw [← gathered.coherent.layout]
        exact List.mem_map.mpr ⟨(field.name, field.link), List.mem_map.mpr ⟨field, member, rfl⟩, rfl⟩

theorem gathered_run {links : LinkStore} {bindings : List Binding} {actions : List MergeAction}
    {session : MergeSession} (filled : bindings ≠ [])
    (distinct : (bindings.map (·.field)).Nodup)
    (ran : run actions (start links bindings) = some session) :
    session.Gathered (layoutOf bindings) := by
  have present := layoutOf_filled filled
  have initial : (start links bindings).Gathered (layoutOf bindings) := by
    refine ⟨coherent_start distinct, ?_, ?_, ?_⟩
    · intro field member id impossible
      cases impossible
    · intro idle
      obtain ⟨entry, listed⟩ := List.exists_mem_of_ne_nil _ present
      obtain ⟨field, member, _⟩ := List.mem_map.mp listed
      refine ⟨field, member, ?_⟩
      intro id impossible
      cases impossible
    · intro ordered id impossible
      exact absurd impossible (Nat.not_lt_zero id)
  exact run_keeps (fun gathered moved => gathered.moved present moved) initial ran

theorem Gathered.behind_settled (gathered : session.Gathered layout) (settled : session.Settled) :
    ∃ field ∈ session.merge.fields,
      ∀ id ∈ session.ledger.idsOf field.name, id < session.merge.floor := by
  rcases settled with idle | ⟨position, posture, waits⟩
  · exact gathered.behind idle
  · obtain ⟨field, found, lies⟩ := gathered.coherent.steady.awaited position posture waits
    have member := List.mem_of_getElem? found
    exact ⟨field, member, below_of_recent (gathered.recent field member) lies⟩

/-- What makes a session over these bindings the sorted join of what it received. -/
structure Joined (bindings : List Binding) (session : MergeSession) : Prop where
  met : ∀ id, id ∈ session.ledger.rendezvous ↔
    ∀ binding ∈ bindings, id ∈ session.ledger.idsOf binding.field
  increasing : session.ledger.rendezvous.Pairwise (· < ·)
  parts : ∀ emission ∈ session.ledger.emissions, ∀ binding ∈ bindings,
    ∀ intake ∈ session.ledger.intakes, intake.field = binding.field →
      intake.packet.id = emission.rendezvous →
        emission.composite.message.Holds binding.field intake.packet.message

/-- Where every field receives increasing ids, those discarded included, the ids of rendezvous at rest
are exactly the ids that every field has received; they increase, and a composite carries the messages
received under its id. Ids count for the field that receives them, so that fields may share a link. -/
theorem merge_run_complete {links : LinkStore} {bindings : List Binding}
    {actions : List MergeAction} {session : MergeSession} (several : 2 ≤ bindings.length)
    (distinct : (bindings.map (·.field)).Nodup)
    (ran : run actions (start links bindings) = some session)
    (ordered : session.ledger.Ordered) (settled : session.Settled) : session.Joined bindings := by
  have filled : bindings ≠ [] := by
    intro none
    rw [none] at several
    cases several
  have gathered := gathered_run filled distinct ran
  have faithful := gathered.coherent.faithful
  have parts : ∀ emission ∈ session.ledger.emissions, ∀ binding ∈ bindings,
      ∃ intake ∈ session.ledger.intakes, intake.field = binding.field ∧
        intake.packet.id = emission.rendezvous ∧
        emission.composite.message.Holds binding.field intake.packet.message := by
    intro emission listed binding bound
    obtain ⟨number, atNumber⟩ := List.mem_iff_getElem?.mp listed
    obtain ⟨intake, one, _, level, holds⟩ := faithful.parts number emission atNumber binding bound
    have having : intake ∈ session.ledger.having binding.field (.joined number) :=
      one ▸ List.mem_singleton_self intake
    obtain ⟨taken, sameField, _⟩ := MergeLedger.mem_having.mp having
    exact ⟨intake, taken, sameField, level, holds⟩
  refine ⟨?_, faithful.increasing, ?_⟩
  · intro id
    constructor
    · intro met binding bound
      obtain ⟨emission, listed, same⟩ := List.mem_map.mp met
      obtain ⟨intake, taken, sameField, level, _⟩ := parts emission listed binding bound
      exact MergeLedger.mem_idsOf.mpr ⟨intake, taken, sameField, level.trans same⟩
    · intro received
      have everywhere : ∀ name ∈ (layoutOf bindings).map Prod.fst, id ∈ session.ledger.idsOf name := by
        intro name named
        obtain ⟨binding, bound, same⟩ := List.mem_map.mp (mem_layoutOf_names.mp named)
        exact same ▸ received binding bound
      obtain ⟨field, member, below⟩ := gathered.behind_settled settled
      have named : field.name ∈ (layoutOf bindings).map Prod.fst := by
        rw [← gathered.coherent.layout]
        exact List.mem_map.mpr ⟨(field.name, field.link), List.mem_map.mpr ⟨field, member, rfl⟩, rfl⟩
      rcases gathered.thorough ordered id (below id (everywhere field.name named)) with
        met | ⟨name, listed, absent, _⟩
      · exact met
      · exact absurd (everywhere name listed) absent
  · intro emission listed binding bound intake taken sameField level
    obtain ⟨joined, joinedTaken, joinedField, joinedLevel, holds⟩ := parts emission listed binding bound
    have same := ordered.unique joinedTaken taken (joinedField.trans sameField.symm)
      (joinedLevel.trans level.symm)
    exact same ▸ holds

theorem merge_run_complete_meeting :
    2 ≤ Meeting.bindings.length ∧ (Meeting.bindings.map (·.field)).Nodup ∧
      ∃ session, run (Meeting.opening ++ Meeting.closing) (start Meeting.channels Meeting.bindings) =
          some session ∧ session.ledger.Ordered ∧ session.Settled ∧
        session.ledger.rendezvous = [4] ∧ session.Joined Meeting.bindings := by
  have several : 2 ≤ Meeting.bindings.length := by decide
  have distinct : (Meeting.bindings.map (·.field)).Nodup := by decide
  have met : (run (Meeting.opening ++ Meeting.closing) (start Meeting.channels Meeting.bindings)).map
      (fun session => (session.ledger.rendezvous, decide session.ledger.Ordered,
        session.call.isNone)) = some ([4], true, true) := by decide
  obtain ⟨session, ran, seen⟩ := Option.map_eq_some_iff.mp met
  have joined : session.ledger.rendezvous = [4] := congrArg Prod.fst seen
  have ordered : session.ledger.Ordered := of_decide_eq_true (congrArg (·.2.1) seen)
  have settled : session.Settled := Or.inl (Option.isNone_iff_eq_none.mp (congrArg (·.2.2) seen))
  exact ⟨several, distinct, session, ran, ordered, settled, joined,
    merge_run_complete several distinct ran ordered settled⟩

end MergeSession
end Sluice
