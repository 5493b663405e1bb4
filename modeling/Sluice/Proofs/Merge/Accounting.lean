import Sluice.Proofs.Merge.Ledger

set_option autoImplicit false

/-! The laws of the ledger. Each entry keeps its promise: what is held stands in a field's cache, what
was joined is a part of one composite under that composite's id, what was dropped lay below the floor
of that moment. Each of the three ways in which the ledger changes keeps these laws. -/

namespace Sluice

namespace Intake

variable {intake : Intake} {name : String} {floor number last lost : Nat}

theorem field_release : (intake.release name floor).field = intake.field := by
  unfold release
  split <;> rfl

theorem link_release : (intake.release name floor).link = intake.link := by
  unfold release
  split <;> rfl

theorem packet_release : (intake.release name floor).packet = intake.packet := by
  unfold release
  split <;> rfl

theorem joined_release (fate : (intake.release name floor).fate = .joined number) :
    intake.fate = .joined number := by
  unfold release at fate
  split at fate
  · cases fate
  · exact fate

theorem dropped_release (fate : (intake.release name floor).fate = .dropped lost) :
    intake.fate = .dropped lost ∨ (intake.field = name ∧ intake.fate = .held) ∧ lost = floor := by
  unfold release at fate
  split at fate
  · rename_i held
    cases fate
    exact Or.inr ⟨held, rfl⟩
  · exact Or.inl fate

theorem field_join : (intake.join number).field = intake.field := by
  unfold join
  split <;> rfl

theorem link_join : (intake.join number).link = intake.link := by
  unfold join
  split <;> rfl

theorem packet_join : (intake.join number).packet = intake.packet := by
  unfold join
  split <;> rfl

theorem joined_join (fate : (intake.join last).fate = .joined number) :
    intake.fate = .joined number ∨ number = last := by
  unfold join at fate
  split at fate
  · cases fate
    exact Or.inr rfl
  · exact Or.inl fate

theorem dropped_join (fate : (intake.join number).fate = .dropped lost) :
    intake.fate = .dropped lost := by
  unfold join at fate
  split at fate
  · cases fate
  · exact fate

end Intake

namespace MergeLedger

variable {ledger : MergeLedger} {field : MergeField} {packet composite : Packet} {floor number : Nat}
  {name : String} {fate : Fate} {merge : Merge}

private theorem filter_map_fixed {change : Intake → Intake} {keeps : Intake → Bool}
    {intakes : List Intake} (before : ∀ intake ∈ intakes, keeps intake = true → change intake = intake)
    (after : ∀ intake ∈ intakes, keeps (change intake) = true → change intake = intake) :
    (intakes.map change).filter keeps = intakes.filter keeps := by
  induction intakes with
  | nil => rfl
  | cons head rest ih =>
      have later := ih (fun intake member => before intake (List.mem_cons_of_mem head member))
        (fun intake member => after intake (List.mem_cons_of_mem head member))
      rw [List.map_cons, List.filter_cons, List.filter_cons, later]
      cases kept : keeps head with
      | true => simp only [before head List.mem_cons_self kept, kept]
      | false =>
          cases changed : keeps (change head) with
          | true =>
              have same := after head List.mem_cons_self changed
              rw [same, kept] at changed
              cases changed
          | false => rfl

theorem mem_having {intake : Intake} :
    intake ∈ ledger.having name fate ↔
      intake ∈ ledger.intakes ∧ intake.field = name ∧ intake.fate = fate := by
  simp [having]

theorem having_discard (live : ∀ lost, fate ≠ .dropped lost) :
    (ledger.discard field packet floor).having name fate = ledger.having name fate := by
  have apart : ¬ (field.name = name ∧ Fate.dropped floor = fate) :=
    fun both => live floor both.2.symm
  simp [having, discard, apart]

theorem having_keep_joined :
    (ledger.keep field packet floor).having name (.joined number) =
      ledger.having name (.joined number) := by
  unfold having keep
  rw [List.filter_append, filter_map_fixed]
  · simp
  · intro intake _ kept
    have both : intake.field = name ∧ intake.fate = .joined number := by simpa using kept
    unfold Intake.release
    rw [if_neg (fun held => by rw [both.2] at held; cases held.2)]
  · intro intake _ kept
    unfold Intake.release at kept ⊢
    split
    · rename_i held
      rw [if_pos held] at kept
      simp at kept
    · rfl

theorem having_keep_other (different : name ≠ field.name) :
    (ledger.keep field packet floor).having name fate = ledger.having name fate := by
  have untouched : ∀ intake : Intake, intake.field = name →
      Intake.release field.name floor intake = intake := by
    intro intake same
    unfold Intake.release
    rw [if_neg (fun held => different (same.symm.trans held.1))]
  unfold having keep
  rw [List.filter_append, filter_map_fixed]
  · have apart : field.name ≠ name := fun same => different same.symm
    simp [apart]
  · intro intake _ kept
    have both : intake.field = name ∧ intake.fate = fate := by simpa using kept
    exact untouched intake both.1
  · intro intake _ kept
    have both := (decide_eq_true_iff.mp kept).1
    exact untouched intake (Intake.field_release.symm.trans both)

theorem having_keep_held :
    (ledger.keep field packet floor).having field.name .held =
      [{ field := field.name, link := field.link, packet := packet, fate := .held }] := by
  unfold having keep
  rw [List.filter_append, List.filter_map]
  have released : ledger.intakes.filter
      ((fun intake : Intake => decide (intake.field = field.name ∧ intake.fate = .held)) ∘
        Intake.release field.name floor) = [] := by
    apply List.filter_eq_nil_iff.mpr
    intro intake _ kept
    simp only [Function.comp_apply, decide_eq_true_iff] at kept
    unfold Intake.release at kept
    split at kept
    · cases kept.2
    · rename_i free
      exact free kept
  rw [released]
  simp

theorem having_emit_held (rendezvous : Nat) :
    (ledger.emit composite rendezvous).having name .held = [] := by
  apply List.filter_eq_nil_iff.mpr
  intro joined member kept
  obtain ⟨intake, _, same⟩ := List.mem_map.mp member
  have both := decide_eq_true_iff.mp kept
  rw [← same] at both
  unfold Intake.join at both
  split at both
  · cases both.2
  · rename_i free
    exact free both.2

theorem having_emit_new (rendezvous : Nat)
    (fresh : ∀ intake ∈ ledger.intakes, intake.fate ≠ .joined ledger.emissions.length) :
    (ledger.emit composite rendezvous).having name (.joined ledger.emissions.length) =
      (ledger.having name .held).map (Intake.join ledger.emissions.length) := by
  unfold having emit
  rw [List.filter_map]
  congr 1
  apply List.filter_congr
  intro intake member
  have unused := fresh intake member
  by_cases held : intake.fate = .held
  · simp [Intake.join, held]
  · simp [Intake.join, held, unused]

theorem having_emit_old (rendezvous : Nat) (earlier : number ≠ ledger.emissions.length) :
    (ledger.emit composite rendezvous).having name (.joined number) =
      ledger.having name (.joined number) := by
  unfold having emit
  apply filter_map_fixed
  · intro intake _ kept
    have both : intake.field = name ∧ intake.fate = .joined number := by simpa using kept
    unfold Intake.join
    rw [if_neg (fun held => by rw [both.2] at held; cases held)]
  · intro intake _ kept
    unfold Intake.join at kept ⊢
    split
    · rename_i held
      rw [if_pos held] at kept
      simp only [decide_eq_true_iff, Fate.joined.injEq] at kept
      exact absurd kept.2.symm earlier
    · rfl

/-- One above the greatest id consumed so far, zero if nothing was. -/
def ceiling (ledger : MergeLedger) : Nat :=
  (ledger.intakes.map fun intake => intake.packet.id + 1).foldr max 0

private theorem foldr_max_start (items : List Nat) (start : Nat) :
    items.foldr max start = max (items.foldr max 0) start := by
  induction items with
  | nil => simp
  | cons head rest ih => rw [List.foldr_cons, List.foldr_cons, ih, Nat.max_assoc]

theorem ceiling_discard :
    (ledger.discard field packet floor).ceiling = max ledger.ceiling (packet.id + 1) := by
  unfold ceiling discard
  rw [List.map_append, List.foldr_append]
  exact foldr_max_start _ _

theorem ceiling_keep :
    (ledger.keep field packet floor).ceiling = max ledger.ceiling (packet.id + 1) := by
  have same : (fun intake : Intake => intake.packet.id + 1) ∘ Intake.release field.name floor =
      fun intake => intake.packet.id + 1 := by
    funext intake
    rw [Function.comp_apply, Intake.packet_release]
  unfold ceiling keep
  rw [List.map_append, List.foldr_append, List.map_map, same]
  exact foldr_max_start _ _

theorem ceiling_emit (rendezvous : Nat) :
    (ledger.emit composite rendezvous).ceiling = ledger.ceiling := by
  have same : (fun intake : Intake => intake.packet.id + 1) ∘
      Intake.join ledger.emissions.length = fun intake => intake.packet.id + 1 := by
    funext intake
    rw [Function.comp_apply, Intake.packet_join]
  simp [ceiling, emit, same]

private theorem lt_foldr_max {intakes : List Intake} {intake : Intake} (member : intake ∈ intakes) :
    intake.packet.id < (intakes.map fun intake => intake.packet.id + 1).foldr max 0 := by
  induction intakes with
  | nil => cases member
  | cons head rest ih =>
      rw [List.map_cons, List.foldr_cons]
      rcases List.mem_cons.mp member with same | later
      · subst same
        exact Nat.lt_of_lt_of_le (Nat.lt_succ_self _) (Nat.le_max_left _ _)
      · exact Nat.lt_of_lt_of_le (ih later) (Nat.le_max_right _ _)

theorem lt_ceiling {intake : Intake} (member : intake ∈ ledger.intakes) :
    intake.packet.id < ledger.ceiling :=
  lt_foldr_max member

/-- A field's cache and the ledger agree: what the ledger holds for the field is cached, and a cache
that the ledger does not account for lies below the floor. -/
def Accounts (ledger : MergeLedger) (floor : Nat) (field : MergeField) : Prop :=
  (ledger.having field.name .held = [] ∧ Merge.LiesBelow field floor) ∨
    ∃ intake, ledger.having field.name .held = [intake] ∧ field.cached = some intake.packet

/-- A composite is made of one packet for each field, all of one id. -/
def Composed (ledger : MergeLedger) (names : List String) (number : Nat) (emission : Emission) :
    Prop :=
  ∀ name ∈ names, ∃ intake, ledger.having name (.joined number) = [intake] ∧
    intake.packet.id = emission.rendezvous ∧
    emission.composite.message.Holds name intake.packet.message

structure Sound (ledger : MergeLedger) (merge : Merge) : Prop where
  numbered : ledger.emissions.map (·.composite.id) = List.range merge.nextId
  bounded : merge.nextId ≤ merge.floor
  reached : merge.floor ≤ ledger.ceiling
  accounts : ∀ field ∈ merge.fields, ledger.Accounts merge.floor field
  owned : ∀ intake ∈ ledger.intakes, (intake.field, intake.link) ∈ merge.layout
  used : ∀ intake ∈ ledger.intakes, ∀ number, intake.fate = .joined number →
    number < ledger.emissions.length
  dropped : ∀ intake ∈ ledger.intakes, ∀ floor, intake.fate = .dropped floor →
    intake.packet.id < floor
  composed : ∀ number emission, ledger.emissions[number]? = some emission →
    ledger.Composed (merge.layout.map Prod.fst) number emission
  exact : ∀ emission ∈ ledger.emissions, ∀ name,
    name ∈ emission.composite.message.names ↔ name ∈ merge.layout.map Prod.fst
  increasing : ledger.rendezvous.Pairwise (· < ·)
  below : ∀ id ∈ ledger.rendezvous, id < merge.floor

theorem Sound.length (sound : ledger.Sound merge) : ledger.emissions.length = merge.nextId := by
  have lengths := congrArg List.length sound.numbered
  simpa using lengths

theorem sound_empty (bindings : List Binding) : empty.Sound (.ofBindings bindings) := by
  constructor
  case numbered => exact rfl
  case bounded => exact Nat.le_refl 0
  case reached => exact Nat.le_refl 0
  case accounts =>
    intro field member
    obtain ⟨binding, _, same⟩ := List.mem_map.mp member
    subst same
    refine Or.inl ⟨rfl, ?_⟩
    intro packet impossible
    cases impossible
  case owned =>
    intro intake impossible
    cases impossible
  case used =>
    intro intake impossible
    cases impossible
  case dropped =>
    intro intake impossible
    cases impossible
  case composed =>
    intro number emission impossible
    cases impossible
  case exact =>
    intro emission impossible
    cases impossible
  case increasing => exact List.Pairwise.nil
  case below =>
    intro id impossible
    cases impossible

theorem Sound.discard {position : Nat} (sound : ledger.Sound merge)
    (found : merge.fields[position]? = some field) (below : packet.id < merge.floor) :
    (ledger.discard field packet merge.floor).Sound merge := by
  have member := List.mem_of_getElem? found
  refine { sound with reached := ?_, accounts := ?_, owned := ?_, used := ?_, dropped := ?_,
                      composed := ?_ }
  · rw [ceiling_discard]
    exact Nat.le_trans sound.reached (Nat.le_max_left _ _)
  · intro other otherMember
    unfold Accounts
    rw [having_discard (by intro lost impossible; cases impossible)]
    exact sound.accounts other otherMember
  · intro intake kept
    rcases List.mem_append.mp kept with old | new
    · exact sound.owned intake old
    · cases List.mem_singleton.mp new
      exact List.mem_map.mpr ⟨field, member, rfl⟩
  · intro intake kept number joined
    rcases List.mem_append.mp kept with old | new
    · exact sound.used intake old number joined
    · cases List.mem_singleton.mp new
      cases joined
  · intro intake kept lost fate
    rcases List.mem_append.mp kept with old | new
    · exact sound.dropped intake old lost fate
    · cases List.mem_singleton.mp new
      cases fate
      exact below
  · intro number emission listed name named
    rw [having_discard (by intro lost impossible; cases impossible)]
    exact sound.composed number emission listed name named

theorem Sound.cached (sound : ledger.Sound merge) {intake : Intake} (member : field ∈ merge.fields)
    (taken : intake ∈ ledger.intakes) (same : intake.field = field.name)
    (held : intake.fate = .held) : field.cached = some intake.packet := by
  have having : intake ∈ ledger.having field.name .held := mem_having.mpr ⟨taken, same, held⟩
  rcases sound.accounts field member with ⟨nothing, _⟩ | ⟨only, one, cached⟩
  · rw [nothing] at having
    cases having
  · rw [one] at having
    cases List.mem_singleton.mp having
    exact cached

/-- A packet that qualifies takes the place of the field's packet, which lies below the floor, and the
floor rises to it. -/
theorem Sound.keep {position : Nat} (sound : ledger.Sound merge) (distinct : merge.Distinct)
    (found : merge.fields[position]? = some field) (lies : Merge.LiesBelow field merge.floor)
    (reaches : merge.floor ≤ packet.id) :
    (ledger.keep field packet merge.floor).Sound
      { merge.cache position packet with floor := packet.id } := by
  have member := List.mem_of_getElem? found
  have layout : Merge.layout { merge.cache position packet with floor := packet.id } =
      merge.layout := Merge.layout_cache
  constructor
  case numbered => exact sound.numbered
  case bounded => exact Nat.le_trans sound.bounded reaches
  case reached =>
    rw [ceiling_keep]
    exact Nat.le_trans (Nat.le_succ packet.id) (Nat.le_max_right _ _)
  case accounts =>
    intro other otherMember
    rcases Merge.mem_fields_cache found otherMember with same | ⟨index, apart, original⟩
    · subst same
      exact Or.inr ⟨_, having_keep_held, rfl⟩
    · have different : other.name ≠ field.name :=
        fun same => apart (distinct.at original found same).symm
      unfold Accounts
      rw [having_keep_other different]
      rcases sound.accounts other (List.mem_of_getElem? original) with ⟨nothing, below⟩ | held
      · exact Or.inl ⟨nothing, fun held cached => Nat.lt_of_lt_of_le (below held cached) reaches⟩
      · exact Or.inr held
  case owned =>
    intro intake taken
    rw [layout]
    rcases List.mem_append.mp taken with old | new
    · obtain ⟨original, originalTaken, same⟩ := List.mem_map.mp old
      rw [← same, Intake.field_release, Intake.link_release]
      exact sound.owned original originalTaken
    · cases List.mem_singleton.mp new
      exact List.mem_map.mpr ⟨field, member, rfl⟩
  case used =>
    intro intake taken number joined
    rcases List.mem_append.mp taken with old | new
    · obtain ⟨original, originalTaken, same⟩ := List.mem_map.mp old
      rw [← same] at joined
      exact sound.used original originalTaken number (Intake.joined_release joined)
    · cases List.mem_singleton.mp new
      cases joined
  case dropped =>
    intro intake taken lost fate
    rcases List.mem_append.mp taken with old | new
    · obtain ⟨original, originalTaken, same⟩ := List.mem_map.mp old
      rw [← same] at fate
      rw [← same, Intake.packet_release]
      rcases Intake.dropped_release fate with before | ⟨⟨sameField, held⟩, now⟩
      · exact sound.dropped original originalTaken lost before
      · rw [now]
        exact lies original.packet (sound.cached member originalTaken sameField held)
    · cases List.mem_singleton.mp new
      cases fate
  case composed =>
    intro number emission listed name named
    rw [layout] at named
    rw [having_keep_joined]
    exact sound.composed number emission listed name named
  case exact =>
    intro emission listed name
    rw [layout]
    exact sound.exact emission listed name
  case increasing => exact sound.increasing
  case below => exact fun id listed => Nat.lt_of_lt_of_le (sound.below id listed) reaches

theorem Sound.holds (sound : ledger.Sound merge) (member : field ∈ merge.fields)
    (stands : Merge.StandsAt field merge.floor) :
    ∃ intake, ledger.having field.name .held = [intake] ∧
      field.cached = some intake.packet ∧ intake.packet.id = merge.floor := by
  obtain ⟨packet, cached, level⟩ := stands
  rcases sound.accounts field member with ⟨_, below⟩ | ⟨intake, one, same⟩
  · have impossible := below packet cached
    omega
  · rw [same] at cached
    cases cached
    exact ⟨intake, one, same, level⟩

theorem Sound.composed_emit (sound : ledger.Sound merge) (distinct : merge.Distinct)
    (complete : ∀ field ∈ merge.fields, Merge.StandsAt field merge.floor) :
    (ledger.emit merge.emit.2 merge.floor).Composed (merge.layout.map Prod.fst)
      ledger.emissions.length { composite := merge.emit.2, rendezvous := merge.floor } := by
  have unused : ∀ intake ∈ ledger.intakes, intake.fate ≠ .joined ledger.emissions.length :=
    fun intake taken joined => Nat.lt_irrefl _ (sound.used intake taken _ joined)
  intro name named
  obtain ⟨entry, laid, sameName⟩ := List.mem_map.mp named
  obtain ⟨field, member, sameEntry⟩ := List.mem_map.mp laid
  subst sameEntry
  subst sameName
  obtain ⟨intake, one, cached, level⟩ := sound.holds member (complete field member)
  refine ⟨intake.join ledger.emissions.length, ?_, ?_, ?_⟩
  · rw [having_emit_new merge.floor unused, one]
    rfl
  · rw [Intake.packet_join]
    exact level
  · rw [Intake.packet_join]
    exact Merge.composite_holds distinct member cached

private theorem reached_emit (sound : ledger.Sound merge) (filled : merge.fields ≠ [])
    (complete : ∀ field ∈ merge.fields, Merge.StandsAt field merge.floor) :
    merge.floor + 1 ≤ (ledger.emit merge.emit.2 merge.floor).ceiling := by
  obtain ⟨first, member⟩ := List.exists_mem_of_ne_nil merge.fields filled
  obtain ⟨intake, one, _, level⟩ := sound.holds member (complete first member)
  have taken : intake ∈ ledger.having first.name .held := one ▸ List.mem_singleton_self intake
  have below := lt_ceiling (mem_having.mp taken).1
  rw [ceiling_emit]
  omega

theorem rendezvous_emit (id : Nat) :
    (ledger.emit composite id).rendezvous = ledger.rendezvous ++ [id] :=
  List.map_append

/-- All fields stand at the floor: what was held is joined, and the floor moves past it. -/
theorem Sound.emit (sound : ledger.Sound merge) (distinct : merge.Distinct)
    (filled : merge.fields ≠ [])
    (complete : ∀ field ∈ merge.fields, Merge.StandsAt field merge.floor) :
    (ledger.emit merge.emit.2 merge.floor).Sound merge.emit.1 := by
  constructor
  case numbered =>
    change (ledger.emissions ++ [_]).map _ = List.range (merge.nextId + 1)
    rw [List.map_append, sound.numbered, List.range_succ]
    rfl
  case bounded => exact Nat.succ_le_succ sound.bounded
  case reached => exact reached_emit sound filled complete
  case accounts =>
    intro field member
    refine Or.inl ⟨having_emit_held merge.floor, ?_⟩
    intro packet cached
    obtain ⟨held, same, level⟩ := complete field member
    cases same.symm.trans cached
    exact Nat.lt_succ_of_le (Nat.le_of_eq level)
  case owned =>
    intro intake taken
    obtain ⟨original, originalTaken, same⟩ := List.mem_map.mp taken
    rw [← same, Intake.field_join, Intake.link_join]
    exact sound.owned original originalTaken
  case used =>
    intro intake taken number joined
    change number < (ledger.emissions ++ [_]).length
    rw [List.length_append, List.length_singleton]
    obtain ⟨original, originalTaken, same⟩ := List.mem_map.mp taken
    rw [← same] at joined
    rcases Intake.joined_join joined with before | now
    · exact Nat.lt_succ_of_lt (sound.used original originalTaken number before)
    · rw [now]
      exact Nat.lt_succ_self _
  case dropped =>
    intro intake taken lost fate
    obtain ⟨original, originalTaken, same⟩ := List.mem_map.mp taken
    rw [← same] at fate
    rw [← same, Intake.packet_join]
    exact sound.dropped original originalTaken lost (Intake.dropped_join fate)
  case composed =>
    intro number emission listed
    change (ledger.emissions ++ [_])[number]? = _ at listed
    rcases Nat.lt_or_ge number ledger.emissions.length with earlier | last
    · intro name named
      rw [List.getElem?_append_left earlier] at listed
      rw [having_emit_old merge.floor (Nat.ne_of_lt earlier)]
      exact sound.composed number emission listed name named
    · have bound := (List.getElem?_eq_some_iff.mp listed).1
      rw [List.length_append, List.length_singleton] at bound
      have same : number = ledger.emissions.length := by omega
      subst same
      rw [List.getElem?_concat_length] at listed
      cases listed
      exact sound.composed_emit distinct complete
  case exact =>
    intro emission listed name
    rcases List.mem_append.mp listed with earlier | last
    · exact sound.exact emission earlier name
    · cases List.mem_singleton.mp last
      exact Merge.mem_names_of_complete complete
  case increasing =>
    rw [rendezvous_emit]
    apply List.pairwise_append.mpr
    refine ⟨sound.increasing, List.pairwise_singleton _ _, ?_⟩
    intro id earlier last atEnd
    cases List.mem_singleton.mp atEnd
    exact sound.below id earlier
  case below =>
    intro id listed
    rw [rendezvous_emit] at listed
    rcases List.mem_append.mp listed with earlier | last
    · exact Nat.lt_succ_of_lt (sound.below id earlier)
    · cases List.mem_singleton.mp last
      exact Nat.lt_succ_self _

end MergeLedger
end Sluice
