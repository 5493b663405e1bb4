import Sluice.Proofs.Merge.Accounting

set_option autoImplicit false

/-! Soundness of a merge over whole runs: whatever is put on its links, in any order, and however its
calls are cancelled, composites are numbered without gap, each joins one packet of every field under
one id, these ids increase, nothing is used twice, and nothing is lost that was not below the floor. -/

namespace Sluice
namespace Merge

variable {merge : Merge} {position id : Nat}

theorem advance_raised (reaches : merge.floor ≤ id) :
    (merge.advance position id).1 = { merge with floor := id } := by
  unfold advance
  split
  · rfl
  · have same : merge.floor = id := by omega
    subst same
    rfl

end Merge

namespace MergeSession

structure Coherent (layout : List (String × LinkId)) (session : MergeSession) : Prop where
  layout : session.merge.layout = layout
  distinct : session.merge.Distinct
  steady : session.merge.Steady session.call
  sound : session.ledger.Sound session.merge

variable {layout : List (String × LinkId)} {session next : MergeSession}

/-- What one step means for the merge and its ledger together. -/
inductive Grown (ledger : MergeLedger) (merge : Merge) : Merge → MergeLedger → Prop
  | unchanged : Grown ledger merge merge ledger
  | emitted (complete : ∀ field ∈ merge.fields, Merge.StandsAt field merge.floor) :
      Grown ledger merge merge.emit.1 (ledger.emit merge.emit.2 merge.floor)
  | discarded {position : Nat} {field : MergeField} {packet : Packet}
      (found : merge.fields[position]? = some field) (below : packet.id < merge.floor) :
      Grown ledger merge merge (ledger.discard field packet merge.floor)
  | kept {position : Nat} {field : MergeField} {packet : Packet}
      (found : merge.fields[position]? = some field) (lies : Merge.LiesBelow field merge.floor)
      (reaches : merge.floor ≤ packet.id) :
      Grown ledger merge { merge.cache position packet with floor := packet.id }
        (ledger.keep field packet merge.floor)

variable {links : LinkStore} {merge : Merge} {call : MergeCall} {stepped : MergeStep}
  {ledger : MergeLedger}

theorem grown_stepped (steady : merge.Steady (some call)) (moved : merge.Stepped links call stepped) :
    Grown ledger merge stepped.merge (ledger.record links merge call stepped) := by
  cases moved with
  | emitted beyond => exact .emitted (steady.complete beyond)
  | overflowed => exact .unchanged
  | @reused position field packet found cached reaches =>
      have level := steady.level field (List.mem_of_getElem? found) packet cached
      have same : packet.id = merge.floor := Nat.le_antisymm level reaches
      change Grown ledger merge (merge.advance position packet.id).1 ledger
      rw [Merge.advance_raised reaches, same]
      exact .unchanged
  | turned => exact .unchanged
  | waited found keeps =>
      rw [MergeLedger.record_waited found keeps (by intro composite impossible; cases impossible)]
      exact .unchanged
  | discarded found slot below =>
      rw [MergeLedger.record_discarded found slot]
      exact .discarded found below
  | cancelled found keeps =>
      rw [MergeLedger.record_waited found keeps (by intro composite impossible; cases impossible)]
      exact .unchanged
  | @kept position field packet found slot reaches =>
      obtain ⟨other, sameField, lies⟩ := steady.awaited position .looking rfl
      cases found.symm.trans sameField
      have raised := @Merge.advance_raised (merge.cache position packet) position packet.id reaches
      rcases @Merge.call_advance (merge.cache position packet) position packet.id reaches with
        restarted | ⟨onward, _⟩
      · rw [restarted, MergeLedger.record_kept found slot, raised]
        exact .kept found lies reaches
      · rw [onward, MergeLedger.record_kept found slot, raised]
        exact .kept found lies reaches

theorem sound_grown {after : Merge} {grown : MergeLedger} (filled : merge.layout ≠ [])
    (distinct : merge.Distinct) (sound : ledger.Sound merge)
    (grows : Grown ledger merge after grown) : grown.Sound after := by
  cases grows with
  | unchanged => exact sound
  | emitted complete =>
      have fields : merge.fields ≠ [] := fun none => filled (by simp [Merge.layout, none])
      exact sound.emit distinct fields complete
  | discarded found below => exact sound.discard found below
  | kept found lies reaches => exact sound.keep distinct found lies reaches

theorem Coherent.moved (filled : layout ≠ []) (coherent : session.Coherent layout)
    (moved : session.Moved next) : next.Coherent layout := by
  cases moved with
  | put => exact ⟨coherent.layout, coherent.distinct, coherent.steady, coherent.sound⟩
  | begun idle =>
      have steady := coherent.steady
      rw [idle] at steady
      exact ⟨coherent.layout, coherent.distinct, steady.begin, coherent.sound⟩
  | stepped under step =>
      have steady := coherent.steady
      rw [under] at steady
      have same := Merge.layout_stepped step
      refine ⟨same.trans coherent.layout, ?_, steady.step step, ?_⟩
      · unfold Merge.Distinct
        rw [same]
        exact coherent.distinct
      · have present : session.merge.layout ≠ [] := coherent.layout ▸ filled
        exact sound_grown present coherent.distinct coherent.sound (grown_stepped steady step)

theorem floor_le_moved (moved : session.Moved next) : session.merge.floor ≤ next.merge.floor := by
  cases moved with
  | put | begun => exact Nat.le_refl _
  | stepped under step => exact Merge.floor_le_stepped step

/-- What a run of a merge over these bindings has to show for itself. -/
structure Faithful (bindings : List Binding) (session : MergeSession) : Prop where
  numbered : session.ledger.emissions.map (·.composite.id) =
    List.range session.ledger.emissions.length
  counted : session.merge.nextId = session.ledger.emissions.length
  fields : ∀ emission ∈ session.ledger.emissions, ∀ name,
    name ∈ emission.composite.message.names ↔ name ∈ bindings.map (·.field)
  parts : ∀ number emission, session.ledger.emissions[number]? = some emission →
    ∀ binding ∈ bindings, ∃ intake,
      session.ledger.having binding.field (.joined number) = [intake] ∧
      intake.link = binding.link ∧ intake.packet.id = emission.rendezvous ∧
      emission.composite.message.Holds binding.field intake.packet.message
  increasing : session.ledger.rendezvous.Pairwise (· < ·)
  joined : ∀ intake ∈ session.ledger.intakes, ∀ number, intake.fate = .joined number →
    number < session.ledger.emissions.length
  dropped : ∀ intake ∈ session.ledger.intakes, ∀ floor, intake.fate = .dropped floor →
    intake.packet.id < floor
  held : ∀ intake ∈ session.ledger.intakes, intake.fate = .held →
    ∃ field ∈ session.merge.fields, field.name = intake.field ∧
      field.cached = some intake.packet
  level : ∀ field ∈ session.merge.fields, ∀ packet, field.cached = some packet →
    packet.id ≤ session.merge.floor
  bounded : session.merge.nextId ≤ session.merge.floor
  reached : session.merge.floor ≤ session.ledger.ceiling
  collapsed : session.call = some .collapsed → ∀ binding ∈ bindings,
    ∃ intake ∈ session.ledger.intakes, intake.field = binding.field ∧ intake.fate = .held ∧
      intake.packet.id = session.merge.floor ∧ Packet.greatestId ≤ intake.packet.id

def layoutOf (bindings : List Binding) : List (String × LinkId) :=
  (Merge.ofBindings bindings).layout

theorem mem_layoutOf {bindings : List Binding} {entry : String × LinkId} :
    entry ∈ layoutOf bindings ↔ ∃ binding ∈ bindings, (binding.field, binding.link) = entry := by
  unfold layoutOf
  rw [Merge.layout_ofBindings, List.mem_map]
  constructor
  · rintro ⟨binding, member, same⟩
    exact ⟨binding, (Binding.sortByName_perm bindings).mem_iff.mp member, same⟩
  · rintro ⟨binding, member, same⟩
    exact ⟨binding, (Binding.sortByName_perm bindings).mem_iff.mpr member, same⟩

theorem mem_layoutOf_names {bindings : List Binding} {name : String} :
    name ∈ (layoutOf bindings).map Prod.fst ↔ name ∈ bindings.map (·.field) := by
  constructor
  · intro listed
    obtain ⟨entry, member, same⟩ := List.mem_map.mp listed
    obtain ⟨binding, bound, sameEntry⟩ := mem_layoutOf.mp member
    subst sameEntry
    exact List.mem_map.mpr ⟨binding, bound, same⟩
  · intro listed
    obtain ⟨binding, bound, same⟩ := List.mem_map.mp listed
    exact List.mem_map.mpr ⟨(binding.field, binding.link), mem_layoutOf.mpr ⟨binding, bound, rfl⟩, same⟩

theorem layoutOf_links {bindings : List Binding} :
    ((layoutOf bindings).map Prod.snd).Perm (bindings.map (·.link)) := by
  unfold layoutOf
  rw [Merge.layout_ofBindings, List.map_map]
  exact (Binding.sortByName_perm bindings).map _

theorem layoutOf_filled {bindings : List Binding} (filled : bindings ≠ []) :
    layoutOf bindings ≠ [] := by
  obtain ⟨first, member⟩ := List.exists_mem_of_ne_nil bindings filled
  have listed : (first.field, first.link) ∈ layoutOf bindings := mem_layoutOf.mpr ⟨first, member, rfl⟩
  exact List.ne_nil_of_mem listed

theorem coherent_start {links : LinkStore} {bindings : List Binding}
    (distinct : (bindings.map (·.field)).Nodup) :
    (start links bindings).Coherent (layoutOf bindings) :=
  ⟨rfl, Merge.distinct_ofBindings distinct, Merge.steady_ofBindings bindings,
    MergeLedger.sound_empty bindings⟩

theorem coherent_run {links : LinkStore} {bindings : List Binding} {actions : List MergeAction}
    {session : MergeSession} (filled : bindings ≠ [])
    (distinct : (bindings.map (·.field)).Nodup)
    (ran : run actions (start links bindings) = some session) :
    session.Coherent (layoutOf bindings) := by
  have present := layoutOf_filled filled
  exact run_keeps (fun coherent moved => coherent.moved present moved) (coherent_start distinct) ran

private theorem link_unique {left right : LinkId} {name : String}
    (coherent : session.Coherent layout) (first : (name, left) ∈ layout)
    (second : (name, right) ∈ layout) : left = right := by
  rw [← coherent.layout] at first second
  obtain ⟨leftField, leftMember, leftSame⟩ := List.mem_map.mp first
  obtain ⟨rightField, rightMember, rightSame⟩ := List.mem_map.mp second
  have leftName : leftField.name = name := congrArg Prod.fst leftSame
  have rightName : rightField.name = name := congrArg Prod.fst rightSame
  have same := coherent.distinct.name_inj leftMember rightMember (leftName.trans rightName.symm)
  subst same
  exact (congrArg Prod.snd leftSame).symm.trans (congrArg Prod.snd rightSame)

theorem Coherent.faithful {bindings : List Binding}
    (coherent : session.Coherent (layoutOf bindings)) : session.Faithful bindings := by
  have sound := coherent.sound
  have layout := coherent.layout
  refine
    { numbered := ?_, counted := sound.length.symm, fields := ?_, parts := ?_
      increasing := sound.increasing, joined := sound.used, dropped := sound.dropped
      held := ?_, level := coherent.steady.level, bounded := sound.bounded
      reached := sound.reached, collapsed := ?_ }
  · rw [sound.length]
    exact sound.numbered
  · intro emission listed name
    have exact' := sound.exact emission listed name
    rw [layout] at exact'
    exact exact'.trans mem_layoutOf_names
  · intro number emission listed binding bound
    have named : binding.field ∈ session.merge.layout.map Prod.fst := by
      rw [layout]
      exact mem_layoutOf_names.mpr (List.mem_map.mpr ⟨binding, bound, rfl⟩)
    obtain ⟨intake, one, level, holds⟩ := sound.composed number emission listed binding.field named
    refine ⟨intake, one, ?_, level, holds⟩
    have having : intake ∈ session.ledger.having binding.field (.joined number) :=
      one ▸ List.mem_singleton_self intake
    obtain ⟨taken, sameField, _⟩ := MergeLedger.mem_having.mp having
    have owned := sound.owned intake taken
    rw [layout, sameField] at owned
    exact link_unique coherent owned (mem_layoutOf.mpr ⟨binding, bound, rfl⟩)
  · intro intake taken held
    have owned := sound.owned intake taken
    obtain ⟨field, member, same⟩ := List.mem_map.mp owned
    have sameName : field.name = intake.field := congrArg Prod.fst same
    exact ⟨field, member, sameName, sound.cached member taken sameName.symm held⟩
  · intro collapses binding bound
    obtain ⟨limit, met⟩ := coherent.steady.collapsed collapses
    have laid : (binding.field, binding.link) ∈ session.merge.layout := by
      rw [layout]
      exact mem_layoutOf.mpr ⟨binding, bound, rfl⟩
    obtain ⟨field, member, same⟩ := List.mem_map.mp laid
    obtain ⟨intake, one, _, level⟩ := sound.holds member (met field member)
    have having : intake ∈ session.ledger.having field.name .held := one ▸ List.mem_singleton_self intake
    obtain ⟨taken, named, held⟩ := MergeLedger.mem_having.mp having
    exact ⟨intake, taken, named.trans (congrArg Prod.fst same), held, level, level ▸ limit⟩

/-- Over any run, composites are numbered from zero without gap; each has exactly the bound fields, and
each field carries the message of one packet taken from its link under the id of rendezvous; these ids
increase; every packet taken is held in its field's cache, part of one composite, or was dropped below
the floor of that moment; no cached id lies above the floor, which never falls and stays between the
number of composites and one above the greatest id taken. A call collapses only over an id that every field
has taken and that the counters cannot be moved past. -/
theorem merge_run_faithful {links : LinkStore} {bindings : List Binding}
    {earlier later : List MergeAction} {before session : MergeSession}
    (several : 2 ≤ bindings.length) (distinct : (bindings.map (·.field)).Nodup)
    (first : run earlier (start links bindings) = some before)
    (rest : run later before = some session) :
    session.Faithful bindings ∧ before.merge.floor ≤ session.merge.floor := by
  have filled : bindings ≠ [] := by
    intro none
    rw [none] at several
    cases several
  have ran : run (earlier ++ later) (start links bindings) = some session :=
    (run_append first).trans rest
  refine ⟨(coherent_run filled distinct ran).faithful, ?_⟩
  exact run_keeps (fun below moved => Nat.le_trans below (floor_le_moved moved))
    (Nat.le_refl before.merge.floor) rest

namespace Meeting

def channels : LinkStore :=
  (LinkStore.empty.add "left").add "right"

def bindings : List Binding :=
  [{ field := "y", link := 1 }, { field := "x", link := 0 }]

def offer (link : LinkId) (id : Nat) : MergeAction :=
  .put link { id := id, message := .empty }

def opening : List MergeAction :=
  [offer 0 4, offer 1 2, .begin] ++ List.replicate 8 (.step false false)

def closing : List MergeAction :=
  offer 1 4 :: List.replicate 3 (.step false false)

end Meeting

theorem merge_run_faithful_meeting :
    2 ≤ Meeting.bindings.length ∧ (Meeting.bindings.map (·.field)).Nodup ∧
      ∃ before session, run Meeting.opening (start Meeting.channels Meeting.bindings) = some before ∧
        run Meeting.closing before = some session ∧ session.ledger.rendezvous = [4] ∧
        session.Faithful Meeting.bindings ∧ before.merge.floor ≤ session.merge.floor := by
  have several : 2 ≤ Meeting.bindings.length := by decide
  have distinct : (Meeting.bindings.map (·.field)).Nodup := by decide
  have opened : (run Meeting.opening (start Meeting.channels Meeting.bindings)).isSome := by decide
  have met : (run (Meeting.opening ++ Meeting.closing) (start Meeting.channels Meeting.bindings)).map
      (·.ledger.rendezvous) = some [4] := by decide
  obtain ⟨before, first⟩ := Option.isSome_iff_exists.mp opened
  obtain ⟨session, ran, joined⟩ := Option.map_eq_some_iff.mp met
  have rest : run Meeting.closing before = some session := (run_append first).symm.trans ran
  exact ⟨several, distinct, before, session, first, rest, joined,
    merge_run_faithful several distinct first rest⟩

end MergeSession
end Sluice
