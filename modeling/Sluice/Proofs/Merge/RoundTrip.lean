import Mathlib.Data.List.Nodup
import Sluice.Proofs.Merge.Completeness
import Sluice.Proofs.Merge.Resumption
import Sluice.Proofs.Output.Delivery

set_option autoImplicit false

/-! A packet that is split over the links of a merge comes out of the merge again. Whatever the merge has
consumed before, the first field that lies below its floor raises the floor to the packet's id; from then on
every field takes its part, and none of them has to wait for it. The composite leaves under any id that the
counters can be moved past. -/

namespace Sluice

/-- What a splitter makes of a packet for one field. -/
def Packet.part (packet : Packet) (field : String) : Packet :=
  packet.carry ((packet.message.record field).toOption.getD .empty)

theorem Binding.Part.same {binding : Binding} {packet content : Packet} (part : binding.Part packet content) :
    content = packet.part binding.field := by
  obtain ⟨id, message⟩ := content
  obtain ⟨sameId, record, _⟩ := part
  cases sameId
  unfold Packet.part
  rw [record]
  rfl

namespace MergeSession

/-- A call goes on whatever its token says, and never turns to a bell. -/
inductive Promptly : MergeSession → MergeSession → Prop
  | here {session : MergeSession} : Promptly session session
  | step {session middle next : MergeSession}
      (moves : ∀ fired cancelFirst, session.act (.step fired cancelFirst) = some middle)
      (looks : ∀ position posture, middle.call = some (.waiting position posture) → posture = .looking)
      (rest : Promptly middle next) : Promptly session next

/-- A field has yet to take its part of a packet from its link, or it has done so. -/
inductive Served (packet : Packet) (links : LinkStore) (field : MergeField) : Prop
  | pending (lies : Merge.LiesBelow field packet.id)
      (slot : (links.get field.link).slot = some (packet.part field.name))
  | taken (cached : field.cached = some (packet.part field.name))
      (slot : (links.get field.link).slot = none)

structure Assembled (packet : Packet) (session ready : MergeSession) : Prop where
  visits : ∃ position, ready.call = some (.visiting position) ∧ ready.merge.fields.length ≤ position
  laid : ready.merge.layout = session.merge.layout
  floor : ready.merge.floor = packet.id
  cached : ∀ field ∈ ready.merge.fields, field.cached = some (packet.part field.name)
  empty : ∀ field ∈ ready.merge.fields, (ready.links.get field.link).slot = none
  emissions : ready.ledger.emissions = session.ledger.emissions
  numbered : ready.merge.nextId = session.merge.nextId
  known : ready.links.next = session.links.next

structure Rejoined (packet : Packet) (session next : MergeSession) : Prop where
  idle : next.call = none
  laid : next.merge.layout = session.merge.layout
  floor : next.merge.floor = packet.id + 1
  cached : ∀ field ∈ next.merge.fields, field.cached = some (packet.part field.name)
  empty : ∀ field ∈ next.merge.fields, (next.links.get field.link).slot = none
  emitted : next.ledger.emissions = session.ledger.emissions ++
    [{ composite := { id := session.merge.nextId, message := next.merge.composite }
       rendezvous := packet.id }]
  numbered : next.merge.nextId = session.merge.nextId + 1
  known : next.links.next = session.links.next

variable {session middle ready next : MergeSession} {packet content : Packet} {position : Nat}
  {field : MergeField}

theorem Assembled.before (assembled : Assembled packet middle ready)
    (layout : middle.merge.layout = session.merge.layout)
    (emissions : middle.ledger.emissions = session.ledger.emissions)
    (nextId : middle.merge.nextId = session.merge.nextId)
    (known : middle.links.next = session.links.next) : Assembled packet session ready :=
  { assembled with
    laid := assembled.laid.trans layout
    emissions := assembled.emissions.trans emissions
    numbered := assembled.numbered.trans nextId
    known := assembled.known.trans known }

theorem Promptly.onward (promptly : Promptly session middle)
    (moves : ∀ fired cancelFirst, middle.act (.step fired cancelFirst) = some next)
    (looks : ∀ position posture, next.call = some (.waiting position posture) → posture = .looking) :
    Promptly session next := by
  induction promptly with
  | here => exact .step moves looks .here
  | step first turns _ ih => exact .step first turns (ih moves)

theorem Assembled.rejoins (assembled : Assembled packet session ready)
    (promptly : Promptly middle ready) (bounded : session.merge.nextId ≤ packet.id)
    (room : packet.id < Packet.greatestId) :
    ∃ next, Promptly middle next ∧ Rejoined packet session next := by
  obtain ⟨position, under, beyond⟩ := assembled.visits
  have roomy : ready.merge.isExhausted = false := by
    apply Merge.isExhausted_eq_false
    · rw [assembled.numbered, assembled.floor]
      exact bounded
    · rw [assembled.floor]
      exact room
  let last : MergeSession :=
    { links := ready.links, merge := ready.merge.emit.1, call := none
      ledger := ready.ledger.emit ready.merge.emit.2 ready.merge.floor }
  have emits : ∀ fired cancelFirst, ready.act (.step fired cancelFirst) = some last := by
    intro fired cancelFirst
    have stepped : ready.merge.step fired cancelFirst ready.links (.visiting position) = some
        { merge := ready.merge.emit.1, links := ready.links
          outcome := .inr (some ready.merge.emit.2), notices := [] } := by
      simp only [Merge.step, List.getElem?_eq_none beyond, roomy, Bool.false_eq_true, if_false]
    exact act_stepping under stepped
  refine ⟨last, promptly.onward emits ?_, ?_⟩
  · intro other posture impossible
    cases impossible
  · refine
      { idle := rfl, laid := assembled.laid, floor := congrArg (· + 1) assembled.floor
        cached := assembled.cached, empty := assembled.empty, emitted := ?_
        numbered := congrArg (· + 1) assembled.numbered, known := assembled.known }
    rw [← assembled.emissions, ← assembled.numbered, ← assembled.floor]
    rfl

def taking (session : MergeSession) (position : Nat) (field : MergeField) (content : Packet) :
    MergeSession :=
  { links := session.links.set field.link { session.links.get field.link with slot := none }
    merge := ((session.merge.cache position content).advance position content.id).1
    call := some ((session.merge.cache position content).advance position content.id).2
    ledger := session.ledger.keep field content session.merge.floor }

theorem call_taking (reaches : session.merge.floor ≤ content.id) :
    (session.taking position field content).call = some (.visiting 0) ∨
      (session.taking position field content).call = some (.visiting (position + 1)) := by
  rcases @Merge.call_advance (session.merge.cache position content) position content.id reaches with
    restarted | ⟨onward, _⟩
  · exact Or.inl (congrArg some restarted)
  · exact Or.inr (congrArg some onward)

private theorem act_taking {fired cancelFirst : Bool}
    (under : session.call = some (.waiting position .looking))
    (found : session.merge.fields[position]? = some field)
    (slot : (session.links.get field.link).slot = some content)
    (reaches : session.merge.floor ≤ content.id) :
    session.act (.step fired cancelFirst) = some (session.taking position field content) := by
  rw [act_stepping under (Merge.step_accepting found slot reaches)]
  unfold taking
  rcases @Merge.call_advance (session.merge.cache position content) position content.id reaches with
    restarted | ⟨onward, _⟩
  · rw [restarted, MergeLedger.record_kept found slot]
    rfl
  · rw [onward, MergeLedger.record_kept found slot]
    rfl

theorem Promptly.take (under : session.call = some (.visiting position))
    (found : session.merge.fields[position]? = some field)
    (lies : Merge.LiesBelow field session.merge.floor)
    (slot : (session.links.get field.link).slot = some content) (reaches : session.merge.floor ≤ content.id)
    (rest : Promptly (session.taking position field content) next) : Promptly session next := by
  let waiting : MergeSession := { session with call := some (.waiting position .looking) }
  have turns : ∀ fired cancelFirst, session.act (.step fired cancelFirst) = some waiting :=
    fun fired cancelFirst => act_stepping under (Merge.step_turning found lies)
  have takes : ∀ fired cancelFirst,
      waiting.act (.step fired cancelFirst) = some (session.taking position field content) :=
    fun fired cancelFirst => @act_taking waiting content position field fired cancelFirst rfl found slot reaches
  refine .step turns ?_ (.step takes ?_ rest)
  · intro other posture same
    cases same
    rfl
  · intro other posture same
    rcases @call_taking session content position field reaches with restarted | onward
    · cases restarted.symm.trans same
    · cases onward.symm.trans same

theorem Promptly.pass (under : session.call = some (.visiting position))
    (found : session.merge.fields[position]? = some field)
    (stands : Merge.StandsAt field session.merge.floor)
    (rest : Promptly { session with call := some (.visiting (position + 1)) } next) :
    Promptly session next := by
  refine .step (fun fired cancelFirst => act_stepping under (Merge.step_passing found stands)) ?_ rest
  intro other posture same
  cases same

theorem call_taking_level (level : session.merge.floor = content.id) :
    (session.taking position field content).call = some (.visiting (position + 1)) := by
  change some ((session.merge.cache position content).advance position content.id).2 = _
  unfold Merge.advance
  rw [if_neg]
  exact Nat.not_lt_of_le (Nat.le_of_eq level.symm)

theorem call_taking_raised (raises : session.merge.floor < content.id) :
    (session.taking position field content).call = some (.visiting 0) := by
  change some ((session.merge.cache position content).advance position content.id).2 = _
  unfold Merge.advance
  rw [if_pos]
  exact raises

theorem layout_taking : (session.taking position field content).merge.layout = session.merge.layout := by
  have advanced : ((session.merge.cache position content).advance position content.id).1.layout =
      (session.merge.cache position content).layout := by
    unfold Merge.layout
    rw [Merge.fields_advance]
  exact advanced.trans Merge.layout_cache

theorem next_taking : (session.taking position field content).links.next = session.links.next :=
  LinkStore.next_set

theorem nextId_taking : (session.taking position field content).merge.nextId = session.merge.nextId :=
  Merge.nextId_advance

theorem floor_taking (reaches : session.merge.floor ≤ content.id) :
    (session.taking position field content).merge.floor = content.id :=
  @Merge.floor_advance (session.merge.cache position content) position content.id reaches

def Serves (packet : Packet) (session : MergeSession) : Prop :=
  ∀ field ∈ session.merge.fields, Served packet session.links field

def Passed (packet : Packet) (position : Nat) (session : MergeSession) : Prop :=
  ∀ index < position, ∀ field, session.merge.fields[index]? = some field →
    field.cached = some (packet.part field.name)

def Waiting (packet : Packet) (session : MergeSession) : Prop :=
  ∀ field ∈ session.merge.fields,
    (∀ held, field.cached = some held → held.id ≤ session.merge.floor) ∧
    (session.links.get field.link).slot = some (packet.part field.name)

private theorem fields_taking {other : MergeField} {index : Nat}
    (found : session.merge.fields[position]? = some field)
    (there : (session.taking position field content).merge.fields[index]? = some other) :
    index = position ∧ other = { field with cached := some content } ∨
      index ≠ position ∧ session.merge.fields[index]? = some other := by
  change ((session.merge.cache position content).advance position _).1.fields[index]? = some other at there
  rw [Merge.fields_advance] at there
  by_cases here : position = index
  · subst here
    rw [Merge.fields_cache_at found] at there
    exact Or.inl ⟨rfl, (Option.some.inj there).symm⟩
  · rw [Merge.fields_cache_apart here] at there
    exact Or.inr ⟨fun same => here same.symm, there⟩

private theorem serves_taking (apart : session.merge.Apart)
    (found : session.merge.fields[position]? = some field)
    (slot : (session.links.get field.link).slot = some (packet.part field.name))
    (serves : session.Serves packet) :
    (session.taking position field (packet.part field.name)).Serves packet := by
  intro other member
  obtain ⟨index, there⟩ := List.mem_iff_getElem?.mp member
  rcases fields_taking found there with ⟨_, same⟩ | ⟨elsewhere, original⟩
  · subst same
    refine .taken rfl ?_
    change ((session.links.set field.link _).get field.link).slot = none
    rw [LinkStore.slot_set, if_pos ⟨rfl, LinkStore.known_of_slot slot⟩]
  · have different : other.link ≠ field.link := fun same => elsewhere (apart.at original found same)
    have kept : ((session.taking position field (packet.part field.name)).links.get other.link).slot =
        (session.links.get other.link).slot := by
      change ((session.links.set field.link _).get other.link).slot = _
      rw [LinkStore.slot_set, if_neg (fun both => different both.1)]
    cases serves other (List.mem_of_getElem? original) with
    | pending lies slot => exact .pending lies (kept.trans slot)
    | taken cached slot => exact .taken cached (kept.trans slot)

private theorem passed_taking (found : session.merge.fields[position]? = some field)
    (passed : session.Passed packet position) :
    (session.taking position field (packet.part field.name)).Passed packet (position + 1) := by
  intro index before other there
  rcases fields_taking found there with ⟨_, same⟩ | ⟨elsewhere, original⟩
  · subst same
    rfl
  · exact passed index (by omega) other original

private theorem apart_taking (apart : session.merge.Apart) :
    (session.taking position field content).merge.Apart := by
  unfold Merge.Apart
  rw [layout_taking]
  exact apart

private theorem assembles_complete (under : session.call = some (.visiting position))
    (beyond : session.merge.fields.length ≤ position) (level : session.merge.floor = packet.id)
    (serves : session.Serves packet) (passed : session.Passed packet position) :
    ∃ ready, Promptly session ready ∧ Assembled packet session ready := by
  have holds : ∀ field ∈ session.merge.fields, field.cached = some (packet.part field.name) := by
    intro field member
    obtain ⟨index, found⟩ := List.mem_iff_getElem?.mp member
    have within := (List.getElem?_eq_some_iff.mp found).1
    exact passed index (Nat.lt_of_lt_of_le within beyond) field found
  refine ⟨session, .here,
    { visits := ⟨position, under, beyond⟩, laid := rfl, floor := level, cached := holds, empty := ?_
      emissions := rfl, numbered := rfl, known := rfl }⟩
  intro field member
  cases serves field member with
  | pending lies => exact absurd (lies _ (holds field member)) (Nat.lt_irrefl _)
  | taken cached slot => exact slot

private theorem length_taking :
    (session.taking position field content).merge.fields.length = session.merge.fields.length := by
  have lengths := congrArg List.length (@layout_taking session content position field)
  unfold Merge.layout at lengths
  rwa [List.length_map, List.length_map] at lengths

private theorem assembles_taking (under : session.call = some (.visiting position))
    (found : session.merge.fields[position]? = some field)
    (lies : Merge.LiesBelow field session.merge.floor)
    (slot : (session.links.get field.link).slot = some (packet.part field.name))
    (reaches : session.merge.floor ≤ packet.id)
    (rest : ∃ ready, Promptly (session.taking position field (packet.part field.name)) ready ∧
      Assembled packet (session.taking position field (packet.part field.name)) ready) :
    ∃ ready, Promptly session ready ∧ Assembled packet session ready := by
  obtain ⟨ready, promptly, assembled⟩ := rest
  exact ⟨ready, promptly.take under found lies slot reaches,
    assembled.before layout_taking rfl nextId_taking next_taking⟩

private theorem assembles_level (count : Nat) (apart : session.merge.Apart)
    (under : session.call = some (.visiting position))
    (beyond : session.merge.fields.length ≤ position + count) (level : session.merge.floor = packet.id)
    (serves : session.Serves packet) (passed : session.Passed packet position) :
    ∃ ready, Promptly session ready ∧ Assembled packet session ready := by
  induction count generalizing session position with
  | zero => exact assembles_complete under beyond level serves passed
  | succ count ih =>
      cases found : session.merge.fields[position]? with
      | none => exact assembles_complete under (List.getElem?_eq_none_iff.mp found) level serves passed
      | some field =>
          cases serves field (List.mem_of_getElem? found) with
          | pending lies slot =>
              have reaches : session.merge.floor ≤ packet.id := Nat.le_of_eq level
              have onward : (session.taking position field (packet.part field.name)).call =
                  some (.visiting (position + 1)) := call_taking_level level
              apply assembles_taking under found (level ▸ lies) slot reaches
              apply ih (apart_taking apart) onward
              · rw [length_taking]
                omega
              · exact floor_taking reaches
              · exact serves_taking apart found slot serves
              · exact passed_taking found passed
          | taken cached slot =>
              let onward : MergeSession := { session with call := some (.visiting (position + 1)) }
              have further : onward.Passed packet (position + 1) := by
                intro index before other there
                rcases Nat.lt_succ_iff_lt_or_eq.mp before with earlier | here
                · exact passed index earlier other there
                · subst here
                  cases found.symm.trans there
                  exact cached
              have short : onward.merge.fields.length ≤ position + 1 + count := by
                change session.merge.fields.length ≤ _
                omega
              have stands : Merge.StandsAt field session.merge.floor := ⟨_, cached, level.symm⟩
              obtain ⟨ready, promptly, assembled⟩ :=
                @ih onward (position + 1) apart rfl short level serves further
              exact ⟨ready, promptly.pass under found stands, assembled.before rfl rfl rfl rfl⟩

private theorem assembles_raised (apart : session.merge.Apart)
    (under : session.call = some (.visiting position)) (reaches : session.merge.floor < packet.id)
    (found : session.merge.fields[position]? = some field) (lies : Merge.LiesBelow field session.merge.floor)
    (waiting : session.Waiting packet) :
    ∃ ready, Promptly session ready ∧ Assembled packet session ready := by
  obtain ⟨_, slot⟩ := waiting field (List.mem_of_getElem? found)
  have serves : session.Serves packet := fun other member =>
    .pending (fun held cached => Nat.lt_of_le_of_lt ((waiting other member).1 held cached) reaches)
      (waiting other member).2
  have restarted : (session.taking position field (packet.part field.name)).call = some (.visiting 0) :=
    call_taking_raised reaches
  apply assembles_taking under found lies slot (Nat.le_of_lt reaches)
  apply assembles_level session.merge.fields.length (apart_taking apart) restarted
  · rw [length_taking]
    omega
  · exact floor_taking (Nat.le_of_lt reaches)
  · exact serves_taking apart found slot serves
  · intro index before
    exact absurd before (Nat.not_lt_zero index)

private theorem assembles_below (distance : Nat) (apart : session.merge.Apart)
    (under : session.call = some (.visiting position)) (reaches : session.merge.floor < packet.id)
    (behind : session.merge.fields[position + distance]? = some field)
    (lies : Merge.LiesBelow field session.merge.floor) (waiting : session.Waiting packet) :
    ∃ ready, Promptly session ready ∧ Assembled packet session ready := by
  induction distance generalizing session position with
  | zero => exact assembles_raised apart under reaches behind lies waiting
  | succ distance ih =>
      have within := (List.getElem?_eq_some_iff.mp behind).1
      have here : position < session.merge.fields.length := by omega
      have found := List.getElem?_eq_getElem here
      by_cases low : Merge.LiesBelow session.merge.fields[position] session.merge.floor
      · exact assembles_raised apart under reaches found low waiting
      · have stands : Merge.StandsAt session.merge.fields[position] session.merge.floor := by
          simp only [Merge.LiesBelow, not_forall, Nat.not_lt] at low
          obtain ⟨held, cached, atLeast⟩ := low
          have atMost := (waiting _ (List.mem_of_getElem? found)).1 held cached
          exact ⟨held, cached, Nat.le_antisymm atMost atLeast⟩
        let onward : MergeSession := { session with call := some (.visiting (position + 1)) }
        have further : onward.merge.fields[position + 1 + distance]? = some field := by
          rw [← behind]
          congr 1
          omega
        obtain ⟨ready, promptly, assembled⟩ :=
          @ih onward (position + 1) apart rfl reaches further lies waiting
        exact ⟨ready, promptly.pass under found stands, assembled.before rfl rfl rfl rfl⟩

/-- The merge rests, its links are empty, and nothing that it holds reaches this id. -/
structure Vacant (layout : List (String × LinkId)) (limit : Nat) (session : MergeSession) : Prop where
  idle : session.call = none
  laid : session.merge.layout = layout
  bounded : session.merge.nextId ≤ session.merge.floor
  reached : session.merge.floor ≤ limit
  level : ∀ field ∈ session.merge.fields, ∀ held, field.cached = some held →
    held.id ≤ session.merge.floor ∧ held.id < limit
  behind : ∃ field ∈ session.merge.fields, Merge.LiesBelow field session.merge.floor
  empty : ∀ field ∈ session.merge.fields, (session.links.get field.link).slot = none
  known : ∀ entry ∈ layout, entry.2 < session.links.next

variable {layout : List (String × LinkId)} {limit higher : Nat} {bindings joins : List Binding}
  {stored : LinkStore} {notices : List Notice} {channels : LinkStore} {actions : List MergeAction}

theorem Vacant.mono (vacant : session.Vacant layout limit) (further : limit ≤ higher) :
    session.Vacant layout higher := by
  refine { vacant with reached := Nat.le_trans vacant.reached further, level := ?_ }
  intro field member held cached
  obtain ⟨atMost, below⟩ := vacant.level field member held cached
  exact ⟨atMost, Nat.lt_of_lt_of_le below further⟩

theorem Rejoined.vacant (rejoined : Rejoined packet session next) (vacant : session.Vacant layout limit)
    (within : limit ≤ packet.id) : next.Vacant layout (packet.id + 1) := by
  have same : next.merge.layout = layout := rejoined.laid.trans vacant.laid
  have held : ∀ field ∈ next.merge.fields, ∀ held, field.cached = some held → held.id = packet.id := by
    intro field member held cached
    cases (rejoined.cached field member).symm.trans cached
    rfl
  refine
    { idle := rejoined.idle, laid := same, bounded := ?_, reached := Nat.le_of_eq rejoined.floor
      level := ?_, behind := ?_, empty := rejoined.empty, known := ?_ }
  · rw [rejoined.numbered, rejoined.floor]
    exact Nat.succ_le_succ (Nat.le_trans vacant.bounded (Nat.le_trans vacant.reached within))
  · intro field member other cached
    have sameId := held field member other cached
    rw [rejoined.floor]
    omega
  · obtain ⟨field, member, _⟩ := vacant.behind
    have listed : (field.name, field.link) ∈ next.merge.layout := by
      rw [same, ← vacant.laid]
      exact List.mem_map.mpr ⟨field, member, rfl⟩
    obtain ⟨there, present, _⟩ := List.mem_map.mp listed
    refine ⟨there, present, ?_⟩
    intro other cached
    have sameId := held there present other cached
    rw [rejoined.floor]
    omega
  · rw [rejoined.known]
    exact vacant.known

/-- From a vacant merge on, a packet whose parts lie on the links is put together without a wait. -/
theorem Vacant.assembles (vacant : session.Vacant layout packet.id) (apart : (layout.map Prod.snd).Nodup)
    (parts : ∀ field ∈ session.merge.fields, (stored.get field.link).slot = some (packet.part field.name))
    (kept : stored.next = session.links.next) :
    ∃ ready, Promptly { session with links := stored, call := some (.visiting 0) } ready ∧
      Assembled packet session ready := by
  let called : MergeSession := { session with links := stored, call := some (.visiting 0) }
  have separate : called.merge.Apart := by
    unfold Merge.Apart
    rw [vacant.laid]
    exact apart
  rcases Nat.lt_or_eq_of_le vacant.reached with below | level
  · have waiting : called.Waiting packet := fun field member =>
      ⟨fun held cached => (vacant.level field member held cached).1, parts field member⟩
    obtain ⟨field, member, lies⟩ := vacant.behind
    obtain ⟨distance, behind⟩ := List.mem_iff_getElem?.mp member
    have found : called.merge.fields[0 + distance]? = some field := (Nat.zero_add distance).symm ▸ behind
    obtain ⟨ready, promptly, assembled⟩ := assembles_below distance separate rfl below found lies waiting
    exact ⟨ready, promptly, assembled.before rfl rfl rfl kept⟩
  · have serves : called.Serves packet := fun field member =>
      .pending (fun held cached => (vacant.level field member held cached).2) (parts field member)
    have short : called.merge.fields.length ≤ 0 + session.merge.fields.length :=
      Nat.le_of_eq (Nat.zero_add _).symm
    have passed : called.Passed packet 0 := fun index before => absurd before (Nat.not_lt_zero index)
    obtain ⟨ready, promptly, assembled⟩ := assembles_level _ separate rfl short level serves passed
    exact ⟨ready, promptly, assembled.before rfl rfl rfl kept⟩

/-- A composite that has the split fields of a packet and nothing else. -/
structure Restored (bindings : List Binding) (packet : Packet) (emission : Emission) : Prop where
  rendezvous : emission.rendezvous = packet.id
  records : ∀ binding ∈ bindings,
    emission.composite.message.record binding.field = packet.message.record binding.field
  fields : ∀ name, name ∈ emission.composite.message.names ↔ name ∈ bindings.map (·.field)
  whole : (∀ name, name ∈ packet.message.names ↔ name ∈ bindings.map (·.field)) →
    (∀ binding ∈ bindings, ∃ part, packet.message.Holds binding.field part) →
      emission.composite.message = packet.message

/-- Packets are split over the links of a merge, each after the merge has answered for the one before. -/
inductive Relay (bindings : List Binding) : MergeSession → List Packet → MergeSession → Prop
  | done {session : MergeSession} : Relay bindings session [] session
  | next {session begun middle last : MergeSession} {packet : Packet} {rest : List Packet}
      {stored : LinkStore} {notices : List Notice}
      (accepted : (Output.splitter bindings).accept session.links packet = .ok (stored, notices))
      (begins : { session with links := stored }.act .begin = some begun) (answers : Promptly begun middle)
      (ended : middle.call = none)
      (emptied : ∀ binding ∈ bindings, (middle.links.get binding.link).slot = none)
      (onward : Relay bindings middle rest last) : Relay bindings session (packet :: rest) last

private theorem Rejoined.restores (rejoined : Rejoined packet session next)
    (distinct : next.merge.Distinct) (laid : next.merge.layout = layoutOf joins) (same : joins.Perm bindings)
    (reads : ∀ binding ∈ bindings, ∃ part, packet.message.record binding.field = .ok part) :
    Restored bindings packet
      { composite := { id := session.merge.nextId, message := next.merge.composite }
        rendezvous := packet.id } := by
  have holds : ∀ binding ∈ bindings,
      next.merge.composite.Holds binding.field (packet.part binding.field).message := by
    intro binding bound
    have listed : (binding.field, binding.link) ∈ next.merge.layout := by
      rw [laid]
      exact mem_layoutOf.mpr ⟨binding, same.mem_iff.mpr bound, rfl⟩
    obtain ⟨field, member, entry⟩ := List.mem_map.mp listed
    have named : field.name = binding.field := congrArg Prod.fst entry
    exact named ▸ Merge.composite_holds distinct member (rejoined.cached field member)
  have records : ∀ binding ∈ bindings,
      next.merge.composite.record binding.field = packet.message.record binding.field := by
    intro binding bound
    obtain ⟨part, read⟩ := reads binding bound
    rw [(holds binding bound).record, read]
    unfold Packet.part
    rw [read]
    rfl
  have complete : ∀ field ∈ next.merge.fields, Merge.StandsAt field packet.id :=
    fun field member => ⟨_, rejoined.cached field member, rfl⟩
  have fields : ∀ name, name ∈ next.merge.composite.names ↔ name ∈ bindings.map (·.field) := by
    intro name
    rw [Merge.mem_names_of_complete complete, laid, mem_layoutOf_names]
    exact (same.map _).mem_iff
  refine ⟨rfl, records, fields, ?_⟩
  intro exactly structured
  apply Message.eq_of_holds
  · intro name
    exact (fields name).trans (exactly name).symm
  · intro name listed
    obtain ⟨binding, bound, named⟩ := List.mem_map.mp ((fields name).mp listed)
    subst named
    obtain ⟨part, held⟩ := structured binding bound
    have same := (holds binding bound).record.symm.trans ((records binding bound).trans held.record)
    cases Except.ok.inj same
    exact ⟨_, holds binding bound, held⟩

private theorem Vacant.assembles_split (vacant : session.Vacant (layoutOf joins) packet.id)
    (apart : (bindings.map (·.link)).Nodup) (same : joins.Perm bindings)
    (accepted : (Output.splitter bindings).accept session.links packet = .ok (stored, notices)) :
    ∃ ready, Promptly { session with links := stored, call := some (.visiting 0) } ready ∧
      Assembled packet session ready := by
  have laidApart : ((layoutOf joins).map Prod.snd).Nodup :=
    layoutOf_links.nodup_iff.mpr ((same.map _).nodup_iff.mpr apart)
  have known : ∀ binding ∈ bindings, binding.link < session.links.next := fun binding bound =>
    vacant.known (binding.field, binding.link) (mem_layoutOf.mpr ⟨binding, same.mem_iff.mpr bound, rfl⟩)
  have delivered := Output.delivered_splitter apart known accepted
  have kept : stored.next = session.links.next := by
    obtain ⟨deliveries, _, delivers⟩ := Output.accept_ok_iff.mp accepted
    have kept := @Output.next_deliver deliveries session.links
    rwa [delivers] at kept
  refine vacant.assembles laidApart ?_ kept
  intro field member
  have listed : (field.name, field.link) ∈ layoutOf joins := by
    rw [← vacant.laid]
    exact List.mem_map.mpr ⟨field, member, rfl⟩
  obtain ⟨binding, bound, entry⟩ := mem_layoutOf.mp listed
  obtain ⟨sameName, sameLink⟩ := Prod.mk.inj entry
  obtain ⟨content, part, refilled⟩ := delivered.filled binding (same.mem_iff.mp bound)
  rw [← sameName, ← sameLink, refilled.slot, part.same]

private theorem Vacant.restores (vacant : session.Vacant (layoutOf joins) packet.id)
    (distinct : (bindings.map (·.field)).Nodup) (apart : (bindings.map (·.link)).Nodup)
    (same : joins.Perm bindings) (room : packet.id < Packet.greatestId)
    (accepted : (Output.splitter bindings).accept session.links packet = .ok (stored, notices)) :
    ∃ next emission, Promptly { session with links := stored, call := some (.visiting 0) } next ∧
      next.ledger.emissions = session.ledger.emissions ++ [emission] ∧
      Restored bindings packet emission ∧ emission.composite.id = session.merge.nextId ∧
      next.merge.nextId = session.merge.nextId + 1 ∧
      next.Vacant (layoutOf joins) (packet.id + 1) := by
  have known : ∀ binding ∈ bindings, binding.link < session.links.next := fun binding bound =>
    vacant.known (binding.field, binding.link) (mem_layoutOf.mpr ⟨binding, same.mem_iff.mpr bound, rfl⟩)
  obtain ⟨ready, promptly, assembled⟩ := vacant.assembles_split apart same accepted
  obtain ⟨next, answers, rejoined⟩ :=
    assembled.rejoins promptly (Nat.le_trans vacant.bounded vacant.reached) room
  have again := rejoined.vacant vacant (Nat.le_refl _)
  refine ⟨next, _, answers, rejoined.emitted, ?_, rfl, rejoined.numbered, again⟩
  apply rejoined.restores _ again.laid same
  · intro binding bound
    obtain ⟨content, part, _⟩ := (Output.delivered_splitter apart known accepted).filled binding bound
    exact ⟨_, part.record⟩
  · unfold Merge.Distinct
    rw [again.laid]
    exact Merge.distinct_ofBindings ((same.map _).nodup_iff.mpr distinct)

private theorem emptied_of_fields (laid : next.merge.layout = layoutOf joins) (same : joins.Perm bindings)
    (empty : ∀ field ∈ next.merge.fields, (next.links.get field.link).slot = none) :
    ∀ binding ∈ bindings, (next.links.get binding.link).slot = none := by
  intro binding bound
  have listed : (binding.field, binding.link) ∈ next.merge.layout := by
    rw [laid]
    exact mem_layoutOf.mpr ⟨binding, same.mem_iff.mpr bound, rfl⟩
  obtain ⟨field, member, entry⟩ := List.mem_map.mp listed
  have sameLink : field.link = binding.link := congrArg Prod.snd entry
  exact sameLink ▸ empty field member

private theorem Vacant.relays {packets : List Packet} (vacant : session.Vacant (layoutOf joins) limit)
    (distinct : (bindings.map (·.field)).Nodup) (apart : (bindings.map (·.link)).Nodup)
    (same : joins.Perm bindings) (above : ∀ packet ∈ packets, limit ≤ packet.id)
    (room : ∀ packet ∈ packets, packet.id < Packet.greatestId)
    (increasing : (packets.map (·.id)).Pairwise (· < ·))
    (splits : ∀ packet ∈ packets,
      ∃ deliveries, (Output.splitter bindings).route packet = .ok deliveries) :
    ∃ last emissions, Relay bindings session packets last ∧
      last.ledger.emissions = session.ledger.emissions ++ emissions ∧
      List.Forall₂ (fun packet emission => Restored bindings packet emission) packets emissions ∧
      emissions.map (·.composite.id) = List.range' session.merge.nextId packets.length ∧
      ∀ higher, limit ≤ higher → (∀ packet ∈ packets, packet.id < higher) →
        last.Vacant (layoutOf joins) higher := by
  induction packets generalizing session limit with
  | nil =>
      exact ⟨session, [], .done, (List.append_nil _).symm, .nil, rfl, fun _ further _ => vacant.mono further⟩
  | cons packet rest ih =>
      obtain ⟨lower, increasingRest⟩ := List.pairwise_cons.mp increasing
      obtain ⟨deliveries, routed⟩ := splits packet List.mem_cons_self
      have accepted : (Output.splitter bindings).accept session.links packet =
          .ok (Output.deliver session.links deliveries) :=
        Output.accept_ok_iff.mpr ⟨deliveries, routed, rfl⟩
      have ready := vacant.mono (above packet List.mem_cons_self)
      obtain ⟨middle, emission, promptly, emitted, restored, numbered, counted, again⟩ :=
        ready.restores distinct apart same (room packet List.mem_cons_self) accepted
      have higher : ∀ other ∈ rest, packet.id + 1 ≤ other.id := fun other member =>
        lower other.id (List.mem_map_of_mem member)
      obtain ⟨last, emissions, relay, grown, all, ids, vacantOn⟩ := ih again higher
        (fun other member => room other (List.mem_cons_of_mem _ member)) increasingRest
        fun other member => splits other (List.mem_cons_of_mem _ member)
      refine ⟨last, emission :: emissions, ?_, ?_, .cons restored all, ?_, ?_⟩
      · exact .next accepted (act_beginning ready.idle) promptly again.idle
          (emptied_of_fields again.laid same again.empty) relay
      · rw [grown, emitted, List.append_assoc]
        rfl
      · rw [List.map_cons, ids, numbered, counted, List.length_cons, List.range'_succ]
      · intro bound _ below
        exact vacantOn bound (below packet List.mem_cons_self)
          fun other member => below other (List.mem_cons_of_mem _ member)

namespace Braid

def cloth : List Packet :=
  [{ id := 6, message := (Message.empty.set "dye" (.bool true) trivial).withRecord "warp" .empty },
    { id := 9
      message :=
        (Message.empty.withRecord "warp" (Message.empty.withRecord "silk" .empty)).withRecord "weft" .empty }]

end Braid

end MergeSession
end Sluice
