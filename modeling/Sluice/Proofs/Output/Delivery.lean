import Sluice.Proofs.Link.Wait
import Sluice.Proofs.Message.Fields
import Sluice.Proofs.Output.Route
import Sluice.Proofs.Worker.Step

set_option autoImplicit false

/-! What a packet leaves behind on the links of an output: everything that it is split into, each part on the
link of its binding, or nothing at all. -/

namespace Sluice

def LinkStore.displacing (links : LinkStore) (link : LinkId) : List Notice :=
  (links.get link).slot.toList.map (links.get link).discarding

/-- The first binding, in order, whose field cannot be read as a record. -/
inductive Message.FirstUnstructured (message : Message) : List Binding → Binding → Prop
  | here {binding : Binding} {rest : List Binding} (fails : message.Unstructured binding.field) :
      FirstUnstructured message (binding :: rest) binding
  | there {binding other : Binding} {rest : List Binding} (reads : ¬ message.Unstructured other.field)
      (later : FirstUnstructured message rest binding) :
      FirstUnstructured message (other :: rest) binding

theorem Message.FirstUnstructured.mem {message : Message} {bindings : List Binding} {binding : Binding}
    (first : message.FirstUnstructured bindings binding) : binding ∈ bindings := by
  induction first with
  | here => exact List.mem_cons_self
  | there _ _ ih => exact List.mem_cons_of_mem _ ih

theorem Message.FirstUnstructured.unstructured {message : Message} {bindings : List Binding}
    {binding : Binding} (first : message.FirstUnstructured bindings binding) :
    message.Unstructured binding.field := by
  induction first with
  | here fails => exact fails
  | there _ _ ih => exact ih

/-- A link after a put: the packet lies there in place of what did, and the bell has rung. -/
structure Link.Refilled (packet : Packet) (before after : Link) : Prop where
  slot : after.slot = some packet
  label : after.label = before.label
  bell : after.bell = before.bell.ring

/-- What a splitter puts on the link of a binding: a missing field is an empty record. -/
structure Binding.Part (packet : Packet) (binding : Binding) (part : Packet) : Prop where
  id : part.id = packet.id
  record : packet.message.record binding.field = .ok part.message
  blank : packet.message.Blank binding.field → part.message = .empty

/-- Each bound link holds its share of a packet, whatever lay there is displaced, and no other link has
changed. -/
structure Output.Delivered (share : Binding → Packet → Prop) (bindings : List Binding)
    (links stored : LinkStore) (notices : List Notice) : Prop where
  filled : ∀ binding ∈ bindings, ∃ content, share binding content ∧
    Link.Refilled content (links.get binding.link) (stored.get binding.link)
  others : ∀ link, link ∉ bindings.map (·.link) → stored.get link = links.get link
  displaced : notices = bindings.flatMap fun binding => links.displacing binding.link

def Effect.noted? : Effect → Option Notice
  | .noted notice => some notice
  | _ => none

def Worker.alone (now : Duration) (cancelFirst : Bool) : Nat → WorkerStep → Option WorkerStep
  | 0, reached => some reached
  | count + 1, reached =>
      match reached.worker.step now cancelFirst reached.lifecycle reached.links reached.bus with
      | none => none
      | some next => Worker.alone now cancelFirst count { next with effects := reached.effects ++ next.effects }

/-- What comes of a packet that a worker has to hand over, left alone: it fails and the links are as they
were, or the packet has gone to all of them. Besides the call itself only what was displaced is noted. -/
def Worker.HandsOver (now : Duration) (cancelFirst : Bool) (life : Lifecycle) (links : LinkStore)
    (bus : ReportBus) (worker held : Worker) (stream : Option Reading) (length : Nat) :
    Except MessageError (LinkStore × List Notice) → Prop
  | .error cause => ∃ id size response elapsed,
      worker.step now cancelFirst life links bus = some
        { worker := { held with control := .failing (.dispatch held.stage cause) }, lifecycle := life
          links := links, bus := bus, effects := [.noted (worker.completed id size response elapsed)] }
  | .ok (stored, notices) => ∃ id size response elapsed effects,
      Worker.alone now cancelFirst (length + 1)
          { worker := worker, lifecycle := life, links := links, bus := bus, effects := [] } = some
        { worker := { held with control := .delivering [] stream }, lifecycle := life, links := stored
          bus := bus, effects := effects } ∧
      effects.filterMap Effect.noted? = worker.completed id size response elapsed :: notices

namespace Output

variable {stage : String} {bindings : List Binding} {schema : Schema} {output : Output}
  {packet content : Packet} {deliveries : List Delivery} {links stored : LinkStore} {link : LinkId}
  {notices : List Notice} {cause : MessageError}

theorem next_deliver : (deliver links deliveries).1.next = links.next := by
  induction deliveries generalizing links with
  | nil => rfl
  | cons delivery rest ih =>
      obtain ⟨target, packet⟩ := delivery
      exact ih.trans LinkStore.next_set

theorem get_deliver_other (absent : link ∉ deliveries.map (·.1)) :
    (deliver links deliveries).1.get link = links.get link := by
  induction deliveries generalizing links with
  | nil => rfl
  | cons delivery rest ih =>
      obtain ⟨target, packet⟩ := delivery
      have apart : target ≠ link := fun same => absent (same ▸ List.mem_cons_self)
      have later : link ∉ rest.map (·.1) := fun listed => absent (List.mem_cons_of_mem _ listed)
      exact (ih later).trans (LinkStore.get_set_other apart)

theorem get_deliver (distinct : (deliveries.map (·.1)).Nodup) (member : (link, content) ∈ deliveries)
    (known : link < links.next) :
    (deliver links deliveries).1.get link = ((links.get link).put content).1 := by
  induction deliveries generalizing links with
  | nil => cases member
  | cons delivery rest ih =>
      obtain ⟨target, packet⟩ := delivery
      obtain ⟨fresh, distinctRest⟩ := List.nodup_cons.mp distinct
      rcases List.mem_cons.mp member with here | later
      · cases here
        exact (get_deliver_other fresh).trans (LinkStore.get_set_same known)
      · have listed : link ∈ rest.map (·.1) := List.mem_map.mpr ⟨_, later, rfl⟩
        have apart : target ≠ link := fun same => fresh (same ▸ listed)
        have stillKnown : link < (links.put target packet).1.next := by
          change link < (links.set target _).next
          rwa [LinkStore.next_set]
        have kept : (links.put target packet).1.get link = links.get link :=
          LinkStore.get_set_other apart
        change (deliver (links.put target packet).1 rest).1.get link = _
        rw [ih distinctRest later stillKnown, kept]

theorem notices_deliver (distinct : (deliveries.map (·.1)).Nodup) :
    (deliver links deliveries).2 = deliveries.flatMap fun delivery => links.displacing delivery.1 := by
  induction deliveries generalizing links with
  | nil => rfl
  | cons delivery rest ih =>
      obtain ⟨target, packet⟩ := delivery
      obtain ⟨fresh, distinctRest⟩ := List.nodup_cons.mp distinct
      rw [List.flatMap_cons]
      change links.displacing target ++ (deliver (links.put target packet).1 rest).2 = _
      rw [ih distinctRest]
      congr 1
      apply List.flatMap_congr
      intro delivery member
      have apart : target ≠ delivery.1 := fun same =>
        fresh (same ▸ List.mem_map.mpr ⟨delivery, member, rfl⟩)
      have kept : (links.put target packet).1.get delivery.1 = links.get delivery.1 :=
        LinkStore.get_set_other apart
      unfold LinkStore.displacing
      rw [kept]

theorem splitFields_error_iff :
    splitFields packet bindings = .error cause ↔
      ∃ binding, packet.message.FirstUnstructured bindings binding ∧
        cause = .notARecord binding.field := by
  induction bindings with
  | nil =>
      constructor
      · intro impossible
        cases impossible
      · rintro ⟨binding, impossible, _⟩
        cases impossible
  | cons first rest ih =>
      simp only [splitFields]
      cases record : packet.message.record first.field with
      | error other =>
          obtain ⟨unstructured, same⟩ := Message.record_error_iff.mp record
          subst same
          constructor
          · intro failed
            cases failed
            exact ⟨first, .here unstructured, rfl⟩
          · rintro ⟨binding, offends, same⟩
            cases offends with
            | here => rw [same]
            | there reads => exact absurd unstructured reads
      | ok part =>
          have reads : ¬ packet.message.Unstructured first.field := by
            intro unstructured
            cases unstructured.record.symm.trans record
          constructor
          · intro failed
            cases later : splitFields packet rest with
            | ok deliveries =>
                simp only [later] at failed
                cases failed
            | error other =>
                simp only [later] at failed
                cases failed
                obtain ⟨binding, offends, same⟩ := ih.mp later
                exact ⟨binding, .there reads offends, same⟩
          · rintro ⟨binding, offends, same⟩
            cases offends with
            | here unstructured => exact absurd unstructured reads
            | there _ later => simp only [ih.mpr ⟨binding, later, same⟩]

theorem firstUnstructured_exists {message : Message} :
    (∃ binding, message.FirstUnstructured bindings binding) ↔
      ∃ binding ∈ bindings, message.Unstructured binding.field := by
  constructor
  · rintro ⟨binding, offends⟩
    exact ⟨binding, offends.mem, offends.unstructured⟩
  · rintro ⟨binding, member, fails⟩
    induction bindings with
    | nil => cases member
    | cons first rest ih =>
        by_cases here : message.Unstructured first.field
        · exact ⟨first, .here here⟩
        · rcases List.mem_cons.mp member with same | later
          · exact absurd (same ▸ fails) here
          · obtain ⟨other, offends⟩ := ih later
            exact ⟨other, .there here offends⟩

private theorem shared {share : Binding → Delivery → Prop} {binding : Binding}
    (shares : List.Forall₂ share bindings deliveries) (member : binding ∈ bindings) :
    ∃ delivery ∈ deliveries, share binding delivery := by
  induction shares with
  | nil => cases member
  | cons first _ ih =>
      rcases List.mem_cons.mp member with here | later
      · exact ⟨_, List.mem_cons_self, here ▸ first⟩
      · obtain ⟨delivery, listed, holds⟩ := ih later
        exact ⟨delivery, List.mem_cons_of_mem _ listed, holds⟩

theorem delivered_deliver {share : Binding → Packet → Prop} (apart : (bindings.map (·.link)).Nodup)
    (known : ∀ binding ∈ bindings, binding.link < links.next)
    (shares : List.Forall₂ (fun binding delivery => binding.link = delivery.1 ∧ share binding delivery.2)
      bindings deliveries) :
    Delivered share bindings links (deliver links deliveries).1 (deliver links deliveries).2 := by
  have places : deliveries.map (·.1) = bindings.map (·.link) :=
    links_aligned (shares.imp fun _ _ both => both.1)
  have distinct : (deliveries.map (·.1)).Nodup := places ▸ apart
  refine ⟨?_, ?_, ?_⟩
  · intro binding member
    obtain ⟨delivery, delivered, same, holds⟩ := shared shares member
    have placed : (binding.link, delivery.2) ∈ deliveries := same ▸ delivered
    refine ⟨delivery.2, holds, ?_⟩
    rw [get_deliver distinct placed (known binding member)]
    exact ⟨rfl, rfl, rfl⟩
  · intro link absent
    exact get_deliver_other (places ▸ absent)
  · rw [notices_deliver distinct]
    have mapped := congrArg (List.flatMap links.displacing) places
    rw [List.flatMap_map, List.flatMap_map] at mapped
    exact mapped

theorem part_of_splits {binding : Binding} {delivery : Delivery} (splits : binding.Splits packet delivery) :
    binding.Part packet delivery.2 := by
  refine ⟨splits.id, splits.record, ?_⟩
  intro blank
  exact Except.ok.inj (splits.record.symm.trans blank.record)

theorem accept_error_iff :
    output.accept links packet = .error cause ↔ output.route packet = .error cause := by
  unfold accept
  cases output.route packet with
  | error other =>
      constructor
      · intro failed
        exact congrArg Except.error (Except.error.inj failed)
      · intro failed
        exact congrArg Except.error (Except.error.inj failed)
  | ok deliveries =>
      constructor
      · intro impossible
        cases impossible
      · intro impossible
        cases impossible

theorem accept_ok_iff :
    output.accept links packet = .ok (stored, notices) ↔
      ∃ deliveries, output.route packet = .ok deliveries ∧
        deliver links deliveries = (stored, notices) := by
  unfold accept
  cases routed : output.route packet with
  | error other =>
      constructor
      · intro impossible
        cases impossible
      · rintro ⟨_, impossible, _⟩
        cases impossible
  | ok deliveries =>
      constructor
      · intro accepted
        exact ⟨deliveries, rfl, Except.ok.inj accepted⟩
      · rintro ⟨_, same, delivered⟩
        cases same
        exact congrArg Except.ok delivered

theorem delivered_splitter (apart : (bindings.map (·.link)).Nodup)
    (known : ∀ binding ∈ bindings, binding.link < links.next)
    (accepted : (Output.splitter bindings).accept links packet = .ok (stored, notices)) :
    Delivered (Binding.Part packet) bindings links stored notices := by
  obtain ⟨deliveries, routed, delivered⟩ := accept_ok_iff.mp accepted
  have parts := (splits_splitFields routed).imp fun binding delivery splits =>
    And.intro splits.link (part_of_splits splits)
  have whole := delivered_deliver apart known parts
  rwa [delivered] at whole

theorem delivered_copying (apart : (bindings.map (·.link)).Nodup)
    (known : ∀ binding ∈ bindings, binding.link < links.next) :
    ∃ stored notices,
      (copying (bindings.map (·.link))).accept links packet = .ok (stored, notices) ∧
      Delivered (fun _ content => content = packet) bindings links stored notices := by
  let copies : List Delivery := bindings.map fun binding => (binding.link, packet)
  have copied : List.Forall₂ (fun binding delivery => binding.link = delivery.1 ∧ delivery.2 = packet)
      bindings copies := by
    rw [List.forall₂_map_right_iff, List.forall₂_same]
    exact fun binding member => ⟨rfl, rfl⟩
  refine ⟨_, _, ?_, delivered_deliver apart known copied⟩
  unfold accept
  rw [route_copying, List.map_map]
  rfl

end Output

namespace Worker

variable {now : Duration} {cancelFirst : Bool} {worker held : Worker} {stream : Option Reading}
  {packet : Packet} {deliveries : List Delivery} {life : Lifecycle} {links : LinkStore} {bus : ReportBus}

private theorem Offers.step (offers : worker.Offers now held packet stream) :
    held.output = worker.output ∧ ∃ id size response elapsed,
      worker.step now cancelFirst life links bus = some
        { worker := (held.dispatch packet stream).1, lifecycle := life, links := links, bus := bus
          effects := .noted (worker.completed id size response elapsed) ::
            (held.dispatch packet stream).2 } := by
  cases offers with
  | answered control =>
      refine ⟨rfl, ?_⟩
      unfold Worker.step
      simp only [control]
      exact ⟨_, _, _, _, rfl⟩
  | read control ready =>
      refine ⟨rfl, ?_⟩
      unfold Worker.step
      simp only [control, ready]
      exact ⟨_, _, _, _, rfl⟩

private theorem alone_step {reached next : WorkerStep} {count : Nat}
    (moved : reached.worker.step now cancelFirst reached.lifecycle reached.links reached.bus = some next) :
    alone now cancelFirst (count + 1) reached =
      alone now cancelFirst count { next with effects := reached.effects ++ next.effects } := by
  rw [alone]
  simp only [moved]

theorem noted_ofNotices (notices : List Notice) :
    (Effect.ofNotices notices).filterMap Effect.noted? = notices := by
  unfold Effect.ofNotices
  rw [List.filterMap_map]
  exact List.filterMap_some

private theorem alone_delivering {reached : WorkerStep}
    (control : reached.worker.control = .delivering deliveries stream) :
    ∃ effects, alone now cancelFirst deliveries.length reached =
        some { reached with
          worker := { reached.worker with control := .delivering [] stream }
          links := (Output.deliver reached.links deliveries).1
          effects := reached.effects ++ effects } ∧
      effects.filterMap Effect.noted? = (Output.deliver reached.links deliveries).2 := by
  induction deliveries generalizing reached with
  | nil =>
      refine ⟨[], ?_, rfl⟩
      rw [List.append_nil, ← control]
      rfl
  | cons delivery rest ih =>
      obtain ⟨link, packet⟩ := delivery
      let next : WorkerStep :=
        { worker := { reached.worker with control := .delivering rest stream }
          lifecycle := reached.lifecycle, links := (reached.links.put link packet).1, bus := reached.bus
          effects := .stored link packet :: Effect.ofNotices (reached.links.put link packet).2.2 }
      have moved : reached.worker.step now cancelFirst reached.lifecycle reached.links reached.bus =
          some next := by
        simp only [Worker.step, control]
        rfl
      have begun : { next with effects := reached.effects ++ next.effects }.worker.control =
          .delivering rest stream := rfl
      obtain ⟨effects, reaches, noted⟩ := ih begun
      refine ⟨next.effects ++ effects, ?_, ?_⟩
      · rw [List.length_cons, alone_step moved, reaches, ← List.append_assoc]
        rfl
      · rw [List.filterMap_append, noted, List.filterMap_cons]
        exact congrArg (· ++ _) (noted_ofNotices _)

private theorem Offers.handsOver {length : Nat} (offers : worker.Offers now held packet stream)
    (counted : ∀ deliveries, worker.output.route packet = .ok deliveries → deliveries.length = length) :
    worker.HandsOver now cancelFirst life links bus held stream length
      (worker.output.accept links packet) := by
  obtain ⟨sameOutput, id, size, response, elapsed, moved⟩ := offers.step
  unfold Output.accept
  cases routed : worker.output.route packet with
  | error cause =>
      have failing : held.dispatch packet stream =
          ({ held with control := .failing (.dispatch held.stage cause) }, []) := by
        unfold dispatch
        rw [sameOutput, routed]
      rw [failing] at moved
      exact ⟨id, size, response, elapsed, moved⟩
  | ok deliveries =>
      have begins : held.dispatch packet stream =
          ({ held with control := .delivering deliveries stream }, [.dispatched packet]) := by
        unfold dispatch
        rw [sameOutput, routed]
      rw [begins] at moved
      let begun : WorkerStep :=
        { worker := { held with control := .delivering deliveries stream }, lifecycle := life
          links := links, bus := bus
          effects := [.noted (worker.completed id size response elapsed), .dispatched packet] }
      have delivering : begun.worker.control = .delivering deliveries stream := rfl
      obtain ⟨effects, reaches, noted⟩ := alone_delivering delivering
      refine ⟨id, size, response, elapsed, begun.effects ++ effects, ?_, ?_⟩
      · rw [← counted deliveries routed, alone_step moved]
        exact reaches
      · rw [List.filterMap_append, noted]
        rfl

end Worker

namespace Output

variable {stage : String} {bindings : List Binding} {schema : Schema} {output : Output} {packet : Packet}
  {links : LinkStore}

/-- An output made of bindings to different links hands a packet over to all of them or to none. Where whole
messages are passed on it always accepts, and every bound link then holds the packet. A splitter refuses
exactly if a bound field cannot be read as a record, names the first such field, and leaves every link as it
is; otherwise each bound link holds its field under the id of the packet. What lay on a bound link is
displaced, and no other link changes. A worker comes to the same when it hands over a result. -/
theorem accept_exact (made : ofBindings stage bindings schema = .ok output)
    (apart : (bindings.map (·.link)).Nodup) (known : ∀ binding ∈ bindings, binding.link < links.next) :
    ((∀ fields, output ≠ .splitter fields) →
      ∃ stored notices, output.accept links packet = .ok (stored, notices) ∧
        Delivered (fun _ content => content = packet) bindings links stored notices) ∧
    (∀ fields, output = .splitter fields → fields = bindings ∧
      ((∃ cause, output.accept links packet = .error cause) ↔
        ∃ binding ∈ bindings, packet.message.Unstructured binding.field) ∧
      (∀ cause, output.accept links packet = .error cause ↔
        ∃ binding, packet.message.FirstUnstructured bindings binding ∧
          cause = .notARecord binding.field) ∧
      (∀ stored notices, output.accept links packet = .ok (stored, notices) →
        Delivered (Binding.Part packet) bindings links stored notices)) ∧
    ∀ (worker held : Worker) stream now cancelFirst life bus, worker.output = output →
      worker.Offers now held packet stream →
      worker.HandsOver now cancelFirst life links bus held stream bindings.length
        (output.accept links packet) := by
  refine ⟨?_, ?_, ?_⟩
  · intro plain
    rcases ofBindings_ok made with ⟨same, _⟩ | ⟨same, _⟩
    · subst same
      exact delivered_copying apart known
    · exact absurd same (plain bindings)
  · intro fields split
    rcases ofBindings_ok made with ⟨same, _⟩ | ⟨same, _⟩
    · exact absurd (same.symm.trans split) copying_ne_splitter
    · subst same
      cases split
      have refuses : ∀ cause, (Output.splitter bindings).accept links packet = .error cause ↔
          ∃ binding, packet.message.FirstUnstructured bindings binding ∧
            cause = .notARecord binding.field :=
        fun cause => accept_error_iff.trans splitFields_error_iff
      refine ⟨rfl, ?_, refuses, fun stored notices => delivered_splitter apart known⟩
      rw [← firstUnstructured_exists]
      constructor
      · rintro ⟨cause, failed⟩
        obtain ⟨binding, offends, _⟩ := (refuses cause).mp failed
        exact ⟨binding, offends⟩
      · rintro ⟨binding, offends⟩
        exact ⟨_, (refuses _).mpr ⟨binding, offends, rfl⟩⟩
  · intro worker held stream now cancelFirst life bus same offers
    subst same
    refine offers.handsOver fun deliveries routed => ?_
    have lengths := congrArg List.length (links_route made routed)
    rwa [List.length_map, List.length_map] at lengths

namespace Sorter

def trays : List Binding :=
  [{ field := "cover", link := 2 }, { field := "sheet", link := 0 }, { field := "spine", link := 1 }]

def page : Schema :=
  { name := "press.Page", records := ["cover", "sheet", "spine"] }

def shelf : LinkStore :=
  { links :=
      [{ Link.labelled "sheets" with slot := some { id := 3, message := .empty } }, .labelled "spines",
        .labelled "covers"] }

def bound : Packet :=
  { id := 5
    message :=
      (Message.empty.withRecord "cover" (Message.empty.withRecord "art" .empty)).withRecord "sheet" .empty }

def torn : Packet :=
  { id := 6
    message := (Message.empty.set "sheet" (.bool true) trivial).set "spine" (.text "") trivial }

end Sorter

theorem accept_exact_sorter :
    ofBindings "press" Sorter.trays Sorter.page = .ok (.splitter Sorter.trays) ∧
    (Sorter.trays.map (·.link)).Nodup ∧
    (∀ binding ∈ Sorter.trays, binding.link < Sorter.shelf.next) ∧
    (∃ stored notices,
      (Output.splitter Sorter.trays).accept Sorter.shelf Sorter.bound = .ok (stored, notices) ∧
      Delivered (Binding.Part Sorter.bound) Sorter.trays Sorter.shelf stored notices ∧
      notices = [.staleDiscarded "sheets" 3]) ∧
    (Output.splitter Sorter.trays).accept Sorter.shelf Sorter.torn = .error (.notARecord "sheet") := by
  have made : ofBindings "press" Sorter.trays Sorter.page = .ok (.splitter Sorter.trays) := rfl
  have apart : (Sorter.trays.map (·.link)).Nodup := by decide
  have known : ∀ binding ∈ Sorter.trays, binding.link < Sorter.shelf.next := by decide
  refine ⟨made, apart, known, ?_, ?_⟩
  · obtain ⟨_, split, _⟩ := @accept_exact _ _ _ _ Sorter.bound _ made apart known
    obtain ⟨_, _, _, delivers⟩ := split _ rfl
    have delivered := delivers _ _ rfl
    exact ⟨_, _, rfl, delivered, delivered.displaced⟩
  · obtain ⟨_, split, _⟩ := @accept_exact _ _ _ _ Sorter.torn _ made apart known
    obtain ⟨_, _, refuses, _⟩ := split _ rfl
    have cover : ¬ Sorter.torn.message.Unstructured "cover" := by
      rintro ⟨value, found, _⟩
      cases found
    exact (refuses _).mpr ⟨_, .there cover (.here ⟨_, rfl, trivial⟩), rfl⟩

end Output
end Sluice
