import Mathlib.Data.List.Nodup
import Sluice.Proofs.Merge.Step
import Sluice.Proofs.Output.Delivery
import Sluice.Proofs.Stage.Bindings

set_option autoImplicit false

/-! The order in which links are bound to a stage. It makes no difference to what the stage takes in, since a
merge visits its fields by name, and none to what it leaves on links that are all different. Only a complaint
lists the names in their order, or picks another one of several that are wrong. -/

namespace Sluice

namespace Binding

variable {binding : Binding} {bindings reordered : List Binding}

def Sorted (bindings : List Binding) : Prop :=
  bindings.Pairwise fun first second => ¬ second.field < first.field

theorem Sorted.insertByName (sorted : Sorted bindings) : Sorted (binding.insertByName bindings) := by
  induction bindings with
  | nil => exact List.pairwise_singleton _ _
  | cons head rest ih =>
      obtain ⟨ahead, sortedRest⟩ := List.pairwise_cons.mp sorted
      by_cases before : head.field < binding.field
      · rw [Binding.insertByName, if_pos before]
        refine List.pairwise_cons.mpr ⟨?_, ih sortedRest⟩
        intro other member
        rcases List.mem_cons.mp ((insertByName_perm binding rest).mem_iff.mp member) with same | later
        · exact same ▸ String.lt_asymm before
        · exact ahead other later
      · rw [Binding.insertByName, if_neg before]
        refine List.pairwise_cons.mpr ⟨?_, sorted⟩
        intro other member
        rcases List.mem_cons.mp member with same | later
        · exact same ▸ before
        · have reaches := String.le_trans (String.not_lt.mp before) (String.not_lt.mp (ahead other later))
          exact String.not_lt.mpr reaches

theorem sorted_sortByName : Sorted (sortByName bindings) := by
  induction bindings with
  | nil => exact List.Pairwise.nil
  | cons binding rest ih => exact ih.insertByName

theorem sortByName_eq (same : bindings.Perm reordered) (distinct : (bindings.map (·.field)).Nodup) :
    sortByName bindings = sortByName reordered := by
  have named : ∀ first ∈ bindings, ∀ second ∈ bindings, first.field = second.field → first = second :=
    fun first listed second otherListed => List.inj_on_of_nodup_map distinct listed otherListed
  refine List.Perm.eq_of_pairwise ?_ sorted_sortByName sorted_sortByName
    ((sortByName_perm bindings).trans (same.trans (sortByName_perm reordered).symm))
  intro first second listed otherListed behind ahead
  have level := String.le_antisymm (String.not_lt.mp behind) (String.not_lt.mp ahead)
  exact named first ((sortByName_perm bindings).mem_iff.mp listed) second
    (same.mem_iff.mpr ((sortByName_perm reordered).mem_iff.mp otherListed)) level

end Binding

theorem Merge.ofBindings_perm {bindings reordered : List Binding} (same : bindings.Perm reordered)
    (distinct : (bindings.map (·.field)).Nodup) :
    Merge.ofBindings bindings = Merge.ofBindings reordered := by
  unfold Merge.ofBindings
  rw [Binding.sortByName_eq same distinct]

namespace LinkStore

variable {links : LinkStore} {left right : LinkId} {first second : Packet}

theorem put_comm (apart : left ≠ right) :
    ((links.put left first).1.put right second).1 = ((links.put right second).1.put left first).1 := by
  change ((links.set left _).set right (((links.set left _).get right).put second).1) =
    (links.set right _).set left (((links.set right _).get left).put first).1
  rw [get_set_other apart, get_set_other (Ne.symm apart)]
  unfold set
  rw [List.set_comm _ _ apart]

end LinkStore

/-- Both succeed, with results of which this holds, or both fail, with errors of which that holds. -/
inductive SameOutcome {ε α : Type} (failed : ε → ε → Prop) (succeeded : α → α → Prop) :
    Except ε α → Except ε α → Prop
  | ok {left right : α} (holds : succeeded left right) : SameOutcome failed succeeded (.ok left) (.ok right)
  | error {left right : ε} (holds : failed left right) :
      SameOutcome failed succeeded (.error left) (.error right)

theorem SameOutcome.of_cases {ε α : Type} {failed : ε → ε → Prop} {succeeded : α → α → Prop}
    {left right : Except ε α}
    (fails : ∀ error, left = .error error → ∃ other, right = .error other ∧ failed error other)
    (fails_back : ∀ other, right = .error other → ∃ error, left = .error error)
    (succeeds : ∀ value other, left = .ok value → right = .ok other → succeeded value other) :
    SameOutcome failed succeeded left right := by
  cases left with
  | error error =>
      obtain ⟨other, same, alike⟩ := fails error rfl
      exact same ▸ .error alike
  | ok value =>
      cases right with
      | error other =>
          obtain ⟨_, impossible⟩ := fails_back other rfl
          cases impossible
      | ok other => exact .ok (succeeds value other rfl rfl)

/-- Two complaints about the same names: that they cannot stand beside each other, in either order, or that
one of them is not declared, each about one of which this is so. -/
inductive ComplainAlike (stage : String) (schema : Schema) (malformed : List String → StageError)
    (fields others : List String) : StageError → StageError → Prop
  | mixed : ComplainAlike stage schema malformed fields others (malformed fields) (malformed others)
  | unknown {field other : String} (wrong : field ∈ fields ∧ field ∉ schema.records)
      (otherWrong : other ∈ others ∧ other ∉ schema.records) :
      ComplainAlike stage schema malformed fields others (.unknownRecordField stage field schema.name)
        (.unknownRecordField stage other schema.name)

section Fields

variable {stage : String} {schema : Schema} {fields others : List String} {error : StageError}
  {malformed : List String → StageError}

theorem Separate.perm (separate : Separate fields) (same : fields.Perm others) : Separate others :=
  ⟨same.nodup_iff.mp separate.distinct, fun whole => separate.parts (same.mem_iff.mpr whole)⟩

theorem RecordsOf.perm (records : RecordsOf schema fields) (same : fields.Perm others) :
    RecordsOf schema others :=
  ⟨records.separate.perm same, fun field listed => records.declared field (same.mem_iff.mpr listed)⟩

theorem FirstUnknown.wrong {field : String} (first : FirstUnknown schema fields field) :
    field ∈ fields ∧ field ∉ schema.records := by
  obtain ⟨before, after, split, missing, _⟩ := first
  exact ⟨split ▸ List.mem_append_right _ List.mem_cons_self, missing⟩

theorem FieldOffence.perm (offence : FieldOffence stage schema fields (malformed fields) error)
    (same : fields.Perm others) :
    ∃ other, FieldOffence stage schema others (malformed others) other ∧
      ComplainAlike stage schema malformed fields others error other := by
  have wrong : ¬ RecordsOf schema others := fun records =>
    recordsOf_iff.mp (records.perm same.symm) error offence
  obtain ⟨other, otherOffence⟩ : ∃ other, FieldOffence stage schema others (malformed others) other := by
    apply Classical.not_not.mp
    intro none
    exact wrong (recordsOf_iff.mpr fun other otherOffence => none ⟨other, otherOffence⟩)
  refine ⟨other, otherOffence, ?_⟩
  cases offence with
  | mixed mixed =>
      cases otherOffence with
      | mixed => exact .mixed
      | unknown separate => exact absurd (separate.perm same.symm) mixed
  | unknown separate first =>
      cases otherOffence with
      | mixed mixed => exact absurd (separate.perm same) mixed
      | unknown _ otherFirst => exact .unknown first.wrong otherFirst.wrong

end Fields

structure InputSession where
  links : LinkStore
  input : Input
  call : Option InputCall

inductive InputMove where
  | put (link : LinkId) (packet : Packet)
  | begin
  | step (fired cancelFirst : Bool)

namespace InputSession

def start (links : LinkStore) (input : Input) : InputSession :=
  { links := links, input := input, call := none }

def act (session : InputSession) : InputMove → Option (InputSession × Option (Option Packet))
  | .put link packet => some ({ session with links := (session.links.put link packet).1 }, none)
  | .begin =>
      match session.call with
      | none => some ({ session with call := some session.input.call }, none)
      | some _ => none
  | .step fired cancelFirst =>
      match session.call with
      | none => none
      | some call =>
          match session.input.step fired cancelFirst session.links call with
          | none => none
          | some stepped =>
              some ({ links := stepped.links, input := stepped.input
                      call := stepped.outcome.getLeft? }, stepped.outcome.getRight?)

/-- The links after each move, on which one sees what was consumed, and what was returned in it. -/
def trail : List InputMove → InputSession → List (LinkStore × Option (Option Packet))
  | [], _ => []
  | move :: rest, session =>
      match session.act move with
      | none => []
      | some (next, returned) => (next.links, returned) :: trail rest next

end InputSession

/-- Two inputs that nobody can tell apart. -/
structure Input.ActsAlike (input other : Input) : Prop where
  kind : input.label = other.label
  trail : ∀ links moves, (InputSession.start links input).trail moves =
    (InputSession.start links other).trail moves

theorem Input.ActsAlike.rfl {input : Input} : input.ActsAlike input :=
  ⟨Eq.refl _, fun _ _ => Eq.refl _⟩

namespace Input

variable {bindings reordered : List Binding} {stage : String} {mode : ExecutionMode} {schema : Schema}
  {input other : Input}

theorem ofBindings_several {first second : Binding} {rest : List Binding}
    (made : ofBindings stage (first :: second :: rest) mode schema = .ok input) :
    ((first :: second :: rest).map (·.field)).Nodup ∧
      input = .merge (.ofBindings (first :: second :: rest)) := by
  simp only [ofBindings] at made
  split at made
  · cases made
  · rename_i wellFormed
    split at made
    · cases made
    · cases made
      exact ⟨Decidable.not_not.mp fun repeated => wellFormed (Or.inl repeated), rfl⟩

theorem ofBindings_perm (same : bindings.Perm reordered)
    (made : ofBindings stage bindings mode schema = .ok input)
    (otherMade : ofBindings stage reordered mode schema = .ok other) : input = other := by
  match bindings, reordered with
  | [], _ =>
      cases same.symm.eq_nil
      exact Except.ok.inj (made.symm.trans otherMade)
  | [binding], _ =>
      cases List.perm_singleton.mp same.symm
      exact Except.ok.inj (made.symm.trans otherMade)
  | _ :: _ :: _, [] => cases same.eq_nil
  | _ :: _ :: _, [_] => cases List.perm_singleton.mp same
  | _ :: _ :: _, _ :: _ :: _ =>
      obtain ⟨distinct, merged⟩ := ofBindings_several made
      obtain ⟨_, otherMerged⟩ := ofBindings_several otherMade
      rw [merged, otherMerged, Merge.ofBindings_perm same distinct]

theorem ofBindings_error_perm {error : StageError} (same : bindings.Perm reordered)
    (fails : ofBindings stage bindings mode schema = .error error) :
    ∃ otherError, ofBindings stage reordered mode schema = .error otherError ∧
      ComplainAlike stage schema (.malformedInputBindings stage) (bindings.map (·.field))
        (reordered.map (·.field)) error otherError := by
  obtain ⟨several, offence⟩ := ofBindings_error.mp fails
  have fields := same.map (·.field)
  obtain ⟨otherError, otherOffence, alike⟩ := offence.perm fields
  exact ⟨otherError, ofBindings_error.mpr ⟨fields.length_eq ▸ several, otherOffence⟩, alike⟩

end Input

namespace Output

variable {bindings reordered : List Binding} {stage : String} {schema : Schema} {output other : Output}
  {packet : Packet} {deliveries others : List Delivery} {links : LinkStore}

def Balks (bindings : List Binding) (packet : Packet) (cause : MessageError) : Prop :=
  ∃ binding ∈ bindings, packet.message.Unstructured binding.field ∧ cause = .notARecord binding.field

/-- Both times the same lies on all links and the same is noted, or both times some field stops the packet. -/
def Agree (bindings : List Binding) (packet : Packet) :
    Except MessageError (LinkStore × List Notice) → Except MessageError (LinkStore × List Notice) → Prop :=
  SameOutcome (fun cause otherCause => Balks bindings packet cause ∧ Balks bindings packet otherCause)
    fun stored otherStored => stored.1 = otherStored.1 ∧ stored.2.Perm otherStored.2

/-- Two outputs that nobody behind the links can tell apart. -/
structure ActsAlike (bindings : List Binding) (output other : Output) : Prop where
  kind : output.label = other.label
  accepts : ∀ links packet, Agree bindings packet (output.accept links packet) (other.accept links packet)

theorem deliver_perm (same : deliveries.Perm others) (apart : (deliveries.map (·.1)).Nodup) :
    (deliver links deliveries).1 = (deliver links others).1 := by
  induction same generalizing links with
  | nil => rfl
  | cons delivery _ ih =>
      obtain ⟨link, packet⟩ := delivery
      exact ih (List.nodup_cons.mp apart).2
  | swap delivery other rest =>
      obtain ⟨link, packet⟩ := delivery
      obtain ⟨otherLink, otherPacket⟩ := other
      have differ : otherLink ≠ link := fun same => (List.nodup_cons.mp apart).1 (same ▸ List.mem_cons_self)
      change (deliver ((links.put otherLink otherPacket).1.put link packet).1 rest).1 =
        (deliver ((links.put link packet).1.put otherLink otherPacket).1 rest).1
      rw [LinkStore.put_comm differ]
  | trans first _ ih later =>
      exact (ih apart).trans (later ((first.map (·.1)).nodup_iff.mp apart))

theorem noticed_perm (same : deliveries.Perm others) (apart : (deliveries.map (·.1)).Nodup) :
    (deliver links deliveries).2.Perm (deliver links others).2 := by
  rw [notices_deliver apart, notices_deliver ((same.map (·.1)).nodup_iff.mp apart)]
  exact same.flatMap_right _

theorem splitFields_cons {binding : Binding} :
    splitFields packet (binding :: bindings) = .ok deliveries ↔
      ∃ record more, packet.message.record binding.field = .ok record ∧
        splitFields packet bindings = .ok more ∧
        deliveries = (binding.link, packet.carry record) :: more := by
  rw [splitFields]
  cases packet.message.record binding.field with
  | error cause => simp
  | ok record =>
      cases splitFields packet bindings with
      | error cause => simp
      | ok more => simp [eq_comm]

theorem splitFields_perm (same : bindings.Perm reordered)
    (split : splitFields packet bindings = .ok deliveries) :
    ∃ others, splitFields packet reordered = .ok others ∧ deliveries.Perm others := by
  induction same generalizing deliveries with
  | nil => exact ⟨deliveries, split, List.Perm.refl _⟩
  | cons binding _ ih =>
      obtain ⟨record, more, reads, rest, whole⟩ := splitFields_cons.mp split
      obtain ⟨others, otherRest, same⟩ := ih rest
      exact ⟨_, splitFields_cons.mpr ⟨record, others, reads, otherRest, rfl⟩, whole ▸ same.cons _⟩
  | swap binding other rest =>
      obtain ⟨record, more, reads, tail, whole⟩ := splitFields_cons.mp split
      obtain ⟨otherRecord, most, otherReads, last, more_eq⟩ := splitFields_cons.mp tail
      have inner := splitFields_cons.mpr ⟨record, most, reads, last, rfl⟩
      refine ⟨_, splitFields_cons.mpr ⟨otherRecord, _, otherReads, inner, rfl⟩, ?_⟩
      rw [whole, more_eq]
      exact List.Perm.swap _ _ _
  | trans _ _ ih later =>
      obtain ⟨others, otherSplit, same⟩ := ih split
      obtain ⟨last, lastSplit, next⟩ := later otherSplit
      exact ⟨last, lastSplit, same.trans next⟩

theorem agree_of_route (routed : output.route packet = .ok deliveries)
    (otherRouted : other.route packet = .ok others) (same : deliveries.Perm others)
    (apart : (deliveries.map (·.1)).Nodup) :
    Agree bindings packet (output.accept links packet) (other.accept links packet) := by
  rw [accept_ok_iff.mpr ⟨deliveries, routed, rfl⟩, accept_ok_iff.mpr ⟨others, otherRouted, rfl⟩]
  exact .ok ⟨deliver_perm same apart, noticed_perm same apart⟩

theorem splitFields_balks {cause : MessageError} (fails : splitFields packet bindings = .error cause) :
    Balks bindings packet cause := by
  obtain ⟨binding, first, same⟩ := splitFields_error_iff.mp fails
  exact ⟨binding, first.mem, first.unstructured, same⟩

theorem Balks.perm {cause : MessageError} (balks : Balks reordered packet cause)
    (same : bindings.Perm reordered) : Balks bindings packet cause := by
  obtain ⟨binding, listed, unstructured, named⟩ := balks
  exact ⟨binding, same.mem_iff.mpr listed, unstructured, named⟩

theorem splitter_perm (same : bindings.Perm reordered) (apart : (bindings.map (·.link)).Nodup) :
    ActsAlike bindings (.splitter bindings) (.splitter reordered) := by
  refine ⟨rfl, ?_⟩
  intro links packet
  cases split : splitFields packet bindings with
  | ok deliveries =>
      obtain ⟨others, otherSplit, reaches⟩ := splitFields_perm same split
      have distinct : (deliveries.map (·.1)).Nodup := links_splitFields split ▸ apart
      exact agree_of_route split otherSplit reaches distinct
  | error cause =>
      cases otherSplit : splitFields packet reordered with
      | ok others =>
          obtain ⟨deliveries, impossible, _⟩ := splitFields_perm same.symm otherSplit
          cases split.symm.trans impossible
      | error otherCause =>
          have fails : (Output.splitter bindings).accept links packet = .error cause :=
            accept_error_iff.mpr split
          have otherFails : (Output.splitter reordered).accept links packet = .error otherCause :=
            accept_error_iff.mpr otherSplit
          rw [fails, otherFails]
          exact .error ⟨splitFields_balks split, (splitFields_balks otherSplit).perm same⟩

theorem copying_perm {left right : List LinkId} (same : left.Perm right) (apart : left.Nodup) :
    ActsAlike bindings (copying left) (copying right) := by
  constructor
  · match left, right, same.length_eq with
    | [], [], _ => rfl
    | [_], [_], _ => rfl
    | _ :: _ :: _, _ :: _ :: _, _ => rfl
  · intro links packet
    have places : (left.map fun link => (link, packet)).map (·.1) = left := by
      rw [List.map_map]
      exact List.map_id left
    exact agree_of_route (route_copying left packet) (route_copying right packet) (same.map _)
      (places.symm ▸ apart)

theorem ofBindings_perm (same : bindings.Perm reordered) (apart : (bindings.map (·.link)).Nodup)
    (made : ofBindings stage bindings schema = .ok output)
    (otherMade : ofBindings stage reordered schema = .ok other) : ActsAlike bindings output other := by
  have links := same.map (·.link)
  cases bindings with
  | nil =>
      cases same.symm.eq_nil
      cases made
      cases otherMade
      exact copying_perm links apart
  | cons first rest =>
      have listed : first ∈ first :: rest := List.mem_cons_self
      have otherListed := same.mem_iff.mp listed
      rcases ofBindings_ok made with ⟨copies, whole⟩ | ⟨splits, named⟩
      · rcases ofBindings_ok otherMade with ⟨otherCopies, _⟩ | ⟨_, otherNamed⟩
        · rw [copies, otherCopies]
          exact copying_perm links apart
        · exact absurd (whole first listed) (otherNamed first otherListed)
      · rcases ofBindings_ok otherMade with ⟨_, otherWhole⟩ | ⟨otherSplits, _⟩
        · exact absurd (otherWhole first otherListed) (named first listed)
        · rw [splits, otherSplits]
          exact splitter_perm same apart

theorem ofBindings_error_perm {error : StageError} (same : bindings.Perm reordered)
    (fails : ofBindings stage bindings schema = .error error) :
    ∃ otherError, ofBindings stage reordered schema = .error otherError ∧
      ComplainAlike stage schema (.malformedOutputBindings stage) (bindings.map (·.field))
        (reordered.map (·.field)) error otherError := by
  obtain ⟨⟨field, listed, parts⟩, offence⟩ := ofBindings_error.mp fails
  have fields := same.map (·.field)
  obtain ⟨otherError, otherOffence, alike⟩ := offence.perm fields
  exact ⟨otherError,
    ofBindings_error.mpr ⟨⟨field, fields.mem_iff.mp listed, parts⟩, otherOffence⟩, alike⟩

end Output

namespace Binding

variable {stage : String} {mode : ExecutionMode} {schema : Schema} {bindings reordered : List Binding}

/-- Different links may be bound in any order. Either way they make an input, and these do the same whatever
is put on the links and whenever a call is made, goes on or is cancelled; or either way they make none, and
the two complaints differ in the order of the names or in the wrong name that they pick. The same goes for
an output, of which each packet is taken or refused by both, and left alike on all links. -/
theorem order_immaterial (same : bindings.Perm reordered) (apart : (bindings.map (·.link)).Nodup) :
    SameOutcome
      (ComplainAlike stage schema (.malformedInputBindings stage) (bindings.map (·.field))
        (reordered.map (·.field)))
      Input.ActsAlike
      (Input.ofBindings stage bindings mode schema) (Input.ofBindings stage reordered mode schema) ∧
    SameOutcome
      (ComplainAlike stage schema (.malformedOutputBindings stage) (bindings.map (·.field))
        (reordered.map (·.field)))
      (Output.ActsAlike bindings)
      (Output.ofBindings stage bindings schema) (Output.ofBindings stage reordered schema) := by
  constructor
  · apply SameOutcome.of_cases
    · exact fun _ => Input.ofBindings_error_perm same
    · intro _ otherFails
      obtain ⟨error, fails, _⟩ := Input.ofBindings_error_perm same.symm otherFails
      exact ⟨error, fails⟩
    · intro input other made otherMade
      exact Input.ofBindings_perm same made otherMade ▸ Input.ActsAlike.rfl
  · apply SameOutcome.of_cases
    · exact fun _ => Output.ofBindings_error_perm same
    · intro _ otherFails
      obtain ⟨error, fails, _⟩ := Output.ofBindings_error_perm same.symm otherFails
      exact ⟨error, fails⟩
    · exact fun _ _ => Output.ofBindings_perm same apart

namespace Gauge

def dials : List Binding :=
  [{ field := "volume", link := 0 }, { field := "pressure", link := 1 }]

def reading : Schema :=
  { name := "gauge.Reading", records := ["pressure", "volume"] }

def flat : Packet :=
  { id := 4
    message := (Message.empty.set "pressure" (.bool true) trivial).set "volume" (.text "") trivial }

end Gauge

/-- The two dials may change places: they are merged and split alike. Only the field over which a flat reading
is refused is another one. -/
theorem order_immaterial_gauge :
    Gauge.dials.Perm Gauge.dials.reverse ∧ (Gauge.dials.map (·.link)).Nodup ∧
    (∃ input other, Input.ofBindings "gauge" Gauge.dials .continuous Gauge.reading = .ok input ∧
      Input.ofBindings "gauge" Gauge.dials.reverse .continuous Gauge.reading = .ok other ∧
      input.ActsAlike other) ∧
    (Output.splitter Gauge.dials).ActsAlike Gauge.dials (.splitter Gauge.dials.reverse) ∧
    (Output.splitter Gauge.dials).accept .empty Gauge.flat = .error (.notARecord "volume") ∧
    (Output.splitter Gauge.dials.reverse).accept .empty Gauge.flat = .error (.notARecord "pressure") := by
  have same : Gauge.dials.Perm Gauge.dials.reverse := (List.reverse_perm _).symm
  have apart : (Gauge.dials.map (·.link)).Nodup := by decide
  obtain ⟨inputs, outputs⟩ :=
    @order_immaterial "gauge" .continuous Gauge.reading Gauge.dials Gauge.dials.reverse same apart
  refine ⟨same, apart, ?_, ?_, rfl, rfl⟩
  · cases inputs with
    | ok holds => exact ⟨_, _, rfl, rfl, holds⟩
  · cases outputs with
    | ok holds => exact holds

end Binding
end Sluice
