import Sluice.Stage

set_option autoImplicit false

/-! Which bindings make no worker, and for which reason. A stage that makes its own input takes no links;
several inputs, and outputs that are parts of a message, need names of records of the method's types. What
is wrong with the inputs is said before what is wrong with the outputs. -/

namespace Sluice

def StageDescriptor.SelfFed (descriptor : StageDescriptor) : Prop :=
  descriptor.method.shape = .serverStreaming ∨ descriptor.mode = .oneShot

theorem StageKind.requiresSource_iff {descriptor : StageDescriptor} {kind : StageKind}
    (selects : StageKind.select descriptor.name descriptor.method.shape descriptor.mode = .ok kind) :
    kind.requiresSource = true ↔ descriptor.SelfFed := by
  unfold StageDescriptor.SelfFed
  generalize descriptor.method.shape = shape at selects
  generalize descriptor.mode = mode at selects
  cases shape with
  | unary =>
      cases mode with
      | continuous =>
          cases selects
          simp [requiresSource]
      | oneShot =>
          cases selects
          simp [requiresSource]
  | serverStreaming =>
      cases mode with
      | continuous =>
          cases selects
          simp [requiresSource]
      | oneShot => cases selects

/-- Names that can stand beside each other: all distinct, and none for the message as a whole. -/
structure Separate (fields : List String) : Prop where
  distinct : fields.Nodup
  parts : wholeMessage ∉ fields

structure RecordsOf (schema : Schema) (fields : List String) : Prop where
  separate : Separate fields
  declared : ∀ field ∈ fields, field ∈ schema.records

def FirstUnknown (schema : Schema) (fields : List String) (field : String) : Prop :=
  ∃ before after, fields = before ++ field :: after ∧ field ∉ schema.records ∧
    ∀ earlier ∈ before, earlier ∈ schema.records

/-- Why names do not stand for records: they cannot stand beside each other, or else one of them is not
declared. -/
inductive FieldOffence (stage : String) (schema : Schema) (fields : List String)
    (malformed : StageError) : StageError → Prop
  | mixed (mixed : ¬ Separate fields) : FieldOffence stage schema fields malformed malformed
  | unknown {field : String} (separate : Separate fields) (first : FirstUnknown schema fields field) :
      FieldOffence stage schema fields malformed (.unknownRecordField stage field schema.name)

section Fields

variable {stage : String} {schema : Schema} {fields : List String} {malformed error : StageError}

theorem separate_iff : Separate fields ↔ ¬ (¬ fields.Nodup ∨ wholeMessage ∈ fields) := by
  constructor
  · intro separate wrong
    rcases wrong with repeated | whole
    · exact repeated separate.distinct
    · exact separate.parts whole
  · intro right
    constructor
    · exact Decidable.not_not.mp fun repeated => right (Or.inl repeated)
    · exact fun whole => right (Or.inr whole)

theorem firstUnknown_iff {field : String} :
    fields.find? (fun name => !schema.hasRecord name) = some field ↔
      FirstUnknown schema fields field := by
  have declared : ∀ name, schema.hasRecord name = true ↔ name ∈ schema.records := fun _ =>
    List.contains_iff_mem
  rw [List.find?_eq_some_iff_append]
  constructor
  · rintro ⟨missing, before, after, split, known⟩
    refine ⟨before, after, split, ?_, ?_⟩
    · intro listed
      rw [(declared field).mpr listed] at missing
      cases missing
    · intro earlier member
      have found := known earlier member
      rw [Bool.not_not] at found
      exact (declared earlier).mp found
  · rintro ⟨before, after, split, missing, known⟩
    refine ⟨?_, before, after, split, ?_⟩
    · rw [Bool.not_eq_true']
      exact eq_false_of_ne_true fun found => missing ((declared field).mp found)
    · intro earlier member
      rw [Bool.not_not]
      exact (declared earlier).mpr (known earlier member)

theorem fieldOffence_iff {α : Type} {made : α} :
    (if ¬ fields.Nodup ∨ wholeMessage ∈ fields then Except.error malformed
      else
        match fields.find? fun name => !schema.hasRecord name with
        | some field => .error (.unknownRecordField stage field schema.name)
        | none => .ok made) = .error error ↔
      FieldOffence stage schema fields malformed error := by
  by_cases wrong : ¬ fields.Nodup ∨ wholeMessage ∈ fields
  · have mixed : ¬ Separate fields := fun separate => separate_iff.mp separate wrong
    rw [if_pos wrong, Except.error.injEq]
    constructor
    · intro same
      exact same ▸ .mixed mixed
    · intro offence
      cases offence with
      | mixed => rfl
      | unknown separate => exact absurd separate mixed
  · have separate := separate_iff.mpr wrong
    rw [if_neg wrong]
    cases found : fields.find? fun name => !schema.hasRecord name with
    | some field =>
        have first := firstUnknown_iff.mp found
        simp only [Except.error.injEq]
        constructor
        · intro same
          exact same ▸ .unknown separate first
        · intro offence
          cases offence with
          | mixed mixed => exact absurd separate mixed
          | unknown _ other =>
              rw [firstUnknown_iff.mpr other] at found
              cases found
              rfl
    | none =>
        constructor
        · intro impossible
          cases impossible
        · intro offence
          cases offence with
          | mixed mixed => exact absurd separate mixed
          | unknown _ other =>
              rw [firstUnknown_iff.mpr other] at found
              cases found

theorem recordsOf_iff :
    RecordsOf schema fields ↔ ∀ error, ¬ FieldOffence stage schema fields malformed error := by
  constructor
  · intro records error offence
    cases offence with
    | mixed mixed => exact mixed records.separate
    | @unknown field _ first =>
        obtain ⟨before, after, split, missing, _⟩ := first
        apply missing
        apply records.declared field
        rw [split]
        exact List.mem_append_right _ List.mem_cons_self
  · intro clean
    have separate : Separate fields := Classical.not_not.mp fun mixed => clean _ (.mixed mixed)
    refine ⟨separate, ?_⟩
    intro field listed
    apply Classical.not_not.mp
    intro missing
    cases found : fields.find? fun name => !schema.hasRecord name with
    | some other => exact clean _ (.unknown separate (firstUnknown_iff.mp found))
    | none =>
        have known := List.find?_eq_none.mp found field listed
        apply known
        rw [Bool.not_eq_true']
        exact eq_false_of_ne_true fun declared => missing (List.contains_iff_mem.mp declared)

theorem not_whole (parts : ¬ ∀ field ∈ fields, field = wholeMessage) :
    ∃ field ∈ fields, field ≠ wholeMessage := by
  apply Classical.not_not.mp
  intro none
  apply parts
  intro field listed
  exact Classical.not_not.mp fun other => none ⟨field, listed, other⟩

end Fields

/-- Why a stage whose links are bound under these names gets no worker. -/
inductive StartOffence (descriptor : StageDescriptor) (inputs outputs : List String) :
    StageError → Prop
  | fed (selfFed : descriptor.SelfFed) (bound : inputs ≠ []) :
      StartOffence descriptor inputs outputs (.requiresSourceInput descriptor.name inputs.length)
  | gathering {error : StageError} (relays : descriptor.SelfFed → inputs = [])
      (several : 2 ≤ inputs.length)
      (offence : FieldOffence descriptor.name descriptor.method.input inputs
        (.malformedInputBindings descriptor.name inputs) error) :
      StartOffence descriptor inputs outputs error
  | splitting {error : StageError} (relays : descriptor.SelfFed → inputs = [])
      (gathers : 2 ≤ inputs.length → RecordsOf descriptor.method.input inputs)
      (parts : ∃ field ∈ outputs, field ≠ wholeMessage)
      (offence : FieldOffence descriptor.name descriptor.method.output outputs
        (.malformedOutputBindings descriptor.name outputs) error) :
      StartOffence descriptor inputs outputs error

theorem startOffence_fed {descriptor : StageDescriptor} {inputs outputs : List String}
    {error : StageError} (selfFed : descriptor.SelfFed) (bound : inputs ≠ []) :
    StartOffence descriptor inputs outputs error ↔
      error = .requiresSourceInput descriptor.name inputs.length := by
  constructor
  · intro offence
    cases offence with
    | fed => rfl
    | gathering relays | splitting relays => exact absurd (relays selfFed) bound
  · intro same
    exact same ▸ .fed selfFed bound

theorem startOffence_relaying {descriptor : StageDescriptor} {inputs outputs : List String}
    {error : StageError} (relays : descriptor.SelfFed → inputs = []) :
    StartOffence descriptor inputs outputs error ↔
      (2 ≤ inputs.length ∧ FieldOffence descriptor.name descriptor.method.input inputs
        (.malformedInputBindings descriptor.name inputs) error) ∨
      (∀ other, ¬ (2 ≤ inputs.length ∧ FieldOffence descriptor.name descriptor.method.input inputs
        (.malformedInputBindings descriptor.name inputs) other)) ∧
        ((∃ field ∈ outputs, field ≠ wholeMessage) ∧
          FieldOffence descriptor.name descriptor.method.output outputs
            (.malformedOutputBindings descriptor.name outputs) error) := by
  constructor
  · intro offence
    cases offence with
    | fed selfFed bound => exact absurd (relays selfFed) bound
    | gathering _ several offence => exact Or.inl ⟨several, offence⟩
    | splitting _ gathers parts offence =>
        apply Or.inr
        refine ⟨?_, parts, offence⟩
        rintro other ⟨several, wrong⟩
        exact recordsOf_iff.mp (gathers several) other wrong
  · rintro (⟨several, offence⟩ | ⟨clean, parts, offence⟩)
    · exact .gathering relays several offence
    · have gathers : 2 ≤ inputs.length → RecordsOf descriptor.method.input inputs := by
        intro several
        apply recordsOf_iff.mpr
        intro other wrong
        exact clean other ⟨several, wrong⟩
      exact .splitting relays gathers parts offence

structure Startable (descriptor : StageDescriptor) (inputs outputs : List String) : Prop where
  selfFed : descriptor.SelfFed → inputs = []
  gathers : 2 ≤ inputs.length → RecordsOf descriptor.method.input inputs
  splits : outputs ≠ [] →
    (∀ field ∈ outputs, field = wholeMessage) ∨ RecordsOf descriptor.method.output outputs

theorem startable_iff {descriptor : StageDescriptor} {inputs outputs : List String} :
    Startable descriptor inputs outputs ↔ ∀ error, ¬ StartOffence descriptor inputs outputs error := by
  constructor
  · intro startable error offence
    cases offence with
    | fed selfFed bound => exact bound (startable.selfFed selfFed)
    | gathering _ several offence => exact recordsOf_iff.mp (startable.gathers several) error offence
    | splitting _ _ parts offence =>
        obtain ⟨field, listed, partial_⟩ := parts
        rcases startable.splits (List.ne_nil_of_mem listed) with whole | records
        · exact partial_ (whole field listed)
        · exact recordsOf_iff.mp records error offence
  · intro clean
    have selfFed : descriptor.SelfFed → inputs = [] := by
      intro feeds
      apply Classical.not_not.mp
      intro bound
      exact clean _ (.fed feeds bound)
    have gathers : 2 ≤ inputs.length → RecordsOf descriptor.method.input inputs := fun several =>
      recordsOf_iff.mpr fun error offence => clean error (.gathering selfFed several offence)
    refine ⟨selfFed, gathers, ?_⟩
    intro _
    by_cases whole : ∀ field ∈ outputs, field = wholeMessage
    · exact Or.inl whole
    · have parts : ∃ field ∈ outputs, field ≠ wholeMessage := not_whole whole
      exact Or.inr (recordsOf_iff.mpr fun error offence =>
        clean error (.splitting selfFed gathers parts offence))

theorem Input.ofBindings_error {stage : String} {bindings : List Binding} {mode : ExecutionMode}
    {schema : Schema} {error : StageError} :
    Input.ofBindings stage bindings mode schema = .error error ↔
      2 ≤ (bindings.map (·.field)).length ∧ FieldOffence stage schema (bindings.map (·.field))
        (.malformedInputBindings stage (bindings.map (·.field))) error := by
  unfold Input.ofBindings
  match bindings with
  | [] =>
      constructor
      · intro impossible
        cases impossible
      · intro impossible
        exact absurd impossible.1 (Nat.not_lt_zero 1)
  | [binding] =>
      constructor
      · intro impossible
        cases impossible
      · intro impossible
        exact absurd impossible.1 (Nat.lt_irrefl 1)
  | first :: second :: rest =>
      have several : 2 ≤ ((first :: second :: rest).map (·.field)).length := by
        rw [List.length_map]
        exact Nat.le_add_left 2 rest.length
      rw [and_iff_right several]
      exact fieldOffence_iff

theorem Output.ofBindings_error {stage : String} {bindings : List Binding} {schema : Schema}
    {error : StageError} :
    Output.ofBindings stage bindings schema = .error error ↔
      (∃ field ∈ bindings.map (·.field), field ≠ wholeMessage) ∧
        FieldOffence stage schema (bindings.map (·.field))
          (.malformedOutputBindings stage (bindings.map (·.field))) error := by
  unfold Output.ofBindings
  cases bindings with
  | nil =>
      constructor
      · intro impossible
        cases impossible
      · rintro ⟨⟨field, impossible, _⟩, _⟩
        cases impossible
  | cons first rest =>
      by_cases whole : ((first :: rest).map (·.field)).all (· == wholeMessage) = true
      · simp only [whole, if_true]
        constructor
        · intro impossible
          cases impossible
        · rintro ⟨⟨field, listed, parts⟩, _⟩
          exact absurd (eq_of_beq (List.all_eq_true.mp whole field listed)) parts
      · have parts : ∃ field ∈ (first :: rest).map (·.field), field ≠ wholeMessage := by
          apply not_whole
          intro all
          exact whole (List.all_eq_true.mpr fun field listed => beq_iff_eq.mpr (all field listed))
        simp only [whole]
        rw [and_iff_right parts]
        exact fieldOffence_iff

theorem Stage.workerOf_ok {stage : Stage} {held : Bindings} {worker : Worker}
    (made : stage.workerOf held = .ok worker) :
    (stage.kind.requiresSource = true → held.inputs = []) ∧ ∃ input output,
      Input.ofBindings stage.name held.inputs stage.descriptor.mode stage.descriptor.method.input =
        .ok input ∧
      Output.ofBindings stage.name held.outputs stage.descriptor.method.output = .ok output ∧
      worker = .create stage.name stage.kind stage.method.unavailable input output := by
  unfold workerOf at made
  by_cases fed : stage.kind.requiresSource = true ∧ held.inputs ≠ []
  · rw [if_pos fed] at made
    cases made
  · rw [if_neg fed] at made
    refine ⟨fun requires => Decidable.not_not.mp fun inputs => fed ⟨requires, inputs⟩, ?_⟩
    cases reads : Input.ofBindings stage.name held.inputs stage.descriptor.mode
        stage.descriptor.method.input with
    | error =>
        simp only [reads] at made
        cases made
    | ok input =>
        cases writes : Output.ofBindings stage.name held.outputs stage.descriptor.method.output with
        | error =>
            simp only [reads, writes] at made
            cases made
        | ok output =>
            simp only [reads, writes] at made
            cases made
            exact ⟨input, output, rfl, rfl, rfl⟩

theorem Stage.oneShot_worker {descriptor : StageDescriptor} {method : RemoteMethod} {design : Stage}
    {held : Bindings} {worker : Worker} (built : Stage.build descriptor method = .ok design)
    (once : design.kind = .oneShotUnary) (made : design.workerOf held = .ok worker) :
    ∃ output, worker =
      .create design.name .oneShotUnary method.unavailable (.source 1 descriptor.method.input) output := by
  obtain ⟨fed, input, output, reads, _, created⟩ := Stage.workerOf_ok made
  have bare : held.inputs = [] := fed (by rw [once]; rfl)
  unfold Stage.build at built
  cases selects : StageKind.select descriptor.name descriptor.method.shape descriptor.mode with
  | error error =>
      simp only [selects] at built
      cases built
  | ok kind =>
      simp only [selects] at built
      cases built
      change kind = .oneShotUnary at once
      subst once
      have single : descriptor.mode = .oneShot := by
        generalize descriptor.method.shape = shape at selects
        generalize descriptor.mode = mode at selects ⊢
        cases shape <;> cases mode <;> cases selects
        rfl
      change Input.ofBindings _ held.inputs descriptor.mode descriptor.method.input = .ok input at reads
      rw [bare, single] at reads
      cases reads
      exact ⟨output, created⟩

theorem Stage.workerOf_error {stage : Stage} {held : Bindings} {error : StageError}
    (selects : StageKind.select stage.descriptor.name stage.descriptor.method.shape
      stage.descriptor.mode = .ok stage.kind) :
    stage.workerOf held = .error error ↔
      StartOffence stage.descriptor (held.inputs.map (·.field)) (held.outputs.map (·.field))
        error := by
  have feeds := StageKind.requiresSource_iff selects
  unfold workerOf name
  by_cases fed : stage.kind.requiresSource = true ∧ held.inputs ≠ []
  · have selfFed := feeds.mp fed.1
    have bound : held.inputs.map (·.field) ≠ [] := fun none => fed.2 (List.map_eq_nil_iff.mp none)
    rw [if_pos fed, startOffence_fed selfFed bound, List.length_map, Except.error.injEq]
    exact eq_comm
  · have relays : stage.descriptor.SelfFed → held.inputs.map (·.field) = [] := by
      intro selfFed
      apply List.map_eq_nil_iff.mpr
      exact Decidable.not_not.mp fun inputs => fed ⟨feeds.mpr selfFed, inputs⟩
    have input := @Input.ofBindings_error stage.descriptor.name held.inputs stage.descriptor.mode
      stage.descriptor.method.input
    have output := @Output.ofBindings_error stage.descriptor.name held.outputs
      stage.descriptor.method.output
    rw [if_neg fed, startOffence_relaying relays]
    simp only [← input, ← output]
    cases Input.ofBindings stage.descriptor.name held.inputs stage.descriptor.mode
        stage.descriptor.method.input with
    | error known => simp
    | ok input =>
        cases Output.ofBindings stage.descriptor.name held.outputs
            stage.descriptor.method.output with
        | error known => simp
        | ok output => simp

end Sluice
