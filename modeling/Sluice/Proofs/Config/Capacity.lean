import Sluice.Config
import Sluice.Proofs.Pipeline.Construction
import Sluice.Proofs.Yaml.Decoding

set_option autoImplicit false

/-! The buffer that a configuration asks for. Any word of 64 bits is read as the capacity of the report bus, and
a bus asks for one report at least; but no buffer is larger than half of the words, so that a pipeline cannot
be built of a configuration that asks for more, although nothing is wrong with it where it is loaded. -/

namespace Sluice

structure EngineOptions.Fits (options : EngineOptions) : Prop where
  backoff : options.backoffMillis < Nat.pow 2 64
  capacity : options.eventCapacity < Nat.pow 2 64

theorem EngineOptions.fits_standard : EngineOptions.standard.Fits :=
  ⟨by decide, by decide⟩

namespace ReportBus

variable {capacity : Nat}

theorem one_le_requested : 1 ≤ requested capacity :=
  Nat.le_max_right _ _

theorem requested_le_iff : requested capacity ≤ greatestRequest ↔ capacity < Nat.pow 2 63 := by
  have positive : 0 < Nat.pow 2 63 := Nat.pow_pos (by decide)
  have more : 1 ≤ Nat.pow 2 63 - 1 := by decide
  unfold requested greatestRequest
  rw [Nat.max_le, and_iff_left more]
  omega

theorem admits_iff : admits capacity = true ↔ capacity < Nat.pow 2 63 := by
  unfold admits
  rw [Bool.and_eq_true, decide_eq_true_iff, decide_eq_true_iff, and_iff_right one_le_requested]
  exact requested_le_iff

end ReportBus

namespace Config

open Yaml (Decoder Document Node)
open Yaml.Decoder (Gives Keeps entries_field gives_natural gives_record gives_true natural_toString
  record_mapping)

variable {content : Except FileFault String} {config : Config} {capacity : Nat}

theorem keeps_fieldRule {σ α : Type} {name : String} {decoder : Decoder α} {get : σ → Option α}
    {put : σ → α → σ} {kept : σ → Prop} {holds : α → Prop} (gives : Gives holds decoder)
    (puts : ∀ record value, kept record → holds value → kept (put record value)) :
    Keeps kept (Fields.fieldRule name decoder get put) := by
  intro record before document path node
  exact (gives document path node).bind fun value has => Yaml.Reading.gives_pure (puts record value before has)

structure Fields.EngineFields.Fits (fields : Fields.EngineFields) : Prop where
  backoff : ∀ millis, fields.backoffMillis = some millis → millis < Nat.pow 2 64
  capacity : ∀ capacity, fields.eventCapacity = some capacity → capacity < Nat.pow 2 64

theorem gives_engine : Gives EngineOptions.Fits Fields.engine := by
  refine @gives_record _ _ _ Fields.EngineFields.Fits _ _ _ _ ?_ ⟨nofun, nofun⟩ ?_
  · intro rule listed
    rcases List.mem_cons.mp listed with same | later
    · subst same
      refine keeps_fieldRule gives_natural ?_
      intro held millis before below
      exact ⟨fun _ same => Option.some.inj same ▸ below, before.capacity⟩
    · cases List.mem_singleton.mp later
      refine keeps_fieldRule gives_natural ?_
      intro held capacity before below
      exact ⟨before.backoff, fun _ same => Option.some.inj same ▸ below⟩
  · intro held options fits finished
    cases finished
    constructor
    · cases read : held.backoffMillis with
      | none => exact EngineOptions.fits_standard.backoff
      | some millis => exact fits.backoff millis read
    · cases read : held.eventCapacity with
      | none => exact EngineOptions.fits_standard.capacity
      | some capacity => exact fits.capacity capacity read

def RootFields.Fits (fields : RootFields) : Prop :=
  ∀ options, fields.engine = some options → options.Fits

theorem gives_config : Gives (fun config => config.engine.Fits) decoder := by
  refine @gives_record _ _ _ RootFields.Fits _ _ _ _ ?_ nofun ?_
  · intro rule listed
    rcases List.mem_cons.mp listed with same | later
    · subst same
      refine keeps_fieldRule gives_engine ?_
      intro held options _ fits _ same
      exact Option.some.inj same ▸ fits
    · rcases List.mem_cons.mp later with same | last
      · subst same
        exact keeps_fieldRule gives_true fun held _ before _ => before
      · cases List.mem_singleton.mp last
        exact keeps_fieldRule gives_true fun held _ before _ => before
  · intro held config fits finished
    cases stages : held.stages with
    | none =>
        simp only [stages, Fields.need, bind, Except.bind] at finished
        cases finished
    | some listed =>
        simp only [stages, Fields.need, bind, Except.bind] at finished
        cases finished
        cases read : held.engine with
        | none => exact EngineOptions.fits_standard
        | some options => exact fits options read

theorem loaded_sound (loaded : loadValid content = .ok config) :
    config.topology.faults = [] ∧ config.engine.Fits := by
  unfold loadValid load at loaded
  cases content with
  | error => cases loaded
  | ok text =>
      cases read : ofText text with
      | error =>
          simp only [read] at loaded
          cases loaded
      | ok decoded =>
          simp only [read] at loaded
          split at loaded
          · rename_i faultless
            cases loaded
            exact ⟨faultless, (gives_config _ _ _).run read⟩
          · cases loaded

/-- Some document without a fault in its stages and edges is read as a demand for this capacity. -/
def Asked (capacity : Nat) : Prop :=
  ∃ document config, decoder.run document = .ok config ∧ config.topology.faults = [] ∧
    config.engine.eventCapacity = capacity

def plain (text : String) : Node :=
  .scalar none text .plain .origin

def asking (capacity : Nat) : Document :=
  { root := .mapping none
      [plain "stages", .sequence none [] .origin,
        plain "engine", .mapping none [plain "event_capacity", plain (toString capacity)] .origin]
      .origin
    anchored := [], size := 11, fault := none, followed := false }

theorem read_fieldRule {σ α : Type} {name : String} {decoder : Decoder α} {get : σ → Option α}
    {put : σ → α → σ} {record : σ} {document : Document} {path : Yaml.Path} {node : Node} {value : α}
    (reads : decoder document path node = pure value) :
    (Fields.fieldRule name decoder get put).readInto record document path node = pure (put record value) := by
  change decoder document path node >>= _ = _
  rw [reads, pure_bind]

theorem engine_asking (word : capacity < Nat.pow 2 64) {document : Document} {path : Yaml.Path} :
    Fields.engine document path
        (.mapping none [plain "event_capacity", plain (toString capacity)] .origin) =
      pure { EngineOptions.standard with eventCapacity := capacity } := by
  refine record_mapping (entries_field rfl rfl (read_fieldRule (natural_toString word word))) ?_
  rfl

theorem run_asking (word : capacity < Nat.pow 2 64) :
    decoder.run (asking capacity) = .ok
      { engine := { EngineOptions.standard with eventCapacity := capacity }
        topology := { stages := [], edges := [] } } := by
  have stages : Decoder.list Fields.stage (asking capacity) (.field .root "stages")
      (.sequence none [] .origin) = pure [] := rfl
  have reads : decoder (asking capacity) .root (asking capacity).root =
      pure
        { engine := { EngineOptions.standard with eventCapacity := capacity }
          topology := { stages := [], edges := [] } } := by
    refine record_mapping
      ((entries_field rfl rfl (read_fieldRule stages)).trans
        (entries_field rfl rfl (read_fieldRule (engine_asking word)))) ?_
    rfl
  unfold Decoder.run Yaml.Reading.run
  rw [reads]
  rfl

theorem asked_iff : Asked capacity ↔ capacity < Nat.pow 2 64 := by
  constructor
  · rintro ⟨document, config, ran, _, same⟩
    exact same ▸ ((gives_config _ _ _).run ran).capacity
  · intro word
    exact ⟨asking capacity, _, run_asking word, rfl, rfl⟩

/-- With any connector there is a pipeline of a configuration, unless one of its stages cannot be made. -/
def Buildable (config : Config) : Prop :=
  ∀ connector onFatal,
    (∃ pipeline, Pipeline.build config.topology connector config.engine onFatal = .ok pipeline) ∨
      ∃ error, Pipeline.build config.topology connector config.engine onFatal = .error (.returned error) ∧
        FirstOffence (Pipeline.BuildOffence connector) config.topology.stages error

theorem buildable_iff (faultless : config.topology.faults = []) :
    config.Buildable ↔ config.engine.eventCapacity < Nat.pow 2 63 := by
  constructor
  · intro buildable
    apply ReportBus.admits_iff.mp
    apply eq_true_of_ne_false
    intro refused
    have fails := (@Pipeline.build_collapses _ .network _ .note faultless).mpr refused
    rcases buildable .network .note with ⟨pipeline, built⟩ | ⟨error, other, first⟩
    · cases fails.symm.trans built
    · cases fails.symm.trans other
  · intro within connector onFatal
    have admitted := ReportBus.admits_iff.mpr within
    cases built : Pipeline.build config.topology connector config.engine onFatal with
    | ok pipeline => exact Or.inl ⟨pipeline, rfl⟩
    | error failure =>
        cases failure with
        | returned error =>
            exact Or.inr ⟨error, rfl, (Pipeline.build_error faultless admitted).mp built⟩
        | collapsed => cases admitted.symm.trans ((Pipeline.build_collapses faultless).mp built)

/-- A capacity can be asked for exactly if it is a word of 64 bits. Of a configuration that was loaded without
complaint a pipeline can be built exactly if no more is asked for than half of the words are; else the build
collapses over the buffer, before any stage is connected. Whether the memory for a buffer can be had is left
out. -/
theorem capacity_limits (capacity : Nat) :
    (Asked capacity ↔ capacity < Nat.pow 2 64) ∧
    ∀ content config, loadValid content = .ok config → config.engine.eventCapacity = capacity →
      Asked capacity ∧
      1 ≤ ReportBus.requested capacity ∧
      (ReportBus.requested capacity ≤ ReportBus.greatestRequest ↔ capacity < Nat.pow 2 63) ∧
      (config.Buildable ↔ capacity < Nat.pow 2 63) ∧
      (Nat.pow 2 63 ≤ capacity → ∀ connector onFatal,
        Pipeline.build config.topology connector config.engine onFatal = .error .collapsed) := by
  refine ⟨asked_iff, ?_⟩
  intro content config loaded same
  subst same
  obtain ⟨faultless, fits⟩ := loaded_sound loaded
  refine ⟨asked_iff.mpr fits.capacity, ReportBus.one_le_requested, ReportBus.requested_le_iff,
    buildable_iff faultless, ?_⟩
  intro beyond connector onFatal
  have refused : ReportBus.admits config.engine.eventCapacity = false :=
    eq_false_of_ne_true fun admitted => Nat.not_lt.mpr beyond (ReportBus.admits_iff.mp admitted)
  exact (Pipeline.build_collapses faultless).mpr refused

namespace Brink

def configOf (capacity : Nat) : Config :=
  { engine := { EngineOptions.standard with eventCapacity := capacity }
    topology := { stages := [], edges := [] } }

def within : String :=
  "engine:\n  event_capacity: 4096\nstages: []\n"

def beyond : String :=
  "engine:\n  event_capacity: 9223372036854775808\nstages: []\n"

end Brink

theorem capacity_limits_brink :
    loadValid (.ok Brink.within) = .ok (Brink.configOf 4096) ∧ (Brink.configOf 4096).Buildable ∧
    Asked (Nat.pow 2 64 - 1) ∧ ¬ Asked (Nat.pow 2 64) := by
  have loaded : loadValid (.ok Brink.within) = .ok (Brink.configOf 4096) := by
    decide +kernel
  obtain ⟨_, loads⟩ := capacity_limits 4096
  obtain ⟨_, _, _, buildable, _⟩ := loads _ _ loaded rfl
  have last : Nat.pow 2 64 - 1 < Nat.pow 2 64 := by decide
  refine ⟨loaded, buildable.mpr (by decide), (capacity_limits _).1.mpr last, ?_⟩
  intro wider
  exact absurd ((capacity_limits _).1.mp wider) (Nat.lt_irrefl _)

/-- A configuration that is loaded without complaint, and of which no pipeline can be built. -/
theorem loaded_unbuildable :
    loadValid (.ok Brink.beyond) = .ok (Brink.configOf (Nat.pow 2 63)) ∧
    ReportBus.greatestRequest < ReportBus.requested (Nat.pow 2 63) ∧
    ¬ (Brink.configOf (Nat.pow 2 63)).Buildable ∧
    ∀ connector onFatal,
      Pipeline.build (Brink.configOf (Nat.pow 2 63)).topology connector (Brink.configOf (Nat.pow 2 63)).engine
        onFatal = .error .collapsed := by
  refine ⟨by decide +kernel, by decide, ?_, ?_⟩
  · intro buildable
    exact absurd ((buildable_iff rfl).mp buildable) (by decide)
  · intro connector onFatal
    exact (Pipeline.build_collapses rfl).mpr rfl

end Config
end Sluice
