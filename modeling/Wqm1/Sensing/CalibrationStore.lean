import Wqm1.Library.Dict
import Wqm1.Library.Events
import Wqm1.Radio.Region

/-! The calibration file, which the Service Window edits key by key and the firmware loads
at its start and writes back as a whole. -/

set_option autoImplicit false

namespace Wqm1.Sensing.CalibrationStore

open Wqm1.Library Wqm1.Radio

inductive Scalar where
  | number (value : Rat)
  | text (value : String)
  | other
deriving DecidableEq

/-- A value of the YAML document. -/
inductive CalValue where
  | scalar (value : Scalar)
  | mapping (entries : Dict String Scalar)
  | other
deriving DecidableEq

abbrev CalValue.number (value : Rat) : CalValue := .scalar (.number value)

abbrev Document := Dict String CalValue

/-- `CalibrationData()`, by its fields. -/
def defaults : Document where
  entries := [("ph_v_at_4", .number 1.04), ("ph_v_at_7", .number 1.50), ("ph_slope", .number 6.52),
    ("tds_k", .number 500), ("turbidity_v_clear", .number 4.1), ("orp_offset_mv", .number 0),
    ("flow_k_ppg", .number 1703.4), ("platform_offsets", .mapping Dict.empty),
    ("calibrated_at", .mapping Dict.empty)]
  nodup := by decide

inductive Sensor where
  | ph | tds | turbidity | orp | flow
deriving DecidableEq

namespace Sensor

def all : List Sensor := [ph, tds, turbidity, orp, flow]

theorem mem_all (sensor : Sensor) : sensor ∈ all := by cases sensor <;> decide

def name : Sensor → String
  | ph => "ph"
  | tds => "tds"
  | turbidity => "turbidity"
  | orp => "orp"
  | flow => "flow"

/-- The fields with the coefficients of a sensor. -/
def fields : Sensor → List String
  | ph => ["ph_v_at_4", "ph_v_at_7", "ph_slope"]
  | tds => ["tds_k"]
  | turbidity => ["turbidity_v_clear"]
  | orp => ["orp_offset_mv"]
  | flow => ["flow_k_ppg"]

end Sensor

/-- The coefficients that one calibration of a sensor sets. -/
structure Calibration where
  sensor : Sensor
  values : Document
  covers : values.keys = sensor.fields

def roundTo (digits : Nat) (value : Rat) : Rat := roundHalfEven (value * 10 ^ digits) / 10 ^ digits

/-- `None` for voltages too close to each other. -/
def phSlope (vPh4 vPh7 : Rat) : Option Rat :=
  if |vPh7 - vPh4| < 0.001 then none else some ((7 - 4) / (vPh7 - vPh4))

def phCalibration (vPh4 vPh7 slope : Rat) : Calibration where
  sensor := .ph
  values := ⟨[("ph_v_at_4", .number vPh4), ("ph_v_at_7", .number vPh7), ("ph_slope", .number slope)], by simp⟩
  covers := rfl

/-- A calibration of a sensor with a single coefficient. -/
def single (sensor : Sensor) (field : String) (only : sensor.fields = [field]) (value : Rat) : Calibration where
  sensor := sensor
  values := ⟨[(field, .number value)], List.nodup_singleton field⟩
  covers := only.symm

/-- A call of one of the methods of `CalibrationManager`. -/
inductive FirmwareRequest where
  | ph (vPh4 vPh7 : Rat)
  | tds (knownPpm measuredV : Rat)
  | turbidity (clearWaterV : Rat)
  | orp (knownMv measuredMv : Rat)
  | flow (knownGal : Rat) (pulses : Int)

def calibratePh (vPh4 vPh7 : Rat) : Option Calibration :=
  (phSlope vPh4 vPh7).map fun slope => phCalibration vPh4 vPh7 slope

def calibrateTds (knownPpm measuredV : Rat) : Option Calibration :=
  if measuredV ≤ 0 then none else some (single .tds "tds_k" rfl (knownPpm / measuredV))

def calibrateTurbidity (clearWaterV : Rat) : Option Calibration :=
  some (single .turbidity "turbidity_v_clear" rfl clearWaterV)

def calibrateOrp (knownMv measuredMv : Rat) : Option Calibration :=
  some (single .orp "orp_offset_mv" rfl (knownMv - measuredMv))

def calibrateFlow (knownGal : Rat) (pulses : Int) : Option Calibration :=
  if knownGal ≤ 0 ∨ pulses ≤ 0 then none
  else some (single .flow "flow_k_ppg" rfl (roundTo 2 (pulses / knownGal)))

def FirmwareRequest.calibration : FirmwareRequest → Option Calibration
  | ph vPh4 vPh7 => calibratePh vPh4 vPh7
  | tds knownPpm measuredV => calibrateTds knownPpm measuredV
  | turbidity clearWaterV => calibrateTurbidity clearWaterV
  | orp knownMv measuredMv => calibrateOrp knownMv measuredMv
  | flow knownGal pulses => calibrateFlow knownGal pulses

/-- A form of the Service Window. -/
inductive WindowRequest where
  | ph (vPh4 vPh7 : Rat)
  | tds (knownPpm adcVolts usedTemp : Rat)
  | turbidity (clearV : Rat)
  | orp (knownMv measuredMv : Rat)

def compensatedVoltage (adcVoltage tempC : Rat) : Rat :=
  let compCoeff := 1 + 0.02 * (tempC - 25)
  adcVoltage / 0.3125 / (if compCoeff ≤ 0 then 1 else compCoeff)

/-- `None` for a probe that does not conduct. -/
def kFromReference (knownPpm adcVoltage tempC : Rat) : Option Rat :=
  let voltage := compensatedVoltage adcVoltage tempC
  if voltage ≤ 0 then none else some (knownPpm / voltage)

def WindowRequest.calibration : WindowRequest → Option Calibration
  | ph vPh4 vPh7 => (phSlope vPh4 vPh7).map fun slope => phCalibration vPh4 vPh7 (roundTo 4 slope)
  | tds knownPpm adcVolts usedTemp =>
    if knownPpm ≤ 0 then none
    else (kFromReference knownPpm adcVolts usedTemp).map fun k => single .tds "tds_k" rfl (roundTo 2 k)
  | turbidity clearV => some (single .turbidity "turbidity_v_clear" rfl (roundTo 3 clearV))
  | orp knownMv measuredMv => some (single .orp "orp_offset_mv" rfl (roundTo 1 (knownMv - measuredMv)))

/-- `calibrated_at`, empty where it is missing or no mapping. -/
def stamps (document : Document) : Dict String Scalar :=
  match document.get "calibrated_at" with
  | some (.mapping entries) => entries
  | _ => Dict.empty

/-- `_stamp` and `_stamp_calibrated`. -/
def stamp (sensor : Sensor) (now : String) (document : Document) : Document :=
  document.set "calibrated_at" (.mapping ((stamps document).set sensor.name (.text now)))

/-- The file and the snapshot of the firmware. The last field is for the statements only:
the most recent calibration of each sensor, and its time. -/
structure Store where
  file : Option Document
  data : Document
  latest : Sensor → Option (Calibration × String) := fun _ => none

/-- `_load`. -/
def load (file : Option Document) : Document :=
  match file with
  | none => defaults
  | some raw => raw.entries.foldl
      (fun data entry => if (defaults.get entry.1).isSome then data.set entry.1 entry.2 else data) defaults

inductive CalibrationEvent where
  | window (request : WindowRequest) (now : String)
  | firmware (request : FirmwareRequest) (now : String)
  | restart

def Store.record (store : Store) (calibration : Calibration) (now : String) : Store :=
  { store with latest := Function.update store.latest calibration.sensor (some (calibration, now)) }

/-- The document with the coefficients and the stamp of a calibration. -/
def recorded (document : Document) (calibration : Calibration) (now : String) : Document :=
  stamp calibration.sensor now (document.update calibration.values)

/-- A wizard: `update_config` with the coefficients, then `_stamp_calibrated`. -/
def Store.window (store : Store) (calibration : Calibration) (now : String) : Store :=
  { store with file := some (recorded (store.file.getD Dict.empty) calibration now) }.record calibration now

/-- The firmware sets the coefficients in its snapshot, stamps it and saves all of it. -/
def Store.firmware (store : Store) (calibration : Calibration) (now : String) : Store :=
  let data := recorded store.data calibration now
  { store with file := some data, data := data }.record calibration now

def step (store : Store) : CalibrationEvent → Option Store
  | .window request now => some (request.calibration.elim store fun made => store.window made now)
  | .firmware request now => some (request.calibration.elim store fun made => store.firmware made now)
  | .restart => some { store with data := load store.file }

def start (file : Option Document) : Store := ⟨file, load file, fun _ => none⟩

/-- The document has the coefficients and the stamp of the calibration. -/
def Has (document : Document) (calibration : Calibration) (now : String) : Prop :=
  (∀ field ∈ calibration.sensor.fields, document.get field = calibration.values.get field) ∧
    (stamps document).get calibration.sensor.name = some (.text now)

/-- The file has the most recent calibration of every sensor. -/
def Faithful (store : Store) : Prop :=
  ∀ sensor, ∀ last ∈ store.latest sensor, ∃ document, store.file = some document ∧
    Has document last.1 last.2

/-- The firmware's snapshot has the most recent calibration of every sensor other than the
one that the firmware is about to calibrate. -/
def UpToDate (store : Store) : CalibrationEvent → Prop
  | .firmware request _ => ∀ made ∈ request.calibration, ∀ sensor ∈ Sensor.all, sensor ≠ made.sensor →
    ∀ last ∈ store.latest sensor, Has store.data last.1 last.2
  | _ => True

instance (document : Document) (calibration : Calibration) (now : String) :
    Decidable (Has document calibration now) := inferInstanceAs (Decidable ((∀ field ∈ _, _ = _) ∧ _ = _))

instance (store : Store) : ∀ event, Decidable (UpToDate store event)
  | .firmware _ _ => inferInstanceAs (Decidable (∀ made ∈ _, ∀ sensor ∈ _, _ → ∀ last ∈ _, Has _ _ _))
  | .window .. | .restart => inferInstanceAs (Decidable True)

theorem fields_disjoint {one other : Sensor} (different : one ≠ other) {field : String}
    (member : field ∈ one.fields) : field ∉ other.fields := by
  revert field
  revert different
  cases one <;> cases other <;> decide

theorem stamp_field_not_mem (sensor : Sensor) : "calibrated_at" ∉ sensor.fields := by
  cases sensor <;> decide

theorem name_injective {one other : Sensor} (same : one.name = other.name) : one = other := by
  revert same
  cases one <;> cases other <;> decide

/-- A calibration sets no field of another sensor, nor the stamps. -/
theorem values_get_of_not_mem (calibration : Calibration) {field : String}
    (absent : field ∉ calibration.sensor.fields) : calibration.values.get field = none := by
  cases found : calibration.values.get field with
  | none => rfl
  | some value =>
    have member : field ∈ calibration.values.keys := Dict.mem_keys_iff.mpr ⟨value, found⟩
    exact absurd (calibration.covers ▸ member) absent

theorem values_get_of_mem (calibration : Calibration) {field : String}
    (member : field ∈ calibration.sensor.fields) : (calibration.values.get field).isSome = true := by
  obtain ⟨value, found⟩ := Dict.mem_keys_iff.mp (calibration.covers.symm ▸ member)
  rw [found]
  rfl

theorem get_recorded {field : String} (coefficient : field ≠ "calibrated_at") (document : Document)
    (calibration : Calibration) (now : String) :
    (recorded document calibration now).get field = (calibration.values.get field).or (document.get field) := by
  unfold recorded stamp
  rw [Dict.get_set, if_neg coefficient, Dict.get_update]

theorem stamps_recorded (document : Document) (calibration : Calibration) (now : String) :
    stamps (recorded document calibration now) =
      (stamps document).set calibration.sensor.name (.text now) := by
  have same : stamps (document.update calibration.values) = stamps document := by
    unfold stamps
    rw [Dict.get_update, values_get_of_not_mem calibration (stamp_field_not_mem _), Option.none_or]
  unfold recorded stamp
  rw [same]
  conv_lhs => unfold stamps
  rw [Dict.get_set, if_pos rfl]
  rfl

theorem has_recorded (document : Document) (calibration : Calibration) (now : String) :
    Has (recorded document calibration now) calibration now := by
  constructor
  · intro field member
    have coefficient : field ≠ "calibrated_at" := fun same => stamp_field_not_mem _ (same ▸ member)
    rw [get_recorded coefficient]
    exact Option.or_of_isSome (values_get_of_mem calibration member)
  · rw [stamps_recorded, Dict.get_set, if_pos rfl]

/-- A calibration leaves what the document has of another sensor as it is. -/
theorem has_recorded_iff {calibration other : Calibration} (different : other.sensor ≠ calibration.sensor)
    (document : Document) (now time : String) :
    Has (recorded document calibration now) other time ↔ Has document other time := by
  unfold Has
  rw [stamps_recorded, Dict.get_set, if_neg fun same => different (name_injective same)]
  refine and_congr_left' (forall₂_congr fun field member => ?_)
  have coefficient : field ≠ "calibrated_at" := fun same => stamp_field_not_mem _ (same ▸ member)
  rw [get_recorded coefficient, values_get_of_not_mem calibration (fields_disjoint different member),
    Option.none_or]

theorem latest_record_self (store : Store) (calibration : Calibration) (now : String) :
    (store.record calibration now).latest calibration.sensor = some (calibration, now) :=
  Function.update_self ..

theorem latest_record_of_ne {sensor : Sensor} {calibration : Calibration} (different : sensor ≠ calibration.sensor)
    (store : Store) (now : String) : (store.record calibration now).latest sensor = store.latest sensor :=
  Function.update_of_ne different ..

/-- The file is faithful and the calibrations are listed under their sensors. -/
structure Clean (store : Store) : Prop where
  faithful : Faithful store
  listed : ∀ sensor, ∀ last ∈ store.latest sensor, last.1.sensor = sensor

theorem Clean.record {store : Store} (clean : Clean store) {calibration : Calibration} {now : String}
    {file data : Document} (mine : Has file calibration now)
    (others : ∀ sensor, sensor ≠ calibration.sensor → ∀ last ∈ store.latest sensor, Has file last.1 last.2) :
    Clean ({ store with file := some file, data := data }.record calibration now) := by
  have which (sensor : Sensor) (last : Calibration × String)
      (found : last ∈ ({ store with file := some file, data := data }.record calibration now).latest sensor) :
      sensor = calibration.sensor ∧ last = (calibration, now) ∨
        sensor ≠ calibration.sensor ∧ last ∈ store.latest sensor := by
    by_cases same : sensor = calibration.sensor
    · subst same
      rw [latest_record_self] at found
      exact .inl ⟨rfl, (Option.mem_some_iff.mp found).symm⟩
    · rw [latest_record_of_ne same] at found
      exact .inr ⟨same, found⟩
  constructor
  · intro sensor last found
    refine ⟨file, rfl, ?_⟩
    rcases which sensor last found with ⟨-, this⟩ | ⟨different, before⟩
    · subst this
      exact mine
    · exact others sensor different last before
  · intro sensor last found
    rcases which sensor last found with ⟨same, this⟩ | ⟨different, before⟩
    · subst this
      exact same.symm
    · exact clean.listed sensor last before

theorem Clean.window {store : Store} (clean : Clean store) (calibration : Calibration) (now : String) :
    Clean (store.window calibration now) := by
  refine clean.record (has_recorded _ calibration now) fun sensor different last found => ?_
  obtain ⟨document, there, has⟩ := clean.faithful sensor last found
  have other : last.1.sensor ≠ calibration.sensor := clean.listed sensor last found ▸ different
  rw [there]
  exact (has_recorded_iff other document now last.2).mpr has

theorem Clean.firmware {store : Store} (clean : Clean store) (calibration : Calibration) (now : String)
    (upToDate : ∀ sensor ∈ Sensor.all, sensor ≠ calibration.sensor →
      ∀ last ∈ store.latest sensor, Has store.data last.1 last.2) :
    Clean (store.firmware calibration now) := by
  refine clean.record (has_recorded _ calibration now) fun sensor different last found => ?_
  have other : last.1.sensor ≠ calibration.sensor := clean.listed sensor last found ▸ different
  exact (has_recorded_iff other store.data now last.2).mpr (upToDate sensor sensor.mem_all different last found)

/-- A calibration by the firmware leaves a faithful file only if its snapshot had the other
sensors' calibrations. -/
theorem Clean.upToDate {store : Store} (clean : Clean store) {calibration : Calibration} {now : String}
    (faithful : Faithful (store.firmware calibration now)) {sensor : Sensor}
    (different : sensor ≠ calibration.sensor) {last : Calibration × String} (found : last ∈ store.latest sensor) :
    Has store.data last.1 last.2 := by
  have still : last ∈ (store.firmware calibration now).latest sensor := by
    rw [Store.firmware, latest_record_of_ne different]
    exact found
  obtain ⟨document, there, has⟩ := faithful sensor last still
  cases there
  have other : last.1.sensor ≠ calibration.sensor := clean.listed sensor last found ▸ different
  exact (has_recorded_iff other store.data now last.2).mp has

theorem clean_step {before after : Store} {event : CalibrationEvent} (clean : Clean before)
    (stepped : step before event = some after) (upToDate : UpToDate before event) : Clean after := by
  cases event with
  | window request now =>
    cases stepped
    cases request.calibration with
    | none => exact clean
    | some made => exact clean.window made now
  | firmware request now =>
    cases stepped
    simp only [UpToDate] at upToDate
    cases made : request.calibration with
    | none => exact clean
    | some calibration => exact clean.firmware calibration now (upToDate calibration made)
  | restart =>
    cases stepped
    exact ⟨clean.faithful, clean.listed⟩

theorem outdated_unfaithful {before after : Store} {event : CalibrationEvent} (clean : Clean before)
    (stepped : step before event = some after) (outdated : ¬ UpToDate before event) : ¬ Faithful after := by
  cases event with
  | window request now => exact absurd trivial outdated
  | restart => exact absurd trivial outdated
  | firmware request now =>
    cases stepped
    intro faithful
    refine outdated fun made issued sensor _ different last found => ?_
    rw [Option.mem_def.mp issued] at faithful
    exact clean.upToDate faithful different found

theorem clean_start {file : Option Document} : Clean (start file) where
  faithful _ _ found := by cases found
  listed _ _ found := by cases found

end Wqm1.Sensing.CalibrationStore
