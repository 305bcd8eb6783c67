import Wqm1.Sensing.Drift
import Wqm1.Sensing.FlowTotalizer

/-! The pH sensor: its two-point calibration and the conversion of a voltage, against the
electrode that it is calibrated on. -/

set_option autoImplicit false

namespace Wqm1.Sensing

open Wqm1.Library.Window

def adcFullScaleV : Rat := 4.096
def adcRailMarginV : Rat := 0.05
def phMaxWindowSpan : Rat := 2
def nernstSlope25C : Rat := 0.05916
def nernstR : Rat := 8.314
def nernstF : Rat := 96485

def nernstSlope (tempC : Rat) : Rat := nernstR * (tempC + 273.15) / nernstF

inductive SensorStatus where
  | ok
  | noConduction
  | outOfRange
  | uncalibrated
  | readFailed
deriving DecidableEq

def SensorStatus.code : SensorStatus → String
  | ok => "ok"
  | noConduction => "no_conduction"
  | outOfRange => "out_of_range"
  | uncalibrated => "uncalibrated"
  | readFailed => "read_failed"

structure SensorResult where
  value : Option Rat
  status : SensorStatus
  detail : Option String := none
deriving DecidableEq

/-- Python's `f"{value:.nf}"`, which keeps the sign of what it rounds to zero. -/
def printFixed (decimals : Nat) (value : Rat) : String :=
  let scaled := (Radio.roundHalfEven (|value| * 10 ^ decimals)).toNat
  let fraction := toString (scaled % 10 ^ decimals)
  (if value < 0 then "-" else "") ++ toString (scaled / 10 ^ decimals) ++ "." ++
    "".pushn '0' (decimals - fraction.length) ++ fraction

example : [printFixed 3 1.5, printFixed 2 (-0.001), printFixed 1 14.05] = ["1.500", "-0.00", "14.0"] := by
  decide +kernel

structure PhSensor where
  window : List Rat
  vPh4 : Rat
  vPh7 : Rat
  calibrated : Bool
  slope : Rat
deriving DecidableEq

namespace PhSensor

def windowSize : Nat := 5

def recalcSlope (sensor : PhSensor) : PhSensor :=
  let dv := sensor.vPh7 - sensor.vPh4
  if |dv| < 0.001 then { sensor with slope := nernstSlope25C } else { sensor with slope := (7 - 4) / dv }

def new (calibrated : Bool) : PhSensor :=
  recalcSlope { window := [], vPh4 := 1.04, vPh7 := 1.50, calibrated, slope := 0 }

def setCalibration (sensor : PhSensor) (vPh4 vPh7 : Rat) (calibrated : Bool) : PhSensor :=
  { recalcSlope { sensor with vPh4, vPh7, calibrated } with window := [] }

/-- `max(window) - min(window)`. -/
def span (window : List Rat) : Rat :=
  match window.max?, window.min? with
  | some high, some low => high - low
  | _, _ => 0

def tempFactor : Option Rat → Rat
  | some tempC => if tempC ≠ 25 then nernstSlope tempC / nernstSlope 25 else 1
  | none => 1

def convert (sensor : PhSensor) (voltage : Rat) (tempC : Option Rat) : PhSensor × SensorResult :=
  if voltage ≤ adcRailMarginV ∨ adcFullScaleV - adcRailMarginV ≤ voltage then
    (sensor, { value := none, status := .outOfRange, detail := some ("input at " ++ printFixed 3 voltage ++ " V") })
  else
    let ph := 7 + (voltage - sensor.vPh7) * sensor.slope * tempFactor tempC
    if ¬(0 ≤ ph ∧ ph ≤ 14) then
      (sensor, {
        value := none
        status := .uncalibrated
        detail := some ("pH " ++ printFixed 1 ph ++ " from " ++ printFixed 3 voltage ++ " V") })
    else
      let window := recent windowSize (sensor.window ++ [ph])
      -- A window of real water does not move this far.
      if 3 ≤ window.length ∧ phMaxWindowSpan < span window then
        ({ sensor with window }, {
          value := none
          status := .outOfRange
          detail := some ("spread " ++ printFixed 2 (span window) ++ " pH over " ++ toString window.length) })
      else
        ({ sensor with window }, { value := some (roundTo 2 (median window)), status := .ok })

/-- The reply of the converter is a voltage or the text of its exception. -/
def readDetailed (sensor : PhSensor) (reply : Except String Rat) (tempC : Option Rat) : PhSensor × SensorResult :=
  if !sensor.calibrated then
    (sensor, { value := none, status := .uncalibrated, detail := some "no two-point calibration stored" })
  else
    match reply with
    | .error text =>
        (sensor, { value := none, status := .readFailed, detail := some (String.ofList (text.toList.take 80)) })
    | .ok voltage => sensor.convert voltage tempC

/-- The sensor after a number of reads that were all alike. -/
def readTimes (sensor : PhSensor) (voltage tempC : Rat) : Nat → PhSensor
  | 0 => sensor
  | count + 1 => ((sensor.readTimes voltage tempC count).readDetailed (.ok voltage) (some tempC)).1

end PhSensor

/-- An electrode, by its voltage at pH 7 and its volts per pH at 25 degrees. -/
structure Electrode where
  v7 : Rat
  response : Rat
  responds : response ≠ 0

def Electrode.voltage (electrode : Electrode) (ph tempC : Rat) : Rat :=
  electrode.v7 + (ph - 7) * electrode.response * (tempC + 273.15) / 298.15

structure Water where
  ph : Rat
  tempC : Rat
  acidity : 0 ≤ ph ∧ ph ≤ 14
  liquid : 0 ≤ tempC ∧ tempC ≤ 50

def InsideRails (voltage : Rat) : Prop :=
  adcRailMarginV < voltage ∧ voltage < adcFullScaleV - adcRailMarginV

instance (voltage : Rat) : Decidable (InsideRails voltage) :=
  inferInstanceAs (Decidable (adcRailMarginV < voltage ∧ voltage < adcFullScaleV - adcRailMarginV))

def Electrode.calibrate (electrode : Electrode) (sensor : PhSensor) : PhSensor :=
  sensor.setCalibration (electrode.voltage 4 25) (electrode.voltage 7 25) true

/-- Whatever number of reads went before, the next one gives the water's pH. -/
def Reports (sensor : PhSensor) (electrode : Electrode) (water : Water) : Prop :=
  let voltage := electrode.voltage water.ph water.tempC
  ∀ earlier, ((sensor.readTimes voltage water.tempC earlier).readDetailed (.ok voltage) (some water.tempC)).2 =
    { value := some (roundTo 2 water.ph), status := .ok }

/-- The ratio of absolute temperatures by which the electrode's voltage grows. -/
def warmth (tempC : Rat) : Rat := (tempC + 273.15) / 298.15

/-- How far the sensor stretches the distance from pH 7: the growth with the temperature enters
a second time instead of being taken out, and an electrode of less than a millivolt between the
buffers gets the slope of the textbook as if it were pH per volt. -/
def stretch (electrode : Electrode) (water : Water) : Rat :=
  warmth water.tempC ^ 2 * if |3 * electrode.response| < 0.001 then 0.05916 * electrode.response else 1

/-- What the stretch adds to the pH. -/
def phError (electrode : Electrode) (water : Water) : Rat := (water.ph - 7) * (stretch electrode water - 1)

/-- The error leaves the pH on the scale and in its own hundredth. -/
def ErrorHidden (electrode : Electrode) (water : Water) : Prop :=
  0 ≤ water.ph + phError electrode water ∧ water.ph + phError electrode water ≤ 14 ∧
    roundTo 2 (water.ph + phError electrode water) = roundTo 2 water.ph

instance (electrode : Electrode) (water : Water) : Decidable (ErrorHidden electrode water) :=
  inferInstanceAs (Decidable (0 ≤ water.ph + phError electrode water ∧ water.ph + phError electrode water ≤ 14 ∧
    roundTo 2 (water.ph + phError electrode water) = roundTo 2 water.ph))

theorem median_replicate {count : Nat} (positive : 0 < count) (value : Rat) :
    median (List.replicate count value) = value := by
  have sorted : (List.replicate count value).insertionSort (· ≤ ·) = List.replicate count value :=
    List.perm_replicate.mp (List.perm_insertionSort _ _)
  have at_ (place : Nat) (early : place < count) : (List.replicate count value).getD place 0 = value := by
    rw [List.getD_eq_getElem _ _ (by simpa using early), List.getElem_replicate]
  unfold median
  dsimp only
  rw [sorted, List.length_replicate, at_ _ (by omega), at_ _ (by omega)]
  split
  next => rfl
  next => ring

theorem span_replicate (count : Nat) (value : Rat) : PhSensor.span (List.replicate count value) = 0 := by
  unfold PhSensor.span
  cases count with
  | zero => rfl
  | succ count =>
      rw [List.max?_replicate_of_pos (Nat.succ_pos count), List.min?_replicate_of_pos (Nat.succ_pos count)]
      exact sub_self value

theorem recent_replicate (count : Nat) (value : Rat) :
    recent PhSensor.windowSize (List.replicate count value ++ [value]) =
      List.replicate (min (count + 1) PhSensor.windowSize) value := by
  unfold recent
  rw [← List.replicate_succ', List.drop_replicate, List.length_replicate]
  congr 1
  omega

theorem tempFactor_some (tempC : Rat) : PhSensor.tempFactor (some tempC) = warmth tempC := by
  unfold PhSensor.tempFactor warmth
  dsimp only
  split
  next =>
    unfold nernstSlope nernstR nernstF
    field_simp
    norm_num
  next same =>
    rw [Decidable.not_not.mp same]
    norm_num

theorem voltage_at_7 (electrode : Electrode) : electrode.voltage 7 25 = electrode.v7 := by
  unfold Electrode.voltage
  ring

theorem voltage_between (electrode : Electrode) :
    electrode.voltage 7 25 - electrode.voltage 4 25 = 3 * electrode.response := by
  unfold Electrode.voltage
  norm_num
  ring

theorem slope_calibrate (electrode : Electrode) (sensor : PhSensor) :
    (electrode.calibrate sensor).slope =
      if |3 * electrode.response| < 0.001 then 0.05916 else 3 / (3 * electrode.response) := by
  unfold Electrode.calibrate PhSensor.setCalibration PhSensor.recalcSlope
  dsimp only
  rw [voltage_between]
  split
  next => rfl
  next =>
    norm_num

theorem converted_eq (electrode : Electrode) (sensor : PhSensor) (water : Water) :
    7 + (electrode.voltage water.ph water.tempC - (electrode.calibrate sensor).vPh7) *
        (electrode.calibrate sensor).slope * PhSensor.tempFactor (some water.tempC) =
      water.ph + phError electrode water := by
  have middle : (electrode.calibrate sensor).vPh7 = electrode.v7 := by
    rw [← voltage_at_7]
    unfold Electrode.calibrate PhSensor.setCalibration PhSensor.recalcSlope
    dsimp only
    split <;> rfl
  have above : electrode.voltage water.ph water.tempC - electrode.v7 =
      (water.ph - 7) * electrode.response * warmth water.tempC := by
    unfold Electrode.voltage warmth
    ring
  rw [middle, above, slope_calibrate, tempFactor_some]
  unfold phError stretch
  split
  next => ring
  next =>
    have responds := electrode.responds
    field_simp
    ring

section Reads

variable {sensor : PhSensor} {voltage tempC ph : Rat}

theorem readDetailed_same (calibrated : sensor.calibrated = true) (inside : InsideRails voltage)
    (converted : 7 + (voltage - sensor.vPh7) * sensor.slope * PhSensor.tempFactor (some tempC) = ph)
    (scale : 0 ≤ ph ∧ ph ≤ 14) (seen : Nat) :
    PhSensor.readDetailed { sensor with window := List.replicate (min seen PhSensor.windowSize) ph } (.ok voltage)
        (some tempC) =
      ({ sensor with window := List.replicate (min (seen + 1) PhSensor.windowSize) ph },
        { value := some (roundTo 2 ph), status := .ok }) := by
  have grown : recent PhSensor.windowSize (List.replicate (min seen PhSensor.windowSize) ph ++ [ph]) =
      List.replicate (min (seen + 1) PhSensor.windowSize) ph := by
    rw [recent_replicate]
    congr 1
    omega
  have still : ¬phMaxWindowSpan < 0 := by decide +kernel
  have filled : 0 < min (seen + 1) PhSensor.windowSize := Nat.lt_min.mpr ⟨Nat.succ_pos seen, by decide⟩
  unfold PhSensor.readDetailed PhSensor.convert
  dsimp only
  rw [calibrated, Bool.not_true, if_neg Bool.false_ne_true,
    if_neg (not_or.mpr ⟨not_le.mpr inside.1, not_le.mpr inside.2⟩), converted, if_neg (not_not.mpr scale), grown,
    span_replicate, if_neg fun wild => still wild.2, median_replicate filled]

theorem readDetailed_offScale (calibrated : sensor.calibrated = true) (inside : InsideRails voltage)
    (converted : 7 + (voltage - sensor.vPh7) * sensor.slope * PhSensor.tempFactor (some tempC) = ph)
    (off : ¬(0 ≤ ph ∧ ph ≤ 14)) : (sensor.readDetailed (.ok voltage) (some tempC)).2.value = none := by
  unfold PhSensor.readDetailed PhSensor.convert
  dsimp only
  rw [calibrated, Bool.not_true, if_neg Bool.false_ne_true,
    if_neg (not_or.mpr ⟨not_le.mpr inside.1, not_le.mpr inside.2⟩), converted, if_pos off]

/-- After any number of reads of the same water, only the window has changed. -/
theorem readTimes_same (calibrated : sensor.calibrated = true) (inside : InsideRails voltage)
    (converted : 7 + (voltage - sensor.vPh7) * sensor.slope * PhSensor.tempFactor (some tempC) = ph)
    (scale : 0 ≤ ph ∧ ph ≤ 14) (fresh : sensor.window = []) (count : Nat) :
    sensor.readTimes voltage tempC count =
      { sensor with window := List.replicate (min count PhSensor.windowSize) ph } := by
  induction count with
  | zero =>
      rw [Nat.zero_min, List.replicate_zero, ← fresh]
      rfl
  | succ count ih =>
      unfold PhSensor.readTimes
      rw [ih]
      exact congrArg Prod.fst (readDetailed_same calibrated inside converted scale _)

end Reads

theorem calibrate_calibrated (electrode : Electrode) (sensor : PhSensor) :
    (electrode.calibrate sensor).calibrated = true := by
  unfold Electrode.calibrate PhSensor.setCalibration PhSensor.recalcSlope
  dsimp only
  split <;> rfl

/-- The sensor reports the water's pH if and only if its error does not show. -/
theorem reports_iff_errorHidden (sensor : PhSensor) (electrode : Electrode) (water : Water)
    (inside : InsideRails (electrode.voltage water.ph water.tempC)) :
    Reports (electrode.calibrate sensor) electrode water ↔ ErrorHidden electrode water := by
  have calibrated := calibrate_calibrated electrode sensor
  have converted := converted_eq electrode sensor water
  have rounds (scale : 0 ≤ water.ph + phError electrode water ∧ water.ph + phError electrode water ≤ 14)
      (earlier : Nat) : (((electrode.calibrate sensor).readTimes (electrode.voltage water.ph water.tempC) water.tempC
          earlier).readDetailed (.ok (electrode.voltage water.ph water.tempC)) (some water.tempC)).2 =
        { value := some (roundTo 2 (water.ph + phError electrode water)), status := .ok } := by
    rw [readTimes_same calibrated inside converted scale rfl]
    exact congrArg Prod.snd (readDetailed_same calibrated inside converted scale _)
  constructor
  · intro reports
    by_cases scale : 0 ≤ water.ph + phError electrode water ∧ water.ph + phError electrode water ≤ 14
    · have same := (rounds scale 0).symm.trans (reports 0)
      exact ⟨scale.1, scale.2, Option.some.inj (congrArg SensorResult.value same)⟩
    · have silent := readDetailed_offScale calibrated inside converted scale
      cases silent.symm.trans (congrArg SensorResult.value (reports 0))
  · intro hidden earlier
    rw [rounds ⟨hidden.1, hidden.2.1⟩ earlier, hidden.2.2]

def electrode60mV : Electrode := ⟨1.5, 0.06, by norm_num⟩

/-- At 25 degrees there is nothing to take out. -/
theorem reports_at_25 : ErrorHidden electrode60mV ⟨4, 25, by norm_num, by norm_num⟩ ∧
    Reports (electrode60mV.calibrate (.new true)) electrode60mV ⟨4, 25, by norm_num, by norm_num⟩ := by
  have hidden : ErrorHidden electrode60mV ⟨4, 25, by norm_num, by norm_num⟩ := by
    decide +kernel
  exact ⟨hidden, (reports_iff_errorHidden _ _ _ (by decide +kernel)).mpr hidden⟩

/-- At 35 degrees pH 4 comes out as pH 3.8. -/
theorem warm_water_misread :
    ¬Reports (electrode60mV.calibrate (.new true)) electrode60mV ⟨4, 35, by norm_num, by norm_num⟩ := by
  intro reports
  have first := congrArg SensorResult.value (reports 0)
  exact absurd first (by decide +kernel)

end Wqm1.Sensing
