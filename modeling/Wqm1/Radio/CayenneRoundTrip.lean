import Wqm1.Radio.CayenneDecode

/-! Which columns of a reading survive encoding and decoding, and how exactly. -/

set_option autoImplicit false

namespace Wqm1.Radio.Cayenne

open Wqm1.Library

/-- The resolution step of the channel that carries a column. -/
def step : Column → Rat
  | .tempC => 1 / 10
  | .conductivityUscm => 10
  | .flowTotalGal => 10
  | .lat => 1 / 10000
  | .lon => 1 / 10000
  | _ => 1 / 100

def isPosition : Column → Bool
  | .lat => true
  | .lon => true
  | .altM => true
  | _ => false

/-- What a reading puts into the payload: a position needs both coordinates, and its
altitude is zero when the reading has none. -/
def carried (data : Reading) (column : Column) : Option Rat :=
  if isPosition column then
    if hasPosition data then some ((data.get column).getD 0) else none
  else data.get column

/-- The value that is read back. -/
def quantised (column : Column) (value : Rat) : Rat :=
  (if isPosition column then roundHalfEven (value / step column) else saturated (value / step column)) *
    step column

/-- The positions that the GPS channel has room for: the altitude is a count of
centimetres in 24 bits. -/
structure OnEarth (data : Reading) : Prop where
  lat : ∀ value, data.lat = some value → |value| ≤ 90
  lon : ∀ value, data.lon = some value → |value| ≤ 180
  altM : ∀ value, data.altM = some value → |value| ≤ 83886

/-- The values that a 16-bit channel reads back to within half a step. -/
def fits (column : Column) (value : Rat) : Prop :=
  isPosition column = true ∨ (-65537 / 2 ≤ value / step column ∧ value / step column ≤ 65535 / 2)

theorem abs_saturated_sub {value : Rat} (low : -65537 / 2 ≤ value) (high : value ≤ 65535 / 2) :
    |(saturated value : Rat) - value| ≤ 1 / 2 := by
  have near := abs_le.mp (abs_round_sub value)
  unfold saturated
  generalize roundHalfEven value = rounded at near ⊢
  cases lt_or_ge rounded (-32768) with
  | inl under =>
    have least : max (-32768) (min 32767 rounded) = -32768 := by omega
    have bound : (rounded : Rat) ≤ -32769 := by exact_mod_cast (by omega : rounded ≤ -32769)
    rw [least, abs_le]
    push_cast
    constructor <;> linarith
  | inr inside =>
    cases lt_or_ge 32767 rounded with
    | inl above =>
      have greatest : max (-32768) (min 32767 rounded) = 32767 := by omega
      have bound : (32768 : Rat) ≤ rounded := by exact_mod_cast (by omega : 32768 ≤ rounded)
      rw [greatest, abs_le]
      push_cast
      constructor <;> linarith
    | inr within =>
      have same : max (-32768) (min 32767 rounded) = rounded := by omega
      rw [same, abs_le]
      exact near

theorem abs_quantised_sub {column : Column} {value : Rat} (roomy : fits column value) :
    |quantised column value - value| ≤ step column / 2 := by
  have positive : 0 < step column := by cases column <;> norm_num [step]
  have scaled : value = value / step column * step column := by field_simp
  have near : |((if isPosition column then roundHalfEven (value / step column)
      else saturated (value / step column) : Int) : Rat) - value / step column| ≤ 1 / 2 := by
    cases roomy with
    | inl position =>
      rw [if_pos position]
      exact abs_round_sub _
    | inr inside =>
      split
      next => exact abs_round_sub _
      next => exact abs_saturated_sub inside.1 inside.2
  unfold quantised
  nth_rewrite 3 [scaled]
  rw [← sub_mul, abs_mul, abs_of_pos positive]
  have product := mul_le_mul_of_nonneg_right near positive.le
  push_cast at product ⊢
  linarith

theorem fits24_of_abs_le {value : Rat} (bound : Rat) (bounded : |value| ≤ bound) (small : bound ≤ 8388606) :
    fits24 (roundHalfEven value) := by
  have near := abs_le.mp (abs_round_sub value)
  have range := abs_le.mp bounded
  have low : (-8388608 : Rat) ≤ roundHalfEven value := by linarith
  have high : (roundHalfEven value : Rat) < 8388608 := by linarith
  exact ⟨by exact_mod_cast low, by exact_mod_cast high⟩

/-- What is decoded from an encoded reading. -/
def received (data : Reading) : Decoded
  | .column column => (carried data column).map (quantised column)
  | .ch _ => none

/-- The part of it that comes from the GPS channel. -/
def position (data : Reading) : Decoded
  | .column column =>
    if isPosition column && hasPosition data then some (quantised column ((data.get column).getD 0)) else none
  | .ch _ => none

theorem decodeFrom_position {data : Reading} (onEarth : OnEarth data) (result : Decoded) (key : Key) :
    decodeFrom (gps data.lat data.lon data.altM) result key = (position data key).or (result key) := by
  have absent (missing : hasPosition data = false) : (position data key).or (result key) = result key := by
    cases key with
    | ch _ => rfl
    | column column => simp [position, missing]
  cases lat : data.lat with
  | none =>
    rw [absent (by simp [hasPosition, lat])]
    rfl
  | some latitude =>
    cases lon : data.lon with
    | none =>
      rw [absent (by simp [hasPosition, lon])]
      rfl
    | some longitude =>
      have complete : hasPosition data = true := by simp [hasPosition, lat, lon]
      have latitudeFits : fits24 (roundHalfEven (latitude * 10000)) := by
        apply fits24_of_abs_le (90 * 10000)
        · rw [abs_mul, abs_of_pos (by norm_num : (0 : Rat) < 10000)]
          linarith [onEarth.lat latitude lat]
        · norm_num
      have longitudeFits : fits24 (roundHalfEven (longitude * 10000)) := by
        apply fits24_of_abs_le (180 * 10000)
        · rw [abs_mul, abs_of_pos (by norm_num : (0 : Rat) < 10000)]
          linarith [onEarth.lon longitude lon]
        · norm_num
      have altitudeFits : fits24 (roundHalfEven (data.altM.getD 0 * 100)) := by
        apply fits24_of_abs_le (83886 * 100)
        · rw [abs_mul, abs_of_pos (by norm_num : (0 : Rat) < 100)]
          cases altM : data.altM with
          | none => norm_num
          | some altitude =>
            rw [Option.getD_some]
            linarith [onEarth.altM altitude altM]
        · norm_num
      rw [decodeFrom_gps result latitudeFits longitudeFits altitudeFits]
      cases key with
      | ch _ => rfl
      | column column =>
        cases column <;> simp [Decoded.set, Function.update, position, complete, isPosition,
          Reading.get, lat, lon, quantised, step, div_eq_mul_inv]

/-- The channel that carries a scalar column, and the factor on its values. -/
structure Carries (column : Column) (channel lppType : UInt8) (factor : Rat → Rat) : Prop where
  known : lppType = lppTemperature ∨ lppType = lppAnalogInput
  key : keyOf channel = .column column
  value : ∀ value, scalarValue channel lppType (saturated (factor value)) = quantised column value

theorem Carries.decodeFrom {column : Column} {channel lppType : UInt8} {factor : Rat → Rat}
    (carries : Carries column channel lppType factor) (value : Option Rat) (rest : Bytes) (result : Decoded) :
    decodeFrom (scalar channel lppType (value.map factor) ++ rest) result =
      decodeFrom rest (result.put (.column column) (value.map (quantised column))) := by
  rw [decodeFrom_scalar _ _ _ _ carries.known, carries.key, Option.map_map]
  congr 3
  funext value
  exact carries.value value

theorem carries_tempC : Carries .tempC chTemperature lppTemperature (· * 10) where
  known := .inl rfl
  key := rfl
  value value := by
    have scaled : value / (1 / 10) = value * 10 := by ring
    simp only [scalarValue, quantised, isPosition, step, scaled, ↓reduceIte, Bool.false_eq_true]
    ring

theorem carries_hundredths (column : Column) {channel : UInt8} (key : keyOf channel = .column column)
    (plain : channel ≠ chConductivity ∧ channel ≠ chFlowTotal) (scalar : isPosition column = false)
    (hundredth : step column = 1 / 100) : Carries column channel lppAnalogInput (· * 100) where
  known := .inr rfl
  key := key
  value value := by
    have analog : lppAnalogInput ≠ lppTemperature := by decide
    have scaled : value / (1 / 100) = value * 100 := by ring
    simp only [scalarValue, analogValue, analog, plain, quantised, scalar, hundredth, scaled, ↓reduceIte,
      Bool.false_eq_true]
    ring

theorem carries_conductivity :
    Carries .conductivityUscm chConductivity lppAnalogInput (· / usPerMs * 100) where
  known := .inr rfl
  key := rfl
  value value := by
    have analog : lppAnalogInput ≠ lppTemperature := by decide
    have scaled : value / 1000 * 100 = value / 10 := by ring
    simp only [scalarValue, analogValue, analog, quantised, isPosition, step, usPerMs, scaled, ↓reduceIte,
      Bool.false_eq_true]
    ring

theorem carries_flowTotal : Carries .flowTotalGal chFlowTotal lppAnalogInput (· / galPerKgal * 100) where
  known := .inr rfl
  key := rfl
  value value := by
    have analog : lppAnalogInput ≠ lppTemperature := by decide
    have other : chFlowTotal ≠ chConductivity := by decide
    have scaled : value / 1000 * 100 = value / 10 := by ring
    simp only [scalarValue, analogValue, analog, other, quantised, isPosition, step, galPerKgal, scaled,
      ↓reduceIte, Bool.false_eq_true]
    ring

theorem decode_encode {data : Reading} (onEarth : OnEarth data) : decode (encode data) = received data := by
  funext key
  unfold decode encode
  simp only [List.append_assoc]
  rw [carries_tempC.decodeFrom, (carries_hundredths .ph rfl (by decide) rfl rfl).decodeFrom,
    (carries_hundredths .tdsPpm rfl (by decide) rfl rfl).decodeFrom,
    (carries_hundredths .turbidityNtu rfl (by decide) rfl rfl).decodeFrom,
    (carries_hundredths .orpMv rfl (by decide) rfl rfl).decodeFrom,
    (carries_hundredths .chlorineMgl rfl (by decide) rfl rfl).decodeFrom,
    carries_conductivity.decodeFrom,
    (carries_hundredths .salinityPpt rfl (by decide) rfl rfl).decodeFrom,
    (carries_hundredths .flowRateGpm rfl (by decide) rfl rfl).decodeFrom,
    carries_flowTotal.decodeFrom, decodeFrom_position onEarth]
  simp only [Decoded.put_apply]
  cases key with
  | ch channel => simp [received, position]
  | column column => cases column <;> simp [received, carried, isPosition, position, Reading.get]

/-- The ranges that the sensors declare. -/
def Declared : Column → Rat → Prop
  | .tempC, value => -10 ≤ value ∧ value ≤ 50
  | .ph, value => 0 ≤ value ∧ value ≤ 14
  | .tdsPpm, value => 0 ≤ value ∧ value ≤ 5000
  | .turbidityNtu, value => 0 ≤ value ∧ value ≤ 4000
  | .orpMv, value => -2000 ≤ value ∧ value ≤ 2000
  | .flowRateGpm, value => 0 ≤ value ∧ value ≤ 500
  | .conductivityUscm, value => 0 ≤ value ∧ value ≤ 10000
  | .flowTotalGal, value => 0 ≤ value ∧ value ≤ 327670
  | _, _ => True

theorem fits_of_declared {column : Column} {value : Rat} (declared : Declared column value)
    (scaled : column = .tempC ∨ column = .ph ∨ column = .conductivityUscm ∨ column = .flowTotalGal) :
    fits column value := by
  right
  obtain rfl | rfl | rfl | rfl := scaled
  all_goals
    obtain ⟨low, high⟩ := declared
    simp only [step]
    constructor <;> linarith

/-- Encoding keeps the scalar columns, and the position of a reading with both
coordinates; a value that fits its channel is read back to within half a step. -/
theorem decode_encode_within {data : Reading} (onEarth : OnEarth data) :
    (∀ column, ((decode (encode data)) (.column column)).isSome =
      if isPosition column then hasPosition data else (data.get column).isSome) ∧
    (∀ channel, decode (encode data) (.ch channel) = none) ∧
    (∀ column value received, data.get column = some value →
      decode (encode data) (.column column) = some received → fits column value →
      |received - value| ≤ step column / 2) ∧
    (∀ column value, Declared column value →
      column = .tempC ∨ column = .ph ∨ column = .conductivityUscm ∨ column = .flowTotalGal →
      fits column value) ∧
    (hasPosition data = true → data.altM = none → decode (encode data) (.column .altM) = some 0) := by
  rw [decode_encode onEarth]
  refine ⟨?_, fun _ => rfl, ?_, fun _ _ => fits_of_declared, ?_⟩
  · intro column
    unfold received carried
    rw [Option.isSome_map]
    split
    next => cases hasPosition data <;> rfl
    next => rfl
  · intro column value back present decoded roomy
    change (carried data column).map (quantised column) = some back at decoded
    unfold carried at decoded
    rw [present] at decoded
    have same : quantised column value = back := by
      split at decoded
      next =>
        split at decoded
        next => exact Option.some.inj decoded
        next => cases decoded
      next => exact Option.some.inj decoded
    rw [← same]
    exact abs_quantised_sub roomy
  · intro complete missing
    have zero : roundHalfEven 0 = 0 := by decide +kernel
    simp [received, carried, isPosition, complete, Reading.get, missing, quantised, zero]

theorem decode_encode_within_field :
    decode (encode { ph := some (7 / 3), lat := some 37, lon := some (-122) }) (.column .ph) =
      some (233 / 100) ∧ |(233 / 100 : Rat) - 7 / 3| ≤ step .ph / 2 := by
  have onEarth : OnEarth { ph := some (7 / 3), lat := some 37, lon := some (-122) } := by
    constructor <;> intro value present <;> cases present <;> norm_num [abs_le]
  have decoded : decode (encode { ph := some (7 / 3), lat := some 37, lon := some (-122) }) (.column .ph) =
      some (233 / 100) := by
    decide +kernel
  have within := decode_encode_within onEarth
  refine ⟨decoded, within.2.2.1 .ph (7 / 3) (233 / 100) rfl decoded (within.2.2.2.1 .ph (7 / 3) ?_ ?_)⟩
  · exact ⟨by norm_num, by norm_num⟩
  · exact .inr (.inl rfl)

/-- Five thousand parts per million are read back as 327.67. -/
theorem tds_not_read_back :
    ¬ ∀ data : Reading, OnEarth data → (∀ column value, data.get column = some value → Declared column value) →
      (∀ column, ((decode (encode data)) (.column column)).isSome = (data.get column).isSome) ∧
      ∀ column value received, data.get column = some value →
        decode (encode data) (.column column) = some received → |received - value| ≤ step column / 2 := by
  intro claimed
  have onEarth : OnEarth { tdsPpm := some 5000 } := by
    constructor <;> intro value present <;> cases present
  have declared : ∀ column value, Reading.get { tdsPpm := some 5000 } column = some value →
      Declared column value := by
    intro column value present
    cases column <;> cases present
    exact ⟨by norm_num, by norm_num⟩
  have decoded : decode (encode { tdsPpm := some 5000 }) (.column .tdsPpm) = some (32767 / 100) := by
    decide +kernel
  have near := (claimed _ onEarth declared).2 .tdsPpm 5000 (32767 / 100) rfl decoded
  have far : ¬ |(32767 / 100 : Rat) - 5000| ≤ step .tdsPpm / 2 := by decide +kernel
  exact far near

end Wqm1.Radio.Cayenne
