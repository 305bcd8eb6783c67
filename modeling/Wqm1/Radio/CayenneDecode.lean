import Mathlib.Tactic.FieldSimp
import Mathlib.Tactic.Linarith
import Wqm1.Radio.Cayenne

/-! The Cayenne LPP decoder, and what it makes of an encoded reading. -/

set_option autoImplicit false

namespace Wqm1.Radio

open Wqm1.Library

inductive Column where
  | tempC | ph | tdsPpm | turbidityNtu | orpMv | chlorineMgl | conductivityUscm | salinityPpt
  | flowRateGpm | flowTotalGal | lat | lon | altM
deriving DecidableEq

namespace Reading

def get (data : Reading) : Column → Option Rat
  | .tempC => data.tempC
  | .ph => data.ph
  | .tdsPpm => data.tdsPpm
  | .turbidityNtu => data.turbidityNtu
  | .orpMv => data.orpMv
  | .chlorineMgl => data.chlorineMgl
  | .conductivityUscm => data.conductivityUscm
  | .salinityPpt => data.salinityPpt
  | .flowRateGpm => data.flowRateGpm
  | .flowTotalGal => data.flowTotalGal
  | .lat => data.lat
  | .lon => data.lon
  | .altM => data.altM

end Reading

namespace Cayenne

/-- A key of a decoded reading: a column, or `ch` and the number of the channel. -/
inductive Key where
  | column (column : Column)
  | ch (channel : UInt8)
deriving DecidableEq

abbrev Decoded := Key → Option Rat

def channelToKey : List (UInt8 × Column) :=
  [(chTemperature, .tempC), (chPh, .ph), (chTds, .tdsPpm), (chTurbidity, .turbidityNtu), (chOrp, .orpMv),
    (chChlorine, .chlorineMgl), (chConductivity, .conductivityUscm), (chSalinity, .salinityPpt),
    (chFlowRate, .flowRateGpm), (chFlowTotal, .flowTotalGal)]

def keyOf (channel : UInt8) : Key := (channelToKey.lookup channel).elim (.ch channel) .column

/-- The two's complement number in big-endian bytes. -/
def unpackBE (data : Bytes) : Int :=
  let value := unpackLE data.reverse
  if 2 ^ (8 * data.length - 1) ≤ value then value - 2 ^ (8 * data.length) else value

def analogValue (channel : UInt8) (raw : Int) : Rat :=
  let value : Rat := raw / 100
  if channel = chConductivity then value * usPerMs
  else if channel = chFlowTotal then value * galPerKgal
  else value

def Decoded.set (result : Decoded) (key : Key) (value : Rat) : Decoded :=
  Function.update result key (some value)

/-- The dictionary after a channel that the payload may lack. -/
def Decoded.put (result : Decoded) (key : Key) (value : Option Rat) : Decoded :=
  value.elim result (result.set key)

def decodeFrom : Bytes → Decoded → Decoded
  | channel :: lppType :: rest, result =>
    if lppType = lppTemperature then
      match rest with
      | high :: low :: rest => decodeFrom rest (result.set (keyOf channel) (unpackBE [high, low] / 10))
      | _ => result
    else if lppType = lppAnalogInput then
      match rest with
      | high :: low :: rest =>
        decodeFrom rest (result.set (keyOf channel) (analogValue channel (unpackBE [high, low])))
      | _ => result
    else if lppType = lppGps then
      match rest with
      | lat2 :: lat1 :: lat0 :: lon2 :: lon1 :: lon0 :: alt2 :: alt1 :: alt0 :: rest =>
        decodeFrom rest (((result.set (.column .lat) (unpackBE [lat2, lat1, lat0] / 10000)).set
          (.column .lon) (unpackBE [lon2, lon1, lon0] / 10000)).set
          (.column .altM) (unpackBE [alt2, alt1, alt0] / 100))
      | _ => result
    else result
  | _, result => result

def decode (payload : Bytes) : Decoded := decodeFrom payload fun _ => none

theorem unpackBE_packBE {size : Nat} (positive : 0 < size) {value : Int}
    (low : -2 ^ (8 * size - 1) ≤ value) (high : value < 2 ^ (8 * size - 1)) :
    unpackBE (packBE size value) = value := by
  have double : (2 : Int) ^ (8 * size) = 2 * 2 ^ (8 * size - 1) := by
    rw [← pow_succ']
    congr 1
    omega
  have whole : (256 : Int) ^ size = 2 ^ (8 * size) := by
    rw [pow_mul]
    norm_num
  have packed : (unpackLE (packBE size value).reverse : Int) = value % 2 ^ (8 * size) := by
    rw [packBE, List.reverse_reverse, unpackLE_packLE]
    push_cast
    rw [whole, Int.toNat_of_nonneg (Int.emod_nonneg _ (by positivity)),
      Int.emod_emod_of_dvd _ (dvd_refl _)]
  have half : ((2 ^ (8 * size - 1) : Nat) : Int) = 2 ^ (8 * size - 1) := by push_cast; rfl
  unfold unpackBE
  rw [double] at packed
  simp only [length_packBE, packed, double]
  generalize (2 : Int) ^ (8 * size - 1) = bound at *
  cases lt_or_ge value 0 with
  | inl negative =>
    have shifted : value % (2 * bound) = value + 2 * bound := by
      rw [← Int.add_emod_right, Int.emod_eq_of_lt (by omega) (by omega)]
    rw [if_pos (by omega), shifted]
    omega
  | inr nonnegative =>
    have same : value % (2 * bound) = value := Int.emod_eq_of_lt nonnegative (by omega)
    rw [if_neg (by omega), same]

theorem packBE_two (value : Int) : ∃ high low, packBE 2 value = [high, low] :=
  ⟨_, _, rfl⟩

theorem packBE_three (value : Int) : ∃ high middle low, packBE 3 value = [high, middle, low] :=
  ⟨_, _, _, rfl⟩

/-- Saturation at 16 bits. -/
def saturated (value : Rat) : Int := max (-32768) (min 32767 (roundHalfEven value))

def scalarValue (channel lppType : UInt8) (raw : Int) : Rat :=
  if lppType = lppTemperature then raw / 10 else analogValue channel raw

theorem decodeFrom_scalar (channel lppType : UInt8) (scaled : Option Rat) (rest : Bytes)
    (known : lppType = lppTemperature ∨ lppType = lppAnalogInput) (result : Decoded) :
    decodeFrom (scalar channel lppType scaled ++ rest) result =
      decodeFrom rest (result.put (keyOf channel)
        (scaled.map fun value => scalarValue channel lppType (saturated value))) := by
  cases scaled with
  | none => rfl
  | some value =>
    obtain ⟨high, low, packed⟩ := packBE_two (saturated value)
    have unpacked : unpackBE [high, low] = saturated value := by
      rw [← packed]
      apply unpackBE_packBE
      · decide
      · unfold saturated
        omega
      · unfold saturated
        omega
    have bytes : scalar channel lppType (some value) ++ rest = channel :: lppType :: high :: low :: rest := by
      change ([channel, lppType] ++ packBE 2 (saturated value)) ++ rest = _
      rw [packed]
      rfl
    rw [bytes, decodeFrom]
    cases known with
    | inl temperature => simp only [temperature, scalarValue, ↓reduceIte, unpacked, Decoded.put, Option.map_some,
        Option.elim_some]
    | inr analog =>
      have other : lppAnalogInput ≠ lppTemperature := by decide
      simp only [analog, other, scalarValue, ↓reduceIte, unpacked, Decoded.put, Option.map_some,
        Option.elim_some]

/-- A number with room in 24 bits. -/
def fits24 (value : Int) : Prop := -2 ^ 23 ≤ value ∧ value < 2 ^ 23

theorem decodeFrom_gps {lat lon : Rat} {altM : Option Rat} (result : Decoded)
    (latFits : fits24 (roundHalfEven (lat * 10000))) (lonFits : fits24 (roundHalfEven (lon * 10000)))
    (altFits : fits24 (roundHalfEven (altM.getD 0 * 100))) :
    decodeFrom (gps (some lat) (some lon) altM) result =
      ((result.set (.column .lat) (roundHalfEven (lat * 10000) / 10000)).set
        (.column .lon) (roundHalfEven (lon * 10000) / 10000)).set
        (.column .altM) (roundHalfEven (altM.getD 0 * 100) / 100) := by
  have unpacked {value : Int} (fits : fits24 value) : unpackBE (packBE 3 value) = value :=
    unpackBE_packBE (by decide) fits.1 fits.2
  obtain ⟨lat2, lat1, lat0, latPacked⟩ := packBE_three (roundHalfEven (lat * 10000))
  obtain ⟨lon2, lon1, lon0, lonPacked⟩ := packBE_three (roundHalfEven (lon * 10000))
  obtain ⟨alt2, alt1, alt0, altPacked⟩ := packBE_three (roundHalfEven (altM.getD 0 * 100))
  have latRead := unpacked latFits
  have lonRead := unpacked lonFits
  have altRead := unpacked altFits
  rw [latPacked] at latRead
  rw [lonPacked] at lonRead
  rw [altPacked] at altRead
  have bytes : gps (some lat) (some lon) altM =
      [chGps, lppGps, lat2, lat1, lat0, lon2, lon1, lon0, alt2, alt1, alt0] := by
    simp only [gps, latPacked, lonPacked, altPacked]
    rfl
  have notTemperature : lppGps ≠ lppTemperature := by decide
  have notAnalog : lppGps ≠ lppAnalogInput := by decide
  rw [bytes, decodeFrom]
  simp only [notTemperature, notAnalog, ↓reduceIte, latRead, lonRead, altRead]
  rfl

theorem Decoded.put_apply (result : Decoded) (key other : Key) (value : Option Rat) :
    result.put key value other = if other = key then value.or (result other) else result other := by
  cases value with
  | none => simp [put]
  | some value =>
    by_cases same : other = key
    · subst same
      simp [put, set]
    · simp [put, set, same]

end Cayenne

end Wqm1.Radio
