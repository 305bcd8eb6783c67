import Wqm1.Library.Double
import Wqm1.Radio.Region

/-! The Cayenne LPP encoder: one reading as the payload of an uplink. -/

set_option autoImplicit false

namespace Wqm1.Radio

open Wqm1.Library

/-- One row of the reading buffer, as far as the encoder looks at it. -/
structure Reading where
  tempC : Option Rat := none
  ph : Option Rat := none
  tdsPpm : Option Rat := none
  turbidityNtu : Option Rat := none
  orpMv : Option Rat := none
  chlorineMgl : Option Rat := none
  conductivityUscm : Option Rat := none
  salinityPpt : Option Rat := none
  flowRateGpm : Option Rat := none
  flowTotalGal : Option Rat := none
  lat : Option Rat := none
  lon : Option Rat := none
  altM : Option Rat := none
deriving DecidableEq

namespace Cayenne

def lppTemperature : UInt8 := 0x67
def lppAnalogInput : UInt8 := 0x02
def lppGps : UInt8 := 0x88

def chTemperature : UInt8 := 1
def chPh : UInt8 := 2
def chTds : UInt8 := 3
def chTurbidity : UInt8 := 4
def chOrp : UInt8 := 5
def chGps : UInt8 := 6
def chChlorine : UInt8 := 10
def chConductivity : UInt8 := 11
def chSalinity : UInt8 := 12
def chFlowRate : UInt8 := 13
def chFlowTotal : UInt8 := 14
def galPerKgal : Rat := 1000
def usPerMs : Rat := 1000

/-- The low `size` bytes of a two's complement number, most significant first. -/
def packBE (size : Nat) (value : Int) : Bytes :=
  (packLE size (value % 256 ^ size).toNat).reverse

/-- One scalar channel, when the reading carries its column. -/
def scalar (channel lppType : UInt8) (scaled : Option Rat) : Bytes :=
  scaled.elim [] fun value =>
    [channel, lppType] ++ packBE 2 (max (-32768) (min 32767 (roundHalfEven value)))

/-- The GPS channel, when the reading carries both coordinates. -/
def gps (lat lon altM : Option Rat) : Bytes :=
  match lat, lon with
  | some lat, some lon =>
      [chGps, lppGps] ++ packBE 3 (roundHalfEven (lat * 10000)) ++
        packBE 3 (roundHalfEven (lon * 10000)) ++ packBE 3 (roundHalfEven (altM.getD 0 * 100))
  | _, _ => []

def encode (data : Reading) : Bytes :=
  scalar chTemperature lppTemperature (data.tempC.map (· * 10)) ++
  scalar chPh lppAnalogInput (data.ph.map (· * 100)) ++
  scalar chTds lppAnalogInput (data.tdsPpm.map (· * 100)) ++
  scalar chTurbidity lppAnalogInput (data.turbidityNtu.map (· * 100)) ++
  scalar chOrp lppAnalogInput (data.orpMv.map (· * 100)) ++
  scalar chChlorine lppAnalogInput (data.chlorineMgl.map (· * 100)) ++
  scalar chConductivity lppAnalogInput (data.conductivityUscm.map (· / usPerMs * 100)) ++
  scalar chSalinity lppAnalogInput (data.salinityPpt.map (· * 100)) ++
  scalar chFlowRate lppAnalogInput (data.flowRateGpm.map (· * 100)) ++
  scalar chFlowTotal lppAnalogInput (data.flowTotalGal.map (· / galPerKgal * 100)) ++
  gps data.lat data.lon data.altM

/-- A product of floats is infinite from half a unit below the end of their range on, and
`round` raises on an infinity. -/
def overflows (scaled : Option Rat) : Bool := scaled.any fun value => decide ((Double.overflow : Rat) ≤ |value|)

/-- `encode` raises: the altitude is scaled only with a position. -/
def encodeOverflows (data : Reading) : Bool :=
  overflows (data.tempC.map (· * 10)) ||
  overflows (data.ph.map (· * 100)) ||
  overflows (data.tdsPpm.map (· * 100)) ||
  overflows (data.turbidityNtu.map (· * 100)) ||
  overflows (data.orpMv.map (· * 100)) ||
  overflows (data.chlorineMgl.map (· * 100)) ||
  overflows (data.conductivityUscm.map (· / usPerMs * 100)) ||
  overflows (data.salinityPpt.map (· * 100)) ||
  overflows (data.flowRateGpm.map (· * 100)) ||
  overflows (data.flowTotalGal.map (· / galPerKgal * 100)) ||
  (data.lat.isSome && data.lon.isSome && (overflows (data.lat.map (· * 10000)) ||
    overflows (data.lon.map (· * 10000)) || overflows (data.altM.map (· * 100))))

/-- `encode` on the floats that the columns of the buffer hold. -/
def encodeFloats (data : Reading) : Option Bytes := if encodeOverflows data then none else some (encode data)

/-- The scalar columns a reading carries. -/
def scalarColumns (data : Reading) : Nat :=
  ([data.tempC, data.ph, data.tdsPpm, data.turbidityNtu, data.orpMv, data.chlorineMgl,
    data.conductivityUscm, data.salinityPpt, data.flowRateGpm, data.flowTotalGal].filter
    Option.isSome).length

def hasPosition (data : Reading) : Bool := data.lat.isSome && data.lon.isSome

@[simp] theorem length_packBE (size : Nat) (value : Int) : (packBE size value).length = size := by
  simp [packBE]

theorem length_scalar (channel lppType : UInt8) (scaled : Option Rat) :
    (scalar channel lppType scaled).length = if scaled.isSome then 4 else 0 := by
  cases scaled <;> simp [scalar]

theorem length_gps (lat lon altM : Option Rat) :
    (gps lat lon altM).length = if lat.isSome && lon.isSome then 11 else 0 := by
  cases lat <;> cases lon <;> simp [gps]

/-- Four bytes for each scalar column and eleven for a position. -/
theorem length_encode (data : Reading) :
    (encode data).length = 4 * scalarColumns data + if hasPosition data then 11 else 0 := by
  have columns (values : List (Option Rat)) : 4 * (values.filter Option.isSome).length =
      (values.map fun value => if value.isSome then 4 else 0).sum := by
    induction values with
    | nil => rfl
    | cons value rest ih => cases value <;> simp [← ih]; omega
  rw [scalarColumns, columns, hasPosition]
  simp only [encode, List.length_append, length_scalar, length_gps, Option.isSome_map, List.map_cons,
    List.map_nil, List.sum_cons, List.sum_nil]
  omega

end Cayenne

end Wqm1.Radio
