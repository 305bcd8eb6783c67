import Wqm1.Control.Rules
import Wqm1.Library.Yaml

/-! The water profile that is installed from the cloud: its baselines of any shape, the cache
file, and the thresholds that the adaptive rules take from them. -/

set_option autoImplicit false

namespace Wqm1.Control.WaterProfile

open Wqm1.Library

/-- What a profile of an odd shape makes the engine raise. -/
inductive ProfileError where
  | attributeError
  | typeError
  | keyError
  | overflowError
deriving DecidableEq

abbrev Profile := Dict String Yaml

/-- The `params` of a profile; what is no object counts as none. -/
def paramsOf (profile : Profile) : Dict YamlKey Yaml :=
  match profile.get "params" with
  | some (.mapping entries) => Dict.ofList entries
  | _ => .empty

/-- `v.get("learning")` of every entry. -/
def walk : List (YamlKey × Yaml) → Except ProfileError Unit
  | [] => .ok ()
  | (_, .mapping _) :: rest => walk rest
  | _ :: _ => .error .attributeError

/-- The baselines in force and the cached profile. -/
structure ProfileState where
  baselines : Dict YamlKey Yaml := .empty
  cache : Option Profile := none

namespace ProfileState

variable (state : ProfileState)

/-- The baselines are set before the entries are walked. -/
def setBaselines (profile : Profile) : ProfileState × Except ProfileError Unit :=
  ({ state with baselines := paramsOf profile }, walk (paramsOf profile).entries)

/-- `_apply_water_profile`; `written` says whether the write of the cache succeeds. -/
def applyWaterProfile (profile : Profile) (persist written : Bool) : ProfileState :=
  match state.setBaselines profile with
  | (installed, .error _) => installed
  | (installed, .ok ()) => if persist && written then { installed with cache := some profile } else installed

/-- A new process reads the cache back. -/
def restart : ProfileState :=
  match state.cache with
  | none => { state with baselines := .empty }
  | some profile => applyWaterProfile { state with baselines := .empty } profile false false

end ProfileState

/-- `len(value)`. -/
def size : Yaml → Option Nat
  | .text word => some word.length
  | .seq items => some items.length
  | .mapping entries => some (Dict.ofList entries).entries.length
  | _ => none

/-- `buckets[hour]` of what is longer than `hour`. -/
def item (buckets : Yaml) (hour : Nat) : Except ProfileError Yaml :=
  match buckets with
  | .text word => .ok (.text (String.ofList (word.toList[hour]?).toList))
  | .seq items => .ok (items.getD hour .null)
  | .mapping entries =>
      match (Dict.ofList entries).get (.int hour) with
      | some found => .ok found
      | none => .error .keyError
  | _ => .error .typeError

/-- The statistics of the hour, where there are any. -/
def bucketAt (buckets : Option Yaml) (hour : Nat) : Except ProfileError (Option Yaml) :=
  let buckets := match buckets with
    | some value => if value.truthy then value else .seq []
    | none => .seq []
  match size buckets with
  | none => .error .typeError
  | some count =>
      if hour < count then (item buckets hour).map fun found => if found.truthy then some found else none
      else .ok none

/-- `float(value)` where `isinstance(value, int | float)`. -/
def asFloat : Yaml → Option (Except ProfileError Double)
  | .bool value => some (.ok (.finite (if value then 1 else 0)))
  | .int number =>
      some (match Double.ofInt number with
        | some converted => .ok converted
        | none => .error .overflowError)
  | .float number => some (.ok number)
  | _ => none

/-- `stats.get("mad") or 0`, as the factor of a product of floats. -/
def madOf (stats : Dict YamlKey Yaml) : Except ProfileError Double :=
  match stats.get (.text "mad") with
  | none => .ok (.finite 0)
  | some mad => if mad.truthy then (asFloat mad).getD (.error .typeError) else .ok (.finite 0)

def scaled (number : Double) (factor : Rat) : Double :=
  match number with
  | .finite value => .finite (value * factor)
  | other => other

/-- `max(number, floor)`. -/
def atLeast (number : Double) (floor : Rat) : Double := if number.lt floor then .finite floor else number

def plus : Double → Double → Double
  | .finite left, .finite right => .finite (left + right)
  | .infinite left, .infinite right => if left = right then .infinite left else .nan
  | .infinite left, .finite _ => .infinite left
  | .finite _, .infinite right => .infinite right
  | _, _ => .nan

def minus : Double → Double
  | .finite value => .finite (-value)
  | .infinite negative => .infinite !negative
  | .nan => .nan

/-- The edge of the band around the median. -/
def band (rule : Rule) (width : Rat) (median mad : Double) : Double :=
  let sigma := atLeast (scaled mad madToSigma) ((madFloors.lookup rule.sensor).getD (1 / 2))
  if rule.operator = some .gt ∨ rule.operator = some .ge then plus median (scaled sigma width)
  else plus median (minus (scaled sigma width))

def statsThreshold (rule : Rule) (width : Rat) (stats : Dict YamlKey Yaml) : Except ProfileError (Option Double) :=
  match (stats.get (.text "m")).bind asFloat with
  | none => .ok none
  | some median => (madOf stats).bind fun mad => median.map fun median => some (band rule width median mad)

def baselineThreshold (rule : Rule) (width : Rat) (hour : Nat) (baseline : Dict YamlKey Yaml) :
    Except ProfileError (Option Double) :=
  if (baseline.get (.text "learning")).any Yaml.truthy then .ok none
  else
    (bucketAt (baseline.get (.text "buckets")) hour).bind fun bucket =>
      match bucket.or (baseline.get (.text "overall")) with
      | some (.mapping entries) => statsThreshold rule width (Dict.ofList entries)
      | _ => .ok none

/-- `_resolve_threshold`, for baselines of any shape. -/
def resolveThreshold (baselines : Dict YamlKey Yaml) (rule : Rule) (hour : Nat) : Except ProfileError (Option Double) :=
  match rule.adaptiveK with
  | none => .ok (rule.threshold.map .finite)
  | some width =>
    match baselines.get (.text (paramOf rule.sensor)) with
    | some (.mapping entries) => baselineThreshold rule width hour (Dict.ofList entries)
    | _ => .ok none

/-- The rules whose threshold a cycle asks for. -/
def asked (engine : RulesEngine) (cycle : Cycle) : List Rule :=
  if engine.isInSchedule cycle.wall = false ∨ engine.manualOverride = true then []
  else
    engine.rules.filter fun rule => decide (rule.relay ∉ cycle.reserved) &&
      decide (rule.sensor ∉ engine.suspendedColumns) && (cycle.reading rule.sensor).isSome && rule.operator.isSome

/-- The thresholds that `evaluate` resolves, one rule after the other. -/
def thresholds (baselines : Dict YamlKey Yaml) (engine : RulesEngine) (cycle : Cycle) :
    Except ProfileError (List (Option Double)) :=
  (asked engine cycle).mapM fun rule => resolveThreshold baselines rule cycle.wall.utcHour

end Wqm1.Control.WaterProfile
