import Mathlib
import Wqm1.Control.Relay

/-! The irrigation hold: one relay that pauses an irrigation controller while a water
condition lasts. Relay writes may raise. -/

set_option autoImplicit false

namespace Wqm1.Control

inductive Comparison where
  | ge | gt | lt
deriving DecidableEq

def Comparison.holds : Comparison → Rat → Rat → Prop
  | .ge, value, threshold => threshold ≤ value
  | .gt, value, threshold => threshold < value
  | .lt, value, threshold => value < threshold

instance (comparison : Comparison) (value threshold : Rat) : Decidable (comparison.holds value threshold) := by
  cases comparison <;> unfold Comparison.holds <;> infer_instance

/-- A column, how it is compared, and with what. -/
structure Threshold where
  column : String
  op : Comparison
  threshold : Rat
deriving DecidableEq

inductive OnFault where
  | release | hold
deriving DecidableEq

/-- The settings that the hold reads. A number is missing when it cannot be converted or
is not finite, and a fault mode when it is neither of the two. -/
structure HoldSettings where
  enabled : Bool
  relay : Int
  turbidityNtu : Option Rat
  tdsPpm : Option Rat
  phMin : Option Rat
  phMax : Option Rat
  flowGpmMax : Option Rat
  tripSamples : Int
  releaseMin : Option Rat
  onFault : Option OnFault
  interlockRelay : Int

structure HoldConfig where
  enabled : Bool := false
  relay : Int := 0
  thresholds : List Threshold := []
  tripSamples : Nat := 2
  releaseS : Rat := 600
  onFault : OnFault := .release
  interlockRelay : Int := 0
deriving DecidableEq

namespace HoldConfig

def fromSettings (settings : HoldSettings) : HoldConfig where
  enabled := settings.enabled
  relay := settings.relay
  thresholds := ([⟨"turbidity_ntu", .ge, settings.turbidityNtu.getD 0⟩, ⟨"tds_ppm", .ge, settings.tdsPpm.getD 0⟩,
    ⟨"ph", .lt, settings.phMin.getD 0⟩, ⟨"ph", .gt, settings.phMax.getD 0⟩,
    ⟨"flow_rate_gpm", .ge, settings.flowGpmMax.getD 0⟩] : List Threshold).filter fun condition =>
      decide (0 < condition.threshold)
  tripSamples := (max 1 (if settings.tripSamples = 0 then 1 else settings.tripSamples)).toNat
  releaseS := max 0 (settings.releaseMin.getD 10 * 60)
  onFault := settings.onFault.getD .release
  interlockRelay := settings.interlockRelay

def conflict (cfg : HoldConfig) : Bool :=
  cfg.enabled && decide (isChannel cfg.relay) && cfg.relay == cfg.interlockRelay

def armed (cfg : HoldConfig) : Bool :=
  cfg.enabled && decide (isChannel cfg.relay) && !cfg.conflict

theorem isChannel_of_armed {cfg : HoldConfig} (armed : cfg.armed = true) : isChannel cfg.relay := by
  unfold HoldConfig.armed at armed
  simp only [Bool.and_eq_true, decide_eq_true_eq] at armed
  exact armed.1.2

end HoldConfig

structure HoldReason where
  sensor : String
  value : Rat
  threshold : Rat
deriving DecidableEq

inductive HoldFault where
  | released | held
deriving DecidableEq

structure HoldState where
  enabled : Bool
  relay : Int
  active : Bool
  since : Option Rat
  reasons : List HoldReason
  fault : Option HoldFault
  relayConflict : Bool
deriving DecidableEq

structure IrrigationHold where
  relays : Bool
  cfg : HoldConfig := {}
  configured : Bool := false
  holding : Bool := false
  driven : Bool := false
  drivenChannel : Int := 0
  tripCount : Nat := 0
  clearSince : Option Rat := none
  since : Option Rat := none
  reasons : List HoldReason := []
  fault : Option HoldFault := none
  lastSuspended : List String := []

/-- The columns of one cycle that hold a finite number. -/
abbrev CycleReading := String → Option Rat

def columnToSensor : List (String × String) :=
  [("turbidity_ntu", "turbidity"), ("tds_ppm", "tds"), ("ph", "ph"), ("flow_rate_gpm", "flow")]

namespace IrrigationHold

def reset (hold : IrrigationHold) : IrrigationHold :=
  { hold with
    holding := false
    tripCount := 0
    clearSince := none
    since := none
    reasons := []
    fault := none }

def owns (hold : IrrigationHold) (channel : Int) : Bool := hold.cfg.armed && channel == hold.cfg.relay

def reservedChannels (hold : IrrigationHold) : List Int := if hold.cfg.armed then [hold.cfg.relay] else []

def state (hold : IrrigationHold) : HoldState where
  enabled := hold.cfg.enabled
  relay := hold.cfg.relay
  active := hold.driven
  since := if hold.driven then hold.since else none
  reasons := if hold.driven then hold.reasons else []
  fault := if hold.cfg.armed then hold.fault else none
  relayConflict := hold.cfg.conflict

/-- The value of a condition's column, unless the probe cannot be trusted. -/
def trusted (hold : IrrigationHold) (reading : CycleReading) (condition : Threshold) : Option Rat :=
  if condition.column ∈ hold.lastSuspended ∨
      ∃ sensor ∈ columnToSensor.lookup condition.column, sensor ∈ hold.lastSuspended then none
  else reading condition.column

def tripping (hold : IrrigationHold) (reading : CycleReading) : List HoldReason :=
  hold.cfg.thresholds.filterMap fun condition =>
    (hold.trusted reading condition).bind fun value =>
      if condition.op.holds value condition.threshold then
        some ⟨condition.column, value, condition.threshold⟩
      else none

def unknown (hold : IrrigationHold) (reading : CycleReading) : Bool :=
  hold.cfg.thresholds.any fun condition => (hold.trusted reading condition).isNone

/-- A cycle in which a condition trips, or a probe is faulted and the hold is to stay. -/
def trip (hold : IrrigationHold) (tripping : List HoldReason) (unknown : Bool) (wall : Rat) : IrrigationHold :=
  let counted := { hold with
    tripCount := hold.tripCount + 1
    clearSince := none
    reasons := if tripping = [] then hold.reasons else tripping }
  let engaged := if hold.holding = false ∧ hold.cfg.tripSamples ≤ counted.tripCount then
      { counted with holding := true, since := some wall }
    else counted
  { engaged with fault := if unknown && engaged.holding then some .held else none }

/-- A cycle in which every condition is clear. -/
def clear (hold : IrrigationHold) (now : Rat) : IrrigationHold :=
  let cleared := { hold with tripCount := 0, fault := none }
  if hold.holding then
    let clearSince := hold.clearSince.getD now
    let waiting := { cleared with clearSince := some clearSince }
    if hold.cfg.releaseS ≤ now - clearSince then waiting.reset else waiting
  else cleared

/-- What the conditions of one cycle make of an armed hold. -/
def judge (hold : IrrigationHold) (reading : CycleReading) (now wall : Rat) : IrrigationHold :=
  let tripping := hold.tripping reading
  let unknown := hold.unknown reading
  if unknown = true ∧ hold.cfg.onFault = .release then { hold.reset with fault := some .released }
  else if tripping ≠ [] ∨ unknown = true then hold.trip tripping unknown wall
  else hold.clear now

end IrrigationHold

/-- The hold and the coils. `outcomes` says which of the coming writes succeed (all those
it does not list do), `failed` whether one of the last call raised; `drove` is for the
statements only: the channels that the hold was the last to drive. -/
structure HoldUnit where
  hold : IrrigationHold
  coils : Int → Bool := fun _ => false
  outcomes : List Bool := []
  failed : Bool := false
  drove : Int → Bool := fun _ => false

namespace HoldUnit

def reset (unit : HoldUnit) : HoldUnit := { unit with hold := unit.hold.reset }

def target (unit : HoldUnit) (on : Bool) : Int :=
  if on then unit.hold.cfg.relay
  else if unit.hold.drivenChannel = 0 then unit.hold.cfg.relay
  else unit.hold.drivenChannel

def drive (unit : HoldUnit) (on : Bool) : HoldUnit :=
  let channel := unit.target on
  if unit.hold.relays = true ∧ isChannel channel then
    if unit.outcomes.headD true then
      { unit with
        hold := { unit.hold with driven := on, drivenChannel := if on then channel else 0 }
        coils := Function.update unit.coils channel on
        outcomes := unit.outcomes.tail
        drove := Function.update unit.drove channel true }
    else { unit with outcomes := unit.outcomes.tail, failed := true }
  else unit

def begin (unit : HoldUnit) (outcomes : List Bool) : HoldUnit :=
  { unit with outcomes := outcomes, failed := false }

def configure (unit : HoldUnit) (settings : HoldSettings) (outcomes : List Bool) : HoldUnit :=
  let cfg := HoldConfig.fromSettings settings
  let old := unit.hold.cfg
  let unit := unit.begin outcomes
  if unit.hold.configured = true ∧ cfg = old then unit
  else
    let unit := { unit with hold := { unit.hold with cfg := cfg, configured := true } }
    let unit := if unit.hold.driven = true ∧ (cfg.armed = false ∨ cfg.relay ≠ unit.hold.drivenChannel) then
        (unit.drive false).reset
      else if cfg.armed = false ∨ cfg.relay ≠ old.relay then unit.reset
      else unit
    if cfg.armed = true ∧ (old.armed = false ∨ cfg.relay ≠ old.relay) then unit.drive false else unit

/-- The hold's report is its `state` afterwards. -/
def evaluate (unit : HoldUnit) (reading : CycleReading) (suspended : Option (List String)) (now wall : Rat)
    (outcomes : List Bool) : HoldUnit :=
  let unit := unit.begin outcomes
  let unit := { unit with
    hold := { unit.hold with lastSuspended := suspended.getD unit.hold.lastSuspended } }
  let unit := if unit.hold.driven = true ∧
      (unit.hold.cfg.armed = false ∨ unit.hold.drivenChannel ≠ unit.hold.cfg.relay) then unit.drive false
    else unit
  if unit.hold.cfg.armed then
    let unit := { unit with hold := unit.hold.judge reading now wall }
    if unit.hold.holding ≠ unit.hold.driven then unit.drive unit.hold.holding else unit
  else unit

end HoldUnit

inductive HoldEvent where
  | configure (settings : HoldSettings) (outcomes : List Bool)
  | evaluate (reading : CycleReading) (suspended : Option (List String)) (now wall : Rat) (outcomes : List Bool)
  | other (channel : Int) (state : Bool)

namespace HoldUnit

/-- A unit with a relay controller. -/
def start : HoldUnit := { hold := { relays := true } }

/-- Nobody else drives the channel that the hold is armed on. -/
def step (unit : HoldUnit) : HoldEvent → Option HoldUnit
  | .configure settings outcomes => some (unit.configure settings outcomes)
  | .evaluate reading suspended now wall outcomes =>
    some (unit.evaluate reading suspended now wall outcomes)
  | .other channel state =>
    if unit.hold.owns channel then none
    else some { unit with
      coils := Function.update unit.coils channel state
      drove := Function.update unit.drove channel false }

abbrev Reachable (permits : HoldUnit → HoldEvent → Prop) (unit : HoldUnit) : Prop :=
  Library.Events.Reaches step permits start unit

end HoldUnit

end Wqm1.Control
