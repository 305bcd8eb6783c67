import Wqm1.Sensing.Drift

/-! The sensor monitor: the flatline window of each sensor, its stuck flag, spikes
and drift, and the sensors whose rules are suspended. -/

set_option autoImplicit false

namespace Wqm1.Sensing

open Wqm1.Library.Window

variable {α : Type} [Field α] [LinearOrder α]

namespace Sensor

/-- The sensors in the order of `FIELD_TO_SENSOR`. -/
def all : List Sensor :=
  [ph, tds, turbidity, temperature, orp, chlorine, conductivity, salinity, flow]

/-- The reading column of the sensor. -/
def field : Sensor → String
  | ph => "ph"
  | tds => "tds_ppm"
  | turbidity => "turbidity_ntu"
  | temperature => "temp_c"
  | orp => "orp_mv"
  | chlorine => "chlorine_mgl"
  | conductivity => "conductivity_uscm"
  | salinity => "salinity_ppt"
  | flow => "flow_rate_gpm"

def noiseFloor : Sensor → α
  | ph => (2 : Nat) / (100 : Nat)
  | tds => (5 : Nat)
  | turbidity => 1
  | temperature => (5 : Nat) / (100 : Nat)
  | orp => (2 : Nat)
  | chlorine => (5 : Nat) / (1000 : Nat)
  | conductivity => (5 : Nat) / (10 : Nat)
  | salinity => (5 : Nat) / (1000 : Nat)
  | flow => 1 / (1000 : Nat)

/-- `sensor in NO_FLATLINE`. -/
def noFlatline (sensor : Sensor) : Bool := sensor = flow

theorem mem_all (sensor : Sensor) : sensor ∈ all := by
  cases sensor <;> decide

end Sensor

structure Settings (α : Type) where
  flatlineWindowMin : Nat
  spikeZThreshold : α
  driftCheckEnabled : Bool
deriving DecidableEq

def Settings.windowS (settings : Settings α) : α := settings.flatlineWindowMin * 60

/-- A stored reading: its columns, each with a number or null. -/
abbrev Reading (α : Type) : Type := String → Option (Option α)

structure Entry (α : Type) where
  time : α
  value : Option α
deriving DecidableEq

inductive Stuck where
  | flat
  | noData
deriving DecidableEq

def windowMax : Nat := 4096
def spikeRateLimitS : Nat := 30 * 60
def spikeMinSamples : Nat := 10
def madZScale : α := 6745 / 10000

/-- What the monitor keeps of one sensor besides its drift. -/
structure Channel (α : Type) where
  window : List (Entry α)
  stuck : Option Stuck
  lastSpike : Option α
  lastSpikeEmit : Option α
deriving DecidableEq

/-- The events raised. A standard deviation is carried as its square; the texts of an
event are functions of what it carries. -/
inductive Event (α : Type) where
  | sensorRecovered (sensor : Sensor) (previous : Stuck)
  | sensorStuck (sensor : Sensor) (kind : Stuck) (windowMin : Nat) (variance : Option α) (noiseFloor : α)
  | anomalySpike (sensor : Sensor) (value z median mad : α)
  | calibrationDrift (sensor : Sensor) (drift : Drift α)
deriving DecidableEq

/-- The square of `statistics.pstdev`. -/
def pvariance (values : List α) : α :=
  let mean := values.sum / values.length
  (values.map fun value => (value - mean) ^ 2).sum / values.length

namespace Channel

def values (channel : Channel α) : List α := channel.window.filterMap Entry.value

/-- The window with one more entry, pruned to the last `windowS` seconds. -/
def enter (now : α) (value : Option α) (windowS : α) (window : List (Entry α)) : List (Entry α) :=
  prune Entry.time (now - windowS) (appendBounded windowMax window ⟨now, value⟩)

/-- `_check_stuck`. -/
def checkStuck (settings : Settings α) (sensor : Sensor) (channel : Channel α) :
    Channel α × List (Event α) :=
  let floor : α := sensor.noiseFloor
  let values := channel.values
  match channel.stuck with
  | some kind =>
    let recovered :=
      match kind with
      | .noData => (channel.window.getLast?.bind Entry.value).isSome
      | .flat => decide (2 ≤ values.length) && decide (floor ^ 2 ≤ pvariance values)
    if recovered then ({ channel with stuck := none }, [.sensorRecovered sensor kind]) else (channel, [])
  | none =>
    match channel.window.head?, channel.window.getLast? with
    | some first, some last =>
      if last.time - first.time < settings.windowS then (channel, [])
      else if values = [] then
        ({ channel with stuck := some .noData },
          [.sensorStuck sensor .noData settings.flatlineWindowMin none floor])
      else
        let variance := if 2 ≤ values.length then pvariance values else 0
        if floor ^ 2 ≤ variance ∨ sensor.noFlatline then (channel, [])
        else
          ({ channel with stuck := some .flat },
            [.sensorStuck sensor .flat settings.flatlineWindowMin (some variance) floor])
    | _, _ => (channel, [])

/-- `_check_spike`. -/
def checkSpike (settings : Settings α) (sensor : Sensor) (now value : α) (channel : Channel α) :
    Channel α × List (Event α) :=
  if channel.stuck.isSome then (channel, [])
  else
    let values := channel.values
    if values.length < spikeMinSamples then (channel, [])
    else
      let middle := median values
      let mad := median (values.map fun value => |value - middle|)
      let madEffective := max mad (sensor.noiseFloor * ((2 : Nat) : α)⁻¹)
      let z := madZScale * (value - middle) / madEffective
      if |z| < settings.spikeZThreshold then (channel, [])
      else if channel.lastSpikeEmit.any fun last => decide (now - last < spikeRateLimitS) then
        ({ channel with lastSpike := some now }, [])
      else
        ({ channel with lastSpike := some now, lastSpikeEmit := some now },
          [.anomalySpike sensor value z middle mad])

end Channel

structure Monitor (α : Type) where
  channels : Sensor → Channel α
  drifts : Sensor → DriftState α

namespace Monitor

def start : Monitor α := ⟨fun _ => ⟨[], none, none, none⟩, fun _ => .new⟩

/-- One column of `SensorMonitor.observe`. -/
def observeSensor [FloorRing α] (settings : Settings α) (now : α) (sensor : Sensor) (value : Option α)
    (monitor : Monitor α) : Monitor α × List (Event α) :=
  let entered := { monitor.channels sensor with
    window := Channel.enter now value settings.windowS (monitor.channels sensor).window }
  let wasStuck := entered.stuck.isSome
  let (checked, stuckEvents) := entered.checkStuck settings sensor
  match value, wasStuck with
  | some value, false =>
    let (spiked, spikeEvents) := checked.checkSpike settings sensor now value
    let channels := Function.update monitor.channels sensor spiked
    if settings.driftCheckEnabled then
      let (drift, found) := (monitor.drifts sensor).observe sensor now value
      (⟨channels, Function.update monitor.drifts sensor drift⟩,
        stuckEvents ++ spikeEvents ++ (found.map (.calibrationDrift sensor)).toList)
    else (⟨channels, monitor.drifts⟩, stuckEvents ++ spikeEvents)
  | _, _ => (⟨Function.update monitor.channels sensor checked, monitor.drifts⟩, stuckEvents)

/-- One turn of the loop in `SensorMonitor.observe`: a column that is absent is skipped. -/
def observeColumn [FloorRing α] (settings : Settings α) (now : α) (reading : Reading α)
    (reached : Monitor α × List (Event α)) (sensor : Sensor) : Monitor α × List (Event α) :=
  match reading sensor.field with
  | none => reached
  | some value =>
    let (observed, raised) := reached.1.observeSensor settings now sensor value
    (observed, reached.2 ++ raised)

def observe [FloorRing α] (settings : Settings α) (now : α) (reading : Reading α) (monitor : Monitor α) :
    Monitor α × List (Event α) :=
  Sensor.all.foldl (observeColumn settings now reading) (monitor, [])

/-- `suspended_sensors`. -/
def suspendedSensors (monitor : Monitor α) : List Sensor :=
  Sensor.all.filter fun sensor => (monitor.channels sensor).stuck = some .noData

omit [Field α] [LinearOrder α] in
theorem mem_suspendedSensors {monitor : Monitor α} {sensor : Sensor} :
    sensor ∈ monitor.suspendedSensors ↔ (monitor.channels sensor).stuck = some .noData := by
  simp [suspendedSensors, Sensor.mem_all]

end Monitor

end Wqm1.Sensing
