import Wqm1.Library.Window

/-! Calibration drift of one sensor: hourly medians, the baseline captured from the
first of them and the rolling median compared with it. -/

set_option autoImplicit false

namespace Wqm1.Sensing

open Wqm1.Library.Window

variable {α : Type} [Field α] [LinearOrder α]

/-- `statistics.median` of a non-empty list. -/
def median (values : List α) : α :=
  let sorted := values.insertionSort (· ≤ ·)
  let middle := sorted.length / 2
  if sorted.length % 2 = 1 then sorted.getD middle 0
  else (sorted.getD (middle - 1) 0 + sorted.getD middle 0) / 2

inductive Sensor where
  | ph
  | tds
  | turbidity
  | temperature
  | orp
  | chlorine
  | conductivity
  | salinity
  | flow
deriving DecidableEq

inductive DriftThreshold (α : Type) where
  | abs (units : α)
  | rel (fraction : α)
deriving DecidableEq

def driftThreshold : Sensor → Option (DriftThreshold α)
  | .ph => some (.abs (3 / 10))
  | .tds => some (.rel (10 / 100))
  | .turbidity => some (.rel (15 / 100))
  | .temperature => none
  | .orp => some (.abs 30)
  | .chlorine => some (.abs (2 / 10))
  | .conductivity => some (.rel (10 / 100))
  | .salinity => some (.rel (10 / 100))
  | .flow => none

def baselineCaptureH : Nat := 24
def compareWindowH : Nat := 24
def historyH : Nat := 7 * 24
def bucketMax : Nat := 720
def eventIntervalS : Nat := 7 * 24 * 3600

/-- What `DriftTracker` keeps of one sensor. -/
structure DriftState (α : Type) where
  bucketHour : Option Int
  bucket : List α
  snapshots : List (α × α)
  capture : List α
  baseline : Option α
  lastEvent : Option α
  drifting : Bool
deriving DecidableEq

structure Drift (α : Type) where
  baseline : α
  current : α
  delta : α
  threshold : α
deriving DecidableEq

namespace DriftState

def new : DriftState α := ⟨none, [], [], [], none, none, false⟩

/-- `_finalize_bucket`, which is called only once an hour has been noted. -/
def finalizeBucket (hour : Int) (state : DriftState α) : DriftState α :=
  if state.bucket = [] then state
  else
    let med := median state.bucket
    let finalized := { state with
      snapshots := appendBounded historyH state.snapshots (((hour : α) + 1) * 3600, med)
      bucket := [] }
    if state.baseline.isNone then
      let capture := state.capture ++ [med]
      if baselineCaptureH ≤ capture.length then
        { finalized with baseline := some (median capture), capture := [] }
      else { finalized with capture := capture }
    else finalized

/-- `_check`. -/
def check (sensor : Sensor) (now : α) (state : DriftState α) : DriftState α × Option (Drift α) :=
  match driftThreshold sensor, state.baseline with
  | some spec, some baseline =>
    let window := (state.snapshots.filter fun snapshot =>
      decide (now - compareWindowH * 3600 < snapshot.1)).map Prod.snd
    if window = [] then (state, none)
    else
      let current := median window
      let delta := |current - baseline|
      let judge (threshold : α) : DriftState α × Option (Drift α) :=
        if delta ≤ threshold then ({ state with drifting := false }, none)
        else if state.lastEvent.any fun last => decide (now - last < eventIntervalS) then
          ({ state with drifting := true }, none)
        else
          ({ state with drifting := true, lastEvent := some now },
            some ⟨baseline, current, delta, threshold⟩)
      match spec with
      | .rel fraction => if baseline = 0 then (state, none) else judge (fraction * |baseline|)
      | .abs units => judge units
  | _, _ => (state, none)

/-- `DriftTracker.observe` of one sample. -/
def observe [FloorRing α] (sensor : Sensor) (now value : α) (state : DriftState α) :
    DriftState α × Option (Drift α) :=
  let hour := ⌊now / 3600⌋
  let rolled :=
    match state.bucketHour with
    | none => { state with bucketHour := some hour }
    | some before =>
      if before = hour then state
      else { state.finalizeBucket before with bucketHour := some hour }
  { rolled with bucket := appendBounded bucketMax rolled.bucket value }.check sensor now

end DriftState

end Wqm1.Sensing
