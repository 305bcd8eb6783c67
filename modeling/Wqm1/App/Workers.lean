import Mathlib.Data.Rat.Defs
import Mathlib.Algebra.Order.Ring.Rat
import Wqm1.Library.Double

/-! The supervised workers: how long each wants to sleep between two steps, and
the runner that turns this into a wait. -/

set_option autoImplicit false

namespace Wqm1.App

open Wqm1.Library

structure Settings where
  sensorReadS : Nat := 60
  loraTxS : Nat := 300
  gpsFixS : Nat := 86400
  commandPollS : Nat := 5
  syncIntervalS : Nat := 300
  heartbeatS : Nat := 600
  adaptiveSamplingEnabled : Bool := true
  sensorReadFastS : Nat := 15
  adaptiveHoldS : Nat := 600
  smartBreakerPollS : Nat := 60
deriving DecidableEq

/-- A value of a JSON document; of a list or an object only whether it is empty. -/
inductive Json where
  | null
  | bool (value : Bool)
  | integer (value : Int)
  | real (value : Double)
  | text (value : String)
  | collection (isEmpty : Bool)
deriving DecidableEq

namespace Json

def truthy : Json → Bool
  | null => false
  | bool value => value
  | integer value => value ≠ 0
  | real value => value ≠ .finite 0
  | text value => value ≠ ""
  | collection isEmpty => !isEmpty

/-- `value or default`. -/
def orElse (value default : Json) : Json := if value.truthy then value else default

/-- `float(value)`, which raises on an integer beyond the floats; `floatOfText` is what it does
with a text. -/
def float (floatOfText : String → Option Double) : Json → Option Double
  | null => none
  | bool value => some (.finite (if value then 1 else 0))
  | integer value => Double.ofInt value
  | real value => some value
  | text value => floatOfText value
  | collection _ => none

end Json

/-- The persisted registration document, as far as it is read here. -/
structure RegisterFile where
  status : Option Json
  backoffS : Option Json
  nextAttemptUnix : Option Json
deriving DecidableEq

structure RegisterState where
  status : Json
  backoffS : Json
  nextAttemptUnix : Json
deriving DecidableEq

def registerStatuses : List String := ["pending", "registered", "conflict", "error"]

def defaultRegisterState : RegisterState := ⟨.text "pending", .integer 5, .integer 0⟩

def isRegisterStatus : Json → Bool
  | .text value => registerStatuses.contains value
  | _ => false

/-- `load_register_state`; `none` is a file that is missing or not a JSON object. -/
def loadRegisterState : Option RegisterFile → RegisterState
  | none => defaultRegisterState
  | some file =>
    let status := file.status.getD defaultRegisterState.status
    { status := if isRegisterStatus (status.orElse (.text "pending")) then status else .text "pending"
      backoffS := file.backoffS.getD defaultRegisterState.backoffS
      nextAttemptUnix := file.nextAttemptUnix.getD defaultRegisterState.nextAttemptUnix }

/-- What `AdaptiveSampler` remembers of its fast mode. -/
structure Sampler where
  fastSince : Option Rat
  lastTrigger : Option Rat
deriving DecidableEq

namespace Sampler

/-- `_maybe_decay`. -/
def maybeDecay (settings : Settings) (now : Rat) (sampler : Sampler) : Sampler :=
  if sampler.fastSince.isNone then sampler
  else
    let disabled := !settings.adaptiveSamplingEnabled
    let heldLongEnough := sampler.lastTrigger.any fun last => decide (settings.adaptiveHoldS ≤ now - last)
    if disabled || heldLongEnough then ⟨none, none⟩ else sampler

def currentIntervalS (settings : Settings) (now : Rat) (sampler : Sampler) : Nat × Sampler :=
  let decayed := sampler.maybeDecay settings now
  if !settings.adaptiveSamplingEnabled || decayed.fastSince.isNone then (settings.sensorReadS, decayed)
  else (settings.sensorReadFastS, decayed)

theorem maybeDecay_idem (settings : Settings) (now : Rat) (sampler : Sampler) :
    (sampler.maybeDecay settings now).maybeDecay settings now = sampler.maybeDecay settings now := by
  unfold maybeDecay
  by_cases calm : sampler.fastSince.isNone
  · simp only [calm, ↓reduceIte]
  · by_cases decays : (!settings.adaptiveSamplingEnabled ||
        sampler.lastTrigger.any fun last => decide (settings.adaptiveHoldS ≤ now - last)) = true
    · simp [calm, decays]
    · simp only [calm, decays, Bool.false_eq_true, ↓reduceIte]

theorem currentIntervalS_decayed (settings : Settings) (now : Rat) (sampler : Sampler) :
    (sampler.currentIntervalS settings now).2.currentIntervalS settings now =
      sampler.currentIntervalS settings now := by
  have decayed : (sampler.currentIntervalS settings now).2 = sampler.maybeDecay settings now := by
    unfold currentIntervalS
    dsimp only
    split <;> rfl
  rw [decayed]
  unfold currentIntervalS
  rw [maybeDecay_idem]

end Sampler

/-- Everything outside a worker that its cadence is read from: the settings in
force, the registration files, the wall clock, the adaptive sampler and the radio. -/
structure Surroundings where
  settings : Settings
  registerFile : Option RegisterFile
  httpKey : String
  wall : Rat
  adaptive : Option Sampler
  lorawanJoined : Option Bool
  joinAttempts : Nat
deriving DecidableEq

inductive Worker where
  | sampling
  | gps
  | radio
  | register
  | cloudSync
  | cloudCmd
  | heartbeat
  | smartBreaker
deriving DecidableEq

def stopBackoffS : Rat := 3600
def joinBackoffMaxS : Rat := 3600

/-- `max(1.0, min(delay, STOP_BACKOFF_S))`; `min` keeps a NaN and `max` does not take it. -/
def delayS : Double → Rat
  | .finite delay => max 1 (min delay stopBackoffS)
  | .infinite negative => if negative then 1 else stopBackoffS
  | .nan => 1

/-- The wait until an attempt is due, or the delay once it is. -/
def retryIntervalS (delay due : Double) (wall : Rat) : Rat :=
  match due with
  | .finite due => if 0 < due - wall then min (due - wall) stopBackoffS else delayS delay
  | .infinite negative => if negative then delayS delay else stopBackoffS
  | .nan => delayS delay

/-- `DeviceRegisterWorker.interval_s`; `none` when it raises. -/
def registerIntervalS (floatOfText : String → Option Double) (state : RegisterState) (httpKey : String)
    (wall : Rat) : Option Rat :=
  if state.status = .text "conflict" then some stopBackoffS
  else if state.status = .text "registered" ∧ httpKey ≠ "" then some 30
  else do
    let delay ← (state.backoffS.orElse (.integer 5)).float floatOfText
    let due ← (state.nextAttemptUnix.orElse (.integer 0)).float floatOfText
    some (retryIntervalS delay due wall)

/-- `_JoiningRadioWorker.interval_s`; the float product raises once `2**extra` is
too large for a float. -/
def joiningIntervalS (loraTxS : Nat) (lorawanJoined : Option Bool) (joinAttempts : Nat) : Option Rat :=
  let base : Rat := loraTxS
  if lorawanJoined.getD true then some base
  else
    let extra := joinAttempts - 3
    if 1024 ≤ extra then none else some (min (base * 2 ^ extra) joinBackoffMaxS)

/-- `interval_s` of each worker, `none` when it raises, and what reading it leaves
behind: the sampling worker's read lets the sampler decay. -/
def Worker.intervalS (floatOfText : String → Option Double) (now : Rat) (surroundings : Surroundings) :
    Worker → Option Rat × Surroundings
  | sampling =>
    match surroundings.adaptive with
    | some sampler =>
      let (interval, decayed) := sampler.currentIntervalS surroundings.settings now
      (some interval, { surroundings with adaptive := some decayed })
    | none => (some surroundings.settings.sensorReadS, surroundings)
  | gps => (some surroundings.settings.gpsFixS, surroundings)
  | radio =>
    (joiningIntervalS surroundings.settings.loraTxS surroundings.lorawanJoined surroundings.joinAttempts,
      surroundings)
  | register =>
    (registerIntervalS floatOfText (loadRegisterState surroundings.registerFile) surroundings.httpKey
      surroundings.wall, surroundings)
  | cloudSync => (some surroundings.settings.syncIntervalS, surroundings)
  | cloudCmd => (some surroundings.settings.commandPollS, surroundings)
  | heartbeat => (some surroundings.settings.heartbeatS, surroundings)
  | smartBreaker => (some surroundings.settings.smartBreakerPollS, surroundings)

/-- Reading one worker's cadence changes no other reading at the same moment. -/
theorem Worker.intervalS_after (floatOfText : String → Option Double) (now : Rat)
    (surroundings : Surroundings) (worker other : Worker) :
    (other.intervalS floatOfText now (worker.intervalS floatOfText now surroundings).2).1 =
      (other.intervalS floatOfText now surroundings).1 := by
  cases worker with
  | sampling =>
    cases adaptive : surroundings.adaptive with
    | none => simp only [intervalS, adaptive]
    | some sampler =>
      cases other with
      | sampling => simp only [intervalS, adaptive, Sampler.currentIntervalS_decayed]
      | _ => simp only [intervalS, adaptive]
  | _ => rfl

/-- After this many failures in a row the supervisor shows a fault. -/
def faultStreak : Nat := 5
def backoffTable : List Rat := [5, 15, 30, 60]

def backoffS (consecutiveErrors : Nat) : Rat :=
  backoffTable.getD (min (consecutiveErrors - 1) (backoffTable.length - 1)) 0

/-- The wait at the end of one round of `run_forever`. -/
def waitAfter (interval elapsed : Rat) (consecutiveErrors : Nat) : Rat :=
  let wait := max 0 (interval - elapsed)
  if consecutiveErrors = 0 then wait else max wait (backoffS consecutiveErrors)

theorem waitAfter_nonneg (interval elapsed : Rat) (consecutiveErrors : Nat) :
    0 ≤ waitAfter interval elapsed consecutiveErrors := by
  unfold waitAfter
  split
  · exact le_max_left _ _
  · exact le_max_of_le_left (le_max_left _ _)

end Wqm1.App
