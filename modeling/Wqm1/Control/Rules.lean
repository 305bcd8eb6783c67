import Mathlib.Data.List.Dedup
import Mathlib.Data.List.Sort
import Wqm1.Control.IrrigationHold
import Wqm1.Library.Bytes
import Wqm1.Library.Dict

/-! The rules engine: threshold rules over the readings of a cycle, its timers, and the
fail-safe of suspended sensors. A cycle reads each clock once. -/

set_option autoImplicit false

namespace Wqm1.Control

open Wqm1.Library

inductive Operator where
  | gt | lt | ge | le | eq
deriving DecidableEq

def Operator.holds : Operator → Rat → Rat → Prop
  | .gt, left, right => right < left
  | .lt, left, right => left < right
  | .ge, left, right => right ≤ left
  | .le, left, right => left ≤ right
  | .eq, left, right => |left - right| < 1 / 100

instance (operator : Operator) (left right : Rat) : Decidable (operator.holds left right) := by
  cases operator <;> unfold Operator.holds <;> infer_instance

/-- A rule; an operator that is not one of the five is missing. -/
structure Rule where
  sensor : String
  operator : Option Operator
  relay : Int
  on : Bool
  threshold : Option Rat := none
  adaptiveK : Option Rat := none
  durationS : Rat := 0
deriving DecidableEq

/-- What `add_rule` accepts. -/
def Rule.valid (rule : Rule) : Bool :=
  match rule.adaptiveK with
  | some width => rule.operator ≠ some .eq && decide (1 / 2 ≤ width) && decide (width ≤ 10)
  | none => rule.threshold.isSome

def sensorToColumn : List (String × String) :=
  [("ph", "ph"), ("tds", "tds_ppm"), ("turbidity", "turbidity_ntu"), ("temperature", "temp_c"), ("orp", "orp_mv"),
    ("chlorine", "chlorine_mgl"), ("conductivity", "conductivity_uscm"), ("salinity", "salinity_ppt"),
    ("flow", "flow_rate_gpm")]

def columnOf (sensor : String) : String := (sensorToColumn.lookup sensor).getD sensor

def paramOf (column : String) : String := ((sensorToColumn.map Prod.swap).lookup column).getD column

def madToSigma : Rat := 14826 / 10000

def madFloors : List (String × Rat) :=
  [("ph", 5 / 100), ("temp_c", 2 / 10), ("tds_ppm", 5), ("turbidity_ntu", 1 / 2), ("orp_mv", 5),
    ("chlorine_mgl", 5 / 100), ("conductivity_uscm", 10), ("flow_rate_gpm", 5 / 100)]

/-- The statistics of one hour; either number may be missing. -/
structure Stats where
  m : Option Rat
  mad : Option Rat

/-- A learned baseline; the buckets of hours without statistics are empty. -/
structure Baseline where
  learning : Bool
  buckets : List (Option Stats)
  overall : Option Stats

structure WallClock where
  hour : Nat
  utcHour : Nat
  timeOfDay : Rat

/-- The settings that `load_policies` leaves and that the engine reads in a cycle. A schedule
that is not enabled leaves the one of before. -/
structure Policies where
  schedule : Option (Rat × Rat) := none
  cooldownS : Rat := 0
  maxOnSPerHour : Rat := 0
  manualOverride : Bool := false

structure RulesEngine where
  rules : List Rule := []
  timers : Dict Int Rat := .empty
  schedule : Option (Rat × Rat) := none
  cooldownS : Rat := 0
  maxOnSPerHour : Rat := 0
  manualOverride : Bool := false
  lastOff : Int → Option Rat := fun _ => none
  onTime : Int → Option (Nat × Rat) := fun _ => none
  onSince : Int → Option Rat := fun _ => none
  suspendedColumns : List String := []
  pendingFailsafe : List Int := []
  baselines : String → Option Baseline := fun _ => none

abbrev RelayAction := Int × Bool

namespace RulesEngine

def relaysOn (engine : RulesEngine) (columns : List String) : List Int :=
  (engine.rules.filter fun rule => decide (rule.sensor ∈ columns)).map Rule.relay

def newlySuspended (engine : RulesEngine) (sensors : List String) : List String :=
  (sensors.map columnOf).filter fun column => decide (column ∉ engine.suspendedColumns)

def setSuspendedSensors (engine : RulesEngine) (sensors : List String) : RulesEngine :=
  { engine with
    pendingFailsafe := (engine.pendingFailsafe ++ engine.relaysOn (engine.newlySuspended sensors)).dedup
    suspendedColumns := sensors.map columnOf }

/-- Entries that cannot be read as a rule are missing. -/
def loadRules (engine : RulesEngine) (rules : List (Option Rule)) : RulesEngine :=
  { engine with rules := (rules.filterMap id).filter Rule.valid }

def loadPolicies (engine : RulesEngine) (policies : Policies) : RulesEngine :=
  { engine with
    schedule := policies.schedule
    cooldownS := policies.cooldownS
    maxOnSPerHour := policies.maxOnSPerHour
    manualOverride := policies.manualOverride }

def resolveThreshold (engine : RulesEngine) (rule : Rule) (wall : WallClock) : Option Rat :=
  match rule.adaptiveK with
  | none => rule.threshold
  | some width => do
    let baseline ← engine.baselines (paramOf rule.sensor)
    if baseline.learning then none
    let stats ← ((baseline.buckets[wall.utcHour]?).join).or baseline.overall
    let median ← stats.m
    let sigma := max (stats.mad.getD 0 * madToSigma) ((madFloors.lookup rule.sensor).getD (1 / 2))
    if rule.operator = some .gt ∨ rule.operator = some .ge then some (median + width * sigma)
    else some (median - width * sigma)

def isInSchedule (engine : RulesEngine) (wall : WallClock) : Bool :=
  match engine.schedule with
  | none => true
  | some (start, finish) =>
    if start ≤ finish then decide (start ≤ wall.timeOfDay) && decide (wall.timeOfDay ≤ finish)
    else decide (start ≤ wall.timeOfDay) || decide (wall.timeOfDay ≤ finish)

def isInCooldown (engine : RulesEngine) (relay : Int) (now : Rat) : Bool :=
  match engine.lastOff relay with
  | none => false
  | some last => decide (0 < engine.cooldownS) && decide (now - last < engine.cooldownS)

/-- The engine afterwards, and whether the relay has on-time left this hour. -/
def checkOnTimeBudget (engine : RulesEngine) (relay : Int) (hour : Nat) : RulesEngine × Bool :=
  if engine.maxOnSPerHour ≤ 0 then (engine, true)
  else
    match engine.onTime relay with
    | none => ({ engine with onTime := Function.update engine.onTime relay (some (hour, 0)) }, true)
    | some (counted, seconds) =>
      if counted ≠ hour then
        ({ engine with onTime := Function.update engine.onTime relay (some (hour, 0)) }, true)
      else (engine, decide (seconds < engine.maxOnSPerHour))

/-- The on-time of every relay that is on is counted up to now. -/
def accumulateOnTime (engine : RulesEngine) (now : Rat) (hour : Nat) : RulesEngine :=
  { engine with
    onTime := fun relay =>
      match engine.onSince relay with
      | none => engine.onTime relay
      | some since =>
        if engine.maxOnSPerHour ≤ 0 then engine.onTime relay
        else
          match engine.onTime relay with
          | some (counted, seconds) =>
            if counted ≠ hour then some (hour, now - since) else some (hour, seconds + (now - since))
          | none => some (hour, now - since)
    onSince := fun relay => (engine.onSince relay).map fun _ => now }

/-- The state that a relay's OFF leaves, its timer apart. -/
def noteOff (engine : RulesEngine) (now : Rat) (relays : List Int) : RulesEngine :=
  { engine with
    lastOff := fun relay => if relay ∈ relays then some now else engine.lastOff relay
    onSince := fun relay => if relay ∈ relays then none else engine.onSince relay }

def revertSuspendedToFailsafe (engine : RulesEngine) (now : Rat) (reserved : List Int) :
    RulesEngine × List RelayAction :=
  let pending := engine.pendingFailsafe.filter fun relay => decide (relay ∉ reserved)
  ({ engine.noteOff now pending with
      timers := engine.timers.filter fun timer => decide (timer.1 ∉ pending)
      pendingFailsafe := [] },
    (pending.insertionSort (· ≤ ·)).map fun relay => (relay, false))

def expireTimers (engine : RulesEngine) (now : Rat) (reserved : List Int) : RulesEngine × List RelayAction :=
  let kept := engine.timers.filter fun timer => decide (timer.1 ∉ reserved)
  let due := (kept.filter fun timer => decide (timer.2 ≤ now)).keys
  ({ engine.noteOff now due with timers := kept.filter fun timer => decide (now < timer.2) },
    due.map fun relay => (relay, false))

end RulesEngine

/-- What a cycle does: the fail-safe OFFs, the OFFs of elapsed timers and the commands of
the rules, in this order, and the durations of the commands. -/
structure CyclePlan where
  engine : RulesEngine
  failsafe : List RelayAction
  expired : List RelayAction
  commands : List RelayAction := []
  durations : Int → Option Rat := fun _ => none

def CyclePlan.actions (plan : CyclePlan) : List RelayAction := plan.failsafe ++ plan.expired ++ plan.commands

/-- The inputs of one cycle: the readings, the clocks and the reserved channels. -/
structure Cycle where
  reading : CycleReading
  now : Rat
  wall : WallClock
  reserved : List Int

namespace RulesEngine

/-- Whether the condition of a rule that is not set aside holds. -/
def triggered (engine : RulesEngine) (cycle : Cycle) (rule : Rule) : Bool :=
  decide (rule.relay ∉ cycle.reserved) && decide (rule.sensor ∉ engine.suspendedColumns) &&
    (cycle.reading rule.sensor).any fun value => rule.operator.any fun operator =>
      (engine.resolveThreshold rule cycle.wall).any fun threshold => decide (operator.holds value threshold)

def switchOn (plan : CyclePlan) (cycle : Cycle) (rule : Rule) : CyclePlan :=
  let timed := decide (0 < rule.durationS)
  { plan with
    engine := { plan.engine with
      onSince := Function.update plan.engine.onSince rule.relay
        (some ((plan.engine.onSince rule.relay).getD cycle.now))
      timers := if timed then plan.engine.timers.set rule.relay (cycle.now + rule.durationS)
        else plan.engine.timers }
    commands := plan.commands ++ [(rule.relay, true)]
    durations := if timed then Function.update plan.durations rule.relay (some rule.durationS)
      else plan.durations }

def switchOff (plan : CyclePlan) (cycle : Cycle) (rule : Rule) : CyclePlan :=
  { plan with
    engine := plan.engine.noteOff cycle.now [rule.relay]
    commands := plan.commands ++ [(rule.relay, false)] }

def runRule (cycle : Cycle) (plan : CyclePlan) (rule : Rule) : CyclePlan :=
  if plan.engine.triggered cycle rule then
    if rule.on then
      if plan.engine.isInCooldown rule.relay cycle.now then plan
      else
        let budget := plan.engine.checkOnTimeBudget rule.relay cycle.wall.hour
        let checked := { plan with engine := budget.1 }
        if budget.2 then switchOn checked cycle rule else checked
    else switchOff plan cycle rule
  else plan

def evaluate (engine : RulesEngine) (cycle : Cycle) : CyclePlan :=
  let reverted := engine.revertSuspendedToFailsafe cycle.now cycle.reserved
  let swept := reverted.1.expireTimers cycle.now cycle.reserved
  if swept.1.isInSchedule cycle.wall = false ∨ swept.1.manualOverride = true then
    { engine := swept.1, failsafe := reverted.2, expired := swept.2 }
  else
    swept.1.rules.foldl (runRule cycle)
      { engine := swept.1.accumulateOnTime cycle.now cycle.wall.hour, failsafe := reverted.2,
        expired := swept.2 }

end RulesEngine

structure DownlinkCommand where
  channel : Int
  state : Bool
  duration : Nat
deriving DecidableEq

/-- A relay command on its port: channel, state, and the duration in two bytes. -/
def readDownlinkCommand (fport : UInt8) (payload : Bytes) : Option DownlinkCommand :=
  if fport ≠ 100 ∨ payload.length < 2 then none
  else
    let channel : Int := (payload.getD 0 0).toNat
    if isChannel channel then
      some ⟨channel, decide (payload.getD 1 0 ≠ 0),
        if 4 ≤ payload.length then (payload.getD 2 0).toNat * 256 + (payload.getD 3 0).toNat else 0⟩
    else none

namespace RulesEngine

/-- The engine after the command's write, which may raise. -/
def applyDownlinkCommand (engine : RulesEngine) (command : DownlinkCommand) (now : Rat) (written : Bool) :
    RulesEngine :=
  if written = true ∧ command.state = true ∧ 0 < command.duration then
    { engine with timers := engine.timers.set command.channel (now + command.duration) }
  else engine

/-- The answer is missing when the write raises. -/
def processDownlinkCommand (engine : RulesEngine) (fport : UInt8) (payload : Bytes) (now : Rat)
    (reserved : List Int) (written : Bool) : RulesEngine × Option Bool :=
  match readDownlinkCommand fport payload with
  | none => (engine, some false)
  | some command =>
    if command.channel ∈ reserved then (engine, some false)
    else (engine.applyDownlinkCommand command now written, if written then some true else none)

end RulesEngine

end Wqm1.Control
