import Wqm1.Control.Relay

/-! The smart-breaker controller: one circuit on a vendor's breaker, an interlock relay in
series with it, and the fail-safe of a lost link. -/

set_option autoImplicit false

namespace Wqm1.Breaker

open Wqm1.Library Wqm1.Control

inductive Vendor where
  | none | relayOnly | ableedge | other
deriving DecidableEq

inductive FailSafeMode where
  | off | last | on
deriving DecidableEq

structure BreakerSettings where
  vendor : Vendor
  failSafe : FailSafeMode
  graceS : Rat
  minOffS : Rat
  interlockRelay : Int

def BreakerSettings.interlock (settings : BreakerSettings) : Option Int :=
  if isChannel settings.interlockRelay then some settings.interlockRelay else none

structure CircuitStatus where
  isOn : Option Bool
  connected : Option Bool
  rawPosition : Option String
deriving DecidableEq

structure PowerReading where
  currentA : Option Rat
  voltageV : Option Rat
  energyDeliveredWh : Option Rat
deriving DecidableEq

/-- The end of a vendor call: its result or the text of its error, the settings by then,
and the time that it took. -/
structure Reply (Value : Type) where
  result : Except String Value
  settings : BreakerSettings
  elapsed : Rat

structure SmartBreakerController where
  client : Bool
  relays : Bool
  desired : Option Bool := none
  lastStatus : Option CircuitStatus := none
  lastPower : Option PowerReading := none
  lastOkMono : Option Rat := none
  unreachableSince : Option Rat
  lastError : Option String := none
  failSafeApplied : Option FailSafeMode := none
  pending : Option (Bool × String) := none
  lastOffMono : Option Rat := none

/-- The controller with the settings, the clock and the coils. `outcomes` says which of the
coming relay writes succeed (all those it does not list do). The last fields are for the
statements only: the last command that the vendor accepted, whether an OFF was requested
or applied since an ON was, and how often the fail-safe was applied since the last
successful vendor call and, in mode ON, at all. -/
structure BreakerUnit where
  controller : SmartBreakerController
  settings : BreakerSettings
  now : Rat := 0
  coils : Int → Bool := fun _ => false
  outcomes : List Bool := []
  accepted : Option Bool := none
  offSince : Bool := false
  applications : Nat := 0
  onApplied : Nat := 0

inductive BreakerAnswer where
  | confirmed | notAsked | unconfirmed
deriving DecidableEq

inductive RequestError where
  | disabled
  | shortCycle (remaining : Rat)
  | noInterlock
  | noClient
  | vendor (text : Option String)
deriving DecidableEq

structure RequestAnswer where
  ok : Bool
  state : Bool
  interlockRelay : Option Int
  breaker : Option BreakerAnswer := none
  interlockOk : Option Bool := none
  error : Option RequestError := none
deriving DecidableEq

namespace BreakerUnit

def shortCycleRemainingS (unit : BreakerUnit) : Rat :=
  match unit.controller.lastOffMono with
  | none => 0
  | some last =>
    if unit.settings.minOffS ≤ 0 then 0 else max 0 (unit.settings.minOffS - (unit.now - last))

/-- The unit, and whether the coil is known to be in the state that was asked for. -/
def setInterlock (unit : BreakerUnit) (on : Bool) : BreakerUnit × Bool :=
  match unit.settings.interlock with
  | none => (unit, true)
  | some channel =>
    if unit.controller.relays then
      if unit.outcomes.headD true then
        ({ unit with coils := Function.update unit.coils channel on, outcomes := unit.outcomes.tail }, true)
      else ({ unit with outcomes := unit.outcomes.tail }, false)
    else (unit, true)

def markOk (unit : BreakerUnit) : BreakerUnit :=
  let told := { unit with
    controller := { unit.controller with lastOkMono := some unit.now, lastError := none }
    applications := 0 }
  if unit.controller.unreachableSince.isSome then
    { told with controller := { told.controller with unreachableSince := none, failSafeApplied := none } }
  else told

def noteAccepted (unit : BreakerUnit) (on : Bool) : BreakerUnit :=
  { unit with
    controller := { unit.controller with
      lastStatus := some ⟨some on, unit.controller.lastStatus.bind CircuitStatus.connected,
        some (if on then "close" else "open")⟩ }
    accepted := some on
    offSince := !on && unit.offSince }

def failSafeReason : String := "WQM-1 fail-safe: breaker API unreachable"

def applyFailSafe (unit : BreakerUnit) : BreakerUnit :=
  let applied := { unit with
    controller := { unit.controller with failSafeApplied := some unit.settings.failSafe }
    applications := unit.applications + 1 }
  match unit.settings.failSafe with
  | .off =>
    let dropped := ({ applied with
      controller := { applied.controller with lastOffMono := some applied.now } }.setInterlock false).1
    { dropped with
      controller := { dropped.controller with desired := some false, pending := some (false, failSafeReason) }
      offSince := true }
  | .on => { (applied.setInterlock true).1 with onApplied := unit.onApplied + 1 }
  | .last => applied

def evaluateFailSafe (unit : BreakerUnit) : BreakerUnit :=
  match unit.controller.unreachableSince with
  | none => unit
  | some since =>
    if unit.controller.failSafeApplied.isSome ∨ unit.now - since < unit.settings.graceS then unit
    else unit.applyFailSafe

def markFail (unit : BreakerUnit) (error : String) : BreakerUnit :=
  { unit with
    controller := { unit.controller with
      lastError := some error
      unreachableSince := some (unit.controller.unreachableSince.getD unit.now) } }.evaluateFailSafe

/-- A vendor call comes back. -/
def await {Value : Type} (unit : BreakerUnit) (reply : Reply Value) : BreakerUnit :=
  { unit with settings := reply.settings, now := unit.now + reply.elapsed }

def wantOff (unit : BreakerUnit) : BreakerUnit :=
  { unit with controller := { unit.controller with desired := some false }, offSince := true }

/-- OFF: the interlock first, then the breaker. -/
def requestOff (unit : BreakerUnit) (why : String) (reply : Reply Unit) (answer : RequestAnswer) :
    BreakerUnit × RequestAnswer :=
  let dropped := unit.setInterlock false
  let back := dropped.1.wantOff.await reply
  match reply.result with
  | .ok _ =>
    let told := back.markOk.noteAccepted false
    ({ told with controller := { told.controller with pending := none } },
      { answer with ok := true, breaker := some .confirmed, interlockOk := some dropped.2 })
  | .error error =>
    let failed := back.markFail error
    ({ failed with controller := { failed.controller with pending := some (false, why) } },
      { answer with
        breaker := some .unconfirmed
        interlockOk := some dropped.2
        error := some (.vendor failed.controller.lastError) })

/-- ON: the breaker first, and the interlock after it confirmed. -/
def requestOn (unit : BreakerUnit) (reply : Reply Unit) (answer : RequestAnswer) : BreakerUnit × RequestAnswer :=
  let back := unit.await reply
  match reply.result with
  | .ok _ =>
    let told := back.markOk.noteAccepted true
    let closed := { told with controller := { told.controller with desired := some true, pending := none } }
    let energised := closed.setInterlock true
    (energised.1,
      { answer with ok := energised.2, breaker := some .confirmed, interlockOk := some energised.2 })
  | .error error =>
    let failed := back.markFail error
    (failed, { answer with breaker := some .unconfirmed, error := some (.vendor failed.controller.lastError) })

/-- A site without a smart breaker: the circuit is the relay. -/
def requestRelayOnly (unit : BreakerUnit) (on : Bool) (answer : RequestAnswer) : BreakerUnit × RequestAnswer :=
  if unit.settings.interlock = none then (unit, { answer with error := some .noInterlock })
  else
    let set := unit.setInterlock on
    ({ set.1 with controller := { set.1.controller with desired := some on } },
      { answer with ok := set.2, breaker := some .notAsked })

def request (unit : BreakerUnit) (on : Bool) (source : String) (reason : Option String) (reply : Reply Unit)
    (outcomes : List Bool) : BreakerUnit × RequestAnswer :=
  let unit := { unit with outcomes := outcomes }
  let answer : RequestAnswer := { ok := false, state := on, interlockRelay := unit.settings.interlock }
  if unit.settings.vendor = .none then (unit, { answer with error := some .disabled })
  else if on = true ∧ 0 < unit.shortCycleRemainingS then
    (unit, { answer with error := some (.shortCycle unit.shortCycleRemainingS) })
  else
    let unit := if on then unit
      else { unit with controller := { unit.controller with lastOffMono := some unit.now } }
    if unit.settings.vendor = .relayOnly then unit.requestRelayOnly on answer
    else if unit.controller.client = false then (unit, { answer with error := some .noClient })
    else if on then unit.requestOn reply answer
    else unit.requestOff (reason.getD ("WQM-1 " ++ source)) reply answer

/-- The delivery of a queued command; the unit, and whether the cycle goes on. -/
def flush (unit : BreakerUnit) (reply : Reply Unit) : BreakerUnit × Bool :=
  match unit.controller.pending with
  | none => (unit, true)
  | some queued =>
    let back := unit.await reply
    match reply.result with
    | .ok _ =>
      let delivered := { back with controller := { back.controller with pending := none } }
      (delivered.markOk.noteAccepted queued.1, true)
    | .error error => (back.markFail error, false)

def sampleStatus (unit : BreakerUnit) (reply : Reply CircuitStatus) : BreakerUnit × Bool :=
  let back := unit.await reply
  match reply.result with
  | .ok status =>
    ({ back with controller := { back.controller with lastStatus := some status } }.markOk, true)
  | .error error => (back.markFail error, false)

/-- A power reading that fails is not a lost link. -/
def samplePower (unit : BreakerUnit) (reply : Reply PowerReading) : BreakerUnit :=
  let back := unit.await reply
  match reply.result with
  | .ok power =>
    { back with controller := { back.controller with lastPower := some power }, applications := 0 }
  | .error _ => back

def poll (unit : BreakerUnit) (setReply : Reply Unit) (statusReply : Reply CircuitStatus)
    (powerReply : Reply PowerReading) (outcomes : List Bool) : BreakerUnit :=
  let unit := { unit with outcomes := outcomes }
  if unit.settings.vendor ≠ .ableedge ∨ unit.controller.client = false then unit
  else
    let flushed := unit.flush setReply
    if flushed.2 then
      let sampled := flushed.1.sampleStatus statusReply
      if sampled.2 then sampled.1.samplePower powerReply else sampled.1
    else flushed.1

end BreakerUnit

inductive BreakerEvent where
  | request (on : Bool) (source : String) (reason : Option String) (reply : Reply Unit) (outcomes : List Bool)
  | poll (setReply : Reply Unit) (statusReply : Reply CircuitStatus) (powerReply : Reply PowerReading)
      (outcomes : List Bool)
  | advance (seconds : Rat)
  | configure (settings : BreakerSettings)

def BreakerEvent.settings : BreakerEvent → List BreakerSettings
  | .request _ _ _ reply _ => [reply.settings]
  | .poll setReply statusReply powerReply _ => [setReply.settings, statusReply.settings, powerReply.settings]
  | .advance _ => []
  | .configure settings => [settings]

def BreakerEvent.outcomes : BreakerEvent → List Bool
  | .request _ _ _ _ outcomes => outcomes
  | .poll _ _ _ outcomes => outcomes
  | .advance _ => []
  | .configure _ => []

namespace BreakerUnit

/-- A controller with a client; the link is down until the first successful call. -/
def start (settings : BreakerSettings) (relays : Bool) : BreakerUnit :=
  { controller := { client := true, relays := relays, unreachableSince := some 0 }, settings := settings }

/-- Time does not go back. -/
def step (unit : BreakerUnit) : BreakerEvent → Option BreakerUnit
  | .request on source reason reply outcomes =>
    if 0 ≤ reply.elapsed then some (unit.request on source reason reply outcomes).1 else none
  | .poll setReply statusReply powerReply outcomes =>
    if 0 ≤ setReply.elapsed ∧ 0 ≤ statusReply.elapsed ∧ 0 ≤ powerReply.elapsed then
      some (unit.poll setReply statusReply powerReply outcomes)
    else none
  | .advance seconds => if 0 ≤ seconds then some { unit with now := unit.now + seconds } else none
  | .configure settings => some { unit with settings := settings }

/-- The units that runs reach from a controller with any settings. -/
def Reachable (permits : BreakerUnit → BreakerEvent → Prop) (unit : BreakerUnit) : Prop :=
  ∃ settings relays, settings.vendor = .ableedge ∧ Events.Reaches step permits (start settings relays) unit

end BreakerUnit

end Wqm1.Breaker
