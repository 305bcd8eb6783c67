import Mathlib.Data.Rat.Defs
import Mathlib.Order.Basic
import Mathlib.Algebra.Order.Ring.Rat
import Wqm1.Library.Events

/-! The relay controller: four coils, their recorded states, and one auto-off timer
for each channel. A write to a pin may raise. -/

set_option autoImplicit false

namespace Wqm1.Control

/-- A timer thread that was started and neither cancelled nor replaced. -/
structure RelayTimer where
  thread : Nat
  deadline : Rat
deriving DecidableEq

structure RelayController where
  maxOnS : Rat
  pins : Int → Bool := fun _ => false
  state : Int → Bool := fun _ => false
  timers : Int → Option RelayTimer := fun _ => none
  nextThread : Nat := 0

def channels : List Int := [1, 2, 3, 4]

def isChannel (channel : Int) : Prop := 1 ≤ channel ∧ channel ≤ 4

instance (channel : Int) : Decidable (isChannel channel) :=
  inferInstanceAs (Decidable (1 ≤ channel ∧ channel ≤ 4))

namespace RelayController

def cancelTimer (relay : RelayController) (channel : Int) : RelayController :=
  { relay with timers := Function.update relay.timers channel none }

def arm (relay : RelayController) (channel : Int) (seconds now : Rat) : RelayController :=
  { relay.cancelTimer channel with
    timers := Function.update relay.timers channel (some ⟨relay.nextThread, now + seconds⟩)
    nextThread := relay.nextThread + 1 }

/-- The controller, and whether the call returned: it raises for a bad channel and when
the write to the pin does. -/
def set (relay : RelayController) (channel : Int) (state unbounded : Bool) (now : Rat) (written : Bool) :
    RelayController × Bool :=
  if isChannel channel ∧ written = true then
    let driven := { relay with
      pins := Function.update relay.pins channel state
      state := Function.update relay.state channel state }
    let quiet := driven.cancelTimer channel
    (if state = true ∧ 0 < relay.maxOnS ∧ unbounded = false then quiet.arm channel relay.maxOnS now else quiet,
      true)
  else (relay, false)

def armAutoOff (relay : RelayController) (channel : Int) (durationS now : Rat) : RelayController × Rat :=
  if isChannel channel ∧ 0 < durationS ∧ relay.state channel = true then
    let seconds := if 0 < relay.maxOnS then min durationS relay.maxOnS else durationS
    (relay.arm channel seconds now, seconds)
  else (relay, 0)

/-- What the thread of a timer does when it wakes. -/
def autoOff (relay : RelayController) (thread : Nat) (channel : Int) (written : Bool) : RelayController :=
  if (relay.timers channel).map RelayTimer.thread = some thread then
    let fired := relay.cancelTimer channel
    if relay.state channel = true ∧ written = true then
      { fired with
        pins := Function.update relay.pins channel false
        state := Function.update relay.state channel false }
    else fired
  else relay

/-- The pins in order, up to the first write that raises. -/
def dropPins (written : Int → Bool) : List Int → (Int → Bool) → (Int → Bool) × Bool
  | [], pins => (pins, true)
  | channel :: rest, pins =>
    if written channel then dropPins written rest (Function.update pins channel false) else (pins, false)

def allOff (relay : RelayController) (written : Int → Bool) : RelayController × Bool :=
  let quiet := channels.foldl cancelTimer relay
  let dropped := dropPins written channels relay.pins
  ({ quiet with
      pins := dropped.1
      state := if dropped.2 then fun _ => false else relay.state },
    dropped.2)

theorem set_pins (relay : RelayController) (channel : Int) (state unbounded : Bool) (now : Rat) (written : Bool) :
    (relay.set channel state unbounded now written).1.pins =
      if isChannel channel ∧ written = true then Function.update relay.pins channel state else relay.pins := by
  unfold set
  split
  next =>
    dsimp only
    split
    next => rfl
    next => rfl
  next => rfl

end RelayController

/-- The controller as its callers drive it. The last two fields are for the statements
only: whether the last successful ON of a channel was bounded, and when it was. -/
structure RelayRun where
  relay : RelayController
  now : Rat
  bounded : Int → Bool
  lastOn : Int → Rat

inductive RelayEvent where
  | set (channel : Int) (state unbounded written : Bool)
  | armAutoOff (channel : Int) (durationS : Rat)
  | allOff (written : Int → Bool)
  | expire (thread : Nat) (channel : Int) (written : Bool)
  | advance (seconds : Rat)

namespace RelayRun

def start (maxOnS : Rat) : RelayRun := ⟨{ maxOnS := maxOnS }, 0, fun _ => false, fun _ => 0⟩

/-- A timer thread runs when its deadline has passed, and one that was cancelled or
replaced may still run at any time. -/
def step (run : RelayRun) : RelayEvent → Option RelayRun
  | .set channel state unbounded written =>
    let result := run.relay.set channel state unbounded run.now written
    some (if result.2 = true ∧ state = true then
      { run with
        relay := result.1
        bounded := Function.update run.bounded channel (!unbounded)
        lastOn := Function.update run.lastOn channel run.now }
    else { run with relay := result.1 })
  | .armAutoOff channel durationS =>
    some { run with relay := (run.relay.armAutoOff channel durationS run.now).1 }
  | .allOff written => some { run with relay := (run.relay.allOff written).1 }
  | .expire thread channel written =>
    if ∃ timer ∈ run.relay.timers channel, timer.thread = thread ∧ run.now < timer.deadline then none
    else some { run with relay := run.relay.autoOff thread channel written }
  | .advance seconds => if 0 ≤ seconds then some { run with now := run.now + seconds } else none

abbrev Reachable (maxOnS : Rat) (permits : RelayRun → RelayEvent → Prop) (run : RelayRun) : Prop :=
  Library.Events.Reaches step permits (start maxOnS) run

end RelayRun

end Wqm1.Control
