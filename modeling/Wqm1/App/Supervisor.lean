import Wqm1.App.Workers
import Wqm1.Library.Events

/-! The supervisor and the threads it watches. Steps of the workers return at once;
everything the workers read may change at any time; a worker is woken exactly when
its wait ends. -/

set_option autoImplicit false

namespace Wqm1.App

open Wqm1.Library

def livenessFactor : Rat := 3
def livenessMinS : Rat := 60
def dbRotateEveryS : Rat := 600
def livenessTouchS : Rat := 30

/-- `_deadline_for`; `none` is an `interval_s()` that raised. -/
def deadlineFor (interval : Option Rat) : Rat :=
  max (interval.getD 60 * livenessFactor) livenessMinS

/-- One worker's thread: `wakeAt` is `none` once an exception has ended it. -/
structure Thread where
  consecutiveErrors : Nat
  wakeAt : Option Rat
deriving DecidableEq

/-- What one supervisor cycle did. -/
structure Tick where
  rotated : Bool
  alive : Bool
  petted : Bool
  touched : Bool
deriving DecidableEq

structure World where
  now : Rat
  surroundings : Surroundings
  beats : Worker → Option Rat
  threads : Worker → Thread
  faulted : List Worker
  lastRotate : Rat
  lastLivenessTouch : Option Rat
  ticks : List Tick

/-- What the supervisor was built with. -/
structure Supervisor where
  workers : List Worker
  hasDb : Bool
  hasLivenessPath : Bool
  floatOfText : String → Option Double

namespace World

/-- `Supervisor.start`: every thread is about to take its first step. -/
def start (now : Rat) (surroundings : Surroundings) : World where
  now := now
  surroundings := surroundings
  beats := fun _ => some now
  threads := fun _ => ⟨0, some now⟩
  faulted := []
  lastRotate := now
  lastLivenessTouch := none
  ticks := []

end World

variable (supervisor : Supervisor)

/-- `Supervisor.all_workers_alive`. -/
def allWorkersAlive (now : Rat) (beats : Worker → Option Rat) :
    List Worker → Surroundings → Bool × Surroundings
  | [], surroundings => (true, surroundings)
  | worker :: rest, surroundings =>
    match beats worker with
    | none => (false, surroundings)
    | some last =>
      let (interval, afterRead) := worker.intervalS supervisor.floatOfText now surroundings
      if deadlineFor interval < now - last then (false, afterRead)
      else allWorkersAlive now beats rest afterRead

/-- `Supervisor.tick`. -/
def World.tick (world : World) : World :=
  let rotated := supervisor.hasDb && decide (dbRotateEveryS ≤ world.now - world.lastRotate)
  let (alive, surroundings) :=
    allWorkersAlive supervisor world.now world.beats supervisor.workers world.surroundings
  let touched := alive && supervisor.hasLivenessPath &&
    world.lastLivenessTouch.all fun last => decide (livenessTouchS ≤ world.now - last)
  { world with
    surroundings := surroundings
    lastRotate := if rotated then world.now else world.lastRotate
    lastLivenessTouch := if touched then some world.now else world.lastLivenessTouch
    ticks := ⟨rotated, alive, alive, touched⟩ :: world.ticks }

/-- One round of `run_forever` whose step took no time and left `surroundings` behind. -/
def World.round (worker : Worker) (raised : Bool) (surroundings : Surroundings) (world : World) : World :=
  let started := world.now
  let consecutiveErrors := if raised then (world.threads worker).consecutiveErrors + 1 else 0
  let (interval, afterRead) := worker.intervalS supervisor.floatOfText world.now surroundings
  let wakeAt := interval.map fun interval =>
    world.now + waitAfter interval (world.now - started) consecutiveErrors
  { world with
    surroundings := afterRead
    beats := Function.update world.beats worker (some world.now)
    threads := Function.update world.threads worker ⟨consecutiveErrors, wakeAt⟩
    faulted :=
      if faultStreak ≤ consecutiveErrors && !world.faulted.contains worker then worker :: world.faulted
      else world.faulted }

inductive Event where
  | passes (later : Rat) (surroundings : Surroundings)
  | wakes (worker : Worker) (raised : Bool) (surroundings : Surroundings)
  | ticks

/-- Time passes no further than the end of the next wait. -/
def step (world : World) : Event → Option World
  | .passes later surroundings =>
    if world.now ≤ later ∧ ∀ worker ∈ supervisor.workers, ((world.threads worker).wakeAt.all (later ≤ ·)) then
      some { world with now := later, surroundings := surroundings }
    else none
  | .wakes worker raised surroundings =>
    if worker ∈ supervisor.workers ∧ (world.threads worker).wakeAt = some world.now then
      some (world.round supervisor worker raised surroundings)
    else none
  | .ticks => some (world.tick supervisor)

end Wqm1.App
