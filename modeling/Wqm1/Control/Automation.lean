import Wqm1.Control.RuleCycle
import Wqm1.Library.OnTime

/-! The rules engine with the relay controller that it drives, over time: cycles, relay
commands from the radio and the controller's own auto-offs. -/

set_option autoImplicit false

namespace Wqm1.Control

open Wqm1.Library

/-- The engine, its relays and the clocks. The meters are for the statements only: they
tell how long each coil was energised in the present clock hour. -/
structure Automation where
  engine : RulesEngine
  relay : RelayController
  now : Rat := 0
  hour : Nat
  evaluated : Rat := 0
  meter : Int → OnTime Rat := fun _ => { ended := 0 }

/-- `written` says which writes to a pin succeed. -/
inductive AutomationEvent where
  | evaluate (reading : CycleReading) (utcHour : Nat) (timeOfDay : Rat) (reserved : List Int)
      (written : Nat → Bool)
  | downlink (fport : UInt8) (payload : Bytes) (reserved : List Int) (written : Bool)
  | autoOff (thread : Nat) (channel : Int) (written : Bool)
  | setSuspendedSensors (sensors : List String)
  | setBaselines (baselines : String → Option Baseline)
  | advance (seconds : Rat)
  /-- The wall clock comes to a new hour of the day. -/
  | enterHour (hour : Nat)

namespace Automation

def start (rules : List Rule) (policies : Policies) (maxOnS : Rat) (hour : Nat) : Automation where
  engine := RulesEngine.loadPolicies { rules := rules } policies
  relay := { maxOnS := maxOnS }
  hour := hour

/-- The controller after a call, with the coils as they are then. -/
def drive (run : Automation) (relay : RelayController) : Automation :=
  { run with
    relay := relay
    meter := fun channel => (run.meter channel).switch run.now (relay.pins channel) }

/-- `_relay.set`, and the arming of the controller's timer where there is a duration. -/
def command (run : Automation) (channel : Int) (state : Bool) (duration : Option Rat)
    (written : Bool) : Automation :=
  let done := run.relay.set channel state false run.now written
  let driven := run.drive done.1
  match if done.2 ∧ state then duration else none with
  | some seconds => { driven with relay := (done.1.armAutoOff channel seconds run.now).1 }
  | none => driven

/-- `_apply`: an action whose write raises is logged, and the next one follows. -/
def apply (durations : Int → Option Rat) (written : Nat → Bool) :
    Nat → Automation → List RelayAction → Automation
  | _, run, [] => run
  | index, run, action :: rest =>
    apply durations written (index + 1)
      (run.command action.1 action.2 (durations action.1) (written index)) rest

def cycle (run : Automation) (reading : CycleReading) (utcHour : Nat) (timeOfDay : Rat)
    (reserved : List Int) :
    Cycle :=
  ⟨reading, run.now, ⟨run.hour, utcHour, timeOfDay⟩, reserved⟩

def obey (run : Automation) (downlink : DownlinkCommand) (written : Bool) : Automation :=
  run.command downlink.channel downlink.state
    (if 0 < downlink.duration then some downlink.duration else none) written

def step (run : Automation) : AutomationEvent → Option Automation
  | .evaluate reading utcHour timeOfDay reserved written =>
    let plan := run.engine.evaluate (run.cycle reading utcHour timeOfDay reserved)
    some (apply plan.durations written 0 { run with engine := plan.engine, evaluated := run.now } plan.actions)
  | .downlink fport payload reserved written =>
    let engine := (run.engine.processDownlinkCommand fport payload run.now reserved written).1
    let obeyed := ((readDownlinkCommand fport payload).filter fun command =>
      decide (command.channel ∉ reserved)).elim run fun command => run.obey command written
    some { obeyed with engine := engine }
  | .autoOff thread channel written =>
    if ∃ timer ∈ run.relay.timers channel, timer.thread = thread ∧
      run.now < timer.deadline then none
    else some (run.drive (run.relay.autoOff thread channel written))
  | .setSuspendedSensors sensors => some { run with engine := run.engine.setSuspendedSensors sensors }
  | .setBaselines baselines => some { run with engine := { run.engine with baselines := baselines } }
  | .advance seconds => if 0 ≤ seconds then some { run with now := run.now + seconds } else none
  | .enterHour hour =>
    some { run with hour := hour, meter := fun channel => (run.meter channel).restart run.now }

/-- How long a relay was energised in the present clock hour. -/
def energised (run : Automation) (relay : Int) : Rat := (run.meter relay).spentBy run.now

/-- The meters show the coils. -/
def Synced (run : Automation) : Prop :=
  ∀ channel, (run.meter channel).began.isSome = run.relay.pins channel

variable {run : Automation}

theorem Synced.enterHour (synced : Synced run) (hour : Nat) :
    Synced { run with hour := hour, meter := fun channel => (run.meter channel).restart run.now } := by
  intro channel
  rw [← synced channel]
  exact Option.isSome_map ..

theorem synced_drive (relay : RelayController) : Synced (run.drive relay) :=
  fun channel => OnTime.isSome_began_switch (relay.pins channel)

theorem drive_meter (synced : Synced run) {relay : RelayController} {channel : Int}
    (same : relay.pins channel = run.relay.pins channel) :
    (run.drive relay).meter channel = run.meter channel := by
  unfold drive
  dsimp only
  rw [same, ← synced channel]
  exact OnTime.switch_isSome ..

/-- What a call of the relay controller leaves alone, and what it may do to the coils. -/
structure Driven (before after : Automation) : Prop where
  engine : after.engine = before.engine
  now : after.now = before.now
  hour : after.hour = before.hour
  evaluated : after.evaluated = before.evaluated
  synced : Synced after
  meter : ∀ channel, OnTime.Switched before.now (before.meter channel) (after.meter channel)

theorem Driven.trans {first second third : Automation} (earlier : Driven first second)
    (later : Driven second third) :
    Driven first third where
  engine := later.engine.trans earlier.engine
  now := later.now.trans earlier.now
  hour := later.hour.trans earlier.hour
  evaluated := later.evaluated.trans earlier.evaluated
  synced := later.synced
  meter channel := (earlier.meter channel).trans (earlier.now ▸ later.meter channel)

theorem driven_drive (run : Automation) (relay : RelayController) :
    Driven run (run.drive relay) where
  engine := rfl
  now := rfl
  hour := rfl
  evaluated := rfl
  synced := synced_drive relay
  meter channel := OnTime.Switched.refl.switch (relay.pins channel)

theorem armAutoOff_pins (relay : RelayController) (channel : Int) (seconds now : Rat) :
    (relay.armAutoOff channel seconds now).1.pins = relay.pins := by
  unfold RelayController.armAutoOff
  split <;> rfl

theorem command_meter_eq (channel : Int) (state : Bool) (duration : Option Rat) (written : Bool) :
    (run.command channel state duration written).meter =
      (run.drive (run.relay.set channel state false run.now written).1).meter := by
  unfold command
  dsimp only
  split <;> rfl

theorem driven_command (run : Automation) (channel : Int) (state : Bool) (duration : Option Rat)
    (written : Bool) :
    Driven run (run.command channel state duration written) := by
  have driven := driven_drive run (run.relay.set channel state false run.now written).1
  unfold command
  dsimp only
  split
  next =>
    refine ⟨rfl, rfl, rfl, rfl, fun other => ?_, driven.meter⟩
    dsimp only
    rw [armAutoOff_pins]
    exact driven.synced other
  next => exact driven

/-- A command switches its own coil, if it can be written, and no other. -/
theorem command_meter (synced : Synced run) (channel : Int) (state : Bool) (duration : Option Rat)
    (written : Bool) :
    (run.command channel state duration written).meter =
      if isChannel channel ∧ written = true then
        Function.update run.meter channel ((run.meter channel).switch run.now state)
      else run.meter := by
  rw [command_meter_eq]
  funext other
  have pins := RelayController.set_pins run.relay channel state false run.now written
  by_cases drives : isChannel channel ∧ written = true
  · rw [if_pos drives] at pins ⊢
    by_cases mine : other = channel
    · subst mine
      unfold drive
      dsimp only
      rw [pins, Function.update_self, Function.update_self]
    · rw [Function.update_of_ne mine, drive_meter synced (by rw [pins, Function.update_of_ne mine])]
  · rw [if_neg drives] at pins ⊢
    exact drive_meter synced (by rw [pins])

theorem driven_apply (durations : Int → Option Rat) (written : Nat → Bool) (index : Nat)
    (actions : List RelayAction)
    (synced : Synced run) : Driven run (apply durations written index run actions) := by
  induction actions generalizing run index with
  | nil => exact ⟨rfl, rfl, rfl, rfl, synced, fun _ => .refl⟩
  | cons action rest ih =>
    have first := driven_command run action.1 action.2 (durations action.1) (written index)
    exact first.trans (ih (index + 1) first.synced)

theorem command_meter_cases (synced : Synced run) {channel : Int} {state : Bool}
    {duration : Option Rat}
    {written : Bool} (relay : Int) :
    (run.command channel state duration written).meter relay = run.meter relay ∨
      (relay = channel ∧
        (run.command channel state duration written).meter relay = (run.meter relay).switch run.now state) := by
  rw [command_meter synced]
  split
  next =>
    by_cases mine : relay = channel
    · subst mine
      exact .inr ⟨rfl, Function.update_self ..⟩
    · exact .inl (Function.update_of_ne mine ..)
  next => exact .inl rfl

/-- A relay that is on after some actions was on before, or was switched on by one of them. -/
theorem apply_on {durations : Int → Option Rat} {written : Nat → Bool} {index : Nat}
    {actions : List RelayAction}
    (synced : Synced run) {relay : Int}
      (on : ((apply durations written index run actions).meter relay).began.isSome) :
    (apply durations written index run actions).meter relay = run.meter relay ∨ (relay, true) ∈ actions := by
  induction actions generalizing run index with
  | nil => exact .inl rfl
  | cons action rest ih =>
    have first := driven_command run action.1 action.2 (durations action.1) (written index)
    obtain same | later := ih first.synced on
    · obtain unchanged | ⟨mine, switched⟩ := command_meter_cases synced relay
      · exact .inl (same.trans unchanged)
      · have state : action.2 = true := by
          have still := same.trans switched
          exact (OnTime.isSome_began_switch action.2).symm.trans
            ((congrArg (·.began.isSome) still).symm.trans on)
        exact .inr (List.mem_cons.mpr (.inl (Prod.ext mine state.symm)))
    · exact .inr (List.mem_cons_of_mem _ later)

/-- A relay that some actions drop was switched off by one of them. -/
theorem apply_dropped (durations : Int → Option Rat) (written : Nat → Bool) (index : Nat)
    (actions : List RelayAction)
    (synced : Synced run) (relay : Int) :
    ((apply durations written index run actions).meter relay).dropped = (run.meter relay).dropped ∨
      ((relay, false) ∈ actions ∧
        ((apply durations written index run actions).meter relay).dropped = some run.now) := by
  induction actions generalizing run index with
  | nil => exact .inl rfl
  | cons action rest ih =>
    have first := driven_command run action.1 action.2 (durations action.1) (written index)
    obtain same | ⟨later, now⟩ := ih (index + 1) first.synced
    · obtain unchanged | ⟨mine, switched⟩ := command_meter_cases synced relay
      · exact .inl (same.trans (congrArg OnTime.dropped unchanged))
      · obtain kept | ⟨off, dropped⟩ := OnTime.dropped_switch (run.meter relay) run.now action.2
        · exact .inl (same.trans ((congrArg OnTime.dropped switched).trans kept))
        · exact .inr ⟨List.mem_cons.mpr (.inl (Prod.ext mine off.symm)),
            same.trans ((congrArg OnTime.dropped switched).trans dropped)⟩
    · exact .inr ⟨List.mem_cons_of_mem _ later, now.trans (congrArg some first.now)⟩

/-- A downlink does nothing, or it is a command for a channel that is not reserved. -/
theorem step_downlink {after : Automation} {fport : UInt8} {payload : Bytes} {reserved : List Int}
    {written : Bool}
    (stepped : run.step (.downlink fport payload reserved written) = some after) :
    after = run ∨ ∃ command, readDownlinkCommand fport payload = some command ∧
      command.channel ∉ reserved ∧
      after = { run.obey command written with
        engine := run.engine.applyDownlinkCommand command run.now written } := by
  have done := Option.some.inj stepped
  rw [← done]
  unfold RulesEngine.processDownlinkCommand
  cases read : readDownlinkCommand fport payload with
  | none => exact .inl rfl
  | some command =>
    by_cases owned : command.channel ∈ reserved
    · left
      simp only [Option.filter_some, owned, not_true_eq_false, decide_false, Bool.false_eq_true, ↓reduceIte,
        Option.elim_none]
    · refine .inr ⟨command, rfl, owned, ?_⟩
      simp only [Option.filter_some, owned, not_false_eq_true, decide_true, ↓reduceIte, Option.elim_some]

/-- A high pH switches relay 1 on. -/
def acidRule : Rule :=
  { sensor := "ph", operator := some .gt, relay := 1, on := true, threshold := some 8 }

/-- A cycle at which all sensors read one value, and all writes succeed. -/
def measure (ph : Rat) : AutomationEvent := .evaluate (fun _ => some ph) 0 0 [] fun _ => true

end Automation

end Wqm1.Control
