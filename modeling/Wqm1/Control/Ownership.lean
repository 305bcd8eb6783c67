import Wqm1.Control.HoldAgreement
import Wqm1.Control.RuleCycle

/-! The threads that switch relays: the sampling thread, the radio thread, the command
threads and the configuration of the irrigation hold. A thread reads who owns a channel
in one step, and writes the relay in a later one. -/

set_option autoImplicit false

namespace Wqm1.Control

open Wqm1.Library

/-- A `relay_set` command; the duration is missing when the command has none. -/
structure RelaySet where
  channel : Int
  state : Bool
  durationS : Option Rat
deriving DecidableEq

/-- What the threads share, and the switchings that passed their check and are still to
be written. -/
structure RelayThreads where
  engine : RulesEngine := {}
  unit : HoldUnit := .start
  sampling : List RelayAction := []
  radio : Option DownlinkCommand := none
  commands : List RelaySet := []

inductive ThreadEvent where
  | beginCycle (reading : CycleReading) (now : Rat) (wall : WallClock)
  | writeAction (written : Bool)
  | checkDownlink (fport : UInt8) (payload : Bytes)
  | writeDownlink (now : Rat) (written : Bool)
  | checkRelaySet (command : RelaySet)
  | writeRelaySet (thread : Nat) (written : Bool)
  | configureHold (settings : HoldSettings) (outcomes : List Bool)
  | evaluateHold (reading : CycleReading) (suspended : Option (List String)) (now wall : Rat)
      (outcomes : List Bool)
  | setSuspendedSensors (sensors : List String)
  | loadRules (rules : List (Option Rule))

namespace RelayThreads

/-- A write to a relay by a thread that is not the hold's. -/
def write (threads : RelayThreads) (channel : Int) (state written : Bool) : RelayThreads :=
  if isChannel channel ∧ written = true then
    { threads with unit := { threads.unit with
      coils := Function.update threads.unit.coils channel state
      drove := Function.update threads.unit.drove channel false } }
  else threads

def step (threads : RelayThreads) : ThreadEvent → Option RelayThreads
  | .beginCycle reading now wall =>
    if threads.sampling = [] then
      let plan := threads.engine.evaluate ⟨reading, now, wall, threads.unit.hold.reservedChannels⟩
      some { threads with engine := plan.engine, sampling := plan.actions }
    else none
  | .writeAction written =>
    match threads.sampling with
    | [] => none
    | action :: rest => some { threads.write action.1 action.2 written with sampling := rest }
  | .checkDownlink fport payload =>
    if threads.radio = none then
      some { threads with
        radio := (readDownlinkCommand fport payload).filter fun command =>
          decide (command.channel ∉ threads.unit.hold.reservedChannels) }
    else none
  | .writeDownlink now written =>
    threads.radio.map fun command =>
      { threads.write command.channel command.state written with
        engine := threads.engine.applyDownlinkCommand command now written
        radio := none }
  | .checkRelaySet command =>
    if isChannel command.channel ∧ threads.unit.hold.owns command.channel = false ∧
        0 ≤ command.durationS.getD 0 then
      some { threads with commands := threads.commands ++ [command] }
    else some threads
  | .writeRelaySet thread written =>
    threads.commands[thread]?.map fun command =>
      { threads.write command.channel command.state written with commands := threads.commands.eraseIdx thread }
  | .configureHold settings outcomes =>
    some { threads with unit := threads.unit.configure settings outcomes }
  | .evaluateHold reading suspended now wall outcomes =>
    if threads.sampling = [] then
      some { threads with unit := threads.unit.evaluate reading suspended now wall outcomes }
    else none
  | .setSuspendedSensors sensors =>
    if threads.sampling = [] then some { threads with engine := threads.engine.setSuspendedSensors sensors }
    else none
  | .loadRules rules => some { threads with engine := threads.engine.loadRules rules }

abbrev Reachable (permits : RelayThreads → ThreadEvent → Prop) (threads : RelayThreads) : Prop :=
  Events.Reaches step permits {} threads

/-- The channel that an event writes, unless the write is the hold's own. -/
def writes (threads : RelayThreads) : ThreadEvent → Option Int
  | .writeAction _ => threads.sampling.head?.map Prod.fst
  | .writeDownlink _ _ => threads.radio.map DownlinkCommand.channel
  | .writeRelaySet thread _ => threads.commands[thread]?.map RelaySet.channel
  | _ => none

/-- The channels with a switching that is still to be written. -/
def pending (threads : RelayThreads) : List Int :=
  threads.sampling.map Prod.fst ++ threads.radio.toList.map DownlinkCommand.channel ++
    threads.commands.map RelaySet.channel

/-- The hold is not armed on a channel between another thread's check and its write. -/
def armsAtRest (threads : RelayThreads) : ThreadEvent → Prop
  | .configureHold settings _ =>
    let cfg := HoldConfig.fromSettings settings
    cfg.armed = true → cfg.relay ∉ threads.pending
  | _ => True

end RelayThreads

namespace HoldUnit

theorem drive_cfg (unit : HoldUnit) (on : Bool) : (unit.drive on).hold.cfg = unit.hold.cfg := by
  unfold drive
  dsimp only
  split
  next => split <;> rfl
  next => rfl

theorem configure_cfg (unit : HoldUnit) (settings : HoldSettings) (outcomes : List Bool) :
    (unit.configure settings outcomes).hold.cfg = HoldConfig.fromSettings settings := by
  have reset_cfg (other : HoldUnit) : other.reset.hold.cfg = other.hold.cfg := rfl
  unfold configure
  dsimp only
  split
  next same => exact same.2.symm
  next =>
    split
    next =>
      rw [drive_cfg]
      split
      next => rw [reset_cfg, drive_cfg]
      next => split <;> rfl
    next =>
      split
      next => rw [reset_cfg, drive_cfg]
      next => split <;> rfl

theorem evaluate_cfg (unit : HoldUnit) (reading : CycleReading) (suspended : Option (List String)) (now wall : Rat)
    (outcomes : List Bool) : (unit.evaluate reading suspended now wall outcomes).hold.cfg = unit.hold.cfg := by
  obtain ⟨told, _, cfg, equal⟩ := evaluate_eq unit reading suspended now wall outcomes
  have retried_cfg : told.retried.hold.cfg = unit.hold.cfg := by
    unfold retried
    rw [← cfg]
    split
    next => exact drive_cfg ..
    next => rfl
  rw [equal]
  split
  next =>
    unfold judged followHolding
    dsimp only
    split
    next => rw [drive_cfg, (judge_frame _ reading now wall).2.1, retried_cfg]
    next => rw [(judge_frame _ reading now wall).2.1, retried_cfg]
  next => exact retried_cfg

end HoldUnit

namespace RelayThreads

/-- Nothing that is still to be written is on a channel of the hold. -/
def Unowned (threads : RelayThreads) : Prop :=
  ∀ channel ∈ threads.pending, threads.unit.hold.owns channel = false

theorem owns_eq_of_cfg {hold other : IrrigationHold} (same : other.cfg = hold.cfg) (channel : Int) :
    other.owns channel = hold.owns channel := by
  unfold IrrigationHold.owns
  rw [same]

theorem owns_iff_mem {hold : IrrigationHold} {channel : Int} :
    hold.owns channel = false ↔ channel ∉ hold.reservedChannels := by
  unfold IrrigationHold.owns IrrigationHold.reservedChannels
  cases hold.cfg.armed <;> simp

theorem write_cfg (threads : RelayThreads) (channel : Int) (state written : Bool) :
    (threads.write channel state written).unit.hold.cfg = threads.unit.hold.cfg := by
  unfold write
  split <;> rfl

@[simp] theorem write_sampling (threads : RelayThreads) (channel : Int) (state written : Bool) :
    (threads.write channel state written).sampling = threads.sampling := by
  unfold write
  split <;> rfl

@[simp] theorem write_radio (threads : RelayThreads) (channel : Int) (state written : Bool) :
    (threads.write channel state written).radio = threads.radio := by
  unfold write
  split <;> rfl

@[simp] theorem write_commands (threads : RelayThreads) (channel : Int) (state written : Bool) :
    (threads.write channel state written).commands = threads.commands := by
  unfold write
  split <;> rfl

theorem mem_pending {threads : RelayThreads} {channel : Int} :
    channel ∈ threads.pending ↔ (∃ action ∈ threads.sampling, action.1 = channel) ∨
      (∃ command ∈ threads.radio, command.channel = channel) ∨
      ∃ command ∈ threads.commands, command.channel = channel := by
  unfold pending
  simp only [List.mem_append, List.mem_map, Option.mem_toList, Option.mem_def, or_assoc]

/-- The hold's channel stays, and what is new among the pending was checked. -/
theorem Unowned.of_checked {before after : RelayThreads} (unowned : Unowned before)
    (cfg : after.unit.hold.cfg = before.unit.hold.cfg)
    (checked : ∀ channel ∈ after.pending, channel ∈ before.pending ∨ before.unit.hold.owns channel = false) :
    Unowned after := by
  intro channel waiting
  rw [owns_eq_of_cfg cfg]
  cases checked channel waiting with
  | inl earlier => exact unowned channel earlier
  | inr free => exact free

theorem unowned_configureHold {threads : RelayThreads} (settings : HoldSettings) (outcomes : List Bool)
    (permitted : threads.armsAtRest (.configureHold settings outcomes)) :
    Unowned { threads with unit := threads.unit.configure settings outcomes } := by
  intro channel waiting
  have cfg := HoldUnit.configure_cfg threads.unit settings outcomes
  unfold IrrigationHold.owns
  dsimp only
  rw [cfg]
  cases armed : (HoldConfig.fromSettings settings).armed with
  | false => rfl
  | true =>
    rw [Bool.true_and, beq_eq_false_iff_ne]
    intro same
    rw [same] at waiting
    exact permitted armed waiting

theorem unowned_step {threads after : RelayThreads} (unowned : Unowned threads) {event : ThreadEvent}
    (permitted : threads.armsAtRest event) (stepped : threads.step event = some after) : Unowned after := by
  cases event with
  | beginCycle reading now wall =>
    unfold step at stepped
    dsimp only at stepped
    split at stepped
    next =>
      rw [← Option.some.inj stepped]
      refine unowned.of_checked rfl fun channel waiting => ?_
      cases mem_pending.mp waiting with
      | inl planned =>
        obtain ⟨action, member, same⟩ := planned
        right
        rw [owns_iff_mem, ← same]
        exact RulesEngine.unreserved_of_mem_actions member
      | inr others => exact .inl (mem_pending.mpr (.inr others))
    next => cases stepped
  | writeAction written =>
    unfold step at stepped
    dsimp only at stepped
    split at stepped
    next => cases stepped
    next action rest sampling =>
      rw [← Option.some.inj stepped]
      refine unowned.of_checked (write_cfg ..) fun channel waiting => .inl ?_
      rw [mem_pending] at waiting ⊢
      simp only [write_radio, write_commands] at waiting
      cases waiting with
      | inl planned =>
        obtain ⟨later, member, same⟩ := planned
        left
        refine ⟨later, ?_, same⟩
        rw [sampling]
        exact List.mem_cons_of_mem _ member
      | inr others => exact .inr others
  | checkDownlink fport payload =>
    unfold step at stepped
    dsimp only at stepped
    split at stepped
    next =>
      rw [← Option.some.inj stepped]
      refine unowned.of_checked rfl fun channel waiting => ?_
      rw [mem_pending] at waiting ⊢
      cases waiting with
      | inl planned => exact .inl (.inl planned)
      | inr others =>
        cases others with
        | inl new =>
          obtain ⟨command, checked, same⟩ := new
          right
          rw [owns_iff_mem, ← same]
          exact of_decide_eq_true (Option.filter_eq_some_iff.mp checked).2
        | inr commanded => exact .inl (.inr (.inr commanded))
    next => cases stepped
  | writeDownlink now written =>
    unfold step at stepped
    dsimp only at stepped
    obtain ⟨command, _, same⟩ := Option.map_eq_some_iff.mp stepped
    rw [← same]
    refine unowned.of_checked (write_cfg ..) fun channel waiting => .inl ?_
    rw [mem_pending] at waiting ⊢
    simp only [write_sampling, write_commands] at waiting
    cases waiting with
    | inl planned => exact .inl planned
    | inr others =>
      cases others with
      | inl none =>
        obtain ⟨_, absent, _⟩ := none
        cases absent
      | inr commanded => exact .inr (.inr commanded)
  | checkRelaySet command =>
    unfold step at stepped
    dsimp only at stepped
    split at stepped
    next accepted =>
      rw [← Option.some.inj stepped]
      refine unowned.of_checked rfl fun channel waiting => ?_
      rw [mem_pending] at waiting ⊢
      cases waiting with
      | inl planned => exact .inl (.inl planned)
      | inr others =>
        cases others with
        | inl radio => exact .inl (.inr (.inl radio))
        | inr commanded =>
          obtain ⟨listed, member, same⟩ := commanded
          cases List.mem_append.mp member with
          | inl earlier => exact .inl (.inr (.inr ⟨listed, earlier, same⟩))
          | inr new =>
            right
            rw [← same, List.mem_singleton.mp new]
            exact accepted.2.1
    next =>
      cases stepped
      exact unowned
  | writeRelaySet thread written =>
    unfold step at stepped
    dsimp only at stepped
    obtain ⟨command, _, same⟩ := Option.map_eq_some_iff.mp stepped
    rw [← same]
    refine unowned.of_checked (write_cfg ..) fun channel waiting => .inl ?_
    rw [mem_pending] at waiting ⊢
    simp only [write_sampling, write_radio] at waiting
    cases waiting with
    | inl planned => exact .inl planned
    | inr others =>
      cases others with
      | inl radio => exact .inr (.inl radio)
      | inr commanded =>
        obtain ⟨listed, member, same⟩ := commanded
        exact .inr (.inr ⟨listed, List.mem_of_mem_eraseIdx member, same⟩)
  | configureHold settings outcomes =>
    cases stepped
    exact unowned_configureHold settings outcomes permitted
  | evaluateHold reading suspended now wall outcomes =>
    unfold step at stepped
    dsimp only at stepped
    split at stepped
    next =>
      cases stepped
      exact unowned.of_checked (HoldUnit.evaluate_cfg ..) fun channel waiting => .inl waiting
    next => cases stepped
  | setSuspendedSensors sensors =>
    unfold step at stepped
    dsimp only at stepped
    split at stepped
    next =>
      cases stepped
      exact unowned
    next => cases stepped
  | loadRules rules =>
    cases stepped
    exact unowned

theorem unowned_reachable {threads : RelayThreads} (reached : threads.Reachable armsAtRest) :
    Unowned threads := by
  apply reached.invariant
  · intro channel waiting
    cases waiting
  · intro before event after _ permitted stepped unowned
    exact unowned_step unowned permitted stepped

/-- In every run in which the hold is never armed on a channel between another thread's
check and its write, no other thread writes a channel that the hold is armed on. -/
theorem no_write_on_owned_channel {threads : RelayThreads} (reached : threads.Reachable armsAtRest)
    {event : ThreadEvent} {channel : Int} (write : threads.writes event = some channel) :
    threads.unit.hold.owns channel = false := by
  apply unowned_reachable reached
  rw [mem_pending]
  cases event with
  | writeAction written =>
    obtain ⟨action, first, same⟩ := Option.map_eq_some_iff.mp write
    exact .inl ⟨action, List.mem_of_mem_head? first, same⟩
  | writeDownlink now written =>
    obtain ⟨command, checked, same⟩ := Option.map_eq_some_iff.mp write
    exact .inr (.inl ⟨command, checked, same⟩)
  | writeRelaySet thread written =>
    obtain ⟨command, checked, same⟩ := Option.map_eq_some_iff.mp write
    exact .inr (.inr ⟨command, List.mem_of_getElem? checked, same⟩)
  | beginCycle reading now wall => cases write
  | checkDownlink fport payload => cases write
  | checkRelaySet command => cases write
  | configureHold settings outcomes => cases write
  | evaluateHold reading suspended now wall outcomes => cases write
  | setSuspendedSensors sensors => cases write
  | loadRules rules => cases write

instance (threads : RelayThreads) (event : ThreadEvent) : Decidable (threads.armsAtRest event) := by
  cases event <;> unfold armsAtRest <;> infer_instance

/-- Relay 1 on when the water is turbid. -/
def flush : Rule :=
  { sensor := "turbidity_ntu", operator := some .ge, relay := 1, on := true, threshold := some 8 }

theorem no_write_on_owned_channel_elsewhere :
    ∃ threads : RelayThreads, threads.Reachable armsAtRest ∧ threads.unit.hold.owns 1 = true ∧
      threads.writes (.writeRelaySet 0 true) = some 2 ∧ threads.unit.hold.owns 2 = false := by
  have played : (Events.play step armsAtRest {} [.checkRelaySet ⟨2, true, none⟩,
      .configureHold HoldUnit.turbidHold []]).map (fun threads =>
        (threads.unit.hold.owns 1, threads.writes (.writeRelaySet 0 true))) = some (true, some 2) := by
    decide +kernel
  obtain ⟨threads, reached, seen⟩ := Option.map_eq_some_iff.mp played
  simp only [Prod.mk.injEq] at seen
  exact ⟨threads, Events.reaches_play reached, seen.1, seen.2,
    no_write_on_owned_channel (Events.reaches_play reached) seen.2⟩

/-- The hold is armed on relay 1 while a rule's ON for it waits to be written. -/
theorem rule_writes_owned_channel :
    ¬ ∀ (threads : RelayThreads) (event : ThreadEvent) (channel : Int), threads.Reachable Events.anything →
      threads.writes event = some channel → threads.unit.hold.owns channel = false := by
  intro claimed
  have played : (Events.play step Events.anything {} [.loadRules [some flush],
      .beginCycle HoldUnit.turbid 0 ⟨0, 0, 0⟩, .configureHold HoldUnit.turbidHold []]).map (fun threads =>
        (threads.unit.hold.owns 1, threads.writes (.writeAction true))) = some (true, some 1) := by
    decide +kernel
  obtain ⟨threads, reached, seen⟩ := Option.map_eq_some_iff.mp played
  simp only [Prod.mk.injEq] at seen
  have free := claimed threads (.writeAction true) 1 (Events.reaches_play reached) seen.2
  rw [seen.1] at free
  cases free

end RelayThreads

end Wqm1.Control
