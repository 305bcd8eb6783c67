import Wqm1.Control.Automation

/-! The cooldown of a relay, against the moments at which its coil was dropped. -/

set_option autoImplicit false

namespace Wqm1.Control

open Wqm1.Library

namespace RulesEngine

/-- The engine's timer for a relay has elapsed. -/
def due (engine : RulesEngine) (now : Rat) (relay : Int) : Prop :=
  ∃ shutoff ∈ engine.timers.get relay, shutoff ≤ now

instance (engine : RulesEngine) (now : Rat) (relay : Int) : Decidable (engine.due now relay) :=
  inferInstanceAs (Decidable (∃ shutoff ∈ engine.timers.get relay, shutoff ≤ now))

/-- An elapsed timer is swept, unless its channel is reserved. -/
theorem mem_sweptOff_of_due {engine : RulesEngine} {cycle : Cycle} {relay : Int}
    (due : engine.due cycle.now relay)
    (free : relay ∉ cycle.reserved) : (relay, false) ∈ engine.sweptOff cycle := by
  obtain ⟨shutoff, live, elapsed⟩ := due
  by_cases waiting : relay ∈ engine.pendingFailsafe
  · exact List.mem_append_left _ (mem_revert_iff.mpr ⟨⟨waiting, free⟩, rfl⟩)
  · refine List.mem_append_right _ (mem_expire_iff.mpr ⟨⟨shutoff, ?_, elapsed⟩, free, rfl⟩)
    exact get_timers_revert.mpr ⟨live, fun pending => waiting pending.1⟩

theorem off_of_mem_sweptOff {engine : RulesEngine} {cycle : Cycle} {action : RelayAction}
    (swept : action ∈ engine.sweptOff cycle) : action.2 = false := by
  cases List.mem_append.mp swept with
  | inl reverted => exact (mem_revert_iff.mp reverted).2
  | inr expired => exact (mem_expire_iff.mp expired).2.2

theorem rested_of_not_isInCooldown {engine : RulesEngine} {relay : Int} {now : Rat}
    (resting : engine.isInCooldown relay now = false) (cooling : 0 < engine.cooldownS) :
    ∀ last ∈ engine.lastOff relay, engine.cooldownS ≤ now - last := by
  intro last noted
  unfold isInCooldown at resting
  rw [show engine.lastOff relay = some last from noted] at resting
  simpa only [cooling, decide_true, Bool.true_and, decide_eq_false_iff_not, not_lt] using resting

end RulesEngine

namespace Automation

/-- The plan of a cycle: the engine has noted every drop, and an ON is planned only for a
relay that is off for the cooldown, also in the cycle itself. -/
structure Spaced (run : Automation) (plan : CyclePlan) : Prop where
  recorded : ∀ relay, ∀ dropped ∈ (run.meter relay).dropped, ∃ last ∈ plan.engine.lastOff relay, dropped ≤ last
  noted : ∀ relay, (relay, false) ∈ plan.actions → plan.engine.lastOff relay = some run.now
  cooldown : plan.engine.cooldownS = run.engine.cooldownS
  ordered : plan.actions.Pairwise fun earlier later => earlier = (later.1, false) → later.2 = false
  rested : ∀ relay, (relay, true) ∈ plan.actions →
    ∀ dropped ∈ (run.meter relay).dropped, run.engine.cooldownS ≤ run.now - dropped

variable {run : Automation} {plan : CyclePlan} {cycle : Cycle}

theorem actions_concat {plan before : CyclePlan} {action : RelayAction}
    (failsafe : plan.failsafe = before.failsafe)
    (expired : plan.expired = before.expired)
    (commands : plan.commands = before.commands ++ [action]) :
    plan.actions = before.actions ++ [action] := by
  unfold CyclePlan.actions
  rw [failsafe, expired, commands, List.append_assoc, List.append_assoc, List.append_assoc]

theorem Spaced.switchOn (spaced : Spaced run plan) (cooling : 0 < run.engine.cooldownS)
    (now : cycle.now = run.now)
    {rule : Rule} {onTime : Int → Option (Nat × Rat)}
    (resting : plan.engine.isInCooldown rule.relay cycle.now = false) :
    Spaced run (RulesEngine.switchOn { plan with engine := { plan.engine with onTime := onTime } } cycle rule) := by
  have actions : (RulesEngine.switchOn { plan with engine := { plan.engine with onTime := onTime } } cycle rule).actions =
      plan.actions ++ [(rule.relay, true)] := actions_concat rfl rfl rfl
  have rested := RulesEngine.rested_of_not_isInCooldown resting (spaced.cooldown ▸ cooling)
  rw [now, spaced.cooldown] at rested
  refine ⟨spaced.recorded, fun relay planned => ?_, spaced.cooldown, ?_, fun relay planned => ?_⟩
  · rw [actions] at planned
    cases List.mem_append.mp planned with
    | inl before => exact spaced.noted relay before
    | inr new => cases List.mem_singleton.mp new
  · rw [actions]
    refine List.pairwise_append.mpr ⟨spaced.ordered, List.pairwise_singleton .., fun earlier before later new off => ?_⟩
    cases List.mem_singleton.mp new
    subst off
    have noted := rested run.now (spaced.noted rule.relay before)
    rw [sub_self] at noted
    exact absurd cooling (not_lt_of_ge noted)
  · rw [actions] at planned
    cases List.mem_append.mp planned with
    | inl before => exact spaced.rested relay before
    | inr new =>
      cases List.mem_singleton.mp new
      intro dropped off
      obtain ⟨last, noted, after⟩ := spaced.recorded rule.relay dropped off
      exact (rested last noted).trans (sub_le_sub_left after _)

theorem Spaced.switchOff (spaced : Spaced run plan)
    (timely : ∀ relay, (run.meter relay).Timely run.now)
    (now : cycle.now = run.now) (rule : Rule) :
    Spaced run (RulesEngine.switchOff plan cycle rule) := by
  have actions :
      (RulesEngine.switchOff plan cycle rule).actions = plan.actions ++ [(rule.relay, false)] :=
    actions_concat rfl rfl rfl
  have lastOff (relay : Int) : (RulesEngine.switchOff plan cycle rule).engine.lastOff relay =
      if relay = rule.relay then some run.now else plan.engine.lastOff relay := by
    unfold RulesEngine.switchOff RulesEngine.noteOff
    simp only [List.mem_singleton, now]
  refine ⟨fun relay dropped off => ?_, fun relay planned => ?_, spaced.cooldown, ?_, fun relay planned => ?_⟩
  · rw [lastOff]
    split
    next => exact ⟨run.now, rfl, (timely relay).dropped dropped off⟩
    next => exact spaced.recorded relay dropped off
  · rw [actions] at planned
    rw [lastOff]
    split
    next => rfl
    next other =>
      cases List.mem_append.mp planned with
      | inl before => exact spaced.noted relay before
      | inr new =>
        cases List.mem_singleton.mp new
        exact absurd rfl other
  · rw [actions]
    refine List.pairwise_append.mpr ⟨spaced.ordered, List.pairwise_singleton .., fun earlier _ later new _ => ?_⟩
    cases List.mem_singleton.mp new
    rfl
  · rw [actions] at planned
    cases List.mem_append.mp planned with
    | inl before => exact spaced.rested relay before
    | inr new => cases List.mem_singleton.mp new

theorem Spaced.runRule (spaced : Spaced run plan) (cooling : 0 < run.engine.cooldownS)
    (timely : ∀ relay, (run.meter relay).Timely run.now) (now : cycle.now = run.now) (rule : Rule) :
    Spaced run (RulesEngine.runRule cycle plan rule) := by
  obtain same | ⟨-, resting, left, same⟩ | ⟨-, same⟩ := RulesEngine.runRule_outcome cycle plan rule
  · rw [same]
    exact spaced
  · obtain ⟨onTime, counted, -⟩ := RulesEngine.checkOnTimeBudget_left left
    rw [same, counted]
    exact spaced.switchOn cooling now resting
  · rw [same]
    exact spaced.switchOff timely now rule

/-- Every drop of a relay is noted by the engine, or by its timer for the relay, which has
elapsed and is still to be swept. -/
structure Recorded (run : Automation) : Prop where
  synced : Synced run
  timely : ∀ relay, (run.meter relay).Timely run.now
  noted : ∀ relay, ∀ dropped ∈ (run.meter relay).dropped,
    (∃ last ∈ run.engine.lastOff relay, dropped ≤ last) ∨ run.engine.due run.now relay

theorem Recorded.spaced (recorded : Recorded run) (cooling : 0 < run.engine.cooldownS)
    (now : cycle.now = run.now)
    (free : ∀ relay ∈ cycle.reserved, ¬ run.engine.due run.now relay) :
    Spaced run (run.engine.evaluate cycle) := by
  have begins (before : CyclePlan)
      (swept : before.engine.lastOff = (run.engine.swept cycle).lastOff)
      (cooldown : before.engine.cooldownS = run.engine.cooldownS)
      (actions : before.actions = run.engine.sweptOff cycle) : Spaced run before := by
    refine ⟨fun relay dropped off => ?_, fun relay planned => ?_, cooldown, ?_, fun relay planned => ?_⟩
    · rw [swept, RulesEngine.swept_lastOff, now]
      split
      next => exact ⟨run.now, rfl, (recorded.timely relay).dropped dropped off⟩
      next kept =>
        cases recorded.noted relay dropped off with
        | inl noted => exact noted
        | inr due =>
          exact absurd (RulesEngine.mem_sweptOff_of_due (now ▸ due) fun owned => free relay owned due) kept
    · rw [actions] at planned
      rw [swept, RulesEngine.swept_lastOff, if_pos planned, now]
    · rw [actions]
      exact List.pairwise_of_forall_mem_list fun _ _ later member _ => RulesEngine.off_of_mem_sweptOff member
    · rw [actions] at planned
      cases RulesEngine.off_of_mem_sweptOff planned
  rw [RulesEngine.evaluate_eq]
  split
  next =>
    exact RulesEngine.foldl_runRule (Spaced run)
      (fun _ rule _ spaced => spaced.runRule cooling recorded.timely now rule)
      (begins _ rfl rfl (List.append_nil _))
  next => exact begins _ rfl rfl (List.append_nil _)

/-- No downlink switches off a relay that is on, the controller's own auto-off drops only a
relay for which the engine's timer has elapsed, and an elapsed timer of the engine is not
replaced and not on a reserved channel before it is swept. -/
def DropsNoted (run : Automation) : AutomationEvent → Prop
  | .evaluate _ _ _ reserved _ => ∀ relay ∈ reserved, ¬ run.engine.due run.now relay
  | .downlink fport payload reserved written => ∀ command ∈ readDownlinkCommand fport payload,
      command.channel ∉ reserved → written = true →
        (command.state = false → run.relay.pins command.channel = false) ∧
          (command.state = true → 0 < command.duration → ¬ run.engine.due run.now command.channel)
  | .autoOff thread channel written => (run.relay.timers channel).map RelayTimer.thread = some thread →
      run.relay.state channel = true → written = true → run.engine.due run.now channel
  | _ => True

variable {before after : Automation}

theorem Recorded.sameEngine (recorded : Recorded before) {engine : RulesEngine}
    (lastOff : engine.lastOff = before.engine.lastOff)
    (timers : engine.timers = before.engine.timers) :
    Recorded { before with engine := engine } := by
  refine ⟨recorded.synced, recorded.timely, fun relay dropped off => ?_⟩
  unfold RulesEngine.due
  dsimp only
  rw [lastOff, timers]
  exact recorded.noted relay dropped off

theorem Recorded.evaluated (recorded : Recorded before) (cooling : 0 < before.engine.cooldownS)
    {reading : CycleReading} {utcHour : Nat} {timeOfDay : Rat} {reserved : List Int} {written : Nat → Bool}
    (noted : before.DropsNoted (.evaluate reading utcHour timeOfDay reserved written))
    (stepped : before.step (.evaluate reading utcHour timeOfDay reserved written) = some after) :
    Recorded after ∧ after.engine.cooldownS = before.engine.cooldownS := by
  have done := Option.some.inj stepped
  have spaced :
      Spaced before (before.engine.evaluate (before.cycle reading utcHour timeOfDay reserved)) :=
    recorded.spaced cooling rfl noted
  generalize before.engine.evaluate (before.cycle reading utcHour timeOfDay reserved) = plan at done spaced
  have ready : Synced { before with engine := plan.engine, evaluated := before.now } :=
    recorded.synced
  have driven := driven_apply plan.durations written 0 plan.actions ready
  have drops := apply_dropped plan.durations written 0 plan.actions ready
  rw [done] at driven drops
  refine ⟨⟨driven.synced, fun relay => ?_, fun relay dropped off => .inl ?_⟩, ?_⟩
  · rw [driven.now]
    exact (driven.meter relay).timely (recorded.timely relay)
  · rw [driven.engine]
    obtain same | ⟨planned, new⟩ := drops relay
    · rw [same] at off
      exact spaced.recorded relay dropped off
    · rw [new] at off
      cases off
      exact ⟨before.now, spaced.noted relay planned, le_rfl⟩
  · rw [driven.engine]
    exact spaced.cooldown

/-- A write to a relay that does not drop it. -/
theorem Recorded.driven (recorded : Recorded before) (driven : Driven before after)
    (kept : ∀ relay, (after.meter relay).dropped = (before.meter relay).dropped) :
    Recorded after := by
  refine ⟨driven.synced, fun relay => ?_, fun relay dropped off => ?_⟩
  · rw [driven.now]
    exact (driven.meter relay).timely (recorded.timely relay)
  · rw [driven.engine, driven.now]
    rw [kept] at off
    exact recorded.noted relay dropped off

theorem dropped_command (synced : Synced before) {channel : Int} {state written : Bool}
    {duration : Option Rat}
    (still : written = true → state = false → before.relay.pins channel = false) (relay : Int) :
    ((before.command channel state duration written).meter relay).dropped = (before.meter relay).dropped := by
  rw [command_meter synced]
  split
  next drives =>
    by_cases mine : relay = channel
    · subst mine
      rw [Function.update_self]
      obtain kept | ⟨off, -⟩ := OnTime.dropped_switch (before.meter relay) before.now state
      · exact kept
      · have coil : (before.meter relay).began.isSome = state := by
          rw [synced relay, still drives.2 off, off]
        rw [← coil, OnTime.switch_isSome]
    · rw [Function.update_of_ne mine]
  next => rfl

theorem Recorded.obeyed (recorded : Recorded before) {fport : UInt8} {payload : Bytes}
    {reserved : List Int}
    {written : Bool} (noted : before.DropsNoted (.downlink fport payload reserved written))
    (stepped : before.step (.downlink fport payload reserved written) = some after) :
    Recorded after ∧ after.engine.cooldownS = before.engine.cooldownS := by
  obtain same | ⟨command, read, free, same⟩ := step_downlink stepped
  · rw [same]
    exact ⟨recorded, rfl⟩
  · have kept := noted command read free
    have driven : Driven before (before.obey command written) := driven_command ..
    have obeyed : Recorded (before.obey command written) :=
      recorded.driven driven (dropped_command recorded.synced fun writes => (kept writes).1)
    rw [same, ← driven.engine, ← driven.now]
    unfold RulesEngine.applyDownlinkCommand
    split
    next timed =>
      refine ⟨⟨obeyed.synced, obeyed.timely, fun relay dropped off => ?_⟩, rfl⟩
      obtain noted | due := obeyed.noted relay dropped off
      · exact .inl noted
      · rw [driven.engine, driven.now] at due
        have other : relay ≠ command.channel := by
          intro mine
          exact (kept timed.1).2 timed.2.1 timed.2.2 (mine ▸ due)
        obtain ⟨shutoff, live, elapsed⟩ := due
        refine .inr ⟨shutoff, ?_, by rw [driven.now]; exact elapsed⟩
        rw [Dict.get_set, if_neg other, driven.engine]
        exact live
    next => exact ⟨obeyed, rfl⟩

/-- The controller's own auto-off drops the channel of its timer, or nothing. -/
theorem autoOff_pins (relay : RelayController) (thread : Nat) (channel : Int) (written : Bool) :
    (relay.autoOff thread channel written).pins = relay.pins ∨
      ((relay.timers channel).map RelayTimer.thread = some thread ∧ relay.state channel = true ∧ written = true ∧
        (relay.autoOff thread channel written).pins =
          Function.update relay.pins channel false) := by
  unfold RelayController.autoOff
  split
  next own =>
    dsimp only
    split
    next drops => exact .inr ⟨own, drops.1, drops.2, rfl⟩
    next => exact .inl rfl
  next => exact .inl rfl

theorem Recorded.autoOff (recorded : Recorded before) {thread : Nat} {channel : Int}
    {written : Bool}
    (noted : before.DropsNoted (.autoOff thread channel written)) :
    Recorded (before.drive (before.relay.autoOff thread channel written)) := by
  have driven := driven_drive before (before.relay.autoOff thread channel written)
  obtain still | ⟨own, on, writes, dropped⟩ := autoOff_pins before.relay thread channel written
  · exact recorded.driven driven fun relay =>
      congrArg OnTime.dropped (drive_meter recorded.synced (congrFun still relay))
  · refine ⟨driven.synced, fun relay => ?_, fun relay moment off => ?_⟩
    · exact (driven.meter relay).timely (recorded.timely relay)
    · by_cases mine : relay = channel
      · subst mine
        exact .inr (noted own on writes)
      · have same : (before.drive (before.relay.autoOff thread channel written)).meter relay = before.meter relay :=
          drive_meter recorded.synced (by rw [dropped, Function.update_of_ne mine])
        rw [same] at off
        exact recorded.noted relay moment off

theorem Recorded.step (recorded : Recorded before) (cooling : 0 < before.engine.cooldownS)
    {event : AutomationEvent}
    (noted : before.DropsNoted event) (stepped : before.step event = some after) :
    Recorded after ∧ after.engine.cooldownS = before.engine.cooldownS := by
  cases event with
  | evaluate reading utcHour timeOfDay reserved written => exact recorded.evaluated cooling noted stepped
  | downlink fport payload reserved written => exact recorded.obeyed noted stepped
  | autoOff thread channel written =>
    obtain ⟨-, later⟩ := Option.ite_none_left_eq_some.mp stepped
    cases later
    exact ⟨recorded.autoOff noted, rfl⟩
  | setSuspendedSensors sensors =>
    cases stepped
    exact ⟨recorded.sameEngine rfl rfl, rfl⟩
  | setBaselines baselines =>
    cases stepped
    exact ⟨recorded.sameEngine rfl rfl, rfl⟩
  | advance seconds =>
    obtain ⟨forward, later⟩ := Option.ite_none_right_eq_some.mp stepped
    cases later
    have after : before.now ≤ before.now + seconds := le_add_of_nonneg_right forward
    refine ⟨⟨recorded.synced, fun relay => (recorded.timely relay).later after, fun relay dropped off => ?_⟩, rfl⟩
    obtain noted | ⟨shutoff, live, elapsed⟩ := recorded.noted relay dropped off
    · exact .inl noted
    · exact .inr ⟨shutoff, live, elapsed.trans after⟩
  | enterHour hour =>
    cases stepped
    exact ⟨⟨recorded.synced.enterHour hour, fun relay => (recorded.timely relay).restart, recorded.noted⟩, rfl⟩

theorem recorded_start (rules : List Rule) (policies : Policies) (maxOnS : Rat) (hour : Nat) :
    Recorded (start rules policies maxOnS hour) where
  synced _ := rfl
  timely _ := OnTime.timely_new _
  noted _ _ impossible := by cases impossible

/-- In a run whose drops are all noted, a cycle orders no relay on before the cooldown has
passed since the relay was last dropped, also by the cycle itself. -/
theorem cooldown_kept (rules : List Rule) (policies : Policies) (cooling : 0 < policies.cooldownS)
    (maxOnS : Rat)
    (hour : Nat) {run : Automation}
    (reached : Events.Reaches step DropsNoted (start rules policies maxOnS hour) run)
    {reading : CycleReading} {utcHour : Nat} {timeOfDay : Rat} {reserved : List Int} {written : Nat → Bool}
    (noted : run.DropsNoted (.evaluate reading utcHour timeOfDay reserved written)) {plan : CyclePlan}
    (planned : run.engine.evaluate (run.cycle reading utcHour timeOfDay reserved) = plan)
    {earlier later : List RelayAction} {relay : Int}
      (ordered : plan.actions = earlier ++ (relay, true) :: later) :
    ∀ dropped ∈ ((apply plan.durations written 0 { run with engine := plan.engine, evaluated := run.now }
      earlier).meter relay).dropped, policies.cooldownS ≤ run.now - dropped := by
  have recorded : Recorded run ∧ run.engine.cooldownS = policies.cooldownS := by
    apply reached.invariant
    · exact ⟨recorded_start rules policies maxOnS hour, rfl⟩
    · intro before event after _ noted stepped recorded
      have kept := recorded.1.step (recorded.2 ▸ cooling) noted stepped
      exact ⟨kept.1, kept.2.trans recorded.2⟩
  have spaced : Spaced run plan := planned ▸ recorded.1.spaced (recorded.2 ▸ cooling) rfl noted
  have ready : Synced { run with engine := plan.engine, evaluated := run.now } := recorded.1.synced
  intro dropped off
  obtain same | ⟨switched, -⟩ := apply_dropped plan.durations written 0 earlier ready relay
  · rw [same] at off
    rw [← recorded.2]
    refine spaced.rested relay ?_ dropped off
    rw [ordered]
    exact List.mem_append_right _ List.mem_cons_self
  · have pairs := spaced.ordered
    rw [ordered] at pairs
    have impossible :=
      (List.pairwise_append.mp pairs).2.2 _ switched (relay, true) List.mem_cons_self rfl
    cases impossible

instance (run : Automation) : ∀ event, Decidable (run.DropsNoted event)
  | .evaluate _ _ _ reserved _ => inferInstanceAs (Decidable (∀ relay ∈ reserved, ¬ run.engine.due run.now relay))
  | .downlink fport payload reserved written => inferInstanceAs (Decidable (∀ command ∈ readDownlinkCommand fport payload,
      command.channel ∉ reserved → written = true →
        (command.state = false → run.relay.pins command.channel = false) ∧
          (command.state = true → 0 < command.duration → ¬ run.engine.due run.now command.channel)))
  | .autoOff thread channel written => inferInstanceAs (Decidable
      ((run.relay.timers channel).map RelayTimer.thread = some thread → run.relay.state channel = true →
        written = true → run.engine.due run.now channel))
  | .setSuspendedSensors _ | .setBaselines _ | .advance _ | .enterHour _ => inferInstanceAs (Decidable True)

def twoMinutes : Policies := { cooldownS := 120 }

/-- The controller drops relay 1 after 30 seconds, and the engine notes it 30 seconds later. -/
def timedRun : List AutomationEvent :=
  [measure 9, .advance 30, .autoOff 0 1 true, .advance 30, measure 7, .advance 120]

theorem cooldown_kept_timed : ∃ run,
    Events.play step DropsNoted (start [{ acidRule with durationS := 30 }] twoMinutes 0 9) timedRun = some run ∧
      (run.meter 1).dropped = some 30 ∧ 120 ≤ run.now - 30 := by
  have plays : (Events.play step DropsNoted (start [{ acidRule with durationS := 30 }] twoMinutes 0 9) timedRun).any
      (fun run => run.DropsNoted (measure 9) ∧ (run.meter 1).dropped = some 30 ∧
        (run.engine.evaluate (run.cycle (fun _ => some 9) 0 0 [])).actions = [(1, true)]) = true := by decide +kernel
  obtain ⟨run, played, ended⟩ := (Option.any_eq_true _ _).mp plays
  obtain ⟨noted, dropped, ordered⟩ := of_decide_eq_true ended
  exact ⟨run, played, dropped, cooldown_kept [{ acidRule with durationS := 30 }] twoMinutes (by decide) 0 9
    (Events.reaches_play played) noted rfl (show _ = [] ++ (1, true) :: [] from ordered) 30 dropped⟩

/-- A downlink drops relay 1, and the rule that is still triggered switches it on again. -/
theorem cooldown_broken :
    ¬ ∀ (rules : List Rule) (policies : Policies) (maxOnS : Rat) (hour : Nat) (run : Automation),
      0 < policies.cooldownS →
        Events.Reaches step Events.anything (start rules policies maxOnS hour) run →
      ∀ (reading : CycleReading) (utcHour : Nat) (timeOfDay : Rat) (reserved : List Int) (written : Nat → Bool)
        (plan : CyclePlan) (earlier later : List RelayAction) (relay : Int),
        run.engine.evaluate (run.cycle reading utcHour timeOfDay reserved) = plan →
        plan.actions = earlier ++ (relay, true) :: later →
        ∀ dropped ∈ ((apply plan.durations written 0 { run with engine := plan.engine, evaluated := run.now }
          earlier).meter relay).dropped, policies.cooldownS ≤ run.now - dropped := by
  intro kept
  have plays : (Events.play step Events.anything (start [acidRule] twoMinutes 0 9)
      [measure 9, .advance 10, .downlink 100 [1, 0] [] true, .advance 5]).any (fun run =>
        (run.meter 1).dropped = some 10 ∧ ¬ 120 ≤ run.now - 10 ∧
          (run.engine.evaluate (run.cycle (fun _ => some 9) 0 0 [])).actions = [(1, true)]) = true := by decide +kernel
  obtain ⟨run, played, ended⟩ := (Option.any_eq_true _ _).mp plays
  obtain ⟨dropped, early, ordered⟩ := of_decide_eq_true ended
  exact early (kept [acidRule] twoMinutes 0 9 run (by decide) (Events.reaches_play played) (fun _ => some 9) 0 0 []
    (fun _ => true) _ [] [] 1 rfl ordered 10 dropped)

end Automation

end Wqm1.Control
