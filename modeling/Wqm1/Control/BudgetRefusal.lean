import Wqm1.Control.Automation

/-! When the hourly budget refuses a relay, against the time for which the relay was
energised. -/

set_option autoImplicit false

namespace Wqm1.Control

open Wqm1.Library

namespace RulesEngine

/-- The ON of a rule is skipped because of the on-time budget. -/
def skips (cycle : Cycle) (plan : CyclePlan) (rule : Rule) : Bool :=
  plan.engine.triggered cycle rule && rule.on && !plan.engine.isInCooldown rule.relay cycle.now &&
    !(plan.engine.checkOnTimeBudget rule.relay cycle.wall.hour).2

def skippedBy (cycle : Cycle) : CyclePlan → List Rule → List Int
  | _, [] => []
  | plan, rule :: rest =>
    (if skips cycle plan rule then [rule.relay] else []) ++ skippedBy cycle (runRule cycle plan rule) rest

/-- The relays whose ON a cycle skips because of the on-time budget. -/
def skipped (engine : RulesEngine) (cycle : Cycle) : List Int :=
  if engine.runsRules cycle then skippedBy cycle (engine.begun cycle) engine.rules else []

theorem mem_skippedBy {cycle : Cycle} (holds : CyclePlan → Prop)
    (kept : ∀ plan rule, holds plan → holds (runRule cycle plan rule)) {rules : List Rule} {plan : CyclePlan}
    (held : holds plan) {relay : Int} (skipped : relay ∈ skippedBy cycle plan rules) :
    ∃ plan rule, holds plan ∧ rule ∈ rules ∧ rule.relay = relay ∧ skips cycle plan rule = true := by
  induction rules generalizing plan with
  | nil => cases skipped
  | cons rule rest ih =>
    unfold skippedBy at skipped
    cases List.mem_append.mp skipped with
    | inl here =>
      split at here
      next skips => exact ⟨plan, rule, held, List.mem_cons_self, (List.mem_singleton.mp here).symm, skips⟩
      next => cases here
    | inr later =>
      obtain ⟨reached, other, holds, member, rest⟩ := ih (kept plan rule held) later
      exact ⟨reached, other, holds, List.mem_cons_of_mem _ member, rest⟩

/-- What the engine has counted for a relay in this hour is on-time of the relay. -/
structure Counts (engine : RulesEngine) (hour : Nat) (now : Rat) (relay : Int)
    (meter : OnTime Rat) : Prop where
  counted : ∀ seconds, engine.onTime relay = some (hour, seconds) →
    seconds ≤ meter.spentBy ((engine.onSince relay).getD now)
  since : ∀ since ∈ engine.onSince relay, since ≤ now

variable {engine : RulesEngine} {hour : Nat} {now : Rat} {relay : Int} {meter : OnTime Rat}

theorem Counts.until_le (counts : Counts engine hour now relay meter) :
    (engine.onSince relay).getD now ≤ now := by
  cases on : engine.onSince relay with
  | none => exact le_rfl
  | some since => exact counts.since since on

theorem Counts.total (counts : Counts engine hour now relay meter) {seconds : Rat}
    (counted : engine.onTime relay = some (hour, seconds)) : seconds ≤ meter.spentBy now :=
  (counts.counted seconds counted).trans (OnTime.spentBy_mono counts.until_le)

theorem Counts.later (counts : Counts engine hour now relay meter) {later : Rat}
    (after : now ≤ later) :
    Counts engine hour later relay meter := by
  refine ⟨fun seconds counted => (counts.counted seconds counted).trans (OnTime.spentBy_mono ?_), fun since on =>
    (counts.since since on).trans after⟩
  cases engine.onSince relay with
  | none => exact after
  | some since => exact le_rfl

theorem Counts.switched (counts : Counts engine hour now relay meter) {after : OnTime Rat}
    (timely : meter.Timely now) (switched : OnTime.Switched now meter after) :
    Counts engine hour now relay after :=
  ⟨fun seconds counted => (counts.counted seconds counted).trans (switched.spentBy_le timely counts.until_le),
    counts.since⟩

/-- The count stays, and the relay may be no longer counted. -/
theorem Counts.released (counts : Counts engine hour now relay meter) {after : RulesEngine}
    (onTime : after.onTime relay = engine.onTime relay)
    (onSince : after.onSince relay = engine.onSince relay ∨ after.onSince relay = none) :
    Counts after hour now relay meter := by
  obtain same | off := onSince
  · refine ⟨fun seconds counted => ?_, fun since on => counts.since since (same ▸ on)⟩
    rw [same]
    exact counts.counted seconds (onTime ▸ counted)
  · refine ⟨fun seconds counted => ?_, fun since on => ?_⟩
    · rw [off]
      exact counts.total (onTime ▸ counted)
    · rw [off] at on
      cases on

/-- The counting of a relay that was on without a break. -/
theorem Counts.accumulated (counts : Counts engine hour now relay meter) (timely : meter.Timely now)
    (unbroken : ∀ since ∈ engine.onSince relay, ∃ began ∈ meter.began, began ≤ since) :
    Counts (engine.accumulateOnTime now hour) hour now relay meter := by
  cases on : engine.onSince relay with
  | none =>
    apply counts.released
    · unfold accumulateOnTime
      dsimp only
      rw [on]
    · unfold accumulateOnTime
      dsimp only
      rw [on]
      exact .inl rfl
  | some since =>
    obtain ⟨began, isOn, first⟩ := unbroken since on
    have after : (engine.accumulateOnTime now hour).onSince relay = some now := by
      unfold accumulateOnTime
      dsimp only
      rw [on]
      rfl
    refine ⟨fun seconds counted => ?_, fun since on => ?_⟩
    · rw [after, Option.getD_some]
      have whole : meter.spentBy now = meter.ended + (now - began) := timely.spentBy_on isOn
      have upTo : meter.spentBy since = meter.ended + (since - began) := by
        rw [OnTime.spentBy_on isOn, max_eq_right (sub_nonneg.mpr first)]
      have positive : 0 ≤ meter.ended := timely.ended
      unfold accumulateOnTime at counted
      simp only [on] at counted
      split at counted
      next => exact counts.total counted
      next =>
        split at counted
        next entry label before found =>
          split at counted
          next => cases counted; linarith
          next same =>
            cases counted
            have earlier := counts.counted before (by rw [found, not_not.mp same])
            rw [on, Option.getD_some] at earlier
            linarith
        next => cases counted; linarith
    · rw [after] at on
      cases on
      exact le_rfl

/-- The counts during the rules of a cycle, when every relay that is on was just counted. -/
structure JustCounted (engine : RulesEngine) (hour : Nat) (now : Rat) (relay : Int)
    (meter : OnTime Rat) : Prop where
  counts : Counts engine hour now relay meter
  since : ∀ since ∈ engine.onSince relay, since = now

theorem Counts.justCounted (counts : Counts engine hour now relay meter) (timely : meter.Timely now)
    (unbroken : ∀ since ∈ engine.onSince relay, ∃ began ∈ meter.began, began ≤ since) :
    JustCounted (engine.accumulateOnTime now hour) hour now relay meter := by
  refine ⟨counts.accumulated timely unbroken, fun since on => ?_⟩
  obtain ⟨_, _, same⟩ := Option.map_eq_some_iff.mp on
  exact same.symm

theorem JustCounted.checked (just : JustCounted engine hour now relay meter)
    (timely : meter.Timely now)
    {onTime : Int → Option (Nat × Rat)} {other : Int}
    (entry : onTime = engine.onTime ∨ (∀ entry ∈ engine.onTime other, entry.1 ≠ hour) ∧
      onTime = Function.update engine.onTime other (some (hour, 0))) :
    JustCounted { engine with onTime := onTime } hour now relay meter := by
  obtain rfl | ⟨-, rfl⟩ := entry
  · exact just
  · refine ⟨⟨fun seconds counted => ?_, just.counts.since⟩, just.since⟩
    by_cases mine : relay = other
    · subst mine
      have fresh : some (hour, (0 : Rat)) = some (hour, seconds) :=
        (Function.update_self relay _ engine.onTime).symm.trans counted
      cases fresh
      exact timely.spentBy_nonneg _
    · exact just.counts.counted seconds
        ((Function.update_of_ne mine _ engine.onTime).symm.trans counted)

theorem JustCounted.switchedOn (just : JustCounted engine hour now relay meter) (other : Int) :
    JustCounted { engine with
      onSince := Function.update engine.onSince other (some ((engine.onSince other).getD now)) } hour now relay meter := by
  by_cases mine : relay = other
  · subst mine
    have latest : (engine.onSince relay).getD now = now := by
      cases on : engine.onSince relay with
      | none => rfl
      | some since => exact just.since since on
    have now_since : Function.update engine.onSince relay (some ((engine.onSince relay).getD now)) relay = some now := by
      rw [Function.update_self, latest]
    refine ⟨⟨fun seconds counted => ?_, fun since on => ?_⟩, fun since on => ?_⟩
    · dsimp only
      rw [now_since]
      exact just.counts.total counted
    · exact (Option.some.inj (now_since.symm.trans on)).symm.le
    · exact (Option.some.inj (now_since.symm.trans on)).symm
  · have same : Function.update engine.onSince other (some ((engine.onSince other).getD now)) relay =
        engine.onSince relay := Function.update_of_ne mine ..
    exact ⟨just.counts.released rfl (.inl same), fun since on => just.since since (same ▸ on)⟩

theorem JustCounted.ofFields (just : JustCounted engine hour now relay meter) {after : RulesEngine}
    (onTime : after.onTime = engine.onTime) (onSince : after.onSince = engine.onSince) :
    JustCounted after hour now relay meter :=
  ⟨just.counts.released (congrFun onTime relay) (.inl (congrFun onSince relay)), fun since on =>
    just.since since (onSince ▸ on)⟩

theorem JustCounted.noteOff (just : JustCounted engine hour now relay meter) (relays : List Int) :
    JustCounted (engine.noteOff now relays) hour now relay meter := by
  by_cases mine : relay ∈ relays
  · have off : (engine.noteOff now relays).onSince relay = none := if_pos mine
    refine ⟨just.counts.released rfl (.inr off), fun since on => ?_⟩
    rw [off] at on
    cases on
  · have same : (engine.noteOff now relays).onSince relay = engine.onSince relay := if_neg mine
    exact ⟨just.counts.released rfl (.inl same), fun since on => just.since since (same ▸ on)⟩

theorem JustCounted.runRule {cycle : Cycle} {plan : CyclePlan}
    (just : JustCounted plan.engine cycle.wall.hour cycle.now relay meter) (timely : meter.Timely cycle.now)
    (rule : Rule) :
    JustCounted (runRule cycle plan rule).engine cycle.wall.hour cycle.now relay meter := by
  obtain same | ⟨-, -, left, same⟩ | ⟨-, same⟩ := runRule_outcome cycle plan rule
  · rw [same]
    exact just
  · obtain ⟨onTime, counted, entry, -⟩ := checkOnTimeBudget_left left
    rw [same, counted]
    exact ((just.checked timely entry).switchedOn rule.relay).ofFields rfl rfl
  · rw [same]
    exact just.noteOff [rule.relay]

theorem maxOnSPerHour_runRule (cycle : Cycle) (plan : CyclePlan) (rule : Rule) :
    (runRule cycle plan rule).engine.maxOnSPerHour = plan.engine.maxOnSPerHour := by
  obtain ⟨_, same⟩ | ⟨-, _, same⟩ | ⟨-, same⟩ := runRule_cases cycle plan rule <;> rw [same] <;> rfl

theorem maxOnSPerHour_evaluate (engine : RulesEngine) (cycle : Cycle) :
    (engine.evaluate cycle).engine.maxOnSPerHour = engine.maxOnSPerHour := by
  rw [evaluate_eq]
  split
  next =>
    exact foldl_runRule (fun plan => plan.engine.maxOnSPerHour = engine.maxOnSPerHour)
      (fun plan rule _ same => (maxOnSPerHour_runRule cycle plan rule).trans same) rfl
  next => rfl

/-- Without a budget nothing is skipped. -/
theorem limited_of_skipped {cycle : Cycle} (skipped : relay ∈ engine.skipped cycle) :
    0 < engine.maxOnSPerHour := by
  unfold RulesEngine.skipped at skipped
  split at skipped
  next =>
    obtain ⟨plan, rule, limit, -, -, skips⟩ :=
      mem_skippedBy (fun plan => plan.engine.maxOnSPerHour = engine.maxOnSPerHour)
        (fun plan rule same => (maxOnSPerHour_runRule cycle plan rule).trans same) rfl skipped
    simp only [RulesEngine.skips, Bool.and_eq_true, Bool.not_eq_true'] at skips
    have refused := skips.2
    unfold checkOnTimeBudget at refused
    split at refused
    next => cases refused
    next limited => exact limit ▸ not_le.mp limited
  next => cases skipped

end RulesEngine

namespace Automation

/-- Whatever a cycle counts for a relay, the relay was on without a break since its last
count, inside this clock hour. -/
def Unbroken (run : Automation) (cycle : Cycle) : Prop :=
  run.engine.runsRules cycle = true → 0 < run.engine.maxOnSPerHour → ∀ rule ∈ run.engine.rules,
    ∀ since ∈ (run.engine.swept cycle).onSince rule.relay, ∃ began ∈ (run.meter rule.relay).began, began ≤ since

/-- Cycles count unbroken on-time, and no clock hour begins at an hour of the day for which
a relay has a count. -/
def CountsUnbroken (run : Automation) : AutomationEvent → Prop
  | .evaluate reading utcHour timeOfDay reserved _ => run.Unbroken (run.cycle reading utcHour timeOfDay reserved)
  | .enterHour hour => ∀ rule ∈ run.engine.rules, ∀ entry ∈ run.engine.onTime rule.relay, entry.1 ≠ hour
  | _ => True

/-- The counts of the rules' relays are on-time. -/
structure Justified (run : Automation) : Prop where
  synced : Synced run
  timely : ∀ channel, (run.meter channel).Timely run.now
  counts : ∀ rule ∈ run.engine.rules,
    run.engine.Counts run.hour run.now rule.relay (run.meter rule.relay)

variable {before after : Automation}

theorem Justified.driven (justified : Justified before) (driven : Driven before after) :
    Justified after where
  synced := driven.synced
  timely channel := by
    rw [driven.now]
    exact (driven.meter channel).timely (justified.timely channel)
  counts rule member := by
    rw [driven.engine] at member ⊢
    rw [driven.now, driven.hour]
    exact (justified.counts rule member).switched (justified.timely _) (driven.meter _)

theorem Justified.swept (justified : Justified before) (cycle : Cycle) :
    ∀ rule ∈ before.engine.rules,
      (before.engine.swept cycle).Counts before.hour before.now rule.relay (before.meter rule.relay) := by
  intro rule member
  refine (justified.counts rule member).released rfl ?_
  rw [RulesEngine.swept_onSince]
  split
  next => exact .inr rfl
  next => exact .inl rfl

/-- The engine after a cycle: its counts reach up to the cycle. -/
theorem Justified.planned (justified : Justified before) (limited : 0 < before.engine.maxOnSPerHour)
    (cycle : Cycle)
    (now : cycle.now = before.now) (hour : cycle.wall.hour = before.hour)
    (unbroken : before.Unbroken cycle) :
    ∀ rule ∈ before.engine.rules,
      (before.engine.evaluate cycle).engine.Counts before.hour before.now rule.relay (before.meter rule.relay) := by
  intro rule member
  have swept := justified.swept cycle rule member
  rw [RulesEngine.evaluate_eq]
  split
  next runs =>
    rw [← now, ← hour] at swept ⊢
    have timely := justified.timely rule.relay
    rw [← now] at timely
    exact (RulesEngine.foldl_runRule (fun plan => RulesEngine.JustCounted plan.engine cycle.wall.hour
        cycle.now rule.relay (before.meter rule.relay))
      (fun plan other _ just => just.runRule timely other)
      (swept.justCounted timely (unbroken runs limited rule member))).counts
  next => exact swept

theorem Justified.withEngine (justified : Justified before) {engine : RulesEngine}
    (rules : engine.rules = before.engine.rules)
    (counts : ∀ rule ∈ before.engine.rules,
      engine.Counts before.hour before.now rule.relay (before.meter rule.relay)) :
    Justified { before with engine := engine } :=
  ⟨justified.synced, justified.timely, fun rule member => counts rule (rules ▸ member)⟩

theorem Justified.sameCounts (justified : Justified before) {engine : RulesEngine}
    (rules : engine.rules = before.engine.rules) (onTime : engine.onTime = before.engine.onTime)
    (onSince : engine.onSince = before.engine.onSince) :
    Justified { before with engine := engine } :=
  justified.withEngine rules fun rule member =>
    (justified.counts rule member).released (congrFun onTime _) (.inl (congrFun onSince _))

theorem Justified.step (justified : Justified before) (limited : 0 < before.engine.maxOnSPerHour)
    {event : AutomationEvent} (unbroken : before.CountsUnbroken event)
    (stepped : before.step event = some after) : Justified after := by
  cases event with
  | evaluate reading utcHour timeOfDay reserved written =>
    cases stepped
    have planned :=
      justified.planned limited (before.cycle reading utcHour timeOfDay reserved) rfl rfl unbroken
    have middle : Justified { before with
        engine := (before.engine.evaluate (before.cycle reading utcHour timeOfDay reserved)).engine
        evaluated := before.now } :=
      ⟨justified.synced, justified.timely,
        (justified.withEngine (RulesEngine.swept_evaluate ..).rules planned).counts⟩
    exact middle.driven (driven_apply _ written 0 _ middle.synced)
  | downlink fport payload reserved written =>
    obtain same | ⟨command, -, -, same⟩ := step_downlink stepped
    · exact same ▸ justified
    · rw [same]
      have driven : Driven before (before.obey command written) := driven_command ..
      have engine : (before.engine.applyDownlinkCommand command before.now written).onTime = before.engine.onTime ∧
          (before.engine.applyDownlinkCommand command before.now written).onSince = before.engine.onSince ∧
          (before.engine.applyDownlinkCommand command before.now written).rules = before.engine.rules := by
        unfold RulesEngine.applyDownlinkCommand
        split <;> exact ⟨rfl, rfl, rfl⟩
      rw [← driven.engine] at engine
      exact driven.engine ▸ (justified.driven driven).sameCounts engine.2.2 engine.1 engine.2.1
  | autoOff thread channel written =>
    obtain ⟨-, later⟩ := Option.ite_none_left_eq_some.mp stepped
    cases later
    exact justified.driven (driven_drive before _)
  | setSuspendedSensors sensors =>
    cases stepped
    exact justified.sameCounts rfl rfl rfl
  | setBaselines baselines =>
    cases stepped
    exact justified.sameCounts rfl rfl rfl
  | advance seconds =>
    obtain ⟨forward, later⟩ := Option.ite_none_right_eq_some.mp stepped
    cases later
    have after : before.now ≤ before.now + seconds := le_add_of_nonneg_right forward
    exact ⟨justified.synced, fun channel => (justified.timely channel).later after,
      fun rule member => (justified.counts rule member).later after⟩
  | enterHour hour =>
    cases stepped
    refine ⟨justified.synced.enterHour hour, fun channel => (justified.timely channel).restart, fun rule member => ?_⟩
    refine ⟨fun seconds counted => ?_, (justified.counts rule member).since⟩
    exact absurd rfl (unbroken rule member _ counted)

theorem engine_apply (durations : Int → Option Rat) (written : Nat → Bool) (index : Nat)
    (run : Automation)
    (actions : List RelayAction) :
    (apply durations written index run actions).engine = run.engine := by
  induction actions generalizing index run with
  | nil => rfl
  | cons action rest ih => exact (ih ..).trans (driven_command ..).engine

theorem maxOnSPerHour_step {event : AutomationEvent} (stepped : before.step event = some after) :
    after.engine.maxOnSPerHour = before.engine.maxOnSPerHour := by
  cases event with
  | evaluate reading utcHour timeOfDay reserved written =>
    cases stepped
    rw [engine_apply]
    exact RulesEngine.maxOnSPerHour_evaluate ..
  | downlink fport payload reserved written =>
    obtain same | ⟨command, -, -, same⟩ := step_downlink stepped
    · exact same ▸ rfl
    · rw [same]
      dsimp only
      unfold RulesEngine.applyDownlinkCommand
      split <;> rfl
  | autoOff thread channel written =>
    obtain ⟨-, later⟩ := Option.ite_none_left_eq_some.mp stepped
    cases later
    rfl
  | advance seconds =>
    obtain ⟨-, later⟩ := Option.ite_none_right_eq_some.mp stepped
    cases later
    rfl
  | setSuspendedSensors sensors | setBaselines baselines | enterHour hour =>
    cases stepped
    rfl

theorem justified_start (rules : List Rule) (policies : Policies) (maxOnS : Rat) (hour : Nat) :
    Justified (start rules policies maxOnS hour) where
  synced _ := rfl
  timely _ := OnTime.timely_new _
  counts _ _ :=
    ⟨(fun _ impossible => by cases impossible), (fun _ impossible => by cases impossible)⟩

theorem justified_reachable {rules : List Rule} {policies : Policies} {maxOnS : Rat} {hour : Nat}
    {run : Automation}
    (reached : Events.Reaches step CountsUnbroken (start rules policies maxOnS hour) run) :
    0 < run.engine.maxOnSPerHour → Justified run := by
  apply reached.invariant
  · intro _
    exact justified_start rules policies maxOnS hour
  · intro before event after _ permitted stepped justified limited
    have same : 0 < before.engine.maxOnSPerHour := maxOnSPerHour_step stepped ▸ limited
    exact (justified same).step same permitted stepped

/-- In a run that only counts unbroken on-time of the present clock hour, a relay whose ON
is skipped because of the budget was energised for the whole budget in this clock hour. -/
theorem refusal_justified (rules : List Rule) (policies : Policies) (maxOnS : Rat) (hour : Nat)
    {run : Automation}
    (reached : Events.Reaches step CountsUnbroken (start rules policies maxOnS hour) run)
    {reading : CycleReading} {utcHour : Nat} {timeOfDay : Rat} {reserved : List Int} {written : Nat → Bool}
    (unbroken : run.CountsUnbroken (.evaluate reading utcHour timeOfDay reserved written)) {relay : Int}
    (skipped : relay ∈ run.engine.skipped (run.cycle reading utcHour timeOfDay reserved)) :
    run.engine.maxOnSPerHour ≤ run.energised relay := by
  have limited : 0 < run.engine.maxOnSPerHour := RulesEngine.limited_of_skipped skipped
  have justified : Justified run := justified_reachable reached limited
  unfold RulesEngine.skipped at skipped
  split at skipped
  next runs =>
    let cycle := run.cycle reading utcHour timeOfDay reserved
    let holds (plan : CyclePlan) : Prop :=
      (∀ rule ∈ run.engine.rules,
        plan.engine.JustCounted run.hour run.now rule.relay (run.meter rule.relay)) ∧
      plan.engine.maxOnSPerHour = run.engine.maxOnSPerHour
    have begins : holds (run.engine.begun cycle) :=
      ⟨fun rule member => (justified.swept cycle rule member).justCounted (justified.timely _)
        (unbroken runs limited rule member), rfl⟩
    have kept (plan : CyclePlan) (rule : Rule) (held : holds plan) :
        holds (RulesEngine.runRule cycle plan rule) :=
      ⟨fun other member => (held.1 other member).runRule (justified.timely _) rule,
        (RulesEngine.maxOnSPerHour_runRule cycle plan rule).trans held.2⟩
    obtain ⟨plan, rule, ⟨just, limit⟩, member, rfl, skips⟩ :=
      RulesEngine.mem_skippedBy holds kept begins skipped
    simp only [RulesEngine.skips, Bool.and_eq_true, Bool.not_eq_true'] at skips
    obtain ⟨-, seconds, counted, spent⟩ := RulesEngine.checkOnTimeBudget_spent skips.2
    exact (limit ▸ spent).trans ((just rule member).counts.total counted)
  next => cases skipped

instance (run : Automation) (cycle : Cycle) : Decidable (run.Unbroken cycle) :=
  inferInstanceAs (Decidable (_ → _ → ∀ rule ∈ run.engine.rules,
    ∀ since ∈ (run.engine.swept cycle).onSince rule.relay, ∃ began ∈ (run.meter rule.relay).began, began ≤ since))

instance (run : Automation) : ∀ event, Decidable (run.CountsUnbroken event)
  | .evaluate reading utcHour timeOfDay reserved _ =>
    inferInstanceAs (Decidable (run.Unbroken (run.cycle reading utcHour timeOfDay reserved)))
  | .enterHour hour =>
    inferInstanceAs (Decidable (∀ rule ∈ run.engine.rules, ∀ entry ∈ run.engine.onTime rule.relay, entry.1 ≠ hour))
  | .downlink .. | .autoOff .. | .setSuspendedSensors _ | .setBaselines _ | .advance _ =>
    inferInstanceAs (Decidable True)

def oneMinute : Policies := { maxOnSPerHour := 60 }

theorem refusal_justified_minute : ∃ run,
    Events.play step CountsUnbroken (start [acidRule] oneMinute 0 9) [measure 9, .advance 60] = some run ∧
      run.engine.maxOnSPerHour ≤ run.energised 1 := by
  have plays : (Events.play step CountsUnbroken (start [acidRule] oneMinute 0 9) [measure 9, .advance 60]).any
      (fun run => run.CountsUnbroken (measure 9) ∧
        1 ∈ run.engine.skipped (run.cycle (fun _ => some 9) 0 0 [])) = true := by decide +kernel
  obtain ⟨run, played, ended⟩ := (Option.any_eq_true _ _).mp plays
  obtain ⟨unbroken, skipped⟩ := of_decide_eq_true ended
  exact ⟨run, played,
    refusal_justified [acidRule] oneMinute 0 9 (Events.reaches_play played) unbroken skipped⟩

/-- The relay is on for 10 seconds, until a downlink, and is counted for 100. -/
def switchedOffByRadio : List AutomationEvent :=
  [measure 9, .advance 10, .downlink 100 [1, 0] [] true, .advance 90, measure 7, .advance 10]

theorem refusal_unjustified :
    ¬ ∀ (rules : List Rule) (policies : Policies) (maxOnS : Rat) (hour : Nat) (run : Automation),
      Events.Reaches step Events.anything (start rules policies maxOnS hour) run →
      ∀ (reading : CycleReading) (utcHour : Nat) (timeOfDay : Rat) (reserved : List Int) (relay : Int),
        relay ∈ run.engine.skipped (run.cycle reading utcHour timeOfDay reserved) →
        run.engine.maxOnSPerHour ≤ run.energised relay := by
  intro justified
  have plays : (Events.play step Events.anything (start [acidRule] oneMinute 0 9) switchedOffByRadio).any
      (fun run => 1 ∈ run.engine.skipped (run.cycle (fun _ => some 9) 0 0 []) ∧
        ¬ run.engine.maxOnSPerHour ≤ run.energised 1) = true := by decide +kernel
  obtain ⟨run, played, ended⟩ := (Option.any_eq_true _ _).mp plays
  obtain ⟨skipped, short⟩ := of_decide_eq_true ended
  exact short (justified _ _ _ _ run (Events.reaches_play played) _ _ _ _ _ skipped)

end Automation

end Wqm1.Control
