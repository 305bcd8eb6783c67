import Wqm1.Control.Automation
import Wqm1.Control.TimerSweep

/-! The hourly budget is a gate: it refuses a relay that has spent it, and does not cut a
relay that is on. -/

set_option autoImplicit false

namespace Wqm1.Control

open Wqm1.Library

namespace RulesEngine

/-- The on-time that the engine has counted for a relay or counts for it at the next cycle. -/
def meteredTime (engine : RulesEngine) (now : Rat) (relay : Int) : Rat :=
  ((engine.onTime relay).map Prod.snd).getD 0 + (engine.onSince relay).elim 0 fun since => now - since

/-- What the engine keeps within one clock hour in which it drives its relays alone. -/
structure Meters (engine : RulesEngine) (hour : Nat) (now : Rat) (meter : Int → OnTime Rat) : Prop where
  labels : ∀ relay, ∀ entry ∈ engine.onTime relay, entry.1 = hour
  since : ∀ relay, ∀ since ∈ engine.onSince relay, since ≤ now
  covers : ∀ relay, (meter relay).spentBy now ≤ engine.meteredTime now relay
  timers : ∀ relay, engine.timers.get relay = none
  pending : engine.pendingFailsafe = []
  durations : ∀ rule ∈ engine.rules, rule.durationS ≤ 0

variable {engine : RulesEngine} {hour : Nat} {now : Rat} {meter : Int → OnTime Rat}

theorem Meters.sweptOff (meters : Meters engine hour now meter) (cycle : Cycle) :
    engine.sweptOff cycle = [] := by
  apply List.eq_nil_iff_forall_not_mem.mpr
  intro action member
  cases List.mem_append.mp member with
  | inl reverted =>
    have waiting := (mem_revert_iff.mp reverted).1.1
    rw [meters.pending] at waiting
    cases waiting
  | inr expired =>
    obtain ⟨⟨shutoff, live, -⟩, -⟩ := mem_expire_iff.mp expired
    have before := (get_timers_revert.mp live).1
    rw [meters.timers] at before
    cases before

theorem Meters.swept (meters : Meters engine hour now meter) (cycle : Cycle) :
    Meters (engine.swept cycle) hour now meter ∧ (engine.swept cycle).onSince = engine.onSince := by
  have onSince : (engine.swept cycle).onSince = engine.onSince := by
    funext relay
    rw [swept_onSince, meters.sweptOff]
    exact if_neg List.not_mem_nil
  refine ⟨⟨meters.labels, onSince ▸ meters.since, fun relay => ?_, fun relay => ?_, rfl, meters.durations⟩, onSince⟩
  · unfold meteredTime
    rw [onSince]
    exact meters.covers relay
  · cases live : (engine.swept cycle).timers.get relay with
    | none => rfl
    | some shutoff =>
      have before := (get_timers_revert.mp (get_timers_expire.mp live).1).1
      rw [meters.timers] at before
      cases before

theorem accumulateOnTime_label {relay : Int} {entry : Nat × Rat}
    (counted : entry ∈ (engine.accumulateOnTime now hour).onTime relay) :
    entry ∈ engine.onTime relay ∨ entry.1 = hour := by
  unfold accumulateOnTime at counted
  dsimp only at counted
  split at counted
  next => exact .inl counted
  next =>
    split at counted
    next => exact .inl counted
    next =>
      split at counted
      next => split at counted <;> exact .inr (congrArg Prod.fst (Option.some.inj counted)).symm
      next => exact .inr (congrArg Prod.fst (Option.some.inj counted)).symm

/-- Counting takes what was to be counted into the count. -/
theorem Meters.accumulated (meters : Meters engine hour now meter)
    (limited : 0 < engine.maxOnSPerHour) :
    Meters (engine.accumulateOnTime now hour) hour now meter := by
  have total (relay : Int) :
      (engine.accumulateOnTime now hour).meteredTime now relay = engine.meteredTime now relay := by
    unfold meteredTime accumulateOnTime
    dsimp only
    cases on : engine.onSince relay with
    | none => rfl
    | some since =>
      simp only [if_neg (not_le_of_gt limited)]
      cases counted : engine.onTime relay with
      | none => simp
      | some entry =>
        obtain ⟨label, seconds⟩ := entry
        have same : label = hour := meters.labels relay _ counted
        simp [same]
  refine ⟨fun relay entry counted => ?_, fun relay since on => ?_, fun relay => (total relay) ▸ meters.covers relay,
    meters.timers, meters.pending, meters.durations⟩
  · obtain before | new := accumulateOnTime_label counted
    · exact meters.labels relay entry before
    · exact new
  · obtain ⟨_, _, same⟩ := Option.map_eq_some_iff.mp on
    exact same.symm.le

/-- Where a relay was just counted, nothing is to be counted. -/
theorem meteredTime_latest {relay : Int} (latest : ∀ since ∈ engine.onSince relay, since = now) :
    engine.meteredTime now relay = ((engine.onTime relay).map Prod.snd).getD 0 := by
  unfold meteredTime
  cases on : engine.onSince relay with
  | none => exact add_zero _
  | some since =>
    rw [latest since on, Option.elim_some, sub_self]
    exact add_zero _

theorem Meters.switched (meters : Meters engine hour now meter) {after : Int → OnTime Rat}
    (timely : ∀ relay, (meter relay).Timely now)
    (switched : ∀ relay, OnTime.Switched now (meter relay) (after relay)) :
    Meters engine hour now after :=
  ⟨meters.labels, meters.since, fun relay => (((switched relay).spentBy_eq (timely relay)).le).trans (meters.covers relay),
    meters.timers, meters.pending, meters.durations⟩

/-- While a relay is on, it is counted. -/
theorem Meters.later (meters : Meters engine hour now meter) {later : Rat} (after : now ≤ later)
    (timely : ∀ relay, (meter relay).Timely now)
    (on : ∀ relay, (meter relay).began.isSome → (engine.onSince relay).isSome) :
    Meters engine hour later meter := by
  refine ⟨meters.labels, fun relay since on => (meters.since relay since on).trans after, fun relay => ?_,
    meters.timers, meters.pending, meters.durations⟩
  have covers := meters.covers relay
  unfold meteredTime at covers ⊢
  cases isOn : (meter relay).began with
  | none =>
    rw [OnTime.spentBy_off isOn] at covers ⊢
    cases counted : engine.onSince relay with
    | none =>
      rw [counted] at covers
      exact covers
    | some since =>
      rw [counted, Option.elim_some] at covers
      rw [Option.elim_some]
      linarith
  | some began =>
    obtain ⟨since, counted⟩ :=
      Option.isSome_iff_exists.mp (on relay (Option.isSome_of_eq_some isOn))
    rw [(timely relay).spentBy_on isOn, counted, Option.elim_some] at covers
    rw [((timely relay).later after).spentBy_on isOn, counted, Option.elim_some]
    linarith

/-- A new entry for a relay that has none of this hour. -/
theorem Meters.entered (meters : Meters engine hour now meter) {relay : Int}
    (stale : ∀ entry ∈ engine.onTime relay, entry.1 ≠ hour) :
    Meters { engine with onTime := Function.update engine.onTime relay (some (hour, 0)) } hour now meter := by
  have nothing : engine.onTime relay = none := by
    cases old : engine.onTime relay with
    | none => rfl
    | some entry => exact absurd (meters.labels relay entry old) (stale entry old)
  refine ⟨fun other entry counted => ?_, meters.since, fun other => ?_, meters.timers, meters.pending, meters.durations⟩
  · by_cases mine : other = relay
    · subst mine
      exact (congrArg Prod.fst (Option.some.inj ((Function.update_self other _ engine.onTime).symm.trans counted))).symm
    · exact meters.labels other entry
        ((Function.update_of_ne mine _ engine.onTime).symm.trans counted)
  · refine (meters.covers other).trans (le_of_eq ?_)
    unfold meteredTime
    by_cases mine : other = relay
    · subst mine
      simp [nothing]
    · simp [mine]

end RulesEngine

theorem lastCommand_concat (commands : List RelayAction) (action : RelayAction) (relay : Int) :
    lastCommand (commands ++ [action]) relay = if action.1 = relay then some action.2 else lastCommand commands relay := by
  rw [lastCommand_append]
  unfold lastCommand
  by_cases mine : action.1 = relay <;> simp [mine]

namespace Automation

/-- The plan of a cycle: an ON is planned only for a relay with on-time left, and the relays
that the engine counts are those that its last commands switched on. -/
structure Planned (run : Automation) (plan : CyclePlan) : Prop where
  meters : plan.engine.Meters run.hour run.now run.meter
  limit : plan.engine.maxOnSPerHour = run.engine.maxOnSPerHour
  gate : ∀ relay, (relay, true) ∈ plan.commands → run.energised relay < run.engine.maxOnSPerHour
  follows : ∀ relay, (plan.engine.onSince relay).isSome =
    (lastCommand plan.commands relay).getD (run.engine.onSince relay).isSome

/-- While the rules run, whatever is on was just counted. -/
structure Gated (run : Automation) (plan : CyclePlan) : Prop extends Planned run plan where
  latest : ∀ relay, ∀ since ∈ plan.engine.onSince relay, since = run.now

variable {run : Automation} {plan : CyclePlan} {cycle : Cycle}

/-- A relay that passed the check has on-time left. -/
theorem Gated.checked (gated : Gated run plan) (limited : 0 < run.engine.maxOnSPerHour)
    {relay : Int}
    (left : (plan.engine.checkOnTimeBudget relay run.hour).2 = true) :
    Gated run { plan with engine := (plan.engine.checkOnTimeBudget relay run.hour).1 } ∧
      run.energised relay < run.engine.maxOnSPerHour := by
  obtain ⟨onTime, counted, entry, budget⟩ := RulesEngine.checkOnTimeBudget_left left
  rw [gated.limit] at budget
  obtain ⟨seconds, below, found⟩ := budget limited
  have meters :
      ({ plan.engine with onTime := onTime } : RulesEngine).Meters run.hour run.now run.meter := by
    obtain same | ⟨stale, same⟩ := entry
    · exact same ▸ gated.meters
    · exact same ▸ gated.meters.entered stale
  rw [counted]
  refine ⟨⟨⟨meters, gated.limit, gated.gate, gated.follows⟩, gated.latest⟩, ?_⟩
  calc run.energised relay
      ≤ ({ plan.engine with onTime := onTime } : RulesEngine).meteredTime run.now relay :=
        meters.covers relay
    _ = ((onTime relay).map Prod.snd).getD 0 := RulesEngine.meteredTime_latest (gated.latest relay)
    _ = seconds := by
        rw [found]
        rfl
    _ < run.engine.maxOnSPerHour := below

theorem Gated.switchOn (gated : Gated run plan) (now : cycle.now = run.now) {rule : Rule}
    (untimed : rule.durationS ≤ 0)
    (left : run.energised rule.relay < run.engine.maxOnSPerHour) :
    Gated run (RulesEngine.switchOn plan cycle rule) := by
  have latest : (plan.engine.onSince rule.relay).getD run.now = run.now := by
    cases on : plan.engine.onSince rule.relay with
    | none => rfl
    | some since => exact gated.latest rule.relay since on
  have onSince : (RulesEngine.switchOn plan cycle rule).engine.onSince =
      Function.update plan.engine.onSince rule.relay (some run.now) := by
    unfold RulesEngine.switchOn
    dsimp only
    rw [now, latest]
  have timers : (RulesEngine.switchOn plan cycle rule).engine.timers = plan.engine.timers := by
    unfold RulesEngine.switchOn
    simp only [decide_eq_false (not_lt_of_ge untimed), Bool.false_eq_true, ↓reduceIte]
  have commands :
      (RulesEngine.switchOn plan cycle rule).commands = plan.commands ++ [(rule.relay, true)] := rfl
  have newest (relay : Int) :
      ∀ since ∈ (RulesEngine.switchOn plan cycle rule).engine.onSince relay, since = run.now := by
    intro since on
    rw [onSince] at on
    by_cases mine : relay = rule.relay
    · subst mine
      rw [Function.update_self] at on
      exact (Option.some.inj on).symm
    · rw [Function.update_of_ne mine] at on
      exact gated.latest relay since on
  refine ⟨⟨⟨gated.meters.labels, fun relay since on => (newest relay since on).le, fun relay => ?_,
    timers ▸ gated.meters.timers, gated.meters.pending, gated.meters.durations⟩, gated.limit, ?_, ?_⟩, newest⟩
  · rw [RulesEngine.meteredTime_latest (newest relay)]
    exact (gated.meters.covers relay).trans (RulesEngine.meteredTime_latest (gated.latest relay)).le
  · intro relay planned
    rw [commands] at planned
    cases List.mem_append.mp planned with
    | inl before => exact gated.gate relay before
    | inr new =>
      cases List.mem_singleton.mp new
      exact left
  · intro relay
    rw [commands, lastCommand_concat, onSince]
    by_cases mine : relay = rule.relay
    · subst mine
      simp
    · rw [Function.update_of_ne mine, if_neg (Ne.symm mine)]
      exact gated.follows relay

theorem Gated.switchOff (gated : Gated run plan) (cycle : Cycle) (rule : Rule) :
    Gated run (RulesEngine.switchOff plan cycle rule) := by
  have commands : (RulesEngine.switchOff plan cycle rule).commands = plan.commands ++ [(rule.relay, false)] := rfl
  have onSince (relay : Int) : (RulesEngine.switchOff plan cycle rule).engine.onSince relay =
      if relay = rule.relay then none else plan.engine.onSince relay := by
    unfold RulesEngine.switchOff RulesEngine.noteOff
    simp only [List.mem_singleton]
  have kept (relay : Int) : ∀ since ∈ (RulesEngine.switchOff plan cycle rule).engine.onSince relay,
      since ∈ plan.engine.onSince relay := by
    intro since on
    rw [onSince] at on
    split at on
    next => cases on
    next => exact on
  refine ⟨⟨⟨gated.meters.labels, fun relay since on => gated.meters.since relay since (kept relay since on),
    fun relay => ?_, gated.meters.timers, gated.meters.pending, gated.meters.durations⟩, gated.limit, ?_, ?_⟩,
    fun relay since on => gated.latest relay since (kept relay since on)⟩
  · rw [RulesEngine.meteredTime_latest fun since on => gated.latest relay since (kept relay since on)]
    exact (gated.meters.covers relay).trans (RulesEngine.meteredTime_latest (gated.latest relay)).le
  · intro relay planned
    rw [commands] at planned
    cases List.mem_append.mp planned with
    | inl before => exact gated.gate relay before
    | inr new => cases List.mem_singleton.mp new
  · intro relay
    rw [commands, lastCommand_concat, onSince]
    by_cases mine : relay = rule.relay
    · subst mine
      simp
    · rw [if_neg mine, if_neg (Ne.symm mine)]
      exact gated.follows relay

theorem Gated.runRule (gated : Gated run plan) (limited : 0 < run.engine.maxOnSPerHour)
    (now : cycle.now = run.now)
    (hour : cycle.wall.hour = run.hour) {rule : Rule} (untimed : rule.durationS ≤ 0) :
    Gated run (RulesEngine.runRule cycle plan rule) := by
  obtain same | ⟨-, -, left, same⟩ | ⟨-, same⟩ := RulesEngine.runRule_outcome cycle plan rule
  · rw [same]
    exact gated
  · rw [same]
    rw [hour] at left ⊢
    obtain ⟨checked, spare⟩ := gated.checked limited left
    exact checked.switchOn now untimed spare
  · rw [same]
    exact gated.switchOff cycle rule

theorem planned_evaluate (meters : run.engine.Meters run.hour run.now run.meter)
    (limited : 0 < run.engine.maxOnSPerHour)
    (now : cycle.now = run.now) (hour : cycle.wall.hour = run.hour) :
    Planned run (run.engine.evaluate cycle) := by
  obtain ⟨swept, onSince⟩ := meters.swept cycle
  rw [RulesEngine.evaluate_eq]
  split
  next =>
    have counted :
        ∀ relay, ∀ since ∈ (run.engine.begun cycle).engine.onSince relay, since = run.now := by
      intro relay since on
      obtain ⟨_, _, same⟩ := Option.map_eq_some_iff.mp on
      exact same.symm.trans now
    have begun : Gated run (run.engine.begun cycle) := by
      refine ⟨⟨?_, rfl, (fun relay impossible => by cases impossible), fun relay => ?_⟩, counted⟩
      · have accumulated := swept.accumulated limited
        rw [← now, ← hour] at accumulated ⊢
        exact accumulated
      · rw [← onSince]
        exact Option.isSome_map ..
    exact (RulesEngine.foldl_runRule (Gated run)
      (fun _ rule member gated => gated.runRule limited now hour (meters.durations rule member)) begun).toPlanned
  next =>
    refine ⟨swept, rfl, (fun relay impossible => by cases impossible), fun relay => ?_⟩
    rw [← onSince]
    rfl

theorem actions_evaluate (meters : run.engine.Meters run.hour run.now run.meter) (cycle : Cycle) :
    (run.engine.evaluate cycle).actions = (run.engine.evaluate cycle).commands := by
  have swept := RulesEngine.swept_evaluate run.engine cycle
  have empty : run.engine.revertedActions cycle ++ run.engine.expiredActions cycle = [] :=
    meters.sweptOff cycle
  unfold CyclePlan.actions
  rw [swept.failsafe, swept.expired, empty]
  rfl

theorem apply_meter_other {durations : Int → Option Rat} {written : Nat → Bool} {index : Nat}
    {actions : List RelayAction} (synced : Synced run) {relay : Int}
      (notChannel : ¬ isChannel relay) :
    (apply durations written index run actions).meter relay = run.meter relay := by
  induction actions generalizing run index with
  | nil => rfl
  | cons action rest ih =>
    have first := driven_command run action.1 action.2 (durations action.1) (written index)
    refine (ih first.synced).trans ?_
    rw [command_meter synced]
    split
    next drives =>
      have other : relay ≠ action.1 := fun same => notChannel (same ▸ drives.1)
      exact Function.update_of_ne other ..
    next => rfl

/-- Where all writes succeed, a relay is as its last command says. -/
theorem apply_began {durations : Int → Option Rat} {written : Nat → Bool} {index : Nat}
    {actions : List RelayAction}
    (synced : Synced run) {relay : Int} (channel : isChannel relay)
    (succeed : ∀ further < actions.length, written (index + further) = true) :
    ((apply durations written index run actions).meter relay).began.isSome =
      (lastCommand actions relay).getD (run.meter relay).began.isSome := by
  induction actions generalizing run index with
  | nil => rfl
  | cons action rest ih =>
    have first := driven_command run action.1 action.2 (durations action.1) (written index)
    have now : written index = true := succeed 0 (Nat.succ_pos _)
    have later : ∀ further < rest.length, written (index + 1 + further) = true := by
      intro further inside
      have := succeed (further + 1) (Nat.succ_lt_succ inside)
      rwa [Nat.add_assoc, Nat.add_comm 1 further]
    refine (ih first.synced later).trans ?_
    have both : lastCommand (action :: rest) relay =
        (lastCommand rest relay).or (lastCommand [action] relay) :=
      lastCommand_append [action] rest relay
    have own : lastCommand [action] relay = if action.1 = relay then some action.2 else none :=
      lastCommand_concat [] action relay
    rw [both, own, command_meter synced, now]
    cases lastCommand rest relay with
    | some state => rfl
    | none =>
      by_cases mine : action.1 = relay
      · subst mine
        simp only [channel, and_self, ↓reduceIte, Function.update_self, OnTime.isSome_began_switch]
        rfl
      · have same : (if isChannel action.1 ∧ true = true then
            Function.update run.meter action.1 ((run.meter action.1).switch run.now action.2)
          else run.meter) relay = run.meter relay := by
          split
          next => exact Function.update_of_ne (Ne.symm mine) ..
          next => rfl
        rw [same, if_neg mine]
        rfl

/-- Only cycles switch the relays, and all their writes succeed; it is at most `gap` seconds
from one to the next, and the clock stays inside one clock hour. -/
def DrivenByRules (gap : Rat) (run : Automation) : AutomationEvent → Prop
  | .evaluate reading utcHour timeOfDay reserved written =>
    ∀ index < (run.engine.evaluate (run.cycle reading utcHour timeOfDay reserved)).actions.length,
      written index = true
  | .advance seconds => run.now + seconds ≤ run.evaluated + gap ∧ run.now + seconds ≤ 3600
  | .setBaselines _ => True
  | _ => False

/-- The engine's meters and the coils agree, and every on-period began with on-time left. -/
structure Metered (limit : Rat) (run : Automation) : Prop where
  synced : Synced run
  timely : ∀ relay, (run.meter relay).Timely run.now
  meters : run.engine.Meters run.hour run.now run.meter
  bound : run.engine.maxOnSPerHour = limit
  on : ∀ relay, (run.meter relay).began.isSome → isChannel relay ∧ (run.engine.onSince relay).isSome
  opened : ∀ relay, ∀ began ∈ (run.meter relay).began, (run.meter relay).ended < limit

variable {limit gap : Rat} {before after : Automation}

theorem Metered.evaluated (metered : Metered limit before) (limited : 0 < limit)
    {reading : CycleReading} {utcHour : Nat}
    {timeOfDay : Rat} {reserved : List Int} {written : Nat → Bool}
    (succeed : before.DrivenByRules gap (.evaluate reading utcHour timeOfDay reserved written))
    (stepped : before.step (.evaluate reading utcHour timeOfDay reserved written) = some after) :
    Metered limit after := by
  have done := Option.some.inj stepped
  have planned :
      Planned before (before.engine.evaluate (before.cycle reading utcHour timeOfDay reserved)) :=
    planned_evaluate metered.meters (metered.bound ▸ limited) rfl rfl
  have actions := actions_evaluate metered.meters (before.cycle reading utcHour timeOfDay reserved)
  have all : ∀ index < (before.engine.evaluate (before.cycle reading utcHour timeOfDay reserved)).actions.length,
      written index = true := succeed
  generalize before.engine.evaluate (before.cycle reading utcHour timeOfDay reserved) = plan at done planned actions all
  have ready : Synced { before with engine := plan.engine, evaluated := before.now } :=
    metered.synced
  have driven := driven_apply plan.durations written 0 plan.actions ready
  rw [done] at driven
  refine ⟨driven.synced, fun relay => ?_, ?_, ?_, fun relay isOn => ?_, fun relay began isOn => ?_⟩
  · rw [driven.now]
    exact (driven.meter relay).timely (metered.timely relay)
  · rw [driven.engine, driven.hour, driven.now]
    exact planned.meters.switched metered.timely driven.meter
  · rw [driven.engine]
    exact planned.limit.trans metered.bound
  · by_cases channel : isChannel relay
    · refine ⟨channel, ?_⟩
      have coil : (after.meter relay).began.isSome =
          (lastCommand plan.actions relay).getD (before.meter relay).began.isSome := by
        rw [← done]
        exact apply_began ready channel fun further inside => (Nat.zero_add further).symm ▸ all further inside
      rw [driven.engine, planned.follows, ← actions]
      rw [isOn] at coil
      cases last : lastCommand plan.actions relay with
      | some state =>
        rw [last] at coil
        exact coil.symm
      | none =>
        rw [last] at coil
        exact (metered.on relay coil.symm).2
    · have same : after.meter relay = before.meter relay := by
        rw [← done]
        exact apply_meter_other ready channel
      rw [same] at isOn
      exact absurd (metered.on relay isOn).1 channel
  · have reached : after.meter relay = before.meter relay ∨ (relay, true) ∈ plan.actions := by
      have isSome : (after.meter relay).began.isSome := Option.isSome_of_eq_some isOn
      rw [← done] at isSome ⊢
      exact apply_on ready isSome
    obtain same | ordered := reached
    · rw [same] at isOn ⊢
      exact metered.opened relay began isOn
    · rw [actions] at ordered
      calc (after.meter relay).ended ≤ (after.meter relay).spentBy before.now :=
        OnTime.ended_le_spentBy _ _
        _ = before.energised relay := (driven.meter relay).spentBy_eq (metered.timely relay)
        _ < before.engine.maxOnSPerHour := planned.gate relay ordered
        _ = limit := metered.bound

theorem Metered.step (metered : Metered limit before) (limited : 0 < limit)
    {event : AutomationEvent}
    (driven : before.DrivenByRules gap event) (stepped : before.step event = some after) :
    Metered limit after := by
  cases event with
  | evaluate reading utcHour timeOfDay reserved written => exact metered.evaluated limited driven stepped
  | setBaselines baselines =>
    cases stepped
    obtain ⟨labels, since, covers, timers, pending, durations⟩ := metered.meters
    exact ⟨metered.synced, metered.timely, ⟨labels, since, covers, timers, pending, durations⟩, metered.bound,
      metered.on, metered.opened⟩
  | advance seconds =>
    obtain ⟨forward, later⟩ := Option.ite_none_right_eq_some.mp stepped
    cases later
    have after : before.now ≤ before.now + seconds := le_add_of_nonneg_right forward
    exact ⟨metered.synced, fun relay => (metered.timely relay).later after,
      metered.meters.later after metered.timely fun relay isOn => (metered.on relay isOn).2, metered.bound, metered.on,
      metered.opened⟩
  | downlink | autoOff | setSuspendedSensors | enterHour => exact driven.elim

theorem metered_start (rules : List Rule) (untimed : ∀ rule ∈ rules, rule.durationS = 0)
    (policies : Policies)
    (bound : policies.maxOnSPerHour = limit) (maxOnS : Rat) (hour : Nat) :
    Metered limit (start rules policies maxOnS hour) where
  synced _ := rfl
  timely _ := OnTime.timely_new _
  meters :=
    { labels := fun _ _ impossible => by cases impossible
      since := fun _ _ impossible => by cases impossible
      covers := fun _ => le_rfl
      timers := fun _ => rfl
      pending := rfl
      durations := fun rule member => (untimed rule member).le }
  bound := bound
  on _ impossible := by cases impossible
  opened _ _ impossible := by cases impossible

/-- Inside a clock hour in which only rules switch the relays, a cycle orders no relay on that
was energised for the budget, and a relay that is on was energised for less than the budget
and the length of its on-period. -/
theorem budget_gates (rules : List Rule) (untimed : ∀ rule ∈ rules, rule.durationS = 0)
    (policies : Policies)
    (minutes : Rat) (positive : 0 < minutes) (maxOnS : Rat) (hour : Nat) (gap : Rat) {run : Automation}
    (reached : Events.Reaches step (DrivenByRules gap)
      (start rules { policies with maxOnSPerHour := minutes * 60 } maxOnS hour) run) :
    (∀ reading utcHour timeOfDay reserved relay,
      (relay, true) ∈ (run.engine.evaluate (run.cycle reading utcHour timeOfDay reserved)).actions →
        run.energised relay < minutes * 60) ∧
    ∀ relay, ∀ began ∈ (run.meter relay).began, run.energised relay < minutes * 60 + (run.now - began) := by
  have limited : 0 < minutes * 60 := by linarith
  have metered : Metered (minutes * 60) run := by
    refine reached.invariant (metered_start rules untimed { policies with maxOnSPerHour := minutes * 60 } rfl maxOnS hour) ?_
    exact fun _ _ _ _ driven stepped metered => metered.step limited driven stepped
  constructor
  · intro reading utcHour timeOfDay reserved relay ordered
    have planned :
        Planned run (run.engine.evaluate (run.cycle reading utcHour timeOfDay reserved)) :=
      planned_evaluate metered.meters (metered.bound ▸ limited) rfl rfl
    rw [actions_evaluate metered.meters] at ordered
    exact metered.bound ▸ planned.gate relay ordered
  · intro relay began isOn
    have opened := metered.opened relay began isOn
    unfold energised
    rw [(metered.timely relay).spentBy_on isOn]
    linarith

instance (gap : Rat) (run : Automation) : ∀ event, Decidable (run.DrivenByRules gap event)
  | .evaluate reading utcHour timeOfDay reserved written =>
    inferInstanceAs (Decidable (∀ index <
      (run.engine.evaluate (run.cycle reading utcHour timeOfDay reserved)).actions.length, written index = true))
  | .advance seconds =>
    inferInstanceAs (Decidable (run.now + seconds ≤ run.evaluated + gap ∧ run.now + seconds ≤ 3600))
  | .setBaselines _ => inferInstanceAs (Decidable True)
  | .downlink .. | .autoOff .. | .setSuspendedSensors _ | .enterHour _ => inferInstanceAs (Decidable False)

theorem budget_gates_half : ∃ run,
    Events.play step (DrivenByRules 60) (start [acidRule] { maxOnSPerHour := 1 * 60 } 0 9)
        [measure 9, .advance 30] = some run ∧
      run.energised 1 < 1 * 60 ∧
        ∀ began ∈ (run.meter 1).began, run.energised 1 < 1 * 60 + (run.now - began) := by
  have plays : (Events.play step (DrivenByRules 60) (start [acidRule] { maxOnSPerHour := 1 * 60 } 0 9)
      [measure 9, .advance 30]).any (fun run =>
        (1, true) ∈ (run.engine.evaluate (run.cycle (fun _ => some 9) 0 0 [])).actions) = true := by decide +kernel
  obtain ⟨run, played, ordered⟩ := (Option.any_eq_true _ _).mp plays
  have gates :=
    budget_gates [acidRule] (by decide) {} 1 (by decide) 0 9 60 (Events.reaches_play played)
  exact ⟨run, played, gates.1 _ 0 0 [] 1 (of_decide_eq_true ordered), gates.2 1⟩

/-- A cycle each minute, at which the pH is high. -/
def eachMinute : Nat → List AutomationEvent
  | 0 => [measure 9]
  | cycles + 1 => measure 9 :: .advance 60 :: eachMinute cycles

/-- A relay that is on when its budget is spent stays on. -/
theorem budget_overrun :
    ¬ ∀ (rules : List Rule) (policies : Policies) (minutes maxOnS : Rat) (hour : Nat) (gap : Rat) (run : Automation),
      (∀ rule ∈ rules, rule.durationS = 0) → 0 < minutes →
      Events.Reaches step (DrivenByRules gap)
        (start rules { policies with maxOnSPerHour := minutes * 60 } maxOnS hour) run →
      ∀ relay, run.energised relay ≤ 60 * minutes + gap := by
  intro bounded
  have plays : (Events.play step (DrivenByRules 60) (start [acidRule] { maxOnSPerHour := 1 * 60 } 0 9)
      (eachMinute 3)).any (fun run => ¬ run.energised 1 ≤ 60 * 1 + 60) = true := by decide +kernel
  obtain ⟨run, played, overrun⟩ := (Option.any_eq_true _ _).mp plays
  exact of_decide_eq_true overrun
    (bounded [acidRule] {} 1 0 9 60 run (by decide) (by decide) (Events.reaches_play played) 1)

end Automation

end Wqm1.Control
