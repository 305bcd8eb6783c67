import Wqm1.Control.RuleCycle

/-! The timer sweep of the rules engine, against the commands that it issued. -/

set_option autoImplicit false

namespace Wqm1.Control

open Wqm1.Library

/-- The last command that was issued for a relay: an ON with its duration and time. -/
inductive Issue where
  | on (duration : Option Rat) (since : Rat)
  | off
deriving DecidableEq

/-- The engine, and what it last issued for each relay. -/
structure SweepRun where
  engine : RulesEngine
  issued : Int → Option Issue

inductive SweepEvent where
  | evaluate (cycle : Cycle)
  | downlink (fport : UInt8) (payload : Bytes) (now : Rat) (reserved : List Int) (written : Bool)
  | setSuspendedSensors (sensors : List String)
  | loadRules (rules : List (Option Rule))
  | loadPolicies (policies : Policies)
  | setBaselines (baselines : String → Option Baseline)

def lastCommand (actions : List RelayAction) (relay : Int) : Option Bool :=
  ((actions.filter fun action => decide (action.1 = relay)).getLast?).map Prod.snd

theorem lastCommand_append (first second : List RelayAction) (relay : Int) :
    lastCommand (first ++ second) relay = (lastCommand second relay).or (lastCommand first relay) := by
  unfold lastCommand
  rw [List.filter_append, List.getLast?_append]
  cases (second.filter fun action => decide (action.1 = relay)).getLast? <;> rfl

theorem lastCommand_eq_none {actions : List RelayAction} {relay : Int}
    (absent : ∀ action ∈ actions, action.1 ≠ relay) : lastCommand actions relay = none := by
  unfold lastCommand
  rw [List.filter_eq_nil_iff.mpr fun action member same => absent action member (of_decide_eq_true same)]
  rfl

namespace SweepRun

def start : SweepRun := ⟨{}, fun _ => none⟩

/-- The commands of a cycle, in their order. An ON carries the duration that is handed to
the relay controller with it. -/
def issue (run : SweepRun) (plan : CyclePlan) (now : Rat) (relay : Int) : Option Issue :=
  match lastCommand plan.actions relay with
  | none => run.issued relay
  | some true => some (.on (plan.durations relay) now)
  | some false => some .off

theorem issue_on {run : SweepRun} {plan : CyclePlan} {now : Rat} {relay : Int}
    (last : lastCommand plan.commands relay = some true) :
    run.issue plan now relay = some (.on (plan.durations relay) now) := by
  unfold issue CyclePlan.actions
  rw [lastCommand_append, last]
  rfl

theorem issue_quiet {run : SweepRun} {plan : CyclePlan} {now : Rat} {relay : Int}
    (quiet : lastCommand plan.actions relay = none) : run.issue plan now relay = run.issued relay := by
  unfold issue
  rw [quiet]

def issueDownlink (run : SweepRun) (command : DownlinkCommand) (now : Rat) : Int → Option Issue :=
  Function.update run.issued command.channel (some (if command.state then
    .on (if 0 < command.duration then some command.duration else none) now else .off))

def step (run : SweepRun) : SweepEvent → Option SweepRun
  | .evaluate cycle =>
    let plan := run.engine.evaluate cycle
    some ⟨plan.engine, run.issue plan cycle.now⟩
  | .downlink fport payload now reserved written =>
    let result := run.engine.processDownlinkCommand fport payload now reserved written
    some ⟨result.1,
      if result.2 = some true then
        (readDownlinkCommand fport payload).elim run.issued fun command => run.issueDownlink command now
      else run.issued⟩
  | .setSuspendedSensors sensors => some { run with engine := run.engine.setSuspendedSensors sensors }
  | .loadRules rules => some { run with engine := run.engine.loadRules rules }
  | .loadPolicies policies => some { run with engine := run.engine.loadPolicies policies }
  | .setBaselines baselines => some { run with engine := { run.engine with baselines := baselines } }

abbrev Reachable (permits : SweepRun → SweepEvent → Prop) (run : SweepRun) : Prop :=
  Events.Reaches step permits start run

/-- While the engine keeps a timer for a relay, rules and downlinks issue nothing for the
relay but ONs with a duration. -/
def keepsTimers (run : SweepRun) : SweepEvent → Prop
  | .evaluate cycle =>
    let plan := run.engine.evaluate cycle
    ∀ action ∈ plan.commands, (plan.engine.timers.get action.1).isSome = true →
      lastCommand plan.commands action.1 = some true ∧ (plan.durations action.1).isSome = true
  | .downlink fport payload _ reserved written =>
    ∀ command ∈ readDownlinkCommand fport payload, command.channel ∉ reserved → written = true →
      (run.engine.timers.get command.channel).isSome = true → command.state = true ∧ 0 < command.duration
  | _ => True

/-- Every timer of the engine belongs to the last command for its relay. -/
def Told (run : SweepRun) : Prop :=
  ∀ relay shutoff, run.engine.timers.get relay = some shutoff →
    ∃ duration since, run.issued relay = some (.on (some duration) since) ∧ since + duration = shutoff

/-- What the rules of a cycle do to the timers. -/
structure Timed (engine : RulesEngine) (cycle : Cycle) (plan : CyclePlan) : Prop where
  durations : ∀ relay duration, plan.durations relay = some duration →
    plan.engine.timers.get relay = some (cycle.now + duration)
  kept : ∀ relay, (∀ action ∈ plan.commands, action.1 ≠ relay) →
    plan.engine.timers.get relay = (engine.swept cycle).timers.get relay

theorem timed_evaluate (engine : RulesEngine) (cycle : Cycle) : Timed engine cycle (engine.evaluate cycle) := by
  refine RulesEngine.evaluate_invariant engine cycle (Timed engine cycle) ?_ ?_
  · intro before _ timers _ durations
    constructor
    · intro relay duration named
      rw [durations] at named
      cases named
    · intro relay _
      rw [timers]
  · intro plan rule timed
    obtain ⟨onTime, same⟩ | ⟨_, onTime, same⟩ | ⟨_, same⟩ := RulesEngine.runRule_cases cycle plan rule
    · rw [same]
      exact ⟨timed.durations, timed.kept⟩
    · rw [same]
      unfold RulesEngine.switchOn
      dsimp only
      by_cases lasting : 0 < rule.durationS
      · simp only [lasting, decide_true, ↓reduceIte]
        constructor
        · intro relay duration named
          by_cases mine : relay = rule.relay
          · subst mine
            have given : rule.durationS = duration := by simpa using named
            simp [given]
          · have earlier : plan.durations relay = some duration := by simpa [mine] using named
            simpa [mine] using timed.durations relay duration earlier
        · intro relay absent
          have other : relay ≠ rule.relay := by
            intro mine
            exact absent (rule.relay, true) (by simp) mine.symm
          rw [Dict.get_set, if_neg other]
          exact timed.kept relay fun action member => absent action (List.mem_append_left _ member)
      · simp only [lasting, decide_false, Bool.false_eq_true, ↓reduceIte]
        refine ⟨timed.durations, fun relay absent => ?_⟩
        exact timed.kept relay fun action member => absent action (List.mem_append_left _ member)
    · rw [same]
      refine ⟨timed.durations, fun relay absent => ?_⟩
      exact timed.kept relay fun action member => absent action (List.mem_append_left _ member)

theorem told_evaluate {run : SweepRun} (told : Told run) (cycle : Cycle)
    (permitted : run.keepsTimers (.evaluate cycle)) {after : SweepRun}
    (stepped : run.step (.evaluate cycle) = some after) : Told after := by
  rw [← Option.some.inj stepped]
  intro relay shutoff live
  have timed := timed_evaluate run.engine cycle
  have swept := RulesEngine.swept_evaluate run.engine cycle
  by_cases commanded : ∃ action ∈ (run.engine.evaluate cycle).commands, action.1 = relay
  · obtain ⟨action, member, same⟩ := commanded
    subst same
    obtain ⟨last, lasting⟩ := permitted action member (Option.isSome_of_eq_some live)
    obtain ⟨duration, named⟩ := Option.isSome_iff_exists.mp lasting
    have shut := timed.durations action.1 duration named
    rw [live] at shut
    refine ⟨duration, cycle.now, ?_, (Option.some.inj shut).symm⟩
    rw [← named]
    exact issue_on last
  · have absent : ∀ action ∈ (run.engine.evaluate cycle).commands, action.1 ≠ relay := by
      intro action member same
      exact commanded ⟨action, member, same⟩
    rw [timed.kept relay absent] at live
    obtain ⟨reverted, free, later⟩ := RulesEngine.get_timers_expire.mp live
    obtain ⟨before, kept⟩ := RulesEngine.get_timers_revert.mp reverted
    obtain ⟨duration, since, issued, ends⟩ := told relay shutoff before
    refine ⟨duration, since, ?_, ends⟩
    have quiet : lastCommand (run.engine.evaluate cycle).actions relay = none := by
      apply lastCommand_eq_none
      intro action member same
      subst same
      cases List.mem_append.mp member with
      | inr command => exact absent action command rfl
      | inl early =>
        cases List.mem_append.mp early with
        | inl dropped =>
          rw [swept.failsafe] at dropped
          exact kept (RulesEngine.mem_revert_iff.mp dropped).1
        | inr expired =>
          rw [swept.expired] at expired
          obtain ⟨⟨elapsed, found, due⟩, _⟩ := RulesEngine.mem_expire_iff.mp expired
          rw [reverted] at found
          cases found
          exact absurd due (not_le_of_gt later)
    rw [← issued]
    exact issue_quiet quiet

theorem told_downlink {run : SweepRun} (told : Told run) (fport : UInt8) (payload : Bytes) (now : Rat)
    (reserved : List Int) (written : Bool)
    (permitted : run.keepsTimers (.downlink fport payload now reserved written)) {after : SweepRun}
    (stepped : run.step (.downlink fport payload now reserved written) = some after) : Told after := by
  rw [← Option.some.inj stepped]
  unfold RulesEngine.processDownlinkCommand
  cases read : readDownlinkCommand fport payload with
  | none => exact told
  | some command =>
    dsimp only
    by_cases free : command.channel ∈ reserved
    · simp only [free, ↓reduceIte]
      exact told
    · cases written with
      | false =>
        simp only [free, ↓reduceIte, RulesEngine.applyDownlinkCommand]
        exact told
      | true =>
        simp only [free, ↓reduceIte, RulesEngine.applyDownlinkCommand, true_and, Option.elim_some]
        have kept := permitted command read free rfl
        intro relay shutoff live
        unfold issueDownlink
        dsimp only at live ⊢
        by_cases mine : relay = command.channel
        · subst mine
          rw [Function.update_self]
          by_cases lasting : command.state = true ∧ 0 < command.duration
          · rw [if_pos lasting, Dict.get_set, if_pos rfl] at live
            refine ⟨command.duration, now, ?_, Option.some.inj live⟩
            simp only [lasting, ↓reduceIte]
          · rw [if_neg lasting] at live
            exact absurd (kept (Option.isSome_of_eq_some live)) lasting
        · rw [Function.update_of_ne mine]
          apply told relay shutoff
          split at live
          next => simpa [mine] using live
          next => exact live

theorem told_reachable {run : SweepRun} (reached : run.Reachable keepsTimers) : Told run := by
  apply reached.invariant
  · intro relay shutoff live
    cases live
  · intro before event after _ permitted stepped told
    cases event with
    | evaluate cycle => exact told_evaluate told cycle permitted stepped
    | downlink fport payload now reserved written =>
      exact told_downlink told fport payload now reserved written permitted stepped
    | setSuspendedSensors sensors =>
      cases stepped
      exact told
    | loadRules rules =>
      cases stepped
      exact told
    | loadPolicies policies =>
      cases stepped
      exact told
    | setBaselines baselines =>
      cases stepped
      exact told

/-- In every run in which rules and downlinks issue nothing but ONs with a duration for a
relay with a timer, the sweep ends an on-period only when the last command for the relay
was an ON whose duration has elapsed. -/
theorem sweep_ends_elapsed_on {run : SweepRun} (reached : run.Reachable keepsTimers) (cycle : Cycle)
    {relay : Int} (ended : (relay, false) ∈ run.engine.expiredActions cycle) :
    ∃ duration since, run.issued relay = some (.on (some duration) since) ∧ since + duration ≤ cycle.now := by
  obtain ⟨⟨shutoff, live, due⟩, _⟩ := RulesEngine.mem_expire_iff.mp ended
  have before := (RulesEngine.get_timers_revert.mp live).1
  obtain ⟨duration, since, issued, ends⟩ := told_reachable reached relay shutoff before
  refine ⟨duration, since, issued, ?_⟩
  rw [ends]
  exact due

instance (run : SweepRun) (event : SweepEvent) : Decidable (run.keepsTimers event) := by
  cases event <;> unfold keepsTimers <;> infer_instance

/-- A cycle without readings. -/
def idle (now : Rat) : Cycle := ⟨fun _ => none, now, ⟨0, 0, 0⟩, []⟩

/-- Relay 1 on for a minute. -/
def minute : SweepEvent := .downlink 100 [1, 1, 0, 60] 0 [] true

theorem sweep_ends_elapsed_on_minute :
    ∃ run : SweepRun, run.Reachable keepsTimers ∧ (1, false) ∈ run.engine.expiredActions (idle 60) ∧
      ∃ duration since, run.issued 1 = some (.on (some duration) since) ∧ since + duration ≤ 60 := by
  have played : (Events.play step keepsTimers start [minute, .evaluate (idle 30)]).map (fun run =>
      decide ((1, false) ∈ run.engine.expiredActions (idle 60))) = some true := by
    decide +kernel
  obtain ⟨run, reached, seen⟩ := Option.map_eq_some_iff.mp played
  have ended := of_decide_eq_true seen
  exact ⟨run, Events.reaches_play reached, ended, sweep_ends_elapsed_on (Events.reaches_play reached) (idle 60) ended⟩

/-- A minute's ON, an OFF and an ON without a duration: the sweep drops the relay. -/
theorem stale_timer_ends_on :
    ¬ ∀ (run : SweepRun) (cycle : Cycle) (relay : Int), run.Reachable Events.anything →
      (relay, false) ∈ run.engine.expiredActions cycle →
        ∃ duration since, run.issued relay = some (.on (some duration) since) ∧ since + duration ≤ cycle.now := by
  intro claimed
  have played : (Events.play step Events.anything start
      [minute, .downlink 100 [1, 0] 10 [] true, .downlink 100 [1, 1] 20 [] true]).map (fun run =>
        (decide ((1, false) ∈ run.engine.expiredActions (idle 60)), run.issued 1)) =
          some (true, some (.on none 20)) := by
    decide +kernel
  obtain ⟨run, reached, seen⟩ := Option.map_eq_some_iff.mp played
  simp only [Prod.mk.injEq] at seen
  obtain ⟨duration, since, issued, _⟩ :=
    claimed run (idle 60) 1 (Events.reaches_play reached) (of_decide_eq_true seen.1)
  rw [seen.2] at issued
  cases issued

end SweepRun

end Wqm1.Control
