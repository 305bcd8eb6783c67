import Wqm1.Control.Rules

/-! What one cycle of the rules engine can do. -/

set_option autoImplicit false

namespace Wqm1.Control.RulesEngine

open Wqm1.Library

variable {cycle : Cycle}

theorem mem_revert_iff {engine : RulesEngine} {now : Rat} {reserved : List Int}
    {action : RelayAction} :
    action ∈ (engine.revertSuspendedToFailsafe now reserved).2 ↔
      (action.1 ∈ engine.pendingFailsafe ∧ action.1 ∉ reserved) ∧ action.2 = false := by
  unfold revertSuspendedToFailsafe
  simp only [List.mem_map, List.mem_insertionSort, List.mem_filter, decide_eq_true_eq]
  constructor
  · intro member
    obtain ⟨relay, pending, same⟩ := member
    rw [← same]
    exact ⟨pending, rfl⟩
  · intro pending
    exact ⟨action.1, pending.1, Prod.ext rfl pending.2.symm⟩

theorem get_timers_revert {engine : RulesEngine} {now : Rat} {reserved : List Int} {relay : Int}
    {shutoff : Rat} :
    (engine.revertSuspendedToFailsafe now reserved).1.timers.get relay = some shutoff ↔
      engine.timers.get relay = some shutoff ∧
        ¬ (relay ∈ engine.pendingFailsafe ∧ relay ∉ reserved) := by
  unfold revertSuspendedToFailsafe
  simp only [Dict.get_filter_eq_some_iff, List.mem_filter, decide_eq_true_eq]

theorem mem_expire_iff {engine : RulesEngine} {now : Rat} {reserved : List Int}
    {action : RelayAction} :
    action ∈ (engine.expireTimers now reserved).2 ↔
      (∃ shutoff, engine.timers.get action.1 = some shutoff ∧ shutoff ≤ now) ∧ action.1 ∉ reserved ∧
        action.2 = false := by
  unfold expireTimers
  simp only [List.mem_map, Dict.mem_keys_iff, Dict.get_filter_eq_some_iff, decide_eq_true_eq]
  constructor
  · intro member
    obtain ⟨relay, ⟨shutoff, ⟨live, free⟩, due⟩, same⟩ := member
    rw [← same]
    exact ⟨⟨shutoff, live, due⟩, free, rfl⟩
  · intro due
    obtain ⟨⟨shutoff, live, elapsed⟩, free, off⟩ := due
    exact ⟨action.1, ⟨shutoff, ⟨live, free⟩, elapsed⟩, Prod.ext rfl off.symm⟩

theorem get_timers_expire {engine : RulesEngine} {now : Rat} {reserved : List Int} {relay : Int}
    {shutoff : Rat} :
    (engine.expireTimers now reserved).1.timers.get relay = some shutoff ↔
      engine.timers.get relay = some shutoff ∧ relay ∉ reserved ∧ now < shutoff := by
  unfold expireTimers
  simp only [Dict.get_filter_eq_some_iff, decide_eq_true_eq, and_assoc]

/-- A relay is refused only where it has spent its on-time of this hour. -/
theorem checkOnTimeBudget_spent {engine : RulesEngine} {relay : Int} {hour : Nat}
    (refused : (engine.checkOnTimeBudget relay hour).2 = false) :
    (engine.checkOnTimeBudget relay hour).1 = engine ∧
      ∃ seconds, engine.onTime relay = some (hour, seconds) ∧ engine.maxOnSPerHour ≤ seconds := by
  unfold checkOnTimeBudget at refused ⊢
  split at refused
  next => cases refused
  next limited =>
    rw [if_neg limited]
    cases counted : engine.onTime relay with
    | none =>
      rw [counted] at refused
      cases refused
    | some entry =>
      obtain ⟨hourOf, seconds⟩ := entry
      simp only [counted] at refused ⊢
      split at refused
      next => cases refused
      next same =>
        rw [if_neg same]
        exact ⟨rfl, seconds, by rw [not_not.mp same], not_lt.mp (of_decide_eq_false refused)⟩

/-- The entry that the check leaves for a relay with on-time left: the one that is there, or
a new one of this hour. -/
theorem checkOnTimeBudget_left {engine : RulesEngine} {relay : Int} {hour : Nat}
    (left : (engine.checkOnTimeBudget relay hour).2 = true) :
    ∃ onTime, (engine.checkOnTimeBudget relay hour).1 = { engine with onTime := onTime } ∧
      (onTime = engine.onTime ∨ (∀ entry ∈ engine.onTime relay, entry.1 ≠ hour) ∧
        onTime = Function.update engine.onTime relay (some (hour, 0))) ∧
      (0 < engine.maxOnSPerHour → ∃ seconds < engine.maxOnSPerHour, onTime relay = some (hour, seconds)) := by
  unfold checkOnTimeBudget at left ⊢
  split at left
  next unlimited =>
    rw [if_pos unlimited]
    exact ⟨_, rfl, .inl rfl, fun limited => absurd unlimited (not_le_of_gt limited)⟩
  next limited =>
    rw [if_neg limited]
    have fresh (positive : 0 < engine.maxOnSPerHour) : ∃ seconds < engine.maxOnSPerHour,
        Function.update engine.onTime relay (some (hour, 0)) relay = some (hour, seconds) :=
      ⟨0, positive, Function.update_self ..⟩
    cases counted : engine.onTime relay with
    | none => exact ⟨_, rfl, .inr ⟨(fun _ impossible => by cases impossible), rfl⟩, fresh⟩
    | some entry =>
      obtain ⟨hourOf, seconds⟩ := entry
      simp only [counted] at left ⊢
      split at left
      next other =>
        rw [if_pos other]
        refine ⟨_, rfl, .inr ⟨fun entry found => ?_, rfl⟩, fresh⟩
        cases found
        exact other
      next same =>
        rw [if_neg same]
        exact ⟨_, rfl, .inl rfl, fun _ => ⟨seconds, of_decide_eq_true left, by rw [counted, not_not.mp same]⟩⟩

/-- What a rule can do in a cycle, and the checks that it passed. -/
theorem runRule_outcome (cycle : Cycle) (plan : CyclePlan) (rule : Rule) :
    runRule cycle plan rule = plan ∨
      (plan.engine.triggered cycle rule = true ∧ plan.engine.isInCooldown rule.relay cycle.now = false ∧
        (plan.engine.checkOnTimeBudget rule.relay cycle.wall.hour).2 = true ∧
        runRule cycle plan rule = switchOn { plan with
          engine := (plan.engine.checkOnTimeBudget rule.relay cycle.wall.hour).1 } cycle rule) ∨
      (plan.engine.triggered cycle rule = true ∧ runRule cycle plan rule = switchOff plan cycle rule) := by
  unfold runRule
  cases fires : plan.engine.triggered cycle rule with
  | false => exact .inl rfl
  | true =>
    cases on : rule.on with
    | false => exact .inr (.inr ⟨rfl, rfl⟩)
    | true =>
      dsimp only
      cases resting : plan.engine.isInCooldown rule.relay cycle.now with
      | true => exact .inl rfl
      | false =>
        cases left : (plan.engine.checkOnTimeBudget rule.relay cycle.wall.hour).2 with
        | true => exact .inr (.inl ⟨rfl, rfl, rfl, rfl⟩)
        | false =>
          left
          simp only [↓reduceIte, Bool.false_eq_true, (checkOnTimeBudget_spent left).1]

theorem runRule_cases (cycle : Cycle) (plan : CyclePlan) (rule : Rule) :
    (∃ onTime, runRule cycle plan rule = { plan with engine := { plan.engine with onTime := onTime } }) ∨
      (plan.engine.triggered cycle rule = true ∧ ∃ onTime, runRule cycle plan rule =
        switchOn { plan with engine := { plan.engine with onTime := onTime } } cycle rule) ∨
      (plan.engine.triggered cycle rule = true ∧ runRule cycle plan rule = switchOff plan cycle rule) := by
  obtain same | ⟨fires, -, left, same⟩ | off := runRule_outcome cycle plan rule
  · exact .inl ⟨plan.engine.onTime, same⟩
  · obtain ⟨onTime, counted, -⟩ := checkOnTimeBudget_left left
    rw [counted] at same
    exact .inr (.inl ⟨fires, onTime, same⟩)
  · exact .inr (.inr off)

theorem free_of_triggered {engine : RulesEngine} {rule : Rule}
    (fires : engine.triggered cycle rule = true) :
    rule.relay ∉ cycle.reserved := by
  unfold triggered at fires
  simp only [Bool.and_eq_true, decide_eq_true_eq] at fires
  exact fires.1.1

/-- The engine after the sweeps of a cycle. -/
def swept (engine : RulesEngine) (cycle : Cycle) : RulesEngine :=
  ((engine.revertSuspendedToFailsafe cycle.now cycle.reserved).1.expireTimers cycle.now cycle.reserved).1

def revertedActions (engine : RulesEngine) (cycle : Cycle) : List RelayAction :=
  (engine.revertSuspendedToFailsafe cycle.now cycle.reserved).2

def expiredActions (engine : RulesEngine) (cycle : Cycle) : List RelayAction :=
  ((engine.revertSuspendedToFailsafe cycle.now cycle.reserved).1.expireTimers cycle.now cycle.reserved).2

/-- The OFFs of a cycle before its rules. -/
def sweptOff (engine : RulesEngine) (cycle : Cycle) : List RelayAction :=
  engine.revertedActions cycle ++ engine.expiredActions cycle

theorem revert_noteOff (engine : RulesEngine) (now : Rat) (reserved : List Int) : ∃ relays,
    (∀ relay, relay ∈ relays ↔ (relay, false) ∈ (engine.revertSuspendedToFailsafe now reserved).2) ∧
      (engine.revertSuspendedToFailsafe now reserved).1.lastOff = (engine.noteOff now relays).lastOff ∧
      (engine.revertSuspendedToFailsafe now reserved).1.onSince = (engine.noteOff now relays).onSince := by
  refine ⟨_, fun relay => ?_, rfl, rfl⟩
  rw [mem_revert_iff, List.mem_filter, decide_eq_true_eq]
  exact (and_iff_left rfl).symm

theorem expire_noteOff (engine : RulesEngine) (now : Rat) (reserved : List Int) : ∃ relays,
    (∀ relay, relay ∈ relays ↔ (relay, false) ∈ (engine.expireTimers now reserved).2) ∧
      (engine.expireTimers now reserved).1.lastOff = (engine.noteOff now relays).lastOff ∧
      (engine.expireTimers now reserved).1.onSince = (engine.noteOff now relays).onSince := by
  refine ⟨_, fun relay => ?_, rfl, rfl⟩
  unfold expireTimers
  simp only [List.mem_map, Prod.mk.injEq, and_true, exists_eq_right]

theorem swept_lastOff (engine : RulesEngine) (cycle : Cycle) (relay : Int) :
    (engine.swept cycle).lastOff relay =
      if (relay, false) ∈ engine.sweptOff cycle then some cycle.now else engine.lastOff relay := by
  obtain ⟨reverted, isReverted, first, -⟩ := revert_noteOff engine cycle.now cycle.reserved
  obtain ⟨expired, isExpired, second, -⟩ :=
    expire_noteOff (engine.revertSuspendedToFailsafe cycle.now cycle.reserved).1 cycle.now cycle.reserved
  unfold swept sweptOff revertedActions expiredActions
  rw [second]
  simp only [noteOff, first, List.mem_append, ← isReverted, ← isExpired]
  by_cases here : relay ∈ expired <;> by_cases there : relay ∈ reverted <;> simp [here, there]

theorem swept_onSince (engine : RulesEngine) (cycle : Cycle) (relay : Int) :
    (engine.swept cycle).onSince relay =
      if (relay, false) ∈ engine.sweptOff cycle then none else engine.onSince relay := by
  obtain ⟨reverted, isReverted, -, first⟩ := revert_noteOff engine cycle.now cycle.reserved
  obtain ⟨expired, isExpired, -, second⟩ :=
    expire_noteOff (engine.revertSuspendedToFailsafe cycle.now cycle.reserved).1 cycle.now cycle.reserved
  unfold swept sweptOff revertedActions expiredActions
  rw [second]
  simp only [noteOff, first, List.mem_append, ← isReverted, ← isExpired]
  by_cases here : relay ∈ expired <;> by_cases there : relay ∈ reverted <;> simp [here, there]

/-- The guards of a cycle let its rules run. -/
def runsRules (engine : RulesEngine) (cycle : Cycle) : Bool :=
  (engine.swept cycle).isInSchedule cycle.wall && !(engine.swept cycle).manualOverride

/-- The plan of a cycle before its rules. -/
def begun (engine : RulesEngine) (cycle : Cycle) : CyclePlan where
  engine := (engine.swept cycle).accumulateOnTime cycle.now cycle.wall.hour
  failsafe := engine.revertedActions cycle
  expired := engine.expiredActions cycle

theorem evaluate_eq (engine : RulesEngine) (cycle : Cycle) :
    engine.evaluate cycle = if engine.runsRules cycle then engine.rules.foldl (runRule cycle) (engine.begun cycle)
      else { engine := engine.swept cycle, failsafe := engine.revertedActions cycle
             expired := engine.expiredActions cycle } := by
  have guards : ((engine.swept cycle).isInSchedule cycle.wall = false ∨
      (engine.swept cycle).manualOverride = true) ↔ ¬ engine.runsRules cycle = true := by
    unfold runsRules
    cases (engine.swept cycle).isInSchedule cycle.wall <;> cases (engine.swept cycle).manualOverride <;> simp
  by_cases runs : engine.runsRules cycle = true
  · rw [if_pos runs]
    exact if_neg (guards.not.mpr (not_not.mpr runs))
  · rw [if_neg runs]
    exact if_pos (guards.mpr runs)

/-- What holds before some rules and is kept by each of them holds after them. -/
theorem foldl_runRule (holds : CyclePlan → Prop) {rules : List Rule}
    (kept : ∀ plan, ∀ rule ∈ rules, holds plan → holds (runRule cycle plan rule)) {plan : CyclePlan}
    (held : holds plan) : holds (rules.foldl (runRule cycle) plan) := by
  induction rules generalizing plan with
  | nil => exact held
  | cons rule rest ih =>
    exact ih (fun plan other member => kept plan other (List.mem_cons_of_mem _ member))
      (kept plan rule List.mem_cons_self held)

/-- What the rules of a cycle do not change. -/
structure Swept (engine : RulesEngine) (cycle : Cycle) (plan : CyclePlan) : Prop where
  failsafe : plan.failsafe = engine.revertedActions cycle
  expired : plan.expired = engine.expiredActions cycle
  pending : plan.engine.pendingFailsafe = []
  rules : plan.engine.rules = engine.rules
  suspended : plan.engine.suspendedColumns = engine.suspendedColumns

/-- What holds before the rules of a cycle and is kept by each of them holds of its plan. -/
theorem evaluate_invariant (engine : RulesEngine) (cycle : Cycle) (holds : CyclePlan → Prop)
    (begins : ∀ before, Swept engine cycle before → before.engine.timers = (engine.swept cycle).timers →
      before.commands = [] → before.durations = (fun _ => none) → holds before)
    (kept : ∀ plan rule, holds plan → holds (runRule cycle plan rule)) :
    holds (engine.evaluate cycle) := by
  rw [evaluate_eq]
  split
  next => exact foldl_runRule holds (fun plan rule _ => kept plan rule) (begins _ ⟨rfl, rfl, rfl, rfl, rfl⟩ rfl rfl rfl)
  next => exact begins _ ⟨rfl, rfl, rfl, rfl, rfl⟩ rfl rfl rfl

theorem swept_evaluate (engine : RulesEngine) (cycle : Cycle) :
    Swept engine cycle (engine.evaluate cycle) := by
  refine evaluate_invariant engine cycle (Swept engine cycle) ?_ ?_
  · intro before swept _ _ _
    exact swept
  · intro plan rule held
    obtain ⟨failsafe, expired, pending, rules, suspended⟩ := held
    obtain ⟨onTime, same⟩ | ⟨_, onTime, same⟩ | ⟨_, same⟩ := runRule_cases cycle plan rule
    · rw [same]
      exact ⟨failsafe, expired, pending, rules, suspended⟩
    · rw [same]
      exact ⟨failsafe, expired, pending, rules, suspended⟩
    · rw [same]
      exact ⟨failsafe, expired, pending, rules, suspended⟩

/-- No action of a cycle is on a channel that was reserved when the cycle began. -/
theorem unreserved_of_mem_actions {engine : RulesEngine} {action : RelayAction}
    (member : action ∈ (engine.evaluate cycle).actions) : action.1 ∉ cycle.reserved := by
  have commanded : ∀ action ∈ (engine.evaluate cycle).commands, action.1 ∉ cycle.reserved := by
    refine evaluate_invariant engine cycle
      (fun plan => ∀ action ∈ plan.commands, action.1 ∉ cycle.reserved) ?_ ?_
    · intro before _ _ empty _ action member
      rw [empty] at member
      cases member
    · intro plan rule held action member
      obtain ⟨onTime, same⟩ | ⟨fires, onTime, same⟩ | ⟨fires, same⟩ := runRule_cases cycle plan rule
      · rw [same] at member
        exact held action member
      · rw [same] at member
        cases List.mem_append.mp member with
        | inl earlier => exact held action earlier
        | inr new =>
          rw [List.mem_singleton.mp new]
          exact free_of_triggered fires
      · rw [same] at member
        cases List.mem_append.mp member with
        | inl earlier => exact held action earlier
        | inr new =>
          rw [List.mem_singleton.mp new]
          exact free_of_triggered fires
  have before := swept_evaluate engine cycle
  unfold CyclePlan.actions at member
  rw [before.failsafe, before.expired] at member
  cases List.mem_append.mp member with
  | inl first =>
    cases List.mem_append.mp first with
    | inl reverted => exact (mem_revert_iff.mp reverted).1.2
    | inr elapsed => exact (mem_expire_iff.mp elapsed).2.1
  | inr command => exact commanded action command

end Wqm1.Control.RulesEngine
