import Wqm1.Control.RuleCycle

/-! The fail-safe of suspended sensors, against the relays that wait for it. -/

set_option autoImplicit false

namespace Wqm1.Control

open Wqm1.Library

/-- The engine, and the relays that a suspension has named and that were neither switched
off by a fail-safe write that succeeded nor reserved in a cycle since. -/
structure FailsafeRun where
  engine : RulesEngine
  owed : List Int

/-- The reserved channels of a cycle are what the provider in force answers; `written` says
which of the cycle's writes succeed. -/
inductive FailsafeEvent where
  | setSuspendedSensors (sensors : List String)
  | evaluate (cycle : Cycle) (written : Nat → Bool)
  | loadRules (rules : List (Option Rule))
  | loadPolicies (policies : Policies)
  | downlink (fport : UInt8) (payload : Bytes) (now : Rat) (reserved : List Int) (written : Bool)
  | setBaselines (baselines : String → Option Baseline)

/-- A fail-safe OFF of the relay was written. The fail-safe writes come first. -/
def CyclePlan.Drops (plan : CyclePlan) (written : Nat → Bool) (relay : Int) : Prop :=
  ∃ index < plan.failsafe.length, plan.failsafe[index]? = some (relay, false) ∧ written index = true

instance (plan : CyclePlan) (written : Nat → Bool) (relay : Int) : Decidable (plan.Drops written relay) :=
  inferInstanceAs (Decidable (∃ index < plan.failsafe.length, _))

namespace FailsafeRun

def start : FailsafeRun := ⟨{}, []⟩

def step (run : FailsafeRun) : FailsafeEvent → Option FailsafeRun
  | .setSuspendedSensors sensors =>
    some ⟨run.engine.setSuspendedSensors sensors,
      run.owed ++ run.engine.relaysOn (run.engine.newlySuspended sensors)⟩
  | .evaluate cycle written =>
    let plan := run.engine.evaluate cycle
    some ⟨plan.engine, run.owed.filter fun relay =>
      decide (relay ∉ cycle.reserved) && !decide (plan.Drops written relay)⟩
  | .loadRules rules => some { run with engine := run.engine.loadRules rules }
  | .loadPolicies policies => some { run with engine := run.engine.loadPolicies policies }
  | .downlink fport payload now reserved written =>
    some { run with engine := (run.engine.processDownlinkCommand fport payload now reserved written).1 }
  | .setBaselines baselines => some { run with engine := { run.engine with baselines := baselines } }

abbrev Reachable (permits : FailsafeRun → FailsafeEvent → Prop) (run : FailsafeRun) : Prop :=
  Events.Reaches step permits start run

/-- No fail-safe write fails. -/
def dropsSucceed (run : FailsafeRun) : FailsafeEvent → Prop
  | .evaluate cycle written => ∀ index < (run.engine.evaluate cycle).failsafe.length, written index = true
  | _ => True

theorem mem_failsafe_iff {run : FailsafeRun} {cycle : Cycle} {action : RelayAction} :
    action ∈ (run.engine.evaluate cycle).failsafe ↔
      (action.1 ∈ run.engine.pendingFailsafe ∧ action.1 ∉ cycle.reserved) ∧ action.2 = false := by
  rw [(RulesEngine.swept_evaluate run.engine cycle).failsafe]
  exact RulesEngine.mem_revert_iff

/-- A relay whose fail-safe OFF is planned is dropped when no fail-safe write fails. -/
theorem drops_of_mem {plan : CyclePlan} {written : Nat → Bool} {relay : Int}
    (succeed : ∀ index < plan.failsafe.length, written index = true) (member : (relay, false) ∈ plan.failsafe) :
    plan.Drops written relay := by
  obtain ⟨index, inside, same⟩ := List.mem_iff_getElem.mp member
  refine ⟨index, inside, ?_, succeed index inside⟩
  rw [List.getElem?_eq_getElem inside, same]

theorem pendingFailsafe_processDownlinkCommand {engine : RulesEngine} {fport : UInt8} {payload : Bytes} {now : Rat}
    {reserved : List Int} {written : Bool} :
    (engine.processDownlinkCommand fport payload now reserved written).1.pendingFailsafe = engine.pendingFailsafe := by
  unfold RulesEngine.processDownlinkCommand
  split
  next => rfl
  next =>
    split
    next => rfl
    next =>
      unfold RulesEngine.applyDownlinkCommand
      split
      next => rfl
      next => rfl

theorem owed_of_pending {permits : FailsafeRun → FailsafeEvent → Prop} {run : FailsafeRun}
    (reached : run.Reachable permits) : ∀ relay ∈ run.engine.pendingFailsafe, relay ∈ run.owed := by
  apply reached.invariant
  · intro relay waiting
    cases waiting
  · intro before event after _ _ stepped owed relay waiting
    cases event with
    | setSuspendedSensors sensors =>
      cases stepped
      cases List.mem_append.mp (List.mem_dedup.mp waiting) with
      | inl earlier => exact List.mem_append_left _ (owed relay earlier)
      | inr new => exact List.mem_append_right _ new
    | evaluate cycle written =>
      rw [← Option.some.inj stepped] at waiting
      dsimp only at waiting
      rw [(RulesEngine.swept_evaluate before.engine cycle).pending] at waiting
      cases waiting
    | loadRules rules | loadPolicies policies | setBaselines baselines =>
      cases stepped
      exact owed relay waiting
    | downlink fport payload now reserved written =>
      cases stepped
      rw [pendingFailsafe_processDownlinkCommand] at waiting
      exact owed relay waiting

/-- As long as no fail-safe write fails, every owed relay waits in the engine. -/
theorem pending_of_owed {run : FailsafeRun} (reached : run.Reachable dropsSucceed) :
    ∀ relay ∈ run.owed, relay ∈ run.engine.pendingFailsafe := by
  apply reached.invariant
  · intro relay owed
    cases owed
  · intro before event after _ permitted stepped waiting relay owed
    cases event with
    | setSuspendedSensors sensors =>
      cases stepped
      apply List.mem_dedup.mpr
      cases List.mem_append.mp owed with
      | inl earlier => exact List.mem_append_left _ (waiting relay earlier)
      | inr new => exact List.mem_append_right _ new
    | evaluate cycle written =>
      rw [← Option.some.inj stepped] at owed
      dsimp only at owed
      rw [List.mem_filter, Bool.and_eq_true, decide_eq_true_eq, Bool.not_eq_true', decide_eq_false_iff_not] at owed
      obtain ⟨earlier, free, kept⟩ := owed
      have planned : (relay, false) ∈ (before.engine.evaluate cycle).failsafe :=
        mem_failsafe_iff.mpr ⟨⟨waiting relay earlier, free⟩, rfl⟩
      exact absurd (drops_of_mem permitted planned) kept
    | loadRules rules | loadPolicies policies | setBaselines baselines =>
      cases stepped
      exact waiting relay owed
    | downlink fport payload now reserved written =>
      cases stepped
      rw [pendingFailsafe_processDownlinkCommand]
      exact waiting relay owed

/-- In every run without a failing fail-safe write, a cycle whose writes succeed switches
off every owed relay that is not reserved; and in every run a fail-safe OFF is only issued
for an owed relay. -/
theorem failsafe_reaches_owed {run : FailsafeRun} (cycle : Cycle) :
    (run.Reachable dropsSucceed → ∀ written : Nat → Bool,
      (∀ index < (run.engine.evaluate cycle).actions.length, written index = true) →
      ∀ relay ∈ run.owed, relay ∉ cycle.reserved → (run.engine.evaluate cycle).Drops written relay) ∧
    (run.Reachable Events.anything →
      ∀ action ∈ (run.engine.evaluate cycle).failsafe, action.1 ∈ run.owed ∧ action.2 = false) := by
  constructor
  · intro reached written succeed relay owed free
    apply drops_of_mem
    · intro index inside
      apply succeed
      unfold CyclePlan.actions
      rw [List.length_append, List.length_append]
      omega
    · exact mem_failsafe_iff.mpr ⟨⟨pending_of_owed reached relay owed, free⟩, rfl⟩
  · intro reached action issued
    obtain ⟨⟨waiting, _⟩, off⟩ := mem_failsafe_iff.mp issued
    exact ⟨owed_of_pending reached action.1 waiting, off⟩

instance (run : FailsafeRun) (event : FailsafeEvent) : Decidable (run.dropsSucceed event) := by
  cases event <;> unfold dropsSucceed <;> infer_instance

/-- A dosing pump on relay 1 that a high pH starts. -/
def dosing : Rule := { sensor := "ph", operator := some .gt, relay := 1, on := true, threshold := some 8 }

/-- Rules run from six to eighteen hours, and not while relays are driven by hand. -/
def byHand : Policies := { schedule := some (6 * 3600, 18 * 3600), manualOverride := true }

def quiet : Cycle := ⟨fun _ => none, 0, ⟨0, 0, 0⟩, []⟩

theorem failsafe_reaches_owed_dosing :
    ∃ run : FailsafeRun, run.Reachable dropsSucceed ∧
      (run.engine.evaluate quiet).Drops (fun _ => true) 1 ∧
      ∀ action ∈ (run.engine.evaluate quiet).failsafe, action.1 ∈ run.owed ∧ action.2 = false := by
  have played : (Events.play step dropsSucceed start
      [.loadRules [some dosing], .evaluate quiet (fun _ => true), .setSuspendedSensors ["ph"],
        .loadPolicies byHand]).map FailsafeRun.owed = some [1] := by
    decide +kernel
  obtain ⟨run, reached, owed⟩ := Option.map_eq_some_iff.mp played
  have run_reached := Events.reaches_play reached
  refine ⟨run, run_reached, ?_, ?_⟩
  · apply (failsafe_reaches_owed quiet).1 run_reached (fun _ => true) (fun _ _ => rfl) 1
    · rw [owed]
      exact List.mem_singleton.mpr rfl
    · exact List.not_mem_nil
  · exact (failsafe_reaches_owed quiet).2 (run_reached.mono fun _ _ _ => trivial)

/-- A fail-safe write that raises is not repeated. -/
theorem failed_failsafe_not_repeated :
    ¬ ∀ (run : FailsafeRun), run.Reachable Events.anything → ∀ (cycle : Cycle) (written : Nat → Bool),
      (∀ index < (run.engine.evaluate cycle).actions.length, written index = true) →
      ∀ relay ∈ run.owed, relay ∉ cycle.reserved → (run.engine.evaluate cycle).Drops written relay := by
  intro claimed
  have played : (Events.play step Events.anything start
      [.loadRules [some dosing], .setSuspendedSensors ["ph"], .evaluate quiet (fun _ => false)]).map
        (fun run => (run.owed, (run.engine.evaluate quiet).failsafe)) = some ([1], []) := by
    decide +kernel
  obtain ⟨run, reached, seen⟩ := Option.map_eq_some_iff.mp played
  simp only [Prod.mk.injEq] at seen
  obtain ⟨index, inside, _⟩ := claimed run (Events.reaches_play reached) quiet (fun _ => true) (fun _ _ => rfl) 1
    (by rw [seen.1]; exact List.mem_singleton.mpr rfl) List.not_mem_nil
  rw [seen.2] at inside
  exact absurd inside (Nat.not_lt_zero index)

end FailsafeRun

end Wqm1.Control
