import Wqm1.Control.IrrigationHold

/-! The coil of the irrigation hold follows the hold, as long as every channel that is
taken over while energised is released. -/

set_option autoImplicit false

namespace Wqm1.Control.HoldUnit

open Wqm1.Library

/-- The coil that the hold last drove, while it believes that it drives it. -/
def Drives (unit : HoldUnit) (channel : Int) : Prop :=
  unit.hold.driven = true ∧ unit.hold.drivenChannel = channel

/-- What the hold remembers of the coils it drove. -/
structure Known (unit : HoldUnit) : Prop where
  relays : unit.hold.relays = true
  released : unit.hold.driven = false → unit.hold.drivenChannel = 0
  real : unit.hold.driven = true → isChannel unit.hold.drivenChannel
  drove : ∀ channel, unit.drove channel = true → unit.coils channel = true → unit.Drives channel

/-- The channel's coil is energised exactly when the hold believes that it drives it. -/
def Follows (unit : HoldUnit) (channel : Int) : Prop := unit.coils channel = true ↔ unit.Drives channel

/-- What holds between the calls. -/
structure Agrees (unit : HoldUnit) : Prop extends Known unit where
  follows : unit.hold.cfg.armed = true → unit.Follows unit.hold.cfg.relay

/-- Two units that differ in the state of the conditions and in the write outcomes. -/
structure SameCoils (before after : HoldUnit) : Prop where
  relays : after.hold.relays = before.hold.relays
  driven : after.hold.driven = before.hold.driven
  channel : after.hold.drivenChannel = before.hold.drivenChannel
  coils : after.coils = before.coils
  drove : after.drove = before.drove

namespace SameCoils

variable {before after : HoldUnit}

theorem known (same : SameCoils before after) (known : Known before) : Known after := by
  obtain ⟨relays, released, real, drove⟩ := known
  constructor
  · rw [same.relays]
    exact relays
  · rw [same.driven, same.channel]
    exact released
  · rw [same.driven, same.channel]
    exact real
  · unfold Drives
    rw [same.driven, same.channel, same.coils, same.drove]
    exact drove

theorem follows (same : SameCoils before after) {channel : Int} (follows : before.Follows channel) :
    after.Follows channel := by
  unfold Follows Drives
  rw [same.driven, same.channel, same.coils]
  exact follows

theorem agrees (same : SameCoils before after) (cfg : after.hold.cfg = before.hold.cfg) (agrees : Agrees before) :
    Agrees after where
  toKnown := same.known agrees.toKnown
  follows := by
    rw [cfg]
    exact fun armed => same.follows (agrees.follows armed)

theorem trans {last : HoldUnit} (first : SameCoils before after) (second : SameCoils after last) :
    SameCoils before last where
  relays := second.relays.trans first.relays
  driven := second.driven.trans first.driven
  channel := second.channel.trans first.channel
  coils := second.coils.trans first.coils
  drove := second.drove.trans first.drove

end SameCoils

theorem sameCoils_reset (unit : HoldUnit) : SameCoils unit unit.reset := ⟨rfl, rfl, rfl, rfl, rfl⟩

theorem sameCoils_begin (unit : HoldUnit) (outcomes : List Bool) : SameCoils unit (unit.begin outcomes) :=
  ⟨rfl, rfl, rfl, rfl, rfl⟩

/-- The judgement of a cycle drives nothing. -/
theorem judge_frame (hold : IrrigationHold) (reading : CycleReading) (now wall : Rat) :
    (hold.judge reading now wall).relays = hold.relays ∧ (hold.judge reading now wall).cfg = hold.cfg ∧
      (hold.judge reading now wall).driven = hold.driven ∧
      (hold.judge reading now wall).drivenChannel = hold.drivenChannel := by
  unfold IrrigationHold.judge IrrigationHold.trip IrrigationHold.clear
  dsimp only
  split
  next => exact ⟨rfl, rfl, rfl, rfl⟩
  next =>
    split
    next => split <;> exact ⟨rfl, rfl, rfl, rfl⟩
    next =>
      split
      next => split <;> exact ⟨rfl, rfl, rfl, rfl⟩
      next => exact ⟨rfl, rfl, rfl, rfl⟩

theorem target_of_driven {unit : HoldUnit} (known : Known unit) (driven : unit.hold.driven = true) :
    unit.target false = unit.hold.drivenChannel := by
  have real := known.real driven
  unfold isChannel at real
  have nonzero : unit.hold.drivenChannel ≠ 0 := by omega
  simp [target, nonzero]

theorem target_of_released {unit : HoldUnit} (known : Known unit) (released : unit.hold.driven = false) :
    unit.target false = unit.hold.cfg.relay := by
  simp [target, known.released released]

/-- The unit after a write that succeeds. -/
def written (unit : HoldUnit) (on : Bool) : HoldUnit :=
  { unit with
    hold := { unit.hold with driven := on, drivenChannel := if on then unit.target on else 0 }
    coils := Function.update unit.coils (unit.target on) on
    outcomes := unit.outcomes.tail
    drove := Function.update unit.drove (unit.target on) true }

/-- A drive of a real channel writes to it, or fails and leaves everything as it was. -/
theorem drive_cases {unit : HoldUnit} (known : Known unit) {on : Bool} (real : isChannel (unit.target on)) :
    unit.drive on = unit.written on ∨
      (SameCoils unit (unit.drive on) ∧ (unit.drive on).hold = unit.hold ∧ (unit.drive on).failed = true) := by
  unfold drive
  dsimp only
  rw [if_pos ⟨known.relays, real⟩]
  split
  next => exact .inl rfl
  next => exact .inr ⟨⟨rfl, rfl, rfl, rfl, rfl⟩, rfl, rfl⟩

theorem drive_of_succeeds {unit : HoldUnit} (known : Known unit) {on : Bool} (real : isChannel (unit.target on))
    (succeed : ∀ written ∈ unit.outcomes, written = true) : unit.drive on = unit.written on := by
  have next : unit.outcomes.headD true = true := by
    cases listed : unit.outcomes with
    | nil => rfl
    | cons written rest =>
      apply succeed written
      rw [listed]
      exact List.mem_cons_self
  unfold drive
  dsimp only
  rw [if_pos ⟨known.relays, real⟩, if_pos next]
  rfl

theorem known_release {unit : HoldUnit} (known : Known unit) : Known (unit.written false) where
  relays := known.relays
  released _ := rfl
  real := by
    intro driven
    cases driven
  drove := by
    intro channel drove energised
    by_cases same : channel = unit.target false
    · subst same
      simp [written] at energised
    · have earlier : unit.drove channel = true ∧ unit.coils channel = true := by
        simpa [written, same] using And.intro drove energised
      have drives := known.drove channel earlier.1 earlier.2
      rw [target_of_driven known drives.1] at same
      exact absurd drives.2.symm same

theorem follows_release {unit : HoldUnit} (known : Known unit) {channel : Int}
    (follows : unit.Follows channel ∨ channel = unit.target false) : (unit.written false).Follows channel := by
  have off : (unit.written false).coils channel = false := by
    by_cases same : channel = unit.target false
    · subst same
      simp [written]
    · have kept := follows.resolve_right same
      have undriven : ¬ unit.Drives channel := by
        intro drives
        rw [target_of_driven known drives.1] at same
        exact same drives.2.symm
      simpa [written, same] using mt kept.mp undriven
  unfold Follows
  rw [off]
  simp [Drives, written]

theorem agrees_engage {unit : HoldUnit} (agrees : Agrees unit) (armed : unit.hold.cfg.armed = true)
    (released : unit.hold.driven = false) : Agrees (unit.written true) where
  relays := agrees.relays
  released := by
    intro driven
    cases driven
  real _ := HoldConfig.isChannel_of_armed armed
  drove := by
    intro channel drove energised
    by_cases same : channel = unit.hold.cfg.relay
    · exact ⟨rfl, same.symm⟩
    · have earlier : unit.drove channel = true ∧ unit.coils channel = true := by
        simpa [written, target, same] using And.intro drove energised
      have driven := (agrees.drove channel earlier.1 earlier.2).1
      rw [released] at driven
      cases driven
  follows _ := by
    simp [Follows, Drives, written, target]

theorem agrees_drive_release {unit : HoldUnit} (agrees : Agrees unit) (driven : unit.hold.driven = true) :
    Agrees (unit.drive false) ∧ ((unit.drive false).failed = false → (unit.drive false).hold.driven = false) ∧
      (unit.drive false).hold.cfg = unit.hold.cfg := by
  have real : isChannel (unit.target false) := by
    rw [target_of_driven agrees.toKnown driven]
    exact agrees.real driven
  cases drive_cases agrees.toKnown real with
  | inl done =>
    rw [done]
    refine ⟨⟨known_release agrees.toKnown, fun armed => ?_⟩, fun _ => rfl, rfl⟩
    exact follows_release agrees.toKnown (.inl (agrees.follows armed))
  | inr raised =>
    obtain ⟨same, hold, failed⟩ := raised
    have cfg : (unit.drive false).hold.cfg = unit.hold.cfg := by rw [hold]
    refine ⟨same.agrees cfg agrees, fun succeeded => ?_, cfg⟩
    rw [failed] at succeeded
    cases succeeded

theorem agrees_drive_engage {unit : HoldUnit} (agrees : Agrees unit) (armed : unit.hold.cfg.armed = true)
    (released : unit.hold.driven = false) :
    Agrees (unit.drive true) ∧ ((unit.drive true).failed = false → (unit.drive true).hold.driven = true ∧
      (unit.drive true).hold.drivenChannel = unit.hold.cfg.relay) ∧ (unit.drive true).hold.cfg = unit.hold.cfg := by
  have real : isChannel (unit.target true) := HoldConfig.isChannel_of_armed armed
  cases drive_cases agrees.toKnown real with
  | inl done =>
    rw [done]
    exact ⟨agrees_engage agrees armed released, fun _ => ⟨rfl, rfl⟩, rfl⟩
  | inr raised =>
    obtain ⟨same, hold, failed⟩ := raised
    have cfg : (unit.drive true).hold.cfg = unit.hold.cfg := by rw [hold]
    refine ⟨same.agrees cfg agrees, fun succeeded => ?_, cfg⟩
    rw [failed] at succeeded
    cases succeeded

/-- The retry of a release at the beginning of an evaluation. -/
def retried (unit : HoldUnit) : HoldUnit :=
  if unit.hold.driven = true ∧
      (unit.hold.cfg.armed = false ∨ unit.hold.drivenChannel ≠ unit.hold.cfg.relay) then unit.drive false
  else unit

/-- The drive at its end. -/
def followHolding (unit : HoldUnit) : HoldUnit :=
  if unit.hold.holding ≠ unit.hold.driven then unit.drive unit.hold.holding else unit

def judged (unit : HoldUnit) (reading : CycleReading) (now wall : Rat) : HoldUnit :=
  { unit with hold := unit.hold.judge reading now wall }.followHolding

/-- The evaluation of a cycle with new names of suspended sensors. -/
theorem evaluate_eq (unit : HoldUnit) (reading : CycleReading) (suspended : Option (List String))
    (now wall : Rat) (outcomes : List Bool) :
    ∃ told, SameCoils unit told ∧ told.hold.cfg = unit.hold.cfg ∧
      unit.evaluate reading suspended now wall outcomes =
        if told.retried.hold.cfg.armed then told.retried.judged reading now wall else told.retried :=
  ⟨{ unit.begin outcomes with
      hold := { unit.hold with lastSuspended := suspended.getD unit.hold.lastSuspended } },
    ⟨rfl, rfl, rfl, rfl, rfl⟩, rfl, rfl⟩

theorem agrees_retried {unit : HoldUnit} (agrees : Agrees unit) :
    Agrees unit.retried ∧ unit.retried.hold.cfg = unit.hold.cfg ∧
      (unit.retried.failed = false → unit.retried.hold.driven = true →
        unit.hold.cfg.armed = true ∧ unit.retried.hold.drivenChannel = unit.hold.cfg.relay) := by
  unfold retried
  split
  next stale =>
    obtain ⟨released, quiet, cfg⟩ := agrees_drive_release agrees stale.1
    refine ⟨released, cfg, fun succeeded driven => ?_⟩
    rw [quiet succeeded] at driven
    cases driven
  next current =>
    refine ⟨agrees, rfl, fun _ driven => ?_⟩
    cases armed : unit.hold.cfg.armed with
    | false => exact absurd ⟨driven, .inl armed⟩ current
    | true =>
      by_cases same : unit.hold.drivenChannel = unit.hold.cfg.relay
      · exact ⟨rfl, same⟩
      · exact absurd ⟨driven, .inr same⟩ current

theorem drive_holding (unit : HoldUnit) (on : Bool) : (unit.drive on).hold.holding = unit.hold.holding := by
  unfold drive
  dsimp only
  split
  next => split <;> rfl
  next => rfl

/-- The coil was driven where the hold wants it, and only there. -/
structure Settled (unit : HoldUnit) : Prop where
  holding : unit.hold.cfg.armed = true → unit.hold.driven = unit.hold.holding
  here : unit.hold.driven = true → unit.hold.cfg.armed = true ∧ unit.hold.drivenChannel = unit.hold.cfg.relay

theorem agrees_followHolding {unit : HoldUnit} (agrees : Agrees unit) (armed : unit.hold.cfg.armed = true)
    (here : unit.failed = false → unit.hold.driven = true → unit.hold.drivenChannel = unit.hold.cfg.relay) :
    Agrees unit.followHolding ∧ (unit.followHolding.failed = false → Settled unit.followHolding) := by
  unfold followHolding
  by_cases differ : unit.hold.holding ≠ unit.hold.driven
  · rw [if_pos differ]
    cases wanted : unit.hold.holding with
    | true =>
      have idle : unit.hold.driven = false := by
        rw [wanted] at differ
        simpa using differ.symm
      obtain ⟨engaged, done, kept⟩ := agrees_drive_engage agrees armed idle
      refine ⟨engaged, fun succeeded => ⟨fun _ => ?_, fun _ => ?_⟩⟩
      · rw [drive_holding, wanted, (done succeeded).1]
      · rw [kept]
        exact ⟨armed, (done succeeded).2⟩
    | false =>
      have busy : unit.hold.driven = true := by
        rw [wanted] at differ
        simpa using differ.symm
      obtain ⟨released, done, kept⟩ := agrees_drive_release agrees busy
      refine ⟨released, fun succeeded => ⟨fun _ => ?_, fun driving => ?_⟩⟩
      · rw [drive_holding, wanted, done succeeded]
      · rw [done succeeded] at driving
        cases driving
  · rw [if_neg differ]
    refine ⟨agrees, fun succeeded => ⟨fun _ => (not_not.mp differ).symm, fun driving => ?_⟩⟩
    exact ⟨armed, here succeeded driving⟩

theorem agrees_judged {unit : HoldUnit} (agrees : Agrees unit) (armed : unit.hold.cfg.armed = true)
    (here : unit.failed = false → unit.hold.driven = true → unit.hold.drivenChannel = unit.hold.cfg.relay)
    (reading : CycleReading) (now wall : Rat) :
    Agrees (unit.judged reading now wall) ∧
      ((unit.judged reading now wall).failed = false → Settled (unit.judged reading now wall)) := by
  obtain ⟨relays, cfg, driven, channel⟩ := judge_frame unit.hold reading now wall
  have same : SameCoils unit { unit with hold := unit.hold.judge reading now wall } :=
    ⟨relays, driven, channel, rfl, rfl⟩
  apply agrees_followHolding (same.agrees cfg agrees)
  · rw [cfg]
    exact armed
  · dsimp only
    rw [driven, channel, cfg]
    exact here

theorem agrees_evaluate {unit : HoldUnit} (agrees : Agrees unit) (reading : CycleReading)
    (suspended : Option (List String)) (now wall : Rat) (outcomes : List Bool) :
    Agrees (unit.evaluate reading suspended now wall outcomes) ∧
      ((unit.evaluate reading suspended now wall outcomes).failed = false →
        Settled (unit.evaluate reading suspended now wall outcomes)) := by
  obtain ⟨told, same, cfg, equal⟩ := evaluate_eq unit reading suspended now wall outcomes
  obtain ⟨retry, kept, here⟩ := agrees_retried (same.agrees cfg agrees)
  rw [equal]
  cases armed : told.retried.hold.cfg.armed with
  | true =>
    rw [if_pos rfl]
    apply agrees_judged retry armed
    intro succeeded driving
    rw [kept]
    exact (here succeeded driving).2
  | false =>
    rw [if_neg Bool.false_ne_true]
    refine ⟨retry, fun succeeded => ⟨fun disarmed => ?_, fun driving => ?_⟩⟩
    · rw [armed] at disarmed
      cases disarmed
    · have rearmed := (here succeeded driving).1
      rw [kept] at armed
      rw [armed] at rearmed
      cases rearmed

theorem Settled.coils {unit : HoldUnit} (settled : Settled unit) (agrees : Agrees unit) :
    (unit.hold.cfg.armed = true → unit.coils unit.hold.cfg.relay = unit.hold.holding) ∧
      ∀ channel, unit.drove channel = true → ¬ unit.hold.owns channel = true → unit.coils channel = false := by
  constructor
  · intro armed
    have follows := agrees.follows armed
    rw [← settled.holding armed, Bool.eq_iff_iff]
    constructor
    · intro energised
      exact (follows.mp energised).1
    · intro driven
      exact follows.mpr ⟨driven, (settled.here driven).2⟩
  · intro channel drove elsewhere
    cases energised : unit.coils channel with
    | false => rfl
    | true =>
      have drives := agrees.drove channel drove energised
      obtain ⟨armed, here⟩ := settled.here drives.1
      apply absurd _ elsewhere
      simp [IrrigationHold.owns, armed, ← here, drives.2]

/-- The first half of a configuration that has changed. -/
def letGo (unit : HoldUnit) (old : HoldConfig) : HoldUnit :=
  if unit.hold.driven = true ∧
      (unit.hold.cfg.armed = false ∨ unit.hold.cfg.relay ≠ unit.hold.drivenChannel) then
    (unit.drive false).reset
  else if unit.hold.cfg.armed = false ∨ unit.hold.cfg.relay ≠ old.relay then unit.reset
  else unit

/-- The second half. -/
def takeOver (unit : HoldUnit) (cfg old : HoldConfig) : HoldUnit :=
  if cfg.armed = true ∧ (old.armed = false ∨ cfg.relay ≠ old.relay) then unit.drive false else unit

theorem real_target {unit : HoldUnit} (known : Known unit) (armed : unit.hold.cfg.armed = true) :
    isChannel (unit.target false) := by
  cases driven : unit.hold.driven with
  | true =>
    rw [target_of_driven known driven]
    exact known.real driven
  | false =>
    rw [target_of_released known driven]
    exact HoldConfig.isChannel_of_armed armed

/-- A release keeps what is known, and what follows; it may fail. -/
theorem known_drive_release {unit : HoldUnit} (known : Known unit) (real : isChannel (unit.target false)) :
    Known (unit.drive false) ∧ (unit.drive false).hold.cfg = unit.hold.cfg ∧
      ∀ channel, unit.Follows channel → (unit.drive false).Follows channel := by
  cases drive_cases known real with
  | inl done =>
    rw [done]
    exact ⟨known_release known, rfl, fun channel follows => follows_release known (.inl follows)⟩
  | inr raised =>
    obtain ⟨same, hold, _⟩ := raised
    refine ⟨same.known known, ?_, fun channel follows => same.follows follows⟩
    rw [hold]

theorem known_letGo {unit : HoldUnit} (known : Known unit) (old : HoldConfig) :
    Known (unit.letGo old) ∧ (unit.letGo old).hold.cfg = unit.hold.cfg ∧
      ∀ channel, unit.Follows channel → (unit.letGo old).Follows channel := by
  unfold letGo
  split
  next stale =>
    have real : isChannel (unit.target false) := by
      rw [target_of_driven known stale.1]
      exact known.real stale.1
    obtain ⟨released, cfg, follows⟩ := known_drive_release known real
    have same := sameCoils_reset (unit.drive false)
    exact ⟨same.known released, cfg, fun channel before => same.follows (follows channel before)⟩
  next =>
    have same := sameCoils_reset unit
    split
    next => exact ⟨same.known known, rfl, fun channel before => same.follows before⟩
    next => exact ⟨known, rfl, fun channel before => before⟩

theorem letGo_succeeds {unit : HoldUnit} (known : Known unit) (old : HoldConfig)
    (succeed : ∀ written ∈ unit.outcomes, written = true) :
    (∀ written ∈ (unit.letGo old).outcomes, written = true) ∧
      ((unit.letGo old).hold.driven = true → (unit.letGo old).hold.drivenChannel = unit.hold.cfg.relay) := by
  unfold letGo
  split
  next stale =>
    have real : isChannel (unit.target false) := by
      rw [target_of_driven known stale.1]
      exact known.real stale.1
    rw [drive_of_succeeds known real succeed]
    refine ⟨fun written member => succeed written (List.mem_of_mem_tail member), fun driven => ?_⟩
    cases driven
  next current =>
    have here (driven : unit.hold.driven = true) : unit.hold.drivenChannel = unit.hold.cfg.relay := by
      by_contra elsewhere
      exact current ⟨driven, .inr (Ne.symm elsewhere)⟩
    split
    next => exact ⟨succeed, here⟩
    next => exact ⟨succeed, here⟩

/-- A channel is taken over with its coil as the hold believes it to be, or every write
of the call succeeds. -/
def takesOverReleased (unit : HoldUnit) : HoldEvent → Prop
  | .configure settings outcomes =>
    let cfg := HoldConfig.fromSettings settings
    cfg.armed = true → (unit.hold.cfg.armed = false ∨ cfg.relay ≠ unit.hold.cfg.relay) →
      ¬ (unit.coils cfg.relay = true ↔ unit.hold.driven = true ∧ unit.hold.drivenChannel = cfg.relay) →
      ∀ written ∈ outcomes, written = true
  | _ => True

theorem agrees_takeOver {unit : HoldUnit} (known : Known unit) (old : HoldConfig)
    (continued : unit.hold.cfg.armed = true → old.armed = true → unit.hold.cfg.relay = old.relay →
      unit.Follows unit.hold.cfg.relay)
    (taken : unit.hold.cfg.armed = true → (old.armed = false ∨ unit.hold.cfg.relay ≠ old.relay) →
      ¬ unit.Follows unit.hold.cfg.relay → ∀ written ∈ unit.outcomes, written = true) :
    Agrees ((unit.letGo old).takeOver unit.hold.cfg old) := by
  obtain ⟨release, cfg, follows⟩ := known_letGo known old
  unfold takeOver
  by_cases takes : unit.hold.cfg.armed = true ∧ (old.armed = false ∨ unit.hold.cfg.relay ≠ old.relay)
  · rw [if_pos takes]
    have armed : (unit.letGo old).hold.cfg.armed = true := by
      rw [cfg]
      exact takes.1
    have real := real_target release armed
    obtain ⟨released, kept, later⟩ := known_drive_release release real
    refine ⟨released, fun _ => ?_⟩
    rw [kept, cfg]
    by_cases expected : unit.Follows unit.hold.cfg.relay
    · exact later _ (follows _ expected)
    · obtain ⟨succeed, here⟩ := letGo_succeeds known old (taken takes.1 takes.2 expected)
      rw [drive_of_succeeds release real succeed]
      apply follows_release release
      right
      cases driven : (unit.letGo old).hold.driven with
      | true => rw [target_of_driven release driven, here driven]
      | false => rw [target_of_released release driven, cfg]
  · rw [if_neg takes]
    refine ⟨release, fun armed => ?_⟩
    rw [cfg] at armed ⊢
    apply follows _ (continued armed _ _)
    · by_contra disarmed
      exact takes ⟨armed, .inl (Bool.eq_false_iff.mpr disarmed)⟩
    · by_contra moved
      exact takes ⟨armed, .inr moved⟩

theorem agrees_configure {unit : HoldUnit} (agrees : Agrees unit) (settings : HoldSettings)
    (outcomes : List Bool) (permitted : unit.takesOverReleased (.configure settings outcomes)) :
    Agrees (unit.configure settings outcomes) := by
  have begun := sameCoils_begin unit outcomes
  unfold configure
  dsimp only
  split
  next => exact begun.agrees rfl agrees
  next =>
    have same : SameCoils unit { unit.begin outcomes with
        hold := { (unit.begin outcomes).hold with cfg := .fromSettings settings, configured := true } } :=
      ⟨rfl, rfl, rfl, rfl, rfl⟩
    refine agrees_takeOver (same.known agrees.toKnown) unit.hold.cfg ?_ ?_
    · intro _ before moved
      have follows := same.follows (agrees.follows before)
      rw [← moved] at follows
      exact follows
    · intro armed new unexpected
      exact permitted armed new fun expected => unexpected (same.follows expected)

theorem agrees_start : Agrees start where
  relays := rfl
  released _ := rfl
  real := by
    intro driven
    cases driven
  drove := by
    intro _ drove
    cases drove
  follows := by
    intro armed
    cases armed

theorem agrees_step {unit after : HoldUnit} (agrees : Agrees unit) {event : HoldEvent}
    (permitted : unit.takesOverReleased event) (stepped : unit.step event = some after) : Agrees after := by
  cases event with
  | configure settings outcomes =>
    cases stepped
    exact agrees_configure agrees settings outcomes permitted
  | evaluate reading suspended now wall outcomes =>
    cases stepped
    exact (agrees_evaluate agrees reading suspended now wall outcomes).1
  | other channel state =>
    unfold step at stepped
    dsimp only at stepped
    split at stepped
    next => cases stepped
    next free =>
      cases stepped
      refine ⟨⟨agrees.relays, agrees.released, agrees.real, ?_⟩, fun armed => ?_⟩
      · intro driven drove energised
        by_cases same : driven = channel
        · subst same
          simp at drove
        · have earlier : unit.drove driven = true ∧ unit.coils driven = true := by
            simpa [same] using And.intro drove energised
          exact agrees.drove driven earlier.1 earlier.2
      · have elsewhere : unit.hold.cfg.relay ≠ channel := by
          intro same
          apply free
          simp only [IrrigationHold.owns, ← same, BEq.rfl, Bool.and_true]
          exact armed
        have follows := agrees.follows armed
        unfold Follows at follows ⊢
        dsimp only
        rw [Function.update_of_ne elsewhere]
        exact follows

theorem agrees_reachable {unit : HoldUnit} (reached : unit.Reachable takesOverReleased) : Agrees unit := by
  apply reached.invariant agrees_start
  intro before event after _ permitted stepped agrees
  exact agrees_step agrees permitted stepped

/-- In every run that takes channels over with their coils as the hold believes them to be
or without a failing write: after an evaluation without one, the armed relay's coil is
energised exactly when the hold holds, and no other coil that it was the last to drive is. -/
theorem coil_agrees_after_evaluate {unit : HoldUnit} (reached : unit.Reachable takesOverReleased)
    (reading : CycleReading) (suspended : Option (List String)) (now wall : Rat) (outcomes : List Bool)
    (succeeded : (unit.evaluate reading suspended now wall outcomes).failed = false) :
    let after := unit.evaluate reading suspended now wall outcomes
    (after.hold.cfg.armed = true → after.coils after.hold.cfg.relay = after.hold.holding) ∧
      ∀ channel, after.drove channel = true → ¬ after.hold.owns channel = true → after.coils channel = false := by
  obtain ⟨agrees, settles⟩ := agrees_evaluate (agrees_reachable reached) reading suspended now wall outcomes
  exact (settles succeeded).coils agrees

instance (unit : HoldUnit) (event : HoldEvent) : Decidable (unit.takesOverReleased event) := by
  cases event <;> unfold takesOverReleased <;> infer_instance

/-- A hold on relay 1 that trips at once on turbid water. -/
def turbidHold : HoldSettings :=
  { enabled := true, relay := 1, turbidityNtu := some 8, tdsPpm := some 0, phMin := some 0, phMax := some 0,
    flowGpmMax := some 0, tripSamples := 1, releaseMin := some 10, onFault := some .release, interlockRelay := 0 }

def turbid (_ : String) : Option Rat := some 9

theorem coil_agrees_after_evaluate_turbid :
    ∃ unit : HoldUnit, unit.Reachable takesOverReleased ∧
      (unit.evaluate turbid (some []) 5 5 []).coils 1 = (unit.evaluate turbid (some []) 5 5 []).hold.holding ∧
      (unit.evaluate turbid (some []) 5 5 []).hold.holding = true := by
  have played : (Events.play step takesOverReleased start
      [.other 1 true, .configure turbidHold [true]]).map (fun unit =>
        let after := unit.evaluate turbid (some []) 5 5 []
        (after.failed, after.hold.cfg.armed, after.hold.cfg.relay, after.hold.holding)) =
      some (false, true, 1, true) := by
    decide +kernel
  obtain ⟨unit, reached, seen⟩ := Option.map_eq_some_iff.mp played
  simp only [Prod.mk.injEq] at seen
  have agree := (coil_agrees_after_evaluate (Events.reaches_play reached) turbid (some []) 5 5 [] seen.1).1
  rw [seen.2.2.1] at agree
  exact ⟨unit, Events.reaches_play reached, agree seen.2.1, seen.2.2.2⟩

/-- A relay that was left on stays on when the write of its takeover raises. -/
theorem failed_takeover_stays_energised :
    ¬ ∀ (unit : HoldUnit), unit.Reachable Events.anything →
      ∀ reading suspended now wall outcomes,
        let after := unit.evaluate reading suspended now wall outcomes
        after.failed = false → (after.hold.cfg.armed = true → after.coils after.hold.cfg.relay = after.hold.holding) ∧
          ∀ channel, after.drove channel = true → ¬ after.hold.owns channel = true → after.coils channel = false := by
  intro claimed
  have played : (Events.play step Events.anything start
      [.other 1 true, .configure turbidHold [false]]).map (fun unit =>
        let after := unit.evaluate (fun _ => some 0) (some []) 5 5 []
        (after.failed, after.hold.cfg.armed, after.hold.cfg.relay, after.hold.holding, after.coils 1)) =
      some (false, true, 1, false, true) := by
    decide +kernel
  obtain ⟨unit, reached, seen⟩ := Option.map_eq_some_iff.mp played
  simp only [Prod.mk.injEq] at seen
  have agree := (claimed unit (Events.reaches_play reached) (fun _ => some 0) (some []) 5 5 [] seen.1).1
  rw [seen.2.2.1, seen.2.2.2.1, seen.2.2.2.2] at agree
  cases agree seen.2.1

end Wqm1.Control.HoldUnit
