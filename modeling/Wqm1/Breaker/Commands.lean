import Wqm1.Breaker.Interlock

/-! Commands are neither lost nor invented, and the fail-safe is applied at most once
between two successful vendor calls. -/

set_option autoImplicit false

namespace Wqm1.Breaker.BreakerUnit

open Wqm1.Library

/-- The settings that arrive keep the vendor. -/
def ableedge (_ : BreakerUnit) (event : BreakerEvent) : Prop :=
  ∀ settings ∈ event.settings, settings.vendor = .ableedge

/-- The fail-safe was applied as often as the controller remembers. -/
structure Linked (unit : BreakerUnit) : Prop where
  vendor : unit.settings.vendor = .ableedge
  client : unit.controller.client = true
  once : unit.applications ≤ 1
  fresh : unit.controller.failSafeApplied = none → unit.applications = 0
  down : unit.controller.unreachableSince = none → unit.controller.failSafeApplied = none

/-- A circuit that should be off was told so or will be told. -/
structure Owed (unit : BreakerUnit) : Prop where
  off : unit.controller.desired = some false →
    unit.accepted = some false ∨ ∃ reason, unit.controller.pending = some (false, reason)
  onlyOff : ∀ reason, unit.controller.pending ≠ some (true, reason)

namespace Linked

variable {unit : BreakerUnit}

/-- What the link is judged by. -/
def view (unit : BreakerUnit) : Vendor × Bool × Nat × Option FailSafeMode × Option Rat :=
  (unit.settings.vendor, unit.controller.client, unit.applications, unit.controller.failSafeApplied,
    unit.controller.unreachableSince)

theorem of_view {after : BreakerUnit} (linked : Linked unit) (same : view after = view unit) : Linked after := by
  simp only [view, Prod.mk.injEq] at same
  obtain ⟨vendor, client, applications, applied, since⟩ := same
  refine ⟨vendor.trans linked.vendor, client.trans linked.client, ?_, ?_, ?_⟩
  · rw [applications]
    exact linked.once
  · rw [applied, applications]
    exact linked.fresh
  · rw [since, applied]
    exact linked.down

theorem setInterlock (linked : Linked unit) (on : Bool) : Linked (unit.setInterlock on).1 := by
  obtain ⟨coils, outcomes, same⟩ := unit.setInterlock_frame on
  rw [same]
  exact linked.of_view rfl

theorem await {Value : Type} {reply : Reply Value} (linked : Linked unit)
    (vendor : reply.settings.vendor = .ableedge) : Linked (unit.await reply) :=
  ⟨vendor, linked.client, linked.once, linked.fresh, linked.down⟩

theorem markOk (linked : Linked unit) : Linked unit.markOk := by
  unfold BreakerUnit.markOk
  dsimp only
  split
  next => exact ⟨linked.vendor, linked.client, Nat.zero_le 1, fun _ => rfl, fun _ => rfl⟩
  next => exact ⟨linked.vendor, linked.client, Nat.zero_le 1, fun _ => rfl, linked.down⟩

theorem applyFailSafe (linked : Linked unit) (fresh : unit.controller.failSafeApplied = none)
    (down : unit.controller.unreachableSince ≠ none) : Linked unit.applyFailSafe := by
  have applied : ∀ lastOff, Linked { unit with
      controller := { unit.controller with
        failSafeApplied := some unit.settings.failSafe
        lastOffMono := lastOff }
      applications := unit.applications + 1 } := fun lastOff =>
    { vendor := linked.vendor
      client := linked.client
      once := by
        rw [linked.fresh fresh]
      fresh := by
        intro absent
        cases absent
      down := fun up => absurd up down }
  unfold BreakerUnit.applyFailSafe
  dsimp only
  split
  next =>
    have dropped := (applied (some unit.now)).setInterlock false
    exact dropped.of_view rfl
  next =>
    have energised := (applied unit.controller.lastOffMono).setInterlock true
    exact energised.of_view rfl
  next => exact applied unit.controller.lastOffMono

theorem markFail (linked : Linked unit) (error : String) : Linked (unit.markFail error) := by
  apply markFail_keeps
  · refine ⟨linked.vendor, linked.client, linked.once, linked.fresh, fun up => ?_⟩
    cases up
  · intro fresh failed
    apply failed.applyFailSafe fresh
    intro up
    cases up

theorem requestOff (linked : Linked unit) (why : String) {reply : Reply Unit} (answer : RequestAnswer)
    (vendor : reply.settings.vendor = .ableedge) : Linked (unit.requestOff why reply answer).1 := by
  have dropped := linked.setInterlock false
  have asked : Linked (unit.setInterlock false).1.wantOff :=
    dropped.of_view rfl
  have back := asked.await vendor
  unfold BreakerUnit.requestOff
  dsimp only
  cases reply.result with
  | ok _ =>
    have told := back.markOk
    exact told.of_view rfl
  | error error =>
    have failed := back.markFail error
    exact failed.of_view rfl

theorem requestOn (linked : Linked unit) {reply : Reply Unit} (answer : RequestAnswer)
    (vendor : reply.settings.vendor = .ableedge) : Linked (unit.requestOn reply answer).1 := by
  have back := linked.await vendor
  unfold BreakerUnit.requestOn
  cases reply.result with
  | ok _ =>
    have told := back.markOk
    apply setInterlock
    exact told.of_view rfl
  | error error => exact back.markFail error

theorem flush (linked : Linked unit) {reply : Reply Unit} (vendor : reply.settings.vendor = .ableedge) :
    Linked (unit.flush reply).1 := by
  have back := linked.await vendor
  unfold BreakerUnit.flush
  split
  next => exact linked
  next =>
    cases reply.result with
    | ok _ =>
      have delivered : Linked { unit.await reply with
          controller := { (unit.await reply).controller with pending := none } } :=
        back.of_view rfl
      have told := delivered.markOk
      exact told.of_view rfl
    | error error => exact back.markFail error

theorem sampleStatus (linked : Linked unit) {reply : Reply CircuitStatus}
    (vendor : reply.settings.vendor = .ableedge) : Linked (unit.sampleStatus reply).1 := by
  have back := linked.await vendor
  unfold BreakerUnit.sampleStatus
  cases reply.result with
  | ok status =>
    have read : Linked { unit.await reply with
        controller := { (unit.await reply).controller with lastStatus := some status } } :=
      back.of_view rfl
    exact read.markOk
  | error error => exact back.markFail error

theorem samplePower (linked : Linked unit) {reply : Reply PowerReading}
    (vendor : reply.settings.vendor = .ableedge) : Linked (unit.samplePower reply) := by
  have back := linked.await vendor
  unfold BreakerUnit.samplePower
  cases reply.result with
  | ok power => exact ⟨back.vendor, back.client, Nat.zero_le 1, fun _ => rfl, back.down⟩
  | error error => exact back

end Linked

namespace Owed

variable {unit : BreakerUnit}

/-- What the commands are judged by. -/
def view (unit : BreakerUnit) : Option Bool × Option Bool × Option (Bool × String) :=
  (unit.controller.desired, unit.accepted, unit.controller.pending)

theorem of_view {after : BreakerUnit} (owed : Owed unit) (same : view after = view unit) : Owed after := by
  simp only [view, Prod.mk.injEq] at same
  obtain ⟨desired, accepted, pending⟩ := same
  constructor
  · rw [desired, accepted, pending]
    exact owed.off
  · rw [pending]
    exact owed.onlyOff

theorem setInterlock (owed : Owed unit) (on : Bool) : Owed (unit.setInterlock on).1 := by
  obtain ⟨coils, outcomes, same⟩ := unit.setInterlock_frame on
  rw [same]
  exact owed.of_view rfl

theorem await {Value : Type} (owed : Owed unit) (reply : Reply Value) : Owed (unit.await reply) :=
  owed.of_view rfl

theorem markOk (owed : Owed unit) : Owed unit.markOk := by
  obtain ⟨since, applied, same⟩ := unit.markOk_frame
  rw [same]
  exact owed.of_view rfl

theorem applyFailSafe (owed : Owed unit) : Owed unit.applyFailSafe := by
  have applied : Owed { unit with
      controller := { unit.controller with failSafeApplied := some unit.settings.failSafe }
      applications := unit.applications + 1 } := owed.of_view rfl
  unfold BreakerUnit.applyFailSafe
  dsimp only
  split
  next =>
    refine ⟨fun _ => .inr ⟨failSafeReason, rfl⟩, fun reason queued => ?_⟩
    cases queued
  next =>
    have energised := applied.setInterlock true
    exact energised.of_view rfl
  next => exact applied

theorem markFail (owed : Owed unit) (error : String) : Owed (unit.markFail error) :=
  markFail_keeps (owed.of_view rfl) fun _ failed => failed.applyFailSafe

theorem requestOff (unit : BreakerUnit) (why : String) (reply : Reply Unit) (answer : RequestAnswer) :
    Owed (unit.requestOff why reply answer).1 := by
  unfold BreakerUnit.requestOff
  dsimp only
  cases reply.result with
  | ok _ =>
    refine ⟨fun _ => .inl rfl, fun reason queued => ?_⟩
    cases queued
  | error error =>
    refine ⟨fun _ => .inr ⟨why, rfl⟩, fun reason queued => ?_⟩
    cases queued

theorem requestOn (owed : Owed unit) (reply : Reply Unit) (answer : RequestAnswer) :
    Owed (unit.requestOn reply answer).1 := by
  unfold BreakerUnit.requestOn
  cases reply.result with
  | ok _ =>
    apply setInterlock
    constructor
    · intro off
      cases off
    · intro reason queued
      cases queued
  | error error => exact (owed.await reply).markFail error

theorem flush (owed : Owed unit) (reply : Reply Unit) : Owed (unit.flush reply).1 := by
  unfold BreakerUnit.flush
  cases queued : unit.controller.pending with
  | none => exact owed
  | some command =>
    dsimp only
    cases reply.result with
    | ok _ =>
      obtain ⟨since, applied, same⟩ := markOk_frame { unit.await reply with
        controller := { (unit.await reply).controller with pending := none } }
      dsimp only
      rw [same]
      constructor
      · intro _
        obtain ⟨on, reason⟩ := command
        cases on with
        | false => exact .inl rfl
        | true => exact absurd queued (owed.onlyOff reason)
      · intro reason again
        cases again
    | error error => exact (owed.await reply).markFail error

theorem sampleStatus (owed : Owed unit) (reply : Reply CircuitStatus) : Owed (unit.sampleStatus reply).1 := by
  have back := owed.await reply
  unfold BreakerUnit.sampleStatus
  cases reply.result with
  | ok status =>
    apply markOk
    exact back.of_view rfl
  | error error => exact back.markFail error

theorem samplePower (owed : Owed unit) (reply : Reply PowerReading) : Owed (unit.samplePower reply) := by
  have back := owed.await reply
  unfold BreakerUnit.samplePower
  cases reply.result with
  | ok power => exact back.of_view rfl
  | error error => exact back

end Owed

structure Accounted (unit : BreakerUnit) : Prop where
  linked : Linked unit
  owed : Owed unit

theorem Accounted.step {unit after : BreakerUnit} {event : BreakerEvent} (accounted : Accounted unit)
    (vendor : ableedge unit event) (stepped : unit.step event = some after) : Accounted after := by
  obtain ⟨linked, owed⟩ := accounted
  cases event with
  | request on source reason reply outcomes =>
    rw [← step_request stepped]
    have replied := vendor reply.settings (by simp [BreakerEvent.settings])
    have begun : ∀ lastOff, Linked (unit.begun outcomes lastOff) := fun _ =>
      linked.of_view rfl
    have asked : ∀ lastOff, Owed (unit.begun outcomes lastOff) := fun _ => owed.of_view rfl
    cases unit.request_cases linked.vendor on source reason reply outcomes with
    | refused lastOff answer same =>
      rw [same]
      exact ⟨begun lastOff, asked lastOff⟩
    | asksOn answer _ same =>
      rw [same]
      exact ⟨(begun _).requestOn answer replied, (asked _).requestOn reply answer⟩
    | asksOff why answer _ same =>
      rw [same]
      exact ⟨(begun _).requestOff why answer replied, .requestOff ..⟩
  | poll setReply statusReply powerReply outcomes =>
    rw [← step_poll stepped]
    constructor
    · apply poll_keeps
      · exact linked.of_view rfl
      · exact fun _ held => held.flush (vendor _ (by simp [BreakerEvent.settings]))
      · exact fun _ held => held.sampleStatus (vendor _ (by simp [BreakerEvent.settings]))
      · exact fun _ held => held.samplePower (vendor _ (by simp [BreakerEvent.settings]))
    · apply poll_keeps
      · exact owed.of_view rfl
      · exact fun _ held => held.flush setReply
      · exact fun _ held => held.sampleStatus statusReply
      · exact fun _ held => held.samplePower powerReply
  | advance seconds =>
    rw [← step_advance stepped]
    exact ⟨linked.of_view rfl, owed.of_view rfl⟩
  | configure settings =>
    cases stepped
    have kept := vendor settings (by simp [BreakerEvent.settings])
    exact ⟨⟨kept, linked.client, linked.once, linked.fresh, linked.down⟩, owed.of_view rfl⟩

theorem accounted_of_reachable {permits : BreakerUnit → BreakerEvent → Prop} {unit : BreakerUnit}
    (weaker : ∀ unit event, permits unit event → ableedge unit event) (reached : Reachable permits unit) :
    Accounted unit := by
  obtain ⟨settings, relays, vendor, run⟩ := reached
  apply run.invariant
  · refine ⟨⟨vendor, rfl, Nat.zero_le 1, fun _ => rfl, fun _ => rfl⟩, ⟨fun off => ?_, fun reason queued => ?_⟩⟩
    · cases off
    · cases queued
  · intro before event after _ permitted stepped accounted
    exact accounted.step (weaker before event permitted) stepped

/-- The settings that arrive keep the vendor and the interlock relay and have a fail-safe
other than ON, and relay writes succeed. -/
def neverOn (unit : BreakerUnit) (event : BreakerEvent) : Prop :=
  (∀ settings ∈ event.settings, settings.vendor = .ableedge ∧
    settings.interlock = unit.settings.interlock ∧ settings.failSafe ≠ .on) ∧
  ∀ outcome ∈ event.outcomes, outcome = true

/-- An energised coil follows an ON that the vendor accepted and nothing took back. -/
structure Backed (bound : Option Int) (unit : BreakerUnit) : Prop where
  interlock : unit.settings.interlock = bound
  obeyed : Obeyed unit
  only : OnlyInterlock unit
  backed : ∀ channel, unit.coils channel = true → unit.accepted = some true ∧ unit.offSince = false
  queued : unit.controller.pending ≠ none → Silent unit

theorem Silent.backed {bound : Option Int} {unit : BreakerUnit} (silent : Silent unit)
    (interlock : unit.settings.interlock = bound) (obeyed : Obeyed unit) : Backed bound unit where
  interlock := interlock
  obeyed := obeyed
  only channel energised := by
    rw [silent channel] at energised
    cases energised
  backed channel energised := by
    rw [silent channel] at energised
    cases energised
  queued _ := silent

theorem Silent.markOk {unit : BreakerUnit} (silent : Silent unit) : Silent unit.markOk :=
  fun channel => (congrFun unit.markOk_coils channel).trans (silent channel)

theorem Silent.markFail {unit : BreakerUnit} (silent : Silent unit) (mode : unit.settings.failSafe ≠ .on)
    (error : String) : Silent (unit.markFail error) := by
  apply markFail_keeps
  · exact silent
  · intro _ failed channel
    cases energised : (unit.failing error).applyFailSafe.coils channel with
    | false => rfl
    | true =>
      have already := (unit.failing error).quietStep_applyFailSafe.quiet (applyFailSafe_onApplied mode) channel energised
      exact already.symm.trans (failed channel)

namespace Backed

variable {bound : Option Int} {unit : BreakerUnit}

/-- What the coils are judged by. -/
def view (unit : BreakerUnit) : Option Int × List Bool × (Int → Bool) × Bool × Option Bool × Bool ×
    Option (Bool × String) :=
  (unit.settings.interlock, unit.outcomes, unit.coils, unit.controller.relays, unit.accepted, unit.offSince,
    unit.controller.pending)

theorem of_view {after : BreakerUnit} (backed : Backed bound unit) (same : view after = view unit) :
    Backed bound after := by
  simp only [view, Prod.mk.injEq] at same
  obtain ⟨interlock, outcomes, coils, relays, accepted, offSince, pending⟩ := same
  refine ⟨interlock.trans backed.interlock, ?_, ?_, ?_, ?_⟩
  · rw [Obeyed, outcomes]
    exact backed.obeyed
  · rw [OnlyInterlock, coils, relays, interlock]
    exact backed.only
  · rw [coils, accepted, offSince]
    exact backed.backed
  · rw [pending, Silent, coils]
    exact backed.queued

/-- A reply of such a run. -/
structure Brings (bound : Option Int) (settings : BreakerSettings) : Prop where
  interlock : settings.interlock = bound
  failSafe : settings.failSafe ≠ .on

theorem dropped (backed : Backed bound unit) :
    Silent (unit.setInterlock false).1 ∧ Obeyed (unit.setInterlock false).1 ∧
      (unit.setInterlock false).1.settings.interlock = bound := by
  refine ⟨backed.only.dropped backed.obeyed, (setInterlock_obeyed backed.obeyed false).2.1, ?_⟩
  obtain ⟨coils, outcomes, same⟩ := unit.setInterlock_frame false
  rw [same]
  exact backed.interlock

theorem await {Value : Type} {reply : Reply Value} (backed : Backed bound unit)
    (interlock : reply.settings.interlock = bound) : Backed bound (unit.await reply) where
  interlock := interlock
  obeyed := backed.obeyed
  only := backed.only.await reply fun _ => interlock.trans backed.interlock.symm
  backed := backed.backed
  queued := backed.queued

theorem markOk (backed : Backed bound unit) : Backed bound unit.markOk := by
  obtain ⟨since, applied, same⟩ := unit.markOk_frame
  rw [same]
  exact backed.of_view rfl

theorem applyFailSafe (backed : Backed bound unit) (mode : unit.settings.failSafe ≠ .on) :
    Backed bound unit.applyFailSafe := by
  have applied : ∀ lastOff, Backed bound { unit with
      controller := { unit.controller with
        failSafeApplied := some unit.settings.failSafe
        lastOffMono := lastOff }
      applications := unit.applications + 1 } := fun _ =>
    backed.of_view rfl
  unfold BreakerUnit.applyFailSafe
  dsimp only
  split
  next =>
    obtain ⟨silent, obeyed, interlock⟩ := (applied (some unit.now)).dropped
    exact Silent.backed silent interlock obeyed
  next energising => exact absurd energising mode
  next => exact applied unit.controller.lastOffMono

theorem markFail (backed : Backed bound unit) (mode : unit.settings.failSafe ≠ .on) (error : String) :
    Backed bound (unit.markFail error) := by
  apply markFail_keeps
  · exact backed.of_view rfl
  · exact fun _ failed => failed.applyFailSafe mode

theorem requestOff (backed : Backed bound unit) (why : String) {reply : Reply Unit} (answer : RequestAnswer)
    (brings : Brings bound reply.settings) : Backed bound (unit.requestOff why reply answer).1 := by
  obtain ⟨silent, obeyed, _⟩ := backed.dropped
  have asked : Silent ((unit.setInterlock false).1.wantOff.await reply) := silent
  have back := asked.backed brings.interlock obeyed
  unfold BreakerUnit.requestOff
  dsimp only
  cases reply.result with
  | ok _ =>
    have told := back.markOk
    have quiet := asked.markOk
    exact Silent.backed quiet told.interlock told.obeyed
  | error error =>
    have failed := back.markFail brings.failSafe error
    have quiet := asked.markFail brings.failSafe error
    exact Silent.backed quiet failed.interlock failed.obeyed

theorem requestOn (backed : Backed bound unit) {reply : Reply Unit} (answer : RequestAnswer)
    (brings : Brings bound reply.settings) : Backed bound (unit.requestOn reply answer).1 := by
  have back := backed.await brings.interlock
  unfold BreakerUnit.requestOn
  cases reply.result with
  | ok _ =>
    have told := back.markOk
    have closed : Backed bound { (unit.await reply).markOk.noteAccepted true with
        controller := { ((unit.await reply).markOk.noteAccepted true).controller with
          desired := some true
          pending := none } } :=
      ⟨told.interlock, told.obeyed, told.only, fun _ _ => ⟨rfl, rfl⟩, fun queued => absurd rfl queued⟩
    obtain ⟨coils, outcomes, same⟩ := setInterlock_frame _ true
    have energised := closed.only.setInterlock true
    have obeyed := (setInterlock_obeyed closed.obeyed true).2.1
    dsimp only
    rw [same] at energised obeyed ⊢
    exact ⟨told.interlock, obeyed, energised, fun _ _ => ⟨rfl, rfl⟩, fun queued => absurd rfl queued⟩
  | error error => exact back.markFail brings.failSafe error

theorem flush (backed : Backed bound unit) {reply : Reply Unit} (brings : Brings bound reply.settings) :
    Backed bound (unit.flush reply).1 := by
  have back := backed.await brings.interlock
  unfold BreakerUnit.flush
  cases queued : unit.controller.pending with
  | none => exact backed
  | some command =>
    have silent : Silent { unit.await reply with
        controller := { (unit.await reply).controller with pending := none } } :=
      backed.queued (by rw [queued]; exact Option.some_ne_none command)
    dsimp only
    cases reply.result with
    | ok _ =>
      have told := (silent.backed back.interlock back.obeyed).markOk
      exact Silent.backed silent.markOk told.interlock told.obeyed
    | error error => exact back.markFail brings.failSafe error

theorem sampleStatus (backed : Backed bound unit) {reply : Reply CircuitStatus}
    (brings : Brings bound reply.settings) : Backed bound (unit.sampleStatus reply).1 := by
  have back := backed.await brings.interlock
  unfold BreakerUnit.sampleStatus
  cases reply.result with
  | ok status =>
    apply markOk
    exact back.of_view rfl
  | error error => exact back.markFail brings.failSafe error

theorem samplePower (backed : Backed bound unit) {reply : Reply PowerReading}
    (brings : Brings bound reply.settings) : Backed bound (unit.samplePower reply) := by
  have back := backed.await brings.interlock
  unfold BreakerUnit.samplePower
  cases reply.result with
  | ok power => exact back.of_view rfl
  | error error => exact back

end Backed

theorem Backed.step {bound : Option Int} {unit after : BreakerUnit} {event : BreakerEvent}
    (backed : Backed bound unit) (vendor : unit.settings.vendor = .ableedge) (permitted : neverOn unit event)
    (stepped : unit.step event = some after) : Backed bound after := by
  have brings : ∀ settings ∈ event.settings, Backed.Brings bound settings := fun settings listed =>
    ⟨(permitted.1 settings listed).2.1.trans backed.interlock, (permitted.1 settings listed).2.2⟩
  cases event with
  | request on source reason reply outcomes =>
    rw [← step_request stepped]
    have replied := brings reply.settings (by simp [BreakerEvent.settings])
    have begun : ∀ lastOff, Backed bound (unit.begun outcomes lastOff) := fun _ =>
      ⟨backed.interlock, permitted.2, backed.only, backed.backed, backed.queued⟩
    cases unit.request_cases vendor on source reason reply outcomes with
    | refused lastOff answer same =>
      rw [same]
      exact begun lastOff
    | asksOn answer _ same =>
      rw [same]
      exact (begun _).requestOn answer replied
    | asksOff why answer _ same =>
      rw [same]
      exact (begun _).requestOff why answer replied
  | poll setReply statusReply powerReply outcomes =>
    rw [← step_poll stepped]
    apply poll_keeps
    · exact ⟨backed.interlock, permitted.2, backed.only, backed.backed, backed.queued⟩
    · exact fun _ held => held.flush (brings _ (by simp [BreakerEvent.settings]))
    · exact fun _ held => held.sampleStatus (brings _ (by simp [BreakerEvent.settings]))
    · exact fun _ held => held.samplePower (brings _ (by simp [BreakerEvent.settings]))
  | advance seconds =>
    rw [← step_advance stepped]
    exact backed.of_view rfl
  | configure settings =>
    cases stepped
    have kept := (brings settings (by simp [BreakerEvent.settings])).interlock
    refine ⟨kept, backed.obeyed, fun channel energised => ?_, backed.backed, backed.queued⟩
    obtain ⟨relays, interlock⟩ := backed.only channel energised
    exact ⟨relays, kept.trans (backed.interlock.symm.trans interlock)⟩

theorem backed_of_reachable {unit : BreakerUnit} (reached : Reachable neverOn unit) :
    ∃ bound, Backed bound unit := by
  obtain ⟨settings, relays, vendor, run⟩ := reached
  refine ⟨settings.interlock, ?_⟩
  apply run.invariant
  · have silent : Silent (start settings relays) := fun _ => rfl
    apply silent.backed rfl
    intro outcome listed
    cases listed
  · intro before event after earlier permitted stepped backed
    have weaker : ∀ unit event, neverOn unit event → ableedge unit event :=
      fun _ _ permitted settings listed => (permitted.1 settings listed).1
    have accounted := accounted_of_reachable weaker ⟨settings, relays, vendor, earlier⟩
    exact backed.step accounted.linked.vendor permitted stepped

/-- An OFF that is wanted was accepted last or is queued, an ON is never queued, the
fail-safe is applied at most once between two successful vendor calls, and an energised
interlock follows an accepted ON that no OFF came after. -/
theorem commands_kept {unit : BreakerUnit} :
    (Reachable ableedge unit →
      (unit.controller.desired = some false →
        unit.accepted = some false ∨ ∃ reason, unit.controller.pending = some (false, reason)) ∧
      (∀ reason, unit.controller.pending ≠ some (true, reason)) ∧
      unit.applications ≤ 1) ∧
    (Reachable neverOn unit → ∀ channel, unit.coils channel = true →
      unit.accepted = some true ∧ unit.offSince = false) := by
  constructor
  · intro reached
    obtain ⟨linked, owed⟩ := accounted_of_reachable (fun _ _ permitted => permitted) reached
    exact ⟨owed.off, owed.onlyOff, linked.once⟩
  · intro reached channel energised
    obtain ⟨bound, backed⟩ := backed_of_reachable reached
    exact backed.backed channel energised

instance (unit : BreakerUnit) (event : BreakerEvent) : Decidable (neverOn unit event) :=
  inferInstanceAs (Decidable (_ ∧ _))

/-- A circuit with the interlock on relay 3 and a fail-safe OFF without grace. -/
def circuit : BreakerSettings := ⟨.ableedge, .off, 0, 0, 3⟩

theorem commands_kept_circuit :
    ∃ on off : BreakerUnit, on.coils 3 = true ∧ (on.accepted = some true ∧ on.offSince = false) ∧
      off.controller.desired = some false ∧
      (off.accepted = some false ∨ ∃ reason, off.controller.pending = some (false, reason)) ∧
      off.applications ≤ 1 := by
  have played : ((Events.play step neverOn (start circuit true)
      [.request true "local" none ⟨.ok (), circuit, 1⟩ []]).bind fun on =>
        (Events.play step neverOn on [.request false "local" none ⟨.error "timeout", circuit, 1⟩ []]).map
          fun off => (on.coils 3, off.controller.desired)) = some (true, some false) := by
    decide +kernel
  obtain ⟨on, first, second⟩ := Option.bind_eq_some_iff.mp played
  obtain ⟨off, failed, seen⟩ := Option.map_eq_some_iff.mp second
  simp only [Prod.mk.injEq] at seen
  have reached : Reachable neverOn on := ⟨circuit, true, rfl, Events.reaches_play first⟩
  have further : Reachable ableedge off :=
    ⟨circuit, true, rfl, ((Events.reaches_play first).trans (Events.reaches_play failed)).mono
      fun _ _ permitted settings listed => (permitted.1 settings listed).1⟩
  have kept := commands_kept.1 further
  exact ⟨on, off, seen.1, commands_kept.2 reached 3 seen.1, seen.2, kept.1 seen.2, kept.2.2⟩

end Wqm1.Breaker.BreakerUnit
