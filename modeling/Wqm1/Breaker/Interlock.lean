import Wqm1.Breaker.Controller

/-! What the operations of the breaker controller do to the coil of the interlock. -/

set_option autoImplicit false

namespace Wqm1.Breaker.BreakerUnit

open Wqm1.Control

/-- No coil is energised. -/
def Silent (unit : BreakerUnit) : Prop :=
  ∀ channel, unit.coils channel = false

/-- The relay writes to come succeed. -/
def Obeyed (unit : BreakerUnit) : Prop :=
  ∀ outcome ∈ unit.outcomes, outcome = true

/-- No coil is energised but the interlock. -/
def OnlyInterlock (unit : BreakerUnit) : Prop :=
  ∀ channel, unit.coils channel = true →
    unit.controller.relays = true ∧ unit.settings.interlock = some channel

theorem setInterlock_frame (unit : BreakerUnit) (on : Bool) : ∃ coils outcomes,
    (unit.setInterlock on).1 = { unit with coils := coils, outcomes := outcomes } := by
  unfold setInterlock
  split
  next => exact ⟨unit.coils, unit.outcomes, rfl⟩
  next =>
    split
    next =>
      split
      next => exact ⟨_, _, rfl⟩
      next => exact ⟨unit.coils, _, rfl⟩
    next => exact ⟨unit.coils, unit.outcomes, rfl⟩

/-- The coils are the pins of the relay controller that the interlock is on. -/
theorem setInterlock_pins {unit : BreakerUnit} {channel : Int} (on unbounded : Bool) (now : Rat)
    {relay : RelayController} (pins : relay.pins = unit.coils) (relays : unit.controller.relays = true)
    (bound : unit.settings.interlock = some channel) :
    (unit.setInterlock on).1.coils = (relay.set channel on unbounded now (unit.outcomes.headD true)).1.pins := by
  have real : isChannel channel := by
    unfold BreakerSettings.interlock at bound
    split at bound
    next real =>
      cases bound
      exact real
    next => cases bound
  unfold setInterlock
  rw [bound, RelayController.set_pins, pins]
  dsimp only
  rw [if_pos relays]
  cases unit.outcomes.headD true with
  | true => rw [if_pos rfl, if_pos ⟨real, rfl⟩]
  | false => rw [if_neg Bool.false_ne_true, if_neg fun both => Bool.false_ne_true both.2]

theorem setInterlock_coils (unit : BreakerUnit) (on : Bool) :
    (unit.setInterlock on).1.coils = unit.coils ∨
      ∃ channel, unit.controller.relays = true ∧ unit.settings.interlock = some channel ∧
        (unit.setInterlock on).1.coils = Function.update unit.coils channel on := by
  cases bound : unit.settings.interlock with
  | none =>
    left
    unfold setInterlock
    rw [bound]
  | some channel =>
    cases relays : unit.controller.relays with
    | false =>
      left
      unfold setInterlock
      rw [bound, relays]
      rfl
    | true =>
      let relay : RelayController := { maxOnS := 0, pins := unit.coils }
      have driven := (setInterlock_pins on false 0 (show relay.pins = unit.coils from rfl) relays bound).trans
        (RelayController.set_pins ..)
      split at driven
      next => exact .inr ⟨channel, rfl, rfl, driven⟩
      next => exact .inl driven

theorem coil_of_setInterlock {unit : BreakerUnit} {on : Bool} {channel : Int}
    (energised : (unit.setInterlock on).1.coils channel = true) :
    unit.coils channel = true ∨
      (on = true ∧ unit.controller.relays = true ∧ unit.settings.interlock = some channel) := by
  cases unit.setInterlock_coils on with
  | inl same =>
    rw [same] at energised
    exact .inl energised
  | inr driven =>
    obtain ⟨bound, relays, interlock, set⟩ := driven
    rw [set] at energised
    by_cases here : channel = bound
    · rw [here, Function.update_self] at energised
      exact .inr ⟨energised, relays, here ▸ interlock⟩
    · rw [Function.update_of_ne here] at energised
      exact .inl energised

theorem coil_of_dropped {unit : BreakerUnit} {channel : Int}
    (energised : (unit.setInterlock false).1.coils channel = true) : unit.coils channel = true := by
  cases coil_of_setInterlock energised with
  | inl already => exact already
  | inr set => exact absurd set.1 Bool.false_ne_true

theorem setInterlock_obeyed {unit : BreakerUnit} (obeyed : Obeyed unit) (on : Bool) :
    (unit.setInterlock on).2 = true ∧ Obeyed (unit.setInterlock on).1 ∧
      (unit.controller.relays = true → ∀ channel, unit.settings.interlock = some channel →
        (unit.setInterlock on).1.coils channel = on) := by
  have written : unit.outcomes.headD true = true := by
    cases listed : unit.outcomes with
    | nil => rfl
    | cons outcome rest => exact obeyed outcome (by rw [listed]; exact List.mem_cons_self)
  unfold setInterlock
  split
  next unbound =>
    refine ⟨rfl, obeyed, fun _ channel bound => ?_⟩
    rw [unbound] at bound
    cases bound
  next channel bound =>
    rw [if_pos written]
    split
    next =>
      refine ⟨rfl, fun outcome rest => obeyed outcome (List.mem_of_mem_tail rest), fun _ other same => ?_⟩
      rw [bound] at same
      cases same
      exact Function.update_self ..
    next absent => exact ⟨rfl, obeyed, fun relays => absurd relays absent⟩

theorem OnlyInterlock.dropped {unit : BreakerUnit} (only : OnlyInterlock unit) (obeyed : Obeyed unit) :
    Silent (unit.setInterlock false).1 := by
  intro channel
  cases energised : (unit.setInterlock false).1.coils channel with
  | false => rfl
  | true =>
    obtain ⟨relays, interlock⟩ := only channel (coil_of_dropped energised)
    rw [(setInterlock_obeyed obeyed false).2.2 relays channel interlock] at energised
    cases energised

/-- The unit at the call of the vendor or at a refusal. -/
def begun (unit : BreakerUnit) (outcomes : List Bool) (lastOff : Option Rat) : BreakerUnit :=
  { unit with outcomes := outcomes, controller := { unit.controller with lastOffMono := lastOff } }

/-- What a request is: refused before the vendor is called, or one of the two commands. -/
inductive RequestCases (unit : BreakerUnit) (on : Bool) (reply : Reply Unit) (outcomes : List Bool)
    (request : BreakerUnit × RequestAnswer) : Prop where
  | refused (lastOff : Option Rat) (answer : RequestAnswer)
      (same : request = (unit.begun outcomes lastOff, answer)) (unasked : answer.breaker = none)
      (reason : on = true ∨ unit.controller.client = false)
  | asksOn (answer : RequestAnswer) (wanted : on = true)
      (same : request = (unit.begun outcomes unit.controller.lastOffMono).requestOn reply answer)
  | asksOff (why : String) (answer : RequestAnswer) (wanted : on = false)
      (same : request = (unit.begun outcomes (some unit.now)).requestOff why reply answer)

theorem request_cases (unit : BreakerUnit) (vendor : unit.settings.vendor = .ableedge) (on : Bool)
    (source : String) (reason : Option String) (reply : Reply Unit) (outcomes : List Bool) :
    RequestCases unit on reply outcomes (unit.request on source reason reply outcomes) := by
  have enabled : ¬ unit.settings.vendor = .none := by
    rw [vendor]
    intro same
    cases same
  have remote : ¬ unit.settings.vendor = .relayOnly := by
    rw [vendor]
    intro same
    cases same
  unfold request
  dsimp only
  rw [if_neg enabled]
  cases on with
  | true =>
    rw [if_pos rfl, if_neg remote]
    split
    next => exact .refused unit.controller.lastOffMono _ rfl rfl (.inl rfl)
    next =>
      split
      next => exact .refused unit.controller.lastOffMono _ rfl rfl (.inl rfl)
      next => exact .asksOn _ rfl rfl
  | false =>
    rw [if_neg (fun both => Bool.false_ne_true both.1), if_neg Bool.false_ne_true, if_neg remote]
    split
    next absent => exact .refused (some unit.now) _ rfl rfl (.inr absent)
    next => exact .asksOff _ _ rfl rfl

/-- The unit that has noted a failed call, before its fail-safe. -/
def failing (unit : BreakerUnit) (error : String) : BreakerUnit :=
  { unit with
    controller := { unit.controller with
      lastError := some error
      unreachableSince := some (unit.controller.unreachableSince.getD unit.now) } }

theorem markFail_cases (unit : BreakerUnit) (error : String) :
    unit.markFail error = unit.failing error ∨
      (unit.controller.failSafeApplied = none ∧
        unit.markFail error = (unit.failing error).applyFailSafe) := by
  unfold markFail evaluateFailSafe
  dsimp only
  split
  next => exact .inl rfl
  next due =>
    cases applied : unit.controller.failSafeApplied with
    | none => exact .inr ⟨rfl, rfl⟩
    | some mode => exact absurd (.inl (by rw [applied]; rfl)) due

/-- A failed call keeps what the noted failure and the fail-safe keep. -/
theorem markFail_keeps {holds : BreakerUnit → Prop} {unit : BreakerUnit} {error : String}
    (failed : holds (unit.failing error))
    (applied : unit.controller.failSafeApplied = none → holds (unit.failing error) →
      holds (unit.failing error).applyFailSafe) : holds (unit.markFail error) := by
  cases unit.markFail_cases error with
  | inl noted =>
    rw [noted]
    exact failed
  | inr due =>
    rw [due.2]
    exact applied due.1 failed

theorem markOk_frame (unit : BreakerUnit) : ∃ since applied,
    unit.markOk = { unit with
      controller := { unit.controller with
        lastOkMono := some unit.now
        lastError := none
        unreachableSince := since
        failSafeApplied := applied }
      applications := 0 } := by
  unfold markOk
  dsimp only
  split
  next => exact ⟨none, none, rfl⟩
  next => exact ⟨_, _, rfl⟩

theorem markOk_coils (unit : BreakerUnit) : unit.markOk.coils = unit.coils := by
  obtain ⟨since, applied, same⟩ := unit.markOk_frame
  rw [same]

theorem markOk_settings (unit : BreakerUnit) : unit.markOk.settings = unit.settings := by
  obtain ⟨since, applied, same⟩ := unit.markOk_frame
  rw [same]

theorem flush_delivered {unit : BreakerUnit} {reply : Reply Unit} (delivered : (unit.flush reply).2 = true) :
    (unit.flush reply).1.coils = unit.coils ∧
      ((unit.flush reply).1.settings = unit.settings ∨ (unit.flush reply).1.settings = reply.settings) := by
  unfold flush at delivered ⊢
  cases queued : unit.controller.pending with
  | none => exact ⟨rfl, .inl rfl⟩
  | some command =>
    rw [queued] at delivered
    dsimp only at delivered ⊢
    cases result : reply.result with
    | ok _ =>
      exact ⟨markOk_coils _, .inr (markOk_settings _)⟩
    | error error =>
      rw [result] at delivered
      cases delivered

theorem sampleStatus_sampled {unit : BreakerUnit} {reply : Reply CircuitStatus}
    (sampled : (unit.sampleStatus reply).2 = true) :
    (unit.sampleStatus reply).1.coils = unit.coils ∧ (unit.sampleStatus reply).1.settings = reply.settings := by
  unfold sampleStatus at sampled ⊢
  cases result : reply.result with
  | ok status =>
    exact ⟨markOk_coils _, markOk_settings _⟩
  | error error =>
    rw [result] at sampled
    cases sampled

section

variable {unit after : BreakerUnit}

theorem step_request {on : Bool} {source : String} {reason : Option String} {reply : Reply Unit}
    {outcomes : List Bool} (stepped : unit.step (.request on source reason reply outcomes) = some after) :
    (unit.request on source reason reply outcomes).1 = after := by
  unfold step at stepped
  dsimp only at stepped
  exact Option.some.inj (Option.ite_none_right_eq_some.mp stepped).2

theorem step_poll {setReply : Reply Unit} {statusReply : Reply CircuitStatus} {powerReply : Reply PowerReading}
    {outcomes : List Bool} (stepped : unit.step (.poll setReply statusReply powerReply outcomes) = some after) :
    unit.poll setReply statusReply powerReply outcomes = after := by
  unfold step at stepped
  dsimp only at stepped
  exact Option.some.inj (Option.ite_none_right_eq_some.mp stepped).2

/-- A cycle keeps what its three vendor calls keep. -/
theorem poll_keeps {holds : BreakerUnit → Prop} {setReply : Reply Unit} {statusReply : Reply CircuitStatus}
    {powerReply : Reply PowerReading} {outcomes : List Bool} (begins : holds { unit with outcomes := outcomes })
    (flushed : ∀ unit, holds unit → holds (unit.flush setReply).1)
    (sampled : ∀ unit, holds unit → holds (unit.sampleStatus statusReply).1)
    (measured : ∀ unit, holds unit → holds (unit.samplePower powerReply)) :
    holds (unit.poll setReply statusReply powerReply outcomes) := by
  have delivered := flushed _ begins
  unfold poll
  dsimp only
  split
  next => exact begins
  next =>
    split
    next =>
      have read := sampled _ delivered
      split
      next => exact measured _ read
      next => exact read
    next => exact delivered

theorem step_advance {seconds : Rat} (stepped : unit.step (.advance seconds) = some after) :
    { unit with now := unit.now + seconds } = after := by
  unfold step at stepped
  dsimp only at stepped
  exact Option.some.inj (Option.ite_none_right_eq_some.mp stepped).2

end

/-- Between two units the coils were not driven ON but by the fail-safe. -/
structure QuietStep (before after : BreakerUnit) : Prop where
  grows : before.onApplied ≤ after.onApplied
  quiet : after.onApplied = before.onApplied →
    ∀ channel, after.coils channel = true → before.coils channel = true

theorem quietStep_of_same {before after : BreakerUnit} (applied : after.onApplied = before.onApplied)
    (coils : after.coils = before.coils) : QuietStep before after where
  grows := applied.ge
  quiet _ channel energised := by rwa [coils] at energised

theorem QuietStep.trans {first second third : BreakerUnit} (earlier : QuietStep first second)
    (later : QuietStep second third) : QuietStep first third where
  grows := earlier.grows.trans later.grows
  quiet same channel energised := by
    have middle : second.onApplied = first.onApplied :=
      Nat.le_antisymm (same ▸ later.grows) earlier.grows
    exact earlier.quiet middle channel (later.quiet (same.trans middle.symm) channel energised)

section

variable (unit : BreakerUnit)

theorem quietStep_drop : QuietStep unit (unit.setInterlock false).1 := by
  obtain ⟨coils, outcomes, same⟩ := unit.setInterlock_frame false
  refine ⟨?_, fun _ _ energised => coil_of_dropped energised⟩
  rw [same]

theorem quietStep_markOk : QuietStep unit unit.markOk := by
  obtain ⟨since, applied, same⟩ := unit.markOk_frame
  apply quietStep_of_same <;> rw [same]

theorem quietStep_applyFailSafe : QuietStep unit unit.applyFailSafe := by
  unfold applyFailSafe
  dsimp only
  split
  next =>
    have dropped := quietStep_drop { unit with
      controller := { unit.controller with
        failSafeApplied := some unit.settings.failSafe
        lastOffMono := some unit.now }
      applications := unit.applications + 1 }
    exact ⟨dropped.grows, dropped.quiet⟩
  next =>
    refine ⟨Nat.le_succ _, fun same => ?_⟩
    exact absurd same (Nat.succ_ne_self _)
  next => exact quietStep_of_same rfl rfl

theorem applyFailSafe_onApplied {unit : BreakerUnit} (mode : unit.settings.failSafe ≠ .on) :
    unit.applyFailSafe.onApplied = unit.onApplied := by
  unfold applyFailSafe
  dsimp only
  split
  next =>
    obtain ⟨coils, outcomes, same⟩ := setInterlock_frame { unit with
      controller := { unit.controller with
        failSafeApplied := some unit.settings.failSafe
        lastOffMono := some unit.now }
      applications := unit.applications + 1 } false
    rw [same]
  next energising => exact absurd energising mode
  next => rfl

theorem quietStep_markFail (error : String) : QuietStep unit (unit.markFail error) :=
  markFail_keeps (quietStep_of_same rfl rfl) fun _ failed => failed.trans (quietStep_applyFailSafe _)

theorem quietStep_await {Value : Type} (reply : Reply Value) : QuietStep unit (unit.await reply) :=
  quietStep_of_same rfl rfl

theorem quietStep_requestOff (why : String) (reply : Reply Unit) (answer : RequestAnswer) :
    QuietStep (unit.setInterlock false).1 (unit.requestOff why reply answer).1 := by
  have asked : QuietStep (unit.setInterlock false).1 (unit.setInterlock false).1.wantOff :=
    quietStep_of_same rfl rfl
  have back := asked.trans (quietStep_await _ reply)
  unfold requestOff
  dsimp only
  cases reply.result with
  | ok _ =>
    have told := back.trans (quietStep_markOk _)
    exact ⟨told.grows, told.quiet⟩
  | error error =>
    have failed := back.trans (quietStep_markFail _ error)
    exact ⟨failed.grows, failed.quiet⟩

theorem quietStep_requestOn {reply : Reply Unit} {answer : RequestAnswer}
    (unconfirmed : (unit.requestOn reply answer).2.breaker ≠ some .confirmed) :
    QuietStep unit (unit.requestOn reply answer).1 := by
  unfold requestOn at unconfirmed ⊢
  cases result : reply.result with
  | ok _ =>
    rw [result] at unconfirmed
    exact absurd rfl unconfirmed
  | error error => exact (unit.quietStep_await reply).trans (quietStep_markFail _ error)

theorem quietStep_flush (reply : Reply Unit) : QuietStep unit (unit.flush reply).1 := by
  unfold flush
  split
  next => exact quietStep_of_same rfl rfl
  next =>
    cases reply.result with
    | ok _ =>
      have delivered : QuietStep unit { unit.await reply with
          controller := { (unit.await reply).controller with pending := none } } := quietStep_of_same rfl rfl
      have told := delivered.trans (quietStep_markOk _)
      exact ⟨told.grows, told.quiet⟩
    | error error => exact (unit.quietStep_await reply).trans (quietStep_markFail _ error)

theorem quietStep_sampleStatus (reply : Reply CircuitStatus) : QuietStep unit (unit.sampleStatus reply).1 := by
  unfold sampleStatus
  cases reply.result with
  | ok status =>
    have read : QuietStep unit { unit.await reply with
        controller := { (unit.await reply).controller with lastStatus := some status } } := quietStep_of_same rfl rfl
    exact read.trans (quietStep_markOk _)
  | error error => exact (unit.quietStep_await reply).trans (quietStep_markFail _ error)

theorem quietStep_samplePower (reply : Reply PowerReading) : QuietStep unit (unit.samplePower reply) := by
  unfold samplePower
  cases reply.result with
  | ok power => exact quietStep_of_same rfl rfl
  | error error => exact quietStep_of_same rfl rfl

theorem quietStep_poll (setReply : Reply Unit) (statusReply : Reply CircuitStatus)
    (powerReply : Reply PowerReading) (outcomes : List Bool) :
    QuietStep unit (unit.poll setReply statusReply powerReply outcomes) := by
  apply poll_keeps
  · exact quietStep_of_same rfl rfl
  · exact fun middle quiet => quiet.trans (middle.quietStep_flush setReply)
  · exact fun middle quiet => quiet.trans (middle.quietStep_sampleStatus statusReply)
  · exact fun middle quiet => quiet.trans (middle.quietStep_samplePower powerReply)

end

/-- The event is an ON request that the vendor confirms. -/
def confirmsOn (unit : BreakerUnit) : BreakerEvent → Prop
  | .request on source reason reply outcomes =>
    on = true ∧ (unit.request on source reason reply outcomes).2.breaker = some .confirmed
  | _ => False

theorem quietStep_step {unit after : BreakerUnit} {event : BreakerEvent}
    (vendor : unit.settings.vendor = .ableedge) (unconfirmed : ¬ confirmsOn unit event)
    (stepped : unit.step event = some after) : QuietStep unit after := by
  cases event with
  | request on source reason reply outcomes =>
    rw [← step_request stepped]
    have begun : ∀ lastOff, QuietStep unit (unit.begun outcomes lastOff) := fun _ => quietStep_of_same rfl rfl
    cases unit.request_cases vendor on source reason reply outcomes with
    | refused lastOff answer same =>
      rw [same]
      exact begun lastOff
    | asksOn answer wanted same =>
      have unasked : ((unit.begun outcomes unit.controller.lastOffMono).requestOn reply answer).2.breaker ≠
          some .confirmed := by
        rw [← same]
        exact fun confirmed => unconfirmed ⟨wanted, confirmed⟩
      rw [same]
      exact (begun _).trans (quietStep_requestOn _ unasked)
    | asksOff why answer _ same =>
      rw [same]
      exact ((begun _).trans (quietStep_drop _)).trans (quietStep_requestOff _ why reply answer)
  | poll setReply statusReply powerReply outcomes =>
    rw [← step_poll stepped]
    exact unit.quietStep_poll ..
  | advance seconds =>
    rw [← step_advance stepped]
    exact quietStep_of_same rfl rfl
  | configure settings =>
    cases stepped
    exact quietStep_of_same rfl rfl

/-- The settings that arrive while a coil is energised keep the interlock relay. -/
def keepsInterlock (unit : BreakerUnit) (event : BreakerEvent) : Prop :=
  (∃ channel, unit.coils channel = true) →
    ∀ settings ∈ event.settings, settings.interlock = unit.settings.interlock

namespace OnlyInterlock

variable {unit : BreakerUnit}

theorem setInterlock (only : OnlyInterlock unit) (on : Bool) : OnlyInterlock (unit.setInterlock on).1 := by
  intro channel energised
  obtain ⟨coils, outcomes, same⟩ := unit.setInterlock_frame on
  have bound : unit.controller.relays = true ∧ unit.settings.interlock = some channel := by
    cases coil_of_setInterlock energised with
    | inl already => exact only channel already
    | inr set => exact set.2
  rw [same]
  exact bound

theorem await {Value : Type} (only : OnlyInterlock unit) (reply : Reply Value)
    (kept : (∃ channel, unit.coils channel = true) →
      reply.settings.interlock = unit.settings.interlock) : OnlyInterlock (unit.await reply) := by
  intro channel energised
  obtain ⟨relays, bound⟩ := only channel energised
  exact ⟨relays, (kept ⟨channel, energised⟩).trans bound⟩

theorem markOk (only : OnlyInterlock unit) : OnlyInterlock unit.markOk := by
  obtain ⟨since, applied, same⟩ := unit.markOk_frame
  rw [same]
  exact only

theorem applyFailSafe (only : OnlyInterlock unit) : OnlyInterlock unit.applyFailSafe := by
  have applied : ∀ lastOff, OnlyInterlock { unit with
      controller := { unit.controller with
        failSafeApplied := some unit.settings.failSafe
        lastOffMono := lastOff }
      applications := unit.applications + 1 } := fun _ => only
  unfold BreakerUnit.applyFailSafe
  dsimp only
  split
  next => exact (applied (some unit.now)).setInterlock false
  next => exact (applied unit.controller.lastOffMono).setInterlock true
  next => exact only

theorem markFail (only : OnlyInterlock unit) (error : String) : OnlyInterlock (unit.markFail error) :=
  markFail_keeps only fun _ failed => failed.applyFailSafe

theorem requestOff (only : OnlyInterlock unit) (why : String) {reply : Reply Unit} (answer : RequestAnswer)
    (kept : (∃ channel, unit.coils channel = true) → reply.settings.interlock = unit.settings.interlock) :
    OnlyInterlock (unit.requestOff why reply answer).1 := by
  obtain ⟨coils, outcomes, same⟩ := unit.setInterlock_frame false
  have asked : OnlyInterlock (unit.setInterlock false).1.wantOff := only.setInterlock false
  have back := asked.await reply fun lit => by
    obtain ⟨channel, energised⟩ := lit
    rw [kept ⟨channel, coil_of_dropped energised⟩, same]
    rfl
  unfold BreakerUnit.requestOff
  dsimp only
  cases reply.result with
  | ok _ => exact back.markOk
  | error error => exact back.markFail error

theorem requestOn (only : OnlyInterlock unit) {reply : Reply Unit} (answer : RequestAnswer)
    (kept : (∃ channel, unit.coils channel = true) → reply.settings.interlock = unit.settings.interlock) :
    OnlyInterlock (unit.requestOn reply answer).1 := by
  have back := only.await reply kept
  unfold BreakerUnit.requestOn
  cases reply.result with
  | ok _ =>
    have told := back.markOk
    apply setInterlock
    exact told
  | error error => exact back.markFail error

theorem request (only : OnlyInterlock unit) (vendor : unit.settings.vendor = .ableedge) (on : Bool)
    (source : String) (reason : Option String) {reply : Reply Unit} (outcomes : List Bool)
    (kept : (∃ channel, unit.coils channel = true) → reply.settings.interlock = unit.settings.interlock) :
    OnlyInterlock (unit.request on source reason reply outcomes).1 := by
  have begun : ∀ lastOff, OnlyInterlock (unit.begun outcomes lastOff) := fun _ => only
  cases unit.request_cases vendor on source reason reply outcomes with
  | refused lastOff answer same =>
    rw [same]
    exact begun lastOff
  | asksOn answer _ same =>
    rw [same]
    exact (begun _).requestOn answer kept
  | asksOff why answer _ same =>
    rw [same]
    exact (begun _).requestOff why answer kept

theorem flush (only : OnlyInterlock unit) (reply : Reply Unit)
    (kept : (∃ channel, unit.coils channel = true) → reply.settings.interlock = unit.settings.interlock) :
    OnlyInterlock (unit.flush reply).1 := by
  unfold BreakerUnit.flush
  split
  next => exact only
  next =>
    have back := only.await reply kept
    cases reply.result with
    | ok _ =>
      apply markOk
      exact back
    | error error => exact back.markFail error

theorem sampleStatus (only : OnlyInterlock unit) (reply : Reply CircuitStatus)
    (kept : (∃ channel, unit.coils channel = true) → reply.settings.interlock = unit.settings.interlock) :
    OnlyInterlock (unit.sampleStatus reply).1 := by
  have back := only.await reply kept
  unfold BreakerUnit.sampleStatus
  cases reply.result with
  | ok status =>
    apply markOk
    exact back
  | error error => exact back.markFail error

theorem samplePower (only : OnlyInterlock unit) (reply : Reply PowerReading)
    (kept : (∃ channel, unit.coils channel = true) → reply.settings.interlock = unit.settings.interlock) :
    OnlyInterlock (unit.samplePower reply) := by
  have back := only.await reply kept
  unfold BreakerUnit.samplePower
  cases reply.result with
  | ok power => exact back
  | error error => exact back

theorem poll (only : OnlyInterlock unit) {setReply : Reply Unit} {statusReply : Reply CircuitStatus}
    {powerReply : Reply PowerReading} (outcomes : List Bool)
    (kept : keepsInterlock unit (.poll setReply statusReply powerReply outcomes)) :
    OnlyInterlock (unit.poll setReply statusReply powerReply outcomes) := by
  have begun : OnlyInterlock { unit with outcomes := outcomes } := only
  have flushed := begun.flush setReply fun lit => kept lit _ (by simp [BreakerEvent.settings])
  unfold BreakerUnit.poll
  dsimp only
  split
  next => exact begun
  next =>
    split
    next delivered =>
      obtain ⟨coils, settings⟩ := flush_delivered delivered
      have sampled := flushed.sampleStatus statusReply fun lit => by
        rw [coils] at lit
        rw [kept lit statusReply.settings (by simp [BreakerEvent.settings])]
        cases settings with
        | inl same => rw [same]
        | inr same => rw [same, kept lit setReply.settings (by simp [BreakerEvent.settings])]
      split
      next sampledWell =>
        obtain ⟨also, read⟩ := sampleStatus_sampled sampledWell
        apply sampled.samplePower powerReply
        intro lit
        rw [also, coils] at lit
        rw [read, kept lit powerReply.settings (by simp [BreakerEvent.settings]),
          kept lit statusReply.settings (by simp [BreakerEvent.settings])]
      next => exact sampled
    next => exact flushed

theorem step {event : BreakerEvent} {after : BreakerUnit} (only : OnlyInterlock unit)
    (vendor : unit.settings.vendor = .ableedge) (kept : keepsInterlock unit event)
    (stepped : unit.step event = some after) : OnlyInterlock after := by
  cases event with
  | request on source reason reply outcomes =>
    rw [← step_request stepped]
    exact only.request vendor on source reason outcomes fun lit => kept lit reply.settings (by simp [BreakerEvent.settings])
  | poll setReply statusReply powerReply outcomes =>
    rw [← step_poll stepped]
    exact only.poll outcomes kept
  | advance seconds =>
    rw [← step_advance stepped]
    exact only
  | configure settings =>
    cases stepped
    intro channel energised
    obtain ⟨relays, bound⟩ := only channel energised
    exact ⟨relays, (kept ⟨channel, energised⟩ settings (by simp [BreakerEvent.settings])).trans bound⟩

end OnlyInterlock

end Wqm1.Breaker.BreakerUnit
