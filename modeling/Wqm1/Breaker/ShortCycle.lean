import Wqm1.Breaker.Interlock

/-! The short-cycle guard: an ON request waits for the minimum off time, counted from the
last OFF. -/

set_option autoImplicit false

namespace Wqm1.Breaker

open Wqm1.Library

namespace BreakerUnit

/-- The instant at which a failed call drops the interlock. -/
def failSafeDrop (unit : BreakerUnit) : Option Rat :=
  match unit.controller.failSafeApplied with
  | some _ => none
  | none =>
    if unit.now - unit.controller.unreachableSince.getD unit.now < unit.settings.graceS then none
    else if unit.settings.failSafe = .off then some unit.now
    else none

/-- The last instant in a request at which the interlock drops or the vendor accepts an OFF. -/
def requestOffAt (unit : BreakerUnit) (on : Bool) (reply : Reply Unit) (answer : RequestAnswer) : Option Rat :=
  let dropped := if on then none else some unit.now
  match answer.breaker with
  | none => none
  | some .notAsked => dropped
  | some .confirmed => dropped.map fun _ => unit.now + reply.elapsed
  | some .unconfirmed => (unit.await reply).failSafeDrop.or dropped

/-- The instant at which a cycle's flush drops the interlock or has a queued OFF accepted. -/
def flushOffAt (unit : BreakerUnit) (reply : Reply Unit) : Option Rat :=
  match unit.controller.pending with
  | none => none
  | some queued =>
    match reply.result with
    | .ok _ => if queued.1 then none else some (unit.now + reply.elapsed)
    | .error _ => (unit.await reply).failSafeDrop

def sampleOffAt (unit : BreakerUnit) (reply : Reply CircuitStatus) : Option Rat :=
  match reply.result with
  | .ok _ => none
  | .error _ => (unit.await reply).failSafeDrop

def pollOffAt (unit : BreakerUnit) (setReply : Reply Unit) (statusReply : Reply CircuitStatus) : Option Rat :=
  if unit.settings.vendor ≠ .ableedge ∨ unit.controller.client = false then none
  else if (unit.flush setReply).2 then
    ((unit.flush setReply).1.sampleOffAt statusReply).or (unit.flushOffAt setReply)
  else unit.flushOffAt setReply

/-- The last instant in an event at which the interlock drops or the vendor accepts an OFF. -/
def eventOffAt (unit : BreakerUnit) : BreakerEvent → Option Rat
  | .request on source reason reply outcomes =>
    unit.requestOffAt on reply (unit.request on source reason reply outcomes).2
  | .poll setReply statusReply _ outcomes => { unit with outcomes := outcomes }.pollOffAt setReply statusReply
  | .advance _ => none
  | .configure _ => none

/-- A request goes to the vendor. -/
def commands (unit : BreakerUnit) : Prop :=
  unit.settings.vendor ≠ .none ∧ unit.settings.vendor ≠ .relayOnly ∧ unit.controller.client = true

/-- A cycle goes to the vendor. -/
def polls (unit : BreakerUnit) : Prop :=
  unit.settings.vendor = .ableedge ∧ unit.controller.client = true

instance (unit : BreakerUnit) : Decidable unit.commands := inferInstanceAs (Decidable (_ ∧ _))

instance (unit : BreakerUnit) : Decidable unit.polls := inferInstanceAs (Decidable (_ ∧ _))

end BreakerUnit

/-- A controller, and when the interlock last dropped or the vendor last accepted an OFF. -/
structure WatchedUnit where
  unit : BreakerUnit
  offAt : Option Rat

namespace WatchedUnit

def start (settings : BreakerSettings) (client relays : Bool) : WatchedUnit :=
  { unit := { controller := { client := client, relays := relays, unreachableSince := some 0 }, settings := settings }
    offAt := none }

def step (watched : WatchedUnit) (event : BreakerEvent) : Option WatchedUnit :=
  (watched.unit.step event).map fun after => ⟨after, (watched.unit.eventOffAt event).or watched.offAt⟩

/-- The minimum off time stays as it is configured. -/
def keepsMinOff (minOffS : Rat) (_ : WatchedUnit) (event : BreakerEvent) : Prop :=
  ∀ settings ∈ event.settings, settings.minOffS = minOffS

/-- An OFF that the vendor accepts is accepted at the instant from which the guard counts:
an OFF request is answered at once, and a queued OFF is delivered at the instant of the
last OFF request or fail-safe. -/
def punctual (watched : WatchedUnit) : BreakerEvent → Prop
  | .request on _ _ reply _ => on = false → watched.unit.commands → reply.result.isOk = true → reply.elapsed = 0
  | .poll setReply _ _ _ => watched.unit.polls → ∀ queued ∈ watched.unit.controller.pending, queued.1 = false →
      setReply.result.isOk = true → watched.unit.controller.lastOffMono = some (watched.unit.now + setReply.elapsed)
  | .advance _ => True
  | .configure _ => True

/-- Besides, every accepted OFF is accepted at the guard's instant. -/
def keepsPunctual (minOffS : Rat) (watched : WatchedUnit) (event : BreakerEvent) : Prop :=
  keepsMinOff minOffS watched event ∧ punctual watched event

/-- No ON is sent and no coil is energised by an ON request before the minimum off time is over. -/
def Guarded (minOffS : Rat) (watched : WatchedUnit) : Prop :=
  ∀ offAt, watched.offAt = some offAt → ∀ (source : String) (reason : Option String) (reply : Reply Unit)
    (outcomes : List Bool) (after : BreakerUnit) (answer : RequestAnswer),
    watched.unit.request true source reason reply outcomes = (after, answer) →
      (answer.breaker = some .confirmed ∨ answer.breaker = some .unconfirmed →
        minOffS ≤ watched.unit.now - offAt) ∧
      ∀ channel, after.coils channel = true →
        watched.unit.coils channel = true ∨ minOffS ≤ watched.unit.now - offAt

def HasMinOff (minOffS : Rat) (unit : BreakerUnit) : Prop :=
  unit.settings.minOffS = minOffS

/-- What the guard rests on: its instant is not before the last drop or accepted OFF. -/
structure Timed (minOffS : Rat) (watched : WatchedUnit) : Prop where
  minOff : HasMinOff minOffS watched.unit
  covered : ∀ offAt, watched.offAt = some offAt → ∃ last,
    watched.unit.controller.lastOffMono = some last ∧ offAt ≤ last
  past : ∀ last, watched.unit.controller.lastOffMono = some last → last ≤ watched.unit.now

end WatchedUnit

namespace BreakerUnit

/-- Between two units the guard's instant moves forward, and not before `offAt`. -/
structure Advances (before after : BreakerUnit) (offAt : Option Rat) : Prop where
  now : before.now ≤ after.now
  last : after.controller.lastOffMono = before.controller.lastOffMono ∨
    ∃ last, after.controller.lastOffMono = some last ∧ before.now ≤ last ∧ last ≤ after.now
  off : ∀ instant, offAt = some instant → instant ≤ after.now ∧
    ∃ last, after.controller.lastOffMono = some last ∧ instant ≤ last

theorem Advances.trans {first second third : BreakerUnit} {earlier later : Option Rat}
    (before : Advances first second earlier) (after : Advances second third later) :
    Advances first third (later.or earlier) where
  now := before.now.trans after.now
  last := by
    cases after.last with
    | inr set =>
      obtain ⟨last, same, since, ended⟩ := set
      exact .inr ⟨last, same, before.now.trans since, ended⟩
    | inl kept =>
      rw [kept]
      cases before.last with
      | inl same => exact .inl same
      | inr set =>
        obtain ⟨last, same, since, ended⟩ := set
        exact .inr ⟨last, same, since, ended.trans after.now⟩
  off := by
    intro instant seen
    cases late : later with
    | some _ =>
      rw [late, Option.some_or] at seen
      exact after.off instant (late.trans seen)
    | none =>
      rw [late, Option.none_or] at seen
      obtain ⟨past, last, same, covered⟩ := before.off instant seen
      refine ⟨past.trans after.now, ?_⟩
      cases after.last with
      | inl kept => exact ⟨last, kept.trans same, covered⟩
      | inr set =>
        obtain ⟨next, now, since, _⟩ := set
        exact ⟨next, now, past.trans since⟩

section

variable {unit after : BreakerUnit}

/-- Time passes and nothing drops. -/
theorem advances_of_kept (last : after.controller.lastOffMono = unit.controller.lastOffMono)
    (now : unit.now ≤ after.now) : Advances unit after none where
  now := now
  last := .inl last
  off _ seen := by cases seen

/-- The guard's instant is set where something drops. -/
theorem advances_of_set {instant : Rat} (last : after.controller.lastOffMono = some instant)
    (since : unit.now ≤ instant) (ended : instant ≤ after.now) : Advances unit after (some instant) where
  now := since.trans ended
  last := .inr ⟨instant, last, since, ended⟩
  off seen same := by
    cases same
    exact ⟨ended, instant, last, le_rfl⟩

theorem setInterlock_clock (unit : BreakerUnit) (on : Bool) :
    (unit.setInterlock on).1.controller = unit.controller ∧ (unit.setInterlock on).1.now = unit.now ∧
      (unit.setInterlock on).1.settings = unit.settings := by
  obtain ⟨coils, outcomes, same⟩ := unit.setInterlock_frame on
  rw [same]
  exact ⟨rfl, rfl, rfl⟩

theorem markOk_clock (unit : BreakerUnit) :
    unit.markOk.controller.lastOffMono = unit.controller.lastOffMono ∧ unit.markOk.now = unit.now ∧
      unit.markOk.settings = unit.settings := by
  obtain ⟨since, applied, same⟩ := unit.markOk_frame
  rw [same]
  exact ⟨rfl, rfl, rfl⟩

theorem applyFailSafe_clock (unit : BreakerUnit) :
    unit.applyFailSafe.controller.lastOffMono =
        (if unit.settings.failSafe = .off then some unit.now else unit.controller.lastOffMono) ∧
      unit.applyFailSafe.now = unit.now ∧ unit.applyFailSafe.settings = unit.settings := by
  unfold applyFailSafe
  cases mode : unit.settings.failSafe with
  | off =>
    have frame := setInterlock_clock { unit with
      controller := { unit.controller with failSafeApplied := some .off, lastOffMono := some unit.now }
      applications := unit.applications + 1 } false
    exact ⟨congrArg SmartBreakerController.lastOffMono frame.1, frame.2.1, frame.2.2⟩
  | on =>
    have frame := setInterlock_clock { unit with
      controller := { unit.controller with failSafeApplied := some .on }
      applications := unit.applications + 1 } true
    have kept := congrArg SmartBreakerController.lastOffMono frame.1
    rw [if_neg (by decide)]
    exact ⟨kept, frame.2.1, frame.2.2⟩
  | last => exact ⟨rfl, rfl, rfl⟩

theorem markFail_clock (unit : BreakerUnit) (error : String) :
    (unit.markFail error).controller.lastOffMono = unit.failSafeDrop.or unit.controller.lastOffMono ∧
      (unit.markFail error).now = unit.now ∧ (unit.markFail error).settings = unit.settings := by
  unfold markFail evaluateFailSafe failSafeDrop
  dsimp only
  cases unit.controller.failSafeApplied with
  | some mode =>
    rw [if_pos (.inl rfl)]
    exact ⟨rfl, rfl, rfl⟩
  | none =>
    by_cases early : unit.now - unit.controller.unreachableSince.getD unit.now < unit.settings.graceS
    · rw [if_pos (.inr early)]
      dsimp only
      rw [if_pos early]
      exact ⟨rfl, rfl, rfl⟩
    · rw [if_neg (by simp [early])]
      dsimp only
      rw [if_neg early]
      obtain ⟨last, now, settings⟩ := applyFailSafe_clock { unit with
        controller := { unit.controller with
          lastError := some error
          unreachableSince := some (unit.controller.unreachableSince.getD unit.now)
          failSafeApplied := none } }
      refine ⟨last.trans ?_, now, settings⟩
      dsimp only
      split
      next => rfl
      next => rfl

theorem failSafeDrop_eq {instant : Rat} (drops : unit.failSafeDrop = some instant) : instant = unit.now := by
  unfold failSafeDrop at drops
  split at drops
  next => cases drops
  next =>
    split at drops
    next => cases drops
    next =>
      split at drops
      next => exact (Option.some.inj drops).symm
      next => cases drops

theorem advances_markFail (unit : BreakerUnit) (error : String) :
    Advances unit (unit.markFail error) unit.failSafeDrop := by
  obtain ⟨last, now, settings⟩ := unit.markFail_clock error
  cases drops : unit.failSafeDrop with
  | none =>
    rw [drops, Option.none_or] at last
    exact advances_of_kept last now.ge
  | some instant =>
    rw [drops, Option.some_or] at last
    have same := failSafeDrop_eq drops
    exact advances_of_set last same.ge (now.symm ▸ same.le)

theorem advances_await {Value : Type} (unit : BreakerUnit) {reply : Reply Value} (elapsed : 0 ≤ reply.elapsed) :
    Advances unit (unit.await reply) none :=
  advances_of_kept rfl (le_add_of_nonneg_right elapsed)

/-- A vendor call that fails. -/
theorem advances_fails {Value : Type} (unit : BreakerUnit) {reply : Reply Value} (elapsed : 0 ≤ reply.elapsed)
    (error : String) : Advances unit ((unit.await reply).markFail error) (unit.await reply).failSafeDrop := by
  have failed := (unit.advances_await elapsed).trans ((unit.await reply).advances_markFail error)
  rwa [Option.or_none] at failed

theorem markFail_settings {Value : Type} (unit : BreakerUnit) (reply : Reply Value) (error : String) :
    ((unit.await reply).markFail error).settings = reply.settings :=
  ((unit.await reply).markFail_clock error).2.2

theorem advances_requestOff (unit : BreakerUnit) {reply : Reply Unit} (elapsed : 0 ≤ reply.elapsed)
    (marked : unit.controller.lastOffMono = some unit.now) (punctual : reply.result.isOk = true → reply.elapsed = 0)
    (why : String) (answer : RequestAnswer) :
    Advances unit (unit.requestOff why reply answer).1
      (unit.requestOffAt false reply (unit.requestOff why reply answer).2) := by
  obtain ⟨controller, now, settings⟩ := unit.setInterlock_clock false
  have last := (congrArg SmartBreakerController.lastOffMono controller).trans marked
  have waited := le_add_of_nonneg_right (a := unit.now) elapsed
  unfold requestOff requestOffAt
  dsimp only
  cases result : reply.result with
  | ok _ =>
    have answered : reply.elapsed = 0 := punctual (by rw [result]; rfl)
    obtain ⟨kept, passed, _⟩ := markOk_clock ((unit.setInterlock false).1.wantOff.await reply)
    have still : ((unit.setInterlock false).1.wantOff.await reply).markOk.now = unit.now + reply.elapsed :=
      passed.trans (congrArg (· + reply.elapsed) now)
    refine advances_of_set ((kept.trans last).trans ?_) waited still.ge
    rw [answered, add_zero]
  | error error =>
    have dropped : ((unit.setInterlock false).1.wantOff.await reply).failSafeDrop = (unit.await reply).failSafeDrop := by
      unfold failSafeDrop wantOff await
      dsimp only
      rw [controller, now]
    have begins : Advances unit (unit.setInterlock false).1.wantOff (some unit.now) :=
      advances_of_set last le_rfl now.ge
    have failed := begins.trans ((unit.setInterlock false).1.wantOff.advances_fails elapsed error)
    rw [dropped] at failed
    exact ⟨failed.now, failed.last, failed.off⟩

theorem advances_requestOn (unit : BreakerUnit) {reply : Reply Unit} (elapsed : 0 ≤ reply.elapsed) (answer : RequestAnswer) :
    Advances unit (unit.requestOn reply answer).1
      (unit.requestOffAt true reply (unit.requestOn reply answer).2) := by
  unfold requestOn requestOffAt
  dsimp only
  cases result : reply.result with
  | ok _ =>
    obtain ⟨kept, passed, _⟩ := markOk_clock (unit.await reply)
    obtain ⟨controller, now, _⟩ := setInterlock_clock
      { (unit.await reply).markOk.noteAccepted true with
        controller := { ((unit.await reply).markOk.noteAccepted true).controller with
          desired := some true, pending := none } } true
    have last := congrArg SmartBreakerController.lastOffMono controller
    exact advances_of_kept (last.trans kept) ((le_add_of_nonneg_right elapsed).trans (now.trans passed).ge)
  | error error =>
    have failed := unit.advances_fails elapsed error
    rwa [← Option.or_none (o := (unit.await reply).failSafeDrop)] at failed

theorem advances_requestRelayOnly (unit : BreakerUnit) (on : Bool) (marked : on = false → unit.controller.lastOffMono = some unit.now)
    (reply : Reply Unit) (answer : RequestAnswer) (unasked : answer.breaker = none) :
    Advances unit (unit.requestRelayOnly on answer).1
      (unit.requestOffAt on reply (unit.requestRelayOnly on answer).2) := by
  obtain ⟨controller, now, _⟩ := unit.setInterlock_clock on
  have last := congrArg SmartBreakerController.lastOffMono controller
  unfold requestRelayOnly requestOffAt
  split
  next =>
    dsimp only
    rw [unasked]
    exact advances_of_kept rfl le_rfl
  next =>
    dsimp only
    cases on with
    | true => exact advances_of_kept last now.ge
    | false => exact advances_of_set (last.trans (marked rfl)) le_rfl now.ge

/-- A request, if an OFF that is accepted is answered at once. -/
theorem advances_request (unit : BreakerUnit) {on : Bool} (source : String) (reason : Option String)
    {reply : Reply Unit} (outcomes : List Bool) (elapsed : 0 ≤ reply.elapsed)
    (punctual : on = false → unit.commands → reply.result.isOk = true → reply.elapsed = 0) :
    Advances unit (unit.request on source reason reply outcomes).1
      (unit.requestOffAt on reply (unit.request on source reason reply outcomes).2) := by
  unfold request
  dsimp only
  split
  next => exact advances_of_kept rfl le_rfl
  next enabled =>
    split
    next => exact advances_of_kept rfl le_rfl
    next =>
      cases on with
      | true =>
        rw [if_pos rfl]
        split
        next =>
          have switched := advances_requestRelayOnly { unit with outcomes := outcomes } true (fun off => by cases off)
            reply { ok := false, state := true, interlockRelay := unit.settings.interlock } rfl
          exact ⟨switched.now, switched.last, switched.off⟩
        next =>
          split
          next => exact advances_of_kept rfl le_rfl
          next =>
            rw [if_pos rfl]
            have asked := advances_requestOn { unit with outcomes := outcomes } elapsed
              { ok := false, state := true, interlockRelay := unit.settings.interlock }
            exact ⟨asked.now, asked.last, asked.off⟩
      | false =>
        rw [if_neg Bool.false_ne_true]
        have begins : Advances unit (unit.begun outcomes (some unit.now)) none :=
          ⟨le_rfl, .inr ⟨unit.now, rfl, le_rfl, le_rfl⟩, fun _ seen => by cases seen⟩
        split
        next =>
          have switched := begins.trans (advances_requestRelayOnly (unit.begun outcomes (some unit.now)) false
            (fun _ => rfl) reply { ok := false, state := false, interlockRelay := unit.settings.interlock } rfl)
          rwa [Option.or_none] at switched
        next remote =>
          split
          next => exact begins
          next client =>
            have commands : unit.commands := ⟨enabled, remote, Bool.eq_true_of_not_eq_false client⟩
            rw [if_neg Bool.false_ne_true]
            have asked := begins.trans (advances_requestOff (unit.begun outcomes (some unit.now)) elapsed rfl
              (punctual rfl commands) (reason.getD ("WQM-1 " ++ source))
              { ok := false, state := false, interlockRelay := unit.settings.interlock })
            rwa [Option.or_none] at asked

theorem step_forward {event : BreakerEvent} (stepped : unit.step event = some after) :
    match event with
    | .request _ _ _ reply _ => 0 ≤ reply.elapsed
    | .poll setReply statusReply powerReply _ =>
        0 ≤ setReply.elapsed ∧ 0 ≤ statusReply.elapsed ∧ 0 ≤ powerReply.elapsed
    | .advance seconds => 0 ≤ seconds
    | .configure _ => True := by
  unfold step at stepped
  cases event with
  | configure settings => trivial
  | request on source reason reply outcomes =>
    dsimp only at stepped ⊢
    split at stepped
    next elapsed => exact elapsed
    next => cases stepped
  | poll setReply statusReply powerReply outcomes =>
    dsimp only at stepped ⊢
    split at stepped
    next elapsed => exact elapsed
    next => cases stepped
  | advance seconds =>
    dsimp only at stepped ⊢
    split at stepped
    next elapsed => exact elapsed
    next => cases stepped

theorem requestOff_settings (unit : BreakerUnit) (why : String) (reply : Reply Unit) (answer : RequestAnswer) :
    (unit.requestOff why reply answer).1.settings = reply.settings := by
  unfold requestOff
  dsimp only
  cases reply.result with
  | ok _ => exact markOk_settings _
  | error error => exact markFail_settings _ reply error

theorem requestOn_settings (unit : BreakerUnit) (reply : Reply Unit) (answer : RequestAnswer) :
    (unit.requestOn reply answer).1.settings = reply.settings := by
  unfold requestOn
  dsimp only
  cases reply.result with
  | ok _ => exact (setInterlock_clock _ true).2.2.trans (markOk_settings (unit.await reply))
  | error error => exact markFail_settings _ reply error

theorem requestRelayOnly_settings (unit : BreakerUnit) (on : Bool) (answer : RequestAnswer) :
    (unit.requestRelayOnly on answer).1.settings = unit.settings := by
  unfold requestRelayOnly
  split
  next => rfl
  next => exact (unit.setInterlock_clock on).2.2

theorem request_settings (unit : BreakerUnit) (on : Bool) (source : String) (reason : Option String)
    (reply : Reply Unit) (outcomes : List Bool) :
    (unit.request on source reason reply outcomes).1.settings = unit.settings ∨
      (unit.request on source reason reply outcomes).1.settings = reply.settings := by
  unfold request
  dsimp only
  split
  next => exact .inl rfl
  next =>
    split
    next => exact .inl rfl
    next =>
      cases on with
      | true =>
        rw [if_pos rfl]
        split
        next => exact .inl (requestRelayOnly_settings _ true _)
        next =>
          split
          next => exact .inl rfl
          next => exact .inr (requestOn_settings _ reply _)
      | false =>
        rw [if_neg Bool.false_ne_true]
        split
        next => exact .inl (requestRelayOnly_settings _ false _)
        next =>
          split
          next => exact .inl rfl
          next => exact .inr (requestOff_settings _ _ reply _)

/-- A flush, if a queued OFF is delivered at the guard's instant. -/
theorem advances_flush (unit : BreakerUnit) {reply : Reply Unit} (elapsed : 0 ≤ reply.elapsed)
    (punctual : ∀ queued, unit.controller.pending = some queued → queued.1 = false →
      reply.result.isOk = true → unit.controller.lastOffMono = some (unit.now + reply.elapsed)) :
    Advances unit (unit.flush reply).1 (unit.flushOffAt reply) := by
  have waited := le_add_of_nonneg_right (a := unit.now) elapsed
  unfold flush flushOffAt
  cases queued : unit.controller.pending with
  | none => exact advances_of_kept rfl le_rfl
  | some command =>
    dsimp only
    cases result : reply.result with
    | ok _ =>
      obtain ⟨kept, passed, _⟩ := markOk_clock { unit.await reply with
        controller := { (unit.await reply).controller with pending := none } }
      dsimp only
      split
      next => exact advances_of_kept kept (waited.trans passed.ge)
      next off =>
        have marked := punctual command queued (Bool.eq_false_of_not_eq_true off) (by rw [result]; rfl)
        exact advances_of_set (kept.trans marked) waited passed.ge
    | error error => exact unit.advances_fails elapsed error

theorem flush_settings (unit : BreakerUnit) (reply : Reply Unit) :
    (unit.flush reply).1.settings = unit.settings ∨ (unit.flush reply).1.settings = reply.settings := by
  unfold flush
  cases unit.controller.pending with
  | none => exact .inl rfl
  | some command =>
    dsimp only
    cases reply.result with
    | ok _ => exact .inr (markOk_settings _)
    | error error => exact .inr (markFail_settings _ reply error)

theorem advances_sampleStatus (unit : BreakerUnit) {reply : Reply CircuitStatus} (elapsed : 0 ≤ reply.elapsed) :
    Advances unit (unit.sampleStatus reply).1 (unit.sampleOffAt reply) := by
  unfold sampleStatus sampleOffAt
  cases reply.result with
  | ok status =>
    obtain ⟨kept, passed, _⟩ := markOk_clock { unit.await reply with
      controller := { (unit.await reply).controller with lastStatus := some status } }
    exact advances_of_kept kept ((le_add_of_nonneg_right elapsed).trans passed.ge)
  | error error => exact unit.advances_fails elapsed error

theorem sampleStatus_settings (unit : BreakerUnit) (reply : Reply CircuitStatus) :
    (unit.sampleStatus reply).1.settings = reply.settings := by
  unfold sampleStatus
  dsimp only
  cases reply.result with
  | ok status => exact markOk_settings _
  | error error => exact markFail_settings _ reply error

theorem advances_samplePower (unit : BreakerUnit) {reply : Reply PowerReading} (elapsed : 0 ≤ reply.elapsed) :
    Advances unit (unit.samplePower reply) none := by
  unfold samplePower
  dsimp only
  cases reply.result with
  | ok power => exact advances_of_kept rfl (le_add_of_nonneg_right elapsed)
  | error error => exact advances_of_kept rfl (le_add_of_nonneg_right elapsed)

theorem samplePower_settings (unit : BreakerUnit) (reply : Reply PowerReading) :
    (unit.samplePower reply).settings = reply.settings := by
  unfold samplePower
  dsimp only
  cases reply.result with
  | ok power => rfl
  | error error => rfl

theorem advances_poll {setReply : Reply Unit} {statusReply : Reply CircuitStatus} {powerReply : Reply PowerReading}
    (outcomes : List Bool)
    (elapsed : 0 ≤ setReply.elapsed ∧ 0 ≤ statusReply.elapsed ∧ 0 ≤ powerReply.elapsed)
    (punctual : unit.polls → ∀ queued, unit.controller.pending = some queued → queued.1 = false →
      setReply.result.isOk = true → unit.controller.lastOffMono = some (unit.now + setReply.elapsed)) :
    Advances unit (unit.poll setReply statusReply powerReply outcomes)
      ({ unit with outcomes := outcomes }.pollOffAt setReply statusReply) := by
  obtain ⟨setElapsed, statusElapsed, powerElapsed⟩ := elapsed
  have begins : Advances unit { unit with outcomes := outcomes } none := advances_of_kept rfl le_rfl
  unfold poll pollOffAt
  dsimp only
  split
  next => exact begins
  next absent =>
    obtain ⟨vendor, client⟩ := not_or.mp absent
    have polls : unit.polls := ⟨not_not.mp vendor, Bool.eq_true_of_not_eq_false client⟩
    have flushed := begins.trans
      (advances_flush { unit with outcomes := outcomes } setElapsed (punctual polls))
    rw [Option.or_none] at flushed
    split
    next =>
      have sampled := flushed.trans (advances_sampleStatus _ statusElapsed)
      split
      next =>
        have measured := sampled.trans (advances_samplePower _ powerElapsed)
        rwa [Option.none_or] at measured
      next => exact sampled
    next => exact flushed

end

end BreakerUnit

namespace WatchedUnit

open BreakerUnit

variable {minOffS : Rat} {watched after : WatchedUnit}

theorem Timed.advances (timed : Timed minOffS watched) {unit : BreakerUnit} {offAt : Option Rat}
    (advances : Advances watched.unit unit offAt) (minOff : unit.settings.minOffS = minOffS) :
    Timed minOffS ⟨unit, offAt.or watched.offAt⟩ where
  minOff := minOff
  covered := by
    intro instant seen
    have earlier : Advances watched.unit watched.unit watched.offAt :=
      ⟨le_rfl, .inl rfl, fun instant seen => by
        obtain ⟨last, same, covered⟩ := timed.covered instant seen
        exact ⟨covered.trans (timed.past last same), last, same, covered⟩⟩
    exact ((earlier.trans advances).off instant seen).2
  past := by
    intro last same
    cases advances.last with
    | inl kept => exact (timed.past last (kept.symm.trans same)).trans advances.now
    | inr set =>
      obtain ⟨instant, marked, _, ended⟩ := set
      cases marked.symm.trans same
      exact ended

/-- The settings that the vendor calls of a cycle come back to are among the event's. -/
theorem minOff_poll {unit : BreakerUnit} {setReply : Reply Unit} {statusReply : Reply CircuitStatus}
    {powerReply : Reply PowerReading} {outcomes : List Bool} (minOff : HasMinOff minOffS unit)
    (configured : keepsMinOff minOffS watched (.poll setReply statusReply powerReply outcomes)) :
    HasMinOff minOffS (unit.poll setReply statusReply powerReply outcomes) := by
  apply poll_keeps
  · exact minOff
  · intro unit held
    cases unit.flush_settings setReply with
    | inl same => exact (congrArg _ same).trans held
    | inr brought => exact (congrArg _ brought).trans (configured _ (by simp [BreakerEvent.settings]))
  · intro unit _
    exact (congrArg _ (unit.sampleStatus_settings statusReply)).trans
      (configured _ (by simp [BreakerEvent.settings]))
  · intro unit _
    exact (congrArg _ (unit.samplePower_settings powerReply)).trans
      (configured _ (by simp [BreakerEvent.settings]))

theorem Timed.step {event : BreakerEvent} (timed : Timed minOffS watched)
    (permitted : keepsPunctual minOffS watched event) (stepped : watched.step event = some after) :
    Timed minOffS after := by
  obtain ⟨configured, punctual⟩ := permitted
  obtain ⟨unit, happened, rfl⟩ := Option.map_eq_some_iff.mp stepped
  cases event with
  | request on source reason reply outcomes =>
    have elapsed : 0 ≤ reply.elapsed := step_forward happened
    cases step_request happened
    apply timed.advances (watched.unit.advances_request source reason outcomes elapsed punctual)
    cases watched.unit.request_settings on source reason reply outcomes with
    | inl kept => exact (congrArg _ kept).trans timed.minOff
    | inr brought => exact (congrArg _ brought).trans (configured _ List.mem_cons_self)
  | poll setReply statusReply powerReply outcomes =>
    have elapsed : 0 ≤ setReply.elapsed ∧ 0 ≤ statusReply.elapsed ∧ 0 ≤ powerReply.elapsed := step_forward happened
    cases step_poll happened
    exact timed.advances (advances_poll outcomes elapsed punctual) (minOff_poll timed.minOff configured)
  | advance seconds =>
    have elapsed : 0 ≤ seconds := step_forward happened
    cases step_advance happened
    exact timed.advances (advances_of_kept rfl (le_add_of_nonneg_right elapsed)) timed.minOff
  | configure settings =>
    cases happened
    exact timed.advances (advances_of_kept rfl le_rfl) (configured _ List.mem_cons_self)

/-- The guard passes only when the minimum off time is over. -/
theorem Timed.passes (timed : Timed minOffS watched) (positive : 0 < minOffS) {offAt : Rat}
    (seen : watched.offAt = some offAt) (passes : ¬ 0 < watched.unit.shortCycleRemainingS) :
    minOffS ≤ watched.unit.now - offAt := by
  obtain ⟨last, same, covered⟩ := timed.covered offAt seen
  unfold shortCycleRemainingS at passes
  have minOff : watched.unit.settings.minOffS = minOffS := timed.minOff
  rw [same, minOff] at passes
  dsimp only at passes
  rw [if_neg (not_le.mpr positive)] at passes
  have waited : minOffS - (watched.unit.now - last) ≤ 0 := (le_max_right _ _).trans (not_lt.mp passes)
  exact (sub_nonpos.mp waited).trans (sub_le_sub_left covered watched.unit.now)

theorem guarded_of_timed (timed : Timed minOffS watched) (positive : 0 < minOffS) : Guarded minOffS watched := by
  intro offAt seen source reason reply outcomes after answer returns
  by_cases passes : 0 < watched.unit.shortCycleRemainingS
  · unfold request at returns
    dsimp only at returns
    have refused : (after.coils, answer.breaker) = (watched.unit.coils, none) := by
      split at returns
      next =>
        cases returns
        rfl
      next =>
        rw [if_pos ⟨rfl, passes⟩] at returns
        cases returns
        rfl
    obtain ⟨coils, breaker⟩ := Prod.mk.inj refused
    rw [coils, breaker]
    exact ⟨fun asked => by simp at asked, fun channel energised => .inl energised⟩
  · have waited := timed.passes positive seen passes
    exact ⟨fun _ => waited, fun _ _ => .inr waited⟩

/-- In a run in which every OFF that the vendor accepts is accepted at the instant from
which the guard counts, no ON command is sent and no coil is energised by an ON request
before the minimum off time since the last accepted OFF or interlock drop is over. -/
theorem short_cycle_guard {minOffS : Rat} (positive : 0 < minOffS) {settings : BreakerSettings}
    (configured : settings.minOffS = minOffS) (client relays : Bool) {watched : WatchedUnit}
    (run : Events.Reaches step (keepsPunctual minOffS) (start settings client relays) watched) :
    Guarded minOffS watched := by
  have timed : Timed minOffS watched := by
    apply run.invariant
    · exact ⟨configured, (fun _ seen => by cases seen), (fun _ seen => by cases seen)⟩
    · intro before event after _ permitted stepped timed
      exact timed.step permitted stepped
  exact guarded_of_timed timed positive

instance (minOffS : Rat) (watched : WatchedUnit) (event : BreakerEvent) :
    Decidable (keepsMinOff minOffS watched event) :=
  inferInstanceAs (Decidable (∀ _ ∈ _, _))

instance (watched : WatchedUnit) : (event : BreakerEvent) → Decidable (punctual watched event)
  | .request on _ _ reply _ =>
    inferInstanceAs (Decidable (on = false → watched.unit.commands → reply.result.isOk = true → reply.elapsed = 0))
  | .poll setReply _ _ _ =>
    inferInstanceAs (Decidable (watched.unit.polls → ∀ queued ∈ watched.unit.controller.pending, queued.1 = false →
      setReply.result.isOk = true → watched.unit.controller.lastOffMono = some (watched.unit.now + setReply.elapsed)))
  | .advance _ => inferInstanceAs (Decidable True)
  | .configure _ => inferInstanceAs (Decidable True)

instance (minOffS : Rat) (watched : WatchedUnit) (event : BreakerEvent) :
    Decidable (keepsPunctual minOffS watched event) :=
  inferInstanceAs (Decidable (_ ∧ _))

/-- A circuit with a compressor. -/
def compressor : BreakerSettings := ⟨.ableedge, .off, 300, 120, 3⟩

theorem short_cycle_guard_compressor :
    ∃ watched : WatchedUnit, watched.offAt = some 0 ∧ watched.unit.now = 60 ∧ Guarded 120 watched := by
  have played : ((Events.play step (keepsPunctual 120) (start compressor true true)
      [.request false "local" none ⟨.ok (), compressor, 0⟩ [], .advance 60]).map fun watched =>
        (watched.offAt, watched.unit.now)) = some (some 0, 60) := by
    decide +kernel
  obtain ⟨watched, run, seen⟩ := Option.map_eq_some_iff.mp played
  obtain ⟨offAt, now⟩ := Prod.mk.inj seen
  have positive : (0 : Rat) < 120 := by decide +kernel
  exact ⟨watched, offAt, now, short_cycle_guard positive rfl true true (Events.reaches_play run)⟩

/-- A queued OFF is delivered when the minimum off time since its request is over, and an
ON request right after it is sent. -/
theorem queued_off_unguarded :
    ¬ ∀ (minOffS : Rat) (settings : BreakerSettings) (client relays : Bool) (watched : WatchedUnit),
      0 < minOffS → settings.minOffS = minOffS →
        Events.Reaches step (keepsMinOff minOffS) (start settings client relays) watched →
          Guarded minOffS watched := by
  intro claimed
  have played : ((Events.play step (keepsMinOff 120) (start compressor true true)
      [.request false "local" none ⟨.error "timeout", compressor, 0⟩ [], .advance 120,
        .poll ⟨.ok (), compressor, 0⟩ ⟨.ok ⟨some false, some true, some "open"⟩, compressor, 0⟩
          ⟨.ok ⟨none, none, none⟩, compressor, 0⟩ []]).map fun watched =>
        (watched.offAt, watched.unit.now,
          (watched.unit.request true "local" none ⟨.ok (), compressor, 0⟩ []).2.breaker)) =
      some (some 120, 120, some .confirmed) := by
    decide +kernel
  obtain ⟨watched, run, seen⟩ := Option.map_eq_some_iff.mp played
  simp only [Prod.mk.injEq] at seen
  obtain ⟨offAt, now, sent⟩ := seen
  have guarded := claimed 120 compressor true true watched (by decide +kernel) rfl (Events.reaches_play run)
  have waited := (guarded 120 offAt "local" none ⟨.ok (), compressor, 0⟩ [] _ _ rfl).1 (.inl sent)
  rw [now] at waited
  exact absurd waited (by decide +kernel)

end WatchedUnit

end Wqm1.Breaker
