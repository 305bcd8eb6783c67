import Mathlib.Tactic.Linarith
import Wqm1.Cloud.Registration

/-! Registration over time: the worker sleeps no longer than it has to, and what it signs follows the
cloud's clock. -/

set_option autoImplicit false

namespace Wqm1.Cloud.Registration

open Wqm1.Library Wqm1.Library.Events
open Wqm1.Cloud.HttpKey (RegisterStatus KeyStore)

section Wakes

variable {unit after : RegisterUnit} {event : Event} {wall : Rat} {due : Int}

/-- The document as `load_register_state` reads it. -/
def RegisterState.document (state : RegisterState) : App.RegisterState :=
  ⟨.text (statusText state.status), .integer state.backoffS, .integer state.nextAttemptUnix⟩

/-- No attempt is put off by more than an hour. -/
structure Soon (unit : RegisterUnit) : Prop where
  wall : 0 ≤ unit.wall
  since : 0 ≤ unit.state.nextAttemptUnix
  due : unit.state.nextAttemptUnix ≤ int unit.wall + 3600
  backoff : 5 ≤ unit.state.backoffS ∧ unit.state.backoffS ≤ 3600

theorem int_mono {earlier later : Rat} (order : earlier ≤ later) : int earlier ≤ int later :=
  Int.floor_le_floor order

theorem Soon.later (soon : Soon unit) {now : Rat} (later : unit.wall ≤ now) :
    Soon { unit with wall := now } where
  wall := soon.wall.trans later
  since := soon.since
  due := soon.due.trans (Int.add_le_add_right (int_mono later) _)
  backoff := soon.backoff

theorem soon_send (soon : Soon unit) (byWorker : Bool) {took : Rat} (later : 0 ≤ took)
    (ntpSynced : Bool)
    (answer : Option Answer) : Soon (unit.send byWorker took ntpSynced answer) := by
  have now : unit.wall ≤ unit.wall + took := le_add_of_nonneg_right later
  cases answer with
  | none =>
    have moved := soon.later now
    exact ⟨moved.wall, moved.since, moved.due, moved.backoff⟩
  | some answer =>
    have spec := answered_spec unit.state (unit.wall + took) ntpSynced answer
    have wall := soon.wall.trans now
    exact ⟨wall, (int_nonneg wall).trans spec.scheduled, spec.bounded, spec.backoff⟩

theorem soon_scheduled {state : RegisterState} {now : Rat} {attempts : Nat} {http : Int}
    {code error key : String}
    {history : List Entry} (later : 0 ≤ now) :
    Soon ⟨dueState state now .pending attempts http code error (backoffFor 1), key, now, history⟩ where
  wall := later
  since := Int.add_nonneg (int_nonneg later) (Int.natCast_nonneg _)
  due := by
    show int now + (5 : Nat) ≤ int now + 3600
    omega
  backoff := backoffFor_bounds 1

theorem soon_moved (soon : Soon unit) (forward : Forward unit event)
    (moved : Moved unit event after) : Soon after := by
  induction moved with
  | still => exact soon
  | sent later => exact soon_send soon _ later _ _
  | clock _ moved => exact soon.later (moved forward)
  | raised _ _ soon => exact soon_scheduled soon.wall
  | revoked => exact soon_scheduled soon.wall

theorem soon_run (later : 0 ≤ wall) (run : Reaches step Forward (initial wall) unit) :
    Soon unit := by
  refine run.invariant ⟨later, le_refl _, ?_, (by decide : 5 ≤ 5 ∧ 5 ≤ 3600)⟩ fun _ _ _ _ forward stepped soon =>
    soon_moved soon forward (moved_step stepped)
  show (0 : Int) ≤ int wall + 3600
  have since := int_nonneg later
  omega

/-- A number of seconds that the clock can show is read back as it was written. -/
theorem float_integer {floatOfText : String → Option Double} {value default : Int}
    (exact : value.natAbs < 2 ^ 53) (falsy : value = 0 → default = 0) :
    ((App.Json.integer value).orElse (.integer default)).float floatOfText = some (.finite value) := by
  have fits : Double.ofInt value = some (.finite value) := by
    cases converted : Double.ofInt value with
    | none =>
      have huge := (Double.ofInt_eq_none_iff value).mp converted
      have large := Double.large_of_overflow huge
      omega
    | some double =>
      obtain ⟨rounded, rfl, same, -⟩ := Double.ofInt_eq_some converted
      rw [same exact]
  unfold App.Json.orElse
  split
  next => exact fits
  next untrue =>
    have zero : value = 0 := by simpa [App.Json.truthy] using untrue
    rw [falsy zero, ← zero]
    exact fits

theorem registerIntervalS_open {floatOfText : String → Option Double} (soon : Soon unit)
    (unsettled : unit.settled = false) (dated : unit.wall + 3600 < 2 ^ 53) :
    App.registerIntervalS floatOfText unit.state.document unit.httpKey unit.wall =
      some (App.retryIntervalS (.finite unit.state.backoffS) (.finite unit.state.nextAttemptUnix) unit.wall) := by
  have waits := not_or.mp (mt settled_iff.mpr (Bool.eq_false_iff.mp unsettled))
  have disputed : App.Json.text (statusText unit.state.status) ≠ .text "conflict" := by
    intro same
    cases status : unit.state.status <;> rw [status] at same waits
    case conflict => exact waits.1 rfl
    all_goals exact absurd same (by decide)
  have registered :
      ¬(App.Json.text (statusText unit.state.status) = .text "registered" ∧ unit.httpKey ≠ "") := by
    rintro ⟨same, key⟩
    cases status : unit.state.status <;> rw [status] at same waits
    case registered => exact waits.2 ⟨rfl, key⟩
    all_goals exact absurd same (by decide)
  have small : unit.state.nextAttemptUnix.natAbs < 2 ^ 53 := by
    have floor := Int.floor_le unit.wall
    have below : (unit.state.nextAttemptUnix : Rat) < ((2 ^ 53 : Int) : Rat) := by
      have due : (unit.state.nextAttemptUnix : Rat) ≤ (⌊unit.wall⌋ : Int) + 3600 := by exact_mod_cast soon.due
      push_cast
      linarith
    have less : unit.state.nextAttemptUnix < 2 ^ 53 := Int.cast_lt.mp below
    have since := soon.since
    omega
  have due : ((App.Json.integer unit.state.nextAttemptUnix).orElse (.integer 0)).float floatOfText =
      some (.finite unit.state.nextAttemptUnix) := float_integer small fun _ => rfl
  have delay : ((App.Json.integer unit.state.backoffS).orElse (.integer 5)).float floatOfText =
      some (.finite (unit.state.backoffS : Int)) := by
    have bound := soon.backoff
    exact float_integer (by omega) fun zero => by omega
  unfold App.registerIntervalS RegisterState.document
  rw [if_neg disputed, if_neg registered, delay, due]
  rfl

/-- The worker's cadence is an hour at most. A step once it has passed sends a request, unless it raises
before; and an answer with a key that can be stored leaves the unit registered with it. -/
def AsksInTime (floatOfText : String → Option Double) (unit : RegisterUnit) : Prop :=
  ∃ seconds, App.registerIntervalS floatOfText unit.state.document unit.httpKey unit.wall = some seconds ∧
    0 < seconds ∧ seconds ≤ 3600 ∧ ∀ slept took ntpSynced outcome, seconds ≤ slept → 0 ≤ took →
      ∃ awake after, step unit (.pass slept) = some awake ∧
        step awake (.work took ntpSynced outcome) = some after ∧
        ((∀ error, outcome ≠ .unsent error) → ∃ post, after.history = .posted post :: unit.history) ∧
        ∀ answer, outcome = .answer answer → answer.registers = true →
          answer.apiKey.toList.all ascii = true →
          after.state.status = .registered ∧ after.httpKey = answer.apiKey

theorem retryIntervalS_bounds {delay due wall : Rat} (soon : due ≤ wall + 3600) :
    0 < App.retryIntervalS (.finite delay) (.finite due) wall ∧
      App.retryIntervalS (.finite delay) (.finite due) wall ≤ 3600 ∧
      due ≤ wall + App.retryIntervalS (.finite delay) (.finite due) wall := by
  unfold App.retryIntervalS App.delayS App.stopBackoffS
  dsimp only
  split
  next ahead =>
    rw [min_eq_left (by linarith)]
    exact ⟨ahead, by linarith, by linarith⟩
  next passed =>
    have positive : (0 : Rat) < max 1 (min delay 3600) := lt_max_of_lt_left one_pos
    exact ⟨positive, max_le (by norm_num) (min_le_right _ _), by linarith⟩

/-- The worker never oversleeps, whatever the unit has been through, as long as its clock is not set back
and shows a number of seconds that a float holds. -/
theorem worker_asks_in_time (floatOfText : String → Option Double) (later : 0 ≤ wall)
    (run : Reaches step Forward (initial wall) unit) (owes : owed unit.history = some due)
    (dated : unit.wall + 3600 < 2 ^ 53) : AsksInTime floatOfText unit := by
  have agrees := agrees_run later run
  have soon := soon_run later run
  have unsettled : unit.settled = false := by rw [agrees.settled, owes]; rfl
  have bound : (unit.state.nextAttemptUnix : Rat) ≤ unit.wall + 3600 := by
    have floor := Int.floor_le unit.wall
    have due : (unit.state.nextAttemptUnix : Rat) ≤ (⌊unit.wall⌋ : Int) + 3600 := by exact_mod_cast soon.due
    linarith
  obtain ⟨positive, hour, reaches⟩ := retryIntervalS_bounds bound
  refine ⟨_, registerIntervalS_open soon unsettled dated, positive, hour, fun slept took ntpSynced outcome whole forward => ?_⟩
  have asleep : ¬({ unit with wall := unit.wall + slept } : RegisterUnit).settled = true :=
    fun settled =>
    absurd (show unit.settled = true from settled) (Bool.eq_false_iff.mp unsettled)
  have worked :
      ({ unit with wall := unit.wall + slept } : RegisterUnit).work took ntpSynced outcome =
      (({ unit with wall := unit.wall + slept } : RegisterUnit).attempt true took ntpSynced outcome).1 := by
    unfold RegisterUnit.work
    rw [if_neg asleep, if_neg fun early => ?_]
    exact absurd (reaches.trans (add_le_add_right whole _)) (not_le.mpr early.2)
  refine ⟨{ unit with wall := unit.wall + slept }, RegisterUnit.work _ took ntpSynced outcome,
    if_pos (positive.le.trans whole), if_pos forward, ?_⟩
  rw [worked]
  unfold RegisterUnit.attempt
  rw [if_neg asleep]
  constructor
  · intro sends
    cases outcome with
    | answer answer =>
      dsimp only
      split
      next => exact ⟨_, rfl⟩
      next => exact ⟨_, rfl⟩
    | unread error => exact ⟨_, rfl⟩
    | unsent error => exact absurd rfl (sends error)
  · intro answer same registers storable
    subst same
    dsimp only
    rw [registers, storable]
    exact ⟨(answered_spec _ _ ntpSynced answer).taken registers, if_pos registers⟩

theorem worker_asks_in_time_firstHour :
    ∃ unit, play step Forward (initial 1000) firstHour = some unit ∧
    AsksInTime (fun _ => none) unit := by
  have plays : (play step Forward (initial 1000) firstHour).any
      (fun unit => owed unit.history = some 1054 ∧ unit.wall + 3600 < 2 ^ 53) = true := by decide +kernel
  obtain ⟨unit, played, ends⟩ := (Option.any_eq_true _ _).mp plays
  obtain ⟨owes, dated⟩ := of_decide_eq_true ends
  exact ⟨unit, played, worker_asks_in_time _ (by decide) (reaches_play played) owes dated⟩

end Wakes

section Timestamps

variable {unit after : RegisterUnit} {event : Event} {wall : Rat} {history : List Entry}

structure Told where
  serverMs : Int
  moment : Rat
  replayed : Bool
deriving DecidableEq

def Told.least (told : Told) : Int := told.serverMs + if told.replayed then 1 else 0

def Post.told (post : Post) : Option Told :=
  post.answer.bind fun answer =>
    if answer.refusesClock then
      answer.serverMs.map fun serverMs => ⟨serverMs, post.ended, answer.code = "replayed_ts"⟩
    else none

def lastTold : List Entry → Option Told
  | [] => none
  | .posted post :: earlier => post.told.or (lastTold earlier)
  | .raised _ :: earlier | .revoked _ :: earlier => lastTold earlier

def Told.offset (told : Told) : Int := told.least - milliseconds told.moment

/-- Every timestamp after the cloud has told its time is that time with what has gone by since. -/
def FollowsCloud : List Entry → Prop
  | [] => True
  | .posted post :: earlier =>
    (∀ told, lastTold earlier = some told → told.least ≤ post.ts ∧
      post.ts = told.least + (milliseconds post.began - milliseconds told.moment)) ∧ FollowsCloud earlier
  | .raised _ :: earlier | .revoked _ :: earlier => FollowsCloud earlier

structure Timed (unit : RegisterUnit) : Prop where
  offset : unit.state.tsOffsetMs = (lastTold unit.history).elim 0 Told.offset
  past : ∀ told, lastTold unit.history = some told → told.moment ≤ unit.wall
  follows : FollowsCloud unit.history

theorem Timed.later (timed : Timed unit) {now : Rat} (later : unit.wall ≤ now) :
    Timed { unit with wall := now } where
  offset := timed.offset
  past told known := (timed.past told known).trans later
  follows := timed.follows

theorem milliseconds_mono {earlier later : Rat} (order : earlier ≤ later) :
    milliseconds earlier ≤ milliseconds later :=
  int_mono (mul_le_mul_of_nonneg_right order (by norm_num))

theorem timed_send (timed : Timed unit) (byWorker : Bool) {took : Rat} (later : 0 ≤ took)
    (ntpSynced : Bool)
    (answer : Option Answer) : Timed (unit.send byWorker took ntpSynced answer) := by
  have now : unit.wall ≤ unit.wall + took := le_add_of_nonneg_right later
  constructor
  case offset =>
    show RegisterState.tsOffsetMs _ = ((Post.told _).or (lastTold unit.history)).elim 0 Told.offset
    unfold RegisterUnit.send Post.told
    cases answer with
    | none => exact timed.offset
    | some answer =>
      have spec := answered_spec unit.state (unit.wall + took) ntpSynced answer
      simp only [Option.elim_some, Option.bind_some]
      rw [spec.offset, timed.offset]
      cases refused : answer.refusesClock with
      | false => rfl
      | true =>
        cases told : answer.serverMs with
        | none => rfl
        | some serverMs =>
          simp only [Told.offset, Told.least, Option.map_some, Option.some_or, Option.elim_some, ↓reduceIte,
            decide_eq_true_eq]
          omega
  case past =>
    intro told (known : (Post.told _).or (lastTold unit.history) = some told)
    rcases Option.or_eq_some_iff.mp known with new | ⟨-, old⟩
    · obtain ⟨answer, -, refused⟩ := Option.bind_eq_some_iff.mp new
      obtain ⟨-, same⟩ := Option.ite_none_right_eq_some.mp refused
      obtain ⟨serverMs, -, rfl⟩ := Option.map_eq_some_iff.mp same
      exact le_refl _
    · exact (timed.past told old).trans now
  case follows =>
    refine ⟨fun told known => ?_, timed.follows⟩
    have order := milliseconds_mono (timed.past told known)
    have offset := timed.offset
    rw [known, Option.elim_some, Told.offset] at offset
    dsimp only
    omega

theorem timed_moved (timed : Timed unit) (forward : Forward unit event)
    (moved : Moved unit event after) :
    Timed after := by
  induction moved with
  | still => exact timed
  | sent later => exact timed_send timed _ later _ _
  | clock _ moved => exact timed.later (moved forward)
  | raised _ _ timed => exact ⟨timed.offset, timed.past, timed.follows⟩
  | revoked => exact ⟨timed.offset, timed.past, timed.follows⟩

/-- However wrong the clock of the unit is: once the cloud has told its time, every request is signed with
that time and what has gone by since, so that none is older than what the cloud has said. -/
theorem timestamps_follow_cloud (run : Reaches step Forward (initial wall) unit) :
    FollowsCloud unit.history := by
  have timed : Timed unit :=
    run.invariant ⟨rfl, nofun, trivial⟩ fun _ _ _ _ forward stepped timed =>
    timed_moved timed forward (moved_step stepped)
  exact timed.follows

theorem timestamps_follow_cloud_firstHour :
    ∃ unit, play step Forward (initial 1000) firstHour = some unit ∧
    lastTold unit.history = some ⟨1790000000000, 1012, false⟩ ∧ FollowsCloud unit.history := by
  have plays : (play step Forward (initial 1000) firstHour).any
      (fun unit => lastTold unit.history = some ⟨1790000000000, 1012, false⟩) = true := by decide +kernel
  obtain ⟨unit, played, told⟩ := (Option.any_eq_true _ _).mp plays
  exact ⟨unit, played, of_decide_eq_true told, timestamps_follow_cloud (reaches_play played)⟩

end Timestamps

end Wqm1.Cloud.Registration
