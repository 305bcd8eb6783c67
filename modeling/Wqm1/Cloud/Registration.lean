import Mathlib.Algebra.Order.Floor.Ring
import Mathlib.Data.Rat.Floor
import Wqm1.App.Workers
import Wqm1.Cloud.KeyRevocation
import Wqm1.Library.Events

/-! Registration with the cloud: what a unit makes of each answer, when it asks again and which
timestamps it signs. -/

set_option autoImplicit false

namespace Wqm1.Cloud.Registration

open Wqm1.Library.Events
open Wqm1.Cloud.HttpKey (RegisterStatus KeyStore)

def statusText : RegisterStatus → String
  | .pending => "pending"
  | .registered => "registered"
  | .conflict => "conflict"
  | .error => "error"

/-- The registration document as the unit itself writes it. -/
structure RegisterState where
  status : RegisterStatus := .pending
  attempts : Nat := 0
  backoffS : Nat := 5
  nextAttemptUnix : Int := 0
  lastHttp : Int := 0
  lastCode : String := ""
  lastError : String := ""
  tsOffsetMs : Int := 0
deriving DecidableEq

/-- What `_post_register` brings back, as `_error_code`, `_extract_api_key` and
`_extract_server_time_ms` read it. -/
structure Answer where
  http : Int
  code : String := ""
  apiKey : String := ""
  serverMs : Option Int := none
deriving DecidableEq

def backoffTable : List Nat := [5, 15, 30, 60, 300, 900, 3600]
def stopBackoffS : Nat := 3600
def staleWithoutNtpS : Nat := 60

def backoffFor (attempts : Nat) : Nat := backoffTable.getD (min (attempts - 1) (backoffTable.length - 1)) 0

/-- `int` of a time since 1970. -/
def int (seconds : Rat) : Int := ⌊seconds⌋

def milliseconds (seconds : Rat) : Int := int (seconds * 1000)

def clip (error : String) : String := String.ofList (error.toList.take 200)

def orElse (text default : String) : String := if text = "" then default else text

def dueState (state : RegisterState) (now : Rat) (status : RegisterStatus) (attempts : Nat) (http : Int)
    (code error : String) (delay : Nat) : RegisterState :=
  { state with
    status := status
    attempts := attempts
    backoffS := delay
    nextAttemptUnix := int now + delay
    lastHttp := http
    lastCode := code
    lastError := clip error }

def handleClockReject (state : RegisterState) (now : Rat) (ntpSynced : Bool) (answer : Answer) (attempts : Nat) :
    RegisterState :=
  let rejected := dueState state now .pending attempts answer.http answer.code answer.code
  match answer.serverMs with
  | some serverMs =>
    { rejected (backoffFor 1) with
      tsOffsetMs := serverMs - milliseconds now + if answer.code = "replayed_ts" then 1 else 0 }
  | none => rejected (if ntpSynced then backoffFor 1 else max (backoffFor attempts) staleWithoutNtpS)

/-- The part of `attempt_register` that follows the answer. -/
def answered (state : RegisterState) (now : Rat) (ntpSynced : Bool) (answer : Answer) : RegisterState :=
  let attempts := state.attempts + 1
  let due := fun status => dueState state now status attempts
  if answer.http = 200 then
    if answer.apiKey = "" then
      due .error answer.http "missing_api_key" "register succeeded but no api_key in the body" (backoffFor attempts)
    else
      { state with
        status := .registered
        attempts := 0
        backoffS := stopBackoffS
        nextAttemptUnix := int now + stopBackoffS
        lastHttp := answer.http
        lastCode := ""
        lastError := "" }
  else if answer.http = 409 ∨ answer.code = "pk_conflict" then
    { state with
      status := .conflict
      attempts := attempts
      backoffS := stopBackoffS
      nextAttemptUnix := int now + stopBackoffS
      lastHttp := if answer.http = 0 then 409 else answer.http
      lastCode := orElse answer.code "pk_conflict"
      lastError := "pk_conflict" }
  else if answer.http = 401 ∧ (answer.code = "stale_ts" ∨ answer.code = "replayed_ts") then
    handleClockReject state now ntpSynced answer attempts
  else if answer.http = 401 ∧ answer.code = "bad_sig" then
    due .error answer.http answer.code "bad_sig" stopBackoffS
  else if answer.http = 429 ∨ 500 ≤ answer.http ∨ answer.http = 0 then
    due .pending answer.http (orElse answer.code (if answer.http = 0 then "offline" else ""))
      (orElse answer.code "offline") (backoffFor attempts)
  else if answer.http = 202 ∨ answer.code = "pending_identity" then
    due .pending (if answer.http = 0 then 202 else answer.http) (orElse answer.code "pending_identity")
      "pending_identity" (backoffFor attempts)
  else
    due .error answer.http answer.code (orElse answer.code ("http_" ++ toString answer.http)) (backoffFor attempts)

def Answer.registers (answer : Answer) : Bool := answer.http = 200 && answer.apiKey ≠ ""

def ascii (c : Char) : Bool := c.toNat < 128

/-- A character as an encoding error shows it. -/
def escaped (c : Char) : String :=
  let digits := Nat.toDigits 16 c.toNat
  let padded := fun size => String.ofList (List.replicate (size - digits.length) '0' ++ digits)
  if c.toNat < 0x100 then "\\x" ++ padded 2
  else if c.toNat < 0x10000 then "\\u" ++ padded 4
  else "\\U" ++ padded 8

/-- What `store_http_key` raises on a key that is not ASCII: the first run of characters that are not. -/
def encodeError (key : String) : String :=
  let start := (key.toList.takeWhile ascii).length
  let refused := (key.toList.drop start).takeWhile fun c => !ascii c
  let which := match refused with
    | [c] => "character '" ++ escaped c ++ "' in position " ++ toString start
    | _ => "characters in position " ++ toString start ++ "-" ++ toString (start + refused.length - 1)
  "'ascii' codec can't encode " ++ which ++ ": ordinal not in range(128)"

/-- What becomes of a request: an answer that can be read, or an exception, raised while what came
back is read or before anything is sent. -/
inductive Outcome where
  | answer (answer : Answer)
  | unread (error : String)
  | unsent (error : String)
deriving DecidableEq

section Runs

/-- The answer is missing where the attempt raises after the request was sent. -/
structure Post where
  byWorker : Bool
  began : Rat
  ended : Rat
  ntpSynced : Bool
  ts : Int
  answer : Option Answer
deriving DecidableEq

inductive Entry where
  | posted (post : Post)
  | raised (moment : Rat)
  | revoked (moment : Rat)
deriving DecidableEq

structure RegisterUnit where
  state : RegisterState := {}
  httpKey : String := ""
  wall : Rat
  /-- The latest entry comes first. -/
  history : List Entry := []
deriving DecidableEq

namespace RegisterUnit

/-- No request is sent: a person has to look, or there is nothing to ask for. -/
def settled (unit : RegisterUnit) : Bool :=
  !KeyStore.mayRegister { keys := fun _ => unit.httpKey, status := unit.state.status } false

/-- A request that is sent; an answer that cannot be read changes nothing. -/
def send (unit : RegisterUnit) (byWorker : Bool) (took : Rat) (ntpSynced : Bool) (answer : Option Answer) :
    RegisterUnit where
  state := answer.elim unit.state (answered unit.state (unit.wall + took) ntpSynced)
  httpKey := if answer.any Answer.registers then answer.elim "" Answer.apiKey else unit.httpKey
  wall := unit.wall + took
  history := .posted ⟨byWorker, unit.wall, unit.wall + took, ntpSynced,
    milliseconds unit.wall + unit.state.tsOffsetMs, answer⟩ :: unit.history

/-- `attempt_register`, and what it raises. -/
def attempt (unit : RegisterUnit) (byWorker : Bool) (took : Rat) (ntpSynced : Bool) (outcome : Outcome) :
    RegisterUnit × Option String :=
  if unit.settled then (unit, none)
  else
    match outcome with
    | .answer answer =>
      if answer.registers && !answer.apiKey.toList.all ascii then
        (unit.send byWorker took ntpSynced none, some (encodeError answer.apiKey))
      else (unit.send byWorker took ntpSynced (some answer), none)
    | .unread error => (unit.send byWorker took ntpSynced none, some error)
    | .unsent error => ({ unit with wall := unit.wall + took }, some error)

/-- `DeviceRegisterWorker.step`. -/
def work (unit : RegisterUnit) (took : Rat) (ntpSynced : Bool) (outcome : Outcome) : RegisterUnit :=
  if unit.settled then unit
  else if unit.state.nextAttemptUnix ≠ 0 ∧ unit.wall < unit.state.nextAttemptUnix then unit
  else (unit.attempt true took ntpSynced outcome).1

/-- What `kick_register` notes of an exception. -/
def noteRaised (unit : RegisterUnit) (error : String) : RegisterUnit :=
  { unit with
    state := dueState unit.state unit.wall .pending (unit.state.attempts + 1) 0 "" error (backoffFor 1)
    history := .raised unit.wall :: unit.history }

/-- `kick_register`. -/
def kick (unit : RegisterUnit) (took : Rat) (ntpSynced : Bool) (outcome : Outcome) : RegisterUnit :=
  let attempted := unit.attempt false took ntpSynced outcome
  attempted.2.elim attempted.1 attempted.1.noteRaised

/-- `note_http_key_revoked`. -/
def revoke (unit : RegisterUnit) (reason : String) : RegisterUnit :=
  let cleared := { unit with httpKey := "" }
  if unit.httpKey = "" ∧ unit.state.status = .pending then cleared
  else
    { cleared with
      state := dueState unit.state unit.wall .pending 1 401 "key_revoked" reason (backoffFor 1)
      history := .revoked unit.wall :: unit.history }

end RegisterUnit

inductive Event where
  | work (took : Rat) (ntpSynced : Bool) (outcome : Outcome)
  | kick (took : Rat) (ntpSynced : Bool) (outcome : Outcome)
  | revoke (reason : String)
  | pass (seconds : Rat)
  | setClock (wall : Rat)

def step (unit : RegisterUnit) : Event → Option RegisterUnit
  | .work took ntpSynced outcome => if 0 ≤ took then some (unit.work took ntpSynced outcome) else none
  | .kick took ntpSynced outcome => if 0 ≤ took then some (unit.kick took ntpSynced outcome) else none
  | .revoke reason => some (unit.revoke reason)
  | .pass seconds => if 0 ≤ seconds then some { unit with wall := unit.wall + seconds } else none
  | .setClock wall => if 0 ≤ wall then some { unit with wall := wall } else none

def initial (wall : Rat) : RegisterUnit := { wall := wall }

/-- The clock is never set back. -/
def Forward (unit : RegisterUnit) : Event → Prop
  | .setClock wall => unit.wall ≤ wall
  | .work .. | .kick .. | .revoke _ | .pass _ => True

instance (unit : RegisterUnit) (event : Event) : Decidable (Forward unit event) :=
  match event with
  | .setClock wall => inferInstanceAs (Decidable (unit.wall ≤ wall))
  | .work .. | .kick .. | .revoke _ | .pass _ => inferInstanceAs (Decidable True)

/-- The clock starts in 1970, the first request finds no link, the cloud refuses the second timestamp,
and its third answer cannot be decoded. -/
def firstHour : List Event :=
  [.work 1 false (.answer ⟨0, "timed out", "", none⟩), .pass 10,
    .work 1 false (.answer ⟨401, "stale_ts", "", some 1790000000000⟩), .pass 10,
    .work 1 false (.unread "'utf-8' codec can't decode byte 0xff in position 0: invalid start byte"),
    .kick 1 false (.answer ⟨202, "pending_identity", "", none⟩)]

end Runs

section Owed

def Answer.conflicts (answer : Answer) : Bool :=
  answer.http ≠ 200 && (answer.http = 409 || answer.code = "pk_conflict")

def Answer.refusesClock (answer : Answer) : Bool :=
  answer.http = 401 && (answer.code = "stale_ts" || answer.code = "replayed_ts")

/-- The wait after an answer that neither registers nor conflicts, when it is the given one in a row. -/
def Answer.delay (answer : Answer) (ntpSynced : Bool) (attempts : Nat) : Nat :=
  if answer.refusesClock then
    if answer.serverMs.isSome || ntpSynced then 5 else max (backoffFor attempts) staleWithoutNtpS
  else if answer.http = 401 ∧ answer.code = "bad_sig" then stopBackoffS
  else backoffFor attempts

/-- The failures in a row, of which a key that the cloud has revoked is the first. -/
def failures : List Entry → Nat
  | [] => 0
  | .revoked _ :: _ => 1
  | .raised _ :: earlier => failures earlier + 1
  | .posted post :: earlier =>
    match post.answer with
    | none => failures earlier
    | some answer => if answer.registers then 0 else failures earlier + 1

/-- The second from which on the worker may ask, if it may ask at all. -/
def owed : List Entry → Option Int
  | [] => some 0
  | .revoked moment :: _ | .raised moment :: _ => some (int moment + 5)
  | .posted post :: earlier =>
    match post.answer with
    | none => owed earlier
    | some answer =>
      if answer.registers || answer.conflicts then none
      else some (int post.ended + answer.delay post.ntpSynced (failures earlier + 1))

/-- Nothing is sent to a cloud that has taken the unit or refused its key, and the worker waits
as long as the answers so far ask for. -/
def Paced : List Entry → Prop
  | [] => True
  | .posted post :: earlier =>
    (∃ due, owed earlier = some due ∧ (post.byWorker = true → (due : Rat) ≤ post.began)) ∧ Paced earlier
  | .raised _ :: earlier => (owed earlier).isSome ∧ Paced earlier
  | .revoked _ :: earlier => Paced earlier

structure Agrees (unit : RegisterUnit) : Prop where
  wall : 0 ≤ unit.wall
  attempts : unit.state.attempts = failures unit.history
  settled : unit.settled = (owed unit.history).isNone
  key : unit.httpKey ≠ "" ↔ unit.state.status = .registered
  due : ∀ due, owed unit.history = some due → unit.state.nextAttemptUnix = due
  paced : Paced unit.history

variable {unit after final : RegisterUnit} {state : RegisterState} {answer : Answer} {now took wall : Rat}
  {ntpSynced byWorker : Bool} {attempts : Nat}

theorem backoffFor_bounds (attempts : Nat) : 5 ≤ backoffFor attempts ∧ backoffFor attempts ≤ 3600 := by
  have bounds : ∀ index < 7, 5 ≤ backoffTable.getD index 0 ∧ backoffTable.getD index 0 ≤ 3600 := by decide
  exact bounds _ (Nat.lt_succ_of_le (Nat.min_le_right _ _))

theorem delay_bounds (answer : Answer) (ntpSynced : Bool) (attempts : Nat) :
    5 ≤ answer.delay ntpSynced attempts ∧ answer.delay ntpSynced attempts ≤ 3600 := by
  have bounds := backoffFor_bounds attempts
  unfold Answer.delay staleWithoutNtpS stopBackoffS
  split
  · split <;> omega
  · split <;> omega

structure Answered (state after : RegisterState) (now : Rat) (ntpSynced : Bool) (answer : Answer) : Prop where
  taken : answer.registers = true → after.status = .registered
  refused : answer.conflicts = true → after.status = .conflict
  waits : answer.registers = false → answer.conflicts = false → after.status = .pending ∨ after.status = .error
  attempts : after.attempts = if answer.registers then 0 else state.attempts + 1
  due : answer.registers = false → answer.conflicts = false →
    after.nextAttemptUnix = int now + answer.delay ntpSynced (state.attempts + 1)
  scheduled : int now ≤ after.nextAttemptUnix
  bounded : after.nextAttemptUnix ≤ int now + 3600
  backoff : 5 ≤ after.backoffS ∧ after.backoffS ≤ 3600
  offset : after.tsOffsetMs = if answer.refusesClock then (answer.serverMs.elim state.tsOffsetMs fun serverMs =>
    serverMs - milliseconds now + if answer.code = "replayed_ts" then 1 else 0) else state.tsOffsetMs

theorem dueState_answered (status : RegisterStatus) (http : Int) (code error : String)
    (open_ : status = .pending ∨ status = .error) (unregistered : answer.registers = false)
    (undisputed : answer.conflicts = false) (timely : answer.refusesClock = false) :
    Answered state (dueState state now status (state.attempts + 1) http code error
      (answer.delay ntpSynced (state.attempts + 1))) now ntpSynced answer where
  taken registers := by
    rw [unregistered] at registers
    cases registers
  refused conflicts := by
    rw [undisputed] at conflicts
    cases conflicts
  waits _ _ := open_
  attempts := by rw [unregistered]; rfl
  due _ _ := rfl
  scheduled := Int.le_add_of_nonneg_right (Int.natCast_nonneg _)
  bounded := by
    have bound := (delay_bounds answer ntpSynced (state.attempts + 1)).2
    show int now + _ ≤ _
    omega
  backoff := delay_bounds answer ntpSynced (state.attempts + 1)
  offset := by rw [timely]; rfl

theorem handleClockReject_answered (refused : answer.refusesClock = true) (unregistered : answer.registers = false)
    (undisputed : answer.conflicts = false) :
    Answered state (handleClockReject state now ntpSynced answer (state.attempts + 1)) now ntpSynced answer := by
  have delay := delay_bounds answer ntpSynced (state.attempts + 1)
  unfold Answer.delay at delay
  rw [if_pos refused] at delay
  cases told : answer.serverMs with
  | some serverMs =>
    unfold handleClockReject
    simp only [told]
    constructor
    case taken => simp [unregistered]
    case refused => simp [undisputed]
    case waits => exact fun _ _ => .inl rfl
    case attempts => rw [unregistered]; rfl
    case due =>
      intro _ _
      simp only [Answer.delay, refused, told, Option.isSome_some, Bool.true_or, ↓reduceIte]
      rfl
    case scheduled => exact Int.le_add_of_nonneg_right (Int.natCast_nonneg _)
    case bounded =>
      show int now + (5 : Nat) ≤ _
      omega
    case backoff => exact backoffFor_bounds 1
    case offset => rw [refused, told]; rfl
  | none =>
    unfold handleClockReject
    simp only [told]
    rw [told, Option.isSome_none, Bool.false_or] at delay
    constructor
    case taken => simp [unregistered]
    case refused => simp [undisputed]
    case waits => exact fun _ _ => .inl rfl
    case attempts => rw [unregistered]; rfl
    case due =>
      intro _ _
      simp only [Answer.delay, refused, told, Option.isSome_none, Bool.false_or, ↓reduceIte]
      rfl
    case scheduled => exact Int.le_add_of_nonneg_right (Int.natCast_nonneg _)
    case bounded =>
      show int now + ((if ntpSynced then 5 else max _ _ : Nat) : Int) ≤ _
      omega
    case backoff => exact delay
    case offset => rw [refused, told]; rfl

theorem answered_spec (state : RegisterState) (now : Rat) (ntpSynced : Bool) (answer : Answer) :
    Answered state (answered state now ntpSynced answer) now ntpSynced answer := by
  unfold answered
  dsimp only
  by_cases success : answer.http = 200
  · have undisputed : answer.conflicts = false := by simp [Answer.conflicts, success]
    have timely : answer.refusesClock = false := by simp [Answer.refusesClock, success]
    rw [if_pos success]
    by_cases keyless : answer.apiKey = ""
    · have unregistered : answer.registers = false := by simp [Answer.registers, keyless]
      have delay : answer.delay ntpSynced (state.attempts + 1) = backoffFor (state.attempts + 1) := by
        simp [Answer.delay, timely, success]
      rw [if_pos keyless, ← delay]
      exact dueState_answered _ _ _ _ (.inr rfl) unregistered undisputed timely
    · have registers : answer.registers = true := by simp [Answer.registers, success, keyless]
      rw [if_neg keyless]
      constructor
      case taken => exact fun _ => rfl
      case refused => simp [undisputed]
      case waits => simp [registers]
      case attempts => rw [if_pos registers]
      case due => intro unregistered; rw [registers] at unregistered; cases unregistered
      case scheduled => exact Int.le_add_of_nonneg_right (Int.natCast_nonneg _)
      case bounded => exact le_refl _
      case backoff => exact ⟨(by decide : 5 ≤ stopBackoffS), le_refl _⟩
      case offset => rw [timely]; rfl
  · have unregistered : answer.registers = false := by simp [Answer.registers, success]
    rw [if_neg success]
    by_cases disputed : answer.http = 409 ∨ answer.code = "pk_conflict"
    · have conflicts : answer.conflicts = true := by simp [Answer.conflicts, success, disputed]
      have timely : answer.refusesClock = false := by
        rcases disputed with http | code
        · simp [Answer.refusesClock, http]
        · simp [Answer.refusesClock, code]
      rw [if_pos disputed]
      constructor
      case taken => simp [unregistered]
      case refused => exact fun _ => rfl
      case waits => simp [conflicts]
      case attempts => rw [unregistered]; rfl
      case due => intro _ undisputed; rw [conflicts] at undisputed; cases undisputed
      case scheduled => exact Int.le_add_of_nonneg_right (Int.natCast_nonneg _)
      case bounded => exact le_refl _
      case backoff => exact ⟨(by decide : 5 ≤ stopBackoffS), le_refl _⟩
      case offset => rw [timely]; rfl
    · have undisputed : answer.conflicts = false := by simp [Answer.conflicts, success, not_or.mp disputed]
      rw [if_neg disputed]
      by_cases refused : answer.http = 401 ∧ (answer.code = "stale_ts" ∨ answer.code = "replayed_ts")
      · rw [if_pos refused]
        exact handleClockReject_answered (by simp [Answer.refusesClock, refused]) unregistered undisputed
      · have timely : answer.refusesClock = false := by
          simpa [Answer.refusesClock] using refused
        rw [if_neg refused]
        by_cases unsigned : answer.http = 401 ∧ answer.code = "bad_sig"
        · have delay : answer.delay ntpSynced (state.attempts + 1) = stopBackoffS := by
            simp [Answer.delay, timely, unsigned]
          rw [if_pos unsigned, ← delay]
          exact dueState_answered _ _ _ _ (.inr rfl) unregistered undisputed timely
        · have delay : answer.delay ntpSynced (state.attempts + 1) = backoffFor (state.attempts + 1) := by
            simp only [Answer.delay, timely, Bool.false_eq_true, ↓reduceIte, if_neg unsigned]
          rw [if_neg unsigned, ← delay]
          split
          · exact dueState_answered _ _ _ _ (.inl rfl) unregistered undisputed timely
          · split
            · exact dueState_answered _ _ _ _ (.inl rfl) unregistered undisputed timely
            · exact dueState_answered _ _ _ _ (.inr rfl) unregistered undisputed timely

theorem Answered.kinds {after : RegisterState} (spec : Answered state after now ntpSynced answer) :
    (answer.registers = true ∧ after.status = .registered) ∨
      (answer.registers = false ∧ answer.conflicts = true ∧ after.status = .conflict) ∨
      (answer.registers = false ∧ answer.conflicts = false ∧ (after.status = .pending ∨ after.status = .error)) := by
  cases registers : answer.registers with
  | true => exact .inl ⟨rfl, spec.taken registers⟩
  | false =>
    cases conflicts : answer.conflicts with
    | true => exact .inr (.inl ⟨rfl, rfl, spec.refused conflicts⟩)
    | false => exact .inr (.inr ⟨rfl, rfl, spec.waits registers conflicts⟩)

theorem settled_iff : unit.settled = true ↔
    unit.state.status = .conflict ∨ (unit.state.status = .registered ∧ unit.httpKey ≠ "") := by
  cases status : unit.state.status <;> by_cases key : unit.httpKey = "" <;>
    simp [RegisterUnit.settled, KeyStore.mayRegister, status, key]

/-- What a step can do to a unit. -/
inductive Moved (unit : RegisterUnit) (event : Event) : RegisterUnit → Prop where
  | still : Moved unit event unit
  | sent {byWorker ntpSynced : Bool} {took : Rat} {answer : Option Answer} (later : 0 ≤ took)
      (unsettled : unit.settled = false)
      (timely : byWorker = true → ¬(unit.state.nextAttemptUnix ≠ 0 ∧ unit.wall < unit.state.nextAttemptUnix)) :
      Moved unit event (unit.send byWorker took ntpSynced answer)
  | clock {now : Rat} (since : 0 ≤ unit.wall → 0 ≤ now) (forward : Forward unit event → unit.wall ≤ now) :
      Moved unit event { unit with wall := now }
  | raised {moved : RegisterUnit} {error : String} (before : Moved unit event moved)
      (unsettled : moved.settled = false) : Moved unit event (moved.noteRaised error)
  | revoked {reason : String} :
      Moved unit event
        ⟨dueState unit.state unit.wall .pending 1 401 "key_revoked" reason (backoffFor 1), "", unit.wall,
          .revoked unit.wall :: unit.history⟩

/-- What an attempt does before an exception of it is noted. -/
theorem moved_attempt {event : Event} {outcome : Outcome} (later : 0 ≤ took)
    (timely : byWorker = true → ¬(unit.state.nextAttemptUnix ≠ 0 ∧ unit.wall < unit.state.nextAttemptUnix)) :
    Moved unit event (unit.attempt byWorker took ntpSynced outcome).1 ∧
      ∀ error, (unit.attempt byWorker took ntpSynced outcome).2 = some error →
        (unit.attempt byWorker took ntpSynced outcome).1.settled = false := by
  have clock : Moved unit event { unit with wall := unit.wall + took } :=
    .clock (fun since => add_nonneg since later) fun _ => le_add_of_nonneg_right later
  unfold RegisterUnit.attempt
  split
  next => exact ⟨.still, fun _ raised => by cases raised⟩
  next open_ =>
    have unsettled : unit.settled = false := Bool.eq_false_iff.mpr open_
    cases outcome with
    | answer answer =>
      dsimp only
      split
      next => exact ⟨.sent later unsettled timely, fun _ _ => unsettled⟩
      next => exact ⟨.sent later unsettled timely, fun _ raised => by cases raised⟩
    | unread error => exact ⟨.sent later unsettled timely, fun _ _ => unsettled⟩
    | unsent error => exact ⟨clock, fun _ _ => unsettled⟩

theorem moved_step {event : Event} (stepped : step unit event = some after) : Moved unit event after := by
  cases event with
  | work took ntpSynced outcome =>
    obtain ⟨later, same⟩ := Option.ite_none_right_eq_some.mp stepped
    obtain rfl := Option.some.inj same
    unfold RegisterUnit.work
    split
    next => exact .still
    next =>
      split
      next => exact .still
      next waited => exact (moved_attempt later fun _ => waited).1
  | kick took ntpSynced outcome =>
    obtain ⟨later, same⟩ := Option.ite_none_right_eq_some.mp stepped
    obtain rfl := Option.some.inj same
    obtain ⟨moved, unsettled⟩ : Moved unit (.kick took ntpSynced outcome) (unit.attempt false took ntpSynced outcome).1 ∧
        ∀ error, (unit.attempt false took ntpSynced outcome).2 = some error →
          (unit.attempt false took ntpSynced outcome).1.settled = false :=
      moved_attempt later fun worker => by cases worker
    unfold RegisterUnit.kick
    dsimp only
    cases raised : (unit.attempt false took ntpSynced outcome).2 with
    | none => exact moved
    | some error => exact .raised moved (unsettled error raised)
  | revoke reason =>
    obtain rfl := Option.some.inj stepped
    unfold RegisterUnit.revoke
    dsimp only
    split
    next idle =>
      have same : ({ unit with httpKey := "" } : RegisterUnit) = unit := by rw [← idle.1]
      rw [same]
      exact .still
    next => exact .revoked
  | pass seconds =>
    obtain ⟨later, same⟩ := Option.ite_none_right_eq_some.mp stepped
    obtain rfl := Option.some.inj same
    exact .clock (fun since => add_nonneg since later) fun _ => le_add_of_nonneg_right later
  | setClock wall =>
    obtain ⟨later, same⟩ := Option.ite_none_right_eq_some.mp stepped
    obtain rfl := Option.some.inj same
    exact .clock (fun _ => later) id

theorem agrees_initial (later : 0 ≤ wall) : Agrees (initial wall) where
  wall := later
  attempts := rfl
  settled := rfl
  key := by simp [initial]
  due due owes := Option.some.inj owes
  paced := trivial

theorem int_nonneg (later : 0 ≤ wall) : 0 ≤ int wall := Int.floor_nonneg.mpr later

theorem owed_of_open (agrees : Agrees unit) (unsettled : unit.settled = false) :
    owed unit.history = some unit.state.nextAttemptUnix := by
  cases owes : owed unit.history with
  | none =>
    have settled := agrees.settled
    rw [owes, unsettled] at settled
    cases settled
  | some due => rw [agrees.due due owes]

theorem keyless_of_open (agrees : Agrees unit) (unsettled : unit.settled = false) : unit.httpKey = "" := by
  by_contra key
  have settled := settled_iff.mpr (.inr ⟨agrees.key.mp key, key⟩)
  rw [unsettled] at settled
  cases settled

theorem agrees_send {answer : Option Answer} (agrees : Agrees unit) (unsettled : unit.settled = false)
    (later : 0 ≤ took) (timely : byWorker = true → (unit.state.nextAttemptUnix : Rat) ≤ unit.wall) :
    Agrees (unit.send byWorker took ntpSynced answer) := by
  have asked : ∃ due, owed unit.history = some due ∧ (byWorker = true → (due : Rat) ≤ unit.wall) :=
    ⟨_, owed_of_open agrees unsettled, timely⟩
  cases answer with
  | none =>
    exact ⟨add_nonneg agrees.wall later, agrees.attempts, agrees.settled, agrees.key, agrees.due, asked, agrees.paced⟩
  | some answer =>
    have keyless := keyless_of_open agrees unsettled
    have spec := answered_spec unit.state (unit.wall + took) ntpSynced answer
    have key (registers : answer.registers = true) : answer.apiKey ≠ "" := by
      have both : answer.http = 200 ∧ answer.apiKey ≠ "" := by simpa [Answer.registers] using registers
      exact both.2
    unfold RegisterUnit.send
    simp only [keyless, Option.any_some, Option.elim_some]
    constructor
    case wall => exact add_nonneg agrees.wall later
    case attempts =>
      show RegisterState.attempts _ = failures (_ :: _)
      rw [spec.attempts, agrees.attempts]
      rfl
    case settled =>
      show RegisterUnit.settled _ = (owed (_ :: _)).isNone
      unfold RegisterUnit.settled KeyStore.mayRegister owed
      rcases spec.kinds with ⟨registers, status⟩ | ⟨unregistered, conflicts, status⟩ |
        ⟨unregistered, undisputed, status | status⟩
      · simp [registers, status, key registers]
      · simp [unregistered, conflicts, status]
      · simp [unregistered, undisputed, status]
      · simp [unregistered, undisputed, status]
    case key =>
      rcases spec.kinds with ⟨registers, status⟩ | ⟨unregistered, -, status⟩ | ⟨unregistered, -, status | status⟩
      · simp [registers, status, key registers]
      · simp [unregistered, status]
      · simp [unregistered, status]
      · simp [unregistered, status]
    case due =>
      intro due owes
      unfold owed at owes
      obtain ⟨open_, same⟩ := Option.ite_none_left_eq_some.mp owes
      obtain ⟨unregistered, undisputed⟩ := Bool.or_eq_false_iff.mp (Bool.eq_false_iff.mpr open_)
      rw [← Option.some.inj same, ← agrees.attempts]
      exact spec.due unregistered undisputed
    case paced => exact ⟨asked, agrees.paced⟩

/-- An attempt that raises and a revoked key leave a unit that asks again in five seconds. -/
theorem agrees_scheduled {entry : Entry} {http : Int} {code error : String} {history : List Entry}
    (later : 0 ≤ now) (counted : failures (entry :: history) = attempts)
    (owes : owed (entry :: history) = some (int now + 5)) (paced : Paced (entry :: history)) :
    Agrees ⟨dueState state now .pending attempts http code error (backoffFor 1), "", now, entry :: history⟩ where
  wall := later
  attempts := counted.symm
  settled := by
    rw [owes]
    rfl
  key := by simp [dueState]
  due due owed := by
    rw [owes] at owed
    exact Option.some.inj owed
  paced := paced

theorem agrees_moved {event : Event} (agrees : Agrees unit) (moved : Moved unit event after) : Agrees after := by
  induction moved with
  | still => exact agrees
  | sent later unsettled timely =>
    refine agrees_send agrees unsettled later fun worker => ?_
    by_cases never : unit.state.nextAttemptUnix = 0
    · rw [never]
      exact agrees.wall
    · exact not_lt.mp fun early => timely worker ⟨never, early⟩
  | clock since =>
    exact ⟨since agrees.wall, agrees.attempts, agrees.settled, agrees.key, agrees.due, agrees.paced⟩
  | raised _ unsettled agrees =>
    unfold RegisterUnit.noteRaised
    rw [keyless_of_open agrees unsettled]
    exact agrees_scheduled agrees.wall (congrArg (· + 1) agrees.attempts.symm) rfl
      ⟨Option.isSome_of_eq_some (owed_of_open agrees unsettled), agrees.paced⟩
  | revoked => exact agrees_scheduled agrees.wall rfl rfl agrees.paced

theorem agrees_step {event : Event} (agrees : Agrees unit) (stepped : step unit event = some after) : Agrees after :=
  agrees_moved agrees (moved_step stepped)

theorem agrees_run {permits : RegisterUnit → Event → Prop} (later : 0 ≤ wall)
    (run : Reaches step permits (initial wall) unit) : Agrees unit :=
  run.invariant (agrees_initial later) fun _ _ _ _ _ stepped agrees => agrees_step agrees stepped

/-- Whatever the cloud answers, whoever asks and however the clock is set: nobody asks after the cloud
has taken the unit or refused its key, until a key is revoked, and the worker asks no earlier than the
answers so far allow. -/
theorem requests_paced (later : 0 ≤ wall) (run : Reaches step anything (initial wall) unit) : Paced unit.history :=
  (agrees_run later run).paced

theorem requests_paced_firstHour : ∃ unit, play step anything (initial 1000) firstHour = some unit ∧
    owed unit.history = some 1054 ∧ Paced unit.history := by
  have plays : (play step anything (initial 1000) firstHour).any
      (fun unit => owed unit.history = some 1054) = true := by decide +kernel
  obtain ⟨unit, played, owes⟩ := (Option.any_eq_true _ _).mp plays
  exact ⟨unit, played, of_decide_eq_true owes, requests_paced (by decide) (reaches_play played)⟩

end Owed

end Wqm1.Cloud.Registration
