import Mathlib.Algebra.Order.Floor.Defs
import Mathlib.Algebra.Order.Floor.Ring
import Mathlib.Data.Rat.Floor
import Mathlib.Data.String.Basic

/-! The self-test of an update: what it takes for evidence of the new firmware. -/

set_option autoImplicit false

namespace Wqm1.Ota

def mainService : String := "bluesignal-wqm.service"

def decimalDigit (value : Int) : Char :=
  Char.ofNat (48 + (value % 10).toNat)

def twoDigits (value : Int) : List Char :=
  [decimalDigit (value / 10), decimalDigit value]

def fourDigits (value : Int) : List Char :=
  twoDigits (value / 100) ++ twoDigits value

/-- Year, month and day of a day counted from 1970-01-01, counted in years that begin in March. -/
def civilDate (day : Int) : Int × Int × Int :=
  let shifted := day + 719468
  let dayOfEra := shifted % 146097
  let yearOfEra := (dayOfEra - dayOfEra / 1460 + dayOfEra / 36524 - dayOfEra / 146096) / 365
  let dayOfYear := dayOfEra - (365 * yearOfEra + yearOfEra / 4 - yearOfEra / 100)
  let monthIndex := (5 * dayOfYear + 2) / 153
  let month := if monthIndex < 10 then monthIndex + 3 else monthIndex - 9
  let year := yearOfEra + shifted / 146097 * 400 + if month ≤ 2 then 1 else 0
  (year, month, dayOfYear - (153 * monthIndex + 2) / 5 + 1)

/-- `strftime("%Y-%m-%dT%H:%M:%SZ")` of a second since 1970. -/
def isoText (second : Int) : String :=
  let (year, month, day) := civilDate (second / 86400)
  let time := second % 86400
  String.ofList (fourDigits year ++ '-' :: twoDigits month ++ '-' :: twoDigits day ++ 'T' ::
    twoDigits (time / 3600) ++ ':' :: twoDigits (time / 60 % 60) ++ ':' :: twoDigits (time % 60) ++ ['Z'])

example : isoText 951827696 = "2000-02-29T12:34:56Z" := by decide +kernel

/-- What the firmware has left for the agent to see. `started` and `renewed` are not read by
the agent: a process started after the flip runs, and it has stored a reading or touched
the liveness file. -/
structure Firmware (Time : Type) where
  timestamps : List String
  alive : Option Time
  started : Bool := false
  renewed : Bool := false
deriving DecidableEq

/-- What the running process writes; `rotated` deletes one row. -/
inductive Write (Time : Type) where
  | stored (timestamp : String)
  | touched (mtime : Time)
  | rotated (index : Nat)

namespace Firmware

variable {Time : Type} (firmware : Firmware Time)

def write : Write Time → Firmware Time
  | .stored timestamp =>
    { firmware with
      timestamps := firmware.timestamps ++ [timestamp]
      renewed := firmware.renewed || firmware.started }
  | .touched mtime =>
    { firmware with alive := some mtime, renewed := firmware.renewed || firmware.started }
  | .rotated index => { firmware with timestamps := firmware.timestamps.eraseIdx index }

def writes (written : List (Write Time)) : Firmware Time :=
  written.foldl write firmware

/-- The service has been restarted. -/
def restarted : Firmware Time :=
  { firmware with started := true }

/-- `SELECT 1 FROM readings WHERE timestamp > ? LIMIT 1`. -/
def hasFreshReading (since : Int) : Bool :=
  firmware.timestamps.any fun timestamp => isoText since < timestamp

variable [LinearOrder Time] [IntCast Time]

def hasFreshLiveness (since : Int) : Bool :=
  firmware.alive.any fun mtime => (since : Time) < mtime

end Firmware

/-- One round of the loop: what the agent is told, and what the firmware writes before
each of its looks and before the next round. -/
structure Poll (Time : Type) where
  active : Bool
  beforeQuery : List (Write Time)
  readable : Bool
  beforeStat : List (Write Time)
  statable : Bool
  clock : Time
  beforeNext : List (Write Time)

inductive SelfTestEnd (Time : Type) where
  | passed (seen : Firmware Time)
  | failed (reason : String)
  | waiting
deriving DecidableEq

namespace Poll

variable {Time : Type} [LinearOrder Time] [IntCast Time] (poll : Poll Time) (since : Int)

/-- The firmware at the look that found evidence, or why there is none. -/
def check (firmware : Firmware Time) : Except String (Firmware Time) :=
  let queried := firmware.writes poll.beforeQuery
  let looked := queried.writes poll.beforeStat
  if !poll.active then
    .error (mainService ++ " not active")
  else if poll.readable && queried.hasFreshReading since then
    .ok queried
  else if poll.statable && looked.hasFreshLiveness since then
    .ok looked
  else
    .error "no fresh sensor reading or liveness beat since apply"

def written : List (Write Time) :=
  poll.beforeQuery ++ poll.beforeStat ++ poll.beforeNext

end Poll

section

variable {Time : Type} [LinearOrder Time] [IntCast Time]

def selfTest (since : Int) (deadline : Time) (firmware : Firmware Time) : List (Poll Time) → SelfTestEnd Time
  | [] => .waiting
  | poll :: later =>
    match poll.check since firmware with
    | .ok seen => .passed seen
    | .error reason =>
      if deadline ≤ poll.clock then
        .failed reason
      else
        selfTest since deadline (firmware.writes poll.written) later

end

/-- Nothing in the database or the liveness file passes for newer than `since`. -/
structure Firmware.Dated {Time : Type} [LinearOrder Time] [IntCast Time] (since : Int)
    (firmware : Firmware Time) : Prop where
  rows : ∀ timestamp ∈ firmware.timestamps, timestamp ≤ isoText since
  alive : ∀ mtime ∈ firmware.alive, mtime ≤ (since : Time)

/-- An update from the moment its apply time is taken: the rows and the liveness file of
that moment, what the old process still writes until it is stopped, and the monotonic
clock when the self-test begins. -/
structure SelfTestRun (Time : Type) where
  applyTime : Time
  timestamps : List String
  alive : Option Time
  old : List (Write Time)
  began : Time
  timeoutS : Time
  polls : List (Poll Time)

namespace SelfTestRun

variable {Time : Type} (run : SelfTestRun Time)

/-- The firmware when the old process has stopped. -/
def stopped : Firmware Time :=
  Firmware.writes { timestamps := run.timestamps, alive := run.alive } run.old

variable [Field Time] [LinearOrder Time] [FloorRing Time]

/-- The second `_utc_now_iso` writes down. -/
def since : Int :=
  ⌊run.applyTime⌋

def result : SelfTestEnd Time :=
  selfTest run.since (run.began + run.timeoutS) run.stopped.restarted run.polls

end SelfTestRun

section

variable {Time : Type} {firmware : Firmware Time}

theorem write_started (written : Write Time) : (firmware.write written).started = firmware.started := by
  cases written <;> rfl

theorem write_not_renewed (old : firmware.started = false) (none : firmware.renewed = false) (written : Write Time) :
    (firmware.write written).renewed = false := by
  cases written <;> simp [Firmware.write, old, none]

theorem writes_not_renewed (old : firmware.started = false) (none : firmware.renewed = false)
    (written : List (Write Time)) : (firmware.writes written).renewed = false := by
  induction written generalizing firmware with
  | nil => exact none
  | cons first rest ih => exact ih ((write_started first).trans old) (write_not_renewed old none first)

theorem stopped_not_renewed (run : SelfTestRun Time) : run.stopped.renewed = false :=
  writes_not_renewed rfl rfl run.old

end

section

variable {Time : Type} {firmware : Firmware Time} {since : Int}

theorem hasFreshReading_iff :
    firmware.hasFreshReading since = true ↔ ∃ timestamp ∈ firmware.timestamps, isoText since < timestamp := by
  simp [Firmware.hasFreshReading]

variable [LinearOrder Time] [IntCast Time] {deadline : Time}

theorem hasFreshLiveness_iff :
    firmware.hasFreshLiveness since = true ↔ ∃ mtime ∈ firmware.alive, (since : Time) < mtime := by
  simp [Firmware.hasFreshLiveness, Option.any_eq_true]

theorem dated_iff :
    firmware.Dated since ↔ firmware.hasFreshReading since = false ∧ firmware.hasFreshLiveness since = false := by
  rw [← Bool.not_eq_true, ← Bool.not_eq_true, hasFreshReading_iff, hasFreshLiveness_iff]
  push Not
  exact ⟨fun dated => ⟨dated.rows, dated.alive⟩, fun ⟨rows, alive⟩ => ⟨rows, alive⟩⟩

/-- Once a process started after the flip has written, it has written for good; until then
nothing passes for new. -/
def Firmware.Honest (since : Int) (firmware : Firmware Time) : Prop :=
  firmware.started = true ∧ (firmware.renewed = true ∨ firmware.Dated since)

theorem honest_write (honest : firmware.Honest since) (written : Write Time) :
    (firmware.write written).Honest since := by
  obtain ⟨started, proven⟩ := honest
  refine ⟨(write_started written).trans started, ?_⟩
  cases written with
  | stored timestamp => exact .inl (by simp [Firmware.write, started])
  | touched mtime => exact .inl (by simp [Firmware.write, started])
  | rotated index =>
    rcases proven with renewed | dated
    · exact .inl renewed
    · exact .inr ⟨fun timestamp member => dated.rows timestamp (List.mem_of_mem_eraseIdx member), dated.alive⟩

theorem honest_writes (honest : firmware.Honest since) (written : List (Write Time)) :
    (firmware.writes written).Honest since := by
  induction written generalizing firmware with
  | nil => exact honest
  | cons first rest ih => exact ih (honest_write honest first)

theorem check_honest {poll : Poll Time} {seen : Firmware Time} (honest : firmware.Honest since)
    (passed : poll.check since firmware = .ok seen) : seen.renewed = true := by
  have queried := honest_writes honest poll.beforeQuery
  have looked := honest_writes queried poll.beforeStat
  unfold Poll.check at passed
  dsimp only at passed
  split at passed
  · cases passed
  split at passed
  next fresh =>
    cases passed
    rcases queried.2 with renewed | dated
    · exact renewed
    · simp [(dated_iff.mp dated).1] at fresh
  next =>
    split at passed
    next fresh =>
      cases passed
      rcases looked.2 with renewed | dated
      · exact renewed
      · simp [(dated_iff.mp dated).2] at fresh
    next => cases passed

theorem selfTest_honest {polls : List (Poll Time)} {seen : Firmware Time} (honest : firmware.Honest since)
    (passed : selfTest since deadline firmware polls = .passed seen) : seen.renewed = true := by
  induction polls generalizing firmware with
  | nil => cases passed
  | cons poll later ih =>
    unfold selfTest at passed
    split at passed
    next ended checked =>
      cases passed
      exact check_honest honest checked
    next =>
      split at passed
      · cases passed
      · exact ih (honest_writes honest poll.written) passed

/-- A round that finds the service active before the new process writes anything. -/
def idlePoll (clock : Time) : Poll Time where
  active := true
  beforeQuery := []
  readable := true
  beforeStat := []
  statable := true
  clock := clock
  beforeNext := []

theorem selfTest_idle (stale : ¬ firmware.Dated since) (clock : Time) :
    selfTest since deadline firmware [idlePoll clock] = .passed firmware := by
  have found : firmware.hasFreshReading since = true ∨ firmware.hasFreshLiveness since = true := by
    rw [dated_iff] at stale
    grind
  have checked : (idlePoll clock).check since firmware = .ok firmware := by
    rcases found with reading | liveness
    · simp [Poll.check, idlePoll, Firmware.writes, reading]
    · simp [Poll.check, idlePoll, Firmware.writes, liveness]
  simp [selfTest, checked]

end

/-- However the new process and the self-test go on, a pass rests on what that process wrote
exactly when nothing the old process left is dated after the apply time's second. -/
theorem passes_on_new_evidence {Time : Type} [Field Time] [LinearOrder Time] [FloorRing Time] (run : SelfTestRun Time) :
    (∀ polls seen, { run with polls := polls }.result = .passed seen → seen.renewed = true) ↔
      run.stopped.Dated run.since := by
  constructor
  · intro holds
    by_contra stale
    have left : ¬ run.stopped.restarted.Dated run.since := fun dated => stale ⟨dated.rows, dated.alive⟩
    have passed := holds [idlePoll run.began] run.stopped.restarted (selfTest_idle left run.began)
    exact Bool.false_ne_true ((stopped_not_renewed run).symm.trans passed)
  · intro dated polls seen passed
    have honest : run.stopped.restarted.Honest run.since := ⟨rfl, .inr ⟨dated.rows, dated.alive⟩⟩
    exact selfTest_honest honest passed

/-- Applied at 10.5 s, the old process touches the liveness file at 10.7 s and is stopped. -/
def hastyRun : SelfTestRun Rat where
  applyTime := 21 / 2
  timestamps := []
  alive := some (1 / 2)
  old := [.touched (107 / 10)]
  began := 100
  timeoutS := 600
  polls := [idlePoll 100]

theorem passed_on_old_evidence :
    hastyRun.result = .passed hastyRun.stopped.restarted ∧ hastyRun.stopped.restarted.renewed = false := by
  decide +kernel

end Wqm1.Ota
