import Wqm1.Library.DateTime
import Wqm1.Library.Events
import Wqm1.Library.Text
import Mathlib.Data.Set.Subsingleton
import Mathlib.Data.Rat.Defs
import Mathlib.Logic.Function.Basic

/-! The proof of a join: the polls of BlueSignal, and the one step forward that the `Date` header
of its host may give a clock too far behind for certificates. -/

set_option autoImplicit false

namespace Wqm1.Network.ClockRepair

open Wqm1.Library

def clockStepMaxYears : Nat := 2

/-- Nothing is a `ValueError`. -/
def addYears (when : DateTime) (years : Nat) : Option DateTime :=
  match when.replace (when.year + years) when.day with
  | some later => some later
  | none => when.replace (when.year + years) 28

def clockStepAllowed (now header : DateTime) : Option Bool :=
  if now < header then (addYears now clockStepMaxYears).map fun latest => decide (header ≤ latest)
  else some false

/-- What a `Date` header says has no fractions of a second. -/
structure HttpDate where
  moment : DateTime
  whole : moment.time % 1000000 = 0

inductive Verdict where
  | ok
  | time
  | fail
deriving DecidableEq

inductive ClockAction where
  | none
  | refused
  | set
  | setFailed
deriving DecidableEq

inductive ClockReason where
  | ntp
  | oncePerBoot
  | noDate
  | step
  | certTime
deriving DecidableEq

structure ClockRecord where
  action : ClockAction
  reason : ClockReason
deriving DecidableEq

abbrev Process := Nat

/-- An answer from outside, or nothing when the question raised. -/
abbrev Answer (α : Type) := Option α

/-- The answers that one round of the loop gets, as far as it asks. -/
structure Round where
  verdict : Answer Verdict
  ntpSynced : Answer Bool
  httpDate : Answer (Option HttpDate)
  now : DateTime
  setTime : Answer Bool
  marked : Bool
  retried : Answer Verdict
  clock : Rat

/-- The system clock moved, in a round and to a time. -/
structure Move where
  round : Round
  target : DateTime

/-- What lasts until the next boot: the marker, the flag of every process, and how the clock was
moved so far. -/
structure Boot where
  marker : Bool
  steppedInProcess : Process → Bool
  moves : List Move

namespace Boot

def new : Boot := ⟨false, fun _ => false, []⟩

def clockSteppedThisBoot (boot : Boot) (process : Process) : Bool := boot.steppedInProcess process || boot.marker

/-- `written` says whether the marker could be written. -/
def markClockStepped (boot : Boot) (process : Process) (written : Bool) : Boot :=
  { boot with
    steppedInProcess := Function.update boot.steppedInProcess process true
    marker := boot.marker || written }

/-- `date -u -s` takes whole seconds. -/
def setSystemTime (boot : Boot) (round : Round) (when : DateTime) : Boot :=
  { boot with moves := boot.moves ++ [⟨round, when.wholeSeconds⟩] }

end Boot

/-- Nothing when the repair raised. -/
def repairClock (process : Process) (round : Round) (boot : Boot) : Option ClockRecord × Boot :=
  match round.ntpSynced with
  | none => (none, boot)
  | some true => (some ⟨.none, .ntp⟩, boot)
  | some false =>
    if boot.clockSteppedThisBoot process then (some ⟨.refused, .oncePerBoot⟩, boot)
    else
      match round.httpDate with
      | none => (none, boot)
      | some none => (some ⟨.none, .noDate⟩, boot)
      | some (some header) =>
        match clockStepAllowed round.now header.moment with
        | none => (none, boot)
        | some false => (some ⟨.refused, .step⟩, boot)
        | some true =>
          -- an exception of the setting is a failure of it
          if round.setTime = some true then
            (some ⟨.set, .certTime⟩, (boot.setSystemTime round header.moment).markClockStepped process round.marked)
          else (some ⟨.setFailed, .certTime⟩, boot)

structure Call where
  process : Process
  deadline : Rat
  clockRecord : Option ClockRecord

inductive Progress where
  | running (call : Call)
  | returned (ok : Bool) (clock : Option ClockRecord)
  | raised

namespace Call

/-- The end of a round, where a call that goes on sleeps. -/
def endRound (call : Call) (round : Round) : Progress :=
  if call.deadline ≤ round.clock then .returned false call.clockRecord else .running call

/-- One round of the loop. -/
def poll (call : Call) (round : Round) (boot : Boot) : Progress × Boot :=
  match round.verdict with
  | none => (.raised, boot)
  | some .ok => (.returned true call.clockRecord, boot)
  | some .fail => (call.endRound round, boot)
  | some .time =>
    match call.clockRecord with
    | some _ => (call.endRound round, boot)
    | none =>
      match repairClock call.process round boot with
      | (none, after) => (.raised, after)
      | (some record, after) =>
        if record.action = .set then
          match round.retried with
          | none => (.raised, after)
          | some .ok => (.returned true (some record), after)
          | some _ => ({ call with clockRecord := some record }.endRound round, after)
        else ({ call with clockRecord := some record }.endRound round, after)

end Call

/-- A call up to its loop. Without a host it ends there. -/
def reachBluesignal (process : Process) (host : Option Text) (clock hold : Rat) : Progress :=
  match host with
  | none | some [] => .returned false none
  | some _ => .running ⟨process, clock + hold, none⟩

/-- A boot with all the calls made in it. -/
structure Joins where
  boot : Boot
  calls : List Progress

inductive JoinEvent where
  | call (process : Process) (host : Option Text) (clock hold : Rat)
  | round (index : Nat) (round : Round)

namespace Joins

def start : Joins := ⟨.new, []⟩

/-- A round is not divided: a join holds the lock of the radio. -/
def next (joins : Joins) : JoinEvent → Option Joins
  | .call process host clock hold =>
    some { joins with calls := joins.calls ++ [reachBluesignal process host clock hold] }
  | .round index round =>
    match joins.calls[index]? with
    | some (.running call) =>
      let polled := call.poll round joins.boot
      some ⟨polled.2, joins.calls.set index polled.1⟩
    | _ => none

end Joins

/-- The calls are made by certain processes. Where there are several, the marker can be written. -/
def Permitted (processes : Set Process) (_ : Joins) : JoinEvent → Prop
  | .call process _ _ _ => process ∈ processes
  | .round _ round => round.marked = true ∨ processes.Subsingleton

/-- The clock went forward, by no more than the years of the cap, and NTP was not in charge. -/
structure Move.Capped (move : Move) : Prop where
  unsynced : move.round.ntpSynced = some false
  forward : move.round.now < move.target
  capped : move.target.fields ≤ move.round.now.anniversary clockStepMaxYears

theorem addYears_eq {when later : DateTime} {years : Nat} (added : addYears when years = some later) :
    later.year = when.year + years ∧ later.month = when.month ∧ later.day ≤ when.day ∧ later.time = when.time := by
  unfold addYears at added
  split at added
  next same =>
      cases added
      obtain ⟨year, month, day, time⟩ := DateTime.replace_eq_some same
      exact ⟨year, month, day.le, time⟩
  next missing =>
      obtain ⟨year, month, day, time⟩ := DateTime.replace_eq_some added
      have range := later.yearRange
      rw [year] at range
      have last := DateTime.lt_day_of_replace_eq_none missing range when.dayRange.1
      have least := twentyEight_le_daysInMonth (when.year + years) when.month
      exact ⟨year, month, by omega, time⟩

/-- An allowed step goes forward, at most to the day of the cap. -/
theorem clockStepAllowed_eq_true {now header : DateTime} (allowed : clockStepAllowed now header = some true) :
    now < header ∧ header.fields ≤ now.anniversary clockStepMaxYears := by
  unfold clockStepAllowed at allowed
  split at allowed
  next ahead =>
      obtain ⟨latest, added, within⟩ := Option.map_eq_some_iff.mp allowed
      obtain ⟨year, month, day, time⟩ := addYears_eq added
      have bound : header.fields ≤ latest.fields := DateTime.le_iff.mp (of_decide_eq_true within)
      exact ⟨ahead, bound.trans (DateTime.fields_le_anniversary year month day time)⟩
  next => cases allowed

namespace Boot

variable (boot : Boot) (process : Process)

theorem stepped_markClockStepped (written : Bool) :
    (boot.markClockStepped process written).clockSteppedThisBoot process = true := by
  simp [markClockStepped, clockSteppedThisBoot]

theorem stepped_of_written (other : Process) :
    (boot.markClockStepped process true).clockSteppedThisBoot other = true := by
  simp [markClockStepped, clockSteppedThisBoot]

end Boot

/-- A repair leaves the boot alone, or it is the first to step in what it can see and makes one
capped move. -/
theorem repairClock_cases (process : Process) (round : Round) (boot : Boot) :
    (repairClock process round boot).2 = boot ∨
      boot.clockSteppedThisBoot process = false ∧ ∃ header : DateTime, Move.Capped ⟨round, header.wholeSeconds⟩ ∧
        (repairClock process round boot).2 =
          (boot.setSystemTime round header).markClockStepped process round.marked := by
  unfold repairClock
  split
  next => exact .inl rfl
  next => exact .inl rfl
  next unsynced =>
      split
      next => exact .inl rfl
      next fresh =>
          split
          next => exact .inl rfl
          next => exact .inl rfl
          next header _ =>
              split
              next => exact .inl rfl
              next => exact .inl rfl
              next allowed =>
                  split
                  next =>
                      obtain ⟨forward, capped⟩ := clockStepAllowed_eq_true allowed
                      have whole := DateTime.wholeSeconds_eq header.whole
                      refine .inr ⟨eq_false_of_ne_true fresh, header.moment, ⟨unsynced, ?_, ?_⟩, rfl⟩
                      · rw [whole]
                        exact forward
                      · rw [whole]
                        exact capped
                  next => exact .inl rfl

namespace Call

variable (call : Call) (round : Round) (boot : Boot)

/-- A call that goes on after a round is the call it was, before its deadline. -/
theorem endRound_running {later : Call} (goes : call.endRound round = .running later) :
    later = call ∧ round.clock < call.deadline := by
  unfold endRound at goes
  split at goes
  next => cases goes
  next early =>
      cases goes
      exact ⟨rfl, Rat.not_le.mp early⟩

/-- The boot changes in a repair only. -/
theorem poll_boot :
    (call.poll round boot).2 = boot ∨ (call.poll round boot).2 = (repairClock call.process round boot).2 := by
  unfold poll
  split
  next => exact .inl rfl
  next => exact .inl rfl
  next => exact .inl rfl
  next =>
      split
      next => exact .inl rfl
      next =>
          split
          next repaired => exact .inr (by rw [repaired])
          next repaired =>
              rw [repaired]
              split
              next => split <;> exact .inr rfl
              next => exact .inr rfl

/-- A round ends the call, or comes to its end with at most another record. -/
theorem poll_progress :
    (∀ later, (call.poll round boot).1 ≠ .running later) ∨
      ∃ record, (call.poll round boot).1 = { call with clockRecord := record }.endRound round := by
  unfold poll
  split
  next => exact .inl nofun
  next => exact .inl nofun
  next => exact .inr ⟨call.clockRecord, rfl⟩
  next =>
      split
      next => exact .inr ⟨call.clockRecord, rfl⟩
      next =>
          split
          next => exact .inl nofun
          next record _ _ =>
              split
              next =>
                  split
                  next => exact .inl nofun
                  next => exact .inl nofun
                  next => exact .inr ⟨some record, rfl⟩
              next => exact .inr ⟨some record, rfl⟩

/-- A round that does not end the call is read before its deadline, and keeps it the call of
the same process with the same deadline. -/
theorem poll_running {later : Call} (goes : (call.poll round boot).1 = .running later) :
    later.process = call.process ∧ later.deadline = call.deadline ∧ round.clock < call.deadline := by
  rcases poll_progress call round boot with ends | ⟨record, reaches⟩
  · exact absurd goes (ends later)
  · obtain ⟨rfl, early⟩ := endRound_running _ _ (reaches.symm.trans goes)
    exact ⟨rfl, rfl, early⟩

end Call

theorem reachBluesignal_running {process : Process} {host : Option Text} {clock hold : Rat} {call : Call}
    (runs : reachBluesignal process host clock hold = .running call) : call.process = process := by
  unfold reachBluesignal at runs
  split at runs
  next => cases runs
  next => cases runs
  next =>
      cases runs
      rfl

/-- The moves of a boot are few and capped, and every process that may call knows of them. -/
structure Latched (processes : Set Process) (joins : Joins) : Prop where
  members : ∀ call, Progress.running call ∈ joins.calls → call.process ∈ processes
  once : joins.boot.moves.length ≤ 1
  capped : ∀ move ∈ joins.boot.moves, move.Capped
  known : joins.boot.moves ≠ [] → ∀ process ∈ processes, joins.boot.clockSteppedThisBoot process = true

theorem latched_start (processes : Set Process) : Latched processes .start where
  members _ mem := by cases mem
  once := Nat.zero_le 1
  capped _ mem := by cases mem
  known some := absurd rfl some

variable {processes : Set Process} {joins : Joins}

theorem Latched.call (latched : Latched processes joins) {process : Process} (member : process ∈ processes)
    (host : Option Text) (clock hold : Rat) :
    Latched processes { joins with calls := joins.calls ++ [reachBluesignal process host clock hold] } where
  members call mem := by
    rcases List.mem_append.mp mem with earlier | last
    · exact latched.members call earlier
    · rw [reachBluesignal_running (List.mem_singleton.mp last).symm]
      exact member
  once := latched.once
  capped := latched.capped
  known := latched.known

theorem Latched.round (latched : Latched processes joins) {index : Nat} {call : Call} {round : Round}
    (found : joins.calls[index]? = some (.running call)) (permitted : round.marked = true ∨ processes.Subsingleton) :
    Latched processes ⟨(call.poll round joins.boot).2, joins.calls.set index (call.poll round joins.boot).1⟩ := by
  have member : call.process ∈ processes := latched.members call (List.mem_of_getElem? found)
  have members : ∀ later, Progress.running later ∈ joins.calls.set index (call.poll round joins.boot).1 →
      later.process ∈ processes := by
    intro later mem
    rcases List.mem_or_eq_of_mem_set mem with earlier | changed
    · exact latched.members later earlier
    · rw [(Call.poll_running call round joins.boot changed.symm).1]
      exact member
  have kept (same : (call.poll round joins.boot).2 = joins.boot) :
      Latched processes ⟨(call.poll round joins.boot).2, joins.calls.set index (call.poll round joins.boot).1⟩ := by
    rw [same]
    exact ⟨members, latched.once, latched.capped, latched.known⟩
  rcases Call.poll_boot call round joins.boot with same | repaired
  · exact kept same
  · rcases repairClock_cases call.process round joins.boot with same | ⟨fresh, header, capped, moved⟩
    · exact kept (repaired.trans same)
    · have none : joins.boot.moves = [] := by
        by_contra some
        rw [latched.known some call.process member] at fresh
        cases fresh
      rw [repaired, moved]
      refine ⟨members, ?_, ?_, fun _ process known => ?_⟩
      · simp [Boot.markClockStepped, Boot.setSystemTime, none]
      · simpa [Boot.markClockStepped, Boot.setSystemTime, none] using capped
      · rcases permitted with written | single
        · rw [written]
          exact Boot.stepped_of_written ..
        · rw [single known member]
          exact Boot.stepped_markClockStepped ..

theorem Joins.next_round {index : Nat} {round : Round} {after : Joins}
    (stepped : joins.next (.round index round) = some after) :
    ∃ call, joins.calls[index]? = some (.running call) ∧
      after = ⟨(call.poll round joins.boot).2, joins.calls.set index (call.poll round joins.boot).1⟩ := by
  simp only [Joins.next] at stepped
  split at stepped
  next call found => exact ⟨call, found, (Option.some.inj stepped).symm⟩
  next => cases stepped

theorem latched_of_reaches (run : Events.Reaches Joins.next (Permitted processes) .start joins) :
    Latched processes joins := by
  refine run.invariant (latched_start processes) fun before event after _ permitted stepped latched => ?_
  cases event with
  | call process host clock hold =>
      cases stepped
      exact latched.call permitted host clock hold
  | round index round =>
      obtain ⟨call, found, rfl⟩ := Joins.next_round stepped
      exact latched.round found permitted

/-- A round in which the clock is read at the deadline, or after it, is the last of its call. -/
theorem next_round_ends {index : Nat} {call : Call} {round : Round}
    (found : joins.calls[index]? = some (.running call)) (past : call.deadline ≤ round.clock) :
    ∃ after, joins.next (.round index round) = some after ∧
      ∀ later, after.calls[index]? ≠ some (.running later) := by
  have stepped : joins.next (.round index round) =
      some ⟨(call.poll round joins.boot).2, joins.calls.set index (call.poll round joins.boot).1⟩ := by
    simp only [Joins.next, found]
  refine ⟨_, stepped, fun later goes => ?_⟩
  have bound : index < joins.calls.length := (List.getElem?_eq_some_iff.mp found).1
  rw [List.getElem?_set_self bound] at goes
  have early := (Call.poll_running call round joins.boot (Option.some.inj goes)).2.2
  exact absurd early (Rat.not_lt.mpr past)

theorem clock_moved_once_capped_and_calls_end
    (run : Events.Reaches Joins.next (Permitted processes) .start joins) :
    joins.boot.moves.length ≤ 1 ∧ (∀ move ∈ joins.boot.moves, move.Capped) ∧
      ∀ index call round, joins.calls[index]? = some (.running call) → call.deadline ≤ round.clock →
        ∃ after, joins.next (.round index round) = some after ∧
          ∀ later, after.calls[index]? ≠ some (.running later) := by
  have latched := latched_of_reaches run
  exact ⟨latched.once, latched.capped, fun index call round found past => next_round_ends found past⟩

def newYear (year : Nat) (range : 1 ≤ year ∧ year ≤ 9999) : DateTime where
  year := year
  month := 1
  day := 1
  time := 0
  yearRange := range
  monthRange := by decide
  dayRange := ⟨le_rfl, le_trans (by decide) (twentyEight_le_daysInMonth year 1)⟩
  timeRange := by decide

/-- A unit at the start of a year meets a forged `Date` a year ahead of it. -/
def forged (year : Nat) (range : 1 ≤ year ∧ year ≤ 9998) : Round where
  verdict := some .time
  ntpSynced := some false
  httpDate := some (some ⟨newYear (year + 1) (by omega), rfl⟩)
  now := newYear year (by omega)
  setTime := some true
  marked := true
  retried := some .fail
  clock := 5

theorem clock_moved_once_by_two_processes :
    ∃ joins : Joins, joins.calls.length = 2 ∧ joins.boot.moves.length = 1 ∧ ∀ move ∈ joins.boot.moves, move.Capped := by
  have called : Events.Reaches Joins.next (Permitted {0, 1}) .start ⟨.new, [.running ⟨0, 0 + 180, none⟩]⟩ :=
    .next .start (show Permitted {0, 1} _ (.call 0 (some ['h']) 0 180) from Set.mem_insert 0 {1}) rfl
  have moved := called.next
    (show Permitted {0, 1} _ (.round 0 (forged 2026 (by decide))) from Or.inl rfl) rfl
  have again := moved.next
    (show Permitted {0, 1} _ (.call 1 (some ['h']) 0 180) from Set.mem_insert_of_mem 0 rfl) rfl
  have refused := again.next
    (show Permitted {0, 1} _ (.round 1 (forged 2027 (by decide))) from Or.inl rfl) rfl
  exact ⟨_, rfl, rfl, (clock_moved_once_capped_and_calls_end refused).2.1⟩

end Wqm1.Network.ClockRepair
