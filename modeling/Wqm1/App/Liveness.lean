import Mathlib.Tactic.Linarith
import Wqm1.App.Supervisor

/-! When the supervisor takes a sleeping worker for a hung one. The deadline is
recomputed from the cadence of the moment, the wait was computed from the cadence
right after the step. -/

set_option autoImplicit false

namespace Wqm1.App

open Wqm1.Library

variable {supervisor : Supervisor}

/-- The cadence the supervisor would read for the worker now. -/
def World.cadence (floatOfText : String → Option Double) (world : World) (worker : Worker) : Option Rat :=
  (worker.intervalS floatOfText world.now world.surroundings).1

/-- The worker's thread runs, and the wait it sleeps on is within the floor or within
three times the cadence of the moment, 60 s when reading the cadence raises. -/
def Covered (floatOfText : String → Option Double) (world : World) (worker : Worker) : Prop :=
  match world.beats worker, (world.threads worker).wakeAt with
  | some last, some wakeAt =>
    wakeAt - last ≤ livenessMinS ∨
      wakeAt - last ≤ (world.cadence floatOfText worker).getD 60 * livenessFactor
  | _, _ => False

/-- The supervisor looks only while every worker is covered. -/
def looksWhenCovered (supervisor : Supervisor) (world : World) : Event → Prop
  | .ticks => ∀ worker ∈ supervisor.workers, Covered supervisor.floatOfText world worker
  | _ => True

instance (floatOfText : String → Option Double) (world : World) (worker : Worker) :
    Decidable (Covered floatOfText world worker) := by
  unfold Covered
  split <;> infer_instance

instance (world : World) (event : Event) : Decidable (looksWhenCovered supervisor world event) := by
  cases event <;> unfold looksWhenCovered <;> infer_instance

theorem allWorkersAlive_iff {now : Rat} {beats : Worker → Option Rat} {workers : List Worker}
    {surroundings : Surroundings} :
    (allWorkersAlive supervisor now beats workers surroundings).1 = true ↔
      ∀ worker ∈ workers, ∃ last, beats worker = some last ∧
        now - last ≤ deadlineFor (worker.intervalS supervisor.floatOfText now surroundings).1 := by
  induction workers generalizing surroundings with
  | nil => simp [allWorkersAlive]
  | cons worker rest ih =>
    rw [List.forall_mem_cons]
    unfold allWorkersAlive
    cases beat : beats worker with
    | none => simp
    | some last =>
      have afterRead (other : Worker) := Worker.intervalS_after supervisor.floatOfText now surroundings
        worker other
      by_cases overdue : deadlineFor (worker.intervalS supervisor.floatOfText now surroundings).1 < now - last
      · simp only [overdue, ↓reduceIte, Bool.false_eq_true, false_iff, not_and]
        intro first
        obtain ⟨_, same, inTime⟩ := first
        cases same
        exact absurd overdue (not_lt.mpr inTime)
      · simp only [overdue, ↓reduceIte, ih, afterRead, Option.some.injEq, exists_eq_left',
          not_lt.mp overdue, true_and]

/-- No thread has slept past the end of its wait. -/
def Punctual (supervisor : Supervisor) (world : World) : Prop :=
  ∀ worker ∈ supervisor.workers, ∀ wakeAt, (world.threads worker).wakeAt = some wakeAt →
    world.now ≤ wakeAt

theorem punctual_start (now : Rat) (surroundings : Surroundings) :
    Punctual supervisor (.start now surroundings) := by
  intro worker _ wakeAt sleeping
  cases sleeping
  exact le_rfl

theorem punctual_step {before after : World} {event : Event}
    (stepped : step supervisor before event = some after) (punctual : Punctual supervisor before) :
    Punctual supervisor after := by
  cases event with
  | passes later surroundings =>
    simp only [step, Option.ite_none_right_eq_some, Option.some.injEq] at stepped
    obtain ⟨⟨_, inTime⟩, rfl⟩ := stepped
    intro worker member wakeAt sleeping
    have within := inTime worker member
    change (before.threads worker).wakeAt = some wakeAt at sleeping
    rw [sleeping] at within
    simpa using within
  | wakes woken raised surroundings =>
    simp only [step, Option.ite_none_right_eq_some, Option.some.injEq] at stepped
    obtain ⟨_, rfl⟩ := stepped
    intro worker member wakeAt sleeping
    by_cases same : worker = woken
    · subst same
      simp only [World.round, Function.update_self, Option.map_eq_some_iff] at sleeping
      obtain ⟨interval, _, rfl⟩ := sleeping
      exact le_add_of_nonneg_right (waitAfter_nonneg ..)
    · simp only [World.round, Function.update_of_ne same] at sleeping
      exact punctual worker member wakeAt sleeping
  | ticks =>
    cases stepped
    exact punctual

theorem alive_of_covered {world : World} (punctual : Punctual supervisor world)
    (covered : ∀ worker ∈ supervisor.workers, Covered supervisor.floatOfText world worker) :
    (allWorkersAlive supervisor world.now world.beats supervisor.workers world.surroundings).1 = true := by
  rw [allWorkersAlive_iff]
  intro worker member
  have enough := covered worker member
  unfold Covered at enough
  split at enough
  next last wakeAt beat sleeping =>
    refine ⟨last, beat, ?_⟩
    have inTime : world.now - last ≤ wakeAt - last :=
      sub_le_sub_right (punctual worker member wakeAt sleeping) last
    cases enough with
    | inl floor => exact inTime.trans (floor.trans (le_max_right _ _))
    | inr cadence => exact inTime.trans (cadence.trans (le_max_left _ _))
  next => exact enough.elim

/-- In every run in which the supervisor looks only while every worker is covered, it
accuses none and pets the watchdog in every cycle. -/
theorem covered_workers_never_accused {now : Rat} {surroundings : Surroundings} {world : World}
    (run : Events.Reaches (step supervisor) (looksWhenCovered supervisor) (.start now surroundings) world) :
    ∀ tick ∈ world.ticks, tick.alive = true ∧ tick.petted = true := by
  have both : Punctual supervisor world ∧ ∀ tick ∈ world.ticks, tick.alive = true ∧ tick.petted = true := by
    apply run.invariant
    · exact ⟨punctual_start now surroundings, fun _ member => absurd member List.not_mem_nil⟩
    · intro before event after _ permitted stepped kept
      refine ⟨punctual_step stepped kept.1, ?_⟩
      cases event with
      | ticks =>
        cases stepped
        have alive := alive_of_covered kept.1 permitted
        intro tick member
        cases member with
        | head => exact ⟨alive, alive⟩
        | tail _ earlier => exact kept.2 tick earlier
      | passes later surroundings =>
        simp only [step, Option.ite_none_right_eq_some, Option.some.injEq] at stepped
        obtain ⟨_, rfl⟩ := stepped
        exact kept.2
      | wakes woken raised surroundings =>
        simp only [step, Option.ite_none_right_eq_some, Option.some.injEq] at stepped
        obtain ⟨_, rfl⟩ := stepped
        exact kept.2
  exact both.2

/-- Where the condition fails at the very end of a wait, the worker about to be woken
is accused. -/
theorem accused_of_uncovered {world : World} {worker : Worker} (member : worker ∈ supervisor.workers)
    (ending : (world.threads worker).wakeAt = some world.now)
    (uncovered : ¬ Covered supervisor.floatOfText world worker) :
    (allWorkersAlive supervisor world.now world.beats supervisor.workers world.surroundings).1 = false := by
  rw [Bool.eq_false_iff]
  intro alive
  obtain ⟨last, beat, inTime⟩ := allWorkersAlive_iff.mp alive worker member
  apply uncovered
  simp only [Covered, beat, ending]
  exact (le_max_iff.mp inTime).symm

theorem registerIntervalS_waiting {floatOfText : String → Option Double} {status httpKey : String}
    {backoff next : Json} {delay : Double} {due wall : Rat} (retrying : status = "pending" ∨ status = "error")
    (delayRead : (backoff.orElse (.integer 5)).float floatOfText = some delay)
    (dueRead : (next.orElse (.integer 0)).float floatOfText = some (.finite due)) (ahead : wall < due) :
    registerIntervalS floatOfText (loadRegisterState (some ⟨some (.text status), some backoff, some next⟩))
        httpKey wall = some (min (due - wall) stopBackoffS) := by
  have waits : retryIntervalS delay (.finite due) wall = min (due - wall) stopBackoffS := if_pos (sub_pos.mpr ahead)
  cases retrying with
  | inl pending | inr failed =>
    subst status
    simp only [registerIntervalS, loadRegisterState, isRegisterStatus, registerStatuses, Option.getD_some]
    simp [Json.orElse, Json.truthy] at delayRead dueRead ⊢
    simp [delayRead, dueRead, waits]

/-- A registration that waits out a retry is accused as soon as it has slept more than a
minute and more than three times what is left of the wait. -/
theorem countdown_accused {world : World} {backoff next : Json} {delay : Double} {due last : Rat} {status : String}
    (member : Worker.register ∈ supervisor.workers) (retrying : status = "pending" ∨ status = "error")
    (file : world.surroundings.registerFile = some ⟨some (.text status), some backoff, some next⟩)
    (delayRead : (backoff.orElse (.integer 5)).float supervisor.floatOfText = some delay)
    (dueRead : (next.orElse (.integer 0)).float supervisor.floatOfText = some (.finite due))
    (beat : world.beats .register = some last) (floor : livenessMinS < world.now - last)
    (ahead : world.surroundings.wall < due)
    (late : 3 * (due - world.surroundings.wall) < world.now - last) :
    (allWorkersAlive supervisor world.now world.beats supervisor.workers world.surroundings).1 = false := by
  rw [Bool.eq_false_iff]
  intro alive
  obtain ⟨_, same, inTime⟩ := allWorkersAlive_iff.mp alive .register member
  cases beat.symm.trans same
  have cadence : (Worker.intervalS supervisor.floatOfText world.now world.surroundings .register).1 =
      some (min (due - world.surroundings.wall) stopBackoffS) := by
    simp only [Worker.intervalS, file]
    exact registerIntervalS_waiting retrying delayRead dueRead ahead
  rw [cadence, deadlineFor, le_max_iff, Option.getD_some, livenessFactor] at inTime
  cases inTime with
  | inl scaled =>
    have least := min_le_left (due - world.surroundings.wall) stopBackoffS
    linarith
  | inr short => exact absurd floor (not_lt.mpr short)

/-- A unit with the workers it always has, each on a long cadence, whose registration
retries in 300 s. -/
def sleepySurroundings (wall : Rat) : Surroundings where
  settings := { sensorReadS := 3600, commandPollS := 3600, syncIntervalS := 3600, heartbeatS := 3600 }
  registerFile := some ⟨some (.text "pending"), some (.integer 300), some (.integer 1300)⟩
  httpKey := ""
  wall := wall
  adaptive := some ⟨none, none⟩
  lorawanJoined := none
  joinAttempts := 0

def everyUnit : Supervisor where
  workers := [.sampling, .register, .cloudSync, .cloudCmd, .heartbeat]
  hasDb := true
  hasLivenessPath := true
  floatOfText := fun _ => none

def firstSteps (wall : Rat) : List Event :=
  everyUnit.workers.map fun worker => .wakes worker false (sleepySurroundings wall)

theorem covered_workers_never_accused_early :
    ∃ world, Events.Reaches (step everyUnit) (looksWhenCovered everyUnit)
        (.start 0 (sleepySurroundings 1000)) world ∧ world.ticks.length = 1 ∧
      ∀ tick ∈ world.ticks, tick.alive = true ∧ tick.petted = true := by
  have played : ((Events.play (step everyUnit) (looksWhenCovered everyUnit)
      (.start 0 (sleepySurroundings 1000))
      (firstSteps 1000 ++ [.passes 150 (sleepySurroundings 1150), .ticks])).map
        fun world => world.ticks.length) = some 1 := by
    decide +kernel
  obtain ⟨world, run, length⟩ := Option.map_eq_some_iff.mp played
  exact ⟨world, Events.reaches_play run, length, covered_workers_never_accused (Events.reaches_play run)⟩

/-- Asleep for 226 of its 300 seconds, the registration worker is accused. -/
theorem sleeping_registration_accused : ¬ ∀ (supervisor : Supervisor) (now : Rat)
    (surroundings : Surroundings) (world : World),
    Events.Reaches (step supervisor) Events.anything (.start now surroundings) world →
      ∀ tick ∈ world.ticks, tick.petted = true := by
  intro never
  have played : ((Events.play (step everyUnit) Events.anything (.start 0 (sleepySurroundings 1000))
      (firstSteps 1000 ++ [.passes 226 (sleepySurroundings 1226), .ticks])).map
        fun world => world.ticks.map Tick.petted) = some [false] := by
    decide +kernel
  obtain ⟨world, run, ticks⟩ := Option.map_eq_some_iff.mp played
  obtain ⟨tick, member, petted⟩ : ∃ tick ∈ world.ticks, tick.petted = false := by
    have first : false ∈ world.ticks.map Tick.petted := by simp [ticks]
    exact List.mem_map.mp first
  have pet := never everyUnit 0 (sleepySurroundings 1000) world (Events.reaches_play run) tick member
  rw [petted] at pet
  cases pet

end Wqm1.App
