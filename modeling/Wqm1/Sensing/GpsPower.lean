import Mathlib.Data.Bool.Basic
import Mathlib.Data.List.Basic

/-! The GPS receiver between its fixes. Every pulse on EXTINT flips the power save of the
module, and the driver only keeps a belief about it. -/

set_option autoImplicit false

namespace Wqm1.Sensing

/-- `asleep` is the state of the module. `gpio` and `io` say what the host has to drive EXTINT
with. `wasted`, for the statements only, counts the attempts made while the module slept. -/
structure Gps (Fix : Type) where
  asleep : Bool
  powerSaving : Bool := false
  gpio : Bool := true
  io : Bool := true
  isOpen : Bool := true
  lastFix : Option Fix := none
  wasted : Nat := 0
deriving DecidableEq

variable {Fix : Type}

namespace Gps

def toggleExtint (gps : Gps Fix) : Gps Fix := { gps with asleep := !gps.asleep }

def sleep (gps : Gps Fix) : Gps Fix :=
  if !gps.gpio || gps.powerSaving then gps else { gps.toggleExtint with powerSaving := true }

def wake (gps : Gps Fix) : Gps Fix :=
  if !gps.gpio || !gps.powerSaving then gps else { gps.toggleExtint with powerSaving := false }

def resync (gps : Gps Fix) : Gps Fix :=
  if !gps.gpio then gps else { gps.toggleExtint with powerSaving := !gps.powerSaving }

/-- The same pulse, without a word to the belief. -/
def powerCycle (gps : Gps Fix) : Gps Fix := if gps.io then gps.toggleExtint else gps

/-- One attempt, which finds `answer` if the module is awake. -/
def getFix (gps : Gps Fix) (answer : Option Fix) : Option Fix × Gps Fix :=
  if !gps.isOpen then (gps.lastFix, gps)
  else if gps.asleep then (none, { gps with wasted := gps.wasted + 1 })
  else (answer, { gps with lastFix := answer.or gps.lastFix })

/-- The belief is wrong. -/
def drifted (gps : Gps Fix) : Bool := gps.asleep != gps.powerSaving

variable (gps : Gps Fix)

@[simp] theorem drifted_sleep : gps.sleep.drifted = gps.drifted := by
  unfold sleep drifted
  cases gpio : gps.gpio <;> cases believed : gps.powerSaving <;> simp [toggleExtint, believed]

@[simp] theorem drifted_wake : gps.wake.drifted = gps.drifted := by
  unfold wake drifted
  cases gpio : gps.gpio <;> cases believed : gps.powerSaving <;> simp [toggleExtint, believed]

@[simp] theorem drifted_resync : gps.resync.drifted = gps.drifted := by
  unfold resync drifted
  cases gpio : gps.gpio <;> simp [toggleExtint]

@[simp] theorem drifted_getFix (answer : Option Fix) : (gps.getFix answer).2.drifted = gps.drifted := by
  unfold getFix drifted
  split
  next => rfl
  next => split <;> rfl

end Gps

/-- `coordinate` is what the state store has of the position. -/
structure GpsWorker (Fix : Type) where
  gps : Gps Fix
  coordinate : Option Fix := none
deriving DecidableEq

/-- What the receiver would find at the two attempts of a step. -/
structure Sky (Fix : Type) where
  first : Option Fix
  second : Option Fix

namespace GpsWorker

/-- The step as far as its last attempt. -/
def acquire (worker : GpsWorker Fix) (sky : Sky Fix) : Option Fix × Gps Fix :=
  match worker.gps.wake.getFix sky.first with
  | (some fix, gps) => (some fix, gps)
  | (none, gps) => gps.resync.getFix sky.second

def step (worker : GpsWorker Fix) (sky : Sky Fix) : GpsWorker Fix :=
  match worker.acquire sky with
  | (some fix, gps) => ⟨gps.sleep, some fix⟩
  | (none, gps) => if worker.coordinate.isNone then ⟨gps.powerCycle, none⟩ else ⟨gps.sleep, worker.coordinate⟩

def run (worker : GpsWorker Fix) (skies : List (Sky Fix)) : GpsWorker Fix := skies.foldl step worker

/-- The belief is right and the module asleep; from then on `wake` wakes it every time, and
no attempt is wasted. -/
structure SelfCorrected (worker : GpsWorker Fix) (later : List (Sky Fix)) : Prop where
  belief : worker.gps.powerSaving = worker.gps.asleep
  asleep : worker.gps.asleep = true
  wakes : ∀ before after, later = before ++ after → (worker.run before).gps.wake.asleep = false
  wasted : (worker.run later).gps.wasted = worker.gps.wasted

variable {worker : GpsWorker Fix} {sky : Sky Fix}

theorem drifted_acquire (worker : GpsWorker Fix) (sky : Sky Fix) :
    (worker.acquire sky).2.drifted = worker.gps.drifted := by
  unfold acquire
  cases found : worker.gps.wake.getFix sky.first with
  | mk fix gps =>
    have same : gps.drifted = worker.gps.drifted := by
      have kept := Gps.drifted_getFix worker.gps.wake sky.first
      rw [found] at kept
      rw [kept, Gps.drifted_wake]
    cases fix with
    | some fix => exact same
    | none =>
      dsimp only
      rw [Gps.drifted_getFix, Gps.drifted_resync, same]

/-- A step that finds a fix leaves the belief as wrong as it was. -/
theorem drifted_step (obtained : (worker.acquire sky).1.isSome = true) :
    (worker.step sky).gps.drifted = worker.gps.drifted := by
  have kept := drifted_acquire worker sky
  unfold step
  cases found : worker.acquire sky with
  | mk fix gps =>
    rw [found] at kept obtained
    cases fix with
    | none => cases obtained
    | some fix => exact (Gps.drifted_sleep gps).trans kept

/-- The module sleeps, the driver knows, and a coordinate is held. -/
structure Settled (worker : GpsWorker Fix) : Prop where
  gpio : worker.gps.gpio = true
  isOpen : worker.gps.isOpen = true
  asleep : worker.gps.asleep = true
  powerSaving : worker.gps.powerSaving = true
  coordinate : worker.coordinate.isSome = true

theorem Settled.wakes (settled : Settled worker) : worker.gps.wake.asleep = false := by
  simp [Gps.wake, Gps.toggleExtint, settled.gpio, settled.powerSaving, settled.asleep]

theorem settled_step_found (gpio : worker.gps.gpio = true) (isOpen : worker.gps.isOpen = true)
    (belief : worker.gps.powerSaving = worker.gps.asleep) (found : sky.first.isSome = true) :
    Settled (worker.step sky) ∧ (worker.step sky).gps.wasted = worker.gps.wasted := by
  obtain ⟨fix, first⟩ := Option.isSome_iff_exists.mp found
  cases asleep : worker.gps.asleep <;> rw [asleep] at belief <;>
    refine ⟨⟨?_, ?_, ?_, ?_, ?_⟩, ?_⟩ <;>
    simp [step, acquire, Gps.wake, Gps.sleep, Gps.getFix, Gps.toggleExtint, gpio, isOpen, belief, asleep, first]

/-- Where the receiver is awake and finds nothing, the second pulse puts it to sleep for the
second attempt. -/
theorem acquire_missed (gpio : worker.gps.gpio = true) (isOpen : worker.gps.isOpen = true)
    (belief : worker.gps.powerSaving = worker.gps.asleep) (missed : sky.first = none) :
    worker.acquire sky =
      (none, { worker.gps with asleep := true, powerSaving := true, wasted := worker.gps.wasted + 1 }) := by
  cases asleep : worker.gps.asleep <;> rw [asleep] at belief <;>
    simp [acquire, Gps.wake, Gps.resync, Gps.getFix, Gps.toggleExtint, gpio, isOpen, belief, asleep, missed]

theorem Settled.step_missed (settled : Settled worker) (missed : sky.first = none) :
    Settled (worker.step sky) ∧ (worker.step sky).gps.wasted = worker.gps.wasted + 1 := by
  have belief := settled.powerSaving.trans settled.asleep.symm
  have known : worker.coordinate.isNone = false := by
    rw [← Option.not_isSome, settled.coordinate]
    rfl
  unfold step
  rw [acquire_missed settled.gpio settled.isOpen belief missed]
  simp only [known, Bool.false_eq_true, ↓reduceIte, Gps.sleep, Bool.or_true]
  exact ⟨⟨settled.gpio, settled.isOpen, rfl, rfl, settled.coordinate⟩, trivial⟩

theorem Settled.step (settled : Settled worker) (sky : Sky Fix) :
    Settled (worker.step sky) ∧ worker.gps.wasted ≤ (worker.step sky).gps.wasted ∧
      ((worker.step sky).gps.wasted = worker.gps.wasted ↔ sky.first.isSome = true) := by
  cases first : sky.first with
  | some fix =>
    obtain ⟨still, wasted⟩ := settled_step_found settled.gpio settled.isOpen
      (settled.powerSaving.trans settled.asleep.symm) (by rw [first]; rfl)
    exact ⟨still, Nat.le_of_eq wasted.symm, iff_of_true wasted rfl⟩
  | none =>
    obtain ⟨still, wasted⟩ := settled.step_missed first
    refine ⟨still, ?_, ?_⟩ <;> simp [wasted]

theorem Settled.run (settled : Settled worker) (skies : List (Sky Fix)) :
    Settled (worker.run skies) ∧ worker.gps.wasted ≤ (worker.run skies).gps.wasted ∧
      ((worker.run skies).gps.wasted = worker.gps.wasted ↔ ∀ sky ∈ skies, sky.first.isSome = true) := by
  induction skies generalizing worker with
  | nil => exact ⟨settled, Nat.le_refl _, iff_of_true rfl (by simp)⟩
  | cons sky rest ih =>
    obtain ⟨next, less, first⟩ := settled.step sky
    obtain ⟨final, more, later⟩ := ih next
    have split : worker.run (sky :: rest) = (worker.step sky).run rest := rfl
    rw [split, List.forall_mem_cons, ← first, ← later]
    refine ⟨final, Nat.le_trans less more, ?_⟩
    omega

theorem asleep_step_without (without : worker.gps.gpio = false) (isOpen : worker.gps.isOpen = true)
    (obtained : (worker.acquire sky).1.isSome = true) : (worker.step sky).gps.asleep = false := by
  cases asleep : worker.gps.asleep with
  | true => simp [acquire, Gps.wake, Gps.resync, Gps.getFix, without, isOpen, asleep] at obtained
  | false =>
    unfold step
    cases found : worker.acquire sky with
    | mk fix gps =>
      have still : gps.asleep = false ∧ gps.gpio = false := by
        cases first : sky.first <;>
          simp [acquire, Gps.wake, Gps.resync, Gps.getFix, without, isOpen, asleep, first] at found <;>
          rw [← found.2] <;> exact ⟨rfl, rfl⟩
      cases fix with
      | none => rw [found] at obtained; cases obtained
      | some fix => simp [Gps.sleep, still]

/-- A step that found a fix corrects the toggle in exactly the runs in which it was right
before, and in which no later step misses at its first attempt. -/
theorem self_corrected_iff (worker : GpsWorker Fix) (sky : Sky Fix) (later : List (Sky Fix))
    (isOpen : worker.gps.isOpen = true) (obtained : (worker.acquire sky).1.isSome = true) :
    SelfCorrected (worker.step sky) later ↔
      worker.gps.gpio = true ∧ worker.gps.powerSaving = worker.gps.asleep ∧
        ∀ sky ∈ later, sky.first.isSome = true := by
  have settled (gpio : worker.gps.gpio = true) (belief : worker.gps.powerSaving = worker.gps.asleep) :
      Settled (worker.step sky) := by
    cases first : sky.first with
    | some fix => exact (settled_step_found gpio isOpen belief (by rw [first]; rfl)).1
    | none =>
      rw [acquire_missed gpio isOpen belief first] at obtained
      cases obtained
  constructor
  · intro corrected
    have gpio : worker.gps.gpio = true := by
      cases driven : worker.gps.gpio with
      | true => rfl
      | false => cases corrected.asleep.symm.trans (asleep_step_without driven isOpen obtained)
    have belief : worker.gps.powerSaving = worker.gps.asleep := by
      have drift := drifted_step obtained
      unfold Gps.drifted at drift
      rw [corrected.belief, bne_self_eq_false] at drift
      exact (bne_eq_false_iff_eq.mp drift.symm).symm
    exact ⟨gpio, belief, ((settled gpio belief).run later).2.2.mp corrected.wasted⟩
  · intro synchronised
    obtain ⟨gpio, belief, found⟩ := synchronised
    have after := settled gpio belief
    exact
      { belief := after.powerSaving.trans after.asleep.symm
        asleep := after.asleep
        wakes := fun before _ _ => (after.run before).1.wakes
        wasted := (after.run later).2.2.mpr found }

theorem self_corrected_daily : SelfCorrected (step ⟨{ asleep := true, powerSaving := true }, none⟩
    (⟨some 1, none⟩ : Sky Nat)) [⟨some 2, none⟩] :=
  (self_corrected_iff _ _ _ rfl rfl).mpr ⟨rfl, rfl, by decide⟩

/-- A module that sleeps while it is believed awake: the second attempt finds the fix, and the
belief is as wrong as before. -/
theorem never_corrected : ∃ (worker : GpsWorker Nat) (sky : Sky Nat), worker.gps.isOpen = true ∧
    worker.gps.gpio = true ∧ (worker.acquire sky).1.isSome = true ∧ ¬SelfCorrected (worker.step sky) [] := by
  refine ⟨⟨{ asleep := true }, none⟩, ⟨some 1, some 1⟩, rfl, rfl, rfl, fun corrected => ?_⟩
  cases corrected.asleep

end GpsWorker

end Wqm1.Sensing
