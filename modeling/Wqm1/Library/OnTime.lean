import Mathlib.Algebra.Order.Field.Basic
import Mathlib.Tactic.Linarith

/-! How long a switch has been on inside a window of time, and when it was last switched off. -/

set_option autoImplicit false

namespace Wqm1.Library

/-- `began` is when the switch came on, if it is on, or when the window began if that is
later; `ended` is the length of the on-periods of the window that are over. -/
structure OnTime (Time : Type) where
  began : Option Time := none
  ended : Time
  dropped : Option Time := none

namespace OnTime

variable {Time : Type} [Field Time]

def switch (meter : OnTime Time) (now : Time) : Bool → OnTime Time
  | true => if meter.began.isSome then meter else { meter with began := some now }
  | false => meter.began.elim meter fun began => ⟨none, meter.ended + (now - began), some now⟩

/-- A new window begins. -/
def restart (meter : OnTime Time) (now : Time) : OnTime Time :=
  { meter with began := meter.began.map fun _ => now, ended := 0 }

variable {meter : OnTime Time} {now : Time}

theorem switch_cases (meter : OnTime Time) (now : Time) (state : Bool) :
    meter.switch now state = meter ∨
      (meter.began = none ∧ meter.switch now state = { meter with began := some now }) ∨
      ∃ began, meter.began = some began ∧
        meter.switch now state = ⟨none, meter.ended + (now - began), some now⟩ := by
  unfold switch
  cases on : meter.began with
  | none =>
    cases state with
    | true => exact .inr (.inl ⟨rfl, by simp only [Option.isSome_none, Bool.false_eq_true, ↓reduceIte]⟩)
    | false => exact .inl rfl
  | some began =>
    cases state with
    | true => exact .inl (by simp only [Option.isSome_some, ↓reduceIte])
    | false => exact .inr (.inr ⟨began, rfl, rfl⟩)

/-- A switch that is already there. -/
theorem switch_isSome (meter : OnTime Time) (now : Time) : meter.switch now meter.began.isSome = meter := by
  unfold switch
  cases on : meter.began with
  | none => rfl
  | some began => simp only [Option.isSome_some, ↓reduceIte]

theorem dropped_switch (meter : OnTime Time) (now : Time) (state : Bool) :
    (meter.switch now state).dropped = meter.dropped ∨
      (state = false ∧ (meter.switch now state).dropped = some now) := by
  unfold switch
  cases state with
  | true =>
    left
    dsimp only
    split <;> rfl
  | false =>
    dsimp only
    cases on : meter.began with
    | none => exact .inl rfl
    | some began => exact .inr ⟨rfl, rfl⟩

theorem isSome_began_switch (state : Bool) : (meter.switch now state).began.isSome = state := by
  unfold switch
  cases on : meter.began with
  | none => cases state <;> simp [on]
  | some began => cases state <;> simp [on]

/-- What a switch that is used any number of times at one moment comes to. -/
inductive Switched (now : Time) (meter : OnTime Time) : OnTime Time → Prop where
  | refl : Switched now meter meter
  | switch {middle : OnTime Time} (earlier : Switched now meter middle) (state : Bool) :
      Switched now meter (middle.switch now state)

theorem Switched.trans {first second third : OnTime Time} (earlier : Switched now first second)
    (later : Switched now second third) : Switched now first third := by
  induction later with
  | refl => exact earlier
  | switch _ state ih => exact ih.switch state

variable [LinearOrder Time]

/-- The on-time in the window up to a moment; what the switch is on for now ends there. -/
def spentBy (meter : OnTime Time) (moment : Time) : Time :=
  meter.ended + meter.began.elim 0 fun began => max 0 (moment - began)

/-- The meter does not run ahead of the clock. -/
structure Timely (meter : OnTime Time) (now : Time) : Prop where
  began : ∀ began ∈ meter.began, began ≤ now
  ended : 0 ≤ meter.ended
  dropped : ∀ dropped ∈ meter.dropped, dropped ≤ now

theorem timely_new (now : Time) : ({ ended := 0 } : OnTime Time).Timely now :=
  ⟨(fun _ impossible => by cases impossible), le_rfl, (fun _ impossible => by cases impossible)⟩

theorem spentBy_on {began : Time} (on : meter.began = some began) (moment : Time) :
    meter.spentBy moment = meter.ended + max 0 (moment - began) := by
  unfold spentBy
  rw [on]
  rfl

theorem spentBy_off (off : meter.began = none) (moment : Time) : meter.spentBy moment = meter.ended := by
  unfold spentBy
  rw [off]
  exact add_zero _

theorem Timely.later (timely : Timely meter now) {later : Time} (after : now ≤ later) : Timely meter later where
  began began on := (timely.began began on).trans after
  ended := timely.ended
  dropped dropped off := (timely.dropped dropped off).trans after

theorem Timely.restart (timely : Timely meter now) : Timely (meter.restart now) now where
  began began on := by
    obtain ⟨_, _, same⟩ := Option.map_eq_some_iff.mp on
    exact same.symm.le
  ended := le_rfl
  dropped := timely.dropped

variable [IsStrictOrderedRing Time]

theorem Timely.spentBy_on (timely : Timely meter now) {began : Time} (on : meter.began = some began) :
    meter.spentBy now = meter.ended + (now - began) := by
  have first : began ≤ now := timely.began began on
  rw [OnTime.spentBy_on on, max_eq_right (by linarith)]

theorem spentBy_mono {earlier later : Time} (before : earlier ≤ later) :
    meter.spentBy earlier ≤ meter.spentBy later := by
  cases on : meter.began with
  | none => rw [spentBy_off on, spentBy_off on]
  | some began =>
    rw [spentBy_on on, spentBy_on on]
    have grows : max 0 (earlier - began) ≤ max 0 (later - began) := max_le_max le_rfl (by linarith)
    linarith

theorem ended_le_spentBy (meter : OnTime Time) (moment : Time) : meter.ended ≤ meter.spentBy moment := by
  cases on : meter.began with
  | none => rw [spentBy_off on]
  | some began =>
    rw [spentBy_on on]
    have positive : 0 ≤ max 0 (moment - began) := le_max_left ..
    linarith

theorem Timely.spentBy_nonneg (timely : Timely meter now) (moment : Time) : 0 ≤ meter.spentBy moment :=
  timely.ended.trans (ended_le_spentBy meter moment)

theorem Timely.switch (timely : Timely meter now) (state : Bool) : Timely (meter.switch now state) now := by
  obtain same | ⟨-, same⟩ | ⟨began, on, same⟩ := switch_cases meter now state
  · rw [same]
    exact timely
  · rw [same]
    exact ⟨fun began on => (Option.some.inj on).symm.le, timely.ended, timely.dropped⟩
  · rw [same]
    have first : began ≤ now := timely.began began on
    have before : 0 ≤ meter.ended := timely.ended
    exact ⟨(fun _ impossible => by cases impossible), add_nonneg before (sub_nonneg.mpr first),
      fun dropped off => (Option.some.inj off).symm.le⟩

/-- Switching takes no time. -/
theorem Timely.spentBy_switch (timely : Timely meter now) (state : Bool) :
    (meter.switch now state).spentBy now = meter.spentBy now := by
  obtain same | ⟨off, same⟩ | ⟨began, on, same⟩ := switch_cases meter now state
  · rw [same]
  · rw [same, spentBy_off off, OnTime.spentBy_on rfl, sub_self, max_self, add_zero]
  · rw [same, timely.spentBy_on on, spentBy_off rfl]

/-- What was on by an earlier moment stays counted when the switch is used. -/
theorem Timely.spentBy_le_switch (timely : Timely meter now) (state : Bool) {earlier : Time}
    (before : earlier ≤ now) : meter.spentBy earlier ≤ (meter.switch now state).spentBy earlier := by
  obtain same | ⟨off, same⟩ | ⟨began, on, same⟩ := switch_cases meter now state
  · rw [same]
  · rw [same, spentBy_off off]
    exact ended_le_spentBy { meter with began := some now } earlier
  · rw [same]
    calc meter.spentBy earlier ≤ meter.spentBy now := spentBy_mono before
      _ = meter.ended + (now - began) := timely.spentBy_on on
      _ = _ := by rw [spentBy_off rfl]

namespace Switched

variable {after : OnTime Time}

theorem timely (switched : Switched now meter after) (timely : Timely meter now) : Timely after now := by
  induction switched with
  | refl => exact timely
  | switch _ state ih => exact ih.switch state

theorem spentBy_eq (switched : Switched now meter after) (timely : Timely meter now) :
    after.spentBy now = meter.spentBy now := by
  induction switched with
  | refl => rfl
  | switch earlier state ih => exact ((earlier.timely timely).spentBy_switch state).trans ih

theorem spentBy_le (switched : Switched now meter after) (timely : Timely meter now) {earlier : Time}
    (before : earlier ≤ now) : meter.spentBy earlier ≤ after.spentBy earlier := by
  induction switched with
  | refl => exact le_rfl
  | switch first state ih => exact ih.trans ((first.timely timely).spentBy_le_switch state before)

end Switched

end OnTime

end Wqm1.Library
