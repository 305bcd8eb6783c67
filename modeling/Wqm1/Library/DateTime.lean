import Mathlib.Data.Prod.Lex

/-! Dates of the Gregorian calendar with a time of day, all in one time zone, in the range and the
order that Python's `datetime` gives them. -/

set_option autoImplicit false

namespace Wqm1.Library

def leapYear (year : Nat) : Bool := year % 4 == 0 && (year % 100 != 0 || year % 400 == 0)

def daysInMonth (year month : Nat) : Nat :=
  if month = 2 then (if leapYear year then 29 else 28)
  else if month = 4 ∨ month = 6 ∨ month = 9 ∨ month = 11 then 30 else 31

theorem twentyEight_le_daysInMonth (year month : Nat) : 28 ≤ daysInMonth year month := by
  unfold daysInMonth
  split
  · split <;> decide
  · split <;> decide

/-- The time of the day is in microseconds. -/
@[ext] structure DateTime where
  year : Nat
  month : Nat
  day : Nat
  time : Nat
  yearRange : 1 ≤ year ∧ year ≤ 9999
  monthRange : 1 ≤ month ∧ month ≤ 12
  dayRange : 1 ≤ day ∧ day ≤ daysInMonth year month
  timeRange : time < 86400000000
deriving DecidableEq

namespace DateTime

/-- In the order of their weight. -/
def fields (when : DateTime) : Nat ×ₗ Nat ×ₗ Nat ×ₗ Nat :=
  toLex (when.year, toLex (when.month, toLex (when.day, when.time)))

theorem fields_injective : Function.Injective fields := by
  intro left right same
  have parts : (left.year, left.month, left.day, left.time) =
      (right.year, right.month, right.day, right.time) := same
  simp only [Prod.mk.injEq] at parts
  obtain ⟨year, month, day, time⟩ := parts
  exact DateTime.ext year month day time

instance : LinearOrder DateTime := LinearOrder.lift' fields fields_injective

theorem le_iff {left right : DateTime} : left ≤ right ↔ left.fields ≤ right.fields := Iff.rfl

/-- The same month and time of day in another year and on another day, if there is such a date. -/
def replace (when : DateTime) (year day : Nat) : Option DateTime :=
  if valid : (1 ≤ year ∧ year ≤ 9999) ∧ 1 ≤ day ∧ day ≤ daysInMonth year when.month then
    some { when with year, day, yearRange := valid.1, dayRange := valid.2 }
  else none

theorem replace_eq_some {when later : DateTime} {year day : Nat}
    (replaced : when.replace year day = some later) :
    later.year = year ∧ later.month = when.month ∧ later.day = day ∧ later.time = when.time := by
  unfold replace at replaced
  split at replaced
  · cases replaced
    exact ⟨rfl, rfl, rfl, rfl⟩
  · cases replaced

/-- Where a date of the year exists, a replacement fails for its day being past the month's last. -/
theorem lt_day_of_replace_eq_none {when : DateTime} {year day : Nat}
    (missing : when.replace year day = none)
    (range : 1 ≤ year ∧ year ≤ 9999) (first : 1 ≤ day) : daysInMonth year when.month < day := by
  unfold replace at missing
  split at missing
  next => cases missing
  next invalid =>
      by_contra inside
      exact invalid ⟨range, first, by omega⟩

/-- The whole seconds of a time. -/
def wholeSeconds (when : DateTime) : DateTime :=
  { when with
    time := when.time / 1000000 * 1000000
    timeRange := lt_of_le_of_lt (Nat.div_mul_le_self _ _) when.timeRange }

theorem wholeSeconds_eq {when : DateTime} (whole : when.time % 1000000 = 0) :
    when.wholeSeconds = when := by
  have same : when.time / 1000000 * 1000000 = when.time := by omega
  exact DateTime.ext rfl rfl rfl same

/-- The same day and time of day some calendar years on, the 29th of February in any year. -/
def anniversary (when : DateTime) (years : Nat) : Nat ×ₗ Nat ×ₗ Nat ×ₗ Nat :=
  toLex (when.year + years, toLex (when.month, toLex (when.day, when.time)))

theorem fields_le_anniversary {when later : DateTime} {years : Nat}
    (year : later.year = when.year + years)
    (month : later.month = when.month) (day : later.day ≤ when.day)
    (time : later.time = when.time) :
    later.fields ≤ when.anniversary years := by
  unfold fields anniversary
  rw [year, month, time]
  have tail : toLex (later.day, when.time) ≤ toLex (when.day, when.time) := by
    rcases Nat.lt_or_eq_of_le day with earlier | same
    · exact (Prod.Lex.toLex_lt_toLex.mpr (.inl earlier)).le
    · rw [same]
  exact Prod.Lex.toLex_le_toLex.mpr (.inr ⟨rfl, Prod.Lex.toLex_le_toLex.mpr (.inr ⟨rfl, tail⟩)⟩)

end DateTime

end Wqm1.Library
