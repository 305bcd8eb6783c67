import Mathlib.Data.Int.Log
import Mathlib.Data.Rat.Floor
import Mathlib.Tactic.FieldSimp
import Mathlib.Tactic.Linarith
import Wqm1.Library.Double

/-! The arithmetic of 53 bits: every result is the nearest number that can be held. -/

set_option autoImplicit false

namespace Wqm1.Library.Double

/-- The distance of the numbers around `value`, which no longer shrinks below the least normal
number. -/
def spacing (value : Rat) : Rat := 2 ^ max (Int.log 2 |value| - 52) (-1074)

/-- How many of `spacing` are nearest to the magnitude of `value`. -/
def steps (value : Rat) : Nat := nearest (|value| / spacing value).den (|value| / spacing value).num.natAbs

def roundRat (value : Rat) : Rat := if value < 0 then -(steps value * spacing value) else steps value * spacing value

/-- The nearest number, or an infinite one beyond the range. -/
@[irreducible] def ofRat (value : Rat) : Double :=
  if |roundRat value| < 2 ^ 1024 then .finite (roundRat value) else .infinite (decide (value < 0))

def add : Double → Double → Double
  | .finite left, .finite right => ofRat (left + right)
  | .infinite left, .infinite right => if left = right then .infinite left else .nan
  | .infinite left, .finite _ => .infinite left
  | .finite _, .infinite right => .infinite right
  | _, _ => .nan

/-- The division by a number that is not zero. -/
def divBy : Double → Rat → Double
  | .finite value, divisor => ofRat (value / divisor)
  | .infinite negative, divisor => .infinite (negative != decide (divisor < 0))
  | .nan, _ => .nan

def neg : Double → Double
  | .finite value => .finite (-value)
  | .infinite negative => .infinite !negative
  | .nan => .nan

section Nearest

variable {unit number : Nat}

/-- The count is within half a unit of the number. -/
theorem two_nearest (positive : 0 < unit) :
    2 * (nearest unit number * unit) ≤ 2 * number + unit ∧ 2 * number ≤ 2 * (nearest unit number * unit) + unit := by
  have division := Nat.div_add_mod number unit
  have rest := Nat.mod_lt number positive
  rw [Nat.mul_comm] at division
  unfold nearest
  split
  next => omega
  next =>
    rw [Nat.add_mul]
    omega

theorem nearest_one (number : Nat) : nearest 1 number = number := by
  simp [nearest, Nat.mod_one]

end Nearest

variable {value : Rat}

theorem abs_nearest_sub {count : Rat} (nonneg : 0 ≤ count) :
    |(nearest count.den count.num.natAbs : Rat) - count| ≤ 1 / 2 := by
  have positive : (0 : Rat) < count.den := by exact_mod_cast count.den_pos
  have whole : (count.num.natAbs : Rat) = count * count.den := by
    rw [Rat.mul_den_eq_num, Nat.cast_natAbs, abs_of_nonneg (Rat.num_nonneg.mpr nonneg)]
  have above : 2 * ((nearest count.den count.num.natAbs : Rat) * count.den) ≤
      2 * (count.num.natAbs : Rat) + count.den := by
    exact_mod_cast (two_nearest count.den_pos).1
  have below : 2 * (count.num.natAbs : Rat) ≤
      2 * ((nearest count.den count.num.natAbs : Rat) * count.den) + count.den := by
    exact_mod_cast (two_nearest count.den_pos).2
  rw [whole] at above below
  rw [abs_le]
  constructor
  · nlinarith
  · nlinarith

theorem spacing_pos (value : Rat) : 0 < spacing value := zpow_pos (by norm_num) _

/-- The error of a rounding is half of the spacing. -/
theorem abs_roundRat_sub (nonneg : 0 ≤ value) : |roundRat value - value| ≤ spacing value / 2 := by
  have positive := spacing_pos value
  have near : |(steps value : Rat) - |value| / spacing value| ≤ 1 / 2 :=
    abs_nearest_sub (div_nonneg (abs_nonneg value) positive.le)
  have factored : roundRat value - value = (steps value - |value| / spacing value) * spacing value := by
    rw [roundRat, if_neg nonneg.not_gt, abs_of_nonneg nonneg]
    field_simp
  rw [factored, abs_mul, abs_of_pos positive]
  linarith [mul_le_mul_of_nonneg_right near positive.le]

theorem steps_le {bound : Nat} (within : |value| ≤ bound * spacing value) : steps value ≤ bound := by
  have positive := spacing_pos value
  have near : |(steps value : Rat) - |value| / spacing value| ≤ 1 / 2 :=
    abs_nearest_sub (div_nonneg (abs_nonneg value) positive.le)
  have few : |value| / spacing value ≤ bound := (div_le_iff₀ positive).mpr within
  have less : (steps value : Rat) < (bound + 1 : Nat) := by
    push_cast
    linarith [(abs_le.mp near).2]
  exact Nat.le_of_lt_succ (by exact_mod_cast less)

theorem steps_eq {count : Nat} (whole : |value| = count * spacing value) : steps value = count := by
  have divided : |value| / spacing value = count := by
    rw [whole, mul_div_cancel_right₀ _ (spacing_pos value).ne']
  rw [steps, divided, Rat.den_natCast, Rat.num_natCast, nearest_one, Int.natAbs_natCast]

theorem log_lt {exponent : Nat} (positive : 0 < exponent) (below : |value| < 2 ^ exponent) :
    Int.log 2 |value| < exponent := by
  by_cases zero : value = 0
  · rw [zero, abs_zero, Int.log_zero_right]
    exact_mod_cast positive
  · apply (Int.lt_zpow_iff_log_lt Nat.one_lt_two (abs_pos.mpr zero)).mp
    rw [zpow_natCast]
    exact_mod_cast below

theorem spacing_le {exponent : Nat} (positive : 0 < exponent) (below : |value| < 2 ^ exponent) :
    spacing value ≤ 2 ^ ((exponent : Int) - 53) := by
  have less := log_lt positive below
  apply zpow_le_zpow_right₀ (by norm_num)
  omega

/-- Below 2^53 every integer is a multiple of the spacing. -/
theorem exists_mul_spacing (below : |value| < 2 ^ 53) : ∃ parts : Nat, (parts : Rat) * spacing value = 1 := by
  have less := log_lt (by decide) below
  refine ⟨2 ^ (max (Int.log 2 |value| - 52) (-1074)).natAbs, ?_⟩
  have sum : ((max (Int.log 2 |value| - 52) (-1074)).natAbs : Int) + max (Int.log 2 |value| - 52) (-1074) = 0 := by
    omega
  rw [spacing, Nat.cast_pow, Nat.cast_ofNat, ← zpow_natCast, ← zpow_add₀ (by norm_num), sum, zpow_zero]

theorem roundRat_nonneg (nonneg : 0 ≤ value) : 0 ≤ roundRat value := by
  rw [roundRat, if_neg nonneg.not_gt]
  exact mul_nonneg (Nat.cast_nonneg _) (spacing_pos value).le

theorem roundRat_le {bound : Nat} (nonneg : 0 ≤ value) (within : value ≤ bound) (small : bound < 2 ^ 53) :
    roundRat value ≤ bound := by
  have below : |value| < 2 ^ 53 := by
    rw [abs_of_nonneg nonneg]
    exact within.trans_lt (by exact_mod_cast small)
  obtain ⟨parts, unit⟩ := exists_mul_spacing below
  have few : steps value ≤ bound * parts := by
    apply steps_le
    rw [abs_of_nonneg nonneg, Nat.cast_mul, mul_assoc, unit, mul_one]
    exact within
  rw [roundRat, if_neg nonneg.not_gt]
  calc (steps value : Rat) * spacing value ≤ (bound * parts : Nat) * spacing value :=
        mul_le_mul_of_nonneg_right (by exact_mod_cast few) (spacing_pos value).le
    _ = bound := by rw [Nat.cast_mul, mul_assoc, unit, mul_one]

theorem roundRat_natCast {number : Nat} (small : number < 2 ^ 53) : roundRat number = number := by
  have nonneg : (0 : Rat) ≤ number := Nat.cast_nonneg number
  have below : |(number : Rat)| < 2 ^ 53 := by
    rw [abs_of_nonneg nonneg]
    exact_mod_cast small
  obtain ⟨parts, unit⟩ := exists_mul_spacing below
  have whole : |(number : Rat)| = (number * parts : Nat) * spacing (number : Rat) := by
    rw [abs_of_nonneg nonneg, Nat.cast_mul, mul_assoc, unit, mul_one]
  rw [roundRat, if_neg nonneg.not_gt, steps_eq whole, ← whole, abs_of_nonneg nonneg]

theorem ofRat_eq (nonneg : 0 ≤ value) (small : roundRat value < 2 ^ 1024) : ofRat value = .finite (roundRat value) := by
  unfold ofRat
  rw [abs_of_nonneg (roundRat_nonneg nonneg), if_pos small]

theorem two_pow_53_lt : (2 : Rat) ^ 53 < 2 ^ 1024 := pow_lt_pow_right₀ (by norm_num) (by norm_num)

/-- A number within the exact integers stays below the integers above it, and moves by half of the
spacing. -/
theorem ofRat_spec {exponent : Nat} (nonneg : 0 ≤ value) (positive : 0 < exponent) (short : exponent < 53)
    (below : value < 2 ^ exponent) :
    ∃ rounded : Rat, ofRat value = .finite rounded ∧ 0 ≤ rounded ∧
      (∀ bound : Nat, bound < 2 ^ 53 → value ≤ bound → rounded ≤ bound) ∧
      |rounded - value| ≤ 2 ^ ((exponent : Int) - 53) / 2 := by
  have whole : value ≤ (2 ^ exponent : Nat) := by exact_mod_cast below.le
  have small : 2 ^ exponent < 2 ^ 53 := two_pow_lt short
  have held : roundRat value < 2 ^ 1024 :=
    (roundRat_le nonneg whole small).trans_lt (lt_trans (by exact_mod_cast small) two_pow_53_lt)
  refine ⟨roundRat value, ofRat_eq nonneg held, roundRat_nonneg nonneg, ?_, ?_⟩
  · intro bound exact within
    exact roundRat_le nonneg within exact
  · have narrow := spacing_le positive (by rwa [abs_of_nonneg nonneg])
    linarith [abs_roundRat_sub nonneg]

theorem ofRat_natCast {number : Nat} (small : number < 2 ^ 53) : ofRat number = .finite number := by
  have exact : roundRat number = number := roundRat_natCast small
  have held : roundRat number < 2 ^ 1024 := by
    rw [exact]
    exact lt_trans (by exact_mod_cast small) two_pow_53_lt
  rw [ofRat_eq (Nat.cast_nonneg number) held, exact]

example : [ofRat (1 / 10), ofRat (10 ^ 400)] = [.finite (3602879701896397 / 2 ^ 55), .infinite false] := by
  decide +kernel

end Wqm1.Library.Double
