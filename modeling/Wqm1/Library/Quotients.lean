import Wqm1.Library.Rounding

/-! Quotients of whole numbers in 53 bits: their whole part, and when two of them are told apart. -/

set_option autoImplicit false

namespace Wqm1.Library.Double

/-- The whole part, which an infinite number has not. -/
def trunc : Double → Option Int
  | .finite value => some (if value < 0 then ⌈value⌉ else ⌊value⌋)
  | .infinite _ | .nan => none

def quotient (number divisor : Nat) : Double := ofRat (number / divisor)

variable {value lower upper : Rat} {number divisor : Nat}

/-- Above the least normal numbers the spacing shrinks with the number. -/
theorem spacing_le_mul (normal : 2 ^ (-1022 : Int) ≤ value) : spacing value ≤ value * 2 ^ (-52 : Int) := by
  have positive : 0 < value := (zpow_pos two_pos _).trans_le normal
  have exponent : -1022 ≤ Int.log 2 value := (Int.zpow_le_iff_le_log Nat.one_lt_two positive).mp (by exact_mod_cast normal)
  have below : (2 : Rat) ^ Int.log 2 value ≤ value := by exact_mod_cast Int.zpow_log_le_self Nat.one_lt_two positive
  have split : spacing value = 2 ^ Int.log 2 value * 2 ^ (-52 : Int) := by
    rw [spacing, abs_of_pos positive, ← zpow_add₀ (by norm_num)]
    congr 1
    omega
  rw [split]
  exact mul_le_mul_of_nonneg_right below (by positivity)

theorem least_normal_le : (2 : Rat) ^ (-1022 : Int) ≤ 2 ^ (-52 : Int) :=
  zpow_le_zpow_right₀ one_le_two (by decide)

/-- Rounding keeps the order of numbers that are not next to each other. -/
theorem roundRat_lt_roundRat (normal : 2 ^ (-1022 : Int) ≤ lower) (apart : lower * (1 + 2 ^ (-50 : Int)) ≤ upper) :
    roundRat lower < roundRat upper := by
  have positive : 0 < lower := (zpow_pos two_pos _).trans_le normal
  have less : lower ≤ upper := by
    refine le_trans ?_ apart
    nlinarith [show (0 : Rat) < 2 ^ (-50 : Int) by positivity]
  have near := (abs_le.mp (abs_roundRat_sub positive.le)).2
  have far := (abs_le.mp (abs_roundRat_sub (positive.le.trans less))).1
  have narrow := spacing_le_mul normal
  have wide := spacing_le_mul (normal.trans less)
  norm_num at narrow wide apart
  linarith

/-- A quotient that is not next to a whole number keeps its whole part. -/
theorem floor_roundRat {exponent : Nat} (positive : 0 < exponent) (short : exponent ≤ 53) (real : 0 < divisor)
    (small : divisor ≤ 2 ^ (53 - exponent)) (below : (number / divisor : Rat) < 2 ^ exponent) :
    ⌊roundRat (number / divisor)⌋ = ((number / divisor : Nat) : Int) := by
  have unit : (0 : Rat) < divisor := by exact_mod_cast real
  have nonneg : (0 : Rat) ≤ number / divisor := by positivity
  have narrow : spacing (number / divisor : Rat) ≤ 1 / divisor := by
    calc spacing (number / divisor : Rat) ≤ 2 ^ ((exponent : Int) - 53) :=
          spacing_le positive (by rwa [abs_of_nonneg nonneg])
      _ = 1 / 2 ^ (53 - exponent) := by
        rw [one_div, ← zpow_natCast, ← zpow_neg]
        congr 1
        omega
      _ ≤ 1 / divisor := one_div_le_one_div_of_le unit (by exact_mod_cast small)
  have near := abs_le.mp (abs_roundRat_sub nonneg)
  have parts : (number : Rat) / divisor = (number / divisor : Nat) + (number % divisor : Nat) / divisor := by
    have division : (number : Rat) = divisor * (number / divisor : Nat) + (number % divisor : Nat) := by
      exact_mod_cast (Nat.div_add_mod number divisor).symm
    field_simp
    linarith
  have rest : ((number % divisor : Nat) : Rat) / divisor ≤ 1 - 1 / divisor := by
    have whole : ((number % divisor : Nat) : Rat) + 1 ≤ divisor := by exact_mod_cast Nat.mod_lt number real
    rw [div_le_iff₀ unit, sub_mul, one_div, inv_mul_cancel₀ unit.ne']
    linarith
  have half : 0 < 1 / (divisor : Rat) := by positivity
  rw [Int.floor_eq_iff, Int.cast_natCast]
  by_cases exact : number % divisor = 0
  · have whole : (number : Rat) / divisor = (number / divisor : Nat) := by
      rw [parts, exact]
      simp
    have few : number / divisor < 2 ^ 53 := by
      have bound : ((number / divisor : Nat) : Rat) < 2 ^ 53 := by
        rw [← whole]
        exact below.trans_le (pow_le_pow_right₀ (by norm_num) short)
      exact_mod_cast bound
    rw [whole, roundRat_natCast few]
    constructor <;> linarith
  · have part : 1 / (divisor : Rat) ≤ ((number % divisor : Nat) : Rat) / divisor := by
      apply div_le_div_of_nonneg_right _ unit.le
      exact_mod_cast Nat.one_le_iff_ne_zero.mpr exact
    constructor <;> linarith

theorem trunc_quotient {exponent : Nat} (positive : 0 < exponent) (short : exponent < 53) (real : 0 < divisor)
    (small : divisor ≤ 2 ^ (53 - exponent)) (below : (number / divisor : Rat) < 2 ^ exponent) :
    (quotient number divisor).trunc = some ((number / divisor : Nat) : Int) := by
  have nonneg : (0 : Rat) ≤ number / divisor := by positivity
  have held : roundRat (number / divisor) < 2 ^ 1024 := by
    have whole : (number / divisor : Rat) ≤ (2 ^ exponent : Nat) := by exact_mod_cast below.le
    have less := roundRat_le nonneg whole (two_pow_lt short)
    exact less.trans_lt (lt_trans (by exact_mod_cast two_pow_lt short) two_pow_53_lt)
  rw [quotient, ofRat_eq nonneg held, trunc, if_neg (roundRat_nonneg nonneg).not_gt,
    floor_roundRat positive short.le real small below]

end Wqm1.Library.Double
