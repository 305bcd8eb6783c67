import Mathlib.Algebra.Order.Ring.Rat
import Mathlib.Data.Nat.Log
import Mathlib.Tactic.Ring

/-! Floating-point numbers of 53 bits, as far as comparisons and the conversion of integers go. -/

set_option autoImplicit false

namespace Wqm1.Library

inductive Double where
  | finite (value : Rat)
  | infinite (negative : Bool)
  | nan
deriving DecidableEq

namespace Double

def lt : Double → Rat → Bool
  | .finite value, bound => decide (value < bound)
  | .infinite negative, _ => negative
  | .nan, _ => false

def gt : Double → Rat → Bool
  | .finite value, bound => decide (bound < value)
  | .infinite negative, _ => !negative
  | .nan, _ => false

/-- How many units are nearest to a number, and the even count of two. -/
def nearest (unit number : Nat) : Nat :=
  if 2 * (number % unit) < unit ∨ (2 * (number % unit) = unit ∧ number / unit % 2 = 0) then
    number / unit
  else
    number / unit + 1

theorem div_le_nearest (unit number : Nat) : number / unit ≤ nearest unit number := by
  unfold nearest
  split <;> omega

theorem nearest_lt_iff {unit number most : Nat} (positive : 0 < unit) (even : most % 2 = 0) :
    nearest unit number < most ↔ 2 * number + unit < 2 * (most * unit) := by
  have division := Nat.div_add_mod number unit
  have rest := Nat.mod_lt number positive
  unfold nearest
  generalize number % unit = remainder at *
  generalize number / unit = quotient at *
  obtain below | last | above : quotient + 2 ≤ most ∨ quotient + 1 = most ∨ most ≤ quotient := by omega
  · have room : unit * quotient + 2 * unit ≤ most * unit := by
      calc unit * quotient + 2 * unit = (quotient + 2) * unit := by ring
        _ ≤ most * unit := Nat.mul_le_mul_right unit below
    split <;> omega
  · have room : most * unit = unit * quotient + unit := by
      rw [← last]
      ring
    split <;> omega
  · have room : most * unit ≤ unit * quotient := by
      rw [Nat.mul_comm unit]
      exact Nat.mul_le_mul_right unit above
    split <;> omega

/-- The nearest number of 53 bits, whatever its exponent. -/
def round (number : Nat) : Nat :=
  nearest (2 ^ (number.log2 - 52)) number * 2 ^ (number.log2 - 52)

/-- The conversion of an integer, which is missing where it overflows. -/
@[irreducible] def ofInt (number : Int) : Option Double :=
  if round number.natAbs < 2 ^ 1024 then some (.finite (number.sign * round number.natAbs : Int)) else none

theorem round_of_lt {number : Nat} (small : number < 2 ^ 53) : round number = number := by
  have short : number.log2 - 52 = 0 := by
    by_cases zero : number = 0
    · rw [zero]
      rfl
    · have below := (Nat.log2_lt zero).mpr small
      omega
  unfold round nearest
  rw [short]
  simp [Nat.mod_one]

theorem le_round {number : Nat} (large : 2 ^ 53 ≤ number) : 2 ^ 53 ≤ round number := by
  have nonzero : number ≠ 0 := by
    intro zero
    rw [zero] at large
    exact absurd large (by decide)
  have long : 53 ≤ number.log2 := (Nat.le_log2 nonzero).mpr large
  have whole : 2 ^ 52 * 2 ^ (number.log2 - 52) ≤ number := by
    rw [← pow_add, show 52 + (number.log2 - 52) = number.log2 by omega]
    exact Nat.log2_self_le nonzero
  have unit : 2 ≤ 2 ^ (number.log2 - 52) := by
    calc 2 = 2 ^ 1 := rfl
      _ ≤ 2 ^ (number.log2 - 52) := Nat.pow_le_pow_right (by decide) (by omega)
  have quotient : 2 ^ 52 ≤ number / 2 ^ (number.log2 - 52) :=
    (Nat.le_div_iff_mul_le (Nat.two_pow_pos _)).mpr whole
  calc 2 ^ 53 = 2 ^ 52 * 2 := rfl
    _ ≤ nearest (2 ^ (number.log2 - 52)) number * 2 ^ (number.log2 - 52) :=
      Nat.mul_le_mul (quotient.trans (div_le_nearest _ _)) unit

theorem two_pow_log2_le_round {number : Nat} (nonzero : number ≠ 0) (long : 52 ≤ number.log2) :
    2 ^ number.log2 ≤ round number := by
  have whole : 2 ^ 52 * 2 ^ (number.log2 - 52) = 2 ^ number.log2 := by
    rw [← pow_add, Nat.add_sub_cancel' long]
  have quotient : 2 ^ 52 ≤ number / 2 ^ (number.log2 - 52) := by
    apply (Nat.le_div_iff_mul_le (Nat.two_pow_pos _)).mpr
    rw [whole]
    exact Nat.log2_self_le nonzero
  rw [← whole]
  exact Nat.mul_le_mul_right _ (quotient.trans (div_le_nearest _ _))

theorem round_le_two_pow_log2 {number : Nat} (long : 52 ≤ number.log2) : round number ≤ 2 ^ (number.log2 + 1) := by
  have whole : 2 ^ 53 * 2 ^ (number.log2 - 52) = 2 ^ (number.log2 + 1) := by
    rw [← pow_add, show 53 + (number.log2 - 52) = number.log2 + 1 by omega]
  have below : number / 2 ^ (number.log2 - 52) < 2 ^ 53 := by
    apply Nat.div_lt_of_lt_mul
    rw [Nat.mul_comm, whole]
    exact Nat.lt_log2_self
  have most : nearest (2 ^ (number.log2 - 52)) number ≤ 2 ^ 53 := by
    unfold nearest
    split <;> omega
  rw [← whole]
  exact Nat.mul_le_mul_right _ most

theorem round_lt_next_iff {number exponent : Nat} (exact : number.log2 = exponent + 52) :
    round number < 2 ^ 53 * 2 ^ exponent ↔ 2 * number + 2 ^ exponent < 2 * (2 ^ 53 * 2 ^ exponent) := by
  unfold round
  rw [exact, Nat.add_sub_cancel, Nat.mul_lt_mul_right (Nat.two_pow_pos exponent)]
  exact nearest_lt_iff (Nat.two_pow_pos exponent) (by decide)

theorem two_pow_le {small large : Nat} (less : small ≤ large) : 2 ^ small ≤ 2 ^ large :=
  Nat.pow_le_pow_right Nat.two_pos less

theorem two_pow_lt {small large : Nat} (less : small < large) : 2 ^ small < 2 ^ large :=
  Nat.pow_lt_pow_right Nat.one_lt_two less

theorem two_pow_split {whole first second : Nat} (parts : whole = first + second) :
    2 ^ whole = 2 ^ first * 2 ^ second := by
  rw [parts, pow_add]

theorem below_top_iff (number : Nat) :
    2 * number + 2 ^ 971 < 2 * (2 ^ 53 * 2 ^ 971) ↔ number < 2 ^ 1024 - 2 ^ 970 := by
  have unit : 2 ^ 971 = 2 ^ 1 * 2 ^ 970 := two_pow_split rfl
  have top : 2 ^ 1024 = 2 ^ 54 * 2 ^ 970 := two_pow_split rfl
  rw [unit, top]
  generalize 2 ^ 970 = half
  omega

theorem top_room {number : Nat} (small : number ≤ 2 ^ 1023) : number < 2 ^ 1024 - 2 ^ 970 :=
  small.trans_lt (by decide +kernel)

/-- Rounding leaves the range half a unit below its end. -/
theorem round_lt_iff (number : Nat) : round number < 2 ^ 1024 ↔ number < 2 ^ 1024 - 2 ^ 970 := by
  by_cases short : number < 2 ^ 53
  · rw [round_of_lt short]
    have power : 2 ^ 53 ≤ 2 ^ 1023 := two_pow_le (by decide)
    have double : 2 ^ 1023 ≤ 2 ^ 1024 := two_pow_le (by decide)
    exact iff_of_true ((short.trans_le power).trans_le double) (top_room (short.le.trans power))
  · have nonzero : number ≠ 0 := by
      intro zero
      exact short (zero ▸ Nat.two_pow_pos 53)
    have long : 52 ≤ number.log2 := by
      have reached := (Nat.le_log2 nonzero).mpr (Nat.le_of_not_lt short)
      omega
    have lower : 2 ^ number.log2 ≤ number := Nat.log2_self_le nonzero
    obtain below | exact | above := Nat.lt_trichotomy number.log2 1023
    · have power : 2 ^ (number.log2 + 1) ≤ 2 ^ 1023 := two_pow_le below
      have double : 2 ^ 1023 < 2 ^ 1024 := two_pow_lt (by decide)
      exact iff_of_true (((round_le_two_pow_log2 long).trans power).trans_lt double)
        (top_room (Nat.lt_log2_self.le.trans power))
    · have whole : 2 ^ 1024 = 2 ^ 53 * 2 ^ 971 := two_pow_split rfl
      rw [← below_top_iff, whole]
      exact round_lt_next_iff exact
    · have power : 2 ^ 1024 ≤ 2 ^ number.log2 := two_pow_le above
      exact iff_of_false (power.trans (two_pow_log2_le_round nonzero long)).not_gt
        ((Nat.sub_le _ _).trans (power.trans lower)).not_gt

/-- The least magnitude that overflows. -/
def overflow : Nat := 2 ^ 1024 - 2 ^ 970

theorem large_of_overflow {number : Nat} (huge : overflow ≤ number) : 2 ^ 53 ≤ number :=
  Nat.le_trans (by decide +kernel) huge

theorem ofInt_eq_none_iff (number : Int) : ofInt number = none ↔ overflow ≤ number.natAbs := by
  unfold ofInt overflow
  rw [← Nat.not_lt, ← round_lt_iff]
  split
  next fits => exact iff_of_false (Option.some_ne_none _) (not_not_intro fits)
  next overflows => exact iff_of_true rfl overflows

/-- The conversion keeps a small integer and takes a large one to a large number. -/
theorem ofInt_eq_some {number : Int} {converted : Double} (fits : ofInt number = some converted) :
    ∃ rounded : Int, converted = .finite rounded ∧ (number.natAbs < 2 ^ 53 → rounded = number) ∧
      (2 ^ 53 ≤ number → 2 ^ 53 ≤ rounded) ∧ (number ≤ -2 ^ 53 → rounded ≤ -2 ^ 53) := by
  unfold ofInt at fits
  split at fits
  next =>
    refine ⟨_, (Option.some.inj fits).symm, ?_, ?_, ?_⟩
    · intro small
      rw [round_of_lt small]
      exact Int.sign_mul_natAbs number
    · intro large
      have magnitude := @le_round number.natAbs (by omega)
      rw [Int.sign_eq_one_of_pos (by omega), Int.one_mul]
      omega
    · intro large
      have magnitude := @le_round number.natAbs (by omega)
      rw [Int.sign_eq_neg_one_of_neg (by omega)]
      omega
  next => cases fits

end Double

end Wqm1.Library
