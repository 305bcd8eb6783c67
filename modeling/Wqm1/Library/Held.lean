import Wqm1.Library.Rounding

/-! The numbers that 53 bits hold, which another rounding leaves as they are. -/

set_option autoImplicit false

namespace Wqm1.Library.Double

variable {value : Rat}

/-- A multiple of the distance of the numbers around it. -/
def Exact (value : Rat) : Prop := ∃ count : Nat, |value| = count * spacing value

/-- A number of the format: it is exact and in its range. -/
structure Held (value : Rat) : Prop where
  exact : Exact value
  range : |value| < 2 ^ 1024

/-- A number that is none of the infinite ones is one of the format. -/
def Sound : Double → Prop
  | .finite value => Held value
  | .infinite _ | .nan => True

theorem Exact.roundRat (exact : Exact value) : roundRat value = value := by
  obtain ⟨count, whole⟩ := exact
  rw [Double.roundRat, steps_eq whole, ← whole]
  split
  next negative => rw [abs_of_neg negative, neg_neg]
  next nonneg => exact abs_of_nonneg (not_lt.mp nonneg)

theorem Held.ofRat (held : Held value) : ofRat value = .finite value := by
  unfold Double.ofRat
  rw [held.exact.roundRat, if_pos held.range]

theorem spacing_abs (value : Rat) : spacing |value| = spacing value := by
  rw [spacing, spacing, abs_abs]

theorem Exact.neg (exact : Exact value) : Exact (-value) := by
  obtain ⟨count, whole⟩ := exact
  exact ⟨count, by rw [← spacing_abs, abs_neg, spacing_abs, whole]⟩

theorem abs_roundRat (value : Rat) : |roundRat value| = steps value * spacing value := by
  have nonneg : (0 : Rat) ≤ steps value * spacing value := mul_nonneg (Nat.cast_nonneg _) (spacing_pos value).le
  unfold roundRat
  split
  next => rw [abs_neg, abs_of_nonneg nonneg]
  next => exact abs_of_nonneg nonneg

theorem abs_le_mul_spacing (value : Rat) : |value| ≤ (2 ^ 53 : Nat) * spacing value := by
  have below : |value| < 2 ^ (Int.log 2 |value| + 1) := Int.lt_zpow_succ_log_self Nat.one_lt_two _
  have raised : (2 : Rat) ^ (Int.log 2 |value| + 1) ≤ 2 ^ (53 + max (Int.log 2 |value| - 52) (-1074)) :=
    zpow_le_zpow_right₀ (by norm_num) (by omega)
  calc |value| ≤ 2 ^ (53 + max (Int.log 2 |value| - 52) (-1074)) := below.le.trans raised
    _ = (2 ^ 53 : Nat) * spacing value := by
      rw [zpow_add₀ (by norm_num), spacing]
      norm_num

/-- At most 2^53 times a power of two is exact: a full count is half of one at the next power. -/
theorem exact_of_le {count : Nat} {power : Int} (most : count ≤ 2 ^ 53) (least : -1074 ≤ power)
    (whole : |value| = count * 2 ^ power) : Exact value := by
  by_cases zero : value = 0
  · exact ⟨0, by simp [zero]⟩
  have positive : 0 < |value| := abs_pos.mpr zero
  have log : (2 : Rat) ^ Int.log 2 |value| ≤ |value| := Int.zpow_log_le_self Nat.one_lt_two positive
  rcases Nat.lt_or_eq_of_le most with fewer | full
  · have low : max (Int.log 2 |value| - 52) (-1074) ≤ power := by
      have below : |value| < 2 ^ (53 + power) := by
        rw [whole, zpow_add₀ (by norm_num)]
        exact mul_lt_mul_of_pos_right (by exact_mod_cast fewer) (zpow_pos (by norm_num) _)
      have less := (Int.lt_zpow_iff_log_lt Nat.one_lt_two positive).mp (by exact_mod_cast below)
      omega
    refine ⟨count * 2 ^ (power - max (Int.log 2 |value| - 52) (-1074)).toNat, ?_⟩
    have raised : (2 : Rat) ^ power = 2 ^ (power - max (Int.log 2 |value| - 52) (-1074)).toNat * spacing value := by
      rw [spacing, ← zpow_natCast, ← zpow_add₀ (by norm_num)]
      congr 1
      omega
    calc |value| = count * 2 ^ power := whole
      _ = _ := by
        rw [raised]
        push_cast
        ring
  · have exactly : |value| = 2 ^ (53 + power) := by
      rw [whole, full, zpow_add₀ (by norm_num)]
      norm_num
    have logged : Int.log 2 |value| = 53 + power := by
      rw [exactly]
      exact_mod_cast Int.log_zpow (R := Rat) Nat.one_lt_two (53 + power)
    refine ⟨2 ^ 52, ?_⟩
    rw [exactly, spacing, logged, max_eq_left (by omega), show 53 + power = 52 + (53 + power - 52) by ring,
      zpow_add₀ (by norm_num)]
    norm_num

theorem exact_roundRat (value : Rat) : Exact (roundRat value) :=
  exact_of_le (steps_le (abs_le_mul_spacing value)) (le_max_right _ _) (abs_roundRat value)

theorem sound_ofRat (value : Rat) : Sound (ofRat value) := by
  unfold ofRat
  split
  next range => exact ⟨exact_roundRat value, range⟩
  next => trivial

theorem Sound.neg {number : Double} (sound : Sound number) : Sound number.neg := by
  cases number with
  | finite value => exact ⟨sound.exact.neg, by rw [abs_neg]; exact sound.range⟩
  | infinite => trivial
  | nan => trivial

/-- A large number is whole. -/
theorem Held.whole (held : Held value) (large : 2 ^ 52 ≤ |value|) : ∃ number : Int, value = number := by
  obtain ⟨count, whole⟩ := held.exact
  have log : 52 ≤ Int.log 2 |value| :=
    (Int.zpow_le_iff_le_log Nat.one_lt_two (lt_of_lt_of_le (by norm_num) large)).mp (by exact_mod_cast large)
  have spaced : spacing value = (2 ^ (Int.log 2 |value| - 52).toNat : Nat) := by
    rw [spacing, max_eq_left (by omega), Nat.cast_pow, ← zpow_natCast]
    congr 1
    omega
  rw [spaced, ← Nat.cast_mul] at whole
  generalize count * 2 ^ (Int.log 2 |value| - 52).toNat = magnitude at whole
  rcases abs_choice value with same | opposite
  · exact ⟨magnitude, by rw [← same, whole, Int.cast_natCast]⟩
  · exact ⟨-magnitude, by rw [← neg_neg value, ← opposite, whole, Int.cast_neg, Int.cast_natCast]⟩

/-- A small integer is held. -/
theorem held_intCast {number : Int} (small : number.natAbs ≤ 2 ^ 53) : Held number := by
  have whole : |(number : Rat)| = number.natAbs * 2 ^ (0 : Int) := by
    rw [zpow_zero, mul_one, Nat.cast_natAbs, Int.cast_abs]
  refine ⟨exact_of_le small (by norm_num) whole, ?_⟩
  rw [whole, zpow_zero, mul_one]
  calc (number.natAbs : Rat) ≤ 2 ^ 53 := by exact_mod_cast small
    _ < 2 ^ 1024 := two_pow_53_lt

end Wqm1.Library.Double
