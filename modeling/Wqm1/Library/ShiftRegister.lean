import Mathlib.Data.List.Basic
import Mathlib.Data.Nat.Bitwise
import Mathlib.Logic.Function.Iterate

/-! A feedback shift register that takes in one bit at a step and moves towards its lowest place.
Such a register is linear, and one whose polynomial has its top place set can be run backwards: it
is then left with a remainder by every short burst of bits. -/

set_option autoImplicit false

namespace Wqm1.Library

/-- The `count` low bits of a number, least significant first. -/
def bitsLE : Nat → Nat → List Bool
  | 0, _ => []
  | count + 1, value => value.testBit 0 :: bitsLE count (value / 2)

@[simp] theorem length_bitsLE (count value : Nat) : (bitsLE count value).length = count := by
  induction count generalizing value with
  | zero => rfl
  | succ count ih => simp [bitsLE, ih]

theorem bitsLE_xor (count left right : Nat) :
    bitsLE count (left ^^^ right) = List.zipWith xor (bitsLE count left) (bitsLE count right) := by
  induction count generalizing left right with
  | zero => rfl
  | succ count ih =>
      have halves : (left ^^^ right) / 2 = left / 2 ^^^ right / 2 := by
        simp only [← Nat.shiftRight_one, Nat.shiftRight_xor_distrib]
      simp only [bitsLE, List.zipWith_cons_cons, Nat.testBit_xor, halves, ih]

theorem bitsLE_append {first low : Nat} (small : low < 2 ^ first) (second high : Nat) :
    bitsLE first low ++ bitsLE second high = bitsLE (first + second) (low + 2 ^ first * high) := by
  induction first generalizing low with
  | zero =>
      have : low = 0 := by simpa using small
      simp [bitsLE, this]
  | succ first ih =>
      have double : 2 ^ (first + 1) * high = 2 * (2 ^ first * high) := by
        rw [Nat.pow_succ, Nat.mul_comm (2 ^ first) 2, Nat.mul_assoc]
      have half : low / 2 < 2 ^ first := by
        rw [Nat.pow_succ] at small
        omega
      have rest : (low + 2 * (2 ^ first * high)) / 2 = low / 2 + 2 ^ first * high := by omega
      have bit : (low + 2 * (2 ^ first * high)).testBit 0 = low.testBit 0 := by
        simp only [Nat.testBit_zero, Nat.add_mul_mod_self_left]
      rw [Nat.add_right_comm, bitsLE, bitsLE, List.cons_append, ih half, double, rest, bit]

/-- Some bit is set, and all that are lie within `width` consecutive positions. -/
def Burst (width : Nat) (bits : List Bool) : Prop :=
  true ∈ bits ∧ ∃ start, ∀ index, bits[index]? = some true → start ≤ index ∧ index < start + width

theorem eq_replicate_of_no_true {bits : List Bool} (clear : true ∉ bits) :
    bits = List.replicate bits.length false := by
  refine List.eq_replicate_iff.mpr ⟨rfl, fun bit member => ?_⟩
  cases bit with
  | false => rfl
  | true => exact absurd member clear

theorem Burst.split {width : Nat} {bits : List Bool} (burst : Burst width bits) :
    ∃ before inside after, bits = List.replicate before false ++ (inside ++ List.replicate after false) ∧
      inside.length ≤ width ∧ true ∈ inside := by
  obtain ⟨some, start, within⟩ := burst
  have before : true ∉ bits.take start := by
    intro member
    obtain ⟨index, found⟩ := List.mem_iff_getElem?.mp member
    rw [List.getElem?_take] at found
    split at found
    · have := within index found
      omega
    · cases found
  have after : true ∉ (bits.drop start).drop width := by
    intro member
    obtain ⟨index, found⟩ := List.mem_iff_getElem?.mp member
    rw [List.drop_drop, List.getElem?_drop] at found
    have := within _ found
    omega
  have parts : bits = bits.take start ++ ((bits.drop start).take width ++ (bits.drop start).drop width) := by
    rw [List.take_append_drop, List.take_append_drop]
  refine ⟨(bits.take start).length, (bits.drop start).take width, ((bits.drop start).drop width).length, ?_,
    List.length_take_le _ _, ?_⟩
  · rw [← eq_replicate_of_no_true before, ← eq_replicate_of_no_true after]
    exact parts
  · rw [parts, List.mem_append, List.mem_append] at some
    exact (some.resolve_left before).resolve_right after

namespace ShiftRegister

variable {n : Nat} (poly : BitVec n)

def shift (register : BitVec n) : BitVec n :=
  if register.getLsbD 0 then (register >>> 1) ^^^ poly else register >>> 1

def feed (register : BitVec n) (bit : Bool) : BitVec n := shift poly (register ^^^ BitVec.ofNat n bit.toNat)

def run (register : BitVec n) (bits : List Bool) : BitVec n := bits.foldl (feed poly) register

@[simp] theorem run_nil (register : BitVec n) : run poly register [] = register := rfl

@[simp] theorem run_cons (register : BitVec n) (bit : Bool) (bits : List Bool) :
    run poly register (bit :: bits) = run poly (feed poly register bit) bits := rfl

@[simp] theorem run_append (register : BitVec n) (left right : List Bool) :
    run poly register (left ++ right) = run poly (run poly register left) right := List.foldl_append ..

/-! Linearity. -/

theorem xor_interchange (first second third fourth : BitVec n) :
    (first ^^^ second) ^^^ (third ^^^ fourth) = (first ^^^ third) ^^^ (second ^^^ fourth) := by
  ac_rfl

theorem shift_eq (register : BitVec n) :
    shift poly register = (register >>> 1) ^^^ (if register.getLsbD 0 then poly else 0) := by
  unfold shift
  split <;> simp

theorem shift_xor (left right : BitVec n) : shift poly (left ^^^ right) = shift poly left ^^^ shift poly right := by
  have feedback : (if (left ^^^ right).getLsbD 0 then poly else 0) =
      (if left.getLsbD 0 then poly else 0) ^^^ (if right.getLsbD 0 then poly else 0) := by
    rw [BitVec.getLsbD_xor]
    cases left.getLsbD 0 <;> cases right.getLsbD 0 <;> simp
  rw [shift_eq, shift_eq, shift_eq, BitVec.ushiftRight_xor_distrib, feedback]
  exact xor_interchange ..

@[simp] theorem shift_zero : shift poly 0 = 0 := by simp [shift]

theorem ofNat_xor_bit (left right : Bool) :
    BitVec.ofNat n (xor left right).toNat = BitVec.ofNat n left.toNat ^^^ BitVec.ofNat n right.toNat := by
  cases left <;> cases right <;> simp

theorem feed_xor (register other : BitVec n) (bit error : Bool) :
    feed poly (register ^^^ other) (xor bit error) = feed poly register bit ^^^ feed poly other error := by
  simp only [feed, ofNat_xor_bit, ← shift_xor]
  rw [xor_interchange]

/-- The errors of a run add up on their own, from an empty register. -/
theorem run_xor {bits errors : List Bool} (same : bits.length = errors.length) (register other : BitVec n) :
    run poly (register ^^^ other) (List.zipWith xor bits errors) =
      run poly register bits ^^^ run poly other errors := by
  induction bits generalizing errors register other with
  | nil =>
      cases errors with
      | nil => rfl
      | cons error errors => cases same
  | cons bit bits ih =>
      cases errors with
      | nil => cases same
      | cons error errors =>
          rw [List.zipWith_cons_cons, run_cons, feed_xor, ih (by simpa using same)]
          rfl

theorem run_replicate_false (count : Nat) (register : BitVec n) :
    run poly register (List.replicate count false) = (shift poly)^[count] register := by
  induction count generalizing register with
  | zero => rfl
  | succ count ih =>
      have idle : feed poly register false = shift poly register := by simp [feed]
      rw [List.replicate_succ, run_cons, idle, ih, Function.iterate_succ_apply]

theorem run_zero_replicate_false (count : Nat) : run poly 0 (List.replicate count false) = 0 := by
  rw [run_replicate_false]
  exact Function.iterate_fixed (shift_zero poly) count

/-! The register run backwards. -/

theorem msb_eq_false_of_lt {register : BitVec n} {size : Nat} (small : register.toNat < 2 ^ size) (fits : size < n) :
    register.msb = false := by
  rw [BitVec.msb_eq_false_iff_two_mul_lt]
  have power : 2 ^ (size + 1) ≤ 2 ^ n := Nat.pow_le_pow_right (by decide) fits
  rw [Nat.pow_succ] at power
  omega

theorem toNat_shift_of_low_clear {register : BitVec n} (clear : register.getLsbD 0 = false) :
    (shift poly register).toNat = register.toNat / 2 := by
  simp [shift, clear, Nat.shiftRight_one]

variable {poly}

section Reversible

variable (top : poly.msb = true)

include top

theorem low_clear_of_msb_shift {register : BitVec n} (clear : (shift poly register).msb = false) :
    register.getLsbD 0 = false := by
  cases low : register.getLsbD 0 with
  | false => rfl
  | true => simp [shift, low, top] at clear

theorem shift_eq_zero {register : BitVec n} (zero : shift poly register = 0) : register = 0 := by
  have low : register.getLsbD 0 = false := low_clear_of_msb_shift top (by simp [zero])
  have half := toNat_shift_of_low_clear poly low
  rw [zero] at half
  have even : register.toNat.testBit 0 = false := low
  rw [Nat.testBit_zero, decide_eq_false_iff_not] at even
  exact BitVec.eq_of_toNat_eq (by simp at half ⊢; omega)

theorem shift_injective : Function.Injective (shift poly) := by
  intro left right same
  have difference : shift poly (left ^^^ right) = 0 := by rw [shift_xor, same, BitVec.xor_self]; rfl
  exact BitVec.xor_eq_zero_iff.mp (shift_eq_zero top difference)

theorem iterate_shift_ne_zero {register : BitVec n} (some : register ≠ 0) (count : Nat) :
    (shift poly)^[count] register ≠ 0 := by
  intro zero
  rw [← Function.iterate_fixed (shift_zero poly) count] at zero
  exact some ((shift_injective top).iterate count zero)

/-- A register that few bits clear was small before them. -/
theorem toNat_lt_of_run_eq_zero {bits : List Bool} {register : BitVec n} (short : bits.length ≤ n)
    (zero : run poly register bits = 0) : register.toNat < 2 ^ bits.length := by
  induction bits generalizing register with
  | nil =>
      have : register = 0 := zero
      simp [this]
  | cons bit bits ih =>
      rw [List.length_cons] at short ⊢
      have next : (feed poly register bit).toNat < 2 ^ bits.length := ih (by omega) zero
      have low := low_clear_of_msb_shift top (msb_eq_false_of_lt next (by omega))
      have mixed : (register ^^^ BitVec.ofNat n bit.toNat).toNat < 2 ^ (bits.length + 1) := by
        rw [feed, toNat_shift_of_low_clear poly low] at next
        rw [Nat.pow_succ]
        omega
      have single : (BitVec.ofNat n bit.toNat).toNat < 2 ^ (bits.length + 1) := by
        have bound : bit.toNat < 2 := by cases bit <;> decide
        have power : 2 ^ 1 ≤ 2 ^ (bits.length + 1) := Nat.pow_le_pow_right (by decide) (by omega)
        rw [BitVec.toNat_ofNat]
        exact lt_of_le_of_lt (Nat.mod_le _ _) (by omega)
      have back : register = (register ^^^ BitVec.ofNat n bit.toNat) ^^^ BitVec.ofNat n bit.toNat := by
        rw [BitVec.xor_assoc, BitVec.xor_self, BitVec.xor_zero]
      rw [back, BitVec.toNat_xor]
      exact Nat.xor_lt_two_pow mixed single

/-- From an empty register, no bits that fit into it cancel out. -/
theorem run_ne_zero_of_mem {bits : List Bool} (short : bits.length ≤ n) (some : true ∈ bits) :
    run poly 0 bits ≠ 0 := by
  induction bits with
  | nil => cases some
  | cons bit bits ih =>
      rw [List.length_cons] at short
      cases bit with
      | false =>
          have idle : feed poly 0 false = 0 := by simpa [feed] using shift_zero poly
          rw [run_cons, idle]
          exact ih (by omega) (by simpa using some)
      | true =>
          intro zero
          have small : (feed poly 0 true).toNat < 2 ^ bits.length := toNat_lt_of_run_eq_zero top (by omega) zero
          have low := low_clear_of_msb_shift top (msb_eq_false_of_lt small (by omega))
          simp at low
          omega

theorem run_burst_ne_zero {bits : List Bool} (burst : Burst n bits) : run poly 0 bits ≠ 0 := by
  obtain ⟨before, inside, after, rfl, short, some⟩ := burst.split
  rw [run_append, run_zero_replicate_false, run_append, run_replicate_false]
  exact iterate_shift_ne_zero top (run_ne_zero_of_mem top short some) after

end Reversible

/-! A word taken in at once. -/

variable (poly)

theorem shift_ofNat_double {value : Nat} (fits : 2 * value < 2 ^ n) :
    shift poly (BitVec.ofNat n (2 * value)) = BitVec.ofNat n value := by
  have low : (BitVec.ofNat n (2 * value)).getLsbD 0 = false := by simp [BitVec.getLsbD_ofNat]
  apply BitVec.eq_of_toNat_eq
  rw [toNat_shift_of_low_clear poly low, BitVec.toNat_ofNat, BitVec.toNat_ofNat, Nat.mod_eq_of_lt fits,
    Nat.mod_eq_of_lt (by omega)]
  omega

/-- The bits of a word one by one do what the word mixed in at once does. -/
theorem run_bitsLE {count value : Nat} (fits : count ≤ n) (small : value < 2 ^ count) (register : BitVec n) :
    run poly register (bitsLE count value) = (shift poly)^[count] (register ^^^ BitVec.ofNat n value) := by
  induction count generalizing value register with
  | zero =>
      have : value = 0 := by simpa using small
      simp [bitsLE, this]
  | succ count ih =>
      have half : value / 2 < 2 ^ count := by
        rw [Nat.pow_succ] at small
        omega
      have room : 2 * (value / 2) < 2 ^ n := by
        have power : 2 ^ (count + 1) ≤ 2 ^ n := Nat.pow_le_pow_right (by decide) fits
        omega
      have whole : BitVec.ofNat n value =
          BitVec.ofNat n (value.testBit 0).toNat ^^^ BitVec.ofNat n (2 * (value / 2)) := by
        rw [← BitVec.ofNat_xor]
        congr 1
        apply Nat.eq_of_testBit_eq
        intro index
        cases index with
        | zero => cases low : value.testBit 0 <;> simp_all
        | succ index =>
            have single : (value.testBit 0).toNat / 2 = 0 := by cases value.testBit 0 <;> rfl
            rw [Nat.testBit_xor, Nat.testBit_succ, Nat.testBit_succ, Nat.testBit_succ, single]
            simp
      rw [bitsLE, run_cons, ih (by omega) half, Function.iterate_succ_apply, whole, ← BitVec.xor_assoc, shift_xor,
        shift_ofNat_double poly room, feed]

/-- A whole word brings the register back to nothing when the register held that word. -/
theorem run_bitsLE_eq_zero_iff {poly : BitVec n} (top : poly.msb = true) {value : Nat} (small : value < 2 ^ n)
    (register : BitVec n) : run poly register (bitsLE n value) = 0 ↔ register = BitVec.ofNat n value := by
  rw [run_bitsLE poly le_rfl small]
  constructor
  · intro cleared
    by_contra differs
    exact iterate_shift_ne_zero top (fun same => differs (BitVec.xor_eq_zero_iff.mp same)) n cleared
  · intro same
    rw [same, BitVec.xor_self]
    exact Function.iterate_fixed (shift_zero poly) n

end ShiftRegister

end Wqm1.Library
