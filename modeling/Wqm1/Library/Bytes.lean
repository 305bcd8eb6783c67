import Mathlib.Data.List.Basic
import Mathlib.Tactic.Ring
import Mathlib.Data.Nat.Bitwise

/-! Byte strings: slices, strings of a fixed length, little-endian integers
and the bitwise exclusive or. -/

set_option autoImplicit false

namespace Wqm1.Library

abbrev Bytes := List UInt8

/-- Python's `data[start:stop]` for indices that are not negative. -/
def slice {α : Type} (data : List α) (start stop : Nat) : List α :=
  (data.drop start).take (stop - start)

@[simp] theorem length_slice {α : Type} (data : List α) (start stop : Nat) :
    (slice data start stop).length = min (stop - start) (data.length - start) := by
  simp [slice]

theorem slice_append_right {α : Type} (left right : List α) (start stop : Nat)
    (past : left.length ≤ start) :
    slice (left ++ right) start stop = slice right (start - left.length) (stop - left.length) := by
  simp only [slice, List.drop_append, List.drop_eq_nil_of_le past, List.nil_append]
  congr 1
  omega

theorem slice_zero_append {α : Type} (left right : List α) (stop : Nat)
    (exact_ : stop = left.length) : slice (left ++ right) 0 stop = left := by
  simp [slice, exact_]

theorem getD_eq_headD_drop {α : Type} (data : List α) (index : Nat) (default : α) :
    data.getD index default = (data.drop index).headD default := by
  rw [List.getD_eq_getElem?_getD, List.headD_eq_head?_getD, List.head?_drop]

/-- A byte string of exactly `n` bytes. -/
@[ext] structure FixedBytes (n : Nat) where
  bytes : Bytes
  length_eq : bytes.length = n
deriving DecidableEq

namespace FixedBytes

variable {n : Nat}

attribute [simp] length_eq

def zero (n : Nat) : FixedBytes n := ⟨List.replicate n 0, List.length_replicate ..⟩

/-- The bytes themselves when there are `n` of them, otherwise cut or filled with zeros. -/
def ofBytes (n : Nat) (data : Bytes) : FixedBytes n :=
  ⟨(data ++ List.replicate n 0).take n, by simp⟩

theorem ofBytes_bytes {data : Bytes} (full : data.length = n) : (ofBytes n data).bytes = data := by
  subst full
  simp [ofBytes]

@[simp] theorem ofBytes_self (value : FixedBytes n) : ofBytes n value.bytes = value :=
  FixedBytes.ext (ofBytes_bytes value.length_eq)

end FixedBytes

/-- The `size` low bytes of a number, least significant first. -/
def packLE : Nat → Nat → Bytes
  | 0, _ => []
  | size + 1, value => UInt8.ofNat value :: packLE size (value / 256)

def unpackLE : Bytes → Nat
  | [] => 0
  | low :: high => low.toNat + 256 * unpackLE high

@[simp] theorem length_packLE (size value : Nat) : (packLE size value).length = size := by
  induction size generalizing value with
  | zero => rfl
  | succ size ih => simp [packLE, ih]

theorem unpackLE_packLE (size value : Nat) : unpackLE (packLE size value) = value % 256 ^ size := by
  induction size generalizing value with
  | zero => simp [packLE, unpackLE, Nat.mod_one]
  | succ size ih =>
      have low : (UInt8.ofNat value).toNat = value % 256 := by simp
      rw [packLE, unpackLE, ih, low, Nat.pow_succ', Nat.mod_mul]

theorem unpackLE_lt (data : Bytes) : unpackLE data < 256 ^ data.length := by
  induction data with
  | nil => simp [unpackLE]
  | cons low high ih =>
      have small := low.toNat_lt
      simp only [unpackLE, List.length_cons, Nat.pow_succ]
      omega

/-- Packed numbers agree exactly when they agree in the bytes that are kept. -/
theorem packLE_inj {size left right : Nat} :
    packLE size left = packLE size right ↔ left % 256 ^ size = right % 256 ^ size := by
  constructor
  · intro same
    rw [← unpackLE_packLE, ← unpackLE_packLE, same]
  · intro same
    induction size generalizing left right with
    | zero => rfl
    | succ size ih =>
        rw [Nat.pow_succ', Nat.mod_mul, Nat.mod_mul] at same
        have lowLeft := Nat.mod_lt left (show 0 < 256 by decide)
        have lowRight := Nat.mod_lt right (show 0 < 256 by decide)
        have low : left % 256 = right % 256 := by omega
        have high : left / 256 % 256 ^ size = right / 256 % 256 ^ size := by omega
        simp only [packLE, ih high, List.cons.injEq, and_true]
        exact UInt8.toNat_inj.mp (by simpa using low)

def xorBytes (left right : Bytes) : Bytes := List.zipWith (· ^^^ ·) left right

@[simp] theorem length_xorBytes (left right : Bytes) :
    (xorBytes left right).length = min left.length right.length := by simp [xorBytes]

/-- A key stream at least as long as the text is taken off by adding it again. -/
theorem xorBytes_cancel {text stream : Bytes} (covers : text.length ≤ stream.length) :
    xorBytes (xorBytes text stream) stream = text := by
  induction text generalizing stream with
  | nil => simp [xorBytes]
  | cons head tail ih =>
      cases stream with
      | nil => simp at covers
      | cons key rest =>
          have cancelled : xorBytes (xorBytes tail rest) rest = tail := ih (by simpa using covers)
          simp only [xorBytes, List.zipWith_cons_cons, UInt8.xor_assoc, UInt8.xor_self,
            UInt8.xor_zero, List.cons.injEq, true_and]
          exact cancelled

/-- Byte `index` of a sequence of blocks is a byte of block `index / n`. -/
theorem getD_flatMap_range {n : Nat} (block : Nat → FixedBytes n) {blocks index : Nat}
    (inside : index < n * blocks) :
    ((List.range blocks).flatMap fun number => (block number).bytes).getD index 0 =
      (block (index / n)).bytes.getD (index % n) 0 := by
  have total (blocks : Nat) :
      ((List.range blocks).flatMap fun number => (block number).bytes).length = n * blocks := by
    simp [List.length_flatMap, Nat.mul_comm]
  induction blocks with
  | zero => simp at inside
  | succ blocks ih =>
      rw [List.range_succ, List.flatMap_append, List.flatMap_singleton]
      by_cases earlier : index < n * blocks
      · rw [List.getD_append _ _ _ _ (by rwa [total])]
        exact ih earlier
      · have quotient : index / n = blocks :=
          Nat.div_eq_of_lt_le (by rw [Nat.mul_comm]; omega) (by rw [Nat.mul_comm]; omega)
        have remainder : index - n * blocks = index % n := by
          rw [Nat.mod_eq_sub_mul_div, quotient]
        rw [List.getD_append_right _ _ _ _ (by rw [total]; omega), total, remainder, quotient]

end Wqm1.Library
