import Wqm1.Library.ShiftRegister
import Wqm1.Sensing.Modbus

/-! What the check of a Modbus frame detects: the frame with its CRC is a word of the register's
code, and errors that lie close together never make another one. -/

set_option autoImplicit false

namespace Wqm1.Sensing.Modbus

open Wqm1.Library Wqm1.Library.ShiftRegister

def crcPoly : BitVec 16 := 0xA001

/-- The bits of a frame in the order the line carries them. -/
def transmitted (frame : Bytes) : List Bool := frame.flatMap fun byte => bitsLE 8 byte.toNat

@[simp] theorem transmitted_cons (byte : UInt8) (frame : Bytes) :
    transmitted (byte :: frame) = bitsLE 8 byte.toNat ++ transmitted frame := rfl

@[simp] theorem transmitted_append (left right : Bytes) :
    transmitted (left ++ right) = transmitted left ++ transmitted right := List.flatMap_append

theorem length_transmitted (frame : Bytes) : (transmitted frame).length = 8 * frame.length := by
  induction frame with
  | nil => rfl
  | cons byte frame ih =>
      rw [transmitted_cons, List.length_append, length_bitsLE, ih, List.length_cons]
      omega

theorem transmitted_xorBytes {frame error : Bytes} (same : frame.length = error.length) :
    transmitted (xorBytes frame error) = List.zipWith xor (transmitted frame) (transmitted error) := by
  induction frame generalizing error with
  | nil => rfl
  | cons byte frame ih =>
      cases error with
      | nil => cases same
      | cons flip error =>
          have rest := @ih error (by simpa using same)
          rw [xorBytes] at rest ⊢
          rw [List.zipWith_cons_cons, transmitted_cons, rest, transmitted_cons, transmitted_cons,
            List.zipWith_append (by simp), UInt8.toNat_xor, bitsLE_xor]

theorem toBitVec_crcBit (crc : UInt16) : (crcBit crc).toBitVec = shift crcPoly crc.toBitVec := by
  have low : crc &&& 1 ≠ 0 ↔ crc.toBitVec.getLsbD 0 = true := by
    rw [← UInt16.toBitVec_inj.ne, UInt16.toBitVec_and]
    show crc.toBitVec &&& 1#16 ≠ 0#16 ↔ _
    rw [BitVec.and_one_eq_setWidth_ofBool_getLsbD]
    cases crc.toBitVec.getLsbD 0 <;> decide
  unfold crcBit shift
  split
  next odd =>
      rw [if_pos (low.mp odd), UInt16.toBitVec_xor, UInt16.toBitVec_shiftRight]
      rfl
  next even =>
      rw [if_neg (fun odd => even (low.mpr odd)), UInt16.toBitVec_shiftRight]
      rfl

theorem toBitVec_iterate_crcBit (count : Nat) (crc : UInt16) :
    (crcBit^[count] crc).toBitVec = (shift crcPoly)^[count] crc.toBitVec := by
  induction count generalizing crc with
  | zero => rfl
  | succ count ih => rw [Function.iterate_succ_apply, ih, toBitVec_crcBit, Function.iterate_succ_apply]

theorem toBitVec_crcByte (crc : UInt16) (byte : UInt8) :
    (crcByte crc byte).toBitVec = run crcPoly crc.toBitVec (bitsLE 8 byte.toNat) := by
  have wide : byte.toUInt16.toBitVec = BitVec.ofNat 16 byte.toNat := by
    apply BitVec.eq_of_toNat_eq
    have := byte.toNat_lt
    simp
  rw [crcByte, toBitVec_iterate_crcBit, UInt16.toBitVec_xor, wide, run_bitsLE crcPoly (by decide) byte.toNat_lt]

theorem toBitVec_foldl_crcByte (data : Bytes) (crc : UInt16) :
    (data.foldl crcByte crc).toBitVec = run crcPoly crc.toBitVec (transmitted data) := by
  induction data generalizing crc with
  | nil => rfl
  | cons byte data ih => rw [List.foldl_cons, ih, toBitVec_crcByte, transmitted_cons, run_append]

theorem toBitVec_crc16 (data : Bytes) : (crc16 data).toBitVec = run crcPoly 0xFFFF (transmitted data) :=
  toBitVec_foldl_crcByte data 0xFFFF

theorem crcPoly_msb : crcPoly.msb = true := by decide

/-- Two bytes after the data are its CRC exactly when they bring the register back to nothing. -/
theorem run_crc_iff (data : Bytes) (low high : UInt8) :
    run crcPoly 0xFFFF (transmitted (data ++ [low, high])) = 0 ↔ [low, high] = crcBytes data := by
  have lowSmall := low.toNat_lt
  have highSmall := high.toNat_lt
  have word : transmitted [low, high] = bitsLE 16 (low.toNat + 256 * high.toNat) := by
    rw [transmitted_cons, transmitted_cons, transmitted, List.flatMap_nil, List.append_nil]
    exact bitsLE_append lowSmall 8 high.toNat
  rw [transmitted_append, run_append, word, run_bitsLE_eq_zero_iff crcPoly_msb (by omega), ← toBitVec_crc16]
  have crcSmall := (crc16 data).toNat_lt
  have lowByte : ((crc16 data &&& 0xFF).toUInt8).toNat = (crc16 data).toNat % 256 := by
    have mask : (0xFF : UInt16).toNat = 2 ^ 8 - 1 := by decide
    rw [UInt16.toNat_toUInt8, UInt16.toNat_and, mask, Nat.and_two_pow_sub_one_eq_mod, Nat.mod_mod]
  have highByte : ((crc16 data >>> 8).toUInt8).toNat = (crc16 data).toNat / 256 := by
    rw [UInt16.toNat_toUInt8, UInt16.toNat_shiftRight]
    show (crc16 data).toNat >>> 8 % 256 = _
    rw [Nat.shiftRight_eq_div_pow]
    omega
  rw [crcBytes, List.cons.injEq, List.cons.injEq, ← UInt8.toNat_inj, ← UInt8.toNat_inj, lowByte, highByte,
    ← BitVec.toNat_inj, BitVec.toNat_ofNat, UInt16.toNat_toBitVec]
  constructor
  · intro same
    exact ⟨by omega, by omega, rfl⟩
  · rintro ⟨sameLow, sameHigh, -⟩
    omega

theorem checkCrc_iff {frame : Bytes} (long : 4 ≤ frame.length) :
    checkCrc frame = true ↔ run crcPoly 0xFFFF (transmitted frame) = 0 := by
  obtain ⟨data, low, high, rfl⟩ : ∃ data low high, frame = data ++ [low, high] := by
    have tail : (frame.drop (frame.length - 2)).length = 2 := by
      rw [List.length_drop]
      omega
    obtain ⟨low, high, two⟩ := List.length_eq_two.mp tail
    exact ⟨frame.take (frame.length - 2), low, high, by rw [← two, List.take_append_drop]⟩
  have lengths : (data ++ [low, high]).length - 2 = data.length := by simp
  unfold checkCrc
  rw [if_neg (by omega), lengths, List.drop_left, List.take_left, decide_eq_true_eq, run_crc_iff]

/-- Errors add to the remainder what they leave in an empty register. -/
theorem checkCrc_xorBytes_iff {frame error : Bytes} (long : 4 ≤ frame.length) (valid : checkCrc frame = true)
    (same : frame.length = error.length) :
    checkCrc (xorBytes frame error) = true ↔ run crcPoly 0 (transmitted error) = 0 := by
  have lengths : (xorBytes frame error).length = frame.length := by
    rw [length_xorBytes]
    omega
  have bits : (transmitted frame).length = (transmitted error).length := by
    rw [length_transmitted, length_transmitted, same]
  have separate := run_xor crcPoly bits 0xFFFF 0
  rw [(checkCrc_iff long).mp valid] at separate
  have separate : run crcPoly 0xFFFF (List.zipWith xor (transmitted frame) (transmitted error)) =
      run crcPoly 0 (transmitted error) := by simpa using separate
  rw [checkCrc_iff (by omega), transmitted_xorBytes same, separate]

theorem appendCrc_checks_and_bursts_detected {frame : Bytes} (long : 2 ≤ frame.length) :
    checkCrc (appendCrc frame) = true ∧
      ∀ error : Bytes, error.length = (appendCrc frame).length → Burst 16 (transmitted error) →
        checkCrc (xorBytes (appendCrc frame) error) = false := by
  have valid := checkCrc_appendCrc long
  refine ⟨valid, fun error same burst => ?_⟩
  have lengths : (appendCrc frame).length = frame.length + 2 := by
    unfold appendCrc crcBytes
    simp
  rw [Bool.eq_false_iff]
  intro accepted
  exact run_burst_ne_zero crcPoly_msb burst
    ((checkCrc_xorBytes_iff (by omega) valid same.symm).mp accepted)

/-- Two flips, in the last byte of the data and in the first of its CRC. -/
theorem burst_across_crc_detected :
    checkCrc (appendCrc [1, 3]) = true ∧
      checkCrc (xorBytes (appendCrc [1, 3]) [0, 0x80, 0x01, 0]) = false := by
  have both := @appendCrc_checks_and_bursts_detected [1, 3] (by decide)
  have within : ∀ index < 32, (transmitted [0, 0x80, 0x01, 0])[index]? = some true → 15 ≤ index ∧ index < 15 + 16 := by
    decide +kernel
  have burst : Burst 16 (transmitted [0, 0x80, 0x01, 0]) :=
    ⟨by decide +kernel, 15, fun index set => within index (List.getElem?_eq_some_iff.mp set).1 set⟩
  exact ⟨both.1, both.2 [0, 0x80, 0x01, 0] (by simp [appendCrc, crcBytes]) burst⟩

end Wqm1.Sensing.Modbus
