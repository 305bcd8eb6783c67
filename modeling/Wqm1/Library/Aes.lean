import Wqm1.Library.Bytes
import Mathlib.Logic.Function.Basic
import Mathlib.Tactic.IntervalCases

/-! AES-128 on single blocks (FIPS 197) and the CMAC of a message (RFC 4493).
Each round is invertible, so encryption under one key never merges two blocks. -/

set_option autoImplicit false

namespace Wqm1.Library.Aes

/-- The substitution box, sixteen bytes a row, the first byte leftmost. -/
def sBox : List Nat :=
  [0x637c777bf26b6fc53001672bfed7ab76, 0xca82c97dfa5947f0add4a2af9ca472c0,
   0xb7fd9326363ff7cc34a5e5f171d83115, 0x04c723c31896059a071280e2eb27b275,
   0x09832c1a1b6e5aa0523bd6b329e32f84, 0x53d100ed20fcb15b6acbbe394a4c58cf,
   0xd0efaafb434d338545f9027f503c9fa8, 0x51a3408f929d38f5bcb6da2110fff3d2,
   0xcd0c13ec5f974417c4a77e3d645d1973, 0x60814fdc222a908846eeb814de5e0bdb,
   0xe0323a0a4906245cc2d3ac629195e479, 0xe7c8376d8dd54ea96c56f4ea657aae08,
   0xba78252e1ca6b4c6e8dd741f4bbd8b8a, 0x703eb5664803f60e613557b986c11d9e,
   0xe1f8981169d98e949b1e87e9ce5528df, 0x8ca1890dbfe6426841992d0fb054bb16]

def inverseSBox : List Nat :=
  [0x52096ad53036a538bf40a39e81f3d7fb, 0x7ce339829b2fff87348e4344c4dee9cb,
   0x547b9432a6c2233dee4c950b42fac34e, 0x082ea16628d924b2765ba2496d8bd125,
   0x72f8f66486689816d4a45ccc5d65b692, 0x6c704850fdedb9da5e154657a78d9d84,
   0x90d8ab008cbcd30af7e45805b8b34506, 0xd02c1e8fca3f0f02c1afbd0301138a6b,
   0x3a9111414f67dcea97f2cfcef0b4e673, 0x96ac7422e7ad3585e2f937e81c75df6e,
   0x47f11a711d29c5896fb7620eaa18be1b, 0xfc563e4bc6d279209adbc0fe78cd5af4,
   0x1fdda8338807c731b11210592780ec5f, 0x60517fa919b54a0d2de57a9f93c99cef,
   0xa0e03b4dae2af5b0c8ebbb3c83539961, 0x172b047eba77d626e169146355210c7d]

def lookup (table : List Nat) (byte : UInt8) : UInt8 :=
  UInt8.ofNat (table.getD (byte.toNat / 16) 0 >>> (8 * (15 - byte.toNat % 16)))

def subByte : UInt8 → UInt8 := lookup sBox

theorem subByte_injective : Function.Injective subByte := by
  have undone : ∀ value < 256, lookup inverseSBox (subByte (UInt8.ofNat value)) = UInt8.ofNat value := by
    decide +kernel
  intro left right same
  have leftUndone := undone left.toNat left.toNat_lt
  have rightUndone := undone right.toNat right.toNat_lt
  simp only [UInt8.ofNat_toNat] at leftUndone rightUndone
  rw [← leftUndone, same, rightUndone]

/-- Multiplication by `x` in the field of 256 elements. -/
def xtime (byte : UInt8) : UInt8 :=
  let top := byte >>> 7
  (byte <<< 1) ^^^ (top <<< 4) ^^^ (top <<< 3) ^^^ (top <<< 1) ^^^ top

theorem xtime_xor (left right : UInt8) : xtime (left ^^^ right) = xtime left ^^^ xtime right := by
  simp only [xtime, UInt8.shiftRight_xor, UInt8.shiftLeft_xor]
  ac_rfl

/-- Four bytes of a block. -/
@[ext] structure Column where
  b0 : UInt8
  b1 : UInt8
  b2 : UInt8
  b3 : UInt8
deriving DecidableEq

namespace Column

def xor (left right : Column) : Column :=
  ⟨left.b0 ^^^ right.b0, left.b1 ^^^ right.b1, left.b2 ^^^ right.b2, left.b3 ^^^ right.b3⟩

def map (change : UInt8 → UInt8) (column : Column) : Column :=
  ⟨change column.b0, change column.b1, change column.b2, change column.b3⟩

def mix (column : Column) : Column :=
  let all := column.b0 ^^^ column.b1 ^^^ column.b2 ^^^ column.b3
  ⟨column.b0 ^^^ all ^^^ xtime (column.b0 ^^^ column.b1),
   column.b1 ^^^ all ^^^ xtime (column.b1 ^^^ column.b2),
   column.b2 ^^^ all ^^^ xtime (column.b2 ^^^ column.b3),
   column.b3 ^^^ all ^^^ xtime (column.b3 ^^^ column.b0)⟩

theorem xor_injective (key : Column) : Function.Injective key.xor := by
  intro left right same
  simp only [xor, Column.mk.injEq, UInt8.xor_right_inj] at same
  exact Column.ext same.1 same.2.1 same.2.2.1 same.2.2.2

theorem map_injective {change : UInt8 → UInt8} (injective : Function.Injective change) :
    Function.Injective (map change) := by
  intro left right same
  simp only [map, Column.mk.injEq] at same
  exact Column.ext (injective same.1) (injective same.2.1) (injective same.2.2.1)
    (injective same.2.2.2)

end Column

private theorem xor_left_comm (first second third : UInt8) :
    first ^^^ (second ^^^ third) = second ^^^ (first ^^^ third) := by
  rw [← UInt8.xor_assoc, UInt8.xor_comm first, UInt8.xor_assoc]

private theorem xor_cancel_left (left right : UInt8) : left ^^^ (left ^^^ right) = right := by
  rw [← UInt8.xor_assoc, UInt8.xor_self, UInt8.zero_xor]

namespace Column

private theorem mix_mix (column : Column) :
    column.mix.mix =
      ⟨column.b0 ^^^ xtime (xtime column.b0) ^^^ xtime (xtime column.b2),
       column.b1 ^^^ xtime (xtime column.b1) ^^^ xtime (xtime column.b3),
       column.b2 ^^^ xtime (xtime column.b2) ^^^ xtime (xtime column.b0),
       column.b3 ^^^ xtime (xtime column.b3) ^^^ xtime (xtime column.b1)⟩ := by
  ext <;> simp only [mix, xtime_xor] <;>
    simp only [UInt8.xor_assoc, UInt8.xor_comm, xor_left_comm, xor_cancel_left,
      UInt8.xor_self, UInt8.xor_zero, UInt8.zero_xor]

/-- The mixing matrix has order four. -/
theorem mix_four (column : Column) : column.mix.mix.mix.mix = column := by
  rw [mix_mix, mix_mix]
  ext <;> simp only [xtime_xor] <;>
    simp only [UInt8.xor_assoc, UInt8.xor_comm, xor_left_comm, xor_cancel_left,
      UInt8.xor_self, UInt8.xor_zero]

theorem mix_injective : Function.Injective mix := by
  intro left right same
  rw [← mix_four left, same, mix_four]

end Column

/-- A block of sixteen bytes, column by column. -/
@[ext] structure Block where
  c0 : Column
  c1 : Column
  c2 : Column
  c3 : Column
deriving DecidableEq

namespace Block

def map (change : Column → Column) (block : Block) : Block :=
  ⟨change block.c0, change block.c1, change block.c2, change block.c3⟩

def xor (left right : Block) : Block :=
  ⟨left.c0.xor right.c0, left.c1.xor right.c1, left.c2.xor right.c2, left.c3.xor right.c3⟩

def shiftRows (block : Block) : Block :=
  ⟨⟨block.c0.b0, block.c1.b1, block.c2.b2, block.c3.b3⟩,
   ⟨block.c1.b0, block.c2.b1, block.c3.b2, block.c0.b3⟩,
   ⟨block.c2.b0, block.c3.b1, block.c0.b2, block.c1.b3⟩,
   ⟨block.c3.b0, block.c0.b1, block.c1.b2, block.c2.b3⟩⟩

theorem map_injective {change : Column → Column} (injective : Function.Injective change) :
    Function.Injective (map change) := by
  intro left right same
  simp only [map, Block.mk.injEq] at same
  exact Block.ext (injective same.1) (injective same.2.1) (injective same.2.2.1)
    (injective same.2.2.2)

theorem xor_injective (key : Block) : Function.Injective key.xor := by
  intro left right same
  simp only [xor, Block.mk.injEq] at same
  exact Block.ext (Column.xor_injective _ same.1) (Column.xor_injective _ same.2.1)
    (Column.xor_injective _ same.2.2.1) (Column.xor_injective _ same.2.2.2)

theorem shiftRows_injective : Function.Injective shiftRows := by
  rintro ⟨⟨_, _, _, _⟩, ⟨_, _, _, _⟩, ⟨_, _, _, _⟩, ⟨_, _, _, _⟩⟩
    ⟨⟨_, _, _, _⟩, ⟨_, _, _, _⟩, ⟨_, _, _, _⟩, ⟨_, _, _, _⟩⟩ same
  simp only [shiftRows, Block.mk.injEq, Column.mk.injEq] at same ⊢
  tauto

def toBytes (block : Block) : Bytes :=
  [block.c0.b0, block.c0.b1, block.c0.b2, block.c0.b3, block.c1.b0, block.c1.b1, block.c1.b2,
   block.c1.b3, block.c2.b0, block.c2.b1, block.c2.b2, block.c2.b3, block.c3.b0, block.c3.b1,
   block.c3.b2, block.c3.b3]

def ofBytes (data : FixedBytes 16) : Block :=
  let byte (index : Nat) : UInt8 := data.bytes.getD index 0
  ⟨⟨byte 0, byte 1, byte 2, byte 3⟩, ⟨byte 4, byte 5, byte 6, byte 7⟩,
   ⟨byte 8, byte 9, byte 10, byte 11⟩, ⟨byte 12, byte 13, byte 14, byte 15⟩⟩

theorem toBytes_ofBytes (data : FixedBytes 16) : (ofBytes data).toBytes = data.bytes := by
  obtain ⟨bytes, full⟩ := data
  refine List.ext_getElem (by simp [toBytes, full]) fun index inBlock _ => ?_
  simp only [toBytes, List.length_cons, List.length_nil] at inBlock
  interval_cases index <;> simp [toBytes, ofBytes, full]

theorem ofBytes_injective : Function.Injective ofBytes := by
  intro left right same
  exact FixedBytes.ext (by rw [← toBytes_ofBytes, same, toBytes_ofBytes])

theorem toBytes_injective : Function.Injective toBytes := by
  rintro ⟨⟨_, _, _, _⟩, ⟨_, _, _, _⟩, ⟨_, _, _, _⟩, ⟨_, _, _, _⟩⟩
    ⟨⟨_, _, _, _⟩, ⟨_, _, _, _⟩, ⟨_, _, _, _⟩, ⟨_, _, _, _⟩⟩ same
  simpa only [toBytes, Block.mk.injEq, Column.mk.injEq, List.cons.injEq, and_true, and_assoc]
    using same

/-- The round key after this one. -/
def nextKey (constant : UInt8) (key : Block) : Block :=
  let rotated : Column := ⟨key.c3.b1, key.c3.b2, key.c3.b3, key.c3.b0⟩
  let c0 := (key.c0.xor (rotated.map subByte)).xor ⟨constant, 0, 0, 0⟩
  let c1 := key.c1.xor c0
  let c2 := key.c2.xor c1
  ⟨c0, c1, c2, key.c3.xor c2⟩

def substitute (block : Block) : Block := (block.map (Column.map subByte)).shiftRows

/-- The rounds for the remaining constants; the last one does not mix. -/
def rounds : List UInt8 → Block → Block → Block
  | [], _, block => block
  | [constant], key, block => (nextKey constant key).xor block.substitute
  | constant :: rest, key, block =>
      rounds rest (nextKey constant key)
        ((nextKey constant key).xor (block.substitute.map Column.mix))

theorem substitute_injective : Function.Injective substitute :=
  shiftRows_injective.comp (map_injective (Column.map_injective subByte_injective))

theorem rounds_injective (constants : List UInt8) (key : Block) :
    Function.Injective (rounds constants key) := by
  induction constants generalizing key with
  | nil => exact Function.injective_id
  | cons constant rest ih =>
      cases rest with
      | nil => exact (xor_injective _).comp substitute_injective
      | cons next rest =>
          exact (ih _).comp ((xor_injective _).comp
            ((map_injective Column.mix_injective).comp substitute_injective))

end Block

def roundConstants : List UInt8 := [1, 2, 4, 8, 16, 32, 64, 128, 0x1b, 0x36]

/-- AES-128 of one block. -/
def encrypt (key block : FixedBytes 16) : FixedBytes 16 :=
  let start := Block.ofBytes key
  ⟨(Block.rounds roundConstants start (start.xor (Block.ofBytes block))).toBytes, rfl⟩

theorem encrypt_injective (key : FixedBytes 16) : Function.Injective (encrypt key) := by
  intro left right same
  have bytes := Block.toBytes_injective (congrArg FixedBytes.bytes same)
  exact Block.ofBytes_injective (Block.xor_injective _ (Block.rounds_injective _ _ bytes))

/-- The subkey derivation of CMAC: one bit to the left, reduced when a bit falls off. -/
def double (block : FixedBytes 16) : FixedBytes 16 :=
  let carries : Bytes := (block.bytes.drop 1).map (fun byte : UInt8 => byte >>> (7 : UInt8)) ++ [0]
  let shifted := xorBytes (block.bytes.map fun byte : UInt8 => byte <<< (1 : UInt8)) carries
  let reduction := if block.bytes.headD 0 < 128 then 0 else 0x87
  FixedBytes.ofBytes 16 (xorBytes shifted (List.replicate 15 0 ++ [reduction]))

/-- CMAC with its chaining value; the fuel is the number of blocks left. -/
def cmacFrom (key whole padded : FixedBytes 16) : Nat → FixedBytes 16 → Bytes → FixedBytes 16
  | 0, chain, _ => chain
  | blocks + 1, chain, message =>
      let absorb (block : Bytes) : FixedBytes 16 :=
        encrypt key (FixedBytes.ofBytes 16 (xorBytes chain.bytes block))
      if message.length = 16 then absorb (xorBytes message whole.bytes)
      else if message.length < 16 then
        let filled := message ++ 0x80 :: List.replicate (15 - message.length) 0
        absorb (xorBytes filled padded.bytes)
      else cmacFrom key whole padded blocks (absorb (message.take 16)) (message.drop 16)

def cmac (key : FixedBytes 16) (message : Bytes) : FixedBytes 16 :=
  let whole := double (encrypt key (FixedBytes.zero 16))
  cmacFrom key whole (double whole) (message.length / 16 + 1) (FixedBytes.zero 16) message

private def sampleKey : FixedBytes 16 := FixedBytes.ofBytes 16
  [0x2b, 0x7e, 0x15, 0x16, 0x28, 0xae, 0xd2, 0xa6, 0xab, 0xf7, 0x15, 0x88, 0x09, 0xcf, 0x4f, 0x3c]

example : (encrypt sampleKey (FixedBytes.ofBytes 16
      [0x6b, 0xc1, 0xbe, 0xe2, 0x2e, 0x40, 0x9f, 0x96, 0xe9, 0x3d, 0x7e, 0x11, 0x73, 0x93, 0x17,
        0x2a])).bytes =
    [0x3a, 0xd7, 0x7b, 0xb4, 0x0d, 0x7a, 0x36, 0x60, 0xa8, 0x9e, 0xca, 0xf3, 0x24, 0x66, 0xef,
      0x97] := by decide +kernel

example : (cmac sampleKey []).bytes =
    [0xbb, 0x1d, 0x69, 0x29, 0xe9, 0x59, 0x37, 0x28, 0x7f, 0xa3, 0x7d, 0x12, 0x9b, 0x75, 0x67,
      0x46] := by decide +kernel

end Wqm1.Library.Aes
