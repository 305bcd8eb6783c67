import Wqm1.Library.Bytes
import Mathlib.Data.Rat.Floor

/-! The US915 regional parameters and the constants of the LoRaWAN MAC layer:
channels, data rates, receive windows and MAC command identifiers. -/

set_option autoImplicit false

namespace Wqm1.Radio

open Wqm1.Library

def mhdrJoinRequest : UInt8 := 0x00
def mhdrJoinAccept : UInt8 := 0x20
def mhdrUnconfirmedUp : UInt8 := 0x40
def mhdrUnconfirmedDown : UInt8 := 0x60
def mhdrConfirmedUp : UInt8 := 0x80
def mhdrConfirmedDown : UInt8 := 0xA0

def fportApp : UInt8 := 1

def us915UplinkBaseHz : Nat := 902300000
def us915UplinkStepHz : Nat := 200000
def us915Uplink500kBaseHz : Nat := 903000000
def us915Uplink500kStepHz : Nat := 1600000
def us915DownlinkBaseHz : Nat := 923300000
def us915DownlinkStepHz : Nat := 600000
def us915Num125kChannels : Nat := 64
def us915Num500kChannels : Nat := 8
def us915NumChannels : Nat := us915Num125kChannels + us915Num500kChannels

def rx2Frequency : Nat := 923300000
def rx2Dr : Nat := 8
def bw125k : Nat := 0x04
def bw500k : Nat := 0x06

def defaultRx1DelayS : Rat := 1
def joinRx1DelayS : Rat := 5
def rxEarlyS : Rat := 2 / 100

def maxFOptsLen : Nat := 15
def linkCheckEveryUplinks : Nat := 24
def rejoinAfterUnansweredLinkChecks : Nat := 3
def recentAppNoncesKept : Nat := 8

def cidLinkCheck : UInt8 := 0x02
def cidLinkAdr : UInt8 := 0x03
def cidDutyCycle : UInt8 := 0x04
def cidRxParamSetup : UInt8 := 0x05
def cidDevStatus : UInt8 := 0x06
def cidRxTimingSetup : UInt8 := 0x08

/-- Length of the arguments of each MAC command a network sends. -/
def macReqLen (cid : UInt8) : Option Nat :=
  match cid.toNat with
  | 0x02 => some 2
  | 0x03 => some 4
  | 0x04 => some 1
  | 0x05 => some 4
  | 0x06 => some 0
  | 0x07 => some 5
  | 0x08 => some 1
  | 0x09 => some 1
  | 0x0A => some 4
  | _ => none

/-- The uplink spreading factors at 125 kHz. -/
inductive SpreadingFactor where
  | sf7 | sf8 | sf9 | sf10
deriving DecidableEq, Repr

namespace SpreadingFactor

def toNat : SpreadingFactor → Nat
  | sf7 => 7 | sf8 => 8 | sf9 => 9 | sf10 => 10

def ofInt : Int → Option SpreadingFactor
  | 7 => some sf7 | 8 => some sf8 | 9 => some sf9 | 10 => some sf10 | _ => none

def uplinkDr : SpreadingFactor → Fin 5
  | sf10 => 0 | sf9 => 1 | sf8 => 2 | sf7 => 3

/-- The spreading factor of an uplink data rate; DR4 is not used. -/
def ofUplinkDr : Nat → Option SpreadingFactor
  | 0 => some sf10 | 1 => some sf9 | 2 => some sf8 | 3 => some sf7 | _ => none

end SpreadingFactor

/-- Largest application payload at each uplink data rate. -/
def maxPayloadByDr : Fin 5 → Nat
  | 0 => 11 | 1 => 53 | 2 => 125 | 3 => 242 | 4 => 242

def rx1DataRate (uplinkDr rx1DrOffset : Nat) : Nat :=
  let base := match uplinkDr with
    | 0 => 10 | 1 => 11 | 2 => 12 | 3 => 13 | 4 => 14 | _ => 11
  min 13 (max 8 (base - max 0 (min 3 rx1DrOffset)))

def downlinkSf (dr : Nat) : Nat := 20 - max 8 (min 13 dr)

def uplinkFrequencyHz (channel : Nat) : Nat :=
  if channel < us915Num125kChannels then us915UplinkBaseHz + channel * us915UplinkStepHz
  else us915Uplink500kBaseHz + (channel - us915Num125kChannels) * us915Uplink500kStepHz

def rx1FrequencyHz (uplinkChannel : Nat) : Nat :=
  us915DownlinkBaseHz + (uplinkChannel % 8) * us915DownlinkStepHz

/-- Which of the 72 uplink channels are enabled. -/
@[ext] structure ChannelMask where
  enabled : List Bool
  length_eq : enabled.length = us915NumChannels
deriving DecidableEq

namespace ChannelMask

def ofFn (channel : Nat → Bool) : ChannelMask :=
  ⟨(List.range us915NumChannels).map channel, by simp⟩

def get (mask : ChannelMask) (channel : Nat) : Bool := mask.enabled.getD channel false

def any125k (mask : ChannelMask) : Bool := (mask.enabled.take us915Num125kChannels).any id

/-- The enabled 125 kHz channels. -/
def channels (mask : ChannelMask) : List Nat :=
  (List.range us915Num125kChannels).filter mask.get

/-- One bit a channel, channel 0 lowest. -/
def bitsOf : List Bool → Nat
  | [] => 0
  | on :: rest => 2 * bitsOf rest + on.toNat

def toBits (mask : ChannelMask) : Nat := bitsOf mask.enabled

def ofBits (bits : Nat) : ChannelMask := ofFn bits.testBit

private theorem testBit_bitsOf (enabled : List Bool) (channel : Nat) :
    (bitsOf enabled).testBit channel = enabled.getD channel false := by
  induction enabled generalizing channel with
  | nil => simp [bitsOf]
  | cons on rest ih =>
      cases channel with
      | zero => cases on <;> simp [bitsOf, Nat.testBit_zero]
      | succ channel =>
          have halved : bitsOf (on :: rest) / 2 = bitsOf rest := by
            cases on <;> simp [bitsOf]; omega
          rw [Nat.testBit_succ, halved, ih]
          rfl

/-- The persisted form of a mask is read back as the mask. -/
@[simp] theorem ofBits_toBits (mask : ChannelMask) : ofBits mask.toBits = mask := by
  refine ChannelMask.ext (List.ext_getElem (by simp [ofBits, ofFn, mask.length_eq]) ?_)
  intro channel _ inMask
  simp only [ofBits, ofFn, toBits, List.getElem_map, List.getElem_range, testBit_bitsOf]
  exact List.getD_eq_getElem _ _ inMask

end ChannelMask

/-- The eight 125 kHz channels of a sub-band and its 500 kHz channel. -/
def subBandChannelMask (subBand : Int) : ChannelMask :=
  let band := (max 1 (min 8 subBand)).toNat
  let first := (band - 1) * 8
  .ofFn fun channel => (decide (first ≤ channel) && decide (channel < first + 8)) ||
    channel == us915Num125kChannels + band - 1

/-- Python's `round` to an integer: to the nearest, halves to the even side. -/
def roundHalfEven (value : Rat) : Int :=
  let below := ⌊value⌋
  let rest := value - below
  if rest < 1 / 2 then below
  else if 1 / 2 < rest then below + 1
  else if below % 2 = 0 then below
  else below + 1

example : [5 / 2, 7 / 2, -5 / 2, 31 / 10].map roundHalfEven = [2, 4, -2, 3] := by decide +kernel

theorem abs_round_sub (value : Rat) : |(roundHalfEven value : Rat) - value| ≤ 1 / 2 := by
  have below := Int.floor_le value
  have above := Int.lt_floor_add_one value
  rw [abs_le]
  unfold roundHalfEven
  dsimp only
  split
  next => constructor <;> linarith
  next =>
    split
    next =>
      push_cast
      constructor <;> linarith
    next =>
      split
      next => constructor <;> linarith
      next =>
        push_cast
        constructor <;> linarith

theorem floor_le_roundHalfEven (value : Rat) : ⌊value⌋ ≤ roundHalfEven value := by
  unfold roundHalfEven
  dsimp only
  split
  next => exact Int.le_refl _
  next => split <;> [skip; split] <;> omega

theorem roundHalfEven_le_floor (value : Rat) : roundHalfEven value ≤ ⌊value⌋ + 1 := by
  unfold roundHalfEven
  dsimp only
  split
  next => omega
  next => split <;> [skip; split] <;> omega

theorem roundHalfEven_mono {small large : Rat} (less : small ≤ large) :
    roundHalfEven small ≤ roundHalfEven large := by
  rcases Int.lt_or_eq_of_le (Int.floor_mono less) with apart | same
  · have high := roundHalfEven_le_floor small
    have low := floor_le_roundHalfEven large
    omega
  · have rests : small - ⌊large⌋ ≤ large - ⌊large⌋ := sub_le_sub_right less _
    unfold roundHalfEven
    dsimp only
    rw [same]
    by_cases early : large - ⌊large⌋ < 1 / 2
    · rw [if_pos early, if_pos (lt_of_le_of_lt rests early)]
    by_cases late : 1 / 2 < large - ⌊large⌋
    · rw [if_neg early, if_pos late]
      split
      next => omega
      next => split <;> [skip; split] <;> omega
    have notLate : ¬ 1 / 2 < small - ⌊large⌋ := fun beyond => late (lt_of_lt_of_le beyond rests)
    rw [if_neg early, if_neg late, if_neg notLate]
    split
    next => split <;> omega
    next => exact Int.le_refl _

end Wqm1.Radio
