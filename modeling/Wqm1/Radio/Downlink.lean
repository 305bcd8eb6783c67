import Wqm1.Radio.MacCommands

/-! The downlink path: address, frame counter and message integrity code first,
then MAC commands and payload. -/

set_option autoImplicit false

namespace Wqm1.Radio

open Wqm1.Library

namespace Mac

/-- The 32-bit downlink counter for the 16 bits on the air. -/
def reconstructFcntDown (fcnt16 : Nat) (mac : Mac) : Nat :=
  let expected := mac.session.fcntDown
  let candidate := (expected &&& 0xFFFF0000) ||| fcnt16
  if candidate < expected then candidate + 0x10000 else candidate

/-- Everything that is checked before a downlink changes anything; the result is
the counter it was verified with. -/
def verifyDownlink (crypto : Crypto) (data : Bytes) (mac : Mac) : Option Nat :=
  let mhdr := data.headD 0
  let fcnt := mac.reconstructFcntDown (unpackLE (slice data 6 8))
  let body := data.take (data.length - 4)
  let mic := data.drop (data.length - 4)
  if data.length < 12 then none
  else if mhdr ≠ mhdrUnconfirmedDown ∧ mhdr ≠ mhdrConfirmedDown then none
  else if slice data 1 5 ≠ mac.session.devAddr.bytes then none
  else if crypto.computeFrameMic mac.session.nwkSKey mac.session.devAddr fcnt body .downlink ≠ mic then
    none
  else some fcnt

/-- The counter advances, the network is alive, a confirmed downlink awaits its acknowledgement. -/
def advanceFcntDown (fcnt : Nat) (data : Bytes) (mac : Mac) : Mac :=
  let confirmed := data.headD 0 == mhdrConfirmedDown
  { mac with
    session := { mac.session with fcntDown := fcnt + 1 }
    uplinksSinceDownlink := 0
    unansweredLinkChecks := 0
    ackPending := mac.ackPending || confirmed
    history := .downlinkAccepted mac.session fcnt confirmed data :: mac.history }

/-- Verify, parse and decrypt a downlink. The result is its FPort and payload. -/
def processDownlink (crypto : Crypto) (snr : Option Rat) (data : Bytes) (mac : Mac) :
    Mac × Option Bytes :=
  match mac.verifyDownlink crypto data with
  | none => (mac, none)
  | some fcnt =>
      let fctrl := data.getD 5 0
      let foptsLen := (fctrl &&& 0x0F).toNat
      let body := data.take (data.length - 4)
      let headerLen := 8 + foptsLen
      let advanced := mac.advanceFcntDown fcnt data
      let commanded :=
        if foptsLen = 0 then advanced else advanced.handleMacCommands snr (slice data 8 headerLen)
      if body.length ≤ headerLen then (commanded, none)
      else
        let fport := body.getD headerLen 0
        let encrypted := body.drop (headerLen + 1)
        let key := if fport = 0 then commanded.session.nwkSKey else commanded.session.appSKey
        let payload := crypto.encryptPayload key commanded.session.devAddr fcnt encrypted .downlink
        let final := if fport = 0 then commanded.handleMacCommands snr payload else commanded
        (final, some (fport :: payload))

variable {crypto : Crypto} {snr : Option Rat} {data : Bytes} {mac : Mac}

theorem processDownlink_of_rejected (rejected : mac.verifyDownlink crypto data = none) :
    mac.processDownlink crypto snr data = (mac, none) := by
  rw [processDownlink, rejected]

/-- An accepted downlink advances the counter and then only answers MAC commands. -/
theorem processDownlink_of_verified (snr : Option Rat) {fcnt : Nat}
    (verified : mac.verifyDownlink crypto data = some fcnt) :
    ∃ answers, Answered (mac.advanceFcntDown fcnt data)
      (mac.processDownlink crypto snr data).1 answers := by
  have commanded (foptsLen headerLen : Nat) : ∃ answers,
      Answered (mac.advanceFcntDown fcnt data)
        (if foptsLen = 0 then mac.advanceFcntDown fcnt data
          else (mac.advanceFcntDown fcnt data).handleMacCommands snr (slice data 8 headerLen))
        answers := by
    split
    · exact ⟨[], .refl _⟩
    · exact answered_handleMacCommands snr _ _
  simp only [processDownlink, verified]
  obtain ⟨first, earlier⟩ := commanded (data.getD 5 0 &&& 0x0F).toNat
    (8 + (data.getD 5 0 &&& 0x0F).toNat)
  split
  · exact ⟨first, earlier⟩
  · split
    · obtain ⟨second, later⟩ := answered_handleMacCommands snr _ _
      exact ⟨_, earlier.trans later⟩
    · exact ⟨first, earlier⟩

theorem verifyDownlink_eq_some {fcnt : Nat} :
    mac.verifyDownlink crypto data = some fcnt ↔
      12 ≤ data.length ∧
      (data.headD 0 = mhdrUnconfirmedDown ∨ data.headD 0 = mhdrConfirmedDown) ∧
      slice data 1 5 = mac.session.devAddr.bytes ∧
      crypto.computeFrameMic mac.session.nwkSKey mac.session.devAddr fcnt
        (data.take (data.length - 4)) .downlink = data.drop (data.length - 4) ∧
      fcnt = mac.reconstructFcntDown (unpackLE (slice data 6 8)) := by
  simp only [verifyDownlink, Option.ite_none_left_eq_some, Option.some.injEq, not_lt, not_and_or,
    ne_eq, not_not]
  constructor <;> rintro ⟨long, type, address, mic, rfl⟩ <;> exact ⟨long, type, address, mic, rfl⟩

theorem and_upper_half (value : Nat) : value &&& 0xFFFF0000 = value / 65536 % 65536 * 65536 := by
  refine Nat.eq_of_testBit_eq fun index => ?_
  have mask : (0xFFFF0000 : Nat) = (2 ^ 16 - 1) * 2 ^ 16 := by norm_num
  rw [mask, show (65536 : Nat) = 2 ^ 16 by norm_num, Nat.testBit_and, Nat.testBit_mul_two_pow,
    Nat.testBit_mul_two_pow, Nat.testBit_mod_two_pow, Nat.testBit_two_pow_sub_one,
    Nat.testBit_div_two_pow]
  by_cases high : 16 ≤ index
  · have shifted : index - 16 + 16 = index := by omega
    simp [high, shifted, Bool.and_comm]
  · simp [high]

theorem candidate_eq (expected : Nat) {fcnt16 : Nat} (half : fcnt16 < 65536) :
    (expected &&& 0xFFFF0000) ||| fcnt16 = expected / 65536 % 65536 * 65536 + fcnt16 := by
  rw [and_upper_half, show (65536 : Nat) = 2 ^ 16 by norm_num, Nat.mul_comm,
    Nat.two_pow_add_eq_or_of_lt (by simpa using half)]

theorem reconstructFcntDown_eq {fcnt16 : Nat} (half : fcnt16 < 65536) :
    mac.reconstructFcntDown fcnt16 =
      let candidate := mac.session.fcntDown / 65536 % 65536 * 65536 + fcnt16
      if candidate < mac.session.fcntDown then candidate + 65536 else candidate := by
  simp only [reconstructFcntDown, candidate_eq _ half]

/-- The counter of a verified downlink ends in the 16 bits on the air. -/
theorem reconstructFcntDown_mod {fcnt16 : Nat} (half : fcnt16 < 65536) :
    mac.reconstructFcntDown fcnt16 % 65536 = fcnt16 := by
  rw [reconstructFcntDown_eq half]
  dsimp only
  split <;> omega

/-- Every counter in the window of 2^16 from the expected one is rebuilt. -/
theorem reconstructFcntDown_window {fcnt : Nat} (low : mac.session.fcntDown ≤ fcnt)
    (high : fcnt < mac.session.fcntDown + 65536) (bounded : mac.session.fcntDown < 2 ^ 32) :
    mac.reconstructFcntDown (fcnt % 65536) = fcnt := by
  rw [reconstructFcntDown_eq (Nat.mod_lt _ (by norm_num))]
  dsimp only
  split <;> omega

end Mac

end Wqm1.Radio
