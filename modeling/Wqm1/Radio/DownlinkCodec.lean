import Wqm1.Radio.Downlink
import Wqm1.Radio.Frame
import Wqm1.Radio.Join

/-! Downlink decoding against the encoder of the specification: what the network
encodes is accepted and decoded, and what fails a check changes nothing. -/

set_option autoImplicit false

namespace Wqm1.Radio

open Wqm1.Library Radio.Frame

namespace DownlinkCodec

variable {crypto : Crypto} {device : Device} {mac : Mac} {snr : Option Rat}

/-- A downlink that the network may send to this session: the expected counter
leaves a window of 2^16 below 2^32, the counter lies in that window, and the
frame fits the radio. -/
structure Sendable (crypto : Crypto) (session : LoRaWANSession) (frame : DataFrame) : Prop where
  mtype : frame.mtype = .unconfirmedDown ∨ frame.mtype = .confirmedDown
  devAddr : frame.devAddr = session.devAddr
  window : session.fcntDown < 2 ^ 32 - 65536
  low : session.fcntDown ≤ frame.fcnt
  high : frame.fcnt < session.fcntDown + 65536
  fits : (frame.encode crypto session.nwkSKey session.appSKey .downlink).length ≤ 255

/-- The checks of a data frame, by the integrity code of the specification. -/
def FailsDownlinkCheck (crypto : Crypto) (mac : Mac) (data : Bytes) : Prop :=
  data.length < 12 ∨ (data.headD 0 ≠ 0x60 ∧ data.headD 0 ≠ 0xA0) ∨
    slice data 1 5 ≠ mac.session.devAddr.bytes ∨
    mic crypto mac.session.nwkSKey mac.session.devAddr
      (mac.reconstructFcntDown (unpackLE (slice data 6 8))) .downlink
      (data.take (data.length - 4)) ≠ data.drop (data.length - 4)

/-- The checks of a JoinAccept, the last one being that its AppNonce is new. -/
def FailsJoinCheck (crypto : Crypto) (device : Device) (mac : Mac) (data : Bytes) : Prop :=
  let decrypted := decryptJoinAccept crypto device.appKey (data.drop 1)
  let body := decrypted.take (decrypted.length - 4)
  data.length < 17 ∨ data.headD 0 ≠ 0x20 ∨
    crypto.computeMic device.appKey (data.headD 0 :: body) ≠ decrypted.drop (decrypted.length - 4) ∨
    (JoinAccept.ofBody body).appNonceInt ∈ mac.recentAppNonces

private theorem low_nibble (byte : UInt8) : (byte &&& 0x0F).toNat = byte.toNat % 16 := by
  have mask := Nat.and_two_pow_sub_one_eq_mod byte.toNat 4
  simpa using mask

private theorem mhdr_down {frame : DataFrame}
    (mtype : frame.mtype = .unconfirmedDown ∨ frame.mtype = .confirmedDown) :
    frame.mtype.mhdr = mhdrUnconfirmedDown ∨ frame.mtype.mhdr = mhdrConfirmedDown := by
  rcases mtype with same | same <;> rw [same]
  · exact .inl rfl
  · exact .inr rfl

/-- An encoded frame passes every check, with the counter it was built for. -/
theorem verifyDownlink_encode {frame : DataFrame} (sendable : Sendable crypto mac.session frame) :
    mac.verifyDownlink crypto
      (frame.encode crypto mac.session.nwkSKey mac.session.appSKey .downlink) = some frame.fcnt := by
  have window := sendable.window
  obtain ⟨mhdr, address, _, counter⟩ := frame.encode_fields crypto mac.session.nwkSKey
    mac.session.appSKey .downlink
  refine Mac.verifyDownlink_eq_some.mpr ⟨?_, ?_, ?_, ?_, ?_⟩
  · rw [DataFrame.length_encode, DataFrame.length_message]
    omega
  · rw [mhdr]
    exact mhdr_down sendable.mtype
  · rw [address, sendable.devAddr]
  · rw [DataFrame.take_encode, DataFrame.drop_encode, computeFrameMic_eq, sendable.devAddr]
  · rw [counter]
    exact (Mac.reconstructFcntDown_window sendable.low sendable.high (by omega)).symm

private theorem commanded_session (fcnt foptsLen : Nat) (data cmds : Bytes) :
    (if foptsLen = 0 then mac.advanceFcntDown fcnt data
      else (mac.advanceFcntDown fcnt data).handleMacCommands snr cmds).session =
        { mac.session with fcntDown := fcnt + 1 } := by
  split
  · rfl
  · obtain ⟨answers, answered⟩ := Mac.answered_handleMacCommands snr cmds
      (mac.advanceFcntDown fcnt data)
    exact answered.session

theorem processDownlink_encode {frame : DataFrame} (sendable : Sendable crypto mac.session frame) :
    (mac.processDownlink crypto snr
      (frame.encode crypto mac.session.nwkSKey mac.session.appSKey .downlink)).2 =
        frame.port.map fun (fport, payload) => fport :: payload := by
  have fctrl := (frame.encode_fields crypto mac.session.nwkSKey mac.session.appSKey
    .downlink).2.2.1
  have optionsLen : ((frame.encode crypto mac.session.nwkSKey mac.session.appSKey .downlink).getD 5 0 &&&
      0x0F).toNat = frame.fopts.length := by
    have fopts := frame.fopts_le
    rw [low_nibble, fctrl]
    omega
  simp only [Mac.processDownlink, verifyDownlink_encode sendable, optionsLen, DataFrame.take_encode,
    DataFrame.length_message, commanded_session]
  cases port : frame.port with
  | none => simp [DataFrame.portField, port]
  | some content =>
      obtain ⟨fport, payload⟩ := content
      have rest := frame.port_drop crypto mac.session.nwkSKey mac.session.appSKey .downlink
      have fportAt : (frame.message crypto mac.session.nwkSKey mac.session.appSKey .downlink).getD
          (8 + frame.fopts.length) 0 = fport := by
        rw [getD_eq_headD_drop, rest]
        simp [DataFrame.portField, port]
      have payloadAt : (frame.message crypto mac.session.nwkSKey mac.session.appSKey .downlink).drop
          (8 + frame.fopts.length + 1) = crypto.encryptPayload
            (if fport = 0 then mac.session.nwkSKey else mac.session.appSKey) mac.session.devAddr
            frame.fcnt payload .downlink := by
        rw [← List.drop_drop, rest, encryptPayload_eq]
        simp [DataFrame.portField, port, sendable.devAddr]
      have present : ¬8 + frame.fopts.length + (frame.portField crypto mac.session.nwkSKey
          mac.session.appSKey .downlink).length ≤ 8 + frame.fopts.length := by
        simp [DataFrame.portField, port]
      rw [if_neg present, fportAt, payloadAt, Crypto.encryptPayload_encryptPayload]
      rfl

theorem processDownlink_of_fails {data : Bytes} (fails : FailsDownlinkCheck crypto mac data) :
    mac.processDownlink crypto snr data = (mac, none) := by
  refine Mac.processDownlink_of_rejected (Option.eq_none_iff_forall_ne_some.mpr fun fcnt verified => ?_)
  obtain ⟨long, mhdr, address, mic, rfl⟩ := Mac.verifyDownlink_eq_some.mp verified
  rw [computeFrameMic_eq] at mic
  rcases fails with short | wrongType | wrongAddress | wrongMic
  · omega
  · exact mhdr.elim wrongType.1 wrongType.2
  · exact wrongAddress address
  · exact wrongMic mic

theorem processJoinAccept_of_fails {data : Bytes} (fails : FailsJoinCheck crypto device mac data) :
    mac.processJoinAccept crypto device data = (mac, false) := by
  refine Mac.processJoinAccept_of_rejected
    (Option.eq_none_iff_forall_ne_some.mpr fun accept verified => ?_)
  obtain ⟨long, mhdr, _, mic, fresh, _⟩ := Mac.verifyJoinAccept_eq_some.mp verified
  rcases fails with short | wrongType | wrongMic | seen
  · omega
  · exact wrongType mhdr
  · exact wrongMic mic
  · exact fresh seen

/-- Decoding inverts the encoder of the specification: the counter advances past
the frame's, the rest of the session stays, and FPort and plaintext come back.
A data frame or JoinAccept that fails a check leaves the MAC layer as it was. -/
theorem downlink_codec (crypto : Crypto) (device : Device) (snr : Option Rat) (mac : Mac) :
    (∀ frame, Sendable crypto mac.session frame →
      let data := frame.encode crypto mac.session.nwkSKey mac.session.appSKey .downlink
      mac.verifyDownlink crypto data = some frame.fcnt ∧
        (mac.processDownlink crypto snr data).1.session =
          { mac.session with fcntDown := frame.fcnt + 1 } ∧
        (mac.processDownlink crypto snr data).2 =
          frame.port.map fun (fport, payload) => fport :: payload) ∧
    (∀ data, FailsDownlinkCheck crypto mac data →
      mac.processDownlink crypto snr data = (mac, none)) ∧
    (∀ data, FailsJoinCheck crypto device mac data →
      mac.processJoinAccept crypto device data = (mac, false)) := by
  refine ⟨fun frame sendable => ?_, fun data => processDownlink_of_fails,
    fun data => processJoinAccept_of_fails⟩
  have verified := verifyDownlink_encode sendable
  obtain ⟨answers, answered⟩ := Mac.processDownlink_of_verified snr verified
  exact ⟨verified, answered.session, processDownlink_encode sendable⟩

/-- A confirmed downlink with two frame options and a counter past a 16-bit wrap. -/
def sampleFrame : DataFrame where
  mtype := .confirmedDown
  devAddr := .zero 4
  flags := 0
  fcnt := 65537
  fopts := [0x06, 0x04]
  fopts_le := by decide
  port := some (100, [1, 1, 0, 30])

def sampleMac : Mac :=
  { Mac.initial ⟨.zero 8, .zero 8, .zero 16, 2⟩ [] with session := { fcntDown := 65530, joined := true } }

theorem downlink_codec_sample :
    (sampleMac.processDownlink Crypto.aes none
        (sampleFrame.encode Crypto.aes (.zero 16) (.zero 16) .downlink)).2 = some [100, 1, 1, 0, 30] ∧
      sampleMac.processDownlink Crypto.aes none [0x60] = (sampleMac, none) ∧
      sampleMac.processJoinAccept Crypto.aes ⟨.zero 8, .zero 8, .zero 16, 2⟩ [0x20] =
        (sampleMac, false) := by
  obtain ⟨decodes, rejects, rejectsJoin⟩ :=
    downlink_codec Crypto.aes ⟨.zero 8, .zero 8, .zero 16, 2⟩ none sampleMac
  have sendable : Sendable Crypto.aes sampleMac.session sampleFrame :=
    ⟨.inr rfl, rfl, by decide, by decide, by decide, by decide +kernel⟩
  exact ⟨(decodes sampleFrame sendable).2.2, rejects _ (.inl (by decide)),
    rejectsJoin _ (.inl (by decide))⟩

end DownlinkCodec

end Wqm1.Radio
