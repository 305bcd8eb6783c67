import Wqm1.Radio.MacCommands

/-! The uplink path up to the point where the frame is ready: the liveness
check, the length limit, the frame, and the counter it consumes. -/

set_option autoImplicit false

namespace Wqm1.Radio

open Wqm1.Library Radio.Frame

inductive UplinkOutcome where
  | notJoined
  | presumedDead
  | tooLong
  | ready (frame : UplinkFrame)
deriving DecidableEq

namespace Mac

/-- Whether the uplink after the ones counted so far is a liveness point. -/
def atLivenessPoint (mac : Mac) : Prop :=
  (mac.uplinksSinceDownlink + 1) % linkCheckEveryUplinks = 0

instance (mac : Mac) : Decidable mac.atLivenessPoint := inferInstanceAs (Decidable (_ = _))

/-- Whether the session is given up at a liveness point. -/
def presumesDead (mac : Mac) : Prop :=
  mac.atLivenessPoint ∧ rejoinAfterUnansweredLinkChecks ≤ mac.unansweredLinkChecks

instance (mac : Mac) : Decidable mac.presumesDead := inferInstanceAs (Decidable (_ ∧ _))

/-- One more uplink without a downlink, and at a liveness point one more LinkCheckReq. -/
def tallyUplink (mac : Mac) : Mac :=
  { mac with
    uplinksSinceDownlink := mac.uplinksSinceDownlink + 1
    unansweredLinkChecks := mac.unansweredLinkChecks + if mac.atLivenessPoint then 1 else 0 }

/-- Count the uplink; at a liveness point a LinkCheckReq rides along. -/
def countUplink (mac : Mac) : Mac :=
  if mac.atLivenessPoint then mac.tallyUplink.queueAnswer [cidLinkCheck] else mac.tallyUplink

/-- MHDR, DevAddr, FCtrl, FCnt, FOpts, FPort, the encrypted payload and the integrity code. -/
def buildUplink (crypto : Crypto) (payload : Bytes) (fport : UInt8) (confirmed : Bool) (mac : Mac) :
    UplinkFrame :=
  let fcnt := mac.session.fcntUp
  let key := if fport = 0 then mac.session.nwkSKey else mac.session.appSKey
  let encrypted := crypto.encryptPayload key mac.session.devAddr fcnt payload .uplink
  let fopts := mac.pendingFOpts.take maxFOptsLen
  let fctrl := (if mac.ackPending then 0x20 else 0x00) ||| UInt8.ofNat fopts.length
  let mhdr := if confirmed then mhdrConfirmedUp else mhdrUnconfirmedUp
  let frame := mhdr :: (mac.session.devAddr.bytes ++ fctrl :: (packLE 2 (fcnt % 65536) ++
    (fopts ++ fport :: encrypted)))
  { session := mac.session
    payload := payload
    fport := fport
    confirmed := confirmed
    ack := mac.ackPending
    fopts := fopts
    bytes := frame ++ crypto.computeFrameMic mac.session.nwkSKey mac.session.devAddr fcnt frame .uplink }

/-- The counter is consumed and the answers are on their way. -/
def consumeUplink (mac : Mac) : Mac :=
  { mac with
    session := { mac.session with fcntUp := mac.session.fcntUp + 1 }
    pendingFOpts := []
    ackPending := false }

/-- `send_uplink` up to its first persist. -/
def prepareUplink (crypto : Crypto) (device : Device) (payload : Bytes) (fport : UInt8)
    (confirmed : Bool) (mac : Mac) : Mac × UplinkOutcome :=
  if mac.session.joined = false then (mac, .notJoined)
  else if mac.presumesDead then
    ((mac.record .presumedDead).forgetSession device, .presumedDead)
  else
    let counted := mac.countUplink
    if maxPayloadByDr counted.uplinkDr < payload.length + counted.pendingFOpts.length then
      (counted, .tooLong)
    else (counted.consumeUplink, .ready (counted.buildUplink crypto payload fport confirmed))

section

variable {crypto : Crypto} {device : Device} {payload : Bytes} {fport : UInt8} {confirmed : Bool}
  {mac : Mac}

/-- The four ways an uplink goes before anything leaves the device. -/
theorem prepareUplink_cases (crypto : Crypto) (device : Device) (payload : Bytes) (fport : UInt8)
    (confirmed : Bool) (mac : Mac) :
    (mac.session.joined = false ∧
      mac.prepareUplink crypto device payload fport confirmed = (mac, .notJoined)) ∨
    (mac.session.joined = true ∧ mac.presumesDead ∧
      mac.prepareUplink crypto device payload fport confirmed =
        ((mac.record .presumedDead).forgetSession device, .presumedDead)) ∨
    (mac.session.joined = true ∧ ¬mac.presumesDead ∧
      maxPayloadByDr mac.countUplink.uplinkDr < payload.length + mac.countUplink.pendingFOpts.length ∧
      mac.prepareUplink crypto device payload fport confirmed = (mac.countUplink, .tooLong)) ∨
    (mac.session.joined = true ∧ ¬mac.presumesDead ∧
      payload.length + mac.countUplink.pendingFOpts.length ≤ maxPayloadByDr mac.countUplink.uplinkDr ∧
      mac.prepareUplink crypto device payload fport confirmed =
        (mac.countUplink.consumeUplink,
          .ready (mac.countUplink.buildUplink crypto payload fport confirmed))) := by
  unfold prepareUplink
  split
  · next idle => exact .inl ⟨idle, rfl⟩
  · next joined =>
    simp only [Bool.not_eq_false] at joined
    split
    · next dead => exact .inr (.inl ⟨joined, dead, rfl⟩)
    · next alive =>
      dsimp only
      split
      · next long => exact .inr (.inr (.inl ⟨joined, alive, long, rfl⟩))
      · next fits => exact .inr (.inr (.inr ⟨joined, alive, not_lt.mp fits, rfl⟩))

theorem answered_countUplink (mac : Mac) :
    Answered mac.tallyUplink mac.countUplink
      (if mac.atLivenessPoint ∧ mac.pendingFOpts.length + 1 ≤ maxFOptsLen then [[cidLinkCheck]]
        else []) := by
  have complete : IsMacAnswer [cidLinkCheck] := ⟨cidLinkCheck, [], rfl, rfl⟩
  unfold countUplink
  by_cases due : mac.atLivenessPoint
  · simp only [due, true_and, if_true]
    exact answered_queueAnswer complete
  · simp only [due, false_and, if_false]
    exact .refl _

@[simp] theorem countUplink_session : mac.countUplink.session = mac.session :=
  (answered_countUplink mac).session

@[simp] theorem countUplink_devNonceCounter :
    mac.countUplink.devNonceCounter = mac.devNonceCounter :=
  (answered_countUplink mac).devNonceCounter

@[simp] theorem countUplink_ackPending : mac.countUplink.ackPending = mac.ackPending :=
  (answered_countUplink mac).ackPending

/-- The frame as the specification describes it. -/
def specFrame (payload : Bytes) (fport : UInt8) (confirmed : Bool) (mac : Mac)
    (room : mac.pendingFOpts.length ≤ maxFOptsLen) : DataFrame where
  mtype := if confirmed then .confirmedUp else .unconfirmedUp
  devAddr := mac.session.devAddr
  flags := ⟨if mac.ackPending then 2 else 0, by split <;> decide⟩
  fcnt := mac.session.fcntUp
  fopts := mac.pendingFOpts
  fopts_le := room
  port := some (fport, payload)

private theorem fctrl_eq (ack : Bool) {length : Nat} (short : length ≤ 15) :
    (if ack then 0x20 else 0x00) ||| UInt8.ofNat length =
      UInt8.ofNat (16 * (if ack then 2 else 0) + length) := by
  interval_cases length <;> cases ack <;> rfl

/-- What `send_uplink` builds is the specification's frame. -/
theorem buildUplink_bytes (crypto : Crypto) (payload : Bytes) (fport : UInt8) (confirmed : Bool)
    {mac : Mac} (room : mac.pendingFOpts.length ≤ maxFOptsLen) :
    (mac.buildUplink crypto payload fport confirmed).bytes =
      (mac.specFrame payload fport confirmed room).encode crypto mac.session.nwkSKey
        mac.session.appSKey .uplink := by
  have options : mac.pendingFOpts.take maxFOptsLen = mac.pendingFOpts := List.take_of_length_le room
  have mhdr : (if confirmed then mhdrConfirmedUp else mhdrUnconfirmedUp) =
      (mac.specFrame payload fport confirmed room).mtype.mhdr := by cases confirmed <;> rfl
  have counter : packLE 2 (mac.session.fcntUp % 65536) =
      [UInt8.ofNat (mac.session.fcntUp % 256), UInt8.ofNat (mac.session.fcntUp / 256 % 256)] := by
    simp only [packLE, List.cons.injEq, and_true, ← UInt8.toNat_inj, UInt8.toNat_ofNat']
    constructor <;> omega
  have message : (if confirmed then mhdrConfirmedUp else mhdrUnconfirmedUp) ::
      (mac.session.devAddr.bytes ++
        ((if mac.ackPending then 0x20 else 0x00) ||| UInt8.ofNat mac.pendingFOpts.length) ::
          (packLE 2 (mac.session.fcntUp % 65536) ++ (mac.pendingFOpts ++ fport ::
            crypto.encryptPayload (if fport = 0 then mac.session.nwkSKey else mac.session.appSKey)
              mac.session.devAddr mac.session.fcntUp payload .uplink))) =
      (mac.specFrame payload fport confirmed room).message crypto mac.session.nwkSKey
        mac.session.appSKey .uplink := by
    rw [mhdr, fctrl_eq _ room, counter, encryptPayload_eq]
    simp [DataFrame.message, DataFrame.header, DataFrame.portField, specFrame]
  simp only [Mac.buildUplink, options, message, computeFrameMic_eq]
  rfl

end

end Mac

end Wqm1.Radio
