import Wqm1.Radio.Mac

/-! The OTAA join: the JoinRequest, and the JoinAccept that is verified before
it changes anything. -/

set_option autoImplicit false

namespace Wqm1.Radio

open Wqm1.Library

/-- MHDR, AppEUI, DevEUI, DevNonce and the integrity code under the application key. -/
def joinRequest (crypto : Crypto) (device : Device) (devNonce : Nat) : Bytes :=
  let payload := mhdrJoinRequest ::
    (device.appEui.bytes.reverse ++ device.devEui.bytes.reverse ++ packLE 2 devNonce)
  payload ++ crypto.computeMic device.appKey payload

/-- The network encrypts a JoinAccept with the decrypt primitive, so that the
device recovers it by encrypting; the last block is filled with zeros. -/
def decryptJoinAccept (crypto : Crypto) (appKey : Key) (encrypted : Bytes) : Bytes :=
  let blocks := (encrypted.length + 15) / 16
  ((List.range blocks).flatMap fun index =>
    (crypto.aesEncrypt appKey
      (.ofBytes 16 (slice encrypted (16 * index) (16 * index + 16)))).bytes).take encrypted.length

structure JoinAccept where
  appNonce : FixedBytes 3
  netId : FixedBytes 3
  devAddr : DevAddr
  dlSettings : Nat
  rxDelay : Nat
  cfList : Bytes
deriving DecidableEq

def JoinAccept.ofBody (body : Bytes) : JoinAccept where
  appNonce := .ofBytes 3 (slice body 0 3)
  netId := .ofBytes 3 (slice body 3 6)
  devAddr := .ofBytes 4 (slice body 6 10)
  dlSettings := (body.getD 10 0).toNat
  rxDelay := (body.getD 11 0).toNat % 16
  cfList := if 28 ≤ body.length then slice body 12 28 else []

def JoinAccept.appNonceInt (accept : JoinAccept) : Nat := unpackLE accept.appNonce.bytes

theorem appNonceInt_le (accept : JoinAccept) : accept.appNonceInt ≤ 0xFFFFFF := by
  have bound := unpackLE_lt accept.appNonce.bytes
  rw [accept.appNonce.length_eq] at bound
  unfold JoinAccept.appNonceInt
  omega

/-- The channel mask of a CFList of type 1, one bit for each channel. -/
def cfListMask (cfList : Bytes) : ChannelMask :=
  .ofFn fun channel =>
    (unpackLE (slice cfList (channel / 16 * 2) (channel / 16 * 2 + 2))).testBit (channel % 16)

namespace Mac

/-- Everything that is checked before a JoinAccept changes anything. -/
def verifyJoinAccept (crypto : Crypto) (device : Device) (data : Bytes) (mac : Mac) :
    Option JoinAccept :=
  let mhdr := data.headD 0
  let decrypted := decryptJoinAccept crypto device.appKey (data.drop 1)
  let body := decrypted.take (decrypted.length - 4)
  let mic := decrypted.drop (decrypted.length - 4)
  let accept := JoinAccept.ofBody body
  if data.length < 17 then none
  else if mhdr ≠ mhdrJoinAccept then none
  else if decrypted.length < 16 then none
  else if crypto.computeMic device.appKey (mhdr :: body) ≠ mic then none
  else if accept.appNonceInt ∈ mac.recentAppNonces then none
  else some accept

def joinedSession (crypto : Crypto) (device : Device) (accept : JoinAccept) (devNonce : Nat) :
    LoRaWANSession where
  devAddr := accept.devAddr
  nwkSKey := crypto.deriveKey device.appKey 0x01 accept.appNonce accept.netId devNonce
  appSKey := crypto.deriveKey device.appKey 0x02 accept.appNonce accept.netId devNonce
  fcntUp := 0
  fcntDown := 0
  joined := true

/-- Session keys, then the network's DLSettings, RxDelay and CFList. -/
def applyJoinAccept (crypto : Crypto) (device : Device) (accept : JoinAccept) (mac : Mac) : Mac :=
  let session := joinedSession crypto device accept mac.devNonce
  let reset := resetMacParams device { mac with
    recentAppNonces := lastOf recentAppNoncesKept (mac.recentAppNonces ++ [accept.appNonceInt])
    session := session
    history := .joinAccepted session.nwkSKey mac.devNonce :: mac.history }
  let rx2Bits := accept.dlSettings % 16
  let newMask := cfListMask accept.cfList
  { reset with
    rx1DrOffset := accept.dlSettings / 16 % 8
    rx2Dr := if rx2Bits = 0 then Radio.rx2Dr else max 8 (min 13 rx2Bits)
    rx1DelayS := if accept.rxDelay = 0 then defaultRx1DelayS else accept.rxDelay
    channelMask :=
      if accept.cfList.length = 16 ∧ accept.cfList.getD 15 0 = 0x01 ∧ newMask.any125k then newMask
      else reset.channelMask }

def processJoinAccept (crypto : Crypto) (device : Device) (data : Bytes) (mac : Mac) : Mac × Bool :=
  match mac.verifyJoinAccept crypto device data with
  | none => (mac, false)
  | some accept => (mac.applyJoinAccept crypto device accept, true)

/-- What an applied JoinAccept has passed. -/
theorem verifyJoinAccept_eq_some {crypto : Crypto} {device : Device} {data : Bytes} {mac : Mac}
    {accept : JoinAccept} :
    mac.verifyJoinAccept crypto device data = some accept ↔
      let decrypted := decryptJoinAccept crypto device.appKey (data.drop 1)
      let body := decrypted.take (decrypted.length - 4)
      17 ≤ data.length ∧ data.headD 0 = mhdrJoinAccept ∧ 16 ≤ decrypted.length ∧
        crypto.computeMic device.appKey (data.headD 0 :: body) =
          decrypted.drop (decrypted.length - 4) ∧
        (JoinAccept.ofBody body).appNonceInt ∉ mac.recentAppNonces ∧
        JoinAccept.ofBody body = accept := by
  simp only [verifyJoinAccept, Option.ite_none_left_eq_some, Option.some.injEq, not_lt, ne_eq, not_not]

theorem processJoinAccept_of_rejected {crypto : Crypto} {device : Device} {data : Bytes} {mac : Mac}
    (rejected : mac.verifyJoinAccept crypto device data = none) :
    mac.processJoinAccept crypto device data = (mac, false) := by
  rw [processJoinAccept, rejected]

end Mac

end Wqm1.Radio
