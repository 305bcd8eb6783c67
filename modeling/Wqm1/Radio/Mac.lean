import Wqm1.Radio.Crypto

/-! The state of the LoRaWAN MAC layer, what is persisted of it, and how it is
restored, reset and forgotten. -/

set_option autoImplicit false

namespace Wqm1.Radio

open Wqm1.Library

@[ext] structure LoRaWANSession where
  devAddr : DevAddr := .zero 4
  nwkSKey : Key := .zero 16
  appSKey : Key := .zero 16
  fcntUp : Nat := 0
  /-- The next downlink counter to accept. -/
  fcntDown : Nat := 0
  joined : Bool := false
deriving DecidableEq

/-- An uplink frame, with the session and the request it was built from. -/
structure UplinkFrame where
  session : LoRaWANSession
  payload : Bytes
  fport : UInt8
  confirmed : Bool
  ack : Bool
  fopts : Bytes
  bytes : Bytes
deriving DecidableEq

/-- What is handed to the radio. -/
inductive Transmission where
  | joinRequest (devNonce : Nat) (bytes : Bytes)
  | data (frame : UplinkFrame)
deriving DecidableEq

/-- What happened to the MAC layer, kept for the statements about whole runs.
No function reads it. -/
inductive MacEvent where
  | joinCalled (devNonce : Nat)
  | transmitted (transmission : Transmission)
  | joinAccepted (nwkSKey : Key) (devNonce : Nat)
  | answerQueued (answer : Bytes)
  | downlinkAccepted (session : LoRaWANSession) (fcnt : Nat) (confirmed : Bool) (frame : Bytes)
  | presumedDead
  | commandProcessed (fport : UInt8) (payload : Bytes)
  | restarted
deriving DecidableEq

/-- `holds` of every event together with the events before it. -/
def EachEvent (holds : MacEvent → List MacEvent → Prop) (history : List MacEvent) : Prop :=
  ∀ newer event older, history = newer ++ event :: older → holds event older

theorem eachEvent_nil (holds : MacEvent → List MacEvent → Prop) : EachEvent holds [] :=
  fun newer event older split => by simp at split

theorem eachEvent_cons {holds : MacEvent → List MacEvent → Prop} {event : MacEvent}
    {older : List MacEvent} :
    EachEvent holds (event :: older) ↔ holds event older ∧ EachEvent holds older := by
  constructor
  · intro each
    refine ⟨each [] event older rfl, fun newer earlier oldest split => ?_⟩
    exact each (event :: newer) earlier oldest (congrArg (event :: ·) split)
  · rintro ⟨newest, each⟩ newer earlier oldest split
    cases newer with
    | nil =>
        obtain ⟨rfl, rfl⟩ := List.cons.inj split
        exact newest
    | cons first newer => exact each newer earlier oldest (List.cons.inj split).2

theorem EachEvent.of_mem {holds : MacEvent → List MacEvent → Prop} {history : List MacEvent}
    (each : EachEvent holds history) {event : MacEvent} (member : event ∈ history) :
    ∃ older, holds event older :=
  let ⟨newer, older, split⟩ := List.append_of_mem member
  ⟨older, each newer event older split⟩

/-- The constructor arguments of the MAC layer. -/
structure Device where
  devEui : FixedBytes 8
  appEui : FixedBytes 8
  appKey : Key
  subBand : Int

structure Mac where
  session : LoRaWANSession
  devNonce : Nat
  devNonceCounter : Int
  sf : SpreadingFactor
  channelMask : ChannelMask
  rx1DrOffset : Nat
  rx2Dr : Nat
  rx2Frequency : Nat
  rx1DelayS : Rat
  lastChannel : Nat
  txFrequency : Nat
  pendingFOpts : Bytes
  ackPending : Bool
  lastLinkCheck : Option (UInt8 × UInt8)
  uplinksSinceDownlink : Nat
  unansweredLinkChecks : Nat
  recentAppNonces : List Nat
  history : List MacEvent
deriving DecidableEq

/-- The JSON object stored next to the session; a missing key is `none`. -/
structure MacParams where
  sf : Option Nat
  devNonce : Option Int
  appNonces : Option (List Nat)
  rx1DrOffset : Option Nat
  rx2Dr : Option Nat
  rx2Frequency : Option Nat
  rx1DelayS : Option Rat
  channelMask : Option Nat
deriving DecidableEq

/-- The row of the session table. -/
structure StoredSession where
  session : LoRaWANSession
  macParams : Option MacParams
deriving DecidableEq

/-- Python's `values[-count:]`. -/
def lastOf {α : Type} (count : Nat) (values : List α) : List α := values.drop (values.length - count)

namespace Mac

/-- A MAC layer as its constructor leaves it. -/
def initial (device : Device) (history : List MacEvent) : Mac where
  session := {}
  devNonce := 0
  devNonceCounter := -1
  sf := .sf9
  channelMask := subBandChannelMask device.subBand
  rx1DrOffset := 0
  rx2Dr := Radio.rx2Dr
  rx2Frequency := Radio.rx2Frequency
  rx1DelayS := defaultRx1DelayS
  lastChannel := 0
  txFrequency := 0
  pendingFOpts := []
  ackPending := false
  lastLinkCheck := none
  uplinksSinceDownlink := 0
  unansweredLinkChecks := 0
  recentAppNonces := []
  history := history

def uplinkDr (mac : Mac) : Fin 5 := mac.sf.uplinkDr

/-- Enabled 125 kHz uplink channels, or those of the sub-band when there is none. -/
def enabledChannels (device : Device) (mac : Mac) : List Nat :=
  if mac.channelMask.channels = [] then (subBandChannelMask device.subBand).channels
  else mac.channelMask.channels

def macParams (mac : Mac) : MacParams where
  sf := some mac.sf.toNat
  devNonce := some mac.devNonceCounter
  appNonces := some mac.recentAppNonces
  rx1DrOffset := some mac.rx1DrOffset
  rx2Dr := some mac.rx2Dr
  rx2Frequency := some mac.rx2Frequency
  rx1DelayS := some mac.rx1DelayS
  channelMask := some mac.channelMask.toBits

/-- The row that persisting the session writes. -/
def snapshot (mac : Mac) : StoredSession := ⟨mac.session, some mac.macParams⟩

def applyMacParams (mac : Mac) (params : MacParams) : Mac :=
  let frequency := params.rx2Frequency.getD Radio.rx2Frequency
  let delay := params.rx1DelayS.getD defaultRx1DelayS
  { mac with
    devNonceCounter := match params.devNonce with
      | some nonce => if 0 ≤ nonce ∧ nonce ≤ 0xFFFF then nonce else mac.devNonceCounter
      | none => mac.devNonceCounter
    recentAppNonces := match params.appNonces with
      | some seen => lastOf recentAppNoncesKept (seen.filter fun nonce => nonce ≤ 0xFFFFFF)
      | none => mac.recentAppNonces
    sf := (SpreadingFactor.ofInt (params.sf.getD mac.sf.toNat)).getD mac.sf
    rx1DrOffset := max 0 (min 3 (params.rx1DrOffset.getD 0))
    rx2Dr := max 8 (min 13 (params.rx2Dr.getD Radio.rx2Dr))
    rx2Frequency := if frequency = 0 then Radio.rx2Frequency else frequency
    rx1DelayS := if 1 ≤ delay ∧ delay ≤ 15 then delay else defaultRx1DelayS
    channelMask := match params.channelMask with
      | some bits => if (ChannelMask.ofBits bits).any125k then .ofBits bits else mac.channelMask
      | none => mac.channelMask }

def restoreSession (mac : Mac) (session : LoRaWANSession) (params : Option MacParams) : Mac :=
  let restored := { mac with session := session }
  params.elim restored restored.applyMacParams

def restoreMacParams (mac : Mac) (params : Option MacParams) : Mac :=
  params.elim mac mac.applyMacParams

/-- The MAC layer that `main` builds from the row it finds. -/
def boot (device : Device) (stored : StoredSession) (history : List MacEvent) : Mac :=
  let mac := initial device history
  if stored.session.joined then mac.restoreSession stored.session stored.macParams
  else mac.restoreMacParams stored.macParams

/-- Regional defaults, applied on every join. -/
def resetMacParams (device : Device) (mac : Mac) : Mac :=
  { mac with
    channelMask := subBandChannelMask device.subBand
    rx1DrOffset := 0
    rx2Dr := Radio.rx2Dr
    rx2Frequency := Radio.rx2Frequency
    rx1DelayS := defaultRx1DelayS
    pendingFOpts := []
    ackPending := false }

def forgetSession (device : Device) (mac : Mac) : Mac :=
  { resetMacParams device { mac with session := {} } with
    uplinksSinceDownlink := 0
    unansweredLinkChecks := 0 }

/-- The nonce of the next join; `random` is two random bytes, used by a device without one. -/
def nextDevNonce (random : Nat) (mac : Mac) : Int :=
  if mac.devNonceCounter < 0 then random % 65536 else (mac.devNonceCounter + 1) % 65536

/-- `join` up to its first persist: the nonce is drawn. -/
def drawDevNonce (random : Nat) (mac : Mac) : Mac × Nat :=
  let nonce := mac.nextDevNonce random
  ({ mac with
      devNonceCounter := nonce
      devNonce := nonce.toNat
      history := .joinCalled nonce.toNat :: mac.history }, nonce.toNat)

def record (event : MacEvent) (mac : Mac) : Mac := { mac with history := event :: mac.history }

section Boot

variable {device : Device} {stored : StoredSession} {history : List MacEvent}

/-- A boot finds the stored session when it is joined and none otherwise. -/
@[simp] theorem boot_session : (boot device stored history).session =
    if stored.session.joined then stored.session else {} := by
  unfold boot restoreSession restoreMacParams
  cases stored.macParams <;> split <;> rfl

@[simp] theorem boot_history : (boot device stored history).history = history := by
  unfold boot restoreSession restoreMacParams
  cases stored.macParams <;> split <;> rfl

@[simp] theorem boot_pendingFOpts : (boot device stored history).pendingFOpts = [] := by
  unfold boot restoreSession restoreMacParams
  cases stored.macParams <;> split <;> rfl

@[simp] theorem boot_ackPending : (boot device stored history).ackPending = false := by
  unfold boot restoreSession restoreMacParams
  cases stored.macParams <;> split <;> rfl

@[simp] theorem boot_unansweredLinkChecks :
    (boot device stored history).unansweredLinkChecks = 0 := by
  unfold boot restoreSession restoreMacParams
  cases stored.macParams <;> split <;> rfl

/-- The nonce counter that a boot finds does not depend on what happened before. -/
theorem boot_devNonceCounter_congr (other : List MacEvent) :
    (boot device stored history).devNonceCounter = (boot device stored other).devNonceCounter := by
  unfold boot restoreSession restoreMacParams
  cases stored.macParams <;> split <;> rfl

theorem boot_devNonceCounter_range : -1 ≤ (boot device stored history).devNonceCounter ∧
    (boot device stored history).devNonceCounter ≤ 0xFFFF := by
  have unset : (-1 : Int) ≤ -1 ∧ (-1 : Int) ≤ 0xFFFF := by decide
  have params (mac : Mac) (params : MacParams) (none : mac.devNonceCounter = -1) :
      -1 ≤ (mac.applyMacParams params).devNonceCounter ∧
        (mac.applyMacParams params).devNonceCounter ≤ 0xFFFF := by
    simp only [applyMacParams, none]
    split
    · split <;> omega
    · exact unset
  unfold boot restoreSession restoreMacParams
  cases stored.macParams with
  | none => split <;> exact unset
  | some found => split <;> exact params _ found rfl

theorem boot_devNonceCounter {mac : Mac} (range : mac.devNonceCounter ≤ 0xFFFF)
    (started : -1 ≤ mac.devNonceCounter) :
    (boot device mac.snapshot history).devNonceCounter = mac.devNonceCounter := by
  have kept : (if 0 ≤ mac.devNonceCounter ∧ mac.devNonceCounter ≤ 0xFFFF then mac.devNonceCounter
      else -1) = mac.devNonceCounter := by
    split <;> omega
  unfold boot restoreSession restoreMacParams
  split <;> exact kept

end Boot

end Mac

end Wqm1.Radio
