import Wqm1.Radio.Frame
import Wqm1.Radio.Mac

/-! MAC commands: the network's requests and the answers queued for the next
uplink. -/

set_option autoImplicit false

namespace Wqm1.Radio

open Wqm1.Library Radio.Frame

/-- Write one entry of the mask; an index past its end raises. -/
def ChannelMask.set (mask : ChannelMask) (channel : Nat) (on : Bool) : Option ChannelMask :=
  if channel < us915NumChannels then
    some ⟨mask.enabled.set channel on, by rw [List.length_set, mask.length_eq]⟩
  else none

structure LinkAdrReq where
  dr : Nat
  txPower : Nat
  chMask : Nat
  chMaskCntl : Nat
deriving DecidableEq

namespace LinkAdrReq

def ofArgs (args : Bytes) : LinkAdrReq where
  dr := (args.getD 0 0).toNat / 16
  txPower := (args.getD 0 0).toNat % 16
  chMask := unpackLE (slice args 1 3)
  chMaskCntl := (args.getD 3 0).toNat / 16 % 8

variable (req : LinkAdrReq)

/-- The mask after the request, and whether its control value is supported;
`none` is the IndexError of a write past the last channel. -/
def newMask (mask : ChannelMask) : Option (ChannelMask × Bool) :=
  if req.chMaskCntl ≤ 4 then do
    let written ← (List.range 16).foldlM (fun (mask : ChannelMask) bit =>
      mask.set (req.chMaskCntl * 16 + bit) (req.chMask.testBit bit)) mask
    some (written, true)
  else if req.chMaskCntl = 6 ∨ req.chMaskCntl = 7 then
    some (.ofFn fun channel =>
      if channel < us915Num125kChannels then req.chMaskCntl == 6
      else req.chMask.testBit (channel - us915Num125kChannels), true)
  else some (mask, false)

def drOk : Bool := req.dr == 1 || req.dr == 2 || req.dr == 3 || req.dr == 0x0F

def powerOk : Bool := decide (req.txPower ≤ 10) || req.txPower == 0x0F

end LinkAdrReq

def linkAdrStatus (maskOk drOk powerOk : Bool) : Nat :=
  (if maskOk then 0x01 else 0) + (if drOk then 0x02 else 0) + (if powerOk then 0x04 else 0)

theorem linkAdrStatus_eq_seven {maskOk drOk powerOk : Bool} :
    linkAdrStatus maskOk drOk powerOk = 0x07 ↔ maskOk = true ∧ drOk = true ∧ powerOk = true := by
  cases maskOk <;> cases drOk <;> cases powerOk <;> decide

/-- A command of the network with all its arguments. -/
structure MacRequest where
  cid : UInt8
  args : Bytes
  complete : macReqLen cid = some args.length

def MacRequest.bytes (requests : List MacRequest) : Bytes :=
  (requests.map fun request => request.cid :: request.args).flatten

namespace Mac

/-- Queue a complete answer, or drop it when the frame options are full. -/
def queueAnswer (answer : Bytes) (mac : Mac) : Mac :=
  if mac.pendingFOpts.length + answer.length ≤ maxFOptsLen then
    { mac with
      pendingFOpts := mac.pendingFOpts ++ answer
      history := .answerQueued answer :: mac.history }
  else mac

def answerLinkAdr (req : LinkAdrReq) (mac : Mac) : Option Mac :=
  (req.newMask mac.channelMask).map fun (newMask, supported) =>
    let status := linkAdrStatus (supported && newMask.any125k) req.drOk req.powerOk
    let applied :=
      if status = 0x07 then
        { mac with
          channelMask := newMask
          sf := if req.dr = 0x0F then mac.sf else (SpreadingFactor.ofUplinkDr req.dr).getD mac.sf }
      else mac
    applied.queueAnswer [cidLinkAdr, UInt8.ofNat status]

def handleLinkAdr (args : Bytes) (mac : Mac) : Option Mac := mac.answerLinkAdr (.ofArgs args)

def handleRxParamSetup (args : Bytes) (mac : Mac) : Mac :=
  let dlSettings := (args.getD 0 0).toNat
  let freq := unpackLE (slice args 1 4) * 100
  let offset := dlSettings / 16 % 8
  let rx2Dr := dlSettings % 16
  let status := (if offset ≤ 3 then 0x04 else 0) + (if 8 ≤ rx2Dr ∧ rx2Dr ≤ 13 then 0x02 else 0) +
    (if 923300000 ≤ freq ∧ freq ≤ 927500000 then 0x01 else 0)
  let applied :=
    if status = 0x07 then { mac with rx1DrOffset := offset, rx2Dr := rx2Dr, rx2Frequency := freq }
    else mac
  applied.queueAnswer [cidRxParamSetup, UInt8.ofNat status]

/-- The margin of a DevStatusAns: the signal to noise ratio in six bits. -/
def handleDevStatus (snr : Option Rat) (mac : Mac) : Mac :=
  let margin := max (-32) (min 31 (snr.elim 0 roundHalfEven))
  mac.queueAnswer [cidDevStatus, 0x00, UInt8.ofNat (margin % 64).toNat]

def handleRxTimingSetup (args : Bytes) (mac : Mac) : Mac :=
  let delay := (args.getD 0 0).toNat % 16
  let applied := { mac with rx1DelayS := if delay = 0 then defaultRx1DelayS else (delay : Rat) }
  applied.queueAnswer [cidRxTimingSetup]

/-- One MAC command; `none` is an exception. -/
def handleMacCommand (snr : Option Rat) (cid : UInt8) (args : Bytes) (mac : Mac) : Option Mac :=
  if cid = cidLinkCheck then
    some { mac with lastLinkCheck := some (args.getD 0 0, args.getD 1 0) }
  else if cid = cidLinkAdr then mac.handleLinkAdr args
  else if cid = cidDutyCycle then some (mac.queueAnswer [cidDutyCycle])
  else if cid = cidRxParamSetup then some (mac.handleRxParamSetup args)
  else if cid = cidDevStatus then some (mac.handleDevStatus snr)
  else if cid = cidRxTimingSetup then some (mac.handleRxTimingSetup args)
  else some mac

/-- The commands of a downlink one after another. An unknown or cut command ends
them; one that raises is skipped. The fuel is at least the number of bytes left. -/
def handleMacCommandsFrom (snr : Option Rat) : Nat → Bytes → Mac → Mac
  | 0, _, mac => mac
  | _ + 1, [], mac => mac
  | fuel + 1, cid :: rest, mac =>
      match macReqLen cid with
      | none => mac
      | some length =>
          if rest.length < length then mac
          else handleMacCommandsFrom snr fuel (rest.drop length)
            ((mac.handleMacCommand snr cid (rest.take length)).getD mac)

def handleMacCommands (snr : Option Rat) (cmds : Bytes) (mac : Mac) : Mac :=
  handleMacCommandsFrom snr cmds.length cmds mac

theorem handleMacCommandsFrom_fuel (snr : Option Rat) {fuel : Nat} {cmds : Bytes} {mac : Mac}
    (enough : cmds.length ≤ fuel) :
    handleMacCommandsFrom snr fuel cmds mac = mac.handleMacCommands snr cmds := by
  suffices same : ∀ {more fewer : Nat} {cmds : Bytes} {mac : Mac}, cmds.length ≤ more →
      cmds.length ≤ fewer →
      handleMacCommandsFrom snr more cmds mac = handleMacCommandsFrom snr fewer cmds mac from
    same enough le_rfl
  intro more
  induction more with
  | zero =>
      intro fewer cmds mac none_left _
      obtain rfl := List.eq_nil_of_length_eq_zero (Nat.le_zero.mp none_left)
      cases fewer <;> rfl
  | succ more ih =>
      intro fewer cmds mac covers covered
      cases cmds with
      | nil => cases fewer <;> rfl
      | cons cid rest =>
          cases fewer with
          | zero => simp at covered
          | succ fewer =>
              simp only [List.length_cons, Nat.add_le_add_iff_right] at covers covered
              have dropped (length : Nat) : (rest.drop length).length ≤ rest.length := by simp
              simp only [handleMacCommandsFrom]
              cases macReqLen cid with
              | none => rfl
              | some length =>
                  dsimp only
                  split
                  · rfl
                  · exact ih (le_trans (dropped length) covers) (le_trans (dropped length) covered)

theorem handleMacCommands_cons (snr : Option Rat) (cid : UInt8) (rest : Bytes) (mac : Mac) :
    mac.handleMacCommands snr (cid :: rest) =
      match macReqLen cid with
      | none => mac
      | some length =>
          if rest.length < length then mac
          else ((mac.handleMacCommand snr cid (rest.take length)).getD mac).handleMacCommands snr
            (rest.drop length) := by
  rw [handleMacCommands, List.length_cons, handleMacCommandsFrom]
  cases macReqLen cid with
  | none => rfl
  | some length =>
      dsimp only
      split
      · rfl
      · have shorter : (rest.drop length).length ≤ rest.length := by simp
        exact handleMacCommandsFrom_fuel snr shorter

@[simp] theorem handleMacCommands_nil (snr : Option Rat) (mac : Mac) :
    mac.handleMacCommands snr [] = mac := rfl

theorem handleMacCommands_append (snr : Option Rat) (requests : List MacRequest) (rest : Bytes)
    (mac : Mac) :
    mac.handleMacCommands snr (MacRequest.bytes requests ++ rest) =
      (requests.foldl (fun mac request =>
        (mac.handleMacCommand snr request.cid request.args).getD mac) mac).handleMacCommands snr
          rest := by
  induction requests generalizing mac with
  | nil => rfl
  | cons request requests ih =>
      have bytes : MacRequest.bytes (request :: requests) ++ rest =
          request.cid :: (request.args ++ (MacRequest.bytes requests ++ rest)) := by
        simp [MacRequest.bytes]
      have enough : ¬(request.args ++ (MacRequest.bytes requests ++ rest)).length <
          request.args.length := by simp
      rw [bytes, handleMacCommands_cons, request.complete]
      dsimp only
      rw [if_neg enough, List.take_left, List.drop_left, ih]
      rfl

/-- All that MAC commands can do: queue complete answers and change the regional
parameters. -/
structure Answered (before after : Mac) (answers : List Bytes) : Prop where
  session : after.session = before.session
  devNonce : after.devNonce = before.devNonce
  devNonceCounter : after.devNonceCounter = before.devNonceCounter
  ackPending : after.ackPending = before.ackPending
  uplinksSinceDownlink : after.uplinksSinceDownlink = before.uplinksSinceDownlink
  unansweredLinkChecks : after.unansweredLinkChecks = before.unansweredLinkChecks
  recentAppNonces : after.recentAppNonces = before.recentAppNonces
  pendingFOpts : after.pendingFOpts = before.pendingFOpts ++ answers.flatten
  history : after.history = answers.reverse.map .answerQueued ++ before.history
  complete : ∀ answer ∈ answers, IsMacAnswer answer
  room : answers ≠ [] → after.pendingFOpts.length ≤ maxFOptsLen

namespace Answered

variable {before middle after : Mac} {first second : List Bytes}

theorem refl (mac : Mac) : Answered mac mac [] := by constructor <;> simp

theorem trans (earlier : Answered before middle first) (later : Answered middle after second) :
    Answered before after (first ++ second) where
  session := later.session.trans earlier.session
  devNonce := later.devNonce.trans earlier.devNonce
  devNonceCounter := later.devNonceCounter.trans earlier.devNonceCounter
  ackPending := later.ackPending.trans earlier.ackPending
  uplinksSinceDownlink := later.uplinksSinceDownlink.trans earlier.uplinksSinceDownlink
  unansweredLinkChecks := later.unansweredLinkChecks.trans earlier.unansweredLinkChecks
  recentAppNonces := later.recentAppNonces.trans earlier.recentAppNonces
  pendingFOpts := by rw [later.pendingFOpts, earlier.pendingFOpts]; simp
  history := by rw [later.history, earlier.history]; simp
  complete answer member := by
    rcases List.mem_append.mp member with early | late
    · exact earlier.complete answer early
    · exact later.complete answer late
  room nonempty := by
    by_cases silent : second = []
    · subst silent
      rw [later.pendingFOpts]
      simpa using earlier.room (by simpa using nonempty)
    · exact later.room silent

/-- What does not speak of answers is kept by every event of the commands. -/
theorem eachEvent {holds : MacEvent → List MacEvent → Prop}
    (silent : ∀ answer older, holds (.answerQueued answer) older)
    (answered : Answered before after first) (kept : EachEvent holds before.history) :
    EachEvent holds after.history := by
  rw [answered.history]
  induction first.reverse with
  | nil => exact kept
  | cons answer rest ih => exact eachEvent_cons.mpr ⟨silent answer _, ih⟩

theorem mem_history (answered : Answered before after first) {event : MacEvent}
    (member : event ∈ before.history) : event ∈ after.history := by
  rw [answered.history]
  exact List.mem_append_right _ member

theorem length_le (answered : Answered before after first)
    (fits : before.pendingFOpts.length ≤ maxFOptsLen) :
    after.pendingFOpts.length ≤ maxFOptsLen := by
  by_cases silent : first = []
  · subst silent
    rw [answered.pendingFOpts]
    simpa using fits
  · exact answered.room silent

theorem ite {condition : Prop} [Decidable condition] {left right : Mac}
    (yes : Answered before left first) (no : Answered before right first) :
    Answered before (if condition then left else right) first := by
  split
  · exact yes
  · exact no

end Answered

theorem answered_queueAnswer {mac : Mac} {answer : Bytes} (complete : IsMacAnswer answer) :
    Answered mac (mac.queueAnswer answer)
      (if mac.pendingFOpts.length + answer.length ≤ maxFOptsLen then [answer] else []) := by
  unfold queueAnswer
  split
  · next fits =>
    constructor <;> simp [complete]
    exact fits
  · exact .refl mac

private theorem answered_thenQueue {before mac : Mac} {answer : Bytes}
    (same : Answered before mac []) (complete : IsMacAnswer answer) :
    ∃ answers, Answered before (mac.queueAnswer answer) answers :=
  ⟨_, same.trans (answered_queueAnswer complete)⟩

theorem answered_handleLinkAdr {before after : Mac} {args : Bytes}
    (handled : before.handleLinkAdr args = some after) : ∃ answers, Answered before after answers := by
  obtain ⟨⟨newMask, supported⟩, _, rfl⟩ := Option.map_eq_some_iff.mp handled
  exact answered_thenQueue (.ite (by constructor <;> simp) (.refl _)) ⟨cidLinkAdr, _, rfl, rfl⟩

theorem answered_handleMacCommand {snr : Option Rat} {cid : UInt8} {args : Bytes}
    {before after : Mac} (handled : before.handleMacCommand snr cid args = some after) :
    ∃ answers, Answered before after answers := by
  unfold handleMacCommand at handled
  split_ifs at handled
  · obtain rfl := Option.some.inj handled
    exact ⟨[], by constructor <;> simp⟩
  · exact answered_handleLinkAdr handled
  · obtain rfl := Option.some.inj handled
    exact answered_thenQueue (.refl _) ⟨cidDutyCycle, _, rfl, rfl⟩
  · obtain rfl := Option.some.inj handled
    exact answered_thenQueue (.ite (by constructor <;> simp) (.refl _))
      ⟨cidRxParamSetup, _, rfl, rfl⟩
  · obtain rfl := Option.some.inj handled
    exact answered_thenQueue (.refl _) ⟨cidDevStatus, _, rfl, rfl⟩
  · obtain rfl := Option.some.inj handled
    exact answered_thenQueue (by constructor <;> simp) ⟨cidRxTimingSetup, _, rfl, rfl⟩
  · obtain rfl := Option.some.inj handled
    exact ⟨[], .refl _⟩

theorem answered_handleMacCommandsFrom (snr : Option Rat) (fuel : Nat) (cmds : Bytes) (mac : Mac) :
    ∃ answers, Answered mac (handleMacCommandsFrom snr fuel cmds mac) answers := by
  induction fuel generalizing cmds mac with
  | zero => exact ⟨[], .refl mac⟩
  | succ fuel ih =>
      cases cmds with
      | nil => exact ⟨[], .refl mac⟩
      | cons cid rest =>
          rw [handleMacCommandsFrom]
          split
          · exact ⟨[], .refl mac⟩
          · next length _ =>
            split
            · exact ⟨[], .refl mac⟩
            · cases handled : mac.handleMacCommand snr cid (rest.take length) with
              | none => exact ih _ mac
              | some after =>
                  obtain ⟨first, earlier⟩ := answered_handleMacCommand handled
                  obtain ⟨second, later⟩ := ih (rest.drop length) after
                  exact ⟨_, earlier.trans later⟩

/-- Whatever a downlink asks, its commands only queue complete answers and change
the regional parameters. -/
theorem answered_handleMacCommands (snr : Option Rat) (cmds : Bytes) (mac : Mac) :
    ∃ answers, Answered mac (mac.handleMacCommands snr cmds) answers :=
  answered_handleMacCommandsFrom snr cmds.length cmds mac

end Mac

end Wqm1.Radio
