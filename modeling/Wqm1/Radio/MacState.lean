import Wqm1.Radio.MacRun
import Wqm1.Radio.Unit

/-! The regional parameters that every operation keeps, and that a MAC layer built
from the persisted object has again. -/

set_option autoImplicit false

namespace Wqm1.Radio.MacState

open Wqm1.Library

variable {crypto : Crypto} {device : Device} {sf : Int}

/-- From the first to the last of the eight downlink channels. -/
def inDownlinkBand (frequency : Nat) : Prop :=
  us915DownlinkBaseHz ≤ frequency ∧ frequency ≤ us915DownlinkBaseHz + 7 * us915DownlinkStepHz

/-- The data rates of the downlink channels. -/
def isDownlinkDr (dr : Nat) : Prop := 8 ≤ dr ∧ dr ≤ 13

/-- What holds of the MAC layer after every operation. -/
structure Regional (mac : Mac) : Prop where
  usable : mac.channelMask.any125k = true
  delay : 1 ≤ mac.rx1DelayS ∧ mac.rx1DelayS ≤ 15
  rx2Frequency : inDownlinkBand mac.rx2Frequency
  rx2Dr : isDownlinkDr mac.rx2Dr
  fopts : mac.pendingFOpts.length ≤ maxFOptsLen
  nonce : -1 ≤ mac.devNonceCounter ∧ mac.devNonceCounter ≤ 0xFFFF
  remembered : mac.recentAppNonces.length ≤ recentAppNoncesKept
  nonces : ∀ appNonce ∈ mac.recentAppNonces, appNonce ≤ 0xFFFFFF

theorem any125k_subBand (subBand : Int) : (subBandChannelMask subBand).any125k = true := by
  have bands : ∀ band < 9, 0 < band →
      (ChannelMask.ofFn fun channel =>
        (decide ((band - 1) * 8 ≤ channel) && decide (channel < (band - 1) * 8 + 8)) ||
          channel == us915Num125kChannels + band - 1).any125k = true := by
    decide +kernel
  apply bands
  · omega
  · omega

theorem exists_channel {mask : ChannelMask} (usable : mask.any125k = true) :
    ∃ channel < us915Num125kChannels, mask.get channel = true := by
  obtain ⟨on, member, enabled⟩ := List.any_eq_true.mp usable
  obtain ⟨channel, inside, same⟩ := List.mem_take_iff_getElem.mp member
  refine ⟨channel, ?_, ?_⟩
  · omega
  · unfold ChannelMask.get
    rw [List.getD_eq_getElem _ _ (by omega), same]
    exact enabled

theorem default_delay : 1 ≤ defaultRx1DelayS ∧ defaultRx1DelayS ≤ 15 := by decide +kernel

theorem default_band : inDownlinkBand rx2Frequency := by
  unfold inDownlinkBand
  decide

theorem default_dr : isDownlinkDr rx2Dr := by
  unfold isDownlinkDr
  decide

theorem regional_construct (device : Device) (sf : Int) (history : List MacEvent) :
    Regional (.construct device sf history) where
  usable := any125k_subBand device.subBand
  delay := default_delay
  rx2Frequency := default_band
  rx2Dr := default_dr
  fopts := Nat.zero_le _
  nonce := ⟨le_rfl, (by decide : (-1 : Int) ≤ 0xFFFF)⟩
  remembered := Nat.zero_le _
  nonces := fun _ member => absurd member List.not_mem_nil

namespace Regional

variable {mac : Mac}

theorem forgetSession (regional : Regional mac) : Regional (mac.forgetSession device) where
  usable := any125k_subBand device.subBand
  delay := default_delay
  rx2Frequency := default_band
  rx2Dr := default_dr
  fopts := Nat.zero_le _
  nonce := regional.nonce
  remembered := regional.remembered
  nonces := regional.nonces

theorem drawDevNonce (regional : Regional mac) (random : Nat) : Regional (mac.drawDevNonce random).1 where
  usable := regional.usable
  delay := regional.delay
  rx2Frequency := regional.rx2Frequency
  rx2Dr := regional.rx2Dr
  fopts := regional.fopts
  nonce := by
    change -1 ≤ mac.nextDevNonce random ∧ mac.nextDevNonce random ≤ 0xFFFF
    unfold Mac.nextDevNonce
    split <;> omega
  remembered := regional.remembered
  nonces := regional.nonces

theorem record (regional : Regional mac) (event : MacEvent) : Regional (mac.record event) :=
  ⟨regional.usable, regional.delay, regional.rx2Frequency, regional.rx2Dr, regional.fopts, regional.nonce,
    regional.remembered, regional.nonces⟩

theorem queueAnswer (regional : Regional mac) (answer : Bytes) : Regional (mac.queueAnswer answer) := by
  unfold Mac.queueAnswer
  split
  next fits =>
    refine ⟨regional.usable, regional.delay, regional.rx2Frequency, regional.rx2Dr, ?_, regional.nonce,
      regional.remembered, regional.nonces⟩
    rw [List.length_append]
    exact fits
  next => exact regional

theorem answerLinkAdr (regional : Regional mac) {req : LinkAdrReq} {after : Mac}
    (answered : mac.answerLinkAdr req = some after) : Regional after := by
  obtain ⟨⟨newMask, supported⟩, _, rfl⟩ := Option.map_eq_some_iff.mp answered
  apply queueAnswer
  split
  next accepted =>
    have usable := (linkAdrStatus_eq_seven.mp accepted).1
    rw [Bool.and_eq_true] at usable
    exact ⟨usable.2, regional.delay, regional.rx2Frequency, regional.rx2Dr, regional.fopts, regional.nonce,
      regional.remembered, regional.nonces⟩
  next => exact regional

private theorem rxParamStatus_eq_seven {offsetOk rateOk bandOk : Prop} [Decidable offsetOk]
    [Decidable rateOk] [Decidable bandOk] :
    (if offsetOk then 0x04 else 0) + (if rateOk then 0x02 else 0) + (if bandOk then 0x01 else 0) = 0x07 ↔
      offsetOk ∧ rateOk ∧ bandOk := by
  by_cases offset : offsetOk <;> by_cases rate : rateOk <;> by_cases band : bandOk <;>
    simp [offset, rate, band]

theorem handleRxParamSetup (regional : Regional mac) (args : Bytes) : Regional (mac.handleRxParamSetup args) := by
  unfold Mac.handleRxParamSetup
  apply queueAnswer
  simp only [rxParamStatus_eq_seven]
  split
  next accepted =>
    exact ⟨regional.usable, regional.delay, accepted.2.2, accepted.2.1, regional.fopts, regional.nonce,
      regional.remembered, regional.nonces⟩
  next => exact regional

theorem handleRxTimingSetup (regional : Regional mac) (args : Bytes) :
    Regional (mac.handleRxTimingSetup args) := by
  unfold Mac.handleRxTimingSetup
  apply queueAnswer
  refine ⟨regional.usable, ?_, regional.rx2Frequency, regional.rx2Dr, regional.fopts, regional.nonce,
    regional.remembered, regional.nonces⟩
  dsimp only
  split
  next => exact default_delay
  next positive =>
    have small : (args.getD 0 0).toNat % 16 ≤ 15 := by omega
    have large : 1 ≤ (args.getD 0 0).toNat % 16 := by omega
    exact ⟨by exact_mod_cast large, by exact_mod_cast small⟩

theorem handleMacCommand (regional : Regional mac) {snr : Option Rat} {cid : UInt8} {args : Bytes}
    {after : Mac} (handled : mac.handleMacCommand snr cid args = some after) : Regional after := by
  unfold Mac.handleMacCommand at handled
  split_ifs at handled
  · cases handled
    exact ⟨regional.usable, regional.delay, regional.rx2Frequency, regional.rx2Dr, regional.fopts,
      regional.nonce, regional.remembered, regional.nonces⟩
  · exact regional.answerLinkAdr handled
  · cases handled
    exact regional.queueAnswer _
  · cases handled
    exact regional.handleRxParamSetup args
  · cases handled
    exact regional.queueAnswer _
  · cases handled
    exact regional.handleRxTimingSetup args
  · cases handled
    exact regional

theorem handleMacCommands (regional : Regional mac) (snr : Option Rat) (cmds : Bytes) :
    Regional (mac.handleMacCommands snr cmds) := by
  unfold Mac.handleMacCommands
  generalize cmds.length = fuel
  induction fuel generalizing cmds mac with
  | zero => exact regional
  | succ fuel ih =>
    cases cmds with
    | nil => exact regional
    | cons cid rest =>
      rw [Mac.handleMacCommandsFrom]
      split
      next => exact regional
      next length _ =>
        split
        next => exact regional
        next =>
          cases handled : mac.handleMacCommand snr cid (rest.take length) with
          | none => exact ih regional _
          | some after => exact ih (regional.handleMacCommand handled) _

theorem processDownlink (regional : Regional mac) (snr : Option Rat) (data : Bytes) :
    Regional (mac.processDownlink crypto snr data).1 := by
  unfold Mac.processDownlink
  split
  next => exact regional
  next fcnt _ =>
    have advanced : Regional (mac.advanceFcntDown fcnt data) :=
      ⟨regional.usable, regional.delay, regional.rx2Frequency, regional.rx2Dr, regional.fopts,
        regional.nonce, regional.remembered, regional.nonces⟩
    have commanded (foptsLen headerLen : Nat) : Regional (if foptsLen = 0 then mac.advanceFcntDown fcnt data
        else (mac.advanceFcntDown fcnt data).handleMacCommands snr (slice data 8 headerLen)) := by
      split
      next => exact advanced
      next => exact advanced.handleMacCommands snr _
    dsimp only
    split
    next => exact commanded _ _
    next =>
      dsimp only
      split
      next => exact (commanded _ _).handleMacCommands snr _
      next => exact commanded _ _

theorem countUplink (regional : Regional mac) : Regional mac.countUplink := by
  have tallied : Regional mac.tallyUplink :=
    ⟨regional.usable, regional.delay, regional.rx2Frequency, regional.rx2Dr, regional.fopts,
      regional.nonce, regional.remembered, regional.nonces⟩
  unfold Mac.countUplink
  split
  next => exact tallied.queueAnswer _
  next => exact tallied

theorem prepareUplink (regional : Regional mac) (payload : Bytes) (fport : UInt8) (confirmed : Bool) :
    Regional (mac.prepareUplink crypto device payload fport confirmed).1 := by
  obtain ⟨_, same⟩ | ⟨_, _, same⟩ | ⟨_, _, _, same⟩ | ⟨_, _, _, same⟩ :=
    Mac.prepareUplink_cases crypto device payload fport confirmed mac
  · rw [same]
    exact regional
  · rw [same]
    exact (regional.record _).forgetSession
  · rw [same]
    exact regional.countUplink
  · rw [same]
    have counted := regional.countUplink
    exact ⟨counted.usable, counted.delay, counted.rx2Frequency, counted.rx2Dr, Nat.zero_le _,
      counted.nonce, counted.remembered, counted.nonces⟩

theorem processJoinAccept (regional : Regional mac) (data : Bytes) :
    Regional (mac.processJoinAccept crypto device data).1 := by
  unfold Mac.processJoinAccept
  cases verified : mac.verifyJoinAccept crypto device data with
  | none => exact regional
  | some accept =>
    obtain ⟨_, _, _, _, _, read⟩ := Mac.verifyJoinAccept_eq_some.mp verified
    have short : accept.rxDelay ≤ 15 := by
      rw [← read]
      change _ % 16 ≤ 15
      omega
    constructor
    · change (if accept.cfList.length = 16 ∧ accept.cfList.getD 15 0 = 0x01 ∧
        (cfListMask accept.cfList).any125k then cfListMask accept.cfList
        else subBandChannelMask device.subBand).any125k = true
      split
      next listed => exact listed.2.2
      next => exact any125k_subBand _
    · change 1 ≤ (if accept.rxDelay = 0 then defaultRx1DelayS else (accept.rxDelay : Rat)) ∧
        (if accept.rxDelay = 0 then defaultRx1DelayS else (accept.rxDelay : Rat)) ≤ 15
      split
      next => exact default_delay
      next positive =>
        have large : 1 ≤ accept.rxDelay := Nat.one_le_iff_ne_zero.mpr positive
        exact ⟨by exact_mod_cast large, by exact_mod_cast short⟩
    · exact default_band
    · change isDownlinkDr (if accept.dlSettings % 16 = 0 then Radio.rx2Dr
        else max 8 (min 13 (accept.dlSettings % 16)))
      split
      next => exact default_dr
      next =>
        unfold isDownlinkDr
        omega
    · exact Nat.zero_le _
    · exact regional.nonce
    · change (lastOf recentAppNoncesKept (mac.recentAppNonces ++ [accept.appNonceInt])).length ≤ _
      unfold lastOf
      rw [List.length_drop]
      omega
    · intro appNonce member
      have listed : appNonce ∈ mac.recentAppNonces ++ [accept.appNonceInt] :=
        (List.drop_sublist ..).subset member
      cases List.mem_append.mp listed with
      | inl earlier => exact regional.nonces appNonce earlier
      | inr new =>
        rw [List.mem_singleton.mp new]
        exact appNonceInt_le accept

end Regional

/-- The settings that a MAC layer shares with one built from its persisted object. -/
structure SameSettings (device other : Device) (mac restored : Mac) : Prop where
  channels : restored.enabledChannels other = mac.enabledChannels device
  sf : restored.sf = mac.sf
  rx1 : ∀ uplinkDr, rx1DataRate uplinkDr restored.rx1DrOffset = rx1DataRate uplinkDr mac.rx1DrOffset
  rx2Frequency : restored.rx2Frequency = mac.rx2Frequency
  rx2Dr : restored.rx2Dr = mac.rx2Dr
  rx1DelayS : restored.rx1DelayS = mac.rx1DelayS
  devNonceCounter : restored.devNonceCounter = mac.devNonceCounter
  recentAppNonces : restored.recentAppNonces = mac.recentAppNonces

/-- The persisted parameters, applied to a MAC layer without a nonce. -/
theorem applied_eq {mac fresh : Mac} (regional : Regional mac) (unset : fresh.devNonceCounter = -1) :
    fresh.applyMacParams mac.macParams =
      { fresh with
        devNonceCounter := mac.devNonceCounter
        recentAppNonces := mac.recentAppNonces
        sf := mac.sf
        rx1DrOffset := min 3 mac.rx1DrOffset
        rx2Dr := mac.rx2Dr
        rx2Frequency := mac.rx2Frequency
        rx1DelayS := mac.rx1DelayS
        channelMask := mac.channelMask } := by
  have counter : (if 0 ≤ mac.devNonceCounter ∧ mac.devNonceCounter ≤ 0xFFFF then mac.devNonceCounter
      else fresh.devNonceCounter) = mac.devNonceCounter := by
    have range := regional.nonce
    rw [unset]
    split <;> omega
  have nonces : lastOf recentAppNoncesKept
      (mac.recentAppNonces.filter fun nonce => decide (nonce ≤ 0xFFFFFF)) = mac.recentAppNonces := by
    rw [List.filter_eq_self.mpr fun nonce member => decide_eq_true (regional.nonces nonce member)]
    unfold lastOf
    rw [Nat.sub_eq_zero_of_le regional.remembered, List.drop_zero]
  have spreading : (SpreadingFactor.ofInt mac.sf.toNat).getD fresh.sf = mac.sf := by
    cases mac.sf <;> rfl
  have rate : max 8 (min 13 mac.rx2Dr) = mac.rx2Dr := by
    have range := regional.rx2Dr
    unfold isDownlinkDr at range
    omega
  have frequency : mac.rx2Frequency ≠ 0 := by
    have band := regional.rx2Frequency.1
    unfold us915DownlinkBaseHz at band
    omega
  simp only [Mac.applyMacParams, Mac.macParams, Option.getD_some, counter, nonces, spreading, rate,
    frequency, regional.delay, regional.usable, ChannelMask.ofBits_toBits, and_self, ↓reduceIte,
    Nat.zero_max]

theorem enabledChannels_eq (device : Device) {mac : Mac} (usable : mac.channelMask.any125k = true) :
    mac.enabledChannels device = mac.channelMask.channels := by
  obtain ⟨channel, inside, enabled⟩ := exists_channel usable
  have member : channel ∈ mac.channelMask.channels :=
    List.mem_filter.mpr ⟨List.mem_range.mpr inside, enabled⟩
  unfold Mac.enabledChannels
  exact if_neg (List.ne_nil_of_mem member)

theorem sameSettings_restored {mac : Mac} (regional : Regional mac) (other : Device) (otherSf : Int)
    (history : List MacEvent) :
    SameSettings device other mac
        ((Mac.construct other otherSf history).restoreMacParams mac.paramsDocument.read) ∧
      ∀ session, SameSettings device other mac
        ((Mac.construct other otherSf history).restoreSession session mac.paramsDocument.read) := by
  have settings (fresh : Mac) (unset : fresh.devNonceCounter = -1) :
      SameSettings device other mac (fresh.applyMacParams mac.macParams) := by
    rw [applied_eq regional unset]
    refine ⟨?_, rfl, ?_, rfl, rfl, rfl, rfl, rfl⟩
    · rw [enabledChannels_eq device regional.usable]
      exact enabledChannels_eq other regional.usable
    · intro uplinkDr
      have clamped : max 0 (min 3 (min 3 mac.rx1DrOffset)) = max 0 (min 3 mac.rx1DrOffset) := by omega
      unfold rx1DataRate
      rw [clamped]
  rw [ParamsDocument.read_paramsDocument]
  exact ⟨settings _ rfl, fun session => settings _ rfl⟩

/-- A row that was never written or was written from a MAC layer with regional parameters. -/
def Kept (run : MacRun) : Prop :=
  Regional run.mac ∧ (run.row = .blank ∨ ∃ mac, Regional mac ∧ run.row = .save mac)

theorem regional_applied {mac fresh : Mac} (regional : Regional mac) (unset : fresh.devNonceCounter = -1)
    (empty : fresh.pendingFOpts = []) : Regional (fresh.applyMacParams mac.macParams) := by
  rw [applied_eq regional unset]
  refine ⟨regional.usable, regional.delay, regional.rx2Frequency, regional.rx2Dr, ?_, regional.nonce,
    regional.remembered, regional.nonces⟩
  rw [empty]
  exact Nat.zero_le _

theorem regional_rebuild {run : MacRun} (kept : Kept run) (history : List MacEvent) :
    Regional (.rebuild device sf run.row.load history) := by
  cases kept.2 with
  | inl blank =>
    rw [blank]
    exact regional_construct device sf history
  | inr saved =>
    obtain ⟨mac, regional, row⟩ := saved
    rw [row, SessionRow.load_save]
    unfold Mac.rebuild
    split
    next => exact regional_applied regional rfl rfl
    next => exact regional_applied regional rfl rfl

theorem kept_apply {run : MacRun} (kept : Kept run) (op : MacOp) : Kept (run.apply crypto device sf op) := by
  obtain ⟨regional, row⟩ := kept
  cases op with
  | drawDevNonce random => exact ⟨regional.drawDevNonce random, row⟩
  | joinAccept data =>
    have applied : Regional (run.mac.processJoinAccept crypto device data).1 :=
      regional.processJoinAccept data
    dsimp only [MacRun.apply]
    split
    next => exact ⟨applied, row⟩
    next => exact ⟨applied, row⟩
  | prepareUplink payload fport confirmed => exact ⟨regional.prepareUplink payload fport confirmed, row⟩
  | downlink snr data => exact ⟨regional.processDownlink snr data, row⟩
  | tune channel frequency =>
    exact ⟨⟨regional.usable, regional.delay, regional.rx2Frequency, regional.rx2Dr, regional.fopts,
      regional.nonce, regional.remembered, regional.nonces⟩, row⟩
  | record event => exact ⟨regional.record event, row⟩
  | forgetSession => exact ⟨regional.forgetSession, row⟩
  | persist => exact ⟨regional, .inr ⟨run.mac, regional, rfl⟩⟩
  | restart => exact ⟨regional_rebuild ⟨regional, row⟩ _, row⟩

theorem kept_reachable {permits : MacRun → MacOp → Prop} {run : MacRun}
    (reached : run.Reachable crypto device sf permits) : Kept run := by
  apply reached.invariant
  · exact ⟨regional_construct device sf [], .inl rfl⟩
  · intro before op after _ _ stepped kept
    cases stepped
    exact kept_apply kept op

/-- Every MAC layer that operations reach can be used in the region, and one built with
any other sub-band and spreading factor from its persisted object has the same settings. -/
theorem settings_regional_and_kept {run : MacRun}
    (reached : run.Reachable crypto device sf Events.anything) :
    (run.mac.channelMask.enabled.length = 72 ∧ (∃ channel < 64, run.mac.channelMask.get channel = true) ∧
      run.mac.sf.toNat ∈ [7, 8, 9, 10] ∧ (1 ≤ run.mac.rx1DelayS ∧ run.mac.rx1DelayS ≤ 15) ∧
      inDownlinkBand run.mac.rx2Frequency ∧ isDownlinkDr run.mac.rx2Dr ∧
      run.mac.pendingFOpts.length ≤ 15) ∧
    ∀ (other : Device) (otherSf : Int) (history : List MacEvent),
      SameSettings device other run.mac
          ((Mac.construct other otherSf history).restoreMacParams run.mac.paramsDocument.read) ∧
        ∀ session, SameSettings device other run.mac
          ((Mac.construct other otherSf history).restoreSession session run.mac.paramsDocument.read) := by
  have regional := (kept_reachable reached).1
  constructor
  · refine ⟨run.mac.channelMask.length_eq, exists_channel regional.usable, ?_, regional.delay,
      regional.rx2Frequency, regional.rx2Dr, regional.fopts⟩
    cases run.mac.sf <;> decide
  · exact sameSettings_restored regional

/-- A new unit joins, persists, sends, hears an unauthentic frame and restarts. -/
def settles : List MacOp :=
  [.drawDevNonce 0, .joinAccept Sample.joinAccept, .persist, .prepareUplink [1, 2] 1 false,
    .downlink none [0x60], .forgetSession, .restart]

theorem settings_regional_and_kept_settled :
    ∃ run : MacRun, run.Reachable .aes Sample.device 9 Events.anything ∧ run.mac.session.joined = true ∧
      (∃ channel < 64, run.mac.channelMask.get channel = true) ∧
      ((Mac.construct { Sample.device with subBand := 7 } 8 []).restoreMacParams
        run.mac.paramsDocument.read).enabledChannels { Sample.device with subBand := 7 } =
          run.mac.enabledChannels Sample.device := by
  have played : ((Events.play (MacRun.step .aes Sample.device 9) Events.anything (.start Sample.device 9)
      settles).map fun run => run.mac.session.joined) = some true := by
    decide +kernel
  obtain ⟨run, reached, joined⟩ := Option.map_eq_some_iff.mp played
  have settings := settings_regional_and_kept (Events.reaches_play reached)
  exact ⟨run, Events.reaches_play reached, joined, settings.1.2.1, (settings.2 _ 8 []).1.channels⟩

end Wqm1.Radio.MacState
