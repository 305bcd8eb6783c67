import Wqm1.Radio.Outline

/-! Whether a reading can be sent: the bytes of its payload, the MAC answers that
wait for the same frame, and the limit of the data rate. -/

set_option autoImplicit false

namespace Wqm1.Radio

open Wqm1.Library Radio.Sample

namespace Telemetry

variable {crypto : Crypto} {device : Device} {limits : Limits} {mac : Mac} {world : World}
  {payload : Bytes} {fport : UInt8} {confirmed : Bool}

/-- The frame options keep to their budget at every point of every run. -/
def budget (crypto : Crypto) (device : Device) (limits : Limits) : Outline crypto device limits where
  at_ _ world := world.mac.pendingFOpts.length ≤ maxFOptsLen
  forgets := fun _ _ => Nat.zero_le _
  othersSave := fun room _ => room
  othersFail := fun room _ => room
  saves := fun _ room _ => room
  saveFails := fun room => room
  tunes := fun _ _ room => room
  attempts := fun _ room => room
  startsJoin := fun _ _ room => room
  abandonsStart := fun room => room
  draws := fun _ room => room
  requests := fun room => room
  abandonsRequest := fun room => room
  abandonsJoin := fun room => room
  accepts := by
    intro world data room
    unfold Mac.processJoinAccept
    cases world.mac.verifyJoinAccept crypto device data with
    | none => exact room
    | some accept => exact Nat.zero_le _
  begins := by
    intro world payload fport confirmed _ room
    have counted := (Mac.answered_countUplink world.mac).length_le room
    unfold beginUplink
    rcases Mac.prepareUplink_cases crypto device payload fport confirmed world.mac with
      ⟨_, prepared⟩ | ⟨_, _, prepared⟩ | ⟨_, _, _, prepared⟩ | ⟨_, _, _, prepared⟩ <;> rw [prepared]
    · exact room
    · exact Nat.zero_le _
    · exact counted
    · exact Nat.zero_le _
  hands := fun room => room
  abandonsUplink := fun room _ => room
  hears := fun room _ => room
  hangsUp := fun room => room
  processes := by
    intro data world snr room
    cases verified : world.mac.verifyDownlink crypto data with
    | none =>
        rw [Mac.processDownlink_of_rejected verified]
        exact room
    | some fcnt =>
        obtain ⟨answers, answered⟩ := Mac.processDownlink_of_verified snr verified
        exact answered.length_le room
  returns := fun room => room
  settles := fun room => room
  executes := fun room => room
  restarts := fun _ _ => by simp [World.restart, World.start]

theorem pendingFOpts_le {stored : StoredSession} {machine : Machine World Call.Answer}
    (run : (unit crypto device limits).Reaches (unitStart device stored) machine) :
    machine.memory.mac.pendingFOpts.length ≤ maxFOptsLen := by
  have begins : (budget crypto device limits).at_ .idle (.start device stored []) := by
    simp [budget, World.start]
  obtain ⟨⟨_, room⟩, _⟩ := (budget crypto device limits).reaches begins run
  exact room

/-- The bytes of a reading's payload. -/
def readingBytes (reading : Reading) : Nat :=
  4 * Cayenne.scalarColumns reading + if Cayenne.hasPosition reading then 11 else 0

/-- The bytes of frame options that ride along, a LinkCheckReq that falls due included. -/
def optionBytes (mac : Mac) : Nat :=
  mac.pendingFOpts.length +
    if mac.atLivenessPoint ∧ mac.pendingFOpts.length + 1 ≤ maxFOptsLen then 1 else 0

/-- When a reading is sent: always at DR2 and above, and at DR1 as long as its bytes
leave room for the frame options. -/
def Fits (mac : Mac) (reading : Reading) : Prop :=
  mac.presumesDead ∨ (mac.uplinkDr : Nat) ≠ 1 ∨ readingBytes reading + optionBytes mac ≤ 53

theorem length_countUplink : mac.countUplink.pendingFOpts.length = optionBytes mac := by
  rw [(Mac.answered_countUplink mac).pendingFOpts, optionBytes]
  split <;> simp [Mac.tallyUplink]

theorem uplinkDr_countUplink : mac.countUplink.uplinkDr = mac.uplinkDr := by
  unfold Mac.countUplink Mac.queueAnswer
  split
  · split <;> rfl
  · rfl

theorem readingBytes_le (reading : Reading) : readingBytes reading ≤ 51 := by
  have columns : Cayenne.scalarColumns reading ≤ 10 := List.length_filter_le _ _
  unfold readingBytes
  split <;> omega

/-- The limit of the data rate decides only at DR1. -/
theorem tooLong_iff (room : mac.pendingFOpts.length ≤ maxFOptsLen) (usable : 1 ≤ (mac.uplinkDr : Nat))
    (reading : Reading) :
    maxPayloadByDr mac.countUplink.uplinkDr <
        (Cayenne.encode reading).length + mac.countUplink.pendingFOpts.length ↔
      (mac.uplinkDr : Nat) = 1 ∧ 53 < readingBytes reading + optionBytes mac := by
  have bytes : (Cayenne.encode reading).length = readingBytes reading := Cayenne.length_encode reading
  have atMost := readingBytes_le reading
  have budget : optionBytes mac ≤ 15 := by
    rw [← length_countUplink]
    exact (Mac.answered_countUplink mac).length_le room
  rw [uplinkDr_countUplink, length_countUplink, bytes]
  unfold Mac.uplinkDr at usable ⊢
  generalize mac.sf = sf at usable ⊢
  cases sf with
  | sf10 => exact absurd usable (by decide)
  | sf9 => exact ⟨fun long => ⟨rfl, long⟩, fun long => long.2⟩
  | sf8 =>
      have fits : ¬125 < readingBytes reading + optionBytes mac := by omega
      exact ⟨fun long => absurd long fits, fun long => absurd long.1 (by decide)⟩
  | sf7 =>
      have fits : ¬242 < readingBytes reading + optionBytes mac := by omega
      exact ⟨fun long => absurd long fits, fun long => absurd long.1 (by decide)⟩

/-- What `send_uplink` has done after three answers of a radio and a table that answer
every call. -/
def afterSend (crypto : Crypto) (device : Device) (payload : Bytes) (fport : UInt8) (confirmed : Bool)
    (value : (call : Call) → call.Answer) (world : World) : Mac :=
  ((unit crypto device {}).play ⟨world, none⟩ (.start (.sendUplink payload fport confirmed) ::
    List.replicate 3 (.reply fun call => some (value call)))).memory.mac

/-- The payload was handed to the radio, or the session was forgotten at a liveness point. -/
def Served (payload : Bytes) (before after : Mac) : Prop :=
  (∃ frame older, after.history = .transmitted (.data frame) :: older ∧ frame.payload = payload ∧
    frame.session.fcntUp = before.session.fcntUp ∧
    after.session.fcntUp = before.session.fcntUp + 1) ∨
  (before.atLivenessPoint ∧ after.session.joined = false)

private theorem afterSend_began {value : (call : Call) → call.Answer} {began : World}
    {outcome : UplinkOutcome}
    (prepared : beginUplink crypto device payload fport confirmed world = (began, outcome)) :
    afterSend crypto device payload fport confirmed value world =
      ((unit crypto device {}).play
        ((do let _ ← continueUplink crypto device outcome : Program Unit).settle began)
        (List.replicate 3 (.reply fun call => some (value call)))).memory.mac := by
  show ((unit crypto device {}).play ((do
    let _ ← continueUplink crypto device (beginUplink crypto device payload fport confirmed world).2
    : Program Unit).settle (beginUplink crypto device payload fport confirmed world).1) _).memory.mac = _
  rw [prepared]

/-- A joined unit at DR1 or above serves a reading exactly when it fits. -/
theorem served_iff (room : world.mac.pendingFOpts.length ≤ maxFOptsLen)
    (joined : world.mac.session.joined = true) (usable : 1 ≤ (world.mac.uplinkDr : Nat)) (reading : Reading)
    (value : (call : Call) → call.Answer) :
    Served (Cayenne.encode reading) world.mac
        (afterSend crypto device (Cayenne.encode reading) fport confirmed value world) ↔
      Fits world.mac reading := by
  have long := tooLong_iff room usable reading
  rcases Mac.prepareUplink_cases crypto device (Cayenne.encode reading) fport confirmed world.mac with
    ⟨unjoined, _⟩ | ⟨_, dead, prepared⟩ | ⟨_, alive, refused, prepared⟩ |
      ⟨_, alive, fits, prepared⟩
  · exact nomatch joined.symm.trans unjoined
  · have began : beginUplink crypto device (Cayenne.encode reading) fport confirmed world =
        (world.withMac ((world.mac.record .presumedDead).forgetSession device), .presumedDead) := by
      rw [beginUplink, prepared]
    rw [afterSend_began began]
    exact ⟨fun _ => .inl dead, fun _ => .inr ⟨dead.1, rfl⟩⟩
  · have began : beginUplink crypto device (Cayenne.encode reading) fport confirmed world =
        (world.withMac world.mac.countUplink, .tooLong) := by
      rw [beginUplink, prepared]
    rw [afterSend_began began]
    have session : world.mac.countUplink.session = world.mac.session := Mac.countUplink_session
    constructor
    · rintro (⟨frame, older, _, _, _, advanced⟩ | ⟨_, forgotten⟩)
      · have same : world.mac.countUplink.session.fcntUp = world.mac.session.fcntUp + 1 := advanced
        rw [session] at same
        omega
      · have same : world.mac.countUplink.session.joined = false := forgotten
        rw [session, joined] at same
        exact nomatch same
    · rintro (dead | other | fits)
      · exact absurd dead alive
      · exact absurd (long.mp refused).1 other
      · exact absurd (long.mp refused).2 (not_lt.mpr fits)
  · have began : beginUplink crypto device (Cayenne.encode reading) fport confirmed world =
        ((world.withMac world.mac.countUplink.consumeUplink).openUplink
          (world.mac.countUplink.buildUplink crypto (Cayenne.encode reading) fport confirmed),
        .ready (world.mac.countUplink.buildUplink crypto (Cayenne.encode reading) fport confirmed)) := by
      rw [beginUplink, prepared]
    rw [afterSend_began began]
    have counter : world.mac.countUplink.session.fcntUp = world.mac.session.fcntUp :=
      congrArg LoRaWANSession.fcntUp Mac.countUplink_session
    refine ⟨fun _ => ?_, fun _ => .inl ⟨_, _, rfl, rfl, counter, congrArg (· + 1) counter⟩⟩
    by_cases other : (world.mac.uplinkDr : Nat) = 1
    · exact .inr (.inr (not_lt.mp fun tooMany => not_lt.mpr fits (long.mpr ⟨other, tooMany⟩)))
    · exact .inr (.inl other)

/-- `send_uplink(encode(reading))`; where the encoder raises, nothing is sent. -/
def afterReading (crypto : Crypto) (device : Device) (reading : Reading) (fport : UInt8) (confirmed : Bool)
    (value : (call : Call) → call.Answer) (world : World) : Mac :=
  match Cayenne.encodeFloats reading with
  | none => world.mac
  | some payload => afterSend crypto device payload fport confirmed value world

theorem afterReading_of_encodes {reading : Reading} (encodes : Cayenne.encodeOverflows reading = false)
    (value : (call : Call) → call.Answer) : afterReading crypto device reading fport confirmed value world =
      afterSend crypto device (Cayenne.encode reading) fport confirmed value world := by
  unfold afterReading Cayenne.encodeFloats
  rw [encodes]
  rfl

theorem not_served_same (joined : mac.session.joined = true) : ¬Served payload mac mac := by
  rintro (⟨_, _, _, _, _, advanced⟩ | ⟨_, forgotten⟩)
  · omega
  · rw [joined] at forgotten
    cases forgotten

/-- In every joined state of every run at DR1 or above, a reading is served, whatever the
radio answers, exactly when no value of it overflows in the encoder and it fits. -/
theorem telemetry_served_iff {stored : StoredSession} {machine : Machine World Call.Answer}
    (run : (unit crypto device limits).Reaches (unitStart device stored) machine)
    (joined : machine.memory.mac.session.joined = true) (usable : 1 ≤ (machine.memory.mac.uplinkDr : Nat))
    (reading : Reading) (fport : UInt8) (confirmed : Bool) (value : (call : Call) → call.Answer) :
    Served (Cayenne.encode reading) machine.memory.mac
        (afterReading crypto device reading fport confirmed value machine.memory) ↔
      Cayenne.encodeOverflows reading = false ∧ Fits machine.memory.mac reading := by
  have served : Served (Cayenne.encode reading) machine.memory.mac
      (afterSend crypto device (Cayenne.encode reading) fport confirmed value machine.memory) ↔
        Fits machine.memory.mac reading := served_iff (pendingFOpts_le run) joined usable reading value
  cases raises : Cayenne.encodeOverflows reading with
  | true =>
    unfold afterReading Cayenne.encodeFloats
    rw [raises]
    exact iff_of_false (not_served_same joined) (fun fits => by cases fits.1)
  | false =>
    rw [afterReading_of_encodes raises]
    exact served.trans (and_iff_right rfl).symm

theorem telemetry_served_iff_joined :
    let machine := (unit Crypto.aes Sample.device {}).play (unitStart Sample.device blank) joins
    Served (Cayenne.encode { tempC := some 20 }) machine.memory.mac (afterReading Crypto.aes Sample.device
      { tempC := some 20 } fportApp false (working none) machine.memory) :=
  (telemetry_served_iff (System.reaches_play (show System.legalRun _ _ joins = true by decide +kernel))
    (by decide +kernel) (by decide +kernel) { tempC := some 20 } fportApp false (working none)).mpr
    ⟨by decide +kernel, .inr (.inr (by decide +kernel))⟩

/-- With the answer to one DevStatusReq waiting, a full reading is refused at DR1. -/
theorem full_reading_refused :
    ∃ machine, (unit Crypto.aes Sample.device {}).Reaches (unitStart Sample.device blank) machine ∧
      machine.memory.mac.session.joined = true ∧ (machine.memory.mac.uplinkDr : Nat) = 1 ∧
      (machine.memory.mac.prepareUplink Crypto.aes Sample.device (Cayenne.encode fullReading) fportApp
        false).2 = .tooLong ∧
      ¬Served (Cayenne.encode fullReading) machine.memory.mac (afterReading Crypto.aes Sample.device
        fullReading fportApp false (working none) machine.memory) := by
  let machine := (unit Crypto.aes Sample.device {}).play (unitStart Sample.device blank) isAsked
  have joined : machine.memory.mac.session.joined = true := by decide +kernel
  have slow : (machine.memory.mac.uplinkDr : Nat) = 1 := by decide +kernel
  have room : machine.memory.mac.pendingFOpts.length ≤ maxFOptsLen := by decide +kernel
  refine ⟨machine, System.reaches_play (show System.legalRun _ _ isAsked = true by decide +kernel),
    joined, slow, by decide +kernel, fun served => ?_⟩
  rw [afterReading_of_encodes (by decide +kernel)] at served
  rcases (served_iff room joined slow.ge fullReading _).mp served with dead | other | fits
  · exact absurd dead (by decide +kernel)
  · exact other slow
  · exact absurd fits (by decide +kernel)

end Telemetry

end Wqm1.Radio
