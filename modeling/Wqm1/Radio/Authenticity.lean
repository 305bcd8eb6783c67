import Wqm1.Radio.Outline

/-! Which keys a downlink may verify under. The joined flag is checked when the
uplink starts; as long as no other thread forgets the session before the
downlink is processed, only keys of accepted JoinAccepts verify anything. -/

set_option autoImplicit false

namespace Wqm1.Radio

open Wqm1.Library

namespace Authenticity

/-- A downlink was accepted in a joined session, under a key this MAC derived from
a JoinAccept, and a command was executed only after such a downlink. -/
def AuthenticEvent (crypto : Crypto) : MacEvent → List MacEvent → Prop
  | .downlinkAccepted session fcnt _ frame, older =>
      session.joined = true ∧ (∃ devNonce, .joinAccepted session.nwkSKey devNonce ∈ older) ∧
        crypto.computeFrameMic session.nwkSKey session.devAddr fcnt
          (frame.take (frame.length - 4)) .downlink = frame.drop (frame.length - 4)
  | .commandProcessed _ _, older =>
      ∃ session fcnt confirmed frame, .downlinkAccepted session fcnt confirmed frame ∈ older
  | _, _ => True

/-- Every downlink and every command of a history was authentic. -/
def Authentic (crypto : Crypto) : List MacEvent → Prop := EachEvent (AuthenticEvent crypto)

/-- A joined session has the key of an accepted JoinAccept. -/
def Keyed (session : LoRaWANSession) (history : List MacEvent) : Prop :=
  session.joined = true → ∃ devNonce, .joinAccepted session.nwkSKey devNonce ∈ history

structure Authenticated (crypto : Crypto) (world : World) : Prop where
  history : Authentic crypto world.mac.history
  session : Keyed world.mac.session world.mac.history
  stored : Keyed world.stored.session world.mac.history

/-- No session is forgotten between the joined check of an uplink and its downlink. -/
def undisturbed : Limits where
  permits effect world := effect != .forgetSession || world.uplink.isNone

/-- What the points add: an open uplink has its session, a returned downlink was accepted. -/
structure AtPoint (point : Point) (world : World) : Prop where
  isOpen : point.inUplink = true → world.uplink.isSome = true ∧ world.mac.session.joined = true
  downlink : point.downlink.isSome = true →
    ∃ session fcnt confirmed frame, .downlinkAccepted session fcnt confirmed frame ∈ world.mac.history

variable {crypto : Crypto} {device : Device} {world : World}

theorem Keyed.mono {session : LoRaWANSession} {history : List MacEvent} (keyed : Keyed session history)
    (event : MacEvent) : Keyed session (event :: history) := fun joined =>
  let ⟨devNonce, member⟩ := keyed joined
  ⟨devNonce, List.mem_cons_of_mem _ member⟩

theorem Authenticated.record (authenticated : Authenticated crypto world) (event : MacEvent)
    (authentic : AuthenticEvent crypto event world.mac.history) :
    Authenticated crypto (world.record event) where
  history := eachEvent_cons.mpr ⟨authentic, authenticated.history⟩
  session := authenticated.session.mono event
  stored := authenticated.stored.mono event

private theorem atIdle : AtPoint .idle world := ⟨nofun, nofun⟩

private theorem keyed_default (history : List MacEvent) : Keyed {} history := fun joined =>
  nomatch joined

private theorem keyed_congr {session other : LoRaWANSession} {history : List MacEvent}
    (keyed : Keyed session history) (joined : other.joined = session.joined)
    (key : other.nwkSKey = session.nwkSKey) : Keyed other history := by
  simpa only [Keyed, joined, key] using keyed

/-- A change of the MAC layer that keeps the history and the session. -/
private theorem Authenticated.withMac (authenticated : Authenticated crypto world) {mac : Mac}
    (history : mac.history = world.mac.history) (session : Keyed mac.session world.mac.history) :
    Authenticated crypto (world.withMac mac) where
  history := by simpa only [World.withMac, history] using authenticated.history
  session := by simpa only [World.withMac, history] using session
  stored := by simpa only [World.withMac, history] using authenticated.stored

private theorem Authenticated.answered (authenticated : Authenticated crypto world) {mac : Mac}
    {answers : List Bytes} (answered : Mac.Answered world.mac mac answers) :
    Authenticated crypto (world.withMac mac) where
  history := answered.eachEvent (fun _ _ => trivial) authenticated.history
  session joined :=
    let ⟨devNonce, member⟩ := authenticated.session (answered.session ▸ joined)
    ⟨devNonce, answered.session.symm ▸ answered.mem_history member⟩
  stored joined :=
    let ⟨devNonce, member⟩ := authenticated.stored joined
    ⟨devNonce, answered.mem_history member⟩

theorem authenticated_begins (authenticated : Authenticated crypto world) (payload : Bytes)
    (fport : UInt8) (confirmed : Bool) :
    Authenticated crypto (beginUplink crypto device payload fport confirmed world).1 ∧
      AtPoint (.ofOutcome (beginUplink crypto device payload fport confirmed world).2)
        (beginUplink crypto device payload fport confirmed world).1 := by
  have tallied : Authenticated crypto (world.withMac world.mac.tallyUplink) :=
    authenticated.withMac rfl authenticated.session
  have counted := tallied.answered (Mac.answered_countUplink world.mac)
  unfold beginUplink
  rcases Mac.prepareUplink_cases crypto device payload fport confirmed world.mac with
    ⟨_, prepared⟩ | ⟨_, _, prepared⟩ | ⟨_, _, _, prepared⟩ | ⟨joined, _, _, prepared⟩ <;> rw [prepared]
  · exact ⟨authenticated, atIdle⟩
  · exact ⟨(authenticated.record .presumedDead trivial).withMac rfl (keyed_default _), atIdle⟩
  · exact ⟨counted, atIdle⟩
  · have consumed : Authenticated crypto (world.withMac world.mac.countUplink.consumeUplink) :=
      counted.withMac rfl (keyed_congr counted.session rfl rfl)
    have still := (congrArg LoRaWANSession.joined Mac.countUplink_session).trans joined
    exact ⟨⟨consumed.history, consumed.session, consumed.stored⟩, fun _ => ⟨rfl, still⟩, nofun⟩

theorem authenticated_accepts (authenticated : Authenticated crypto world) (data : Bytes) :
    Authenticated crypto (world.withMac (world.mac.processJoinAccept crypto device data).1) := by
  unfold Mac.processJoinAccept
  cases world.mac.verifyJoinAccept crypto device data with
  | none => exact authenticated
  | some accept =>
      have accepted := authenticated.record (.joinAccepted
        (Mac.joinedSession crypto device accept world.mac.devNonce).nwkSKey world.mac.devNonce) trivial
      exact accepted.withMac rfl fun _ => ⟨_, List.mem_cons_self⟩

/-- The step that matters: a frame is accepted while the session is joined. -/
theorem authenticated_processes (authenticated : Authenticated crypto world)
    (joined : world.mac.session.joined = true) (snr : Option Rat) (data : Bytes) :
    Authenticated crypto (world.withMac (world.mac.processDownlink crypto snr data).1) ∧
      AtPoint (.returned (world.mac.processDownlink crypto snr data).2)
        (world.withMac (world.mac.processDownlink crypto snr data).1) := by
  cases verified : world.mac.verifyDownlink crypto data with
  | none =>
      rw [Mac.processDownlink_of_rejected verified]
      exact ⟨authenticated, nofun, nofun⟩
  | some fcnt =>
      obtain ⟨answers, answered⟩ := Mac.processDownlink_of_verified snr verified
      obtain ⟨_, _, _, mic, _⟩ := Mac.verifyDownlink_eq_some.mp verified
      have accepted := authenticated.record (.downlinkAccepted world.mac.session fcnt
        (data.headD 0 == mhdrConfirmedDown) data) ⟨joined, authenticated.session joined, mic⟩
      have advanced : Authenticated crypto (world.withMac (world.mac.advanceFcntDown fcnt data)) :=
        accepted.withMac rfl (keyed_congr accepted.session rfl rfl)
      refine ⟨advanced.answered answered, ?_⟩
      have member : MacEvent.downlinkAccepted world.mac.session fcnt
          (data.headD 0 == mhdrConfirmedDown) data ∈
            (world.mac.processDownlink crypto snr data).1.history :=
        answered.mem_history List.mem_cons_self
      exact ⟨nofun, fun _ => ⟨_, _, _, _, member⟩⟩

/-- What holds at every point of a run in which no open uplink loses its session. -/
def outline (crypto : Crypto) (device : Device) : Outline crypto device undisturbed where
  at_ point world := Authenticated crypto world ∧ AtPoint point world
  forgets := by
    rintro point world ⟨authenticated, here⟩ permitted
    have closed : world.uplink = none := by simpa [undisturbed] using permitted
    have outside : ¬point.inUplink = true := fun inUplink =>
      absurd (here.isOpen inUplink).1 (by simp [closed])
    exact ⟨authenticated.withMac rfl (keyed_default _), fun inUplink => absurd inUplink outside,
      here.downlink⟩
  othersSave := fun ⟨authenticated, here⟩ _ =>
    ⟨⟨authenticated.history, authenticated.session, authenticated.session⟩, here.isOpen, here.downlink⟩
  othersFail := fun ⟨authenticated, here⟩ _ =>
    ⟨⟨authenticated.history, authenticated.session, authenticated.stored⟩, here.isOpen, here.downlink⟩
  saves := by
    rintro point before after ⟨earlier, _⟩ ⟨authenticated, here⟩ mac
    have history : after.mac.history = before.mac.history := by
      rcases mac with same | forgotten
      · rw [same]
      · rw [forgotten]; rfl
    have stored : Keyed before.mac.session after.mac.history := history ▸ earlier.session
    exact ⟨⟨authenticated.history, authenticated.session, stored⟩,
      point.inUplink_afterSave ▸ here.isOpen, point.downlink_afterSave ▸ here.downlink⟩
  saveFails := fun ⟨authenticated, here⟩ =>
    ⟨⟨authenticated.history, authenticated.session, authenticated.stored⟩,
      fun inUplink => here.isOpen (Point.inUplink_afterFailedSave _ ▸ inUplink), fun holding => here.downlink (Point.downlink_afterFailedSave holding)⟩
  tunes := fun channel frequency ⟨authenticated, here⟩ =>
    ⟨authenticated.withMac rfl authenticated.session, here.isOpen, here.downlink⟩
  attempts := fun count ⟨authenticated, _⟩ =>
    ⟨⟨authenticated.history, authenticated.session, authenticated.stored⟩, atIdle⟩
  startsJoin := fun _ _ ⟨authenticated, _⟩ => ⟨authenticated, nofun, nofun⟩
  abandonsStart := fun ⟨authenticated, _⟩ => ⟨authenticated, atIdle⟩
  draws := fun random ⟨authenticated, _⟩ =>
    ⟨(authenticated.record (.joinCalled _) trivial).withMac rfl (authenticated.session.mono _),
      nofun, nofun⟩
  requests := fun ⟨authenticated, _⟩ => ⟨authenticated.record _ trivial, nofun, nofun⟩
  abandonsRequest := fun ⟨authenticated, _⟩ => ⟨authenticated, atIdle⟩
  abandonsJoin := fun ⟨authenticated, _⟩ => ⟨authenticated, atIdle⟩
  accepts := fun data ⟨authenticated, _⟩ => ⟨authenticated_accepts authenticated data, atIdle⟩
  begins := fun payload fport confirmed _ ⟨authenticated, _⟩ =>
    authenticated_begins authenticated payload fport confirmed
  hands := fun ⟨authenticated, here⟩ => ⟨authenticated.record _ trivial, here.isOpen, nofun⟩
  abandonsUplink := fun ⟨authenticated, _⟩ _ =>
    ⟨⟨authenticated.history, authenticated.session, authenticated.stored⟩, atIdle⟩
  hears := fun ⟨authenticated, here⟩ _ => ⟨authenticated, here.isOpen, nofun⟩
  hangsUp := fun ⟨authenticated, _⟩ =>
    ⟨⟨authenticated.history, authenticated.session, authenticated.stored⟩, nofun, nofun⟩
  processes := fun snr ⟨authenticated, here⟩ =>
    have ⟨processed, returned⟩ := authenticated_processes authenticated (here.isOpen rfl).2 snr _
    ⟨⟨processed.history, processed.session, processed.stored⟩, nofun, returned.downlink⟩
  returns := fun ⟨authenticated, _⟩ => ⟨authenticated, atIdle⟩
  settles := fun ⟨authenticated, _⟩ => ⟨authenticated, atIdle⟩
  executes := fun ⟨authenticated, here⟩ => ⟨authenticated.record _ (here.downlink rfl), atIdle⟩
  restarts := by
    rintro point world ⟨authenticated, _⟩ _
    have history : Authentic crypto (.restarted :: world.mac.history) :=
      eachEvent_cons.mpr ⟨trivial, authenticated.history⟩
    have stored := authenticated.stored.mono .restarted
    refine ⟨⟨?_, ?_, ?_⟩, atIdle⟩
    · simpa only [World.restart, World.start, Mac.boot_history] using history
    · simp only [World.restart, World.start, Mac.boot_history, Mac.boot_session]
      split
      · exact stored
      · exact keyed_default _
    · simpa only [World.restart, World.start, Mac.boot_history] using stored

/-- In every run in which no other thread forgets the session between the joined
check of an uplink and the processing of its downlink, every accepted downlink
verified under a key derived from an accepted JoinAccept, in a joined session,
and every executed command came from an accepted downlink. -/
theorem accepted_downlinks_authentic {stored : StoredSession} (fresh : stored.session.joined = false)
    {machine : Machine World Call.Answer}
    (run : (unit crypto device undisturbed).Reaches (unitStart device stored) machine) :
    Authentic crypto machine.memory.mac.history := by
  have nothing : Authentic crypto [] := eachEvent_nil _
  have begins : Authenticated crypto (.start device stored []) := by
    refine ⟨?_, ?_, ?_⟩
    · simpa only [World.start, Mac.boot_history] using nothing
    · simp only [World.start, Mac.boot_session, fresh]
      exact keyed_default _
    · exact fun joined => nomatch fresh.symm.trans joined
  obtain ⟨⟨point, authenticated, _⟩, _⟩ := (outline crypto device).reaches ⟨begins, atIdle⟩ run
  exact authenticated.history

/-- The relay command of a genuine downlink. -/
def genuineDownlink : Bytes :=
  [0x60, 0x01, 0x02, 0x03, 0x04, 0x00, 0x00, 0x00, 0x64, 0xbc, 0x87, 0x30, 0x8f, 0x07, 0x11]

/-- A unit joins and executes the relay command of a genuine downlink. -/
def genuineUplink : List (Move Call.Answer Job Effect) :=
  Sample.joins ++ .start .radioStep :: Sample.replies 14 (some genuineDownlink)

theorem accepted_downlinks_authentic_genuine :
    Authentic Crypto.aes ((unit Crypto.aes Sample.device undisturbed).play
      (unitStart Sample.device blank) genuineUplink).memory.mac.history :=
  accepted_downlinks_authentic rfl (System.reaches_play (by decide +kernel))

/-- A relay command that anybody can build: DevAddr and keys are all zero. -/
def forgedDownlink : Bytes :=
  [0x60, 0x00, 0x00, 0x00, 0x00, 0x00, 0x00, 0x00, 0x64, 0x73, 0xa5, 0xfe, 0xa4, 0x02, 0x5d]

/-- The unit joins, sends an uplink, forgets its session while RX1 is open and hears the forgery. -/
def forgottenUplink : List (Move Call.Answer Job Effect) :=
  Sample.joins ++ .start .radioStep :: Sample.replies 9 none ++ .disturb .forgetSession ::
    Sample.replies 4 (some forgedDownlink)

/-- A session forgotten during an uplink leaves the default session to verify the
downlink: a forged relay command is accepted and executed. -/
theorem forgotten_uplink_executes_forgery :
    ∃ machine, (unit Crypto.aes Sample.device {}).Reaches (unitStart Sample.device blank) machine ∧
      .commandProcessed 100 [1, 1] ∈ machine.memory.mac.history ∧
      ¬Authentic Crypto.aes machine.memory.mac.history := by
  refine ⟨_, System.reaches_play (show System.legalRun _ _ forgottenUplink = true by decide +kernel), by decide +kernel,
    fun authentic => ?_⟩
  have accepted : MacEvent.downlinkAccepted {} 0 false forgedDownlink ∈
      ((unit Crypto.aes Sample.device {}).play (unitStart Sample.device blank)
        forgottenUplink).memory.mac.history := by decide +kernel
  obtain ⟨older, joined, _⟩ := authentic.of_mem accepted
  exact nomatch joined

end Authenticity

end Wqm1.Radio
