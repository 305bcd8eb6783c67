import Wqm1.Radio.Outline

/-! When `send_uplink` gives a session up: the unanswered counter against the
LinkCheckReqs that were really handed to the radio. -/

set_option autoImplicit false

namespace Wqm1.Radio

open Wqm1.Library Radio.Frame Radio.Sample

namespace LinkChecks

def hasLinkCheck (fopts : Bytes) : Bool := ((parseAnswers fopts).getD []).contains [cidLinkCheck]

def carriesLinkCheck (frame : UplinkFrame) : Bool :=
  (parse frame.bytes).any fun parsed => hasLinkCheck parsed.fopts

/-- The frames with a LinkCheckReq since the last verified downlink or the join. -/
def linkChecksSince : List MacEvent → Nat
  | [] => 0
  | .downlinkAccepted _ _ _ _ :: _ => 0
  | .joinAccepted _ _ :: _ => 0
  | .transmitted (.data frame) :: older => linkChecksSince older + (carriesLinkCheck frame).toNat
  | _ :: older => linkChecksSince older

/-- A session is presumed dead only after enough LinkCheckReqs. -/
def JustifiedEvent : MacEvent → List MacEvent → Prop
  | .presumedDead, older => rejoinAfterUnansweredLinkChecks ≤ linkChecksSince older
  | _, _ => True

/-- A due LinkCheckReq finds room and no other one waiting, and none is on board of an
uplink whose configuration of the radio raises. -/
def probesKept : Limits where
  uplinks world := !(world.mac.session.joined && decide world.mac.atLivenessPoint) ||
    !hasLinkCheck world.mac.pendingFOpts &&
      (decide (rejoinAfterUnansweredLinkChecks ≤ world.mac.unansweredLinkChecks) ||
        decide (world.mac.pendingFOpts.length < maxFOptsLen))
  answers
    | .setTxConfig _ _ _, world, none => world.uplink.all fun frame => !carriesLinkCheck frame
    | _, _, _ => true

/-- Every counted LinkCheckReq was handed over, waits, or is on its way; `onBoard`
is one when the frame of the open uplink carries one. -/
structure Probed (mac : Mac) (onBoard : Nat) : Prop where
  complete : ∃ answers : List Bytes, mac.pendingFOpts = answers.flatten ∧ ∀ answer ∈ answers, IsMacAnswer answer
  room : mac.pendingFOpts.length ≤ maxFOptsLen
  counted : mac.unansweredLinkChecks ≤
    linkChecksSince mac.history + (hasLinkCheck mac.pendingFOpts).toNat + onBoard
  unjoined : mac.session.joined = false → mac.unansweredLinkChecks = 0

def waitingFrame : Point → Option UplinkFrame
  | .prepared frame => some frame
  | .flying frame => some frame
  | _ => none

def onBoard (point : Point) : Nat := ((waitingFrame point).any carriesLinkCheck).toNat

/-- What the points add. -/
structure AtPoint (point : Point) (world : World) : Prop where
  joining : point.isJoining = true → world.mac.session.joined = false
  uplink : ∀ frame, waitingFrame point = some frame → world.uplink = some frame

variable {crypto : Crypto} {device : Device} {mac : Mac} {world : World} {payload : Bytes}
  {fport : UInt8} {confirmed : Bool}

theorem hasLinkCheck_flatten {answers : List Bytes}
    (complete : ∀ answer ∈ answers, IsMacAnswer answer) :
    hasLinkCheck answers.flatten = answers.contains [cidLinkCheck] := by
  rw [hasLinkCheck, parseAnswers_flatten complete, Option.getD_some]

/-- The frame carries what waited in the queue. -/
theorem carriesLinkCheck_buildUplink (room : mac.pendingFOpts.length ≤ maxFOptsLen) :
    carriesLinkCheck (mac.buildUplink crypto payload fport confirmed) =
      hasLinkCheck mac.pendingFOpts := by
  rw [carriesLinkCheck, Mac.buildUplink_bytes crypto payload fport confirmed room,
    DataFrame.parse_encode]
  rfl

private theorem linkChecksSince_answered (newest : List Bytes) (older : List MacEvent) :
    linkChecksSince (newest.map .answerQueued ++ older) = linkChecksSince older := by
  induction newest with
  | nil => rfl
  | cons answer rest ih => exact ih

theorem Probed.answered {after : Mac} {answers : List Bytes} {board : Nat} (probed : Probed mac board)
    (answered : Mac.Answered mac after answers) : Probed after board := by
  obtain ⟨queued, pending, complete⟩ := probed.complete
  have longer : after.pendingFOpts = (queued ++ answers).flatten := by
    rw [answered.pendingFOpts, pending, List.flatten_append]
  have both : ∀ answer ∈ queued ++ answers, IsMacAnswer answer := fun answer member =>
    (List.mem_append.mp member).elim (complete answer) (answered.complete answer)
  refine ⟨⟨_, longer, both⟩, answered.length_le probed.room, ?_, fun unjoined => ?_⟩
  · have kept : (hasLinkCheck mac.pendingFOpts).toNat ≤ (hasLinkCheck after.pendingFOpts).toNat := by
      rw [pending, longer, hasLinkCheck_flatten complete, hasLinkCheck_flatten both,
        List.contains_append]
      cases queued.contains [cidLinkCheck] <;> cases answers.contains [cidLinkCheck] <;> decide
    have counted := probed.counted
    rw [answered.unansweredLinkChecks, answered.history, linkChecksSince_answered]
    omega
  · rw [answered.unansweredLinkChecks]
    exact probed.unjoined (answered.session ▸ unjoined)

theorem Probed.of_reset {board : Nat} (pending : mac.pendingFOpts = [])
    (unanswered : mac.unansweredLinkChecks = 0) : Probed mac board :=
  ⟨⟨[], pending, nofun⟩, by simp [pending], by simp [unanswered], fun _ => unanswered⟩

theorem Probed.congr {other : Mac} {board : Nat} (probed : Probed mac board)
    (pending : other.pendingFOpts = mac.pendingFOpts)
    (unanswered : other.unansweredLinkChecks = mac.unansweredLinkChecks)
    (since : linkChecksSince other.history = linkChecksSince mac.history)
    (joined : other.session.joined = mac.session.joined) : Probed other board := by
  refine ⟨?_, ?_, ?_, ?_⟩
  · simpa only [pending] using probed.complete
  · simpa only [pending] using probed.room
  · simpa only [pending, unanswered, since] using probed.counted
  · simpa only [joined, unanswered] using probed.unjoined

/-- The step that matters: a LinkCheckReq is counted and finds its place in the queue. -/
theorem probed_countUplink (probed : Probed mac 0) (joined : mac.session.joined = true)
    (kept : mac.atLivenessPoint →
      hasLinkCheck mac.pendingFOpts = false ∧ mac.pendingFOpts.length < maxFOptsLen) :
    Probed mac.countUplink 0 := by
  have still : mac.countUplink.session.joined = true :=
    (congrArg LoRaWANSession.joined Mac.countUplink_session).trans joined
  by_cases due : mac.atLivenessPoint
  · obtain ⟨alone, fits⟩ := kept due
    have room : mac.pendingFOpts.length + 1 ≤ maxFOptsLen := fits
    have counted := Mac.answered_countUplink mac
    rw [if_pos ⟨due, room⟩] at counted
    obtain ⟨queued, pending, complete⟩ := probed.complete
    have longer : mac.countUplink.pendingFOpts = (queued ++ [[cidLinkCheck]]).flatten := by
      rw [counted.pendingFOpts, List.flatten_append]
      exact congrArg (· ++ _) pending
    have both : ∀ answer ∈ queued ++ [[cidLinkCheck]], IsMacAnswer answer := fun answer member =>
      (List.mem_append.mp member).elim (complete answer) (counted.complete answer)
    refine ⟨⟨_, longer, both⟩, counted.room (by simp), ?_, fun unjoined => nomatch still.symm.trans unjoined⟩
    have waiting : hasLinkCheck mac.countUplink.pendingFOpts = true := by
      rw [longer, hasLinkCheck_flatten both]
      simp
    have before := probed.counted
    rw [alone] at before
    rw [counted.unansweredLinkChecks, counted.history, linkChecksSince_answered, waiting]
    simp only [Mac.tallyUplink, due, if_true, Bool.toNat_false, Bool.toNat_true] at before ⊢
    omega
  · rw [Mac.countUplink, if_neg due]
    exact probed.congr rfl (by simp [Mac.tallyUplink, due]) rfl rfl

theorem probed_begins (each : EachEvent JustifiedEvent world.mac.history) (probed : Probed world.mac 0)
    (allowed : probesKept.uplinks world = true) :
    let began := beginUplink crypto device payload fport confirmed world
    EachEvent JustifiedEvent began.1.mac.history ∧
      Probed began.1.mac (onBoard (.ofOutcome began.2)) ∧ AtPoint (.ofOutcome began.2) began.1 := by
  have atIdle {world : World} : AtPoint .idle world := ⟨nofun, nofun⟩
  have silent : EachEvent JustifiedEvent world.mac.countUplink.history :=
    (Mac.answered_countUplink world.mac).eachEvent (fun _ _ => trivial) each
  have counted (joined : world.mac.session.joined = true) (alive : ¬world.mac.presumesDead) :
      Probed world.mac.countUplink 0 := by
    refine probed_countUplink probed joined fun due => ?_
    have below : ¬rejoinAfterUnansweredLinkChecks ≤ world.mac.unansweredLinkChecks := fun dead =>
      alive ⟨due, dead⟩
    simpa [probesKept, joined, due, below] using allowed
  dsimp only
  unfold beginUplink
  rcases Mac.prepareUplink_cases crypto device payload fport confirmed world.mac with
    ⟨_, prepared⟩ | ⟨joined, ⟨due, dead⟩, prepared⟩ | ⟨joined, alive, _, prepared⟩ |
      ⟨joined, alive, _, prepared⟩ <;> rw [prepared]
  · exact ⟨each, probed, atIdle⟩
  · have alone : hasLinkCheck world.mac.pendingFOpts = false := by
      simpa [probesKept, joined, due, dead] using allowed
    have enough := probed.counted
    rw [alone] at enough
    exact ⟨eachEvent_cons.mpr ⟨dead.trans enough, each⟩, .of_reset rfl rfl, atIdle⟩
  · exact ⟨silent, counted joined alive, atIdle⟩
  · have before := counted joined alive
    have board : onBoard (.prepared (world.mac.countUplink.buildUplink crypto payload fport
        confirmed)) = (hasLinkCheck world.mac.countUplink.pendingFOpts).toNat :=
      congrArg Bool.toNat (carriesLinkCheck_buildUplink before.room)
    refine ⟨silent, ⟨⟨[], rfl, nofun⟩, Nat.zero_le _, ?_, before.unjoined⟩, nofun, fun _ same => same⟩
    simp only [Point.ofOutcome, board]
    exact before.counted

theorem probed_processes {snr : Option Rat} {data : Bytes}
    (each : EachEvent JustifiedEvent world.mac.history) (probed : Probed world.mac 0) :
    EachEvent JustifiedEvent (world.mac.processDownlink crypto snr data).1.history ∧
      Probed (world.mac.processDownlink crypto snr data).1 0 := by
  cases verified : world.mac.verifyDownlink crypto data with
  | none =>
      rw [Mac.processDownlink_of_rejected verified]
      exact ⟨each, probed⟩
  | some fcnt =>
      obtain ⟨answers, answered⟩ := Mac.processDownlink_of_verified snr verified
      have advanced : Probed (world.mac.advanceFcntDown fcnt data) 0 :=
        ⟨probed.complete, probed.room, Nat.zero_le _, fun _ => rfl⟩
      exact ⟨answered.eachEvent (fun _ _ => trivial) (eachEvent_cons.mpr ⟨trivial, each⟩),
        advanced.answered answered⟩

theorem probed_accepts {data : Bytes} (each : EachEvent JustifiedEvent world.mac.history)
    (probed : Probed world.mac 0) (unjoined : world.mac.session.joined = false) :
    EachEvent JustifiedEvent (world.mac.processJoinAccept crypto device data).1.history ∧
      Probed (world.mac.processJoinAccept crypto device data).1 0 := by
  unfold Mac.processJoinAccept
  cases world.mac.verifyJoinAccept crypto device data with
  | none => exact ⟨each, probed⟩
  | some accept =>
      exact ⟨eachEvent_cons.mpr ⟨trivial, each⟩, .of_reset rfl (probed.unjoined unjoined)⟩

/-- What holds at every point of a run in which no counted LinkCheckReq is lost. -/
def outline (crypto : Crypto) (device : Device) : Outline crypto device probesKept where
  at_ point world := EachEvent JustifiedEvent world.mac.history ∧
    Probed world.mac (onBoard point) ∧ AtPoint point world
  forgets := fun ⟨each, _, here⟩ _ => ⟨each, .of_reset rfl rfl, fun _ => rfl, here.uplink⟩
  othersSave := fun ⟨each, probed, here⟩ _ => ⟨each, probed, here.joining, here.uplink⟩
  othersFail := fun ⟨each, probed, here⟩ _ => ⟨each, probed, here.joining, here.uplink⟩
  saves := fun {point _ _} _ ⟨each, probed, here⟩ _ => by
    cases point <;> exact ⟨each, probed, here.joining, here.uplink⟩
  saveFails := fun {point _} ⟨each, probed, here⟩ => by
    cases point <;> exact ⟨each, probed, here.joining, here.uplink⟩
  tunes := fun _ _ ⟨each, probed, here⟩ =>
    ⟨each, probed.congr rfl rfl rfl rfl, here.joining, here.uplink⟩
  attempts := fun _ ⟨each, probed, _⟩ => ⟨each, probed, nofun, nofun⟩
  startsJoin := fun _ unjoined ⟨each, probed, _⟩ => ⟨each, probed, fun _ => unjoined, nofun⟩
  abandonsStart := fun ⟨each, probed, _⟩ => ⟨each, probed, nofun, nofun⟩
  draws := fun _ ⟨each, probed, here⟩ => ⟨eachEvent_cons.mpr ⟨trivial, each⟩,
    probed.congr rfl rfl rfl rfl, fun _ => here.joining rfl, nofun⟩
  requests := fun ⟨each, probed, here⟩ => ⟨eachEvent_cons.mpr ⟨trivial, each⟩,
    probed.congr rfl rfl rfl rfl, fun _ => here.joining rfl, nofun⟩
  abandonsRequest := fun ⟨each, probed, _⟩ => ⟨each, probed, nofun, nofun⟩
  abandonsJoin := fun ⟨each, probed, _⟩ => ⟨each, probed, nofun, nofun⟩
  accepts := fun _ ⟨each, probed, here⟩ =>
    have ⟨justified, accepted⟩ := probed_accepts each probed (here.joining rfl)
    ⟨justified, accepted, nofun, nofun⟩
  begins := fun _ _ _ allowed ⟨each, probed, _⟩ => probed_begins each probed allowed
  hands := by
    rintro frame world ⟨each, probed, _⟩
    refine ⟨eachEvent_cons.mpr ⟨trivial, each⟩, ⟨probed.complete, probed.room, ?_, probed.unjoined⟩,
      nofun, nofun⟩
    have counted := probed.counted
    have board : onBoard (.flying frame) = (carriesLinkCheck frame).toNat := rfl
    show world.mac.unansweredLinkChecks ≤ linkChecksSince world.mac.history +
      (carriesLinkCheck frame).toNat + (hasLinkCheck world.mac.pendingFOpts).toNat + 0
    omega
  abandonsUplink := by
    rintro frame world frequency spreading bandwidth ⟨each, probed, here⟩ allowed
    have without : carriesLinkCheck frame = false := by
      simpa [probesKept, here.uplink frame rfl] using allowed
    have board : onBoard (.flying frame) = 0 := congrArg Bool.toNat without
    rw [board] at probed
    exact ⟨each, probed, nofun, nofun⟩
  hears := fun ⟨each, probed, _⟩ _ => ⟨each, probed, nofun, nofun⟩
  hangsUp := fun ⟨each, probed, _⟩ => ⟨each, probed, nofun, nofun⟩
  processes := fun _ ⟨each, probed, _⟩ =>
    have ⟨justified, processed⟩ := probed_processes each probed
    ⟨justified, processed, nofun, nofun⟩
  returns := fun ⟨each, probed, _⟩ => ⟨each, probed, nofun, nofun⟩
  settles := fun ⟨each, probed, _⟩ => ⟨each, probed, nofun, nofun⟩
  executes := fun ⟨each, probed, _⟩ => ⟨eachEvent_cons.mpr ⟨trivial, each⟩,
    probed.congr rfl rfl rfl rfl, nofun, nofun⟩
  restarts := fun ⟨each, _, _⟩ _ => by
    refine ⟨?_, .of_reset ?_ ?_, nofun, nofun⟩ <;>
      simp only [World.restart, World.start, Mac.boot_history, Mac.boot_pendingFOpts,
        Mac.boot_unansweredLinkChecks]
    exact eachEvent_cons.mpr ⟨trivial, each⟩

/-- In every run in which no counted LinkCheckReq is lost, a session is presumed dead
only after three frames with a LinkCheckReq since the last verified downlink or the join. -/
theorem presumed_dead_justified {stored : StoredSession} {machine : Machine World Call.Answer}
    (run : (unit crypto device probesKept).Reaches (unitStart device stored) machine) :
    EachEvent JustifiedEvent machine.memory.mac.history := by
  have begins : (outline crypto device).at_ .idle (.start device stored []) := by
    refine ⟨?_, .of_reset ?_ ?_, nofun, nofun⟩ <;>
      simp only [World.start, Mac.boot_history, Mac.boot_pendingFOpts, Mac.boot_unansweredLinkChecks]
    exact eachEvent_nil _
  obtain ⟨⟨_, each, _⟩, _⟩ := (outline crypto device).reaches begins run
  exact each

/-- A unit with a session whose network is gone: 95 uplinks are sent in vain. -/
def unheard : List (Move Call.Answer Job Effect) :=
  (List.replicate 95 (silentUplink [])).flatten ++
    .start (.sendUplink [] fportApp false) :: replies 1 none

theorem presumed_dead_justified_unheard :
    EachEvent JustifiedEvent ((unit counterCrypto Sample.device probesKept).play
      (unitStart Sample.device (expecting 0)) unheard).memory.mac.history :=
  presumed_dead_justified (System.reaches_play
    (show System.legalRun _ _ unheard = true by decide +kernel))

/-- The network is heard and asks for the device status; with that answer waiting every
full reading is too long. -/
def refused : List (Move Call.Answer Job Effect) :=
  isAsked ++ (List.replicate 95 (fullStep 5)).flatten ++ fullStep 6

/-- The session is presumed dead though no LinkCheckReq was ever handed to the radio. -/
theorem refused_uplinks_presume_dead :
    ∃ machine older, (unit Crypto.aes Sample.device {}).Reaches (unitStart Sample.device blank) machine ∧
      machine.memory.mac.history = .presumedDead :: older ∧ linkChecksSince older = 0 ∧
      ¬EachEvent JustifiedEvent machine.memory.mac.history := by
  let machine := (unit Crypto.aes Sample.device {}).play (unitStart Sample.device blank) refused
  have newest : machine.memory.mac.history = .presumedDead :: machine.memory.mac.history.tail := by
    decide +kernel
  have none_sent : linkChecksSince machine.memory.mac.history.tail = 0 := by decide +kernel
  refine ⟨machine, _, System.reaches_play (show System.legalRun _ _ refused = true by decide +kernel),
    newest, none_sent, fun each => ?_⟩
  rw [newest] at each
  have enough : rejoinAfterUnansweredLinkChecks ≤ linkChecksSince machine.memory.mac.history.tail :=
    (eachEvent_cons.mp each).1
  rw [none_sent] at enough
  exact absurd enough (by decide)

end LinkChecks

end Wqm1.Radio
