import Wqm1.Radio.Outline

/-! Every frame handed to the radio against the uplink grammar of the
specification: header, counter, payload, integrity code, and the answers and
the acknowledgement that fell due since the frame before it. -/

set_option autoImplicit false

namespace Wqm1.Radio

open Wqm1.Library Radio.Frame

namespace UplinkGrammar

/-- The answers queued since the last frame or start, oldest first. -/
def answersSince : List MacEvent → List Bytes
  | [] => []
  | .transmitted _ :: _ => []
  | .restarted :: _ => []
  | .answerQueued answer :: older => answersSince older ++ [answer]
  | _ :: older => answersSince older

/-- Whether a confirmed downlink was accepted since the last frame or start. -/
def confirmedSince : List MacEvent → Bool
  | [] => false
  | .transmitted _ :: _ => false
  | .restarted :: _ => false
  | .downlinkAccepted _ _ confirmed _ :: older => confirmedSince older || confirmed
  | _ :: older => confirmedSince older

/-- What the grammar says of a frame after this history. -/
structure Grammatical (crypto : Crypto) (frame : UplinkFrame) (older : List MacEvent)
    (parsed : Parsed) : Prop where
  mtype : parsed.mtype = if frame.confirmed then .confirmedUp else .unconfirmedUp
  devAddr : parsed.devAddr = frame.session.devAddr.bytes
  foptsLen : parsed.foptsLen = parsed.fopts.length ∧ parsed.fopts.length ≤ 15
  ack : parsed.ack = confirmedSince older
  fcnt16 : parsed.fcnt16 = frame.session.fcntUp % 65536
  port : ∃ encrypted, parsed.port = some (frame.fport, encrypted) ∧
    cipher crypto (if frame.fport = 0 then frame.session.nwkSKey else frame.session.appSKey)
      frame.session.devAddr frame.session.fcntUp .uplink encrypted = frame.payload
  whole : frame.bytes = parsed.message ++ parsed.mic
  mic : parsed.mic =
    mic crypto frame.session.nwkSKey frame.session.devAddr frame.session.fcntUp .uplink parsed.message
  answers : parseAnswers parsed.fopts = some (answersSince older)

def GrammaticalEvent (crypto : Crypto) : MacEvent → List MacEvent → Prop
  | .transmitted (.data frame), older =>
      ∃ parsed, parse frame.bytes = some parsed ∧ Grammatical crypto frame older parsed
  | _, _ => True

/-- The queue holds what fell due since the last frame. -/
structure InSync (mac : Mac) : Prop where
  pending : mac.pendingFOpts = (answersSince mac.history).flatten
  complete : ∀ answer ∈ answersSince mac.history, IsMacAnswer answer
  room : mac.pendingFOpts.length ≤ maxFOptsLen
  ack : mac.ackPending = confirmedSince mac.history

variable {crypto : Crypto} {device : Device} {mac : Mac} {world : World} {payload : Bytes}
  {fport : UInt8} {confirmed : Bool}

/-- A frame built from a queue in step with the history is grammatical. -/
theorem grammatical_buildUplink (inSync : InSync mac) :
    GrammaticalEvent crypto (.transmitted (.data (mac.buildUplink crypto payload fport confirmed)))
      mac.history := by
  have bytes := Mac.buildUplink_bytes crypto payload fport confirmed inSync.room
  refine ⟨_, bytes.symm ▸ DataFrame.parse_encode .., ?_⟩
  refine ⟨rfl, rfl, ⟨rfl, inSync.room⟩, ?_, rfl, ⟨_, rfl, ?_⟩, bytes, rfl, ?_⟩
  · rw [← inSync.ack]
    show (if mac.ackPending then 2 else 0 : Nat).testBit 1 = mac.ackPending
    cases mac.ackPending <;> rfl
  · simp only [← encryptPayload_eq]
    exact Crypto.encryptPayload_encryptPayload ..
  · show parseAnswers mac.pendingFOpts = _
    rw [inSync.pending]
    exact parseAnswers_flatten inSync.complete

private theorem since_answered (newest : List Bytes) (older : List MacEvent) :
    answersSince (newest.map .answerQueued ++ older) = answersSince older ++ newest.reverse ∧
      confirmedSince (newest.map .answerQueued ++ older) = confirmedSince older := by
  induction newest with
  | nil => simp
  | cons answer rest ih => simp [answersSince, confirmedSince, ih.1, ih.2]

theorem InSync.answered {after : Mac} {answers : List Bytes} (inSync : InSync mac)
    (answered : Mac.Answered mac after answers) : InSync after := by
  have since : answersSince after.history = answersSince mac.history ++ answers ∧
      confirmedSince after.history = confirmedSince mac.history := by
    rw [answered.history]
    simpa using since_answered answers.reverse mac.history
  refine ⟨?_, fun answer member => ?_, answered.length_le inSync.room, ?_⟩
  · rw [answered.pendingFOpts, inSync.pending, since.1, List.flatten_append]
  · rw [since.1] at member
    exact (List.mem_append.mp member).elim (inSync.complete answer) (answered.complete answer)
  · rw [answered.ackPending, inSync.ack, since.2]

theorem InSync.of_empty (pending : mac.pendingFOpts = []) (ackPending : mac.ackPending = false)
    (answers : answersSince mac.history = []) (confirmed : confirmedSince mac.history = false) :
    InSync mac := by
  constructor <;> simp [pending, ackPending, answers, confirmed]

/-- An uplink whose configuration of the radio raises has no answer and no
acknowledgement on board. -/
def keepsAnswers : Limits where
  answers
    | .setTxConfig _ _ _, world, none =>
        world.uplink.all fun frame =>
          (parse frame.bytes).all fun parsed => !parsed.ack && parsed.fopts.isEmpty
    | _, _, _ => true

/-- What the points add: the queue of a joined session is in step, except while its
frame is on the way to the radio. -/
def AtPoint (crypto : Crypto) : Point → World → Prop
  | .starting, world | .drawn _, world | .requesting _, world => world.mac.session.joined = false
  | .awaiting, world => world.mac.session.joined = false ∧ answersSince world.mac.history = [] ∧
      confirmedSince world.mac.history = false
  | .prepared frame, world | .flying frame, world =>
      world.uplink = some frame ∧ world.mac.pendingFOpts = [] ∧ world.mac.ackPending = false ∧
        GrammaticalEvent crypto (.transmitted (.data frame)) world.mac.history
  | _, world => world.mac.session.joined = true → InSync world.mac

theorem inSync_forgets {point : Point} (here : AtPoint crypto point world) :
    AtPoint crypto point (world.withMac (world.mac.forgetSession device)) := by
  cases point with
  | starting => rfl
  | drawn => rfl
  | requesting => rfl
  | awaiting => exact ⟨rfl, here.2⟩
  | prepared => exact ⟨here.1, rfl, rfl, here.2.2.2⟩
  | flying => exact ⟨here.1, rfl, rfl, here.2.2.2⟩
  | _ => exact fun joined => nomatch joined

private theorem AtPoint.congr {point : Point} {other : World} (here : AtPoint crypto point world)
    (mac : other.mac = world.mac) (uplink : other.uplink = world.uplink) :
    AtPoint crypto point other := by
  cases point <;> simpa only [AtPoint, mac, uplink] using here

theorem inSync_accepts {data : Bytes} (here : AtPoint crypto .awaiting world) :
    AtPoint crypto .idle (world.withMac (world.mac.processJoinAccept crypto device data).1) := by
  obtain ⟨unjoined, answers, confirmed⟩ := here
  unfold Mac.processJoinAccept
  cases world.mac.verifyJoinAccept crypto device data with
  | none => exact fun joined => nomatch unjoined.symm.trans joined
  | some accept => exact fun _ => .of_empty rfl rfl answers confirmed

theorem inSync_begins (here : AtPoint crypto .idle world) :
    AtPoint crypto (.ofOutcome (beginUplink crypto device payload fport confirmed world).2)
      (beginUplink crypto device payload fport confirmed world).1 := by
  have counted (joined : world.mac.session.joined = true) : InSync world.mac.countUplink := by
    have inSync := here joined
    have tallied : InSync world.mac.tallyUplink :=
      ⟨inSync.pending, inSync.complete, inSync.room, inSync.ack⟩
    exact tallied.answered (Mac.answered_countUplink world.mac)
  unfold beginUplink
  rcases Mac.prepareUplink_cases crypto device payload fport confirmed world.mac with
    ⟨_, prepared⟩ | ⟨_, _, prepared⟩ | ⟨joined, _, _, prepared⟩ | ⟨joined, _, _, prepared⟩ <;>
    rw [prepared]
  · exact here
  · exact fun joined => nomatch joined
  · exact fun _ => counted joined
  · exact ⟨rfl, rfl, rfl, grammatical_buildUplink (counted joined)⟩

theorem inSync_processes {snr : Option Rat} {data : Bytes}
    (here : world.mac.session.joined = true → InSync world.mac)
    (joined : (world.mac.processDownlink crypto snr data).1.session.joined = true) :
    InSync (world.mac.processDownlink crypto snr data).1 := by
  cases verified : world.mac.verifyDownlink crypto data with
  | none =>
      rw [Mac.processDownlink_of_rejected verified] at joined ⊢
      exact here joined
  | some fcnt =>
      obtain ⟨answers, answered⟩ := Mac.processDownlink_of_verified snr verified
      have inSync := here (answered.session ▸ joined :)
      have advanced : InSync (world.mac.advanceFcntDown fcnt data) :=
        ⟨inSync.pending, inSync.complete, inSync.room,
          congrArg (· || data.headD 0 == mhdrConfirmedDown) inSync.ack⟩
      exact advanced.answered answered

/-- What holds at every point of a run in which no answer is lost on the way to the radio. -/
def outline (crypto : Crypto) (device : Device) : Outline crypto device keepsAnswers where
  at_ point world :=
    EachEvent (GrammaticalEvent crypto) world.mac.history ∧ AtPoint crypto point world
  forgets := fun ⟨each, here⟩ _ => ⟨each, inSync_forgets here⟩
  othersSave := fun ⟨each, here⟩ _ => ⟨each, here.congr rfl rfl⟩
  othersFail := fun ⟨each, here⟩ _ => ⟨each, here.congr rfl rfl⟩
  saves := fun {point _ _} _ ⟨each, here⟩ _ =>
    ⟨each, by cases point <;> exact here⟩
  saveFails := fun {point _} ⟨each, here⟩ => ⟨each, by cases point <;> exact here⟩
  tunes := fun {point _} _ _ ⟨each, here⟩ => by
    refine ⟨each, ?_⟩
    cases point <;> first
      | exact here
      | exact fun joined =>
          let inSync := here joined
          ⟨inSync.pending, inSync.complete, inSync.room, inSync.ack⟩
  attempts := fun _ ⟨each, here⟩ => ⟨each, here⟩
  startsJoin := fun _ unjoined ⟨each, _⟩ => ⟨each, unjoined⟩
  abandonsStart := fun ⟨each, here⟩ => ⟨each, fun joined => nomatch here.symm.trans joined⟩
  draws := fun _ ⟨each, here⟩ => ⟨eachEvent_cons.mpr ⟨trivial, each⟩, here⟩
  requests := fun ⟨each, here⟩ => ⟨eachEvent_cons.mpr ⟨trivial, each⟩, here, rfl, rfl⟩
  abandonsRequest := fun ⟨each, here⟩ => ⟨each, fun joined => nomatch here.symm.trans joined⟩
  abandonsJoin := fun ⟨each, here⟩ => ⟨each, fun joined => nomatch here.1.symm.trans joined⟩
  accepts := by
    rintro world data ⟨each, here⟩
    refine ⟨?_, inSync_accepts here⟩
    show EachEvent _ (world.mac.processJoinAccept crypto device data).1.history
    unfold Mac.processJoinAccept
    cases world.mac.verifyJoinAccept crypto device data with
    | none => exact each
    | some accept => exact eachEvent_cons.mpr ⟨trivial, each⟩
  begins := by
    rintro world payload fport confirmed _ ⟨each, here⟩
    refine ⟨?_, inSync_begins here⟩
    have counted := (Mac.answered_countUplink world.mac).eachEvent (fun _ _ => trivial) each
    unfold beginUplink
    rcases Mac.prepareUplink_cases crypto device payload fport confirmed world.mac with
      ⟨_, prepared⟩ | ⟨_, _, prepared⟩ | ⟨_, _, _, prepared⟩ | ⟨_, _, _, prepared⟩ <;> rw [prepared]
    · exact each
    · exact eachEvent_cons.mpr ⟨trivial, each⟩
    · exact counted
    · exact counted
  hands := by
    rintro frame world ⟨each, _, pending, ackPending, grammatical⟩
    exact ⟨eachEvent_cons.mpr ⟨grammatical, each⟩, fun _ => .of_empty pending ackPending rfl rfl⟩
  abandonsUplink := by
    rintro frame world frequency spreading bandwidth
      ⟨each, uplink, pending, ackPending, parsed, reads, grammatical⟩ allowed
    obtain ⟨ack, fopts⟩ : parsed.ack = false ∧ parsed.fopts = [] := by
      simpa [keepsAnswers, uplink, reads] using allowed
    have answers := grammatical.answers
    rw [fopts] at answers
    exact ⟨each, fun _ => .of_empty pending ackPending (Option.some.inj answers).symm
      (grammatical.ack.symm.trans ack)⟩
  hears := fun ⟨each, here⟩ _ => ⟨each, here⟩
  hangsUp := fun ⟨each, here⟩ => ⟨each, here⟩
  processes := by
    rintro data world snr ⟨each, here⟩
    refine ⟨?_, inSync_processes here⟩
    show EachEvent _ (world.mac.processDownlink crypto snr data).1.history
    cases verified : world.mac.verifyDownlink crypto data with
    | none =>
        rw [Mac.processDownlink_of_rejected verified]
        exact each
    | some fcnt =>
        obtain ⟨answers, answered⟩ := Mac.processDownlink_of_verified snr verified
        exact answered.eachEvent (fun _ _ => trivial) (eachEvent_cons.mpr ⟨trivial, each⟩)
  returns := fun ⟨each, here⟩ => ⟨each, here⟩
  settles := fun ⟨each, here⟩ => ⟨each, here⟩
  executes := fun ⟨each, here⟩ => ⟨eachEvent_cons.mpr ⟨trivial, each⟩, fun joined =>
    let inSync := here joined
    ⟨inSync.pending, inSync.complete, inSync.room, inSync.ack⟩⟩
  restarts := fun ⟨each, _⟩ _ => by
    refine ⟨?_, fun _ => .of_empty ?_ ?_ ?_ ?_⟩ <;>
      simp only [World.restart, World.start, Mac.boot_history, Mac.boot_pendingFOpts,
        Mac.boot_ackPending, answersSince, confirmedSince]
    exact eachEvent_cons.mpr ⟨trivial, each⟩

/-- What a successful preparation gave: the frame of the request at hand, with one
counter consumed. -/
def Consumes (mac after : Mac) (payload : Bytes) (fport : UInt8) (confirmed : Bool)
    (frame : UplinkFrame) : Prop :=
  frame.session = mac.session ∧ frame.payload = payload ∧ frame.fport = fport ∧
    frame.confirmed = confirmed ∧
    after.session = { mac.session with fcntUp := mac.session.fcntUp + 1 }

theorem consumes_prepareUplink {frame : UplinkFrame} {after : Mac}
    (ready : mac.prepareUplink crypto device payload fport confirmed = (after, .ready frame)) :
    Consumes mac after payload fport confirmed frame := by
  rcases Mac.prepareUplink_cases crypto device payload fport confirmed mac with
    ⟨_, prepared⟩ | ⟨_, _, prepared⟩ | ⟨_, _, _, prepared⟩ | ⟨_, _, _, prepared⟩ <;>
    rw [prepared] at ready <;> cases ready
  refine ⟨Mac.countUplink_session, rfl, rfl, rfl, ?_⟩
  simp [Mac.consumeUplink]

/-- In every run in which the radio's configuration raises on no uplink that carries
an answer or an acknowledgement, every frame handed to the radio is grammatical,
and every frame is built for its request and consumes one counter. -/
theorem frames_grammatical {stored : StoredSession} {machine : Machine World Call.Answer}
    (run : (unit crypto device keepsAnswers).Reaches (unitStart device stored) machine) :
    EachEvent (GrammaticalEvent crypto) machine.memory.mac.history ∧
      ∀ payload fport confirmed after frame,
        machine.memory.mac.prepareUplink crypto device payload fport confirmed =
          (after, .ready frame) →
        Consumes machine.memory.mac after payload fport confirmed frame := by
  have begins : (outline crypto device).at_ .idle (.start device stored []) := by
    refine ⟨?_, fun _ => .of_empty ?_ ?_ ?_ ?_⟩ <;>
      simp only [World.start, Mac.boot_history, Mac.boot_pendingFOpts, Mac.boot_ackPending,
        answersSince, confirmedSince]
    exact eachEvent_nil _
  obtain ⟨⟨_, each, _⟩, _⟩ := (outline crypto device).reaches begins run
  exact ⟨each, fun _ _ _ _ _ => consumes_prepareUplink⟩

/-- A confirmed downlink that asks for the device status. -/
def confirmedRequest : Bytes :=
  [0xa0, 0x01, 0x02, 0x03, 0x04, 0x01, 0x00, 0x00, 0x06, 0x9e, 0xc0, 0xb3, 0x67]

/-- A unit joins, hears the request after one uplink and answers it in the next. -/
def answered : List (Move Call.Answer Job Effect) :=
  Sample.joins ++ .start (.sendUplink [] fportApp false) :: Sample.replies 9 (some confirmedRequest) ++
    Sample.silentUplink []

theorem frames_grammatical_answered :
    EachEvent (GrammaticalEvent Crypto.aes) ((unit Crypto.aes Sample.device keepsAnswers).play
      (unitStart Sample.device blank) answered).memory.mac.history :=
  (frames_grammatical (System.reaches_play
    (show System.legalRun _ _ answered = true by decide +kernel))).1

/-- The radio's bus fails when the uplink with the answer configures it. -/
def busFails : List (Move Call.Answer Job Effect) :=
  .start (.sendUplink [] fportApp false) :: Sample.replies 2 none ++ [.reply fun
    | .setTxConfig _ _ _ => none
    | call => Sample.environment none call]

/-- The unit hears the request, loses the answer on the bus and sends another uplink. -/
def lostAnswer : List (Move Call.Answer Job Effect) :=
  Sample.joins ++ .start (.sendUplink [] fportApp false) :: Sample.replies 9 (some confirmedRequest) ++
    busFails ++ Sample.silentUplink []

/-- That other uplink: no acknowledgement and no frame options. -/
def bareFrame : UplinkFrame where
  session := {
    devAddr := .ofBytes 4 [0x01, 0x02, 0x03, 0x04]
    nwkSKey := .ofBytes 16 [0x3b, 0xc7, 0x23, 0x80, 0x40, 0x4a, 0x0a, 0x17, 0x34, 0xb3, 0x2a, 0xe2,
      0x59, 0x5c, 0x0f, 0x54]
    appSKey := .ofBytes 16 [0xda, 0x32, 0xbf, 0xcf, 0x2a, 0x91, 0x06, 0xab, 0x2a, 0xc3, 0x39, 0xdd,
      0x61, 0x74, 0xb4, 0x7d]
    fcntUp := 2
    fcntDown := 1
    joined := true }
  payload := []
  fport := fportApp
  confirmed := false
  ack := false
  fopts := []
  bytes := [0x40, 0x01, 0x02, 0x03, 0x04, 0x00, 0x02, 0x00, 0x01, 0x0a, 0xc0, 0x60, 0x4b]

/-- The next frame lacks the acknowledgement of a confirmed downlink and the answer to
its command, both due since the last frame. -/
theorem raised_uplink_loses_answers :
    ∃ machine older, (unit Crypto.aes Sample.device {}).Reaches (unitStart Sample.device blank)
        machine ∧
      machine.memory.mac.history = .transmitted (.data bareFrame) :: older ∧
      confirmedSince older = true ∧ answersSince older = [[cidDevStatus, 0, 0]] ∧
      ¬EachEvent (GrammaticalEvent Crypto.aes) machine.memory.mac.history := by
  let machine := (unit Crypto.aes Sample.device {}).play (unitStart Sample.device blank) lostAnswer
  have newest : machine.memory.mac.history =
      .transmitted (.data bareFrame) :: machine.memory.mac.history.tail := by decide +kernel
  have confirmed : confirmedSince machine.memory.mac.history.tail = true := by decide +kernel
  refine ⟨machine, _, System.reaches_play
    (show System.legalRun _ _ lostAnswer = true by decide +kernel), newest, confirmed,
    by decide +kernel, fun each => ?_⟩
  rw [newest] at each
  obtain ⟨parsed, reads, grammatical⟩ := (eachEvent_cons.mp each).1
  have bare : (parse bareFrame.bytes).map Parsed.ack = some false := by decide +kernel
  rw [reads, Option.map_some, grammatical.ack, confirmed] at bare
  exact absurd bare (by decide)

end UplinkGrammar

end Wqm1.Radio
