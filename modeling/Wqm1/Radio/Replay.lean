import Wqm1.Radio.Outline

/-! Relay downlinks within one session. The counter of an accepted downlink is
durable before its command is executed, so a replay fails in every later life of
the process, as long as the expected counter stays clear of 2^32. -/

set_option autoImplicit false

namespace Wqm1.Radio

open Wqm1.Library Radio.Sample

/-- A downlink verifies only with the 32-bit counter it was built for. -/
def Crypto.MicIdeal (crypto : Crypto) : Prop :=
  ∀ key devAddr left right frame,
    crypto.computeFrameMic key devAddr left frame .downlink =
      crypto.computeFrameMic key devAddr right frame .downlink → left % 2 ^ 32 = right % 2 ^ 32

namespace Replay

/-- The counters accepted since the last restart. -/
def acceptedSinceRestart : List MacEvent → List Nat
  | [] => []
  | .restarted :: _ => []
  | .downlinkAccepted _ fcnt _ _ :: older => fcnt :: acceptedSinceRestart older
  | _ :: older => acceptedSinceRestart older

/-- The downlink that was accepted last. -/
def lastDownlink : List MacEvent → Option Bytes
  | [] => none
  | .downlinkAccepted _ _ _ frame :: _ => some frame
  | _ :: older => lastDownlink older

/-- The downlinks whose command was executed, once for each execution. -/
def executed : List MacEvent → List Bytes
  | [] => []
  | .commandProcessed _ _ :: older => (lastDownlink older).toList ++ executed older
  | _ :: older => executed older

/-- An accepted counter exceeds those accepted since the last restart, and a
command comes from a downlink that was not executed before. -/
def OrderedEvent : MacEvent → List MacEvent → Prop
  | .downlinkAccepted _ fcnt _ _, older => ∀ earlier ∈ acceptedSinceRestart older, earlier < fcnt
  | .commandProcessed _ _, older => ∃ frame, lastDownlink older = some frame ∧ frame ∉ executed older
  | _, _ => True

def AtMostOnce : List MacEvent → Prop := EachEvent OrderedEvent

/-- The statement about single executions says that no downlink occurs twice. -/
theorem executed_nodup {history : List MacEvent} (once : AtMostOnce history) :
    (executed history).Nodup := by
  induction history with
  | nil => exact .nil
  | cons event older ih =>
      obtain ⟨newest, before⟩ := eachEvent_cons.mp once
      have unique := ih before
      cases event with
      | commandProcessed fport payload =>
          obtain ⟨frame, last, fresh⟩ := newest
          simpa only [executed, last, Option.toList_some, List.singleton_append] using
            List.nodup_cons.mpr ⟨fresh, unique⟩
      | _ => exact unique

theorem acceptedSinceRestart_increasing {history : List MacEvent} (once : AtMostOnce history) :
    (acceptedSinceRestart history).Pairwise (· > ·) := by
  induction history with
  | nil => exact .nil
  | cons event older ih =>
      obtain ⟨newest, before⟩ := eachEvent_cons.mp once
      have increasing := ih before
      cases event with
      | downlinkAccepted session fcnt confirmed frame => exact .cons newest increasing
      | restarted => exact .nil
      | _ => exact increasing

/-- From the expected counter to the next one with these 16 bits, 2^32 is not passed. -/
def BeforeWrap (expected fcnt16 : Nat) : Prop :=
  expected + 65536 ≤ 2 ^ 32 ∨ expected < 2 ^ 32 ∧ expected % 65536 ≤ fcnt16

instance (expected fcnt16 : Nat) : Decidable (BeforeWrap expected fcnt16) :=
  inferInstanceAs (Decidable (_ ∨ _))

/-- A received frame finds an expected counter that leaves room for its own below 2^32. -/
def boundedCounters : Limits where
  joins := false
  permits _ _ := false
  answers
    | .receive, world, some (some data) => BeforeWrap world.mac.session.fcntDown (unpackLE (slice data 6 8))
    | _, _, _ => true

/-- Below the wrap the rebuilt counter is not behind the expected one. -/
theorem reconstructFcntDown_beforeWrap {mac : Mac} {fcnt16 : Nat} (half : fcnt16 < 65536)
    (room : BeforeWrap mac.session.fcntDown fcnt16) :
    mac.session.fcntDown ≤ mac.reconstructFcntDown fcnt16 ∧ mac.reconstructFcntDown fcnt16 < 2 ^ 32 := by
  rw [Mac.reconstructFcntDown_eq half]
  unfold BeforeWrap at room
  dsimp only
  split
  next behind =>
    refine ⟨by omega, ?_⟩
    obtain early | late := room
    · exact (Nat.add_lt_add_right behind 65536).trans_le early
    · have upper : mac.session.fcntDown / 65536 % 65536 = mac.session.fcntDown / 65536 :=
        Nat.mod_eq_of_lt (Nat.div_lt_of_lt_mul late.1)
      have reached : mac.session.fcntDown ≤ mac.session.fcntDown / 65536 * 65536 + fcnt16 :=
        (Nat.div_add_mod' mac.session.fcntDown 65536).ge.trans (Nat.add_le_add_left late.2 _)
      rw [upper] at behind
      exact absurd reached (not_le.mpr behind)
  next ahead => constructor <;> omega

theorem fcnt16_lt (data : Bytes) : unpackLE (slice data 6 8) < 65536 := by
  have short : (slice data 6 8).length ≤ 2 := by
    rw [length_slice]
    omega
  calc unpackLE (slice data 6 8) < 256 ^ (slice data 6 8).length := unpackLE_lt _
    _ ≤ 256 ^ 2 := Nat.pow_le_pow_right (by decide) short
    _ = 65536 := by norm_num

section

variable (crypto : Crypto) (key : Key) (devAddr : DevAddr)

/-- The frame verified with this counter. -/
def VerifiedWith (frame : Bytes) (fcnt : Nat) : Prop :=
  crypto.computeFrameMic key devAddr fcnt (frame.take (frame.length - 4)) .downlink =
    frame.drop (frame.length - 4)

/-- A session, live or stored, that expects more than every executed downlink carries. -/
structure Covers (session : LoRaWANSession) (history : List MacEvent) : Prop where
  sameKey : session.nwkSKey = key
  sameAddr : session.devAddr = devAddr
  spent : ∀ frame ∈ executed history,
    ∃ fcnt < session.fcntDown, fcnt < 2 ^ 32 ∧ VerifiedWith crypto key devAddr frame fcnt

structure Guarded (world : World) : Prop where
  once : AtMostOnce world.mac.history
  live : world.mac.session.joined = true → Covers crypto key devAddr world.mac.session world.mac.history
  stored : world.stored.session.joined = true →
    Covers crypto key devAddr world.stored.session world.mac.history
  accepted : world.mac.session.joined = true →
    ∀ fcnt ∈ acceptedSinceRestart world.mac.history, fcnt < world.mac.session.fcntDown

/-- A downlink whose command the worker still holds: new, verified, and below the
expected counter, which is durable once the worker has persisted. -/
structure Held (point : Point) (world : World) (frame : Bytes) (fcnt : Nat) : Prop where
  last : lastDownlink world.mac.history = some frame
  fresh : frame ∉ executed world.mac.history
  verified : VerifiedWith crypto key devAddr frame fcnt
  bounded : fcnt < 2 ^ 32
  live : fcnt < world.mac.session.fcntDown
  durable : point.isSaved = true → fcnt < world.stored.session.fcntDown

/-- What the points add. -/
structure AtPoint (point : Point) (world : World) : Prop where
  joining : point.isJoining = false
  isOpen : point.inUplink = true → world.mac.session.joined = true
  heard : ∀ data, point.heard = some data → ∀ fcnt, world.mac.verifyDownlink crypto data = some fcnt →
    world.mac.session.fcntDown ≤ fcnt ∧ fcnt < 2 ^ 32
  downlink : point.downlink.isSome = true →
    ∃ frame fcnt, Held crypto key devAddr point world frame fcnt

end

variable {crypto : Crypto} {device : Device} {key : Key} {devAddr : DevAddr} {world : World}

private theorem answers_silent (answers : List Bytes) (history : List MacEvent) :
    executed (answers.map .answerQueued ++ history) = executed history ∧
      lastDownlink (answers.map .answerQueued ++ history) = lastDownlink history ∧
      acceptedSinceRestart (answers.map .answerQueued ++ history) = acceptedSinceRestart history := by
  induction answers with
  | nil => exact ⟨rfl, rfl, rfl⟩
  | cons answer rest ih => exact ih

private theorem executed_answered {before after : Mac} {answers : List Bytes}
    (answered : Mac.Answered before after answers) :
    executed after.history = executed before.history := by
  rw [answered.history]
  exact (answers_silent _ _).1

private theorem lastDownlink_answered {before after : Mac} {answers : List Bytes}
    (answered : Mac.Answered before after answers) :
    lastDownlink after.history = lastDownlink before.history := by
  rw [answered.history]
  exact (answers_silent _ _).2.1

private theorem acceptedSinceRestart_answered {before after : Mac} {answers : List Bytes}
    (answered : Mac.Answered before after answers) :
    acceptedSinceRestart after.history = acceptedSinceRestart before.history := by
  rw [answered.history]
  exact (answers_silent _ _).2.2

private theorem Covers.congr {session other : LoRaWANSession} {history later : List MacEvent}
    (covers : Covers crypto key devAddr session history) (sameKey : other.nwkSKey = session.nwkSKey)
    (sameAddr : other.devAddr = session.devAddr) (further : session.fcntDown ≤ other.fcntDown)
    (silent : executed later = executed history) : Covers crypto key devAddr other later where
  sameKey := sameKey.trans covers.sameKey
  sameAddr := sameAddr.trans covers.sameAddr
  spent frame member :=
    let ⟨fcnt, below, bounded, verified⟩ := covers.spent frame (silent ▸ member)
    ⟨fcnt, below.trans_le further, bounded, verified⟩

private theorem Guarded.answered (guarded : Guarded crypto key devAddr world) {mac : Mac}
    {answers : List Bytes} (answered : Mac.Answered world.mac mac answers) :
    Guarded crypto key devAddr (world.withMac mac) where
  once := answered.eachEvent (fun _ _ => trivial) guarded.once
  live joined := (guarded.live (answered.session ▸ joined)).congr
    (congrArg LoRaWANSession.nwkSKey answered.session) (congrArg LoRaWANSession.devAddr answered.session)
    (congrArg LoRaWANSession.fcntDown answered.session).ge (executed_answered answered)
  stored joined := (guarded.stored joined).congr rfl rfl le_rfl (executed_answered answered)
  accepted joined := by
    simp only [World.withMac, answered.session, acceptedSinceRestart_answered answered] at joined ⊢
    exact guarded.accepted joined

private theorem atIdle : AtPoint crypto key devAddr .idle world :=
  ⟨rfl, nofun, (fun _ heard => nomatch heard), nofun⟩

private theorem guarded_begins (guarded : Guarded crypto key devAddr world) (payload : Bytes)
    (fport : UInt8) (confirmed : Bool) :
    Guarded crypto key devAddr (beginUplink crypto device payload fport confirmed world).1 ∧
      AtPoint crypto key devAddr
        (.ofOutcome (beginUplink crypto device payload fport confirmed world).2)
        (beginUplink crypto device payload fport confirmed world).1 := by
  have tallied : Guarded crypto key devAddr (world.withMac world.mac.tallyUplink) :=
    ⟨guarded.once, guarded.live, guarded.stored, guarded.accepted⟩
  have counted := tallied.answered (Mac.answered_countUplink world.mac)
  unfold beginUplink
  rcases Mac.prepareUplink_cases crypto device payload fport confirmed world.mac with
    ⟨_, prepared⟩ | ⟨_, _, prepared⟩ | ⟨_, _, _, prepared⟩ | ⟨joined, _, _, prepared⟩ <;> rw [prepared]
  · exact ⟨guarded, atIdle⟩
  · have stored (joined : world.stored.session.joined = true) : Covers crypto key devAddr
        world.stored.session (.presumedDead :: world.mac.history) :=
      (guarded.stored joined).congr rfl rfl le_rfl rfl
    exact ⟨⟨eachEvent_cons.mpr ⟨trivial, guarded.once⟩, nofun, stored, nofun⟩, atIdle⟩
  · exact ⟨counted, atIdle⟩
  · have live (joined : world.mac.countUplink.session.joined = true) : Covers crypto key devAddr
        world.mac.countUplink.consumeUplink.session world.mac.countUplink.history :=
      (counted.live joined).congr rfl rfl le_rfl rfl
    have still := (congrArg LoRaWANSession.joined Mac.countUplink_session).trans joined
    exact ⟨⟨counted.once, live, counted.stored, counted.accepted⟩,
      ⟨rfl, fun _ => still, (fun _ heard => nomatch heard), nofun⟩⟩

/-- A downlink that was executed before does not verify again. -/
private theorem fresh_of_verified (ideal : crypto.MicIdeal) {fcnt : Nat} {data : Bytes}
    (covers : Covers crypto key devAddr world.mac.session world.mac.history)
    (verified : VerifiedWith crypto key devAddr data fcnt)
    (expected : world.mac.session.fcntDown ≤ fcnt) (bounded : fcnt < 2 ^ 32) :
    data ∉ executed world.mac.history := by
  intro member
  obtain ⟨earlier, below, earlierBounded, earlierVerified⟩ := covers.spent data member
  have same := ideal key devAddr earlier fcnt _ (earlierVerified.trans verified.symm)
  rw [Nat.mod_eq_of_lt earlierBounded, Nat.mod_eq_of_lt bounded] at same
  omega

private theorem guarded_processes (ideal : crypto.MicIdeal) {data : Bytes} (snr : Option Rat)
    (guarded : Guarded crypto key devAddr world)
    (here : AtPoint crypto key devAddr (.received data) world) :
    Guarded crypto key devAddr (world.withMac (world.mac.processDownlink crypto snr data).1) ∧
      AtPoint crypto key devAddr (.returned (world.mac.processDownlink crypto snr data).2)
        (world.withMac (world.mac.processDownlink crypto snr data).1) := by
  cases verified : world.mac.verifyDownlink crypto data with
  | none =>
      rw [Mac.processDownlink_of_rejected verified]
      exact ⟨guarded, rfl, nofun, (fun _ heard => nomatch heard), nofun⟩
  | some fcnt =>
      have joined := here.isOpen rfl
      obtain ⟨expected, bounded⟩ := here.heard data rfl fcnt verified
      have covers := guarded.live joined
      obtain ⟨_, _, _, mic, _⟩ := Mac.verifyDownlink_eq_some.mp verified
      rw [covers.sameKey, covers.sameAddr] at mic
      have fresh := fresh_of_verified ideal covers mic expected bounded
      have below : ∀ earlier ∈ acceptedSinceRestart world.mac.history, earlier < fcnt :=
        fun earlier member => (guarded.accepted joined earlier member).trans_le expected
      have advanced : Guarded crypto key devAddr (world.withMac (world.mac.advanceFcntDown fcnt data)) := by
        refine ⟨eachEvent_cons.mpr ⟨below, guarded.once⟩, fun _ => ?_, fun joined => ?_, fun _ => ?_⟩
        · exact covers.congr rfl rfl (expected.trans (Nat.le_succ fcnt)) rfl
        · exact (guarded.stored joined).congr rfl rfl le_rfl rfl
        · intro earlier member
          rcases List.mem_cons.mp member with rfl | member
          · exact Nat.lt_succ_self earlier
          · exact (below earlier member).trans (Nat.lt_succ_self fcnt)
      obtain ⟨answers, answered⟩ := Mac.processDownlink_of_verified snr verified
      refine ⟨advanced.answered answered, rfl, nofun, (fun _ heard => nomatch heard), fun _ => ?_⟩
      refine ⟨data, fcnt, ?_, ?_, mic, bounded, ?_, nofun⟩
      · exact (lastDownlink_answered answered).trans rfl
      · exact (executed_answered answered).symm ▸ fresh
      · exact (congrArg LoRaWANSession.fcntDown answered.session).symm ▸ Nat.lt_succ_self fcnt

/-- An execution spends its downlink in a session that expects more. -/
private theorem Covers.execute {session : LoRaWANSession} {history : List MacEvent} {frame : Bytes}
    {fcnt : Nat} (covers : Covers crypto key devAddr session history) (fport : UInt8) (command : Bytes)
    (last : lastDownlink history = some frame) (verified : VerifiedWith crypto key devAddr frame fcnt)
    (bounded : fcnt < 2 ^ 32) (below : fcnt < session.fcntDown) :
    Covers crypto key devAddr session (.commandProcessed fport command :: history) where
  sameKey := covers.sameKey
  sameAddr := covers.sameAddr
  spent other member := by
    simp only [executed, last, Option.toList_some, List.singleton_append, List.mem_cons] at member
    rcases member with rfl | earlier
    · exact ⟨fcnt, below, bounded, verified⟩
    · exact covers.spent other earlier

private theorem guarded_restarts (guarded : Guarded crypto key devAddr world) :
    Guarded crypto key devAddr (world.restart device) := by
  have stored (joined : world.stored.session.joined = true) : Covers crypto key devAddr
      world.stored.session (.restarted :: world.mac.history) :=
    (guarded.stored joined).congr rfl rfl le_rfl rfl
  have once : AtMostOnce (.restarted :: world.mac.history) :=
    eachEvent_cons.mpr ⟨trivial, guarded.once⟩
  refine ⟨?_, ?_, ?_, ?_⟩ <;>
    simp only [World.restart, World.start, Mac.boot_history, Mac.boot_session]
  · exact once
  · split
    · exact stored
    · intro joined
      cases joined
  · exact stored
  · exact fun _ _ member => absurd member List.not_mem_nil

/-- What holds at every point of a run within one session. -/
def outline (ideal : crypto.MicIdeal) (device : Device) (key : Key) (devAddr : DevAddr) :
    Outline crypto device boundedCounters where
  at_ point world := Guarded crypto key devAddr world ∧ AtPoint crypto key devAddr point world
  forgets := fun _ permitted => nomatch permitted
  othersSave := fun _ permitted => nomatch permitted
  othersFail := fun _ permitted => nomatch permitted
  saves := by
    rintro point before after ⟨earlier, _⟩ ⟨guarded, here⟩ mac
    have history : after.mac.history = before.mac.history := by
      rcases mac with same | forgotten
      · rw [same]
      · rw [forgotten]; rfl
    refine ⟨⟨guarded.once, guarded.live, fun joined => ?_, guarded.accepted⟩, ?_⟩
    · exact history ▸ earlier.live joined
    · refine ⟨by simpa using here.joining, fun inUplink => here.isOpen (by simpa using inUplink),
        fun data heard => here.heard data (by simpa using heard), fun holding => ?_⟩
      obtain ⟨frame, fcnt, held⟩ := here.downlink (by simpa using holding)
      refine ⟨frame, fcnt, held.last, held.fresh, held.verified, held.bounded, held.live, fun _ => ?_⟩
      rcases mac with same | forgotten
      · exact (congrArg (fun mac => mac.session.fcntDown) same) ▸ held.live
      · have live := held.live
        rw [forgotten] at live
        exact absurd live (Nat.not_lt_zero fcnt)
  saveFails := by
    rintro point world ⟨guarded, here⟩
    refine ⟨⟨guarded.once, guarded.live, guarded.stored, guarded.accepted⟩,
      ⟨by simpa using here.joining, fun inUplink => here.isOpen (by simpa using inUplink),
        fun data heard => here.heard data (by simpa using heard), fun holding => ?_⟩⟩
    obtain ⟨frame, fcnt, held⟩ := here.downlink (Point.downlink_afterFailedSave holding)
    exact ⟨frame, fcnt, held.last, held.fresh, held.verified, held.bounded, held.live,
      fun saved => held.durable (by simpa using saved)⟩
  tunes := fun channel frequency ⟨guarded, here⟩ =>
    ⟨⟨guarded.once, guarded.live, guarded.stored, guarded.accepted⟩,
      here.joining, here.isOpen, here.heard, fun holding =>
        let ⟨frame, fcnt, held⟩ := here.downlink holding
        ⟨frame, fcnt, held.last, held.fresh, held.verified, held.bounded, held.live, held.durable⟩⟩
  attempts := fun count ⟨guarded, _⟩ =>
    ⟨⟨guarded.once, guarded.live, guarded.stored, guarded.accepted⟩, atIdle⟩
  startsJoin := fun joins => nomatch joins
  abandonsStart := fun ⟨_, here⟩ => nomatch here.joining
  draws := fun _ ⟨_, here⟩ => nomatch here.joining
  requests := fun ⟨_, here⟩ => nomatch here.joining
  abandonsRequest := fun ⟨_, here⟩ => nomatch here.joining
  abandonsJoin := fun ⟨_, here⟩ => nomatch here.joining
  accepts := fun _ ⟨_, here⟩ => nomatch here.joining
  begins := fun payload fport confirmed _ ⟨guarded, _⟩ => guarded_begins guarded payload fport confirmed
  hands := fun ⟨guarded, here⟩ =>
    ⟨⟨eachEvent_cons.mpr ⟨trivial, guarded.once⟩,
      fun joined => (guarded.live joined).congr rfl rfl le_rfl rfl,
      fun joined => (guarded.stored joined).congr rfl rfl le_rfl rfl, guarded.accepted⟩,
      rfl, here.isOpen, (fun _ heard => nomatch heard), nofun⟩
  abandonsUplink := fun ⟨guarded, _⟩ _ =>
    ⟨⟨guarded.once, guarded.live, guarded.stored, guarded.accepted⟩, atIdle⟩
  hears := by
    rintro data world ⟨guarded, here⟩ allowed
    refine ⟨guarded, rfl, here.isOpen, fun other heard fcnt verified => ?_, nofun⟩
    obtain rfl := Option.some.inj heard
    have room : BeforeWrap world.mac.session.fcntDown (unpackLE (slice data 6 8)) := by
      simpa only [boundedCounters, decide_eq_true_eq] using allowed
    obtain ⟨_, _, _, _, rfl⟩ := Mac.verifyDownlink_eq_some.mp verified
    exact reconstructFcntDown_beforeWrap (fcnt16_lt data) room
  hangsUp := fun ⟨guarded, _⟩ =>
    ⟨⟨guarded.once, guarded.live, guarded.stored, guarded.accepted⟩,
      rfl, nofun, (fun _ heard => nomatch heard), nofun⟩
  processes := fun snr ⟨guarded, here⟩ =>
    have ⟨processed, returned⟩ := guarded_processes ideal snr guarded here
    ⟨⟨processed.once, processed.live, processed.stored, processed.accepted⟩,
      rfl, nofun, (fun _ heard => nomatch heard), fun holding =>
        let ⟨frame, fcnt, held⟩ := returned.downlink holding
        ⟨frame, fcnt, held.last, held.fresh, held.verified, held.bounded, held.live, held.durable⟩⟩
  returns := fun ⟨guarded, _⟩ => ⟨guarded, atIdle⟩
  settles := fun ⟨guarded, _⟩ => ⟨guarded, atIdle⟩
  executes := by
    rintro fport command world ⟨guarded, here⟩
    obtain ⟨frame, fcnt, held⟩ := here.downlink rfl
    refine ⟨⟨eachEvent_cons.mpr ⟨⟨frame, held.last, held.fresh⟩, guarded.once⟩, fun joined => ?_,
      fun joined => ?_, guarded.accepted⟩, atIdle⟩
    · exact (guarded.live joined).execute fport command held.last held.verified held.bounded held.live
    · exact (guarded.stored joined).execute fport command held.last held.verified held.bounded
        (held.durable rfl)
  restarts := fun ⟨guarded, _⟩ _ => ⟨guarded_restarts guarded, atIdle⟩

/-- Within one session, in every run in which every received frame finds an expected counter
before the wrap at 2^32: the accepted counters increase between restarts, and no downlink
has its command executed twice. -/
theorem downlinks_at_most_once (ideal : crypto.MicIdeal) {stored : StoredSession}
    {machine : Machine World Call.Answer}
    (run : (unit crypto device boundedCounters).Reaches (unitStart device stored) machine) :
    AtMostOnce machine.memory.mac.history ∧ (executed machine.memory.mac.history).Nodup := by
  have nothing : AtMostOnce [] := eachEvent_nil _
  have covers : Covers crypto stored.session.nwkSKey stored.session.devAddr stored.session [] :=
    ⟨rfl, rfl, fun _ member => absurd member List.not_mem_nil⟩
  have begins : Guarded crypto stored.session.nwkSKey stored.session.devAddr
      (.start device stored []) := by
    refine ⟨?_, ?_, ?_, ?_⟩ <;> simp only [World.start, Mac.boot_history, Mac.boot_session]
    · exact nothing
    · split
      · exact fun _ => covers
      · intro joined
        cases joined
    · exact fun _ => covers
    · exact fun _ _ member => absurd member List.not_mem_nil
  obtain ⟨⟨point, guarded, _⟩, _⟩ := (outline ideal device _ _).reaches ⟨begins, atIdle⟩ run
  exact ⟨guarded.once, executed_nodup guarded.once⟩

theorem computeFrameMic_counterCrypto (key : Key) (devAddr : DevAddr) (fcnt : Nat) (frame : Bytes) :
    counterCrypto.computeFrameMic key devAddr fcnt frame .downlink = packLE 4 (fcnt % 2 ^ 32) := by
  have counter : slice (Crypto.micBlock devAddr fcnt frame.length .downlink ++ frame) 10 14 =
      packLE 4 (fcnt % 2 ^ 32) := by
    have parts : Crypto.micBlock devAddr fcnt frame.length .downlink ++ frame =
        ([0x49, 0, 0, 0, 0, 1] ++ devAddr.bytes) ++
          (packLE 4 (fcnt % 2 ^ 32) ++ ([0, UInt8.ofNat frame.length] ++ frame)) := by
      simp [Crypto.micBlock, Direction.toByte]
    have start : ([0x49, 0, 0, 0, 0, 1] ++ devAddr.bytes).length = 10 := by simp
    rw [parts, slice_append_right _ _ _ _ start.le, start]
    exact slice_zero_append _ _ _ (length_packLE ..).symm
  simp only [Crypto.computeFrameMic, Crypto.computeMic, counterCrypto, counter, FixedBytes.ofBytes]
  simp [List.take_append, List.take_of_length_le]

theorem counterCrypto_ideal : counterCrypto.MicIdeal := by
  intro key devAddr left right frame same
  rw [computeFrameMic_counterCrypto, computeFrameMic_counterCrypto, packLE_inj] at same
  omega

/-- The downlink with this counter that switches relay 1 on. -/
def relayDownlink (fcnt : Nat) : Bytes :=
  [0x60, 0, 0, 0, 0, 0] ++ packLE 2 fcnt ++ [100, 0x00, 0x01] ++ packLE 4 fcnt

/-- One worker step whose first window hears a command, executed or refused. -/
def hearing (frame : Bytes) (accepted : Bool) : List (Move Call.Answer Job Effect) :=
  .start .radioStep :: replies (if accepted then 15 else 14) (some frame)

/-- A command, its replay, a crash, and the replay again. -/
def replays : List (Move Call.Answer Job Effect) :=
  hearing (relayDownlink 0) true ++ hearing (relayDownlink 0) false ++
    .crash :: hearing (relayDownlink 0) false

theorem downlinks_at_most_once_replays :
    let history := ((unit counterCrypto Sample.device boundedCounters).play
      (unitStart Sample.device (expecting 0)) replays).memory.mac.history
    AtMostOnce history ∧ (executed history).Nodup :=
  downlinks_at_most_once counterCrypto_ideal (System.reaches_play (by decide +kernel))

/-- All runs of worker steps, crashes and received frames within one session. -/
def withinSession : Limits where
  joins := false
  permits _ _ := false

/-- After the last 32-bit counter the rebuilt counter falls behind the expected one. -/
def wrappedCounter : List (Move Call.Answer Job Effect) :=
  hearing (relayDownlink (2 ^ 32 - 1)) true ++ hearing (relayDownlink 65536) true

/-- A downlink with a lower counter than the one before it is accepted and executed. -/
theorem wrapped_counter_goes_back :
    counterCrypto.MicIdeal ∧ ∃ machine,
      (unit counterCrypto Sample.device withinSession).Reaches
        (unitStart Sample.device (expecting (2 ^ 32 - 1))) machine ∧
      acceptedSinceRestart machine.memory.mac.history = [65536, 2 ^ 32 - 1] ∧
      executed machine.memory.mac.history = [relayDownlink 65536, relayDownlink (2 ^ 32 - 1)] ∧
      ¬AtMostOnce machine.memory.mac.history := by
  have accepted : acceptedSinceRestart ((unit counterCrypto Sample.device withinSession).play
      (unitStart Sample.device (expecting (2 ^ 32 - 1))) wrappedCounter).memory.mac.history =
        [65536, 2 ^ 32 - 1] := by decide +kernel
  refine ⟨counterCrypto_ideal, _, System.reaches_play
    (show System.legalRun _ _ wrappedCounter = true by decide +kernel), accepted, by decide +kernel,
    fun once => ?_⟩
  have increasing := acceptedSinceRestart_increasing once
  rw [accepted] at increasing
  exact absurd increasing (by decide)

end Replay

end Wqm1.Radio
