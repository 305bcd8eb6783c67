import Wqm1.Radio.Outline

/-! What is never sent twice: DevNonces of JoinRequests, and frame counters under
one session key. Both are consumed and persisted before the radio has the frame. -/

set_option autoImplicit false

namespace Wqm1.Radio

open Wqm1.Library Radio.Sample

namespace Counters

def joinCalls : List MacEvent → Nat
  | [] => 0
  | .joinCalled _ :: older => joinCalls older + 1
  | _ :: older => joinCalls older

/-- `holds` of every event together with the number of join calls after it. -/
def EachSince (holds : MacEvent → Nat → Prop) (history : List MacEvent) : Prop :=
  ∀ newer event older, history = newer ++ event :: older → holds event (joinCalls newer)

/-- Two transmissions that must not be alike within 65536 calls of `join`. -/
def Apart : MacEvent → MacEvent → Nat → Prop
  | .transmitted (.data frame), .transmitted (.data other), calls =>
      frame.session.devAddr = other.session.devAddr ∧
        frame.session.nwkSKey = other.session.nwkSKey ∧
        frame.session.fcntUp = other.session.fcntUp → 65536 ≤ calls
  | .transmitted (.joinRequest devNonce _), .transmitted (.joinRequest other _), calls =>
      devNonce = other → 65536 ≤ calls
  | _, _, _ => True

def ApartEvent (event : MacEvent) (older : List MacEvent) : Prop := EachSince (Apart event) older

/-- No crash comes while the latest attempt to persist failed. -/
def durable : Limits where
  crashes world := !world.persistFailed

section

variable (crypto : Crypto) (device : Device)

/-- The network session key was derived with this DevNonce. -/
def HasKey (session : LoRaWANSession) (counter : Int) : Prop :=
  0 ≤ counter ∧ ∃ appNonce netId,
    session.nwkSKey = crypto.deriveKey device.appKey 0x01 appNonce netId counter.toNat

/-- The DevNonce that a transmission uses up. -/
def Uses : MacEvent → Nat → Prop
  | .transmitted (.joinRequest devNonce _), nonce => devNonce = nonce
  | .transmitted (.data frame), nonce => nonce < 65536 ∧ HasKey crypto device frame.session nonce
  | _, _ => False

/-- The nonce counter is ahead of every transmission, by at most one step for each join
call since then. -/
def Ahead (least : Nat) (counter : Int) : List MacEvent → Prop :=
  EachSince fun event calls => ∀ nonce, Uses crypto device event nonce →
    ∃ steps, least ≤ steps ∧ steps ≤ calls ∧ counter = ((nonce + steps) % 65536 : ℕ)

/-- The frame counter is ahead of every frame under the same key. -/
def Spent (session : LoRaWANSession) : List MacEvent → Prop :=
  EachSince fun event calls => ∀ frame, event = .transmitted (.data frame) →
    frame.session.nwkSKey = session.nwkSKey →
    frame.session.fcntUp < session.fcntUp ∨ 65536 ≤ calls

/-- No frame of the last 65536 join calls used a key of this DevNonce. -/
def KeyUnused (counter : Int) : List MacEvent → Prop :=
  EachSince fun event calls => ∀ frame, event = .transmitted (.data frame) →
    HasKey crypto device frame.session counter → 65536 ≤ calls

/-- A MAC layer, running or stored, that repeats nothing in this history. -/
structure Sound (mac : Mac) (history : List MacEvent) : Prop where
  started : -1 ≤ mac.devNonceCounter
  range : mac.devNonceCounter ≤ 0xFFFF
  ahead : Ahead crypto device 0 mac.devNonceCounter history
  keyed : mac.session.joined = true → HasKey crypto device mac.session mac.devNonceCounter
  spent : mac.session.joined = true → Spent mac.session history

/-- A MAC layer that has left this frame behind. -/
structure Passed (frame : UplinkFrame) (mac : Mac) : Prop where
  keyed : HasKey crypto device frame.session mac.devNonceCounter
  counter : mac.session.joined = true → frame.session.nwkSKey = mac.session.nwkSKey →
    frame.session.fcntUp < mac.session.fcntUp

/-- The MAC layer that a restart would find. -/
def found (world : World) : Mac := Mac.boot device world.stored []

structure Unrepeated (world : World) : Prop where
  apart : EachEvent ApartEvent world.mac.history
  live : Sound crypto device world.mac world.mac.history
  stored : world.persistFailed = false → Sound crypto device (found device world) world.mac.history

/-- What the points add. -/
def AtPoint : Point → World → Prop
  | .starting, world => world.mac.session.joined = false
  | .drawn devNonce, world => world.mac.session.joined = false ∧ world.mac.devNonce = devNonce ∧
      world.mac.devNonceCounter = devNonce ∧
      Ahead crypto device 1 world.mac.devNonceCounter world.mac.history
  | .requesting devNonce, world => world.mac.session.joined = false ∧
      world.mac.devNonce = devNonce ∧ world.mac.devNonceCounter = devNonce ∧
      Ahead crypto device 1 world.mac.devNonceCounter world.mac.history ∧
      (world.persistFailed = false → (found device world).devNonceCounter = devNonce)
  | .awaiting, world => world.mac.session.joined = false ∧
      world.mac.devNonceCounter = world.mac.devNonce ∧
      KeyUnused crypto device world.mac.devNonceCounter world.mac.history
  | .prepared frame, world => Spent frame.session world.mac.history ∧
      Passed crypto device frame world.mac
  | .flying frame, world => Spent frame.session world.mac.history ∧
      Passed crypto device frame world.mac ∧
      (world.persistFailed = false → Passed crypto device frame (found device world))
  | _, _ => True

end

variable {crypto : Crypto} {device : Device} {world : World} {mac : Mac} {history : List MacEvent}
  {holds : MacEvent → Nat → Prop}

theorem eachSince_nil : EachSince holds [] := fun newer event older split => by simp at split

theorem EachSince.cons {event : MacEvent}
    (grows : ∀ event calls more, calls ≤ more → holds event calls → holds event more)
    (newest : holds event 0) (each : EachSince holds history) : EachSince holds (event :: history) := by
  intro newer earlier older split
  cases newer with
  | nil =>
      obtain ⟨rfl, rfl⟩ := List.cons.inj split
      exact newest
  | cons first newer =>
      obtain ⟨_, rest⟩ := List.cons.inj split
      refine grows earlier (joinCalls newer) _ ?_ (each newer earlier older rest)
      cases first <;> simp [joinCalls]

theorem EachSince.joinCalled {weaker : MacEvent → Nat → Prop} {devNonce : Nat}
    (newest : weaker (.joinCalled devNonce) 0) (each : EachSince holds history)
    (later : ∀ event calls, holds event calls → weaker event (calls + 1)) :
    EachSince weaker (.joinCalled devNonce :: history) := by
  intro newer earlier older split
  cases newer with
  | nil =>
      obtain ⟨rfl, rfl⟩ := List.cons.inj split
      exact newest
  | cons first newer =>
      obtain ⟨rfl, rest⟩ := List.cons.inj split
      exact later _ _ (each newer earlier older rest)

theorem EachSince.mono {weaker : MacEvent → Nat → Prop} (each : EachSince holds history)
    (weaken : ∀ event calls, holds event calls → weaker event calls) : EachSince weaker history :=
  fun newer event older split => weaken _ _ (each newer event older split)

def Silent (event : MacEvent) : Prop := ∀ transmission, event ≠ .transmitted transmission

theorem Silent.uses {event : MacEvent} (silent : Silent event) (nonce : Nat) :
    ¬Uses crypto device event nonce := by
  cases event with
  | transmitted transmission => exact absurd rfl (silent transmission)
  | _ => exact id

theorem Ahead.cons {least : Nat} {counter : Int} {event : MacEvent}
    (ahead : Ahead crypto device least counter history)
    (newest : ∀ nonce, Uses crypto device event nonce → least = 0 ∧ counter = (nonce % 65536 : ℕ)) :
    Ahead crypto device least counter (event :: history) := by
  refine EachSince.cons (fun event calls more grown each nonce uses => ?_) (fun nonce uses => ?_) ahead
  · obtain ⟨steps, enough, few, reached⟩ := each nonce uses
    exact ⟨steps, enough, few.trans grown, reached⟩
  · obtain ⟨none_needed, reached⟩ := newest nonce uses
    exact ⟨0, none_needed.le, le_rfl, reached⟩

theorem Ahead.silent {least : Nat} {counter : Int} {event : MacEvent}
    (ahead : Ahead crypto device least counter history) (silent : Silent event) :
    Ahead crypto device least counter (event :: history) :=
  ahead.cons fun nonce uses => absurd uses (silent.uses nonce)

theorem Spent.cons {session : LoRaWANSession} {event : MacEvent} (spent : Spent session history)
    (newest : ∀ frame, event = .transmitted (.data frame) →
      frame.session.nwkSKey = session.nwkSKey → frame.session.fcntUp < session.fcntUp) :
    Spent session (event :: history) := by
  refine EachSince.cons (fun event calls more grown each frame sent same => ?_)
    (fun frame sent same => .inl (newest frame sent same)) spent
  exact (each frame sent same).imp_right grown.trans'

theorem Spent.silent {session : LoRaWANSession} {event : MacEvent} (spent : Spent session history)
    (silent : Silent event) : Spent session (event :: history) :=
  spent.cons fun _ sent => absurd sent (silent _)

theorem Sound.silent {event : MacEvent} (sound : Sound crypto device mac history)
    (silent : Silent event) : Sound crypto device mac (event :: history) where
  started := sound.started
  range := sound.range
  ahead := sound.ahead.silent silent
  keyed := sound.keyed
  spent joined := (sound.spent joined).silent silent

theorem Sound.congr {other : Mac} (sound : Sound crypto device mac history)
    (session : other.session = mac.session) (counter : other.devNonceCounter = mac.devNonceCounter) :
    Sound crypto device other history := by
  refine ⟨?_, ?_, ?_, ?_, ?_⟩
  · simpa only [counter] using sound.started
  · simpa only [counter] using sound.range
  · simpa only [counter] using sound.ahead
  · simpa only [session, counter] using sound.keyed
  · simpa only [session] using sound.spent

/-- A MAC layer without a session has only its nonce counter to keep. -/
theorem Sound.unjoined {other : Mac} (sound : Sound crypto device mac history)
    (unjoined : other.session.joined = false) (counter : other.devNonceCounter = mac.devNonceCounter) :
    Sound crypto device other history := by
  have never {claim : Prop} (joined : other.session.joined = true) : claim :=
    Bool.noConfusion (unjoined.symm.trans joined)
  refine ⟨?_, ?_, ?_, never, never⟩
  · simpa only [counter] using sound.started
  · simpa only [counter] using sound.range
  · simpa only [counter] using sound.ahead

theorem found_snapshot (events : List MacEvent) (started : -1 ≤ mac.devNonceCounter)
    (range : mac.devNonceCounter ≤ 0xFFFF) :
    (Mac.boot device mac.snapshot events).devNonceCounter = mac.devNonceCounter ∧
      (Mac.boot device mac.snapshot events).session =
        if mac.session.joined then mac.session else {} :=
  ⟨Mac.boot_devNonceCounter range started, Mac.boot_session⟩

theorem Sound.snapshot {events : List MacEvent} (sound : Sound crypto device mac history) :
    Sound crypto device (Mac.boot device mac.snapshot events) history := by
  obtain ⟨counter, session⟩ : (Mac.boot device mac.snapshot events).devNonceCounter =
      mac.devNonceCounter ∧ _ := found_snapshot events sound.started sound.range
  cases joined : mac.session.joined with
  | false => exact sound.unjoined (by rw [session, joined]; rfl) counter
  | true => exact sound.congr (by rw [session, joined]; rfl) counter

theorem Passed.snapshot {frame : UplinkFrame} {events : List MacEvent}
    (passed : Passed crypto device frame mac) (sound : Sound crypto device mac history) :
    Passed crypto device frame (Mac.boot device mac.snapshot events) := by
  obtain ⟨counter, session⟩ : (Mac.boot device mac.snapshot events).devNonceCounter =
      mac.devNonceCounter ∧ _ := found_snapshot events sound.started sound.range
  refine ⟨counter.symm ▸ passed.keyed, ?_⟩
  rw [session]
  split
  · exact passed.counter
  · exact nofun

private theorem silent_answers (answers : List Bytes) (sound : Sound crypto device mac history) :
    Sound crypto device mac (answers.map .answerQueued ++ history) := by
  induction answers with
  | nil => exact sound
  | cons answer rest ih => exact ih.silent nofun

theorem Unrepeated.record (unrepeated : Unrepeated crypto device world) {event : MacEvent}
    (silent : Silent event) : Unrepeated crypto device (world.record event) where
  apart := by
    refine eachEvent_cons.mpr ⟨?_, unrepeated.apart⟩
    cases event with
    | transmitted transmission => exact absurd rfl (silent transmission)
    | _ => exact fun _ _ _ _ => trivial
  live := (unrepeated.live.silent silent).congr rfl rfl
  stored kept := (unrepeated.stored kept).silent silent

theorem Unrepeated.withMac (unrepeated : Unrepeated crypto device world) {mac : Mac}
    (history : mac.history = world.mac.history) (live : Sound crypto device mac world.mac.history) :
    Unrepeated crypto device (world.withMac mac) where
  apart := by simpa only [World.withMac, history] using unrepeated.apart
  live := by simpa only [World.withMac, history] using live
  stored kept := by
    show Sound crypto device (found device world) mac.history
    rw [history]
    exact unrepeated.stored kept

theorem Unrepeated.answered (unrepeated : Unrepeated crypto device world) {mac : Mac}
    {answers : List Bytes} (answered : Mac.Answered world.mac mac answers) :
    Unrepeated crypto device (world.withMac mac) where
  apart := answered.eachEvent (fun _ _ _ _ _ _ => trivial) unrepeated.apart
  live := by
    refine Sound.congr ?_ answered.session answered.devNonceCounter
    simpa only [World.withMac, answered.history] using silent_answers _ unrepeated.live
  stored kept := by
    show Sound crypto device (found device world) mac.history
    rw [answered.history]
    exact silent_answers _ (unrepeated.stored kept)

theorem unrepeated_save (unrepeated : Unrepeated crypto device world) {before : Mac}
    (sound : Sound crypto device before world.mac.history) :
    Unrepeated crypto device (world.save before.snapshot) :=
  ⟨unrepeated.apart, unrepeated.live, fun _ => sound.snapshot⟩

theorem unrepeated_saveFailed (unrepeated : Unrepeated crypto device world) :
    Unrepeated crypto device world.saveFailed :=
  ⟨unrepeated.apart, unrepeated.live, nofun⟩

theorem draws_ahead (sound : Sound crypto device mac history) (random : Nat) :
    let drawn := mac.drawDevNonce random
    drawn.1.devNonceCounter = drawn.2 ∧ drawn.2 < 65536 ∧
      Ahead crypto device 1 drawn.1.devNonceCounter (.joinCalled drawn.2 :: history) := by
  have started := sound.started
  have range := sound.range
  have next : 0 ≤ mac.nextDevNonce random ∧ mac.nextDevNonce random < 65536 := by
    unfold Mac.nextDevNonce
    split <;> omega
  refine ⟨(Int.toNat_of_nonneg next.1).symm, ?_, ?_⟩
  · show (mac.nextDevNonce random).toNat < 65536
    omega
  · refine EachSince.joinCalled (fun nonce none_used => nomatch none_used) sound.ahead ?_
    intro event calls each nonce uses
    obtain ⟨steps, _, few, reached⟩ := each nonce uses
    refine ⟨steps + 1, Nat.le_add_left 1 steps, Nat.succ_le_succ few, ?_⟩
    show mac.nextDevNonce random = _
    have counted : ¬mac.devNonceCounter < 0 := by omega
    rw [Mac.nextDevNonce, if_neg counted, reached]
    omega

theorem keyUnused_of_ahead {counter : Int} (range : counter ≤ 0xFFFF)
    (ahead : Ahead crypto device 1 counter history) : KeyUnused crypto device counter history := by
  refine EachSince.mono ahead fun event calls each frame sent key => ?_
  obtain ⟨started, appNonce, netId, derived⟩ := key
  have uses : Uses crypto device event counter.toNat := by
    rw [sent]
    exact ⟨by omega, by omega, appNonce, netId, derived⟩
  obtain ⟨steps, enough, few, reached⟩ := each _ uses
  omega

theorem KeyUnused.silent {counter : Int} {event : MacEvent}
    (unused : KeyUnused crypto device counter history)
    (quiet : ∀ frame, event ≠ .transmitted (.data frame)) :
    KeyUnused crypto device counter (event :: history) :=
  EachSince.cons (fun _ _ _ grown each frame sent key => (each frame sent key).trans grown)
    (fun frame sent => absurd sent (quiet frame)) unused

theorem apart_joinRequest {devNonce : Nat} {bytes : Bytes}
    (ahead : Ahead crypto device 1 devNonce history) :
    ApartEvent (.transmitted (.joinRequest devNonce bytes)) history := by
  refine EachSince.mono ahead fun event calls each => ?_
  cases event with
  | transmitted transmission =>
      cases transmission with
      | joinRequest other otherBytes =>
          rintro rfl
          obtain ⟨steps, enough, few, reached⟩ := each devNonce rfl
          omega
      | data frame => exact trivial
  | _ => exact trivial

theorem apart_data {frame : UplinkFrame} (spent : Spent frame.session history) :
    ApartEvent (.transmitted (.data frame)) history := by
  refine EachSince.mono spent fun event calls each => ?_
  cases event with
  | transmitted transmission =>
      cases transmission with
      | joinRequest other otherBytes => exact trivial
      | data other =>
          rintro ⟨_, sameKey, sameCounter⟩
          refine (each other rfl sameKey.symm).resolve_left fun below => ?_
          exact absurd sameCounter below.ne'
  | _ => exact trivial

theorem Sound.sends {frame : UplinkFrame} (sound : Sound crypto device mac history)
    (passed : Passed crypto device frame mac) :
    Sound crypto device mac (.transmitted (.data frame) :: history) := by
  refine ⟨sound.started, sound.range, sound.ahead.cons ?_, sound.keyed, fun joined => ?_⟩
  · rintro nonce ⟨few, _, appNonce, netId, derived⟩
    obtain ⟨started, otherApp, otherNet, key⟩ := passed.keyed
    have same := Crypto.devNonce_of_deriveKey (derived.symm.trans key)
    have range := sound.range
    refine ⟨rfl, ?_⟩
    rw [Int.toNat_natCast] at same
    omega
  · refine (sound.spent joined).cons fun other sent same => ?_
    cases sent
    exact passed.counter joined same

theorem atPoint_saves {point : Point} {before after : World}
    (sound : Sound crypto device before.mac after.mac.history)
    (earlier : AtPoint crypto device point before) (here : AtPoint crypto device point after)
    (counter : before.mac.devNonceCounter = after.mac.devNonceCounter) :
    AtPoint crypto device point.afterSave (after.save before.mac.snapshot) := by
  have found : (found device (after.save before.mac.snapshot)).devNonceCounter =
      after.mac.devNonceCounter := (found_snapshot [] sound.started sound.range).1.trans counter
  cases point with
  | drawn devNonce =>
      obtain ⟨unjoined, nonce, drawn, ahead⟩ := here
      exact ⟨unjoined, nonce, drawn, ahead, fun _ => found.trans drawn⟩
  | requesting devNonce =>
      obtain ⟨unjoined, nonce, drawn, ahead, _⟩ := here
      exact ⟨unjoined, nonce, drawn, ahead, fun _ => found.trans drawn⟩
  | prepared frame => exact ⟨here.1, here.2, fun _ => earlier.2.snapshot sound⟩
  | flying frame => exact ⟨here.1, here.2.1, fun _ => earlier.2.1.snapshot sound⟩
  | _ => exact here

theorem atPoint_othersSave {point : Point} (sound : Sound crypto device world.mac world.mac.history)
    (here : AtPoint crypto device point world) :
    AtPoint crypto device point (world.save world.mac.snapshot) := by
  cases point with
  | requesting devNonce =>
      obtain ⟨unjoined, nonce, drawn, ahead, _⟩ := here
      exact ⟨unjoined, nonce, drawn, ahead, fun _ =>
        (found_snapshot [] sound.started sound.range).1.trans drawn⟩
  | flying frame => exact ⟨here.1, here.2.1, fun _ => here.2.1.snapshot sound⟩
  | _ => exact here

theorem atPoint_saveFails {point : Point} (here : AtPoint crypto device point world) :
    AtPoint crypto device point.afterFailedSave world.saveFailed ∧
      AtPoint crypto device point world.saveFailed := by
  cases point with
  | drawn devNonce =>
      obtain ⟨unjoined, nonce, drawn, ahead⟩ := here
      exact ⟨⟨unjoined, nonce, drawn, ahead, nofun⟩, unjoined, nonce, drawn, ahead⟩
  | requesting devNonce =>
      obtain ⟨unjoined, nonce, drawn, ahead, _⟩ := here
      exact ⟨⟨unjoined, nonce, drawn, ahead, nofun⟩, unjoined, nonce, drawn, ahead, nofun⟩
  | prepared frame => exact ⟨⟨here.1, here.2, nofun⟩, here⟩
  | flying frame => exact ⟨⟨here.1, here.2.1, nofun⟩, here.1, here.2.1, nofun⟩
  | _ => exact ⟨here, here⟩

theorem atPoint_forgets {point : Point} (here : AtPoint crypto device point world) :
    AtPoint crypto device point (world.withMac (world.mac.forgetSession device)) := by
  cases point with
  | starting => rfl
  | drawn => exact ⟨rfl, here.2⟩
  | requesting => exact ⟨rfl, here.2⟩
  | awaiting => exact ⟨rfl, here.2⟩
  | prepared => exact ⟨here.1, here.2.keyed, nofun⟩
  | flying => exact ⟨here.1, ⟨here.2.1.keyed, nofun⟩, here.2.2⟩
  | _ => exact here

theorem atPoint_tunes {point : Point} (channel frequency : Nat)
    (here : AtPoint crypto device point world) :
    AtPoint crypto device point
      (world.withMac { world.mac with lastChannel := channel, txFrequency := frequency }) := by
  cases point with
  | prepared => exact ⟨here.1, here.2.keyed, here.2.counter⟩
  | flying => exact ⟨here.1, ⟨here.2.1.keyed, here.2.1.counter⟩, here.2.2⟩
  | _ => exact here

theorem unrepeated_draws (unrepeated : Unrepeated crypto device world)
    (unjoined : world.mac.session.joined = false) (random : Nat) :
    Unrepeated crypto device (world.withMac (world.mac.drawDevNonce random).1) ∧
      AtPoint crypto device (.drawn (world.mac.drawDevNonce random).2)
        (world.withMac (world.mac.drawDevNonce random).1) := by
  obtain ⟨counter, range, ahead⟩ := draws_ahead unrepeated.live random
  have sound : Sound crypto device (world.mac.drawDevNonce random).1
      (.joinCalled (world.mac.drawDevNonce random).2 :: world.mac.history) := by
    have never {claim : Prop} (joined : world.mac.session.joined = true) : claim :=
      Bool.noConfusion (unjoined.symm.trans joined)
    refine ⟨by omega, by omega, ahead.mono fun event calls each nonce uses => ?_, never, never⟩
    obtain ⟨steps, _, few, reached⟩ := each nonce uses
    exact ⟨steps, Nat.zero_le _, few, reached⟩
  have recorded : Unrepeated crypto device
      (world.record (.joinCalled (world.mac.drawDevNonce random).2)) := unrepeated.record nofun
  exact ⟨recorded.withMac rfl sound, unjoined, rfl, counter, ahead⟩

theorem unrepeated_requests {devNonce : Nat} {bytes : Bytes}
    (unrepeated : Unrepeated crypto device world)
    (here : AtPoint crypto device (.requesting devNonce) world) :
    Unrepeated crypto device (world.record (.transmitted (.joinRequest devNonce bytes))) ∧
      AtPoint crypto device .awaiting (world.record (.transmitted (.joinRequest devNonce bytes))) := by
  obtain ⟨unjoined, nonce, counter, ahead, kept⟩ := here
  have sends {mac : Mac} (sound : Sound crypto device mac world.mac.history)
      (same : mac.devNonceCounter = devNonce) :
      Sound crypto device mac (.transmitted (.joinRequest devNonce bytes) :: world.mac.history) := by
    refine ⟨sound.started, sound.range, sound.ahead.cons ?_, sound.keyed, fun joined => ?_⟩
    · rintro _ rfl
      have range := sound.range
      exact ⟨rfl, by omega⟩
    · exact (sound.spent joined).cons nofun
  refine ⟨⟨eachEvent_cons.mpr ⟨apart_joinRequest (counter ▸ ahead), unrepeated.apart⟩,
    (sends unrepeated.live counter).congr rfl rfl, fun persisted =>
      sends (unrepeated.stored persisted) (kept persisted)⟩, unjoined, ?_, ?_⟩
  · exact counter.trans (congrArg _ nonce.symm)
  · exact (keyUnused_of_ahead unrepeated.live.range ahead).silent nofun

theorem unrepeated_accepts (unrepeated : Unrepeated crypto device world)
    (here : AtPoint crypto device .awaiting world) (data : Bytes) :
    Unrepeated crypto device (world.withMac (world.mac.processJoinAccept crypto device data).1) := by
  obtain ⟨_, counter, unused⟩ := here
  unfold Mac.processJoinAccept
  cases world.mac.verifyJoinAccept crypto device data with
  | none => exact unrepeated
  | some accept =>
      let session := Mac.joinedSession crypto device accept world.mac.devNonce
      have recorded : Unrepeated crypto device
          (world.record (.joinAccepted session.nwkSKey world.mac.devNonce)) := unrepeated.record nofun
      have key : HasKey crypto device session world.mac.devNonceCounter := by
        rw [counter]
        exact ⟨Int.natCast_nonneg _, accept.appNonce, accept.netId, rfl⟩
      have spent : Spent session world.mac.history := EachSince.mono unused
        fun event calls each frame sent same =>
          let ⟨started, appNonce, netId, derived⟩ := key
          .inr (each frame sent ⟨started, appNonce, netId, same.trans derived⟩)
      exact recorded.withMac rfl ⟨recorded.live.started, recorded.live.range, recorded.live.ahead,
        fun _ => key, fun _ => spent.silent nofun⟩

theorem unrepeated_begins (unrepeated : Unrepeated crypto device world) (payload : Bytes)
    (fport : UInt8) (confirmed : Bool) :
    Unrepeated crypto device (beginUplink crypto device payload fport confirmed world).1 ∧
      AtPoint crypto device
        (.ofOutcome (beginUplink crypto device payload fport confirmed world).2)
        (beginUplink crypto device payload fport confirmed world).1 := by
  have tallied : Unrepeated crypto device (world.withMac world.mac.tallyUplink) :=
    unrepeated.withMac rfl (unrepeated.live.congr rfl rfl)
  have counted := tallied.answered (Mac.answered_countUplink world.mac)
  have session : world.mac.countUplink.session = world.mac.session := Mac.countUplink_session
  unfold beginUplink
  rcases Mac.prepareUplink_cases crypto device payload fport confirmed world.mac with
    ⟨_, prepared⟩ | ⟨_, _, prepared⟩ | ⟨_, _, _, prepared⟩ | ⟨joined, _, _, prepared⟩ <;> rw [prepared]
  · exact ⟨unrepeated, trivial⟩
  · have recorded : Unrepeated crypto device (world.record .presumedDead) := unrepeated.record nofun
    exact ⟨recorded.withMac rfl (recorded.live.unjoined rfl rfl), trivial⟩
  · exact ⟨counted, trivial⟩
  · have live := counted.live
    have still : world.mac.countUplink.session.joined = true :=
      (congrArg LoRaWANSession.joined session).trans joined
    have spent : Spent world.mac.countUplink.session world.mac.countUplink.history :=
      live.spent still
    have sound : Sound crypto device world.mac.countUplink.consumeUplink
        world.mac.countUplink.history := by
      refine ⟨live.started, live.range, live.ahead, fun _ => live.keyed still, fun _ => ?_⟩
      exact spent.mono fun event calls each frame sent same =>
        (each frame sent same).imp_left (Nat.lt_succ_of_lt ·)
    have consumed : Unrepeated crypto device (world.withMac world.mac.countUplink.consumeUplink) :=
      counted.withMac rfl sound
    exact ⟨⟨consumed.apart, consumed.live, consumed.stored⟩, spent, live.keyed still,
      fun _ _ => Nat.lt_succ_self _⟩

theorem unrepeated_processes (unrepeated : Unrepeated crypto device world) (snr : Option Rat)
    (data : Bytes) :
    Unrepeated crypto device (world.withMac (world.mac.processDownlink crypto snr data).1) := by
  cases verified : world.mac.verifyDownlink crypto data with
  | none =>
      rw [Mac.processDownlink_of_rejected verified]
      exact unrepeated
  | some fcnt =>
      obtain ⟨answers, answered⟩ := Mac.processDownlink_of_verified snr verified
      have recorded : Unrepeated crypto device (world.record (.downlinkAccepted world.mac.session fcnt
          (data.headD 0 == mhdrConfirmedDown) data)) := unrepeated.record nofun
      have live := recorded.live
      have advanced : Unrepeated crypto device (world.withMac (world.mac.advanceFcntDown fcnt data)) :=
        recorded.withMac rfl ⟨live.started, live.range, live.ahead, live.keyed, live.spent⟩
      exact advanced.answered answered

theorem unrepeated_hands {frame : UplinkFrame} (unrepeated : Unrepeated crypto device world)
    (here : AtPoint crypto device (.flying frame) world) :
    Unrepeated crypto device (world.record (.transmitted (.data frame))) := by
  obtain ⟨spent, passed, kept⟩ := here
  exact ⟨eachEvent_cons.mpr ⟨apart_data spent, unrepeated.apart⟩,
    (unrepeated.live.sends passed).congr rfl rfl,
    fun persisted => (unrepeated.stored persisted).sends (kept persisted)⟩

/-- What holds at every point of a run in which no crash follows a failed persist. -/
def outline (crypto : Crypto) (device : Device) : Outline crypto device durable where
  at_ point world := Unrepeated crypto device world ∧ AtPoint crypto device point world
  forgets := fun ⟨unrepeated, here⟩ _ =>
    ⟨unrepeated.withMac rfl (unrepeated.live.unjoined rfl rfl), atPoint_forgets here⟩
  othersSave := fun ⟨unrepeated, here⟩ _ =>
    ⟨unrepeated_save unrepeated unrepeated.live, atPoint_othersSave unrepeated.live here⟩
  othersFail := fun ⟨unrepeated, here⟩ _ =>
    ⟨unrepeated_saveFailed unrepeated, (atPoint_saveFails here).2⟩
  saves := by
    rintro point before after ⟨unrepeatedBefore, earlier⟩ ⟨unrepeated, here⟩ mac
    obtain ⟨history, counter⟩ : after.mac.history = before.mac.history ∧
        before.mac.devNonceCounter = after.mac.devNonceCounter := by
      rcases mac with same | forgotten
      · rw [same]
        exact ⟨rfl, rfl⟩
      · rw [forgotten]
        exact ⟨rfl, rfl⟩
    have sound : Sound crypto device before.mac after.mac.history := history ▸ unrepeatedBefore.live
    exact ⟨unrepeated_save unrepeated sound, atPoint_saves sound earlier here counter⟩
  saveFails := fun ⟨unrepeated, here⟩ =>
    ⟨unrepeated_saveFailed unrepeated, (atPoint_saveFails here).1⟩
  tunes := fun channel frequency ⟨unrepeated, here⟩ =>
    ⟨unrepeated.withMac rfl (unrepeated.live.congr rfl rfl), atPoint_tunes channel frequency here⟩
  attempts := fun _ ⟨unrepeated, _⟩ =>
    ⟨⟨unrepeated.apart, unrepeated.live, unrepeated.stored⟩, trivial⟩
  startsJoin := fun _ unjoined ⟨unrepeated, _⟩ => ⟨unrepeated, unjoined⟩
  abandonsStart := fun ⟨unrepeated, _⟩ => ⟨unrepeated, trivial⟩
  draws := fun random ⟨unrepeated, unjoined⟩ => unrepeated_draws unrepeated unjoined random
  requests := fun ⟨unrepeated, here⟩ => unrepeated_requests unrepeated here
  abandonsRequest := fun ⟨unrepeated, _⟩ => ⟨unrepeated, trivial⟩
  abandonsJoin := fun ⟨unrepeated, _⟩ => ⟨unrepeated, trivial⟩
  accepts := fun data ⟨unrepeated, here⟩ => ⟨unrepeated_accepts unrepeated here data, trivial⟩
  begins := fun payload fport confirmed _ ⟨unrepeated, _⟩ =>
    unrepeated_begins unrepeated payload fport confirmed
  hands := fun ⟨unrepeated, here⟩ => ⟨unrepeated_hands unrepeated here, trivial⟩
  abandonsUplink := fun ⟨unrepeated, _⟩ _ =>
    ⟨⟨unrepeated.apart, unrepeated.live, unrepeated.stored⟩, trivial⟩
  hears := fun ⟨unrepeated, _⟩ _ => ⟨unrepeated, trivial⟩
  hangsUp := fun ⟨unrepeated, _⟩ =>
    ⟨⟨unrepeated.apart, unrepeated.live, unrepeated.stored⟩, trivial⟩
  processes := fun snr ⟨unrepeated, _⟩ =>
    have processed := unrepeated_processes unrepeated snr _
    ⟨⟨processed.apart, processed.live, processed.stored⟩, trivial⟩
  returns := fun ⟨unrepeated, _⟩ => ⟨unrepeated, trivial⟩
  settles := fun ⟨unrepeated, _⟩ => ⟨unrepeated, trivial⟩
  executes := fun ⟨unrepeated, _⟩ => ⟨unrepeated.record nofun, trivial⟩
  restarts := by
    rintro point world ⟨unrepeated, _⟩ possible
    have kept : world.persistFailed = false := by simpa [durable] using possible
    have stored : Sound crypto device (found device world) (.restarted :: world.mac.history) :=
      (unrepeated.stored kept).silent nofun
    have live : Sound crypto device (world.restart device).mac (.restarted :: world.mac.history) :=
      stored.congr (by simp [World.restart, World.start, found])
        (Mac.boot_devNonceCounter_congr _)
    have history : (world.restart device).mac.history = .restarted :: world.mac.history :=
      Mac.boot_history
    refine ⟨⟨?_, history ▸ live, fun _ => history ▸ stored⟩, trivial⟩
    rw [history]
    exact eachEvent_cons.mpr ⟨fun _ _ _ _ => trivial, unrepeated.apart⟩

def dataFrames (history : List MacEvent) : List UplinkFrame :=
  history.filterMap fun
    | .transmitted (.data frame) => some frame
    | _ => none

def devNonces (history : List MacEvent) : List Nat :=
  history.filterMap fun
    | .transmitted (.joinRequest devNonce _) => some devNonce
    | _ => none

/-- DevAddr, NwkSKey and FCntUp of a frame. -/
def counterKey (frame : UplinkFrame) : DevAddr × Key × Nat :=
  (frame.session.devAddr, frame.session.nwkSKey, frame.session.fcntUp)

private theorem joinCalls_le (newer : List MacEvent) (event : MacEvent) (older : List MacEvent) :
    joinCalls newer ≤ joinCalls (newer ++ event :: older) := by
  induction newer with
  | nil => exact Nat.zero_le _
  | cons first newer ih => cases first <;> simpa [joinCalls] using ih

/-- Nothing in a stretch with fewer than 65536 join calls is alike. -/
theorem stretch_distinct {stretch older : List MacEvent}
    (apart : EachEvent ApartEvent (stretch ++ older)) (few : joinCalls stretch < 65536) :
    ((dataFrames stretch).map counterKey).Nodup ∧ (devNonces stretch).Nodup := by
  induction stretch with
  | nil => exact ⟨.nil, .nil⟩
  | cons event stretch ih =>
      obtain ⟨newest, rest⟩ := eachEvent_cons.mp apart
      have fewer : joinCalls stretch < 65536 :=
        lt_of_le_of_lt (by cases event <;> simp [joinCalls]) few
      obtain ⟨frames, nonces⟩ := ih rest fewer
      have near {other : MacEvent} (member : other ∈ stretch) : ∃ calls < 65536, Apart event other calls := by
        obtain ⟨newer, earlier, rfl⟩ := List.append_of_mem member
        exact ⟨_, (joinCalls_le newer other earlier).trans_lt fewer,
          newest newer other (earlier ++ older) (by simp)⟩
      cases event with
      | transmitted transmission =>
          cases transmission with
          | joinRequest devNonce bytes =>
              refine ⟨frames, List.nodup_cons.mpr ⟨fun repeated => ?_, nonces⟩⟩
              obtain ⟨other, member, found⟩ := List.mem_filterMap.mp repeated
              split at found <;> cases found
              obtain ⟨calls, below, distance⟩ := near member
              exact absurd (distance rfl) (not_le.mpr below)
          | data frame =>
              refine ⟨List.nodup_cons.mpr ⟨fun repeated => ?_, frames⟩, nonces⟩
              obtain ⟨other, member, same⟩ := List.mem_map.mp repeated
              obtain ⟨sent, inStretch, found⟩ := List.mem_filterMap.mp member
              split at found <;> cases found
              obtain ⟨calls, below, distance⟩ := near inStretch
              simp only [counterKey, Prod.mk.injEq] at same
              exact absurd (distance ⟨same.1.symm, same.2.1.symm, same.2.2.symm⟩) (not_le.mpr below)
      | _ => exact ⟨frames, nonces⟩

/-- In every run of a unit that starts without a session and never crashes while its
latest attempt to persist failed, two frames alike have 65536 join calls between them:
within any stretch with fewer, no two data frames carry the same DevAddr, NwkSKey and
FCntUp, and no two JoinRequests the same DevNonce. -/
theorem counters_never_reused {stored : StoredSession} (fresh : stored.session.joined = false)
    {machine : Machine World Call.Answer}
    (run : (unit crypto device durable).Reaches (unitStart device stored) machine)
    {newer stretch older : List MacEvent}
    (within : machine.memory.mac.history = newer ++ (stretch ++ older))
    (few : joinCalls stretch < 65536) :
    ((dataFrames stretch).map counterKey).Nodup ∧ (devNonces stretch).Nodup := by
  have without (events : List MacEvent) :
      (Mac.boot device stored events).session.joined = false := by simp [fresh]
  have sound (events : List MacEvent) : Sound crypto device (Mac.boot device stored events) [] := by
    have never {claim : Prop} (joined : (Mac.boot device stored events).session.joined = true) : claim :=
      Bool.noConfusion ((without events).symm.trans joined)
    exact ⟨Mac.boot_devNonceCounter_range.1, Mac.boot_devNonceCounter_range.2, eachSince_nil, never,
      never⟩
  have begins : (outline crypto device).at_ .idle (.start device stored []) := by
    have history : (World.start device stored []).mac.history = [] := Mac.boot_history
    refine ⟨⟨?_, ?_, fun _ => ?_⟩, trivial⟩ <;> rw [history]
    · exact eachEvent_nil _
    · exact sound []
    · exact sound []
  obtain ⟨⟨_, unrepeated, _⟩, _⟩ := (outline crypto device).reaches begins run
  have apart := unrepeated.apart
  rw [within] at apart
  have inside : EachEvent ApartEvent (stretch ++ older) := fun later event earlier split =>
    apart (newer ++ later) event earlier (by rw [split, List.append_assoc])
  exact stretch_distinct inside few

def notStored (heard : Option Bytes) : Move Call.Answer Job Effect :=
  .reply fun
    | .saveSession _ => none
    | other => environment heard other

/-- A unit joins, sends an uplink, restarts and sends another. -/
def restartedUplink : List (Move Call.Answer Job Effect) :=
  joins ++ silentUplink [] ++ .crash :: silentUplink []

def restartedHistory : List MacEvent :=
  ((unit Crypto.aes Sample.device durable).play (unitStart Sample.device blank)
    restartedUplink).memory.mac.history

theorem counters_never_reused_restarted :
    ((dataFrames restartedHistory).map counterKey).Nodup ∧ (devNonces restartedHistory).Nodup :=
  counters_never_reused rfl
    (System.reaches_play (show System.legalRun _ _ restartedUplink = true by decide +kernel))
    (show restartedHistory = [] ++ (restartedHistory ++ []) by simp) (by decide +kernel)

/-- The counter of an uplink is not persisted, and the unit restarts and sends another. -/
def unstoredUplink : List (Move Call.Answer Job Effect) :=
  .start .joiningRadioStep :: replies 10 (some joinAccept) ++
    .start (.sendUplink [] fportApp false) :: List.replicate 11 (notStored none) ++
    .crash :: silentUplink []

/-- A unit joined once, forgets, and requests twice with a crash in between; the first of
these nonces is not persisted. -/
def unstoredJoin : List (Move Call.Answer Job Effect) :=
  joins ++ .disturb .forgetSession :: .start .join :: List.replicate 4 (notStored none) ++
    .crash :: .disturb .forgetSession :: .start .join :: replies 4 none

/-- With a crash after a failed persist, a frame counter and a DevNonce are used twice. -/
theorem unstored_counter_reused :
    (∃ machine, (unit Crypto.aes Sample.device {}).Reaches (unitStart Sample.device blank) machine ∧
      (dataFrames machine.memory.mac.history).length = 2 ∧
      ¬((dataFrames machine.memory.mac.history).map counterKey).Nodup) ∧
    ∃ machine, (unit Crypto.aes Sample.device {}).Reaches (unitStart Sample.device blank) machine ∧
      devNonces machine.memory.mac.history = [1, 1, 0] :=
  ⟨⟨_, System.reaches_play (show System.legalRun _ _ unstoredUplink = true by decide +kernel),
      by decide +kernel, by decide +kernel⟩,
    ⟨_, System.reaches_play (show System.legalRun _ _ unstoredJoin = true by decide +kernel),
      by decide +kernel⟩⟩

end Counters

end Wqm1.Radio
