import Wqm1.Radio.Unit

/-! A proof rule for statements about every run of a unit. What holds is written
down for each point of the radio worker's programs; the rule asks what each
single step makes of it and gives it for every run. -/

set_option autoImplicit false

namespace Wqm1.Radio

open Wqm1.Library Prog

/-- The points of the radio worker's programs at which it can wait. -/
inductive Point where
  | idle
  /-- `join` begins, without a session. -/
  | starting
  /-- `join` drew its nonce. -/
  | drawn (devNonce : Nat)
  /-- `join` persisted or failed to. -/
  | requesting (devNonce : Nat)
  /-- The JoinRequest was handed to the radio. -/
  | awaiting
  /-- `send_uplink` built its frame. -/
  | prepared (frame : UplinkFrame)
  /-- `send_uplink` persisted or failed to. -/
  | flying (frame : UplinkFrame)
  /-- The frame was handed to the radio. -/
  | listening
  /-- A receive window gave a frame. -/
  | received (data : Bytes)
  /-- `send_uplink` returned. -/
  | returned (downlink : Option Bytes)
  /-- The worker persisted after that. -/
  | saved (downlink : Option Bytes)

namespace Point

def afterSave : Point → Point
  | drawn devNonce => requesting devNonce
  | prepared frame => flying frame
  | returned downlink => saved downlink
  | other => other

def afterFailedSave : Point → Point
  | drawn devNonce => requesting devNonce
  | prepared frame => flying frame
  | returned _ => idle
  | other => other

/-- Where the outcome of `send_uplink`'s preparation leads. -/
def ofOutcome : UplinkOutcome → Point
  | .ready frame => prepared frame
  | _ => idle

/-- The points between the joined check of an uplink and the end of its downlink. -/
def inUplink : Point → Bool
  | prepared _ => true
  | flying _ => true
  | listening => true
  | received _ => true
  | _ => false

/-- The downlink that `send_uplink` returned and the worker still holds. -/
def downlink : Point → Option Bytes
  | returned downlink => downlink
  | saved downlink => downlink
  | _ => none

def heard : Point → Option Bytes
  | received data => some data
  | _ => none

def isJoining : Point → Bool
  | starting => true
  | drawn _ => true
  | requesting _ => true
  | awaiting => true
  | _ => false

def isSaved : Point → Bool
  | saved _ => true
  | _ => false

@[simp] theorem heard_afterSave (point : Point) : point.afterSave.heard = point.heard := by
  cases point <;> rfl

@[simp] theorem heard_afterFailedSave (point : Point) :
    point.afterFailedSave.heard = point.heard := by
  cases point <;> rfl

@[simp] theorem isSaved_afterFailedSave (point : Point) :
    point.afterFailedSave.isSaved = point.isSaved := by
  cases point <;> rfl

@[simp] theorem isJoining_afterSave (point : Point) : point.afterSave.isJoining = point.isJoining := by
  cases point <;> rfl

@[simp] theorem isJoining_afterFailedSave (point : Point) :
    point.afterFailedSave.isJoining = point.isJoining := by
  cases point <;> rfl

@[simp] theorem inUplink_afterSave (point : Point) : point.afterSave.inUplink = point.inUplink := by
  cases point <;> rfl

@[simp] theorem inUplink_afterFailedSave (point : Point) :
    point.afterFailedSave.inUplink = point.inUplink := by
  cases point <;> rfl

@[simp] theorem downlink_afterSave (point : Point) : point.afterSave.downlink = point.downlink := by
  cases point <;> rfl

theorem downlink_afterFailedSave {point : Point} (holding : point.afterFailedSave.downlink.isSome) :
    point.downlink.isSome := by
  cases point <;> first | exact holding | exact nomatch holding

end Point

/-- What holds at each point, and that every step keeps it. -/
structure Outline (crypto : Crypto) (device : Device) (limits : Limits) where
  at_ : Point → World → Prop
  forgets : ∀ {point world}, at_ point world → limits.permits .forgetSession world = true →
    at_ point (world.withMac (world.mac.forgetSession device))
  othersSave : ∀ {point world}, at_ point world → limits.permits (.persistSession true) world = true →
    at_ point (world.save world.mac.snapshot)
  othersFail : ∀ {point world}, at_ point world → limits.permits (.persistSession false) world = true →
    at_ point world.saveFailed
  saves : ∀ {point before after}, at_ point before → at_ point after →
    after.mac = before.mac ∨ after.mac = before.mac.forgetSession device →
    at_ point.afterSave (after.save before.mac.snapshot)
  saveFails : ∀ {point world}, at_ point world → at_ point.afterFailedSave world.saveFailed
  tunes : ∀ {point world} channel frequency, at_ point world →
    at_ point (world.withMac { world.mac with lastChannel := channel, txFrequency := frequency })
  attempts : ∀ {world} count, at_ .idle world → at_ .idle { world with joinAttempts := count }
  startsJoin : ∀ {world}, limits.joins = true → world.mac.session.joined = false →
    at_ .idle world → at_ .starting world
  abandonsStart : ∀ {world}, at_ .starting world → at_ .idle world
  draws : ∀ {world} random, at_ .starting world →
    at_ (.drawn (world.mac.drawDevNonce random).2) (world.withMac (world.mac.drawDevNonce random).1)
  requests : ∀ {devNonce world}, at_ (.requesting devNonce) world → at_ .awaiting
    (world.record (.transmitted (.joinRequest devNonce (joinRequest crypto device devNonce))))
  abandonsRequest : ∀ {devNonce world}, at_ (.requesting devNonce) world → at_ .idle world
  abandonsJoin : ∀ {world}, at_ .awaiting world → at_ .idle world
  accepts : ∀ {world} data, at_ .awaiting world →
    at_ .idle (world.withMac (world.mac.processJoinAccept crypto device data).1)
  begins : ∀ {world} payload fport confirmed, limits.uplinks world = true → at_ .idle world →
    at_ (.ofOutcome (beginUplink crypto device payload fport confirmed world).2)
      (beginUplink crypto device payload fport confirmed world).1
  hands : ∀ {frame world}, at_ (.flying frame) world →
    at_ .listening (world.record (.transmitted (.data frame)))
  abandonsUplink : ∀ {frame world frequency spreading bandwidth}, at_ (.flying frame) world →
    limits.answers (.setTxConfig frequency spreading bandwidth) world none = true →
    at_ .idle (world.closeUplink)
  hears : ∀ {data world}, at_ .listening world → limits.answers .receive world (some (some data)) = true →
    at_ (.received data) world
  hangsUp : ∀ {world}, at_ .listening world → at_ (.returned none) (world.closeUplink)
  processes : ∀ {data world} snr, at_ (.received data) world →
    at_ (.returned (world.mac.processDownlink crypto snr data).2)
      ((world.withMac (world.mac.processDownlink crypto snr data).1).closeUplink)
  returns : ∀ {downlink world}, at_ (.returned downlink) world → at_ .idle world
  settles : ∀ {downlink world}, at_ (.saved downlink) world → at_ .idle world
  executes : ∀ {fport command world}, at_ (.saved (some (fport :: command))) world →
    at_ .idle (world.record (.commandProcessed fport command))
  restarts : ∀ {point world}, at_ point world → limits.crashes world = true →
    at_ .idle (world.restart device)

namespace Outline

variable {crypto : Crypto} {device : Device} {limits : Limits} (outline : Outline crypto device limits)
  {world : World} {α : Type}

/-- Something holds at every point of a run. -/
def holds (world : World) : Prop := ∃ point, outline.at_ point world

/-- The program keeps the outline and ends in `normal`, or raises in `raised`. -/
private abbrev Keeps (program : Program α) (normal : α → World → Prop) (raised : World → Prop)
    (world : World) : Prop :=
  program.Safe (unit crypto device limits) outline.holds (ends normal raised) world

private theorem keeps_effect {point : Point} {effect : Effect} (now : outline.at_ point world)
    (permitted : limits.permits effect world = true) :
    outline.at_ point (effect.apply device world) := by
  cases effect with
  | forgetSession => exact outline.forgets now permitted
  | persistSession stored =>
      cases stored with
      | true => exact outline.othersSave now permitted
      | false => exact outline.othersFail now permitted

/-- A call that changes nothing here waits at its point. -/
private theorem safe_wait {point : Point} (call : Call) (now : outline.at_ point world)
    (quiet : ∀ answer world, call.perform answer world = world) {normal : call.Answer → World → Prop}
    {raised : World → Prop}
    (returns : ∀ value world, outline.at_ point world → call.answers (some value) = true →
      limits.answers call world (some value) = true → normal value world)
    (raises : ∀ world, outline.at_ point world → call.answers none = true →
      limits.answers call world none = true → raised world) :
    outline.Keeps (invoke (A := Call.Answer) call) normal raised world := by
  refine safe_invoke call (outline.at_ point) now (fun effect world => outline.keeps_effect)
    (fun world here => ⟨point, here⟩) fun world answer here possible => ?_
  simp only [unit, Bool.and_eq_true] at possible ⊢
  rw [quiet]
  cases answer with
  | none => exact raises world here possible.1.1 possible.1.2
  | some value => exact returns value world here possible.1.1 possible.1.2

private theorem forgetSession_idem (mac : Mac) :
    (mac.forgetSession device).forgetSession device = mac.forgetSession device := rfl

/-- The other threads leave the MAC layer alone or forget its session. -/
private theorem disturbed_mac {before after : World}
    (disturbed : (unit crypto device limits).Disturbed before after) :
    after.mac = before.mac ∨ after.mac = before.mac.forgetSession device := by
  induction disturbed with
  | refl => exact .inl rfl
  | tail _ changed ih =>
      obtain ⟨effect, _, rfl⟩ := changed
      cases effect with
      | forgetSession =>
          rcases ih with same | forgotten
          · exact .inr (congrArg (Mac.forgetSession device) same)
          · exact .inr ((congrArg (Mac.forgetSession device) forgotten).trans (forgetSession_idem _))
      | persistSession stored => cases stored <;> exact ih

private theorem disturbed_at {before after : World} {point : Point} (now : outline.at_ point before)
    (disturbed : (unit crypto device limits).Disturbed before after) : outline.at_ point after := by
  induction disturbed with
  | refl => exact now
  | tail _ changed ih =>
      obtain ⟨effect, permitted, rfl⟩ := changed
      exact outline.keeps_effect ih permitted

/-- Persisting the session as it is now, by a call that may raise. -/
private theorem safe_save {point : Point} (now : outline.at_ point world)
    {after : Option Unit → World → Prop}
    (stores : ∀ world, outline.at_ point.afterSave world → after (some ()) world)
    (fails : ∀ world, outline.at_ point.afterFailedSave world → after none world) :
    (invoke (A := Call.Answer) (.saveSession world.mac.snapshot)).Safe (unit crypto device limits)
      outline.holds after world := by
  intro seen disturbed
  have here := outline.disturbed_at now disturbed
  refine ⟨⟨point, here⟩, fun answer _ => ?_⟩
  cases answer with
  | none => exact fails _ (outline.saveFails here)
  | some stored => exact stores _ (outline.saves now here (disturbed_mac disturbed))

private theorem safe_persistSession {point : Point} (now : outline.at_ point world) :
    outline.Keeps persistSession (fun _ => outline.at_ point.afterSave)
      (outline.at_ point.afterFailedSave) world :=
  outline.safe_save now (fun _ here => here) fun _ here => here

private theorem safe_persist {point next : Point} (now : outline.at_ point world)
    (stores : point.afterSave = next) (fails : point.afterFailedSave = next)
    {raised : World → Prop} :
    outline.Keeps persist (fun _ => outline.at_ next) raised world := by
  intro seen disturbed
  have here := outline.disturbed_at now disturbed
  refine ⟨⟨point, here⟩, fun answer _ => ?_⟩
  cases answer with
  | none => exact fails ▸ outline.saveFails here
  | some stored => exact stores ▸ outline.saves now here (disturbed_mac disturbed)

private theorem safe_pickChannel {point : Point} (now : outline.at_ point world)
    {raised : World → Prop} :
    outline.Keeps (pickChannel device) (fun _ => outline.at_ point) raised world := by
  refine Safe.inspectThen (Safe.bind (fun _ => outline.at_ point) ?_ fun channel world here =>
    outline.tunes channel world.mac.txFrequency here)
  exact outline.safe_wait (.randomChoice (world.mac.enabledChannels device)) now (fun _ _ => rfl)
    (fun _ _ here _ _ => here) fun _ _ impossible _ => nomatch impossible

private theorem safe_configureTx {point : Point} (channel : Nat) (now : outline.at_ point world)
    {raised : World → Prop}
    (raises : ∀ frequency spreading bandwidth world, outline.at_ point world →
      limits.answers (.setTxConfig frequency spreading bandwidth) world none = true → raised world) :
    outline.Keeps (configureTx channel) (fun _ => outline.at_ point) raised world :=
  Safe.updateThen (outline.safe_wait (.setTxConfig _ _ _)
    (outline.tunes world.mac.lastChannel (uplinkFrequencyHz channel) now) (fun _ _ => rfl)
    (fun _ _ here _ _ => here) fun world here _ possible => raises _ _ _ world here possible)

private theorem safe_call {point : Point} (call : Call) (now : outline.at_ point world)
    (quiet : ∀ answer world, call.perform answer world = world) {raised : World → Prop}
    (raises : ∀ world, outline.at_ point world → raised world) :
    outline.Keeps (invoke (A := Call.Answer) call) (fun _ => outline.at_ point) raised world :=
  outline.safe_wait call now quiet (fun _ _ here _ _ => here) fun world here _ _ => raises world here

/-- Right before an uplink: the limits allow it. -/
private theorem safe_ledOn (now : outline.at_ .idle world) :
    outline.Keeps (invoke (A := Call.Answer) .ledOn)
      (fun _ world => outline.at_ .idle world ∧ limits.uplinks world = true)
      (outline.at_ .idle) world := by
  refine safe_invoke Call.ledOn (outline.at_ .idle) now (fun effect world => outline.keeps_effect)
    (fun world here => ⟨.idle, here⟩) fun world answer here possible => ?_
  cases answer with
  | none => exact here
  | some lit =>
      simp only [unit, Bool.and_eq_true] at possible
      exact ⟨here, possible.2⟩

private theorem safe_receiveWindows {point : Point} (tTx rx1DelayS : Rat) (channel : Nat)
    (now : outline.at_ point world) {raised : World → Prop}
    (raises : ∀ world, outline.at_ point world → raised world) :
    outline.Keeps (receiveWindows tTx rx1DelayS channel)
      (fun heard world => outline.at_ point world ∧
        ∀ data, heard = some data → limits.answers .receive world (some (some data)) = true)
      raised world := by
  have listen {world : World} (now : outline.at_ point world) :
      outline.Keeps (invoke (A := Call.Answer) .receive)
        (fun heard world => outline.at_ point world ∧
          ∀ data, heard = some data → limits.answers .receive world (some (some data)) = true)
        raised world :=
    outline.safe_wait .receive now (fun _ _ => rfl)
      (fun _ _ here _ allowed => ⟨here, fun _ heard => heard ▸ allowed⟩)
      fun world here _ _ => raises world here
  have wait {world : World} (call : Call) (now : outline.at_ point world)
      (quiet : ∀ answer world, call.perform answer world = world) :=
    outline.safe_call call now quiet raises
  refine Safe.inspectThen (Safe.bind _ (wait (.setRxConfig _ _ _) now fun _ _ => rfl)
    fun _ _ here => Safe.bind _ (wait (.sleepUntil _) here fun _ _ => rfl)
    fun _ _ here => Safe.bind _ (listen here) fun heard world ⟨here, allowed⟩ => ?_)
  split
  · exact ⟨here, allowed⟩
  · exact Safe.inspectThen (Safe.bind _ (wait (.setRxConfig _ _ _) here fun _ _ => rfl)
      fun _ _ here => Safe.bind _ (wait (.sleepUntil _) here fun _ _ => rfl)
      fun _ _ here => listen here)

private theorem safe_join (joins : limits.joins = true) (unjoined : world.mac.session.joined = false)
    (now : outline.at_ .idle world) :
    outline.Keeps (join crypto device) (fun _ => outline.at_ .idle) (outline.at_ .idle) world := by
  have starting := outline.startsJoin joins unjoined now
  have first : outline.Keeps firstDevNonce (fun _ => outline.at_ .starting) (outline.at_ .idle)
      world := by
    refine Safe.inspectThen ?_
    split
    · exact outline.safe_call .urandom starting (fun _ _ => rfl) fun _ here => outline.abandonsStart here
    · exact starting
  have stops (world : World) (here : outline.at_ .awaiting world) : outline.at_ .idle world :=
    outline.abandonsJoin here
  refine Safe.bind _ first fun random world here => Safe.updateThen ?_
  refine Safe.bind (fun _ => outline.at_ (.requesting _))
    (outline.safe_persist (outline.draws random here) rfl rfl) fun _ world here => ?_
  refine Safe.bind _ (outline.safe_pickChannel here) fun channel world here => ?_
  refine Safe.bind _ (outline.safe_configureTx channel here
    fun _ _ _ _ here _ => outline.abandonsRequest here) fun _ world here => ?_
  refine Safe.bind (fun _ => outline.at_ .awaiting) (Safe.updateThen (outline.safe_call (.send _)
    (outline.requests here) (fun _ _ => rfl) stops)) fun sent world here => ?_
  split
  · refine Safe.bind _ (outline.safe_call .now here (fun _ _ => rfl) stops) fun tTx world here => ?_
    refine Safe.bind _ (outline.safe_receiveWindows tTx joinRx1DelayS channel here stops)
      fun heard world ⟨here, _⟩ => ?_
    split
    · exact outline.accepts _ here
    · exact stops world here
  · exact stops world here

/-- What holds when the body of `send_uplink` is left, before the uplink is closed. -/
private def Closes : Option (Option Bytes) → World → Prop
  | some downlink, world => outline.at_ (.returned downlink) (world.closeUplink)
  | none, world => outline.at_ .idle (world.closeUplink)

private theorem safe_deliver {frame : UplinkFrame} (now : outline.at_ (.prepared frame) world) :
    (deliver crypto device frame).Safe (unit crypto device limits) outline.holds outline.Closes
      world := by
  have stops (world : World) (here : outline.at_ .listening world) : outline.Closes none world :=
    outline.returns (outline.hangsUp here)
  refine Safe.bind (fun _ => outline.at_ (.flying frame)) (outline.safe_persist now rfl rfl)
    fun _ world here => ?_
  refine Safe.bind _ (outline.safe_pickChannel here) fun channel world here => ?_
  refine Safe.bind _ (outline.safe_configureTx channel here
    fun _ _ _ _ here possible => outline.abandonsUplink here possible) fun _ world here => ?_
  refine Safe.bind (fun _ => outline.at_ .listening) (Safe.updateThen (outline.safe_call (.send _)
    (outline.hands here) (fun _ _ => rfl) stops)) fun sent world here => ?_
  split
  · refine Safe.bind _ (outline.safe_call .now here (fun _ _ => rfl) stops) fun tTx world here => ?_
    refine Safe.inspectThen (Safe.bind _ (outline.safe_receiveWindows tTx world.mac.rx1DelayS channel
      here stops) fun heard world ⟨here, allowed⟩ => ?_)
    split
    · next byte rest _ =>
      refine safe_monad_bind.mpr ?_
      exact safe_attempt Call.lastSnr (outline.at_ (.received (byte :: rest)))
        (outline.hears here (allowed _ rfl)) (fun effect world => outline.keeps_effect)
        (fun world here => ⟨_, here⟩) fun world snr here _ => outline.processes snr here
    · exact outline.hangsUp here
  · exact outline.hangsUp here

private theorem safe_sendUplink (payload : Bytes) (fport : UInt8) (confirmed : Bool)
    (allowed : limits.uplinks world = true) (now : outline.at_ .idle world) :
    outline.Keeps (sendUplink crypto device payload fport confirmed)
      (fun downlink world => outline.at_ (.returned downlink) world ∨
        downlink = none ∧ outline.at_ .idle world)
      (outline.at_ .idle) world := by
  have begun := outline.begins payload fport confirmed allowed now
  refine Safe.updateThen ?_
  generalize beginUplink crypto device payload fport confirmed world = start at begun ⊢
  obtain ⟨world, outcome⟩ := start
  cases outcome with
  | ready frame =>
      refine safe_ensuring.mpr ((outline.safe_deliver begun).mono fun result world closes => ?_)
      cases result with
      | none => exact closes
      | some downlink => exact .inl closes
  | presumedDead =>
      refine Safe.bind _ (outline.safe_persist begun rfl rfl) fun _ world here => ?_
      exact .inr ⟨rfl, here⟩
  | notJoined => exact .inr ⟨rfl, begun⟩
  | tooLong => exact .inr ⟨rfl, begun⟩

private theorem safe_executeCommand {fport : UInt8} {command : Bytes}
    (now : outline.at_ (.saved (some (fport :: command))) world) :
    outline.Keeps (executeCommand fport command) (fun _ => outline.at_ .idle) (outline.at_ .idle)
      world :=
  Safe.updateThen (Safe.bind _ (outline.safe_call (.processDownlinkCommand _ _)
    (outline.executes now) (fun _ _ => rfl) fun _ here => here) fun _ _ here => here)

private theorem safe_afterUplink {downlink : Option Bytes}
    (now : outline.at_ (.returned downlink) world ∨ downlink = none ∧ outline.at_ .idle world) :
    outline.Keeps (afterUplink downlink) (fun _ => outline.at_ .idle) (outline.at_ .idle) world := by
  rcases now with now | ⟨rfl, now⟩
  · refine Safe.bind _ (outline.safe_persistSession now) fun _ world here => ?_
    refine Safe.bind _ (outline.safe_call .getRssi here (fun _ _ => rfl)
      fun _ here => outline.settles here) fun _ world here => ?_
    split
    · exact outline.safe_executeCommand here
    · exact outline.settles here
  · refine Safe.bind _ (outline.safe_persistSession now) fun _ world here => ?_
    exact Safe.bind _ (outline.safe_call .getRssi here (fun _ _ => rfl) fun _ here => here)
      fun _ world here => here

private theorem safe_radioStep (now : outline.at_ .idle world) :
    outline.Keeps (radioStep crypto device) (fun _ => outline.at_ .idle) (outline.at_ .idle)
      world := by
  refine Safe.inspectThen ?_
  split
  · refine Safe.bind _ (outline.safe_call .getLatest now (fun _ _ => rfl) fun _ here => here)
      fun latest world here => ?_
    split
    · exact here
    · split
      · exact here
      · next payload _ =>
        split
        · exact here
        · refine Safe.bind _ (outline.safe_ledOn here) fun _ world ⟨here, allowed⟩ => ?_
          have body := Safe.bind _ (outline.safe_sendUplink payload fportApp false allowed here)
            fun downlink world here => outline.safe_afterUplink here
          refine safe_ensuring.mpr (body.mono fun result world ended => ?_)
          have here : outline.at_ .idle world := by cases result <;> exact ended
          refine (outline.safe_call .ledOff here (fun _ _ => rfl) fun _ here => here).mono
            fun finished world closed => ?_
          cases finished <;> cases result <;> exact closed
  · exact now

private theorem safe_joiningRadioStep (joins : limits.joins = true) (now : outline.at_ .idle world) :
    outline.Keeps (joiningRadioStep crypto device) (fun _ => outline.at_ .idle) (outline.at_ .idle)
      world := by
  refine Safe.inspectThen ?_
  split
  · exact outline.safe_radioStep now
  · next unjoined =>
    refine Safe.updateThen (Safe.bind _ (outline.safe_join joins (by simpa using unjoined)
      (outline.attempts _ now)) fun joined world here => ?_)
    split
    · exact Safe.updateThen (outline.safe_persistSession (outline.attempts 0 here))
    · exact here

private theorem safe_job (job : Job) (starts : (unit crypto device limits).starts job world = true)
    (now : outline.at_ .idle world) :
    (job.program crypto device).Safe (unit crypto device limits) outline.holds
      (fun _ => outline.at_ .idle) world := by
  have either {result : Option Unit} {world : World}
      (ended : ends (fun _ => outline.at_ .idle) (outline.at_ .idle) result world) :
      outline.at_ .idle world := by cases result <;> exact ended
  simp only [unit, Bool.and_eq_true, Bool.or_eq_true, Bool.not_eq_true'] at starts
  obtain ⟨joins, allowed⟩ := starts
  cases job with
  | sendUplink payload fport confirmed =>
      refine Safe.bind _ (outline.safe_sendUplink payload fport confirmed allowed now)
        fun downlink world here => ?_
      rcases here with here | ⟨_, here⟩
      · exact outline.returns here
      · exact here
  | join =>
      have joins : limits.joins = true := joins.resolve_right nofun
      exact Safe.bind _ (outline.safe_join joins (by simpa using allowed) now) fun _ _ here => here
  | radioStep => exact (outline.safe_radioStep now).mono fun _ _ => either
  | joiningRadioStep =>
      exact (outline.safe_joiningRadioStep (joins.resolve_right nofun) now).mono fun _ _ => either

/-- What the outline says holds in every state of every run. -/
theorem reaches {initial : World} (begins : outline.at_ .idle initial)
    {machine : Machine World Call.Answer}
    (run : (unit crypto device limits).Reaches ⟨initial, none⟩ machine) :
    (∃ point, outline.at_ point machine.memory) ∧
      (machine.waiting = none → outline.at_ .idle machine.memory) :=
  System.invariant (outline.at_ .idle) outline.holds (fun _ here => ⟨.idle, here⟩) begins
    (fun job _ here starts => outline.safe_job job starts here)
    (fun _ _ here permitted => outline.keeps_effect here permitted)
    (fun _ ⟨_, here⟩ possible => outline.restarts here possible) run

end Outline

end Wqm1.Radio
