import Wqm1.Library.Prog
import Wqm1.Radio.Cayenne
import Wqm1.Radio.Downlink
import Wqm1.Radio.Join
import Wqm1.Radio.Uplink

/-! The radio worker's thread: `join`, `send_uplink` and the worker steps as
programs whose calls go to the radio, the database, the relays and the clock,
and the other threads that may run while it waits. -/

set_option autoImplicit false

namespace Wqm1.Radio

open Wqm1.Library

/-- What the radio worker waits for. -/
inductive Call where
  | saveSession (row : StoredSession)
  | urandom
  | randomChoice (channels : List Nat)
  | setTxConfig (frequency spreading bandwidth : Nat)
  | setRxConfig (frequency spreading bandwidth : Nat)
  | send (data : Bytes)
  | now
  | sleepUntil (time : Rat)
  | receive
  | lastSnr
  | getLatest
  | ledOn
  | ledOff
  | getRssi
  | processDownlinkCommand (fport : UInt8) (payload : Bytes)

abbrev Call.Answer : Call → Type
  | saveSession _ => Unit
  | urandom => Nat
  | randomChoice _ => Nat
  | setTxConfig _ _ _ => Unit
  | setRxConfig _ _ _ => Unit
  | send _ => Bool
  | now => Rat
  | sleepUntil _ => Unit
  | receive => Option Bytes
  | lastSnr => Rat
  | getLatest => Option Reading
  | ledOn => Unit
  | ledOff => Unit
  | getRssi => Unit
  | processDownlinkCommand _ _ => Bool

/-- The MAC layer, the session table and the worker's attempt counter. The last two
fields are for the statements only: the frame of an uplink between its joined
check and its downlink, and whether the last attempt to persist failed. -/
structure World where
  mac : Mac
  stored : StoredSession
  joinAttempts : Nat
  uplink : Option UplinkFrame
  persistFailed : Bool
deriving DecidableEq

namespace World

def start (device : Device) (stored : StoredSession) (history : List MacEvent) : World :=
  ⟨Mac.boot device stored history, stored, 0, none, false⟩

def withMac (world : World) (mac : Mac) : World := { world with mac := mac }

def record (event : MacEvent) (world : World) : World := world.withMac (world.mac.record event)

def save (row : StoredSession) (world : World) : World :=
  { world with stored := row, persistFailed := false }

def saveFailed (world : World) : World := { world with persistFailed := true }

def openUplink (frame : UplinkFrame) (world : World) : World := { world with uplink := some frame }

def closeUplink (world : World) : World := { world with uplink := none }

/-- The process is killed and started again with what the table holds. -/
def restart (device : Device) (world : World) : World :=
  start device world.stored (.restarted :: world.mac.history)

end World

/-- What the command thread does to the MAC layer: `lora_rejoin` forgets the
session and then persists that. -/
inductive Effect where
  | forgetSession
  | persistSession (stored : Bool)
deriving DecidableEq

def Effect.apply (device : Device) : Effect → World → World
  | forgetSession, world => world.withMac (world.mac.forgetSession device)
  | persistSession true, world => world.save world.mac.snapshot
  | persistSession false, world => world.saveFailed

abbrev Program (α : Type) := Prog World Call.Answer α

open Prog

section Programs

variable (crypto : Crypto) (device : Device)

def onMac {α : Type} (change : Mac → Mac × α) : Program α :=
  update fun world => (world.withMac (change world.mac).1, (change world.mac).2)

/-- Persisting must not block the radio: an exception of the hook is dropped. -/
def persist : Program Unit := do
  let row ← inspect fun world : World => world.mac.snapshot
  let _ ← attempt (A := Call.Answer) (.saveSession row)

def persistSession : Program Unit := do
  let row ← inspect fun world : World => world.mac.snapshot
  invoke (A := Call.Answer) (.saveSession row)

def pickChannel : Program Nat := do
  let channels ← inspect fun world : World => world.mac.enabledChannels device
  let channel ← invoke (A := Call.Answer) (.randomChoice channels)
  onMac fun mac => ({ mac with lastChannel := channel }, channel)

def configureTx (channel : Nat) : Program Unit := do
  let sf ← onMac fun mac =>
    ({ mac with txFrequency := uplinkFrequencyHz channel }, mac.sf.toNat)
  invoke (A := Call.Answer) (.setTxConfig (uplinkFrequencyHz channel) sf bw125k)

def transmit (transmission : Transmission) (data : Bytes) : Program Bool := do
  update fun world : World => (world.record (.transmitted transmission), ())
  invoke (A := Call.Answer) (.send data)

def receiveWindows (tTx rx1DelayS : Rat) (channel : Nat) : Program (Option Bytes) := do
  let rx1Dr ← inspect fun world : World => rx1DataRate world.mac.uplinkDr world.mac.rx1DrOffset
  invoke (A := Call.Answer) (.setRxConfig (rx1FrequencyHz channel) (downlinkSf rx1Dr) bw500k)
  invoke (A := Call.Answer) (.sleepUntil (tTx + rx1DelayS - rxEarlyS))
  match ← invoke (A := Call.Answer) .receive with
  | some (byte :: rest) => pure (some (byte :: rest))
  | _ => do
      let rx2 ← inspect fun world : World => (world.mac.rx2Frequency, world.mac.rx2Dr)
      invoke (A := Call.Answer) (.setRxConfig rx2.1 (downlinkSf rx2.2) bw500k)
      invoke (A := Call.Answer) (.sleepUntil (tTx + rx1DelayS + 1 - rxEarlyS))
      invoke (A := Call.Answer) .receive

/-- Two random bytes for a device without a nonce counter. -/
def firstDevNonce : Program Nat := do
  let counter ← inspect fun world : World => world.mac.devNonceCounter
  if counter < 0 then invoke (A := Call.Answer) .urandom else pure 0

def join : Program Bool := do
  let random ← firstDevNonce
  let devNonce ← onMac (Mac.drawDevNonce random)
  persist
  let payload := joinRequest crypto device devNonce
  let channel ← pickChannel device
  configureTx channel
  if ← transmit (.joinRequest devNonce payload) payload then do
    let tTx ← invoke (A := Call.Answer) .now
    match ← receiveWindows tTx joinRx1DelayS channel with
    | some data => onMac (Mac.processJoinAccept crypto device data)
    | none => pure false
  else pure false

/-- `_process_downlink` with the radio's last signal to noise ratio. -/
def receiveDownlink (data : Bytes) : Program (Option Bytes) := do
  let snr ← attempt (A := Call.Answer) .lastSnr
  onMac (Mac.processDownlink crypto snr data)

/-- `send_uplink` from its first persist on. -/
def deliver (frame : UplinkFrame) : Program (Option Bytes) := do
  persist
  let channel ← pickChannel device
  configureTx channel
  if ← transmit (.data frame) frame.bytes then do
    let tTx ← invoke (A := Call.Answer) .now
    let rx1DelayS ← inspect fun world : World => world.mac.rx1DelayS
    match ← receiveWindows tTx rx1DelayS channel with
    | some (byte :: rest) => receiveDownlink crypto (byte :: rest)
    | _ => pure none
  else pure none

/-- Build the frame; the uplink is open from here when there is one. -/
def beginUplink (payload : Bytes) (fport : UInt8) (confirmed : Bool) (world : World) :
    World × UplinkOutcome :=
  let (mac, outcome) := world.mac.prepareUplink crypto device payload fport confirmed
  match outcome with
  | .ready frame => ((world.withMac mac).openUplink frame, .ready frame)
  | other => (world.withMac mac, other)

def closeUplink : Program Unit := update fun world : World => (world.closeUplink, ())

/-- `send_uplink` once its outcome is known. -/
def continueUplink : UplinkOutcome → Program (Option Bytes)
  | .ready frame => (deliver crypto device frame).ensuring closeUplink
  | .presumedDead => do
      persist
      pure none
  | .notJoined | .tooLong => pure none

def sendUplink (payload : Bytes) (fport : UInt8) (confirmed : Bool) : Program (Option Bytes) := do
  let outcome ← update (beginUplink crypto device payload fport confirmed)
  continueUplink crypto device outcome

/-- A relay command goes to the rules engine. -/
def executeCommand (fport : UInt8) (payload : Bytes) : Program Unit := do
  update fun world : World => (world.record (.commandProcessed fport payload), ())
  let _ ← invoke (A := Call.Answer) (.processDownlinkCommand fport payload)

/-- `RadioWorker.step` from the end of `send_uplink` on: the counters become
durable before the command is executed. -/
def afterUplink (downlink : Option Bytes) : Program Unit := do
  persistSession
  invoke (A := Call.Answer) .getRssi
  match downlink with
  | some (fport :: command) => executeCommand fport command
  | _ => pure ()

/-- `RadioWorker.step`. -/
def radioStep : Program Unit := do
  if ← inspect fun world : World => world.mac.session.joined then
    match ← invoke (A := Call.Answer) .getLatest with
    | none => pure ()
    | some latest =>
      match Cayenne.encodeFloats latest with
      | none => Prog.raise
      | some payload =>
        if payload = [] then pure ()
        else do
          invoke (A := Call.Answer) .ledOn
          Prog.ensuring (do
            let downlink ← sendUplink crypto device payload fportApp false
            afterUplink downlink)
            (invoke (A := Call.Answer) .ledOff)
  else pure ()

/-- `_JoiningRadioWorker.step`. -/
def joiningRadioStep : Program Unit := do
  if ← inspect fun world : World => world.mac.session.joined then radioStep crypto device
  else do
    update fun world : World => ({ world with joinAttempts := world.joinAttempts + 1 }, ())
    if ← join crypto device then do
      update fun world : World => ({ world with joinAttempts := 0 }, ())
      persistSession
    else pure ()

end Programs

/-- What the radio worker's thread may be asked to run. -/
inductive Job where
  | sendUplink (payload : Bytes) (fport : UInt8) (confirmed : Bool)
  | join
  | radioStep
  | joiningRadioStep
deriving DecidableEq

def Job.program (crypto : Crypto) (device : Device) : Job → Program Unit
  | sendUplink payload fport confirmed => do
      let _ ← Radio.sendUplink crypto device payload fport confirmed
  | join => do
      let _ ← Radio.join crypto device
  | radioStep => Radio.radioStep crypto device
  | joiningRadioStep => Radio.joiningRadioStep crypto device

def Call.perform : (call : Call) → Option call.Answer → World → World
  | saveSession row, some _, world => world.save row
  | saveSession _, none, world => world.saveFailed
  | _, _, world => world

/-- The answers the environment can give: random values in range, a listed
channel, and frames of at most 255 bytes, the radio's length register being a byte. -/
def Call.answers : (call : Call) → Option call.Answer → Bool
  | urandom, some value => decide (value < 65536)
  | urandom, none => false
  | randomChoice channels, some channel => channels.contains channel
  | randomChoice _, none => false
  | now, none => false
  | receive, some (some data) => decide (data.length ≤ 255)
  | _, _ => true

/-- The jobs that may join a network. -/
def Job.joins : Job → Bool
  | join => true
  | joiningRadioStep => true
  | _ => false

/-- Restrictions on the runs that a statement is about; `uplinks` is asked right
before an uplink begins. -/
structure Limits where
  joins : Bool := true
  uplinks : World → Bool := fun _ => true
  answers : (call : Call) → World → Option call.Answer → Bool := fun _ _ _ => true
  permits : Effect → World → Bool := fun _ _ => true
  crashes : World → Bool := fun _ => true

/-- The radio worker of a unit, its other threads and its crashes. The worker calls
`join` only without a session. -/
def unit (crypto : Crypto) (device : Device) (limits : Limits) :
    System World Call.Answer Job Effect where
  program := Job.program crypto device
  starts job world := (limits.joins || !job.joins) &&
    match job with
    | .join => !world.mac.session.joined
    | .sendUplink _ _ _ => limits.uplinks world
    | _ => true
  perform := Call.perform
  answers call world answer := call.answers answer && limits.answers call world answer &&
    match call with
    | .ledOn => answer.isNone || limits.uplinks world
    | _ => true
  effect := Effect.apply device
  permits := limits.permits
  restart := World.restart device
  crashes := limits.crashes

/-- A unit between two jobs, just started on what the table holds. -/
def unitStart (device : Device) (stored : StoredSession) : Machine World Call.Answer :=
  ⟨.start device stored [], none⟩

def blank : StoredSession := ⟨{}, none⟩

/-! A concrete unit and a radio that works, for concrete runs. -/

namespace Sample

def device : Device where
  devEui := .ofBytes 8 [0x70, 0xb3, 0xd5, 0x7e, 0xd0, 0x00, 0x00, 0x01]
  appEui := .zero 8
  appKey := .ofBytes 16
    [0x2b, 0x7e, 0x15, 0x16, 0x28, 0xae, 0xd2, 0xa6, 0xab, 0xf7, 0x15, 0x88, 0x09, 0xcf, 0x4f, 0x3c]
  subBand := 2

/-- What a working unit answers; the receive windows hear `heard`. -/
def working (heard : Option Bytes) : (call : Call) → call.Answer
  | .saveSession _ => ()
  | .urandom => (0 : Nat)
  | .randomChoice channels => channels.headD 0
  | .setTxConfig _ _ _ => ()
  | .setRxConfig _ _ _ => ()
  | .send _ => true
  | .now => (0 : Rat)
  | .sleepUntil _ => ()
  | .receive => heard
  | .lastSnr => (0 : Rat)
  | .getLatest => some { tempC := some 20 }
  | .ledOn => ()
  | .ledOff => ()
  | .getRssi => ()
  | .processDownlinkCommand _ _ => true

def environment (heard : Option Bytes) (call : Call) : Option call.Answer := some (working heard call)

def replies (count : Nat) (heard : Option Bytes) : List (Move Call.Answer Job Effect) :=
  List.replicate count (.reply (environment heard))

/-- A JoinAccept for the first nonce: DevAddr 04030201, RX1 after one second. -/
def joinAccept : Bytes :=
  [0x20, 0xb0, 0x5b, 0x2d, 0x57, 0xcc, 0x60, 0x18, 0x32, 0x94, 0x7a, 0xb1, 0xdb, 0x9e, 0x41, 0xf1, 0x2a]

/-- A new unit joins with its first request. -/
def joins : List (Move Call.Answer Job Effect) := .start .join :: replies 9 (some joinAccept)

def silentUplink (payload : Bytes) : List (Move Call.Answer Job Effect) :=
  .start (.sendUplink payload fportApp false) :: replies 11 none

/-- Idealised primitives whose integrity code is the counter of the frame. -/
def counterCrypto : Crypto where
  aesEncrypt _ block := block
  aesEncrypt_injective _ := Function.injective_id
  cmac _ data := .ofBytes 16 (slice data 10 14)

/-- A joined session that expects this downlink counter next. -/
def expecting (fcntDown : Nat) : StoredSession := ⟨{ fcntDown := fcntDown, joined := true }, none⟩

/-- A downlink that asks for the device status. -/
def devStatusRequest : Bytes :=
  [0x60, 0x01, 0x02, 0x03, 0x04, 0x01, 0x00, 0x00, 0x06, 0xd5, 0xe2, 0x0a, 0x7b]

/-- A new unit joins and is asked for its status after its first uplink. -/
def isAsked : List (Move Call.Answer Job Effect) :=
  joins ++ .start (.sendUplink [] fportApp false) :: replies 9 (some devStatusRequest)

/-- A reading with every column. -/
def fullReading : Reading where
  tempC := some 20
  ph := some 7
  tdsPpm := some 300
  turbidityNtu := some 1
  orpMv := some 250
  chlorineMgl := some 1
  conductivityUscm := some 500
  salinityPpt := some 1
  flowRateGpm := some 2
  flowTotalGal := some 100
  lat := some 40
  lon := some (-74)
  altM := some 10

/-- A worker step with a full reading that waits for this many answers. -/
def fullStep (count : Nat) : List (Move Call.Answer Job Effect) :=
  .start .radioStep :: List.replicate count (.reply fun
    | .getLatest => some (some fullReading)
    | other => environment none other)

end Sample

end Wqm1.Radio
