import Wqm1.Library.Events
import Wqm1.Radio.Downlink
import Wqm1.Radio.Join
import Wqm1.Radio.ParamsDocument
import Wqm1.Radio.Uplink

/-! The MAC layer on its own: its operations one after another in any order, the
persisted row, and restarts from that row. -/

set_option autoImplicit false

namespace Wqm1.Radio

open Wqm1.Library

/-- The row of the session table: the session and the parameters as a JSON object. -/
structure SessionRow where
  session : LoRaWANSession
  document : Option ParamsDocument
deriving DecidableEq

namespace SessionRow

/-- The row of a unit that never persisted anything. -/
def blank : SessionRow := ⟨{}, none⟩

/-- `save_session`. -/
def save (mac : Mac) : SessionRow := ⟨mac.session, some mac.paramsDocument⟩

/-- `load_session`. -/
def load (row : SessionRow) : StoredSession := ⟨row.session, row.document.bind ParamsDocument.read⟩

@[simp] theorem load_save (mac : Mac) : (save mac).load = mac.snapshot := by
  simp [save, load, ParamsDocument.read_paramsDocument, Mac.snapshot]

end SessionRow

/-- The constructor with any spreading factor. -/
def Mac.construct (device : Device) (sf : Int) (history : List MacEvent) : Mac :=
  { initial device history with sf := (SpreadingFactor.ofInt sf).getD .sf9 }

/-- The MAC layer that is built from a row. -/
def Mac.rebuild (device : Device) (sf : Int) (stored : StoredSession) (history : List MacEvent) : Mac :=
  let mac := construct device sf history
  if stored.session.joined then mac.restoreSession stored.session stored.macParams
  else mac.restoreMacParams stored.macParams

/-- The MAC layer and its row. The last two fields are for the statements only: the
AppNonces accepted so far, oldest first, and whether one was accepted since the row
was written. -/
structure MacRun where
  mac : Mac
  row : SessionRow
  accepted : List Nat
  unsaved : Bool

inductive MacOp where
  | drawDevNonce (random : Nat)
  | joinAccept (data : Bytes)
  | prepareUplink (payload : Bytes) (fport : UInt8) (confirmed : Bool)
  | downlink (snr : Option Rat) (data : Bytes)
  | tune (channel frequency : Nat)
  | record (event : MacEvent)
  | forgetSession
  | persist
  | restart

namespace MacRun

def start (device : Device) (sf : Int) : MacRun := ⟨.construct device sf [], .blank, [], false⟩

variable (crypto : Crypto) (device : Device) (sf : Int)

def apply (run : MacRun) : MacOp → MacRun
  | .drawDevNonce random => { run with mac := (run.mac.drawDevNonce random).1 }
  | .joinAccept data =>
    match run.mac.verifyJoinAccept crypto device data with
    | none => { run with mac := (run.mac.processJoinAccept crypto device data).1 }
    | some accept =>
      { run with
        mac := (run.mac.processJoinAccept crypto device data).1
        accepted := run.accepted ++ [accept.appNonceInt]
        unsaved := true }
  | .prepareUplink payload fport confirmed =>
    { run with mac := (run.mac.prepareUplink crypto device payload fport confirmed).1 }
  | .downlink snr data => { run with mac := (run.mac.processDownlink crypto snr data).1 }
  | .tune channel frequency =>
    { run with mac := { run.mac with lastChannel := channel, txFrequency := frequency } }
  | .record event => { run with mac := run.mac.record event }
  | .forgetSession => { run with mac := run.mac.forgetSession device }
  | .persist => { run with row := .save run.mac, unsaved := false }
  | .restart => { run with mac := .rebuild device sf run.row.load (.restarted :: run.mac.history) }

variable {crypto device sf} in
theorem apply_joinAccept_rejected {run : MacRun} {data : Bytes}
    (rejected : run.mac.verifyJoinAccept crypto device data = none) :
    run.apply crypto device sf (.joinAccept data) = run := by
  simp only [apply, rejected, Mac.processJoinAccept]

variable {crypto device sf} in
theorem apply_joinAccept_verified {run : MacRun} {data : Bytes} {accept : JoinAccept}
    (verified : run.mac.verifyJoinAccept crypto device data = some accept) :
    run.apply crypto device sf (.joinAccept data) =
      { run with
        mac := run.mac.applyJoinAccept crypto device accept
        accepted := run.accepted ++ [accept.appNonceInt]
        unsaved := true } := by
  simp only [apply, verified, Mac.processJoinAccept]

def step (run : MacRun) (op : MacOp) : Option MacRun := some (run.apply crypto device sf op)

/-- The states of the MAC layer. -/
abbrev Reachable (permits : MacRun → MacOp → Prop) (run : MacRun) : Prop :=
  Events.Reaches (step crypto device sf) permits (.start device sf) run

end MacRun

end Wqm1.Radio
