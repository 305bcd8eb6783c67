import Mathlib.Logic.Function.Basic
import Wqm1.Library.Bytes
import Wqm1.Library.Calls
import Wqm1.Library.Quotients

/-! The driver of the SX1262, as programs whose calls go to the SPI bus and the GPIO lines.
What the commands ask of the chip is kept beside the driver's own fields. -/

set_option autoImplicit false

namespace Wqm1.Radio

open Wqm1.Library

namespace Sx1262

def cmdSetStandby : UInt8 := 0x80
def cmdSetTx : UInt8 := 0x83
def cmdSetRx : UInt8 := 0x82
def cmdSetPacketType : UInt8 := 0x8A
def cmdSetRfFrequency : UInt8 := 0x86
def cmdSetPaConfig : UInt8 := 0x95
def cmdSetTxParams : UInt8 := 0x8E
def cmdSetBufferBaseAddr : UInt8 := 0x8F
def cmdSetModulationParams : UInt8 := 0x8B
def cmdSetPacketParams : UInt8 := 0x8C
def cmdSetDioIrqParams : UInt8 := 0x08
def cmdClrIrqStatus : UInt8 := 0x02
def cmdGetIrqStatus : UInt8 := 0x12
def cmdWriteBuffer : UInt8 := 0x0E
def cmdReadBuffer : UInt8 := 0x1E
def cmdWriteRegister : UInt8 := 0x0D
def cmdReadRegister : UInt8 := 0x1D
def cmdSetDio3AsTcxoCtrl : UInt8 := 0x97
def cmdCalibrate : UInt8 := 0x89
def cmdSetRegulatorMode : UInt8 := 0x96
def cmdGetRxBufferStatus : UInt8 := 0x13
def cmdGetPacketStatus : UInt8 := 0x14
def cmdSetDio2AsRfSwitchCtrl : UInt8 := 0x9D
def cmdCalibrateImage : UInt8 := 0x98

def stdbyXosc : UInt8 := 0x01
def irqTxDone : Nat := 0x0001
def irqRxDone : Nat := 0x0002
def irqTimeout : Nat := 0x0200
def regIqPolarity : Nat := 0x0736
def regLoraSyncWordMsb : Nat := 0x0740
def regLoraSyncWordLsb : Nat := 0x0741

def loraFrequency : Nat := 915000000
def loraBandwidth : UInt8 := 4
def loraSpreadingFactor : UInt8 := 9
def loraCodingRate : UInt8 := 1
def loraTxPower : UInt8 := 22
def loraPreambleLen : Nat := 8
def loraSyncWord : Nat := 0x3444
def loraPaConfig : Bytes := [0x04, 0x07, 0x00, 0x01]

/-- The high and the low byte. -/
def word16 (value : Nat) : Bytes := [.ofNat (value / 2 ^ 8), .ofNat value]

/-- `(value >> 16) & 0xFF` and so on, which takes the bytes of a negative number as well. -/
def word24 (value : Int) : Bytes :=
  [.ofNat (value / 2 ^ 16 % 256).toNat, .ofNat (value / 2 ^ 8 % 256).toNat, .ofNat (value % 256).toNat]

def word32 (value : Int) : Bytes := .ofNat (value / 2 ^ 24 % 256).toNat :: word24 value

def bwHz : List (UInt8 × Nat) :=
  [(0x00, 7800), (0x08, 10400), (0x01, 15600), (0x09, 20800), (0x02, 31250), (0x0A, 41700), (0x03, 62500),
    (0x04, 125000), (0x05, 250000), (0x06, 500000)]

/-- The quotient and 0.016 are rounded as floats are. -/
def ldroFor (sf bwCode : UInt8) : UInt8 :=
  if Double.roundRat (16 / 1000) < Double.roundRat ((2 ^ sf.toNat : Nat) / ((bwHz.lookup bwCode).getD 125000 : Nat)) then 1
  else 0

/-- `int(freq_hz * (1 << 25) / 32_000_000)`. -/
def frequencyWord (freqHz : Nat) : Option Int := (Double.quotient (freqHz * 2 ^ 25) 32000000).trunc

structure Tuning where
  frequency : Nat
  sf : UInt8
  bw : UInt8
deriving DecidableEq

def Tuning.modulation (tuning : Tuning) : Bytes :=
  [tuning.sf, tuning.bw, loraCodingRate, ldroFor tuning.sf tuning.bw]

/-- What the chip was last asked for: the parameters of each command, the registers, and what the
transmit buffer begins with. `flagged` says that interrupt flags may be set. -/
structure Chip where
  settings : UInt8 → Option Bytes := fun _ => none
  registers : Nat → Option UInt8 := fun _ => none
  buffer : Bytes := []
  flagged : Bool := true

namespace Chip

def set (chip : Chip) (opcode : UInt8) (params : Bytes) : Chip :=
  { chip with settings := Function.update chip.settings opcode (some params) }

def setRegister (chip : Chip) (address : Nat) (value : UInt8) : Chip :=
  { chip with registers := Function.update chip.registers address (some value) }

/-- One SPI transfer. -/
def command (chip : Chip) : Bytes → Chip
  | [] => chip
  | opcode :: params =>
    if opcode = cmdWriteRegister then
      match params with
      | high :: low :: value :: _ => chip.setRegister (high.toNat * 256 + low.toNat) value
      | _ => chip
    else if opcode = cmdWriteBuffer then
      match params with
      | 0 :: payload => { chip with buffer := payload ++ chip.buffer.drop payload.length }
      | _ => chip
    else if opcode = cmdClrIrqStatus then { chip with flagged := chip.flagged && params != [0xFF, 0xFF] }
    else if opcode = cmdSetTx ∨ opcode = cmdSetRx then { chip.set opcode params with flagged := true }
    else chip.set opcode params

end Chip

/-- The chip at a SetTx, and what the driver was to send. -/
structure Transmission where
  ready : Bool
  chip : Chip
  tuning : Tuning
  payload : Bytes

/-- The chip at a SetRx. `tuning` is the last one asked for, if it was applied whole. -/
structure Listening where
  ready : Bool
  chip : Chip
  tuning : Option Tuning

/-- The driver's fields and the chip. The fields from `ready` on are for the statements only; `ready` says that
the last `init` of this process returned. -/
structure Driver where
  isOpen : Bool := true
  txCfg : Tuning := ⟨loraFrequency, loraSpreadingFactor, loraBandwidth⟩
  alert : Bool := false
  lastRssi : Int := -120
  lastSnr : Rat := 0
  chip : Chip
  ready : Bool := false
  tuned : Option Tuning := none
  payload : Bytes := []
  aired : List Transmission := []
  listened : List Listening := []

namespace Driver

def new (chip : Chip) : Driver := { chip }

def transfer (driver : Driver) (data : Bytes) : Driver :=
  { driver with
    chip := driver.chip.command data
    aired := if data.head? = some cmdSetTx then
        driver.aired ++ [⟨driver.ready, driver.chip, driver.txCfg, driver.payload⟩] else driver.aired
    listened := if data.head? = some cmdSetRx then
        driver.listened ++ [⟨driver.ready, driver.chip, driver.tuned⟩] else driver.listened }

/-- The process dies and starts again. The chip keeps what it has. -/
def restart (driver : Driver) : Driver :=
  { new driver.chip with aired := driver.aired, listened := driver.listened }

end Driver

/-- What the driver waits for. `waitBusy` and `awaitDio1` stand for the polling and the event with
their timeouts. -/
inductive Call where
  | xfer2 (data : Bytes)
  | waitBusy
  | reset
  | claimAlert
  | cancelAlert
  | releaseGpio
  | closeSpi
  | awaitDio1

/-- A transfer that answers `none` raised after the chip had the bytes, a reset after its line had fallen. -/
abbrev Call.Answer : Call → Type
  | xfer2 _ => Option Bytes
  | reset => Option Unit
  | waitBusy => Bool
  | awaitDio1 => Bool
  | _ => Unit

abbrev Program (α : Type) := Prog Driver Call.Answer α

open Prog

section Programs

def xfer (data : Bytes) : Program Bytes := do
  if ← inspect fun driver : Driver => driver.isOpen then
    orRaise (← invoke (A := Call.Answer) (.xfer2 data))
  else raise

def waitBusy : Program Bool := invoke (A := Call.Answer) .waitBusy

def cmd (opcode : UInt8) (params : Bytes) : Program Unit := do
  let _ ← xfer (opcode :: params)
  let _ ← waitBusy

/-- `_cmd` with the wait that follows it at most places. -/
def cmdWait (opcode : UInt8) (params : Bytes) : Program Unit := do
  cmd opcode params
  let _ ← waitBusy

def writeRegister (address : Nat) (value : UInt8) : Program Unit := do
  let _ ← xfer (cmdWriteRegister :: word16 address ++ [value])
  let _ ← waitBusy

def readRegister (address : Nat) : Program UInt8 := do
  let resp ← xfer (cmdReadRegister :: word16 address ++ [0x00, 0x00])
  orRaise resp[4]?

def setFrequency (freqHz : Nat) : Program Unit := do
  let freqReg ← orRaise (frequencyWord freqHz)
  cmdWait cmdSetRfFrequency (word32 freqReg)

def tune (tuning : Tuning) : Program Unit := do
  update fun driver : Driver => ({ driver with tuned := none }, ())
  setFrequency tuning.frequency
  cmdWait cmdSetModulationParams tuning.modulation
  update fun driver : Driver => ({ driver with tuned := some tuning }, ())

def applyTxConfig : Program Unit := do
  tune (← inspect fun driver : Driver => driver.txCfg)

def setTxConfig (tuning : Tuning) : Program Unit := do
  update fun driver : Driver => ({ driver with txCfg := tuning }, ())
  applyTxConfig

def setRxConfig (tuning : Tuning) : Program Unit := tune tuning

def setIqInverted (inverted : Bool) : Program Unit := do
  let value ← readRegister regIqPolarity
  writeRegister regIqPolarity (if inverted then value &&& ~~~0x04 else value ||| 0x04)

/-- The masks of the interrupts that reach DIO1. -/
def irqParams (mask : Nat) : Bytes := word16 mask ++ word16 mask ++ [0x00, 0x00, 0x00, 0x00]

def claimAlert : Program Unit := do
  if ← inspect fun driver : Driver => driver.alert then
    let _ ← attempt (A := Call.Answer) .cancelAlert
    update fun driver : Driver => ({ driver with alert := false }, ())
  invoke (A := Call.Answer) .claimAlert
  update fun driver : Driver => ({ driver with alert := true }, ())

def init : Program Unit := do
  update fun driver : Driver => ({ driver with ready := false, tuned := none }, ())
  orRaise (← invoke (A := Call.Answer) .reset)
  if !(← waitBusy) then raise
  cmdWait cmdSetRegulatorMode [0x01]
  cmdWait cmdSetDio3AsTcxoCtrl (0x03 :: word24 320)
  cmdWait cmdCalibrate [0x7F]
  cmdWait cmdCalibrateImage [0xE1, 0xE9]
  cmdWait cmdSetStandby [stdbyXosc]
  cmdWait cmdSetPacketType [0x01]
  cmdWait cmdSetDio2AsRfSwitchCtrl [0x01]
  applyTxConfig
  cmdWait cmdSetPaConfig loraPaConfig
  cmdWait cmdSetTxParams [loraTxPower, 0x04]
  writeRegister regLoraSyncWordMsb (.ofNat (loraSyncWord / 2 ^ 8))
  writeRegister regLoraSyncWordLsb (.ofNat loraSyncWord)
  cmdWait cmdSetBufferBaseAddr [0x00, 0x80]
  cmdWait cmdSetDioIrqParams (irqParams irqTxDone)
  claimAlert
  update fun driver : Driver => ({ driver with ready := true }, ())

def standby : Program Unit := cmdWait cmdSetStandby [stdbyXosc]

def uplinkPacket (length : Nat) : Bytes :=
  word16 loraPreambleLen ++ [0x00, .ofNat length, 0x01, 0x00]

def downlinkPacket : Bytes := word16 loraPreambleLen ++ [0x00, 0xFF, 0x00, 0x01]

def send (data : Bytes) : Program Bool := do
  if 255 < data.length then raise
  update fun driver : Driver => ({ driver with payload := data }, ())
  applyTxConfig
  cmdWait cmdSetPacketParams (uplinkPacket data.length)
  setIqInverted false
  let _ ← xfer (cmdWriteBuffer :: 0x00 :: data)
  let _ ← waitBusy
  cmdWait cmdSetDioIrqParams (irqParams irqTxDone)
  cmdWait cmdClrIrqStatus [0xFF, 0xFF]
  cmd cmdSetTx [0x00, 0x00, 0x00]
  let done ← invoke (A := Call.Answer) .awaitDio1
  if !done then standby
  pure done

def getIrqStatus : Program Nat := do
  let resp ← xfer [cmdGetIrqStatus, 0x00, 0x00, 0x00]
  let _ ← waitBusy
  pure ((resp.getD 2 0).toNat * 2 ^ 8 + (resp.getD 3 0).toNat)

def readRssi : Program Int := do
  let resp ← xfer [cmdGetPacketStatus, 0x00, 0x00, 0x00, 0x00]
  let _ ← waitBusy
  let snrRaw : Int := (resp.getD 3 0).toNat
  update fun driver : Driver =>
    ({ driver with lastSnr := ((if 128 ≤ snrRaw then snrRaw - 256 else snrRaw : Int) : Rat) / 4 }, ())
  pure (-((resp.getD 2 0).toNat / 2 : Nat))

def readPacket : Program (Option Bytes) := do
  let status ← xfer [cmdGetRxBufferStatus, 0x00, 0x00, 0x00]
  let _ ← waitBusy
  let payloadLen := (status.getD 2 0).toNat
  if payloadLen = 0 then pure none
  else
    let rxData ← xfer (cmdReadBuffer :: status.getD 3 0 :: 0x00 :: List.replicate payloadLen 0x00)
    let _ ← waitBusy
    let rssi ← readRssi
    update fun driver : Driver => ({ driver with lastRssi := rssi }, ())
    standby
    pure (some (slice rxData 3 (3 + payloadLen)))

def receive (timeoutS : Rat) : Program (Option Bytes) := do
  cmdWait cmdSetPacketParams downlinkPacket
  setIqInverted true
  cmdWait cmdSetDioIrqParams (irqParams (irqRxDone ||| irqTimeout))
  cmdWait cmdClrIrqStatus [0xFF, 0xFF]
  let rxTimeout ← orRaise (Double.ofRat (timeoutS * 64000)).trunc
  cmd cmdSetRx (word24 rxTimeout)
  let woken ← invoke (A := Call.Answer) .awaitDio1
  if !woken then
    standby
    pure none
  else
    let irq ← getIrqStatus
    if irq &&& irqRxDone = 0 then
      standby
      pure none
    else readPacket

def close : Program Unit := do
  if ← inspect fun driver : Driver => driver.alert then
    let _ ← attempt (A := Call.Answer) .cancelAlert
    update fun driver : Driver => ({ driver with alert := false }, ())
  let _ ← attempt (A := Call.Answer) .releaseGpio
  if ← inspect fun driver : Driver => driver.isOpen then
    invoke (A := Call.Answer) .closeSpi
    update fun driver : Driver => ({ driver with isOpen := false }, ())

end Programs

/-- What the radio is used for, in any order. -/
inductive Job where
  | init
  | setTxConfig (tuning : Tuning)
  | setRxConfig (tuning : Tuning)
  | send (data : Bytes)
  | receive (timeoutS : Rat)
  | close

def Job.program : Job → Program Unit
  | .init => Sx1262.init
  | .setTxConfig tuning => Sx1262.setTxConfig tuning
  | .setRxConfig tuning => Sx1262.setRxConfig tuning
  | .send data => do let _ ← Sx1262.send data
  | .receive timeoutS => do let _ ← Sx1262.receive timeoutS
  | .close => Sx1262.close

def Call.perform : (call : Call) → Option call.Answer → Driver → Driver
  | xfer2 data, some _, driver => driver.transfer data
  | reset, some _, driver => { driver with chip := {} }
  | _, _, driver => driver

/-- Every call may have any answer, and the process may die wherever it waits. -/
def radio : System Driver Call.Answer Job Empty where
  program := Job.program
  starts _ _ := true
  perform := Call.perform
  answers _ _ _ := true
  effect _ driver := driver
  permits _ _ := false
  restart := Driver.restart
  crashes _ := true

end Sx1262

end Wqm1.Radio
