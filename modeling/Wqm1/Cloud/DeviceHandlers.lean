import Wqm1.Cloud.DeviceCommands
import Wqm1.Cloud.Rs485Config
import Wqm1.Sensing.PhSensor

/-! The handlers of the device commands: what a payload asks for, the pH calibration that its
steps build up, and the calls of the hardware. -/

set_option autoImplicit false

namespace Wqm1.Cloud

open Wqm1.Library Wqm1.Sensing Rs485

abbrev Payload := Dict String Yaml

inductive Refusal where
  | rejected (message : String)
  | raised (text : String)

def Refusal.execution : Refusal → Execution Payload
  | rejected message => .rejected message
  | raised text => .raised text

/-- A check that ends the handler or goes on with a value. -/
abbrev Checked (α : Type) := Except Refusal α

/-- A call of `CommandHardware`; the operations on RS485 sensors are one case. -/
inductive HardwareCall where
  | readPhAdcVolts
  | applyAnalogPh (vPh4 vPh7 : Rat)
  | calibrateRs485PhPoint (buffer : String)
  | rs485 (sensor : WireSensor) (op : Rs485Op)

/-- How the hardware would answer during one command, and the time of the result. What
`apply_analog_ph` returns is read at once, so `applied` is its two numbers or an exception. -/
structure Hardware where
  volts : Nat → Except String Double
  applied : Except String (Double × Double)
  point : Except String Unit
  sensors : Except String Yaml
  measuredAt : String

def phKeys : List String := ["step", "probe", "buffer"]
def phSteps : List String := ["start", "point", "finish"]
def phProbes : List String := ["analog", "rs485_multi"]
def rs485Keys : List String := ["op", "sensor", "address", "newAddress", "enabled"]
def rs485Ops : List String := ["add", "set_address", "enable", "disable"]
def analogBuffers : List Rat := [4, 7]
def rs485BufferLabels : List (Rat × String) := [(9.18, "9.18"), (6.86, "6.86"), (4.01, "4.01")]
def analogPointReads : Nat := 5
def analogPointMaxSpreadV : Rat := 0.02

def overflowText : String := "int too large to convert to float"

/-- `value not in ...` of a set of strings, which raises for a list or an object. -/
def oneOf (allowed : List String) (message : String) : Option Yaml → Checked String
  | some (.text word) => if word ∈ allowed then .ok word else .error (.rejected message)
  | some (.seq _) => .error (.raised "unhashable type: 'list'")
  | some (.mapping _) => .error (.raised "unhashable type: 'dict'")
  | _ => .error (.rejected message)

inductive PhProbe where
  | analog
  | rs485Multi
deriving DecidableEq

def roundedLabel (probe : PhProbe) (value : Rat) : Checked (Rat × String) :=
  let rounded := roundTo 2 value
  match probe with
  | .analog =>
      if rounded ∈ analogBuffers then .ok (rounded, printFixed 1 rounded)
      else .error (.rejected "buffer not allowed for analog")
  | .rs485Multi =>
      match rs485BufferLabels.lookup rounded with
      | some label => .ok (rounded, label)
      | none => .error (.rejected "buffer not allowed for rs485_multi")

def bufferLabel (probe : PhProbe) : Option Yaml → Checked (Rat × String)
  | some (.int number) =>
      match Double.ofInt number with
      | some (.finite value) => roundedLabel probe value
      | _ => .error (.raised overflowText)
  | some (.float (.finite value)) => roundedLabel probe value
  | some (.float _) => .error (.rejected "non-finite number")
  | _ => .error (.rejected "buffer must be a number")

/-- A payload of `ph_calibrate` that passes every check of its own. -/
inductive PhRequest where
  | start (probe : PhProbe)
  | point (probe : PhProbe) (buffer : Rat) (label : String)
  | finish (probe : PhProbe)
deriving DecidableEq

def phRequest (payload : Payload) : Checked PhRequest :=
  match unexpected payload.keys phKeys with
  | some message => .error (.rejected message)
  | none =>
    (oneOf phSteps "unknown step" (payload.get "step")).bind fun step =>
      (oneOf phProbes "unknown probe" (payload.get "probe")).bind fun named =>
        let probe := if named = "analog" then PhProbe.analog else .rs485Multi
        if step = "point" then
          (bufferLabel probe (payload.get "buffer")).map fun buffer => .point probe buffer.1 buffer.2
        else if (payload.get "buffer").isSome then
          .error (.rejected "buffer is only valid for point")
        else
          .ok (if step = "start" then .start probe else .finish probe)

/-- The calibrations under way, one for each probe. -/
structure PhCalibration where
  analogVolts : Dict Rat Rat := .empty
  rs485Buffers : List Rat := []
  analogStarted : Bool := false
  rs485Started : Bool := false

structure Handling where
  calibration : PhCalibration
  execution : Execution Payload
  calls : List HardwareCall := []

/-- The samples of one burst; the first one that is not finite ends it. -/
def readSamples (volts : Nat → Except String Double) : List Nat → Checked (List Rat)
  | [] => .ok []
  | read :: rest =>
    match volts read with
    | .error text => .error (.raised text)
    | .ok (.finite sample) => (readSamples volts rest).map fun samples => sample :: samples
    | .ok _ => .error (.rejected "non-finite number")

def sampleCalls (volts : Nat → Except String Double) : List Nat → List HardwareCall
  | [] => []
  | read :: rest =>
    .readPhAdcVolts ::
      match volts read with
      | .ok (.finite _) => sampleCalls volts rest
      | _ => []

def readAnalogPoint (volts : Nat → Except String Double) : Checked Rat :=
  (readSamples volts (List.range analogPointReads)).bind fun samples =>
    if analogPointMaxSpreadV < PhSensor.span samples then .error (.rejected "voltage not stable")
    else .ok (median samples)

def bufferList (buffers : List Rat) : Yaml := .seq (buffers.map fun buffer => .float (.finite buffer))

namespace PhCalibration

variable (calibration : PhCalibration) (hardware : Hardware)

def buffersResult (buffers : List Rat) : Payload :=
  Dict.ofList [("buffers", bufferList buffers), ("measuredAt", .text hardware.measuredAt)]

def finishResult (slope offset : Yaml) (buffers : List Rat) : Payload :=
  Dict.ofList [("slope", slope), ("offset", offset), ("buffers", bufferList buffers),
    ("measuredAt", .text hardware.measuredAt)]

def started : PhProbe → Bool
  | .analog => calibration.analogStarted
  | .rs485Multi => calibration.rs485Started

def start : PhProbe → PhCalibration
  | .analog => { calibration with analogVolts := .empty, analogStarted := true }
  | .rs485Multi => { calibration with rs485Buffers := [], rs485Started := true }

def stored (label : String) (buffers : List Rat) : Execution Payload :=
  .applied ("pH " ++ label ++ " point stored") (some (buffersResult hardware buffers))

def analogPoint (buffer : Rat) (label : String) : Handling :=
  let calls := sampleCalls hardware.volts (List.range analogPointReads)
  match readAnalogPoint hardware.volts with
  | .error refusal => { calibration, execution := refusal.execution, calls }
  | .ok volts =>
    let analogVolts := calibration.analogVolts.set buffer volts
    { calibration := { calibration with analogVolts }
      execution := stored hardware label (analogVolts.keys.insertionSort (· ≤ ·))
      calls }

def rs485Point (buffer : Rat) (label : String) : Handling :=
  let calls := [HardwareCall.calibrateRs485PhPoint label]
  match hardware.point with
  | .error text => { calibration, execution := .raised text, calls }
  | .ok () =>
    let rs485Buffers :=
      if buffer ∈ calibration.rs485Buffers then calibration.rs485Buffers else calibration.rs485Buffers ++ [buffer]
    { calibration := { calibration with rs485Buffers }, execution := stored hardware label rs485Buffers, calls }

def finishAnalog : Handling :=
  match calibration.analogVolts.get 4, calibration.analogVolts.get 7 with
  | some v4, some v7 =>
    if |v7 - v4| < 0.001 then { calibration, execution := .rejected "voltages too close" }
    else
      let calls := [HardwareCall.applyAnalogPh v4 v7]
      match hardware.applied with
      | .error text => { calibration, execution := .raised text, calls }
      | .ok (slope, offset) =>
        { calibration := { calibration with analogVolts := .empty, analogStarted := false }
          execution := .applied "pH calibration applied"
            (some (finishResult hardware (.float slope) (.float offset) [4, 7]))
          calls }
  | _, _ => { calibration, execution := .rejected "missing calibration points" }

def finishRs485 : Handling :=
  if calibration.rs485Buffers = [] then { calibration, execution := .rejected "missing calibration points" }
  else
    { calibration := { calibration with rs485Buffers := [], rs485Started := false }
      execution := .applied "pH calibration applied"
        (some (finishResult hardware .null .null calibration.rs485Buffers)) }

def handle (request : PhRequest) : Handling :=
  match request with
  | .start probe =>
    { calibration := calibration.start probe
      execution := .applied "calibration started" (some (buffersResult hardware [])) }
  | .point probe buffer label =>
    if !calibration.started probe then { calibration, execution := .rejected "calibration has not started" }
    else
      match probe with
      | .analog => calibration.analogPoint hardware buffer label
      | .rs485Multi => calibration.rs485Point hardware buffer label
  | .finish probe =>
    if !calibration.started probe then { calibration, execution := .rejected "calibration has not started" }
    else
      match probe with
      | .analog => calibration.finishAnalog hardware
      | .rs485Multi => calibration.finishRs485 hardware

def phCalibrate (payload : Payload) : Handling :=
  match phRequest payload with
  | .error refusal => { calibration, execution := refusal.execution }
  | .ok request => calibration.handle hardware request

end PhCalibration

def WireSensor.ofName : String → Option WireSensor
  | "residual_chlorine" => some .residualChlorine
  | "RD-ORP-WE-01" => some .rdOrpWe01
  | "RD-PETSTS-01" => some .rdPetsts01
  | _ => none

def addressInRange (key : String) (address : Int) : Checked ModbusAddr :=
  if range : 1 ≤ address ∧ address ≤ 247 then .ok ⟨address, range.1, range.2⟩
  else .error (.rejected (key ++ " must be 1-247"))

def modbusAddr (payload : Payload) (key : String) : Checked ModbusAddr :=
  match payload.get key with
  | none => .error (.rejected ("missing " ++ key))
  | some (.int number) =>
      if floatOverflows number then .error (.raised overflowText) else addressInRange key number
  | some (.float (.finite number)) =>
      if number.isInt then addressInRange key number.num
      else .error (.rejected (key ++ " must be an integer"))
  | some (.float _) => .error (.rejected "non-finite number")
  | some _ => .error (.rejected (key ++ " must be a number"))

/-- The check of `enabled`, which may only repeat what the operation says. -/
def checkEnabled (op : String) : Option Yaml → Checked Unit
  | none => .ok ()
  | some .null => .ok ()
  | some (.bool enabled) =>
      if op = "enable" ∧ enabled = false then .error (.rejected "enabled must be true for enable")
      else if op = "disable" ∧ enabled = true then .error (.rejected "enabled must be false for disable")
      else .ok ()
  | some _ => .error (.rejected "enabled must be a boolean")

/-- What a payload of `rs485_config` asks of the hardware. -/
def rs485Request (payload : Payload) : Checked (WireSensor × Rs485Op) :=
  match unexpected payload.keys rs485Keys with
  | some message => .error (.rejected message)
  | none =>
    (oneOf rs485Ops "unknown op" (payload.get "op")).bind fun op =>
      match payload.get "sensor" with
      | some (.text name) =>
        match WireSensor.ofName name with
        | none => .error (.rejected "sensor not allowed")
        | some sensor =>
          if op = "add" then
            (modbusAddr payload "address").map fun address => (sensor, .add address)
          else if op = "set_address" then
            (modbusAddr payload "address").bind fun address =>
              (modbusAddr payload "newAddress").map fun newAddress => (sensor, .setAddress address newAddress)
          else
            (checkEnabled op (payload.get "enabled")).bind fun _ =>
              let request := if op = "enable" then Rs485Op.enable else .disable
              if (payload.get "address").isSome then
                (modbusAddr payload "address").map fun address => (sensor, request (some address))
              else
                .ok (sensor, request none)
      | _ => .error (.rejected "sensor not allowed")

def Rs485Op.message : Rs485Op → String
  | .add _ => "RS485 sensor added"
  | .setAddress _ _ => "RS485 address set"
  | .enable _ => "RS485 sensor enabled"
  | .disable _ => "RS485 sensor disabled"

/-- `_rs485_config`, by how it ends and what it calls. -/
def rs485Config (hardware : Hardware) (payload : Payload) : Execution Payload × List HardwareCall :=
  match rs485Request payload with
  | .error refusal => (refusal.execution, [])
  | .ok (sensor, op) =>
    (match hardware.sensors with
      | .error text => .raised text
      | .ok sensors => .applied (Rs485Op.message op) (some (Dict.ofList [("sensors", sensors)])),
      [.rs485 sensor op])

structure CommandDevice where
  dispatcher : Dispatcher Payload := {}
  calibration : PhCalibration := {}

structure Applied where
  device : CommandDevice
  outcome : Except String (CommandOutcome Payload)
  calls : List HardwareCall := []

namespace CommandDevice

variable (device : CommandDevice) (hardware : Hardware)

def execute (type : JsonValue Payload) (payload : Payload) : Handling :=
  match type with
  | .text "ph_calibrate" => device.calibration.phCalibrate hardware payload
  | _ =>
    let configured := rs485Config hardware payload
    { calibration := device.calibration, execution := configured.1, calls := configured.2 }

/-- The handler runs for an object as payload only. -/
def handling (command : DeviceCommand Payload) : Handling :=
  match command.payload with
  | .object payload => device.execute hardware command.type payload
  | _ => { calibration := device.calibration, execution := .rejected "payload must be an object" }

/-- `apply` of a pending command of any shape. What the handler would do counts only where the
dispatcher calls it. -/
def apply (isoMs : String → Option Int) (command : JsonValue (DeviceCommand Payload)) (readings : Readings) : Applied :=
  match command with
  | .object command =>
    let handling := device.handling hardware command
    let application := device.dispatcher.apply isoMs command readings handling.execution
    if application.executed then
      { device := ⟨application.dispatcher, handling.calibration⟩, outcome := application.outcome,
        calls := handling.calls }
    else
      { device := ⟨application.dispatcher, device.calibration⟩, outcome := application.outcome }
  | _ => { device, outcome := .ok (rejected "command must be an object") }

end CommandDevice

end Wqm1.Cloud
