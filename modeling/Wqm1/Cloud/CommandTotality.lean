import Wqm1.Cloud.CalibrationProtocol
import Wqm1.Cloud.CommandOnce

/-! A pending command of any shape: when its application ends with an outcome, and that a
command which is not valid reaches no hardware. -/

set_option autoImplicit false

namespace Wqm1.Cloud

open Wqm1.Library Wqm1.Sensing Rs485

variable {isoMs : String → Option Int}

def PhProbe.buffers : PhProbe → List Rat
  | analog => analogBuffers
  | rs485Multi => rs485BufferLabels.map Prod.fst

/-- A number that comes to one of the buffers of the probe. -/
def AllowedBuffer (probe : PhProbe) (field : Option Yaml) : Prop :=
  ∃ given value, field = some given ∧ ReadsAs given value ∧ roundTo 2 value ∈ probe.buffers

structure ValidPh (payload : Payload) : Prop where
  fields : ∀ key ∈ payload.keys, key ∈ phKeys
  shape : ∃ step ∈ phSteps, ∃ probe : PhProbe, payload.get "step" = some (.text step) ∧
    payload.get "probe" = some (.text probe.name) ∧
    if step = "point" then AllowedBuffer probe (payload.get "buffer") else payload.get "buffer" = none

def ValidAddress (field : Option Yaml) : Prop :=
  ∃ address : Int, (field = some (.int address) ∨ field = some (.float (.finite address))) ∧
    1 ≤ address ∧ address ≤ 247

/-- `enabled` may be there only to say what the operation says. -/
def ValidEnabled (op : String) (field : Option Yaml) : Prop :=
  field = none ∨ field = some .null ∨ field = some (.bool (op = "enable"))

structure ValidRs485 (payload : Payload) : Prop where
  fields : ∀ key ∈ payload.keys, key ∈ rs485Keys
  shape : ∃ op ∈ rs485Ops, payload.get "op" = some (.text op) ∧
    (∃ name, payload.get "sensor" = some (.text name) ∧ (WireSensor.ofName name).isSome) ∧
    (op = "add" → ValidAddress (payload.get "address")) ∧
    (op = "set_address" → ValidAddress (payload.get "address") ∧ ValidAddress (payload.get "newAddress")) ∧
    (op = "enable" ∨ op = "disable" → ValidEnabled op (payload.get "enabled") ∧
      (payload.get "address" = none ∨ ValidAddress (payload.get "address")))

/-- A command that passes validation at a time. -/
structure ValidCommand (isoMs : String → Option Int) (command : DeviceCommand Payload) (now : Int) : Prop where
  id : ∃ id, command.id = .text id ∧ id ≠ ""
  fields : ∀ key ∈ command.keys, key ∈ commandKeys
  expiry : ∃ expiresAt, parseExpiresAtMs isoMs command.expiresAt = some (some expiresAt) ∧ now < expiresAt
  payload : ∃ payload, command.payload = .object payload ∧
    (command.type = .text "ph_calibrate" ∧ ValidPh payload ∨ command.type = .text "rs485_config" ∧ ValidRs485 payload)

def ValidPending (isoMs : String → Option Int) (command : JsonValue (DeviceCommand Payload)) (now : Int) : Prop :=
  ∃ inner, command = .object inner ∧ ValidCommand isoMs inner now

/-- The command has an id without an outcome that is kept, and its expiry is an integer
that no float can hold. -/
def UnreadableExpiry (device : CommandDevice) (command : JsonValue (DeviceCommand Payload)) (readings : Readings) :
    Prop :=
  ∃ inner id number, command = .object inner ∧ inner.id = .text id ∧ id ≠ "" ∧
    (¬∃ row, device.dispatcher.handled.get id = some row ∧ readings.evict < row.expiresAtMs) ∧
    inner.expiresAt = .integer number ∧ floatOverflows number

/-- The application ends with an outcome, and without a call of the hardware where the
command is not valid. -/
def Answers (isoMs : String → Option Int) (device : CommandDevice) (command : JsonValue (DeviceCommand Payload))
    (readings : Readings) (hardware : Hardware) : Prop :=
  (∃ outcome, (device.apply hardware isoMs command readings).outcome = .ok outcome) ∧
    (¬ValidPending isoMs command readings.check → (device.apply hardware isoMs command readings).calls = [])

theorem smallest_eq_none {words : List String} : smallest words = none ↔ words = [] := by
  cases words with
  | nil => exact iff_of_true rfl rfl
  | cons head rest =>
      unfold smallest
      split <;> simp

theorem unexpected_eq_none {keys allowed : List String} :
    unexpected keys allowed = none ↔ ∀ key ∈ keys, key ∈ allowed := by
  unfold unexpected
  rw [Option.map_eq_none_iff, smallest_eq_none, List.filter_eq_nil_iff]
  simp

theorem roundedLabel_allowed {probe : PhProbe} {value : Rat} {found : Rat × String}
    (accepted : roundedLabel probe value = .ok found) : roundTo 2 value ∈ probe.buffers := by
  unfold roundedLabel at accepted
  cases probe with
  | analog =>
      dsimp only at accepted
      split at accepted
      next listed => exact listed
      next => cases accepted
  | rs485Multi =>
      dsimp only at accepted
      split at accepted
      next label labelled =>
        by_contra unlisted
        cases labelled.symm.trans (Dict.lookup_eq_none unlisted)
      next => cases accepted

theorem bufferLabel_allowed {probe : PhProbe} {field : Option Yaml} {found : Rat × String}
    (buffered : bufferLabel probe field = .ok found) : AllowedBuffer probe field := by
  unfold bufferLabel at buffered
  split at buffered
  next number =>
    split at buffered
    next value converted => exact ⟨_, value, rfl, .int converted, roundedLabel_allowed buffered⟩
    next => cases buffered
  next value => exact ⟨_, value, rfl, .float value, roundedLabel_allowed buffered⟩
  next => cases buffered
  next => cases buffered

theorem phRequest_valid {payload : Payload} {request : PhRequest} (asked : phRequest payload = .ok request) :
    ValidPh payload := by
  obtain ⟨expected, requests, blank⟩ := phRequest_cases asked
  refine ⟨unexpected_eq_none.mp expected, ?_⟩
  cases requests with
  | start probe step named =>
      refine ⟨"start", by decide, probe, step, named, ?_⟩
      rw [if_neg (by decide)]
      exact blank probe (.inl rfl)
  | point probe buffer label step named buffered =>
      refine ⟨"point", by decide, probe, step, named, ?_⟩
      rw [if_pos rfl]
      exact bufferLabel_allowed buffered
  | finish probe step named =>
      refine ⟨"finish", by decide, probe, step, named, ?_⟩
      rw [if_neg (by decide)]
      exact blank probe (.inr rfl)

theorem modbusAddr_valid {payload : Payload} {key : String} {address : ModbusAddr}
    (parsed : modbusAddr payload key = .ok address) : ValidAddress (payload.get key) := by
  have ranged {number : Int} (inside : addressInRange key number = .ok address) : 1 ≤ number ∧ number ≤ 247 := by
    unfold addressInRange at inside
    split at inside
    next range => exact range
    next => cases inside
  unfold modbusAddr at parsed
  split at parsed
  next => cases parsed
  next number found =>
    split at parsed
    next => cases parsed
    next => exact ⟨number, .inl found, ranged parsed⟩
  next number found =>
    split at parsed
    next whole =>
      refine ⟨number.num, .inr ?_, ranged parsed⟩
      rw [found]
      exact congrArg (fun value => some (Yaml.float (.finite value))) (Rat.eq_num_of_isInt whole)
    next => cases parsed
  next => cases parsed
  next => cases parsed

theorem checkEnabled_valid {op : String} {field : Option Yaml} (checked : checkEnabled op field = .ok ())
    (either : op = "enable" ∨ op = "disable") : ValidEnabled op field := by
  unfold checkEnabled at checked
  split at checked
  next => exact .inl rfl
  next => exact .inr (.inl rfl)
  next enabled =>
    refine .inr (.inr ?_)
    split at checked
    next => cases checked
    next notOff =>
      split at checked
      next => cases checked
      next notOn =>
        obtain same | same := either <;> cases enabled <;> simp_all
  next => cases checked

theorem rs485Request_valid {payload : Payload} {request : WireSensor × Rs485Op}
    (asked : rs485Request payload = .ok request) : ValidRs485 payload := by
  unfold rs485Request at asked
  split at asked
  next => cases asked
  next expected =>
    refine ⟨unexpected_eq_none.mp expected, ?_⟩
    obtain ⟨op, found, asked⟩ := bind_eq_ok.mp asked
    obtain ⟨op_eq, op_mem⟩ := oneOf_eq_ok found
    refine ⟨op, op_mem, op_eq, ?_⟩
    split at asked
    next name named =>
      split at asked
      next => cases asked
      next sensor known =>
        refine ⟨⟨name, named, by rw [known]; rfl⟩, ?_⟩
        split at asked
        next adds =>
          obtain ⟨address, parsed, -⟩ := map_eq_ok.mp asked
          subst adds
          exact ⟨fun _ => modbusAddr_valid parsed, by simp, by simp⟩
        next =>
          split at asked
          next moves =>
            obtain ⟨address, parsed, asked⟩ := bind_eq_ok.mp asked
            obtain ⟨newAddress, parsedNew, -⟩ := map_eq_ok.mp asked
            subst moves
            exact ⟨by simp, fun _ => ⟨modbusAddr_valid parsed, modbusAddr_valid parsedNew⟩, by simp⟩
          next notAdd notMove =>
            obtain ⟨_, checked, asked⟩ := bind_eq_ok.mp asked
            refine ⟨fun adds => absurd adds notAdd, fun moves => absurd moves notMove,
              fun either => ⟨checkEnabled_valid checked either, ?_⟩⟩
            dsimp only at asked
            split at asked
            next =>
              obtain ⟨address, parsed, -⟩ := map_eq_ok.mp asked
              exact .inr (modbusAddr_valid parsed)
            next absent => exact .inl (by simpa using absent)
    next => cases asked

/-- A command that is executed has passed the checks of the dispatcher. -/
theorem screen_none {command : DeviceCommand Payload} {now : Int} (passed : screen isoMs command now = none) :
    (∀ key ∈ command.keys, key ∈ commandKeys) ∧ (∃ type ∈ commandTypes, command.type = .text type) ∧
      ∃ payload, command.payload = .object payload := by
  unfold screen at passed
  split at passed
  next => cases passed
  next expected =>
    refine ⟨unexpected_eq_none.mp expected, ?_⟩
    split at passed
    next type typed =>
      split at passed
      next => cases passed
      next =>
        split at passed
        next => cases passed
        next known =>
          refine ⟨⟨type, Decidable.not_not.mp known, typed⟩, ?_⟩
          split at passed
          next => cases passed
          next =>
            split at passed
            next =>
              split at passed
              next => cases passed
              next =>
                split at passed
                next payload found => exact ⟨payload, found⟩
                next => cases passed
            next => cases passed
    next => cases passed

/-- A handler that calls the hardware has a valid payload. -/
theorem execute_valid {device : CommandDevice} {hardware : Hardware} {type : JsonValue Payload} {payload : Payload}
    (typed : ∃ word ∈ commandTypes, type = .text word) (called : (device.execute hardware type payload).calls ≠ []) :
    type = .text "ph_calibrate" ∧ ValidPh payload ∨ type = .text "rs485_config" ∧ ValidRs485 payload := by
  obtain ⟨word, listed, same⟩ := typed
  rw [same] at called ⊢
  by_cases ph : word = "ph_calibrate"
  · subst ph
    refine .inl ⟨rfl, ?_⟩
    cases asked : phRequest payload with
    | ok request => exact phRequest_valid asked
    | error refusal =>
        refine absurd ?_ called
        show (device.calibration.phCalibrate hardware payload).calls = []
        unfold PhCalibration.phCalibrate
        rw [asked]
  · have rs485 : word = "rs485_config" := by simpa [commandTypes, ph] using listed
    subst rs485
    refine .inr ⟨rfl, ?_⟩
    cases asked : rs485Request payload with
    | ok request => exact rs485Request_valid asked
    | error refusal =>
        refine absurd ?_ called
        show (rs485Config hardware payload).2 = []
        unfold rs485Config
        rw [asked]

theorem keepUntilMs_overflows_iff {raw : JsonValue Payload} {now : Int} :
    keepUntilMs isoMs raw now = none ↔ ∃ number, raw = .integer number ∧ floatOverflows number := by
  unfold keepUntilMs parseExpiresAtMs finiteMs
  cases raw with
  | integer number => by_cases huge : floatOverflows number <;> simp [huge]
  | real value => by_cases huge : floatOverflows (truncate value) <;> simp [huge]
  | null | bool value | nonFinite | text value | array | object value => simp

theorem commandId_eq_some {raw : JsonValue Payload} {id : String} :
    Dispatcher.commandId raw = some id ↔ raw = .text id ∧ id ≠ "" := by
  unfold Dispatcher.commandId
  cases raw with
  | text word =>
      by_cases empty : word = ""
      · simp only [if_pos empty, JsonValue.text.injEq]
        exact iff_of_false nofun fun both => both.2 (both.1 ▸ empty)
      · simp only [if_neg empty, Option.some.injEq, JsonValue.text.injEq]
        exact ⟨fun same => ⟨same, same ▸ empty⟩, And.left⟩
  | null | bool value | integer value | real value | nonFinite | array | object value => simp

section Apply

variable {device : CommandDevice} {hardware : Hardware} {readings : Readings}

theorem executed_passed {dispatcher : Dispatcher Payload} {command : DeviceCommand Payload}
    {execution : Execution Payload}
    (executed : (dispatcher.apply isoMs command readings execution).executed = true) :
    (∃ id, Dispatcher.commandId command.id = some id) ∧ screen isoMs command readings.check = none := by
  cases Dispatcher.apply_cases dispatcher command readings execution with
  | unnamed unnamed same =>
      rw [same] at executed
      cases executed
  | known id row named found same =>
      rw [same] at executed
      cases executed
  | overflows id named absent unusable same =>
      rw [same] at executed
      cases executed
  | handled id outcome keepUntil named absent keeps judged same =>
      rw [same] at executed
      exact ⟨⟨id, named⟩, Option.isNone_iff_eq_none.mp executed⟩

theorem calls_valid {command : JsonValue (DeviceCommand Payload)}
    (called : (device.apply hardware isoMs command readings).calls ≠ []) :
    ValidPending isoMs command readings.check := by
  unfold CommandDevice.apply at called
  cases command with
  | object command =>
      dsimp only at called
      split at called
      next executed =>
        obtain ⟨⟨id, named⟩, passed⟩ := executed_passed executed
        obtain ⟨fields, typed, payload, found⟩ := screen_none passed
        unfold CommandDevice.handling at called
        rw [found] at called
        exact ⟨command, rfl, ⟨id, commandId_eq_some.mp named⟩, fields, Dispatcher.expiry_of_screen passed, payload,
          found, execute_valid typed called⟩
      next => exact absurd rfl called
  | null | bool value | integer value | real value | nonFinite | text value | array => exact absurd rfl called

theorem outcome_object (isoMs : String → Option Int) (device : CommandDevice) (hardware : Hardware)
    (readings : Readings) (command : DeviceCommand Payload) : ∃ execution,
    (device.apply hardware isoMs (.object command) readings).outcome =
      (device.dispatcher.apply isoMs command readings execution).outcome := by
  unfold CommandDevice.apply
  dsimp only
  split
  next => exact ⟨_, rfl⟩
  next => exact ⟨_, rfl⟩

theorem get_evictExpired_eq_none {dispatcher : Dispatcher Payload} {now : Int} {id : String} :
    (dispatcher.evictExpired now).handled.get id = none ↔
      ¬∃ row, dispatcher.handled.get id = some row ∧ now < row.expiresAtMs := by
  rw [Option.eq_none_iff_forall_ne_some]
  constructor
  · intro absent held
    obtain ⟨row, found, early⟩ := held
    exact absent row (Dispatcher.get_evictExpired.mpr ⟨found, early⟩)
  · intro absent row found
    exact absent ⟨row, Dispatcher.get_evictExpired.mp found⟩

/-- An outcome comes back if and only if no integer that is too large is read as an expiry. -/
theorem outcome_iff_readable {command : JsonValue (DeviceCommand Payload)} :
    (∃ outcome, (device.apply hardware isoMs command readings).outcome = .ok outcome) ↔
      ¬UnreadableExpiry device command readings := by
  cases command with
  | object command =>
      obtain ⟨execution, same⟩ := outcome_object isoMs device hardware readings command
      rw [same]
      have readable (ends : ∃ id number, command.id = .text id ∧ id ≠ "" ∧
          (device.dispatcher.evictExpired readings.evict).handled.get id = none ∧
          command.expiresAt = .integer number ∧ floatOverflows number) :
          UnreadableExpiry device (.object command) readings := by
        obtain ⟨id, number, named, filled, absent, huge⟩ := ends
        exact ⟨command, id, number, rfl, named, filled, get_evictExpired_eq_none.mp absent, huge⟩
      have applies : Dispatcher.ApplyCases isoMs device.dispatcher command readings execution
          (device.dispatcher.apply isoMs command readings execution) :=
        Dispatcher.apply_cases device.dispatcher command readings execution
      cases applies with
      | unnamed unnamed same =>
          rw [same]
          refine iff_of_true ⟨_, rfl⟩ fun unreadable => ?_
          obtain ⟨inner, id, number, is, named, filled, absent, huge⟩ := unreadable
          cases is
          cases unnamed.symm.trans (commandId_eq_some.mpr ⟨named, filled⟩)
      | known id row named found same =>
          rw [same]
          refine iff_of_true ⟨_, rfl⟩ fun unreadable => ?_
          obtain ⟨inner, other, number, is, names, filled, absent, huge⟩ := unreadable
          cases is
          cases named.symm.trans (commandId_eq_some.mpr ⟨names, filled⟩)
          cases found.symm.trans (get_evictExpired_eq_none.mpr absent)
      | overflows id named absent unusable same =>
          rw [same]
          obtain ⟨number, integer, huge⟩ := keepUntilMs_overflows_iff.mp unusable
          obtain ⟨names, filled⟩ := commandId_eq_some.mp named
          exact iff_of_false nofun fun fine => fine (readable ⟨id, number, names, filled, absent, integer, huge⟩)
      | handled id outcome keepUntil named absent keeps judged same =>
          rw [same]
          refine iff_of_true ⟨_, rfl⟩ fun unreadable => ?_
          obtain ⟨inner, other, number, is, names, filled, missing, integer, huge⟩ := unreadable
          cases is
          cases keeps.symm.trans (keepUntilMs_overflows_iff.mpr ⟨number, integer, huge⟩)
  | null | bool value | integer value | real value | nonFinite | text value | array =>
      refine iff_of_true ⟨_, rfl⟩ fun unreadable => ?_
      obtain ⟨inner, id, number, is, named⟩ := unreadable
      cases is

end Apply

/-- The application answers if and only if it does not have to read an integer as an expiry
that is too large for a float. -/
theorem answers_iff_readable (isoMs : String → Option Int) (device : CommandDevice)
    (command : JsonValue (DeviceCommand Payload)) (readings : Readings) (hardware : Hardware) :
    Answers isoMs device command readings hardware ↔ ¬UnreadableExpiry device command readings := by
  unfold Answers
  rw [outcome_iff_readable]
  refine and_iff_left fun invalid => ?_
  by_contra called
  exact invalid (calls_valid called)

def hugeExpiry : DeviceCommand Payload where
  keys := ["id", "expiresAt"]
  id := .text "c1"
  type := .null
  expiresAt := .integer (2 ^ 1024)
  payload := .null

theorem hugeExpiry_unanswered (isoMs : String → Option Int) (readings : Readings) (hardware : Hardware) :
    ¬Answers isoMs {} (.object hugeExpiry) readings hardware := by
  intro answers
  obtain ⟨outcome, returned⟩ := answers.1
  have raises : keepUntilMs isoMs hugeExpiry.expiresAt readings.keepUntil = none :=
    keepUntilMs_overflows_iff.mpr ⟨2 ^ 1024, rfl, by decide +kernel⟩
  obtain ⟨execution, same⟩ := outcome_object isoMs {} hardware readings hugeExpiry
  rw [same] at returned
  unfold Dispatcher.apply at returned
  rw [raises] at returned
  cases returned

def bareHardware : Hardware where
  volts _ := .error "no sensor"
  applied := .error "no sensor"
  point := .error "no sensor"
  sensors := .error "no sensor"
  measuredAt := "1970-01-01T00:00:00Z"

/-- With an expiry of 2^1024 a new dispatcher raises. -/
theorem hugeExpiry_raises : ¬Answers (fun _ => none) {} (.object hugeExpiry) ⟨0, 0, 0, 0⟩ bareHardware :=
  hugeExpiry_unanswered _ _ _

/-- A pending command with the clock and the hardware that it meets. -/
structure CommandArrival where
  command : JsonValue (DeviceCommand Payload)
  readings : Readings
  hardware : Hardware

namespace CommandDevice

def calls (isoMs : String → Option Int) (device : CommandDevice) : List CommandArrival → List HardwareCall
  | [] => []
  | delivery :: rest =>
    let applied := device.apply delivery.hardware isoMs delivery.command delivery.readings
    applied.calls ++ applied.device.calls isoMs rest

/-- The calibration command that a delivery comes to, where the dispatcher executes it. -/
def calibrates (isoMs : String → Option Int) (device : CommandDevice) (delivery : CommandArrival) : Option PhCommand :=
  match delivery.command with
  | .object command =>
    match command.type, command.payload with
    | .text "ph_calibrate", .object payload =>
      if (device.dispatcher.apply isoMs command delivery.readings
          (device.handling delivery.hardware command).execution).executed then
        some ⟨payload, delivery.hardware⟩
      else none
    | _, _ => none
  | _ => none

def phCommands (isoMs : String → Option Int) (device : CommandDevice) : List CommandArrival → List PhCommand
  | [] => []
  | delivery :: rest =>
    (device.calibrates isoMs delivery).toList ++
      (device.apply delivery.hardware isoMs delivery.command delivery.readings).device.phCommands isoMs rest

end CommandDevice

theorem coefficients_rs485Config (hardware : Hardware) (payload : Payload) :
    (rs485Config hardware payload).2.filterMap HardwareCall.coefficients = [] := by
  unfold rs485Config
  split <;> rfl

/-- A delivery is a calibration command that is executed, or leaves the calibrations alone. -/
theorem apply_calibrates (isoMs : String → Option Int) (device : CommandDevice) (delivery : CommandArrival) :
    let applied := device.apply delivery.hardware isoMs delivery.command delivery.readings
    (∃ command, device.calibrates isoMs delivery = some command ∧
        applied.device.calibration = (device.calibration.phCalibrate command.hardware command.payload).calibration ∧
        applied.calls = (device.calibration.phCalibrate command.hardware command.payload).calls) ∨
      (device.calibrates isoMs delivery = none ∧ applied.device.calibration = device.calibration ∧
        applied.calls.filterMap HardwareCall.coefficients = []) := by
  unfold CommandDevice.calibrates CommandDevice.apply
  cases delivered : delivery.command with
  | object command =>
      dsimp only
      cases executed : (device.dispatcher.apply isoMs command delivery.readings
          (device.handling delivery.hardware command).execution).executed with
      | false =>
          refine .inr ⟨?_, rfl, rfl⟩
          split <;> rfl
      | true =>
          obtain ⟨named, passed⟩ := executed_passed executed
          obtain ⟨fields, ⟨word, listed, typed⟩, payload, found⟩ := screen_none passed
          have handled : device.handling delivery.hardware command =
              device.execute delivery.hardware (.text word) payload := by
            unfold CommandDevice.handling
            rw [found, ← typed]
          by_cases ph : word = "ph_calibrate"
          · subst ph
            rw [typed, found]
            refine .inl ⟨_, rfl, ?_⟩
            rw [if_pos rfl, handled]
            exact ⟨rfl, rfl⟩
          · have rs485 : word = "rs485_config" := by simpa [commandTypes, ph] using listed
            subst rs485
            rw [typed, if_pos rfl, handled]
            exact .inr ⟨rfl, rfl, coefficients_rs485Config delivery.hardware payload⟩
  | null | bool value | integer value | real value | nonFinite | text value | array => exact .inr ⟨rfl, rfl, rfl⟩

/-- In a run of the device the calls of `apply_analog_ph` are those of the calibration commands
that are executed. -/
theorem calls_eq_applyCalls (device : CommandDevice) (deliveries : List CommandArrival) :
    (device.calls isoMs deliveries).filterMap HardwareCall.coefficients =
      applyCalls (history device.calibration (device.phCommands isoMs deliveries)) := by
  induction deliveries generalizing device with
  | nil => rfl
  | cons delivery rest ih =>
      unfold CommandDevice.calls CommandDevice.phCommands
      dsimp only
      rw [List.filterMap_append, ih]
      cases apply_calibrates isoMs device delivery with
      | inl executed =>
          obtain ⟨command, calibrates, calibration, called⟩ := executed
          rw [calibrates, calibration, called, Option.toList_some, List.singleton_append, applyCalls_cons]
      | inr alone =>
          obtain ⟨calibrates, calibration, quiet⟩ := alone
          rw [calibrates, calibration, quiet, Option.toList_none, List.nil_append, List.nil_append]

end Wqm1.Cloud
