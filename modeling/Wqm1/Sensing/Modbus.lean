import Wqm1.Library.Bytes
import Mathlib.Data.UInt

/-! The Modbus master on the RS485 line: how a request is built, what an exchange takes for its
answer, and whose answer that is. -/

set_option autoImplicit false

namespace Wqm1.Sensing.Modbus

open Wqm1.Library

def fcReadHolding : UInt8 := 0x03
def fcReadInput : UInt8 := 0x04
def fcWriteSingle : UInt8 := 0x06

inductive BusError where
  | noAttempts
  | shortResponse (got wanted : Nat)
  | badCrc
  | badCrcOnException
  | exceptionResponse (functionCode exceptionCode : UInt8)
  | byteCount (got wanted : Nat)
  | packError
  | serialError (text : String)
deriving DecidableEq

def hexDigits (byte : UInt8) : String :=
  let digits := (Nat.toDigits 16 byte.toNat).map Char.toUpper
  String.ofList (List.replicate (2 - digits.length) '0' ++ digits)

def BusError.text : BusError → String
  | noAttempts => "no attempts made"
  | shortResponse got wanted => "short response (" ++ toString got ++ "/" ++ toString wanted ++ " bytes)"
  | badCrc => "bad CRC on response"
  | badCrcOnException => "bad CRC on exception response"
  | exceptionResponse functionCode exceptionCode =>
      "Modbus exception 0x" ++ hexDigits exceptionCode ++ " for FC 0x" ++ hexDigits functionCode
  | byteCount got wanted => "unexpected byte count " ++ toString got ++ " (wanted " ++ toString wanted ++ ")"
  | packError => "argument out of range"
  | serialError text => text

def crcBit (crc : UInt16) : UInt16 := if crc &&& 1 ≠ 0 then (crc >>> 1) ^^^ 0xA001 else crc >>> 1

def crcByte (crc : UInt16) (byte : UInt8) : UInt16 := crcBit^[8] (crc ^^^ byte.toUInt16)

def crc16 (data : Bytes) : UInt16 := data.foldl crcByte 0xFFFF

def crcBytes (data : Bytes) : Bytes := [(crc16 data &&& 0xFF).toUInt8, (crc16 data >>> 8).toUInt8]

/-- The low byte comes first. -/
def appendCrc (frame : Bytes) : Bytes := frame ++ crcBytes frame

def checkCrc (frame : Bytes) : Bool :=
  if frame.length < 4 then false else frame.drop (frame.length - 2) = crcBytes (frame.take (frame.length - 2))

example : appendCrc [1, 3, 0, 0, 0, 1] = [1, 3, 0, 0, 0, 1, 0x84, 0x0A] := by decide +kernel

def packByte (value : Int) : Except BusError UInt8 :=
  if 0 ≤ value ∧ value < 256 then .ok value.toNat.toUInt8 else .error .packError

def packWord (value : Int) : Except BusError Bytes :=
  if 0 ≤ value ∧ value < 65536 then .ok [(value.toNat / 256).toUInt8, (value.toNat % 256).toUInt8] else .error .packError

/-- Slave address, function code and two words. -/
def build (functionCode : UInt8) (address first second : Int) : Except BusError Bytes :=
  (packByte address).bind fun slave =>
    (packWord first).bind fun high =>
      (packWord second).map fun low => appendCrc (slave :: functionCode :: (high ++ low))

def buildRead (address start count : Int) : Except BusError Bytes :=
  build fcReadHolding address start count

def buildReadInput (address start count : Int) : Except BusError Bytes :=
  build fcReadInput address start count

def buildWriteSingle (address register value : Int) : Except BusError Bytes :=
  build fcWriteSingle address register (value % 65536)

/-- What is on the line during each attempt, after its reset, or the exception of the port. It
may be an answer to the request or anything else. -/
abbrev Line := Nat → Except String Bytes

/-- An exception frame by its length and its flag. -/
def flagged (response : Bytes) : Bool := 5 ≤ response.length && response.getD 1 0 &&& 0x80 ≠ 0

def attempt (responseLen : Nat) (response : Bytes) : Except BusError Bytes :=
  if flagged response then
    if !checkCrc (response.take 5) then .error .badCrcOnException
    else .error (.exceptionResponse (response.getD 1 0 &&& 0x7F) (response.getD 2 0))
  else if response.length < responseLen then .error (.shortResponse response.length responseLen)
  else if !checkCrc response then .error .badCrc
  else .ok response

/-- The attempts that remain, from an index on. -/
def attempts (line : Line) (responseLen : Nat) : Nat → Nat → BusError → Except BusError Bytes
  | 0, _, last => .error last
  | remaining + 1, index, _ =>
    match line index with
    | .error text => .error (.serialError text)
    | .ok arrived =>
      match attempt responseLen (arrived.take responseLen) with
      | .ok response => .ok response
      | .error (.exceptionResponse functionCode exceptionCode) => .error (.exceptionResponse functionCode exceptionCode)
      | .error error => attempts line responseLen remaining (index + 1) error

structure ModbusBus where
  retries : Nat
  positive : 0 < retries

/-- `max(1, retries)`. -/
def ModbusBus.new (retries : Int) : ModbusBus := ⟨(max 1 retries).toNat, by omega⟩

def registers (response : Bytes) : List UInt16 :=
  let data := slice response 3 (3 + (response.getD 2 0).toNat)
  (List.range ((response.getD 2 0).toNat / 2)).map fun register =>
    (data.getD (2 * register) 0).toUInt16 <<< 8 ||| (data.getD (2 * register + 1) 0).toUInt16

namespace ModbusBus

variable (bus : ModbusBus) (line : Line)

def transact (responseLen : Nat) : Except BusError Bytes :=
  attempts line responseLen bus.retries 0 .noAttempts

def readRegs (count : Nat) : Except BusError (List UInt16) :=
  (bus.transact line (5 + 2 * count)).bind fun response =>
    let byteCount := (response.getD 2 0).toNat
    if byteCount ≠ 2 * count then .error (.byteCount byteCount (2 * count)) else .ok (registers response)

def readRegisters (address start count : Int) : Except BusError (List UInt16) :=
  (buildRead address start count).bind fun _ => bus.readRegs line count.toNat

def readInputRegisters (address start count : Int) : Except BusError (List UInt16) :=
  (buildReadInput address start count).bind fun _ => bus.readRegs line count.toNat

def writeRegister (address register value : Int) : Except BusError Unit :=
  (buildWriteSingle address register value).bind fun _ => (bus.transact line 8).map fun _ => ()

end ModbusBus

inductive ModbusCall where
  | readRegisters (address start count : Int)
  | readInputRegisters (address start count : Int)
  | writeRegister (address register value : Int)

namespace ModbusCall

def address : ModbusCall → Int
  | readRegisters address _ _ | readInputRegisters address _ _ | writeRegister address _ _ => address

def functionCode : ModbusCall → UInt8
  | readRegisters .. => fcReadHolding
  | readInputRegisters .. => fcReadInput
  | writeRegister .. => fcWriteSingle

def request : ModbusCall → Except BusError Bytes
  | readRegisters address start count => buildRead address start count
  | readInputRegisters address start count => buildReadInput address start count
  | writeRegister address register value => buildWriteSingle address register value

def responseLen : ModbusCall → Nat
  | readRegisters _ _ count | readInputRegisters _ _ count => 5 + 2 * count.toNat
  | writeRegister .. => 8

/-- The registers of a read; a write that succeeds gives none. -/
def run (bus : ModbusBus) (line : Line) : ModbusCall → Except BusError (List UInt16)
  | readRegisters address start count => bus.readRegisters line address start count
  | readInputRegisters address start count => bus.readInputRegisters line address start count
  | writeRegister address register value => (bus.writeRegister line address register value).map fun _ => []

def FromSlave (call : ModbusCall) (frame : Bytes) : Prop :=
  ((frame.getD 0 0).toNat : Int) = call.address

/-- A frame that answers a call: with the registers of a read, or the echo of a write. -/
def Answer (call : ModbusCall) (frame : Bytes) (found : List UInt16) : Prop :=
  match call with
  | readRegisters _ _ count | readInputRegisters _ _ count =>
      frame.length = 5 + 2 * count.toNat ∧ checkCrc frame = true ∧ call.FromSlave frame ∧
        frame.getD 1 0 = call.functionCode ∧ (frame.getD 2 0).toNat = 2 * count.toNat ∧
          found = registers frame
  | writeRegister .. => call.request = .ok frame

/-- A frame that starts with the exception of the addressed slave for the function. -/
def Refusal (call : ModbusCall) (frame : Bytes) (functionCode exceptionCode : UInt8) : Prop :=
  flagged frame = true ∧ checkCrc (frame.take 5) = true ∧ call.FromSlave frame ∧
    frame.getD 1 0 &&& 0x7F = call.functionCode ∧ functionCode = call.functionCode ∧
      exceptionCode = frame.getD 2 0

end ModbusCall

/-- A response that ends the exchange: an exception or a complete frame, with a valid CRC. -/
def settles (responseLen : Nat) (response : Bytes) : Bool :=
  if flagged response then checkCrc (response.take 5) else responseLen ≤ response.length && checkCrc response

/-- What the attempts read, up to the response that ends the exchange. -/
def heardFrom (line : Line) (responseLen : Nat) : Nat → Nat → List Bytes
  | 0, _ => []
  | remaining + 1, index =>
    match line index with
    | .error _ => []
    | .ok arrived =>
      arrived.take responseLen ::
        if settles responseLen (arrived.take responseLen) then [] else heardFrom line responseLen remaining (index + 1)

def ModbusCall.heard (bus : ModbusBus) (line : Line) (call : ModbusCall) : List Bytes :=
  match call.request with
  | .error _ => []
  | .ok _ => heardFrom line call.responseLen bus.retries 0

/-- The call takes for its answer, and for a refusal, only what is one. -/
def Faithful (bus : ModbusBus) (line : Line) (call : ModbusCall) : Prop :=
  (∀ found, call.run bus line = .ok found → ∃ frame ∈ call.heard bus line, call.Answer frame found) ∧
    ∀ functionCode exceptionCode, call.run bus line = .error (.exceptionResponse functionCode exceptionCode) →
      ∃ frame ∈ call.heard bus line, call.Refusal frame functionCode exceptionCode

/-- The frame that ends the exchange is the addressed slave's, for the function. A complete frame
with another byte count than that of the read is refused, whoever sent it, and that of a
write has to be the request. -/
def Proper (call : ModbusCall) (frame : Bytes) : Prop :=
  if flagged frame then call.FromSlave frame ∧ frame.getD 1 0 &&& 0x7F = call.functionCode
  else
    match call with
    | .readRegisters _ _ count | .readInputRegisters _ _ count =>
        (frame.getD 2 0).toNat = 2 * count.toNat → call.FromSlave frame ∧
          frame.getD 1 0 = call.functionCode
    | .writeRegister .. => call.request = .ok frame

/-- An error that does not say that the device refused. -/
def Silent (error : BusError) : Prop :=
  ∀ functionCode exceptionCode, error ≠ .exceptionResponse functionCode exceptionCode

theorem attempt_cases (responseLen : Nat) (response : Bytes) :
    (settles responseLen response = true ∧ flagged response = true ∧ checkCrc (response.take 5) = true ∧
        attempt responseLen response = .error (.exceptionResponse (response.getD 1 0 &&& 0x7F) (response.getD 2 0))) ∨
      (settles responseLen response = true ∧ flagged response = false ∧ responseLen ≤ response.length ∧
        checkCrc response = true ∧ attempt responseLen response = .ok response) ∨
      (settles responseLen response = false ∧ ∃ error, attempt responseLen response = .error error ∧ Silent error) := by
  unfold settles attempt
  cases flagged response with
  | true =>
      rw [if_pos rfl, if_pos rfl]
      cases checkCrc (response.take 5) with
      | true => exact .inl ⟨rfl, rfl, rfl, rfl⟩
      | false => exact .inr (.inr ⟨rfl, _, rfl, nofun⟩)
  | false =>
      rw [if_neg Bool.false_ne_true, if_neg Bool.false_ne_true]
      by_cases short : response.length < responseLen
      · rw [if_pos short]
        exact .inr (.inr ⟨by simp [short], _, rfl, nofun⟩)
      · rw [if_neg short]
        cases checkCrc response with
        | true => exact .inr (.inl ⟨by simpa using short, rfl, Nat.le_of_not_lt short, rfl, rfl⟩)
        | false => exact .inr (.inr ⟨by simp, _, rfl, nofun⟩)

/-- What an exchange comes to: an error after responses that all fail, or what the last response
comes to, which is the first that does not. -/
theorem attempts_heard (line : Line) (responseLen remaining index : Nat) (last : BusError)
    (silent : Silent last) :
    ((∀ frame ∈ heardFrom line responseLen remaining index, settles responseLen frame = false) ∧
        ∃ error, attempts line responseLen remaining index last = .error error ∧ Silent error) ∨
      ∃ before frame, heardFrom line responseLen remaining index = before ++ [frame] ∧
        (∀ other ∈ before, settles responseLen other = false) ∧ settles responseLen frame = true ∧
        attempts line responseLen remaining index last = attempt responseLen frame := by
  induction remaining generalizing index last with
  | zero => exact .inl ⟨nofun, last, rfl, silent⟩
  | succ remaining ih =>
      unfold heardFrom attempts
      cases line index with
      | error text => exact .inl ⟨nofun, _, rfl, nofun⟩
      | ok arrived =>
          dsimp only
          rcases attempt_cases responseLen (arrived.take responseLen) with refused | complete | failed
          · rw [refused.1, refused.2.2.2, if_pos rfl]
            exact .inr ⟨[], _, rfl, nofun, refused.1, refused.2.2.2.symm⟩
          · rw [complete.1, complete.2.2.2.2, if_pos rfl]
            exact .inr ⟨[], _, rfl, nofun, complete.1, complete.2.2.2.2.symm⟩
          · obtain ⟨unsettled, error, attempted, quiet⟩ := failed
            rw [unsettled, attempted, if_neg Bool.false_ne_true]
            have goesOn : (match (.error error : Except BusError Bytes) with
                | .ok response => .ok response
                | .error (.exceptionResponse functionCode exceptionCode) =>
                    .error (.exceptionResponse functionCode exceptionCode)
                | .error error => attempts line responseLen remaining (index + 1) error) =
                attempts line responseLen remaining (index + 1) error := by
              split
              next same => cases same
              next functionCode exceptionCode same => exact absurd (Except.error.inj same) (quiet _ _)
              next same => rw [Except.error.inj same]
            rw [goesOn]
            rcases ih (index + 1) error quiet with all | found
            · exact .inl ⟨List.forall_mem_cons.mpr ⟨unsettled, all.1⟩, all.2⟩
            · obtain ⟨before, frame, same, others, settled, result⟩ := found
              have early : ∀ other ∈ arrived.take responseLen :: before, settles responseLen other = false :=
                List.forall_mem_cons.mpr ⟨unsettled, others⟩
              exact .inr ⟨_ :: before, frame, congrArg _ same, early, settled, result⟩

/-- What a call makes of a complete response. -/
def ModbusCall.finish (call : ModbusCall) (response : Bytes) : Except BusError (List UInt16) :=
  match call with
  | .readRegisters _ _ count | .readInputRegisters _ _ count =>
      if (response.getD 2 0).toNat ≠ 2 * count.toNat then .error (.byteCount (response.getD 2 0).toNat (2 * count.toNat))
      else .ok (registers response)
  | .writeRegister .. => .ok []

theorem run_of_request {call : ModbusCall} {request : Bytes} (built : call.request = .ok request)
    (bus : ModbusBus)
    (line : Line) :
    call.run bus line =
      (attempts line call.responseLen bus.retries 0 .noAttempts).bind call.finish := by
  cases call with
  | readRegisters address start count =>
      change (buildRead address start count).bind _ = _
      change buildRead address start count = _ at built
      rw [built]
      rfl
  | readInputRegisters address start count =>
      change (buildReadInput address start count).bind _ = _
      change buildReadInput address start count = _ at built
      rw [built]
      rfl
  | writeRegister address register value =>
      change ((buildWriteSingle address register value).bind _).map _ = _
      change buildWriteSingle address register value = _ at built
      rw [built]
      change ((attempts line 8 bus.retries 0 .noAttempts).map _).map _ =
        (attempts line 8 bus.retries 0 .noAttempts).bind _
      cases attempts line 8 bus.retries 0 .noAttempts <;> rfl

theorem run_of_unpacked {call : ModbusCall} {error : BusError}
    (failed : call.request = .error error) (bus : ModbusBus)
    (line : Line) : call.run bus line = .error error := by
  cases call with
  | readRegisters address start count =>
      change (buildRead address start count).bind _ = _
      change buildRead address start count = _ at failed
      rw [failed]
      rfl
  | readInputRegisters address start count =>
      change (buildReadInput address start count).bind _ = _
      change buildReadInput address start count = _ at failed
      rw [failed]
      rfl
  | writeRegister address register value =>
      change ((buildWriteSingle address register value).bind _).map _ = _
      change buildWriteSingle address register value = _ at failed
      rw [failed]
      rfl

theorem build_error {functionCode : UInt8} {address first second : Int} {error : BusError}
    (failed : build functionCode address first second = .error error) : error = .packError := by
  have byte (value : Int) :
      (∃ packed, packByte value = .ok packed) ∨ packByte value = .error .packError := by
    unfold packByte
    split
    next => exact .inl ⟨_, rfl⟩
    next => exact .inr rfl
  have word (value : Int) :
      (∃ packed, packWord value = .ok packed) ∨ packWord value = .error .packError := by
    unfold packWord
    split
    next => exact .inl ⟨_, rfl⟩
    next => exact .inr rfl
  unfold build at failed
  obtain ⟨slave, packed⟩ | unpacked := byte address
  · obtain ⟨high, packedHigh⟩ | unpacked := word first
    · obtain ⟨low, packedLow⟩ | unpacked := word second
      · rw [packed, packedHigh, packedLow] at failed
        cases failed
      · rw [packed, packedHigh, unpacked] at failed
        cases failed
        rfl
    · rw [packed, unpacked] at failed
      cases failed
      rfl
  · rw [unpacked] at failed
    cases failed
    rfl

theorem request_error {call : ModbusCall} {error : BusError}
    (failed : call.request = .error error) : Silent error := by
  have packs : error = .packError := by
    cases call with
    | readRegisters address start count => exact build_error failed
    | readInputRegisters address start count => exact build_error failed
    | writeRegister address register value => exact build_error failed
  rw [packs]
  exact nofun

theorem checkCrc_appendCrc {frame : Bytes} (long : 2 ≤ frame.length) :
    checkCrc (appendCrc frame) = true := by
  have lengths : (appendCrc frame).length = frame.length + 2 := by
    unfold appendCrc crcBytes
    simp
  unfold checkCrc
  rw [if_neg (by omega), lengths, Nat.add_sub_cancel]
  unfold appendCrc
  rw [List.drop_left, List.take_left]
  exact decide_eq_true rfl

theorem flagged_of_function {frame : Bytes} {functionCode : UInt8}
    (function : frame.getD 1 0 = functionCode)
    (plain : functionCode &&& 0x80 = 0) : flagged frame = false := by
  unfold flagged
  rw [function, plain]
  simp

theorem settles_of_plain {responseLen : Nat} {frame : Bytes} (plain : flagged frame = false)
    (long : responseLen ≤ frame.length) (crc : checkCrc frame = true) :
    settles responseLen frame = true := by
  unfold settles
  rw [plain, if_neg Bool.false_ne_true, crc, Bool.and_true]
  exact decide_eq_true long

/-- A write's request is a complete frame of its own. -/
theorem settles_writeRequest {address register value : Int} {frame : Bytes}
    (built : buildWriteSingle address register value = .ok frame) :
    flagged frame = false ∧ settles 8 frame = true := by
  unfold buildWriteSingle build packByte packWord at built
  split at built
  next =>
    split at built
    next =>
      split at built
      next =>
        cases built
        have plain (slave : UInt8) (words : Bytes) :
            flagged (appendCrc (slave :: fcWriteSingle :: words)) = false :=
          flagged_of_function (show _ = fcWriteSingle from rfl) (by decide)
        exact ⟨plain _ _, settles_of_plain (plain _ _) (by simp [appendCrc, crcBytes]) (checkCrc_appendCrc (by simp))⟩
      next => cases built
    next => cases built
  next => cases built

theorem settles_answer {call : ModbusCall} {frame : Bytes} {found : List UInt16}
    (answers : call.Answer frame found) :
    flagged frame = false ∧ settles call.responseLen frame = true := by
  have whole {count : Nat} {functionCode : UInt8} (unflagged : functionCode &&& 0x80 = 0)
      (length : frame.length = 5 + 2 * count)
      (crc : checkCrc frame = true) (function : frame.getD 1 0 = functionCode) :
      flagged frame = false ∧ settles (5 + 2 * count) frame = true := by
    have plain : flagged frame = false := flagged_of_function function unflagged
    exact ⟨plain, settles_of_plain plain length.ge crc⟩
  cases call with
  | readRegisters address start count =>
      obtain ⟨length, crc, slave, function, bytes, same⟩ := answers
      exact whole (show fcReadHolding &&& 0x80 = 0 by decide) length crc function
  | readInputRegisters address start count =>
      obtain ⟨length, crc, slave, function, bytes, same⟩ := answers
      exact whole (show fcReadInput &&& 0x80 = 0 by decide) length crc function
  | writeRegister address register value => exact settles_writeRequest answers

theorem settles_refusal {call : ModbusCall} {frame : Bytes} {functionCode exceptionCode : UInt8}
    (refuses : call.Refusal frame functionCode exceptionCode) (responseLen : Nat) :
    settles responseLen frame = true := by
  obtain ⟨flag, crc, _⟩ := refuses
  unfold settles
  rw [if_pos flag]
  exact crc

/-- What a complete response is taken for, and whether it is that. -/
theorem finish_iff {call : ModbusCall} {frame : Bytes} (plain : flagged frame = false)
    (length : frame.length = call.responseLen) (crc : checkCrc frame = true) :
    (∀ found, call.finish frame = .ok found → call.Answer frame found) ↔ Proper call frame := by
  unfold Proper
  rw [plain, if_neg Bool.false_ne_true]
  have reads {count : Int} {result : Except BusError (List UInt16)} {holds : List UInt16 → Prop}
      {right : Prop}
      (finished : result = if (frame.getD 2 0).toNat ≠ 2 * count.toNat then
          .error (.byteCount (frame.getD 2 0).toNat (2 * count.toNat)) else .ok (registers frame))
      (judged : (frame.getD 2 0).toNat = 2 * count.toNat → (holds (registers frame) ↔ right)) :
      (∀ found, result = .ok found → holds found) ↔ ((frame.getD 2 0).toNat = 2 * count.toNat → right) := by
    rw [finished]
    split
    next other => exact iff_of_true nofun fun same => absurd same other
    next same =>
      have counted := Decidable.not_not.mp same
      rw [forall_prop_of_true counted, ← judged counted]
      exact ⟨fun all => all _ rfl, fun one found same => Except.ok.inj same ▸ one⟩
  cases call with
  | readRegisters address start count =>
      refine reads rfl fun counted => ?_
      constructor
      · intro answers
        exact ⟨answers.2.2.1, answers.2.2.2.1⟩
      · intro both
        exact ⟨length, crc, both.1, both.2, counted, rfl⟩
  | readInputRegisters address start count =>
      refine reads rfl fun counted => ?_
      constructor
      · intro answers
        exact ⟨answers.2.2.1, answers.2.2.2.1⟩
      · intro both
        exact ⟨length, crc, both.1, both.2, counted, rfl⟩
  | writeRegister address register value => exact ⟨fun all => all [] rfl, fun echo _ _ => echo⟩

theorem length_of_heard {line : Line} {responseLen remaining index : Nat} {frame : Bytes}
    (member : frame ∈ heardFrom line responseLen remaining index) : frame.length ≤ responseLen := by
  induction remaining generalizing index with
  | zero => cases member
  | succ remaining ih =>
      unfold heardFrom at member
      split at member
      next => cases member
      next arrived _ =>
        cases member with
        | head => exact List.length_take_le responseLen arrived
        | tail _ later =>
            split at later
            next => cases later
            next => exact ih later

theorem finish_silent {call : ModbusCall} {frame : Bytes} {error : BusError}
    (failed : call.finish frame = .error error) :
    Silent error := by
  have reads {count : Int} (failed : (if (frame.getD 2 0).toNat ≠ 2 * count.toNat then
      .error (.byteCount (frame.getD 2 0).toNat (2 * count.toNat)) else .ok (registers frame)) = Except.error error) :
      Silent error := by
    split at failed
    next =>
      cases failed
      exact nofun
    next => cases failed
  cases call with
  | readRegisters address start count => exact reads failed
  | readInputRegisters address start count => exact reads failed
  | writeRegister address register value => cases failed

/-- The last response is taken for what it is if and only if it is proper. -/
theorem settled_iff_proper {call : ModbusCall} {frame : Bytes}
    (settled : settles call.responseLen frame = true)
    (fits : frame.length ≤ call.responseLen) :
    ((∀ found, (attempt call.responseLen frame).bind call.finish = .ok found → call.Answer frame found) ∧
      ∀ functionCode exceptionCode, (attempt call.responseLen frame).bind call.finish =
        .error (.exceptionResponse functionCode exceptionCode) →
          call.Refusal frame functionCode exceptionCode) ↔
      Proper call frame := by
  rcases attempt_cases call.responseLen frame with refused | complete | failed
  · obtain ⟨_, flag, crc, attempted⟩ := refused
    rw [attempted]
    unfold Proper
    rw [if_pos flag]
    constructor
    · intro both
      have refuses := both.2 _ _ rfl
      exact ⟨refuses.2.2.1, refuses.2.2.2.1⟩
    · intro proper
      constructor
      · intro found same
        cases same
      · intro functionCode exceptionCode same
        cases same
        exact ⟨flag, crc, proper.1, proper.2, proper.2, rfl⟩
  · obtain ⟨_, plain, long, crc, attempted⟩ := complete
    rw [attempted, ← finish_iff plain (Nat.le_antisymm fits long) crc]
    refine and_iff_left fun functionCode exceptionCode same => ?_
    exact absurd rfl (finish_silent same functionCode exceptionCode)
  · obtain ⟨unsettled, _⟩ := failed
    cases unsettled.symm.trans settled

/-- A call is faithful if and only if the frame that ends its exchange is proper. -/
theorem faithful_iff_proper (bus : ModbusBus) (line : Line) (call : ModbusCall) :
    Faithful bus line call ↔
      ∀ frame ∈ call.heard bus line, settles call.responseLen frame = true → Proper call frame := by
  unfold Faithful ModbusCall.heard
  cases built : call.request with
  | error error =>
      rw [run_of_unpacked built]
      refine iff_of_true ⟨nofun, fun functionCode exceptionCode same => ?_⟩ nofun
      exact absurd (Except.error.inj same) (request_error built _ _)
  | ok request =>
      rw [run_of_request built]
      dsimp only
      rcases attempts_heard line call.responseLen bus.retries 0 .noAttempts nofun with all | found
      · obtain ⟨unsettled, error, result, silent⟩ := all
        rw [result]
        refine iff_of_true ⟨nofun, fun functionCode exceptionCode same => ?_⟩ fun frame member settled => ?_
        · exact absurd (Except.error.inj same) (silent _ _)
        · cases (unsettled frame member).symm.trans settled
      · obtain ⟨before, frame, heard, others, settled, result⟩ := found
        have last : frame ∈ heardFrom line call.responseLen bus.retries 0 := by
          rw [heard]
          exact List.mem_append_right _ List.mem_cons_self
        have only {other : Bytes} (member : other ∈ heardFrom line call.responseLen bus.retries 0)
            (ends : settles call.responseLen other = true) : other = frame := by
          rw [heard] at member
          cases List.mem_append.mp member with
          | inl early => cases (others other early).symm.trans ends
          | inr final => exact List.mem_singleton.mp final
        have one : (∀ other ∈ heardFrom line call.responseLen bus.retries 0,
            settles call.responseLen other = true → Proper call other) ↔ Proper call frame :=
          ⟨fun all => all frame last settled, fun proper other member ends => only member ends ▸ proper⟩
        -- Whatever is taken for an answer or a refusal ends the exchange, so it is that frame.
        rw [one, ← settled_iff_proper settled (length_of_heard last), result]
        refine and_congr (forall₂_congr fun found finished => ?_)
          (forall₃_congr fun functionCode exceptionCode same => ?_)
        · constructor
          · rintro ⟨other, member, answers⟩
            exact only member (settles_answer answers).2 ▸ answers
          · exact fun answers => ⟨frame, last, answers⟩
        · constructor
          · rintro ⟨other, member, refuses⟩
            exact only member (settles_refusal refuses _) ▸ refuses
          · exact fun refuses => ⟨frame, last, refuses⟩

/-- The late answer of slave 2, after which slave 1 seems to have answered. -/
def strayLine : Line := fun _ => .ok (appendCrc [2, 3, 2, 0x12, 0x34])

theorem stray_answer_taken : ¬Faithful (.new 2) strayLine (.readRegisters 1 0 1) := by
  intro faithful
  obtain ⟨frame, member, answers⟩ := faithful.1 [0x1234] (by decide +kernel)
  have heard : (ModbusCall.readRegisters 1 0 1).heard (.new 2) strayLine = [appendCrc [2, 3, 2, 0x12, 0x34]] := by
    decide +kernel
  rw [heard, List.mem_singleton] at member
  have slave : ((frame.getD 0 0).toNat : Int) = 1 := answers.2.2.1
  rw [member] at slave
  exact absurd slave (by decide +kernel)

end Wqm1.Sensing.Modbus
