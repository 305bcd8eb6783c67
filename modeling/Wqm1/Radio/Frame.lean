import Wqm1.Radio.Crypto

/-! Data frames as LoRaWAN 1.0.3 section 4 describes them, written down
independently of the MAC layer: the encoder of a frame, its parser, and the MAC
commands in its frame options. -/

set_option autoImplicit false

namespace Wqm1.Radio.Frame

open Wqm1.Library

inductive MType where
  | unconfirmedUp | unconfirmedDown | confirmedUp | confirmedDown
deriving DecidableEq

def MType.mhdr : MType → UInt8
  | unconfirmedUp => 0x40 | unconfirmedDown => 0x60 | confirmedUp => 0x80 | confirmedDown => 0xA0

/-- A 32-bit counter, low byte first. -/
def counterBytes (fcnt : Nat) : Bytes :=
  [UInt8.ofNat (fcnt % 256), UInt8.ofNat (fcnt / 256 % 256), UInt8.ofNat (fcnt / 65536 % 256),
    UInt8.ofNat (fcnt / 16777216 % 256)]

variable (crypto : Crypto)

/-- Section 4.4: cmac = aes128_cmac(NwkSKey, B0 | msg), MIC = cmac[0..3]. -/
def mic (nwkSKey : Key) (devAddr : DevAddr) (fcnt : Nat) (direction : Direction) (message : Bytes) :
    Bytes :=
  let b0 := [0x49, 0, 0, 0, 0, direction.toByte] ++ devAddr.bytes ++ counterBytes fcnt ++
    [0, UInt8.ofNat message.length]
  (crypto.cmac nwkSKey (b0 ++ message)).bytes.take 4

/-- Section 4.3.3: S_i = aes128_encrypt(K, A_i), counting from one. -/
def keyBlock (key : Key) (devAddr : DevAddr) (fcnt : Nat) (direction : Direction) (index : Nat) :
    FixedBytes 16 :=
  crypto.aesEncrypt key ⟨[0x01, 0, 0, 0, 0, direction.toByte] ++ devAddr.bytes ++ counterBytes fcnt ++
    [0, UInt8.ofNat index], by simp [counterBytes]⟩

/-- Section 4.3.3: byte `j` of the payload is masked with byte `j mod 16` of block `j / 16 + 1`. -/
def cipher (key : Key) (devAddr : DevAddr) (fcnt : Nat) (direction : Direction) (payload : Bytes) :
    Bytes :=
  payload.mapIdx fun index byte =>
    byte ^^^ (keyBlock crypto key devAddr fcnt direction (index / 16 + 1)).bytes.getD (index % 16) 0

theorem counterBytes_eq (fcnt : Nat) : counterBytes fcnt = packLE 4 (fcnt % 2 ^ 32) := by
  have same {left right : Nat} (mod : left % 256 = right % 256) :
      UInt8.ofNat left = UInt8.ofNat right := UInt8.toNat_inj.mp (by simpa using mod)
  simp only [counterBytes, packLE, List.cons.injEq, and_true]
  refine ⟨same ?_, same ?_, same ?_, same ?_⟩ <;> omega

variable {crypto}

/-- The device computes the integrity code of the specification. -/
theorem computeFrameMic_eq (nwkSKey : Key) (devAddr : DevAddr) (fcnt : Nat) (message : Bytes)
    (direction : Direction) :
    crypto.computeFrameMic nwkSKey devAddr fcnt message direction =
      mic crypto nwkSKey devAddr fcnt direction message := by
  simp only [Crypto.computeFrameMic, Crypto.computeMic, Crypto.micBlock, mic, counterBytes_eq]

theorem encryptPayload_eq (key : Key) (devAddr : DevAddr) (fcnt : Nat) (payload : Bytes)
    (direction : Direction) :
    crypto.encryptPayload key devAddr fcnt payload direction =
      cipher crypto key devAddr fcnt direction payload := by
  refine List.ext_getElem (by simp [cipher]) fun index encrypted inPayload => ?_
  rw [Crypto.length_encryptPayload] at encrypted
  have covered : index < 16 * ((payload.length + 15) / 16) := by omega
  have block := getD_flatMap_range (fun number => crypto.aesEncrypt key
    (Crypto.counterBlock devAddr fcnt direction number)) covered
  simp only [Crypto.encryptPayload, xorBytes, cipher, List.getElem_zipWith, List.getElem_mapIdx,
    keyBlock, counterBytes_eq]
  congr 1
  rw [← List.getD_eq_getElem _ 0]
  exact block

/-- The content of a data frame. `flags` are the upper four bits of FCtrl, `port`
is FPort and the plain FRMPayload. -/
structure DataFrame where
  mtype : MType
  devAddr : DevAddr
  flags : Fin 16
  fcnt : Nat
  fopts : Bytes
  fopts_le : fopts.length ≤ 15
  port : Option (UInt8 × Bytes)

namespace DataFrame

variable (crypto) (nwkSKey appSKey : Key) (direction : Direction) (frame : DataFrame)

/-- FPort and the encrypted FRMPayload; FPort 0 is encrypted under the network key. -/
def portField : Bytes :=
  match frame.port with
  | none => []
  | some (fport, payload) =>
      fport :: cipher crypto (if fport = 0 then nwkSKey else appSKey) frame.devAddr frame.fcnt
        direction payload

/-- MHDR | DevAddr | FCtrl | FCnt, the first eight bytes. -/
def header : Bytes :=
  [frame.mtype.mhdr] ++ frame.devAddr.bytes ++
    [UInt8.ofNat (16 * frame.flags + frame.fopts.length), UInt8.ofNat (frame.fcnt % 256),
      UInt8.ofNat (frame.fcnt / 256 % 256)]

def message : Bytes := frame.header ++ frame.fopts ++ frame.portField crypto nwkSKey appSKey direction

/-- The frame on the air. -/
def encode : Bytes :=
  frame.message crypto nwkSKey appSKey direction ++
    mic crypto nwkSKey frame.devAddr frame.fcnt direction
      (frame.message crypto nwkSKey appSKey direction)

end DataFrame

/-- What the bytes of a data frame say, before any key is used. -/
structure Parsed where
  mtype : MType
  devAddr : Bytes
  ack : Bool
  foptsLen : Nat
  fcnt16 : Nat
  fopts : Bytes
  port : Option (UInt8 × Bytes)
  message : Bytes
  mic : Bytes

def MType.ofMhdr : UInt8 → Option MType := fun mhdr =>
  match mhdr.toNat with
  | 0x40 => some unconfirmedUp
  | 0x60 => some unconfirmedDown
  | 0x80 => some confirmedUp
  | 0xA0 => some confirmedDown
  | _ => none

/-- FOptsLen bytes of frame options must be there, and a frame has at least twelve bytes. -/
def parse (data : Bytes) : Option Parsed := do
  let mtype ← MType.ofMhdr (data.headD 0)
  let message := data.take (data.length - 4)
  let fctrl := (message.getD 5 0).toNat
  let foptsLen := fctrl % 16
  let rest := message.drop (8 + foptsLen)
  if data.length < 12 ∨ message.length < 8 + foptsLen then none
  else some {
    mtype := mtype
    devAddr := slice message 1 5
    ack := fctrl.testBit 5
    foptsLen := foptsLen
    fcnt16 := (message.getD 6 0).toNat + 256 * (message.getD 7 0).toNat
    fopts := slice message 8 (8 + foptsLen)
    port := rest.head?.map fun fport => (fport, rest.tail)
    message := message
    mic := data.drop (data.length - 4) }

namespace DataFrame

variable (crypto) (nwkSKey appSKey : Key) (direction : Direction) (frame : DataFrame)

@[simp] theorem length_mic (devAddr : DevAddr) (fcnt : Nat) (message : Bytes) :
    (mic crypto nwkSKey devAddr fcnt direction message).length = 4 := by simp [mic]

@[simp] theorem length_header : frame.header.length = 8 := by simp [header]

theorem length_encode : (frame.encode crypto nwkSKey appSKey direction).length =
    (frame.message crypto nwkSKey appSKey direction).length + 4 := by simp [encode]

/-- The last four bytes are the integrity code of the rest. -/
theorem take_encode : (frame.encode crypto nwkSKey appSKey direction).take
    ((frame.encode crypto nwkSKey appSKey direction).length - 4) =
      frame.message crypto nwkSKey appSKey direction := by
  rw [length_encode, Nat.add_sub_cancel, encode, List.take_left]

theorem drop_encode : (frame.encode crypto nwkSKey appSKey direction).drop
    ((frame.encode crypto nwkSKey appSKey direction).length - 4) =
      mic crypto nwkSKey frame.devAddr frame.fcnt direction
        (frame.message crypto nwkSKey appSKey direction) := by
  rw [length_encode, Nat.add_sub_cancel, encode, List.drop_left]

theorem header_fields (rest : Bytes) :
    (frame.header ++ rest).headD 0 = frame.mtype.mhdr ∧
      slice (frame.header ++ rest) 1 5 = frame.devAddr.bytes ∧
      ((frame.header ++ rest).getD 5 0).toNat = 16 * frame.flags + frame.fopts.length ∧
      ((frame.header ++ rest).getD 6 0).toNat = frame.fcnt % 256 ∧
      ((frame.header ++ rest).getD 7 0).toNat = frame.fcnt / 256 % 256 := by
  have address := frame.devAddr.length_eq
  have flags := frame.flags.isLt
  have fopts := frame.fopts_le
  have start : [frame.mtype.mhdr].length = 1 := rfl
  refine ⟨rfl, ?_, ?_, ?_, ?_⟩
  · rw [header, List.append_assoc, List.append_assoc, slice_append_right _ _ 1 5 start.le, start]
    exact slice_zero_append _ _ _ address.symm
  all_goals
    simp only [header, List.getD_eq_getElem?_getD]
    simp [List.getElem?_append, address]
  all_goals omega

theorem counter_slice (rest : Bytes) :
    unpackLE (slice (frame.header ++ rest) 6 8) = frame.fcnt % 65536 := by
  have front : ([frame.mtype.mhdr] ++ frame.devAddr.bytes ++
      [UInt8.ofNat (16 * frame.flags + frame.fopts.length)]).length = 6 := by simp
  have parts : frame.header ++ rest = ([frame.mtype.mhdr] ++ frame.devAddr.bytes ++
      [UInt8.ofNat (16 * frame.flags + frame.fopts.length)]) ++
        ([UInt8.ofNat (frame.fcnt % 256), UInt8.ofNat (frame.fcnt / 256 % 256)] ++ rest) := by
    simp [header]
  rw [parts, slice_append_right _ _ _ _ front.le, front]
  simp [slice, unpackLE]
  omega

theorem encode_eq : frame.encode crypto nwkSKey appSKey direction =
    frame.header ++ (frame.fopts ++ (frame.portField crypto nwkSKey appSKey direction ++
      mic crypto nwkSKey frame.devAddr frame.fcnt direction
        (frame.message crypto nwkSKey appSKey direction))) := by
  simp only [encode, message, List.append_assoc]

theorem encode_fields :
    let data := frame.encode crypto nwkSKey appSKey direction
    data.headD 0 = frame.mtype.mhdr ∧ slice data 1 5 = frame.devAddr.bytes ∧
      (data.getD 5 0).toNat = 16 * frame.flags + frame.fopts.length ∧
      unpackLE (slice data 6 8) = frame.fcnt % 65536 := by
  dsimp only
  rw [encode_eq]
  obtain ⟨mhdr, address, fctrl, _⟩ := header_fields frame (frame.fopts ++
    (frame.portField crypto nwkSKey appSKey direction ++ mic crypto nwkSKey frame.devAddr frame.fcnt
      direction (frame.message crypto nwkSKey appSKey direction)))
  exact ⟨mhdr, address, fctrl, counter_slice ..⟩

theorem fopts_slice : slice (frame.message crypto nwkSKey appSKey direction) 8
    (8 + frame.fopts.length) = frame.fopts := by
  rw [message, List.append_assoc, slice_append_right _ _ _ _ frame.length_header.le, length_header]
  exact slice_zero_append _ _ _ (by omega)

theorem port_drop : (frame.message crypto nwkSKey appSKey direction).drop
    (8 + frame.fopts.length) = frame.portField crypto nwkSKey appSKey direction := by
  have front : (frame.header ++ frame.fopts).length = 8 + frame.fopts.length := by simp
  rw [message, ← front, List.drop_left]

theorem length_message : (frame.message crypto nwkSKey appSKey direction).length =
    8 + frame.fopts.length + (frame.portField crypto nwkSKey appSKey direction).length := by
  simp [message, Nat.add_assoc]

private theorem ofMhdr_mhdr (mtype : MType) : MType.ofMhdr mtype.mhdr = some mtype := by
  cases mtype <;> rfl

theorem parse_encode : parse (frame.encode crypto nwkSKey appSKey direction) = some {
    mtype := frame.mtype
    devAddr := frame.devAddr.bytes
    ack := (frame.flags : Nat).testBit 1
    foptsLen := frame.fopts.length
    fcnt16 := frame.fcnt % 65536
    fopts := frame.fopts
    port := frame.port.map fun (fport, payload) =>
      (fport, cipher crypto (if fport = 0 then nwkSKey else appSKey) frame.devAddr frame.fcnt
        direction payload)
    message := frame.message crypto nwkSKey appSKey direction
    mic := mic crypto nwkSKey frame.devAddr frame.fcnt direction
      (frame.message crypto nwkSKey appSKey direction) } := by
  have fopts := frame.fopts_le
  have long := frame.length_message crypto nwkSKey appSKey direction
  have fields := frame.header_fields
    (frame.fopts ++ frame.portField crypto nwkSKey appSKey direction)
  have parts : frame.header ++ (frame.fopts ++ frame.portField crypto nwkSKey appSKey direction) =
      frame.message crypto nwkSKey appSKey direction := (List.append_assoc ..).symm
  rw [parts] at fields
  obtain ⟨_, address, fctrl, low, high⟩ := fields
  have mhdr : (frame.encode crypto nwkSKey appSKey direction).headD 0 = frame.mtype.mhdr :=
    (frame.encode_fields crypto nwkSKey appSKey direction).1
  have optionsLen : (16 * (frame.flags : Nat) + frame.fopts.length) % 16 = frame.fopts.length := by
    omega
  have ack : (16 * (frame.flags : Nat) + frame.fopts.length).testBit 5 =
      (frame.flags : Nat).testBit 1 := by
    simp only [Nat.testBit_eq_decide_div_mod_eq]
    congr 2
    omega
  have counter : frame.fcnt % 256 + 256 * (frame.fcnt / 256 % 256) = frame.fcnt % 65536 := by omega
  have enough : ¬((frame.encode crypto nwkSKey appSKey direction).length < 12 ∨
      (frame.message crypto nwkSKey appSKey direction).length < 8 + frame.fopts.length) := by
    rw [length_encode]
    omega
  simp only [parse, mhdr, ofMhdr_mhdr, take_encode, drop_encode, address, fctrl, low, high, optionsLen,
    ack, counter, fopts_slice, port_drop, if_neg enough, Option.bind_eq_bind, Option.bind_some]
  cases port : frame.port <;> simp [portField, port]

end DataFrame

/-- Length of the arguments of each MAC command a device sends, LoRaWAN 1.0.3 section 5. -/
def macAnsLen (cid : UInt8) : Option Nat :=
  match cid.toNat with
  | 0x02 => some 0
  | 0x03 => some 1
  | 0x04 => some 0
  | 0x05 => some 1
  | 0x06 => some 2
  | 0x07 => some 1
  | 0x08 => some 0
  | 0x09 => some 0
  | 0x0A => some 1
  | _ => none

/-- One complete MAC command of a device. -/
def IsMacAnswer (answer : Bytes) : Prop :=
  ∃ cid args, answer = cid :: args ∧ macAnsLen cid = some args.length

/-- The frame options of an uplink as complete commands. The fuel is at least the
number of bytes. -/
def parseAnswersFrom : Nat → Bytes → Option (List Bytes)
  | _, [] => some []
  | 0, _ :: _ => none
  | fuel + 1, cid :: rest =>
      match macAnsLen cid with
      | none => none
      | some length =>
          if rest.length < length then none
          else (parseAnswersFrom fuel (rest.drop length)).map ((cid :: rest.take length) :: ·)

def parseAnswers (data : Bytes) : Option (List Bytes) := parseAnswersFrom data.length data

/-- Complete answers one after another are parsed as these answers. -/
theorem parseAnswers_flatten {answers : List Bytes}
    (complete : ∀ answer ∈ answers, IsMacAnswer answer) :
    parseAnswers answers.flatten = some answers := by
  suffices parsed : ∀ fuel, answers.flatten.length ≤ fuel →
      parseAnswersFrom fuel answers.flatten = some answers from parsed _ le_rfl
  induction answers with
  | nil => intro fuel _; cases fuel <;> rfl
  | cons answer rest ih =>
      intro fuel enough
      obtain ⟨cid, args, rfl, known⟩ := complete answer List.mem_cons_self
      simp only [List.flatten_cons, List.cons_append, List.length_cons, List.length_append] at enough
      cases fuel with
      | zero => omega
      | succ fuel =>
          have remaining := ih (fun other member => complete other (List.mem_cons_of_mem _ member)) fuel
            (by omega)
          simp [parseAnswersFrom, known, remaining]

end Wqm1.Radio.Frame
