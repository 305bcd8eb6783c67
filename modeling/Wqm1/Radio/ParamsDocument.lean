import Mathlib.Data.Nat.Digits.Lemmas
import Wqm1.Radio.Mac

/-! The JSON object that the MAC parameters are persisted as. Writing an object as
JSON text and reading the text back gives the object; the channel mask is a text of
its own, eighteen hexadecimal digits. -/

set_option autoImplicit false

namespace Wqm1.Radio

open Wqm1.Library

def hexDigit (value : Nat) : Char := Nat.digitChar value

def hexDigitValue (digit : Char) : Option Nat :=
  if '0' ≤ digit ∧ digit ≤ '9' then some (digit.toNat - '0'.toNat)
  else if 'a' ≤ digit ∧ digit ≤ 'f' then some (digit.toNat - 'a'.toNat + 10)
  else if 'A' ≤ digit ∧ digit ≤ 'F' then some (digit.toNat - 'A'.toNat + 10)
  else none

/-- Python's `f"{value:0{width}x}"`. -/
def formatHex (width value : Nat) : List Char :=
  let digits := (Nat.digits 16 value).reverse.map hexDigit
  List.replicate (width - digits.length) '0' ++ digits

/-- Python's `int(text, 16)` of plain digits; `none` is a `ValueError`. -/
def parseHex (text : List Char) : Option Nat :=
  if text = [] then none
  else text.foldlM (fun value digit => (hexDigitValue digit).map (16 * value + ·)) 0

private theorem hexDigitValue_hexDigit {value : Nat} (small : value < 16) :
    hexDigitValue (hexDigit value) = some value := by
  have table : ∀ digit < 16, hexDigitValue (hexDigit digit) = some digit := by decide
  exact table value small

private theorem parse_zeros (count start : Nat) (zero : start = 0) :
    (List.replicate count '0').foldlM
      (fun value digit => (hexDigitValue digit).map (16 * value + ·)) start = some 0 := by
  subst zero
  induction count with
  | zero => rfl
  | succ count ih =>
    rw [List.replicate_succ, List.foldlM_cons]
    exact ih

private theorem parse_digits {digits : List Nat} (small : ∀ digit ∈ digits, digit < 16) :
    (digits.reverse.map hexDigit).foldlM
      (fun value digit => (hexDigitValue digit).map (16 * value + ·)) 0 = some (Nat.ofDigits 16 digits) := by
  induction digits with
  | nil => rfl
  | cons digit rest ih =>
    have later : ∀ other ∈ rest, other < 16 := fun other member => small other (List.mem_cons_of_mem _ member)
    have first : hexDigitValue (hexDigit digit) = some digit :=
      hexDigitValue_hexDigit (small digit (List.mem_cons_self ..))
    rw [List.reverse_cons, List.map_append, List.foldlM_append, ih later]
    simp only [Option.bind_eq_bind, Option.bind_some, List.map_cons, List.map_nil, List.foldlM_cons,
      List.foldlM_nil, first, Option.map_some, Nat.ofDigits_cons]
    rw [Nat.add_comm]
    rfl

theorem parseHex_formatHex {width value : Nat} (positive : 0 < width) :
    parseHex (formatHex width value) = some value := by
  have nonempty : formatHex width value ≠ [] := by
    unfold formatHex
    intro empty
    obtain ⟨zeros, digits⟩ := List.append_eq_nil_iff.mp empty
    rw [digits, List.length_nil, Nat.sub_zero, List.replicate_eq_nil_iff] at zeros
    omega
  have small : ∀ digit ∈ Nat.digits 16 value, digit < 16 := fun digit member =>
    Nat.digits_lt_base (by norm_num) member
  unfold parseHex
  rw [if_neg nonempty, formatHex, List.foldlM_append, parse_zeros _ 0 rfl]
  change (List.map hexDigit _).foldlM _ 0 = _
  rw [parse_digits small, Nat.ofDigits_digits]

/-- A value of the persisted object. -/
inductive ParamValue where
  | int (value : Int)
  | float (value : Rat)
  | text (value : List Char)
  | list (values : List Int)
deriving DecidableEq

abbrev ParamsDocument : Type := List (String × ParamValue)

namespace Mac

/-- `mac_params`, as it is handed to `json.dumps`. -/
def paramsDocument (mac : Mac) : ParamsDocument :=
  [("sf", .int mac.sf.toNat),
    ("dev_nonce", .int mac.devNonceCounter),
    ("app_nonces", .list (mac.recentAppNonces.map Int.ofNat)),
    ("rx1_dr_offset", .int mac.rx1DrOffset),
    ("rx2_dr", .int mac.rx2Dr),
    ("rx2_frequency", .int mac.rx2Frequency),
    ("rx1_delay_s", .float mac.rx1DelayS),
    ("channel_mask", .text (formatHex 18 mac.channelMask.toBits))]

end Mac

namespace ParamsDocument

/-- A key with an integer that is not negative, or no such key. -/
def natField (document : ParamsDocument) (key : String) : Option (Option Nat) :=
  match document.lookup key with
  | none => some none
  | some (.int value) => if 0 ≤ value then some (some value.toNat) else none
  | some _ => none

/-- A delay, written as a float or an integer. -/
def ratField (document : ParamsDocument) (key : String) : Option (Option Rat) :=
  match document.lookup key with
  | none => some none
  | some (.int value) => some (some value)
  | some (.float value) => some (some value)
  | some _ => none

def intField (document : ParamsDocument) (key : String) : Option Int :=
  match document.lookup key with
  | some (.int value) => some value
  | _ => none

/-- The integers of a list that are not negative. -/
def listField (document : ParamsDocument) (key : String) : Option (List Nat) :=
  match document.lookup key with
  | some (.list values) => some ((values.filter (0 ≤ ·)).map Int.toNat)
  | _ => none

def hexField (document : ParamsDocument) (key : String) : Option Nat :=
  match document.lookup key with
  | some (.text value) => parseHex value
  | _ => none

/-- What `_apply_mac_params` reads of a persisted object. Objects with texts, lists or
negative numbers for numbers, which the device never writes, are not read. -/
def read (document : ParamsDocument) : Option MacParams := do
  let sf ← document.natField "sf"
  let rx1DrOffset ← document.natField "rx1_dr_offset"
  let rx2Dr ← document.natField "rx2_dr"
  let rx2Frequency ← document.natField "rx2_frequency"
  let rx1DelayS ← document.ratField "rx1_delay_s"
  some {
    sf := sf
    devNonce := document.intField "dev_nonce"
    appNonces := document.listField "app_nonces"
    rx1DrOffset := rx1DrOffset
    rx2Dr := rx2Dr
    rx2Frequency := rx2Frequency
    rx1DelayS := rx1DelayS
    channelMask := document.hexField "channel_mask" }

/-- What is written is read back. -/
theorem read_paramsDocument (mac : Mac) : mac.paramsDocument.read = some mac.macParams := by
  have nonces : mac.paramsDocument.listField "app_nonces" = some mac.recentAppNonces := by
    have kept : (mac.recentAppNonces.map Int.ofNat).filter (0 ≤ ·) = mac.recentAppNonces.map Int.ofNat :=
      List.filter_eq_self.mpr (by simp)
    change some (((mac.recentAppNonces.map Int.ofNat).filter (0 ≤ ·)).map Int.toNat) = _
    rw [kept, List.map_map]
    exact congrArg some (List.map_id _)
  have mask : mac.paramsDocument.hexField "channel_mask" = some mac.channelMask.toBits :=
    parseHex_formatHex (by decide)
  unfold read
  rw [nonces, mask]
  rfl

end ParamsDocument

end Wqm1.Radio
