import Mathlib.Data.List.TakeWhile
import Wqm1.Library.Rounding
import Wqm1.Library.Text

/-! Numbers the way Python reads them from text: `int` and `float`. -/

set_option autoImplicit false

namespace Wqm1.Library.Numeral

/-- The zeros of the scripts, each with the nine further digits behind it. -/
def zeros : List Nat :=
  [0x30, 0x660, 0x6F0, 0x7C0, 0x966, 0x9E6, 0xA66, 0xAE6, 0xB66, 0xBE6, 0xC66, 0xCE6, 0xD66, 0xDE6, 0xE50, 0xED0, 0xF20,
    0x1040, 0x1090, 0x17E0, 0x1810, 0x1946, 0x19D0, 0x1A80, 0x1A90, 0x1B50, 0x1BB0, 0x1C40, 0x1C50, 0xA620, 0xA8D0,
    0xA900, 0xA9D0, 0xA9F0, 0xAA50, 0xABF0, 0xFF10, 0x104A0, 0x10D30, 0x11066, 0x110F0, 0x11136, 0x111D0, 0x112F0,
    0x11450, 0x114D0, 0x11650, 0x116C0, 0x11730, 0x118E0, 0x11950, 0x11C50, 0x11D50, 0x11DA0, 0x16A60, 0x16AC0,
    0x16B50, 0x1D7CE, 0x1D7D8, 0x1D7E2, 0x1D7EC, 0x1D7F6, 0x1E140, 0x1E2F0, 0x1E950, 0x1FBF0]

/-- The value of a digit of any script. -/
def digitValue (c : Char) : Option Nat :=
  (zeros.find? fun first => decide (first ≤ c.toNat ∧ c.toNat ≤ first + 9)).map (c.toNat - ·)

/-- A character as the grammar sees it: beyond ASCII only the blanks and the digits mean something. -/
def plain (c : Char) : Char :=
  if c.toNat < 128 then c
  else if Text.whitespace c then ' '
  else (digitValue c).elim '?' fun value => Char.ofNat (48 + value)

/-- What C takes for a blank, which is less than `Text.whitespace`. -/
def blank (c : Char) : Bool := c == ' ' || decide (9 ≤ c.toNat ∧ c.toNat ≤ 13)

def prepare (text : Text) : Text := ((text.map plain).dropWhile blank).rdropWhile blank

def decimal (c : Char) : Bool := decide (48 ≤ c.toNat ∧ c.toNat ≤ 57)

def hexadecimal (c : Char) : Bool := decimal c || "abcdefABCDEF".toList.contains c

/-- The text without its underscores, each of which stands between two digits. -/
def ungroup (digit : Char → Bool) (afterDigit : Bool) : Text → Option Text
  | [] => some []
  | c :: rest =>
    if c = '_' then if afterDigit && rest.head?.any digit then ungroup digit false rest else none
    else (ungroup digit (digit c) rest).map (c :: ·)

/-- Whether the text has a minus, and what follows its sign. -/
def signed : Text → Bool × Text
  | '-' :: rest => (true, rest)
  | '+' :: rest => (false, rest)
  | text => (false, text)

/-- The value of decimal digits. -/
def natural (digits : Text) : Nat := digits.foldl (fun value c => 10 * value + (c.toNat - 48)) 0

def digits (text : Text) : Option Nat := if text ≠ [] ∧ text.all decimal then some (natural text) else none

/-- `int`, which refuses more digits than `sys.get_int_max_str_digits()`. -/
def int (text : Text) : Option Int :=
  (ungroup decimal false (prepare text)).bind fun text =>
    (digits (signed text).2).bind fun value =>
      if 4300 < (signed text).2.length then none
      else some (if (signed text).1 then -value else value)

def hexPrefix : Text → Text
  | '0' :: 'x' :: '_' :: rest | '0' :: 'X' :: '_' :: rest | '0' :: 'x' :: rest | '0' :: 'X' :: rest => rest
  | text => text

def hexValue (c : Char) : Nat := if decimal c then c.toNat - 48 else c.toLower.toNat - 87

/-- `int` to base 16. -/
def hexInt (text : Text) : Option Int :=
  (ungroup hexadecimal false (hexPrefix (signed (prepare text)).2)).bind fun digits =>
    if digits ≠ [] ∧ digits.all hexadecimal then
      let value : Nat := digits.foldl (fun value c => 16 * value + hexValue c) 0
      some (if (signed (prepare text)).1 then -value else value)
    else none

def exponent : Text → Option Int
  | [] => some 0
  | mark :: rest =>
    if mark = 'e' ∨ mark = 'E' then
      (digits (signed rest).2).map fun value => if (signed rest).1 then -value else value
    else none

def fraction : Text → Text
  | '.' :: rest => rest.takeWhile decimal
  | _ => []

def afterFraction : Text → Text
  | '.' :: rest => rest.dropWhile decimal
  | text => text

/-- The number that digits, a point and an exponent stand for. -/
def decimalNumber (text : Text) : Option Rat :=
  let whole := text.takeWhile decimal
  let rest := text.dropWhile decimal
  if whole = [] ∧ fraction rest = [] then none
  else (exponent (afterFraction rest)).map fun (power : Int) =>
    (natural (whole ++ fraction rest) : Rat) * 10 ^ (power - (fraction rest).length)

def magnitude (text : Text) : Option Double :=
  if text.map Char.toLower = "inf".toList ∨ text.map Char.toLower = "infinity".toList then some (.infinite false)
  else if text.map Char.toLower = "nan".toList then some .nan
  else (decimalNumber text).map Double.ofRat

/-- `float`. -/
def float (text : Text) : Option Double :=
  (ungroup decimal false (prepare text)).bind fun text =>
    (magnitude (signed text).2).map fun value => if (signed text).1 then value.neg else value

theorem int_nil : int [] = none := by decide +kernel

theorem float_nil : float [] = none := by decide +kernel

/-- Digits and points only. -/
def Bare (text : Text) : Prop := ∀ c ∈ text, decimal c = true ∨ c = '.'

variable {text whole decimals : Text} {c : Char}

theorem Bare.head {rest : Text} (bare : Bare (c :: rest)) : decimal c = true ∨ c = '.' := bare c List.mem_cons_self

theorem Bare.tail {rest : Text} (bare : Bare (c :: rest)) : Bare rest :=
  fun other mem => bare other (List.mem_cons_of_mem _ mem)

theorem bare_of_all (decimals : text.all decimal = true) : Bare text :=
  fun c mem => .inl (List.all_eq_true.mp decimals c mem)

theorem bare_point (whole : text.all decimal = true) (rest : decimals.all decimal = true) :
    Bare (text ++ '.' :: decimals) := by
  intro c mem
  rcases List.mem_append.mp mem with before | after
  · exact .inl (List.all_eq_true.mp whole c before)
  · rcases List.mem_cons.mp after with point | behind
    · exact .inr point
    · exact .inl (List.all_eq_true.mp rest c behind)

theorem toNat_of_bare (bare : decimal c = true ∨ c = '.') : 46 ≤ c.toNat ∧ c.toNat ≤ 57 := by
  rcases bare with digit | rfl
  · have range := of_decide_eq_true digit
    omega
  · decide

theorem ne_of_bare {other : Char} (bare : decimal c = true ∨ c = '.') (outside : other.toNat < 46 ∨ 57 < other.toNat) :
    c ≠ other := by
  rintro rfl
  have range := toNat_of_bare bare
  omega

theorem plain_of_bare (bare : decimal c = true ∨ c = '.') : plain c = c := by
  have range := toNat_of_bare bare
  rw [plain, if_pos (by omega)]

theorem blank_of_bare (bare : decimal c = true ∨ c = '.') : blank c = false := by
  have range := toNat_of_bare bare
  rw [blank, Bool.or_eq_false_iff]
  exact ⟨beq_eq_false_iff_ne.mpr (ne_of_bare bare (by decide)), decide_eq_false (by omega)⟩

theorem toLower_of_bare (bare : decimal c = true ∨ c = '.') : c.toLower = c := by
  have range := toNat_of_bare bare
  unfold Char.toLower
  split
  next upper =>
    have least : 65 ≤ c.toNat := upper.1
    omega
  next => rfl

theorem prepare_of_bare (bare : Bare text) : prepare text = text := by
  have same : text.map plain = text := by
    rw [List.map_congr_left fun c mem => plain_of_bare (bare c mem), List.map_id']
  have first : text.dropWhile blank = text := by
    rw [List.dropWhile_eq_self_iff]
    intro nonempty
    rw [blank_of_bare (bare _ (List.getElem_mem nonempty))]
    decide
  have last : text.rdropWhile blank = text := by
    rw [List.rdropWhile_eq_self_iff]
    intro nonempty
    rw [blank_of_bare (bare _ (List.getLast_mem nonempty))]
    decide
  rw [prepare, same, first, last]

theorem ungroup_of_bare (digit : Char → Bool) (afterDigit : Bool) (bare : Bare text) :
    ungroup digit afterDigit text = some text := by
  induction text generalizing afterDigit with
  | nil => rfl
  | cons c rest ih =>
    rw [ungroup, if_neg (ne_of_bare bare.head (by decide)), ih _ bare.tail]
    rfl

theorem signed_of_bare (bare : Bare text) : signed text = (false, text) := by
  cases text with
  | nil => rfl
  | cons c rest =>
    unfold signed
    split
    next same => exact absurd (List.cons.inj same).1 (ne_of_bare bare.head (by decide))
    next same => exact absurd (List.cons.inj same).1 (ne_of_bare bare.head (by decide))
    next => rfl

theorem magnitude_of_bare (bare : Bare text) : magnitude text = (decimalNumber text).map Double.ofRat := by
  have same : text.map Char.toLower = text := by
    rw [List.map_congr_left fun c mem => toLower_of_bare (bare c mem), List.map_id']
  have letters {word : Text} {first : Char} {rest : Text} (spelled : word = first :: rest)
      (letter : 57 < first.toNat) : text ≠ word := by
    rintro rfl
    rw [spelled] at bare
    exact ne_of_bare bare.head (.inr letter) rfl
  have notInf : ¬ (text = "inf".toList ∨ text = "infinity".toList) :=
    not_or.mpr ⟨letters rfl (by decide), letters rfl (by decide)⟩
  have notNan : text ≠ "nan".toList := letters rfl (by decide)
  rw [magnitude, same, if_neg notInf, if_neg notNan]

theorem float_of_bare (bare : Bare text) : float text = (decimalNumber text).map Double.ofRat := by
  rw [float, prepare_of_bare bare, ungroup_of_bare _ _ bare, Option.bind_some, signed_of_bare bare,
    magnitude_of_bare bare]
  exact Option.map_id'

section Value

theorem foldl_natural (start : Nat) (text : Text) :
    text.foldl (fun value c => 10 * value + (c.toNat - 48)) start = start * 10 ^ text.length + natural text := by
  induction text generalizing start with
  | nil => simp [natural]
  | cons c rest ih =>
    rw [natural, List.foldl_cons, List.foldl_cons, ih, ih (10 * 0 + _), List.length_cons]
    ring

theorem natural_append (text rest : Text) :
    natural (text ++ rest) = natural text * 10 ^ rest.length + natural rest := by
  rw [natural, List.foldl_append, foldl_natural]
  rfl

theorem natural_lt (digits : text.all decimal = true) : natural text < 10 ^ text.length := by
  induction text with
  | nil => decide
  | cons c rest ih =>
    rw [List.all_cons, Bool.and_eq_true] at digits
    have range := of_decide_eq_true digits.1
    have below := ih digits.2
    have first : c.toNat - 48 ≤ 9 := by omega
    have leading : (c.toNat - 48) * 10 ^ rest.length ≤ 9 * 10 ^ rest.length := Nat.mul_le_mul_right _ first
    rw [natural, List.foldl_cons, foldl_natural, List.length_cons, pow_succ, Nat.mul_zero, Nat.zero_add]
    omega

theorem takeWhile_digits (digits : text.all decimal = true) (point : Text) :
    (text ++ '.' :: point).takeWhile decimal = text := by
  rw [List.takeWhile_append_of_pos (List.all_eq_true.mp digits)]
  exact List.append_nil text

theorem dropWhile_digits (digits : text.all decimal = true) (point : Text) :
    (text ++ '.' :: point).dropWhile decimal = '.' :: point := by
  rw [List.dropWhile_append_of_pos (List.all_eq_true.mp digits)]
  rfl

theorem decimalNumber_digits (nonempty : text ≠ []) (digits : text.all decimal = true) :
    decimalNumber text = some (natural text : Rat) := by
  have taken : text.takeWhile decimal = text := List.takeWhile_eq_self_iff.mpr (List.all_eq_true.mp digits)
  have dropped : text.dropWhile decimal = [] := List.dropWhile_eq_nil_iff.mpr (List.all_eq_true.mp digits)
  unfold decimalNumber
  rw [taken, dropped]
  simp [nonempty, fraction, afterFraction, exponent]

theorem decimalNumber_point (nonempty : whole ≠ []) (digits : whole.all decimal = true)
    (rest : decimals.all decimal = true) :
    decimalNumber (whole ++ '.' :: decimals) =
      some (natural whole + natural decimals / 10 ^ decimals.length : Rat) := by
  have taken : decimals.takeWhile decimal = decimals := List.takeWhile_eq_self_iff.mpr (List.all_eq_true.mp rest)
  have dropped : decimals.dropWhile decimal = [] := List.dropWhile_eq_nil_iff.mpr (List.all_eq_true.mp rest)
  have read : fraction ('.' :: decimals) = decimals := taken
  have finished : afterFraction ('.' :: decimals) = [] := dropped
  unfold decimalNumber
  dsimp only
  rw [takeWhile_digits digits, dropWhile_digits digits, read, finished, natural_append]
  have scale : (10 : Rat) ^ decimals.length ≠ 0 := by positivity
  simp only [nonempty, false_and, if_false, exponent, Option.map_some, zero_sub, zpow_neg, zpow_natCast, Nat.cast_add,
    Nat.cast_mul, Nat.cast_pow, Nat.cast_ofNat]
  field_simp

end Value

/-- Digits alone are read as they stand. -/
theorem float_digits (nonempty : text ≠ []) (digits : text.all decimal = true) :
    float text = some (Double.ofRat (natural text)) := by
  rw [float_of_bare (bare_of_all digits), decimalNumber_digits nonempty digits]
  rfl

theorem float_point (nonempty : whole ≠ []) (digits : whole.all decimal = true) (rest : decimals.all decimal = true) :
    float (whole ++ '.' :: decimals) =
      some (Double.ofRat (natural whole + natural decimals / 10 ^ decimals.length)) := by
  rw [float_of_bare (bare_point digits rest), decimalNumber_point nonempty digits rest]
  rfl

example : ["1_0.5e1", " .5", "1__0", "5e", "+NaN"].map (fun text => (float text.toList).isSome) =
    [true, true, false, false, true] := by
  decide +kernel

end Wqm1.Library.Numeral
