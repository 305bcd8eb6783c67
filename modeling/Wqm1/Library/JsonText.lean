import Wqm1.Library.Dict
import Wqm1.Library.Numeral

/-! JSON documents the way Python writes and reads them: `json.dumps` in ASCII and `json.loads`. -/

set_option autoImplicit false

namespace Wqm1.Library

inductive Json where
  | null
  | bool (value : Bool)
  | integer (value : Int)
  | real (value : Double)
  | text (value : Text)
  | array (items : List Json)
  | object (members : List (Text × Json))

namespace Json

/-- `members.get(key)`. -/
def get (members : List (Text × Json)) (key : Text) : Json := (members.lookup key).getD null

section Write

def hexDigit (value : Nat) : Char := "0123456789abcdef".toList.getD value '0'

/-- The four hexadecimal digits of a code unit. -/
def hexDigits (unit : Nat) : Text :=
  [hexDigit (unit / 4096 % 16), hexDigit (unit / 256 % 16), hexDigit (unit / 16 % 16), hexDigit (unit % 16)]

def codeUnit (unit : Nat) : Text := '\\' :: 'u' :: hexDigits unit

/-- The letters that stand behind a backslash for a character. -/
def shortEscapes : List (Char × Char) :=
  [('"', '"'), ('\\', '\\'), ('\n', 'n'), ('\r', 'r'), ('\t', 't'), (Char.ofNat 12, 'f'), (Char.ofNat 8, 'b')]

def escaped (c : Char) : Text :=
  match shortEscapes.lookup c with
  | some letter => ['\\', letter]
  | none =>
    if 32 ≤ c.toNat ∧ c.toNat ≤ 126 then [c]
    else if c.toNat < 0x10000 then codeUnit c.toNat
    else codeUnit (0xD800 + (c.toNat - 0x10000) / 1024) ++ codeUnit (0xDC00 + (c.toNat - 0x10000) % 1024)

def quoted (text : Text) : Text := '"' :: (text.flatMap escaped ++ ['"'])

def printed (value : Int) : Text :=
  if value < 0 then '-' :: Nat.toDigits 10 value.natAbs else Nat.toDigits 10 value.natAbs

mutual

/-- `json.dumps`; a float prints as `repr` says. -/
def dumps (repr : Double → Text) : Json → Text
  | null => "null".toList
  | bool true => "true".toList
  | bool false => "false".toList
  | integer value => printed value
  | real value => repr value
  | text value => quoted value
  | array [] => "[]".toList
  | array (item :: rest) => '[' :: (dumps repr item ++ dumpsItems repr rest)
  | object [] => "{}".toList
  | object ((key, value) :: rest) => '{' :: (quoted key ++ ':' :: ' ' :: (dumps repr value ++ dumpsMembers repr rest))

def dumpsItems (repr : Double → Text) : List Json → Text
  | [] => [']']
  | item :: rest => ',' :: ' ' :: (dumps repr item ++ dumpsItems repr rest)

def dumpsMembers (repr : Double → Text) : List (Text × Json) → Text
  | [] => ['}']
  | (key, value) :: rest =>
    ',' :: ' ' :: (quoted key ++ ':' :: ' ' :: (dumps repr value ++ dumpsMembers repr rest))

end

end Write

section Read

def blank (c : Char) : Bool := c == ' ' || c == '\t' || c == '\n' || c == '\r'

def skip (input : Text) : Text := input.dropWhile blank

def hexValue (c : Char) : Option Nat :=
  if 48 ≤ c.toNat ∧ c.toNat ≤ 57 then some (c.toNat - 48)
  else if 97 ≤ c.toNat ∧ c.toNat ≤ 102 then some (c.toNat - 87)
  else if 65 ≤ c.toNat ∧ c.toNat ≤ 70 then some (c.toNat - 55)
  else none

/-- Four hexadecimal digits. -/
def unit (input : Text) : Option (Nat × Text) :=
  match input with
  | a :: b :: c :: d :: rest => do
    return (4096 * (← hexValue a) + 256 * (← hexValue b) + 16 * (← hexValue c) + (← hexValue d), rest)
  | _ => none

/-- The character of one code unit or of a pair of surrogates. A surrogate alone, which a Python string can
hold, is no character. -/
def unicode (input : Text) : Option (Char × Text) := do
  let (high, rest) ← unit input
  if high < 0xD800 ∨ 0xDFFF < high then return (Char.ofNat high, rest)
  match rest with
  | '\\' :: 'u' :: rest => do
    let (low, rest) ← unit rest
    if 0xD800 ≤ high ∧ high < 0xDC00 ∧ 0xDC00 ≤ low ∧ low ≤ 0xDFFF then
      return (Char.ofNat (0x10000 + 1024 * (high - 0xD800) + (low - 0xDC00)), rest)
    else none
  | _ => none

/-- What an escape stands for, behind its backslash. -/
def unescaped : Text → Option (Char × Text)
  | [] => none
  | 'u' :: rest => unicode rest
  | '/' :: rest => some ('/', rest)
  | letter :: rest => (shortEscapes.find? fun pair => pair.2 = letter).map fun pair => (pair.1, rest)

/-- A string behind its opening quote. -/
def string : Nat → Text → Option (Text × Text)
  | 0, _ => none
  | fuel + 1, input =>
    match input with
    | [] => none
    | c :: rest =>
      if c = '"' then some ([], rest)
      else if c = '\\' then do
        let (c, rest) ← unescaped rest
        let (read, rest) ← string fuel rest
        return (c :: read, rest)
      else if c.toNat < 32 then none
      else do
        let (read, rest) ← string fuel rest
        return (c :: read, rest)

def wholePart : Text → Text
  | '0' :: _ => ['0']
  | input => input.takeWhile Numeral.decimal

/-- A point with digits. -/
def fractionPart : Text → Text
  | '.' :: rest => if rest.takeWhile Numeral.decimal = [] then [] else '.' :: rest.takeWhile Numeral.decimal
  | _ => []

def signPart (input : Text) : Text := if input.head? = some '+' ∨ input.head? = some '-' then input.take 1 else []

def exponentPart : Text → Text
  | [] => []
  | mark :: rest =>
    let digits := (rest.drop (signPart rest).length).takeWhile Numeral.decimal
    if (mark = 'e' ∨ mark = 'E') ∧ digits ≠ [] then mark :: (signPart rest ++ digits) else []

/-- A number behind its sign: an integer of at most 4300 digits, or a float. -/
def unsignedNumber (negative : Bool) (input : Text) : Option (Json × Text) :=
  let whole := wholePart input
  let behind := input.drop whole.length
  let fraction := fractionPart behind
  let exponent := exponentPart (behind.drop fraction.length)
  if whole = [] then none
  else if fraction = [] ∧ exponent = [] then
    if 4300 < whole.length then none
    else some (integer (if negative then -(Numeral.natural whole : Int) else Numeral.natural whole), behind)
  else
    let literal := (if negative then ['-'] else []) ++ whole ++ fraction ++ exponent
    (Numeral.float literal).map fun value => (real value, behind.drop (fraction ++ exponent).length)

def number (input : Text) : Option (Json × Text) :=
  if input.head? = some '-' then unsignedNumber true (input.drop 1) else unsignedNumber false input

def constants : List (Text × Json) :=
  [("null".toList, null), ("true".toList, bool true), ("false".toList, bool false), ("NaN".toList, real .nan),
    ("Infinity".toList, real (.infinite false)), ("-Infinity".toList, real (.infinite true))]

/-- A number or a constant, none of which reads as a number. -/
def scalar (input : Text) : Option (Json × Text) :=
  match number input with
  | some read => some read
  | none => (constants.find? fun constant => constant.1.isPrefixOf input).map fun constant =>
    (constant.2, input.drop constant.1.length)

/-- `dict(pairs)`: of two members with one key the last value is kept, in the first place. -/
def collect (pairs : List (Text × Json)) : List (Text × Json) :=
  pairs.foldl (fun members pair => Dict.setEntries members pair.1 pair.2) []

mutual

/-- A value at the head of a text, and what follows it. -/
def value : Nat → Text → Option (Json × Text)
  | 0, _ => none
  | fuel + 1, input =>
    match input with
    | '"' :: rest => (string (rest.length + 1) rest).map fun read => (Json.text read.1, read.2)
    | '[' :: rest =>
      match skip rest with
      | ']' :: rest => some (array [], rest)
      | rest => (items fuel rest).map fun read => (array read.1, read.2)
    | '{' :: rest =>
      match skip rest with
      | '}' :: rest => some (object [], rest)
      | rest => (members fuel rest).map fun read => (object (collect read.1), read.2)
    | input => scalar input

/-- The items of an array up to its end, of which there is one at least. -/
def items : Nat → Text → Option (List Json × Text)
  | 0, _ => none
  | fuel + 1, input => do
    let (item, rest) ← value fuel input
    match skip rest with
    | ']' :: rest => return ([item], rest)
    | ',' :: rest => do
      let (others, rest) ← items fuel (skip rest)
      return (item :: others, rest)
    | _ => none

/-- The members of an object up to its end, of which there is one at least. -/
def members : Nat → Text → Option (List (Text × Json) × Text)
  | 0, _ => none
  | fuel + 1, input =>
    match input with
    | '"' :: rest => do
      let (key, rest) ← string (rest.length + 1) rest
      match skip rest with
      | ':' :: rest => do
        let (value, rest) ← value fuel (skip rest)
        match skip rest with
        | '}' :: rest => return ([(key, value)], rest)
        | ',' :: rest => do
          let (others, rest) ← members fuel (skip rest)
          return ((key, value) :: others, rest)
        | _ => none
      | _ => none
    | _ => none

end

/-- `json.loads`. Every second call takes a character, so the fuel never runs out. -/
def loads (input : Text) : Option Json := do
  let (json, rest) ← value (2 * input.length + 1) (skip input)
  if skip rest = [] then return json else none

end Read

section Strings

theorem hexValue_hexDigit : ∀ value < 16, hexValue (hexDigit value) = some value := by decide

theorem unit_hexDigits {number : Nat} (small : number < 0x10000) (rest : Text) :
    unit (hexDigits number ++ rest) = some (number, rest) := by
  have digit (shifted : Nat) : hexValue (hexDigit (shifted % 16)) = some (shifted % 16) :=
    hexValue_hexDigit _ (Nat.mod_lt _ (by decide))
  simp only [hexDigits, unit, List.cons_append, List.nil_append, digit, Option.bind_eq_bind, Option.bind_some,
    Option.pure_def, Option.some.injEq, Prod.mk.injEq, and_true]
  omega

theorem unescaped_unit {c : Char} (low : c.toNat < 0x10000) (rest : Text) :
    unescaped ('u' :: hexDigits c.toNat ++ rest) = some (c, rest) := by
  have scalar : c.toNat < 0xD800 ∨ 0xDFFF < c.toNat := by
    rcases c.valid with below | above
    · exact .inl below
    · exact .inr above.1
  change unicode (hexDigits c.toNat ++ rest) = _
  simp only [unicode, unit_hexDigits low, Option.bind_eq_bind, Option.bind_some, if_pos scalar, Char.ofNat_toNat,
    Option.pure_def]

theorem unescaped_units {first second : Nat} (high : 0xD800 ≤ first ∧ first < 0xDC00)
    (low : 0xDC00 ≤ second ∧ second ≤ 0xDFFF) (rest : Text) :
    unescaped ('u' :: hexDigits first ++ (codeUnit second ++ rest)) =
      some (Char.ofNat (0x10000 + 1024 * (first - 0xD800) + (second - 0xDC00)), rest) := by
  change unicode (hexDigits first ++ '\\' :: 'u' :: (hexDigits second ++ rest)) = _
  have surrogate : ¬(first < 0xD800 ∨ 0xDFFF < first) := by omega
  rw [unicode, unit_hexDigits (by omega)]
  simp only [Option.bind_eq_bind, Option.bind_some, if_neg surrogate]
  rw [unit_hexDigits (by omega)]
  simp only [Option.bind_some]
  rw [if_pos ⟨high.1, high.2, low.1, low.2⟩, Option.pure_def]

theorem unescaped_pair {c : Char} (high : 0x10000 ≤ c.toNat) (rest : Text) :
    unescaped ('u' :: hexDigits (0xD800 + (c.toNat - 0x10000) / 1024) ++
      (codeUnit (0xDC00 + (c.toNat - 0x10000) % 1024) ++ rest)) = some (c, rest) := by
  have bound : c.toNat < 0x110000 := by
    rcases c.valid with below | above
    · exact Nat.lt_trans below (by decide)
    · exact above.2
  have same : 0x10000 + 1024 * (0xD800 + (c.toNat - 0x10000) / 1024 - 0xD800) +
      (0xDC00 + (c.toNat - 0x10000) % 1024 - 0xDC00) = c.toNat := by omega
  rw [unescaped_units (by omega) (by omega), same, Char.ofNat_toNat]

/-- A character stands for itself or is escaped. -/
theorem escaped_cases (c : Char) :
    (escaped c = [c] ∧ c ≠ '"' ∧ c ≠ '\\' ∧ 32 ≤ c.toNat) ∨
      ∃ tail, escaped c = '\\' :: tail ∧ ∀ rest, unescaped (tail ++ rest) = some (c, rest) := by
  unfold escaped
  split
  next letter found =>
    refine .inr ⟨[letter], rfl, fun rest => ?_⟩
    have known : (c, letter) ∈ shortEscapes := by
      obtain ⟨before, after, split, _⟩ := List.lookup_eq_some_iff.mp found
      rw [split]
      simp
    simp only [shortEscapes, List.mem_cons, List.not_mem_nil, or_false, Prod.mk.injEq] at known
    rcases known with ⟨rfl, rfl⟩ | ⟨rfl, rfl⟩ | ⟨rfl, rfl⟩ | ⟨rfl, rfl⟩ | ⟨rfl, rfl⟩ | ⟨rfl, rfl⟩ | ⟨rfl, rfl⟩ <;> rfl
  next unknown =>
    split
    next printable =>
      refine .inl ⟨rfl, ?_, ?_, printable.1⟩
      · rintro rfl
        cases unknown
      · rintro rfl
        cases unknown
    next =>
      split
      next low => exact .inr ⟨_, rfl, unescaped_unit low⟩
      next high =>
        refine .inr ⟨_, rfl, fun rest => ?_⟩
        exact List.append_assoc _ _ rest ▸ unescaped_pair (Nat.le_of_not_lt high) rest

theorem string_flatMap (text rest : Text) {fuel : Nat} (enough : text.length < fuel) :
    string fuel (text.flatMap escaped ++ '"' :: rest) = some (text, rest) := by
  induction text generalizing fuel with
  | nil =>
    obtain ⟨fuel, rfl⟩ := Nat.exists_eq_succ_of_ne_zero (Nat.ne_of_gt enough)
    rfl
  | cons c others ih =>
    obtain ⟨fuel, rfl⟩ := Nat.exists_eq_succ_of_ne_zero (Nat.ne_of_gt (Nat.lt_of_le_of_lt (Nat.zero_le _) enough))
    have read := ih (Nat.lt_of_succ_lt_succ enough)
    rw [List.flatMap_cons, List.append_assoc]
    rcases escaped_cases c with ⟨plain, quote, slash, printable⟩ | ⟨tail, escapes, reads⟩
    · rw [plain, List.singleton_append, string]
      simp only [quote, slash, ↓reduceIte, if_neg (Nat.not_lt.mpr printable), read, Option.bind_eq_bind,
        Option.bind_some, Option.pure_def]
    · rw [escapes, List.cons_append, string]
      simp only [Char.reduceEq, ↓reduceIte, reads, read, Option.bind_eq_bind, Option.bind_some, Option.pure_def]

theorem length_le_flatMap (text : Text) : text.length ≤ (text.flatMap escaped).length := by
  induction text with
  | nil => exact Nat.le_refl 0
  | cons c rest ih =>
    have one : 1 ≤ (escaped c).length := by
      rcases escaped_cases c with ⟨plain, _⟩ | ⟨tail, escapes, _⟩
      · simp [plain]
      · simp [escapes]
    rw [List.flatMap_cons, List.length_append, List.length_cons]
    omega

theorem string_quoted (text rest : Text) :
    string ((text.flatMap escaped ++ '"' :: rest).length + 1) (text.flatMap escaped ++ '"' :: rest) =
      some (text, rest) := by
  refine string_flatMap text rest ?_
  have shorter := length_le_flatMap text
  simp only [List.length_append, List.length_cons]
  omega

end Strings

section Numbers

/-- What follows does not go on with a number. -/
def Stops (rest : Text) : Prop := ∀ c ∈ rest.head?, Numeral.decimal c = false ∧ c ≠ '.' ∧ c ≠ 'e' ∧ c ≠ 'E'

theorem decimal_of_mem_toDigits {n : Nat} {c : Char} (digit : c ∈ Nat.toDigits 10 n) : Numeral.decimal c = true := by
  have known := Nat.isDigit_of_mem_toDigits (by decide) (by decide) digit
  simp only [Char.isDigit, Bool.and_eq_true, decide_eq_true_eq] at known
  exact decide_eq_true ⟨known.1, known.2⟩

theorem natural_toDigits (n : Nat) : Numeral.natural (Nat.toDigits 10 n) = n := by
  have read := Nat.ofDigitChars_ten_toDigits (n := n)
  rw [Nat.ofDigitChars_eq_foldl] at read
  exact read

/-- No number but 0 prints with a zero in front. -/
theorem toDigits_zero_head {n : Nat} {rest : Text} (zero : Nat.toDigits 10 n = '0' :: rest) : n = 0 := by
  induction n using Nat.strongRecOn generalizing rest with
  | ind n ih =>
    by_cases small : n < 10
    · rw [Nat.toDigits_of_lt_base small] at zero
      have digit : ∀ k < 10, Nat.digitChar k = '0' → k = 0 := by decide
      exact digit n small (List.cons.inj zero).1
    · rw [Nat.toDigits_of_base_le (by decide) (Nat.le_of_not_lt small)] at zero
      obtain ⟨first, others, split⟩ := List.exists_cons_of_ne_nil (Nat.toDigits_ne_nil (n := n / 10) (b := 10))
      rw [split, List.cons_append] at zero
      have none := ih (n / 10) (by omega) (split.trans (congrArg (· :: others) (List.cons.inj zero).1))
      omega

theorem wholePart_toDigits (n : Nat) {rest : Text} (stops : Stops rest) :
    wholePart (Nat.toDigits 10 n ++ rest) = Nat.toDigits 10 n := by
  by_cases zero : n = 0
  · subst zero
    rfl
  · have taken : (Nat.toDigits 10 n ++ rest).takeWhile Numeral.decimal = Nat.toDigits 10 n := by
      rw [List.takeWhile_append_of_pos fun c digit => decimal_of_mem_toDigits digit]
      cases rest with
      | nil => simp
      | cons c others => simp [(stops c rfl).1]
    unfold wholePart
    split
    next others head =>
      obtain ⟨first, digits, split⟩ := List.exists_cons_of_ne_nil (Nat.toDigits_ne_nil (n := n) (b := 10))
      rw [split, List.cons_append] at head
      exact (zero (toDigits_zero_head (split.trans (congrArg (· :: digits) (List.cons.inj head).1)))).elim
    next => exact taken

theorem fractionPart_of_stops {rest : Text} (stops : Stops rest) : fractionPart rest = [] := by
  unfold fractionPart
  split
  next => exact ((stops '.' rfl).2.1 rfl).elim
  next => rfl

theorem exponentPart_of_stops {rest : Text} (stops : Stops rest) : exponentPart rest = [] := by
  cases rest with
  | nil => rfl
  | cons c others =>
    obtain ⟨-, -, small, large⟩ := stops c rfl
    simp [exponentPart, small, large]

theorem unsignedNumber_toDigits {n : Nat} (short : (Nat.toDigits 10 n).length ≤ 4300) {rest : Text}
    (stops : Stops rest) (negative : Bool) :
    unsignedNumber negative (Nat.toDigits 10 n ++ rest) =
      some (integer (if negative then -(n : Int) else n), rest) := by
  unfold unsignedNumber
  simp only [wholePart_toDigits n stops, List.drop_left, fractionPart_of_stops stops, exponentPart_of_stops stops,
    List.length_nil, List.drop_zero, Nat.toDigits_ne_nil, ↓reduceIte, and_self, if_neg (Nat.not_lt.mpr short),
    natural_toDigits]

/-- An integer prints with digits that Python reads again. -/
def Short (value : Int) : Prop := (Nat.toDigits 10 value.natAbs).length ≤ 4300

theorem short_of_lt {value : Int} (count : Nat) (positive : 0 < count) (few : count ≤ 4300)
    (small : value.natAbs < 10 ^ count) : Short value :=
  ((Nat.length_toDigits_le_iff (by decide) positive).mpr small).trans few

theorem short_of_lt_two_pow {value : Int} (count : Nat) (positive : 0 < count) (few : count ≤ 4300)
    (small : value.natAbs < 2 ^ count) : Short value :=
  short_of_lt count positive few (small.trans_le (Nat.pow_le_pow_left (by decide) count))

theorem short_zero : Short 0 := short_of_lt 1 (by decide) (by decide) (Nat.pow_pos (by decide))

/-- What Python has read it can print. -/
theorem short_of_int {text : Text} {value : Int} (read : Numeral.int text = some value) : Short value := by
  obtain ⟨plain, -, bound⟩ := Option.bind_eq_some_iff.mp read
  obtain ⟨magnitude, digits, kept⟩ := Option.bind_eq_some_iff.mp bound
  obtain ⟨⟨nonempty, decimals⟩, natural⟩ := Option.ite_none_right_eq_some.mp digits
  obtain ⟨few, signed⟩ := Option.ite_none_left_eq_some.mp kept
  rw [← Option.some.inj signed, ← Option.some.inj natural]
  refine short_of_lt _ (List.length_pos_iff.mpr nonempty) (Nat.le_of_not_lt few) ?_
  have below := Numeral.natural_lt decimals
  split <;> omega

theorem head_toDigits (n : Nat) (rest : Text) : ∃ c, (Nat.toDigits 10 n ++ rest).head? = some c ∧
    Numeral.decimal c = true := by
  obtain ⟨first, digits, split⟩ := List.exists_cons_of_ne_nil (Nat.toDigits_ne_nil (n := n) (b := 10))
  exact ⟨first, by rw [split]; rfl, decimal_of_mem_toDigits (split ▸ List.mem_cons_self)⟩

theorem number_printed {value : Int} (short : Short value) {rest : Text} (stops : Stops rest) :
    number (printed value ++ rest) = some (integer value, rest) := by
  unfold number printed
  split
  next negative =>
    rw [List.cons_append, List.head?_cons, if_pos rfl, List.drop_one, List.tail_cons,
      unsignedNumber_toDigits short stops]
    simp only [↓reduceIte, Option.some.injEq, Prod.mk.injEq, integer.injEq, and_true]
    omega
  next positive =>
    obtain ⟨c, head, digit⟩ := head_toDigits value.natAbs rest
    have unsigned : c ≠ '-' := by
      rintro rfl
      cases digit
    rw [head, if_neg fun minus => unsigned (Option.some.inj minus), unsignedNumber_toDigits short stops]
    simp only [Bool.false_eq_true, ↓reduceIte, Option.some.injEq, Prod.mk.injEq, integer.injEq, and_true]
    omega

/-- The first character of an integer is a digit or a minus. -/
theorem printed_head (value : Int) (rest : Text) : ∃ c others, printed value ++ rest = c :: others ∧
    (Numeral.decimal c = true ∨ c = '-') := by
  obtain ⟨c, head, digit⟩ := head_toDigits value.natAbs rest
  unfold printed
  split
  next negative => exact ⟨'-', _, rfl, .inr rfl⟩
  next positive =>
    obtain ⟨others, split⟩ := List.head?_eq_some_iff.mp head
    exact ⟨c, others, split, .inl digit⟩

/-- An integer reads back where no digit, point or exponent follows. -/
theorem scalar_printed {value : Int} (short : Short value) {rest : Text} (stops : Stops rest) :
    scalar (printed value ++ rest) = some (integer value, rest) := by
  rw [scalar, number_printed short stops]

end Numbers

section RoundTrip

/-- No float, and no integer that prints too long; the keys of an object are all different. -/
inductive Plain : Json → Prop where
  | null : Plain null
  | bool (value : Bool) : Plain (bool value)
  | integer {value : Int} (short : Short value) : Plain (integer value)
  | text (value : Text) : Plain (text value)
  | array {items : List Json} (plain : ∀ item ∈ items, Plain item) : Plain (array items)
  | object {members : List (Text × Json)} (plain : ∀ member ∈ members, Plain member.2)
      (distinct : (members.map Prod.fst).Nodup) : Plain (object members)

variable {repr : Double → Text}

/-- How a value begins: not with a blank, nor as an array or an object ends. -/
def Opens (text : Text) : Prop := ∃ c rest, text = c :: rest ∧ blank c = false ∧ c ≠ ']' ∧ c ≠ '}'

theorem Opens.skip {text : Text} (opens : Opens text) : skip text = text := by
  obtain ⟨c, rest, rfl, solid, -⟩ := opens
  simp [Json.skip, solid]

theorem Opens.append {text : Text} (opens : Opens text) (rest : Text) : Opens (text ++ rest) := by
  obtain ⟨c, others, rfl, solid⟩ := opens
  exact ⟨c, others ++ rest, rfl, solid⟩

theorem opens_dumps {json : Json} (plain : Plain json) : Opens (dumps repr json) := by
  cases plain with
  | null => exact ⟨_, _, rfl, by decide⟩
  | bool value =>
    cases value with
    | true => exact ⟨_, _, rfl, by decide⟩
    | false => exact ⟨_, _, rfl, by decide⟩
  | @integer value short =>
    obtain ⟨c, others, split, first⟩ := printed_head value []
    rw [List.append_nil] at split
    refine ⟨c, others, split, ?_⟩
    rcases first with digit | rfl
    · have apart (other : Char) (letter : Numeral.decimal other = false) : c ≠ other := by
        rintro rfl
        rw [digit] at letter
        cases letter
      refine ⟨?_, apart _ (by decide), apart _ (by decide)⟩
      simp [blank, apart ' ' (by decide), apart '\t' (by decide), apart '\n' (by decide), apart '\r' (by decide)]
    · decide
  | text value => exact ⟨_, _, rfl, by decide⟩
  | @array items plain =>
    cases items with
    | nil => exact ⟨_, _, rfl, by decide⟩
    | cons item rest => exact ⟨_, _, rfl, by decide⟩
  | @object members plain distinct =>
    cases members with
    | nil => exact ⟨_, _, rfl, by decide⟩
    | cons member rest => exact ⟨_, _, rfl, by decide⟩

/-- With fuel for its length a value reads back from what it prints, in front of whatever stops a number. -/
def Reads (repr : Double → Text) (json : Json) : Prop :=
  ∀ fuel rest, 2 * (dumps repr json).length ≤ fuel → Stops rest →
    value fuel (dumps repr json ++ rest) = some (json, rest)

theorem stops_cons {c : Char} (solid : Numeral.decimal c = false ∧ c ≠ '.' ∧ c ≠ 'e' ∧ c ≠ 'E') (rest : Text) :
    Stops (c :: rest) := by
  intro head same
  cases same
  exact solid

theorem stops_items (items : List Json) (rest : Text) : Stops (dumpsItems repr items ++ rest) := by
  cases items with
  | nil => exact stops_cons (by decide) _
  | cons item others => exact stops_cons (by decide) _

theorem stops_members (members : List (Text × Json)) (rest : Text) : Stops (dumpsMembers repr members ++ rest) := by
  cases members with
  | nil => exact stops_cons (by decide) _
  | cons member others => exact stops_cons (by decide) _

theorem skip_space {text : Text} (opens : Opens text) : skip (' ' :: text) = text := opens.skip

theorem items_dumps {item : Json} {others : List Json} (reads : ∀ json ∈ item :: others, Reads repr json)
    (opens : ∀ json ∈ item :: others, Opens (dumps repr json)) {fuel : Nat}
    (enough : 2 * (dumps repr item).length + 2 * (dumpsItems repr others).length ≤ fuel) (rest : Text) :
    items fuel (dumps repr item ++ (dumpsItems repr others ++ rest)) = some (item :: others, rest) := by
  induction others generalizing item fuel with
  | nil =>
    have some : 1 ≤ (dumpsItems repr []).length := Nat.le_refl 1
    obtain ⟨fuel, rfl⟩ := Nat.exists_eq_succ_of_ne_zero (n := fuel) (by omega)
    rw [items, reads item List.mem_cons_self fuel _ (by omega) (stops_items [] rest)]
    rfl
  | cons next others ih =>
    have grown : (dumpsItems repr (next :: others)).length =
        (dumps repr next).length + (dumpsItems repr others).length + 2 := by
      simp only [dumpsItems, List.length_cons, List.length_append]
    obtain ⟨fuel, rfl⟩ := Nat.exists_eq_succ_of_ne_zero (n := fuel) (by omega)
    have read : items fuel (dumps repr next ++ (dumpsItems repr others ++ rest)) = some (next :: others, rest) :=
      ih (fun json member => reads json (List.mem_cons_of_mem _ member))
        (fun json member => opens json (List.mem_cons_of_mem _ member)) (by omega)
    rw [items, reads item List.mem_cons_self fuel _ (by omega) (stops_items _ rest)]
    have opened := (opens next (List.mem_cons_of_mem _ List.mem_cons_self)).append (dumpsItems repr others ++ rest)
    have comma : skip (dumpsItems repr (next :: others) ++ rest) =
        ',' :: ' ' :: (dumps repr next ++ (dumpsItems repr others ++ rest)) := by
      simp only [dumpsItems, List.cons_append, List.append_assoc]
      rfl
    simp only [Option.bind_eq_bind, Option.bind_some, comma, skip_space opened, read, Option.pure_def]

theorem string_key (key : Text) (rest : Text) : ∃ behind, quoted key ++ rest = '"' :: behind ∧
    string (behind.length + 1) behind = some (key, rest) := by
  refine ⟨key.flatMap escaped ++ '"' :: rest, ?_, string_quoted key rest⟩
  simp only [quoted, List.cons_append, List.append_assoc, List.nil_append]

theorem members_dumps {key : Text} {json : Json} {others : List (Text × Json)}
    (reads : ∀ member ∈ (key, json) :: others, Reads repr member.2)
    (opens : ∀ member ∈ (key, json) :: others, Opens (dumps repr member.2)) {fuel : Nat}
    (enough : 2 * (dumps repr json).length + 2 * (dumpsMembers repr others).length ≤ fuel) (rest : Text) :
    members fuel (quoted key ++ ':' :: ' ' :: (dumps repr json ++ (dumpsMembers repr others ++ rest))) =
      some ((key, json) :: others, rest) := by
  have itself : Reads repr json := reads _ List.mem_cons_self
  have opened : Opens (dumps repr json) := opens _ List.mem_cons_self
  induction others generalizing key json fuel with
  | nil =>
    have some : 1 ≤ (dumpsMembers repr []).length := Nat.le_refl 1
    obtain ⟨fuel, rfl⟩ := Nat.exists_eq_succ_of_ne_zero (n := fuel) (by omega)
    obtain ⟨behind, split, named⟩ := string_key key (':' :: ' ' :: (dumps repr json ++ (dumpsMembers repr [] ++ rest)))
    have colon (text : Text) : skip (':' :: text) = ':' :: text := rfl
    rw [split, members]
    simp only [named, Option.bind_eq_bind, Option.bind_some, colon, skip_space (opened.append _),
      itself fuel _ (by omega) (stops_members [] rest)]
    rfl
  | cons next others ih =>
    obtain ⟨name, value⟩ := next
    have grown : (dumpsMembers repr ((name, value) :: others)).length =
        (quoted name).length + (dumps repr value).length + (dumpsMembers repr others).length + 4 := by
      simp only [dumpsMembers, List.length_cons, List.length_append]
      omega
    obtain ⟨fuel, rfl⟩ := Nat.exists_eq_succ_of_ne_zero (n := fuel) (by omega)
    have read : members fuel (quoted name ++ ':' :: ' ' :: (dumps repr value ++ (dumpsMembers repr others ++ rest))) =
        some ((name, value) :: others, rest) :=
      ih (fun member mem => reads member (List.mem_cons_of_mem _ mem))
        (fun member mem => opens member (List.mem_cons_of_mem _ mem)) (by omega)
        (reads _ (List.mem_cons_of_mem _ List.mem_cons_self)) (opens _ (List.mem_cons_of_mem _ List.mem_cons_self))
    obtain ⟨behind, split, named⟩ :=
      string_key key (':' :: ' ' :: (dumps repr json ++ (dumpsMembers repr ((name, value) :: others) ++ rest)))
    have colon (text : Text) : skip (':' :: text) = ':' :: text := rfl
    have comma : skip (dumpsMembers repr ((name, value) :: others) ++ rest) =
        ',' :: ' ' :: (quoted name ++ ':' :: ' ' :: (dumps repr value ++ (dumpsMembers repr others ++ rest))) := by
      simp only [dumpsMembers, List.cons_append, List.append_assoc]
      rfl
    have quote (text : Text) : skip (' ' :: (quoted name ++ text)) = quoted name ++ text := rfl
    rw [split, members]
    simp only [named, Option.bind_eq_bind, Option.bind_some, colon, skip_space (opened.append _),
      itself fuel _ (by omega) (stops_members _ rest), comma, quote, read, Option.pure_def]

theorem foldl_setEntries {pairs entries : List (Text × Json)} (distinct : ((entries ++ pairs).map Prod.fst).Nodup) :
    pairs.foldl (fun members pair => Dict.setEntries members pair.1 pair.2) entries = entries ++ pairs := by
  induction pairs generalizing entries with
  | nil => exact (List.append_nil entries).symm
  | cons pair rest ih =>
    have absent : pair.1 ∉ entries.map Prod.fst := by
      intro member
      rw [List.map_append, List.nodup_append] at distinct
      exact distinct.2.2 _ member _ List.mem_cons_self rfl
    rw [List.foldl_cons, Dict.setEntries_of_absent absent, ih (by simpa using distinct), List.append_assoc,
      List.singleton_append]

theorem collect_of_nodup {pairs : List (Text × Json)} (distinct : (pairs.map Prod.fst).Nodup) : collect pairs = pairs :=
  foldl_setEntries distinct

/-- A value that starts like none of strings, arrays and objects is a scalar. -/
theorem value_scalar {c : Char} {rest : Text} (starts : c ≠ '"' ∧ c ≠ '[' ∧ c ≠ '{') (fuel : Nat) :
    value (fuel + 1) (c :: rest) = scalar (c :: rest) := by
  rw [value]
  · exact fun _ same => starts.1 (List.cons.inj same).1
  · exact fun _ same => starts.2.1 (List.cons.inj same).1
  · exact fun _ same => starts.2.2 (List.cons.inj same).1

theorem reads_of_succ {json : Json} (opens : Opens (dumps repr json))
    (reads : ∀ fuel rest, 2 * (dumps repr json).length ≤ fuel + 1 → Stops rest →
      value (fuel + 1) (dumps repr json ++ rest) = some (json, rest)) : Reads repr json := by
  intro fuel rest enough stops
  obtain ⟨c, others, split, -⟩ := opens
  have some : 1 ≤ (dumps repr json).length := by rw [split]; exact Nat.succ_pos _
  obtain ⟨fuel, rfl⟩ := Nat.exists_eq_succ_of_ne_zero (n := fuel) (by omega)
  exact reads fuel rest enough stops

theorem reads_of_plain {json : Json} (plain : Plain json) : Reads repr json := by
  induction plain with
  | null => exact reads_of_succ (opens_dumps .null) fun fuel _ _ _ => value_scalar (by decide) fuel
  | bool value =>
    refine reads_of_succ (opens_dumps (.bool value)) fun fuel rest _ _ => ?_
    cases value with
    | true => exact value_scalar (by decide) fuel
    | false => exact value_scalar (by decide) fuel
  | @integer value short =>
    refine reads_of_succ (opens_dumps (.integer short)) fun fuel rest _ stops => ?_
    obtain ⟨c, others, split, first⟩ := printed_head value rest
    have starts : c ≠ '"' ∧ c ≠ '[' ∧ c ≠ '{' := by
      rcases first with digit | rfl
      · refine ⟨?_, ?_, ?_⟩ <;> (rintro rfl; cases digit)
      · decide
    rw [dumps, split, value_scalar starts, ← split, scalar_printed short stops]
  | text written =>
    refine reads_of_succ (opens_dumps (.text written)) fun fuel rest _ _ => ?_
    obtain ⟨behind, split, read⟩ := string_key written rest
    rw [dumps, split, value, read]
    rfl
  | @array elements plain ih =>
    refine reads_of_succ (opens_dumps (.array plain)) fun fuel rest enough _ => ?_
    cases elements with
    | nil => rfl
    | cons item others =>
      have opens (json : Json) (member : json ∈ item :: others) : Opens (dumps repr json) :=
        opens_dumps (plain json member)
      have read : items fuel (dumps repr item ++ (dumpsItems repr others ++ rest)) = some (item :: others, rest) := by
        refine items_dumps ih opens ?_ rest
        simp only [dumps, List.length_cons, List.length_append] at enough
        omega
      have opened := (opens item List.mem_cons_self).append (dumpsItems repr others ++ rest)
      have skipped := opened.skip
      obtain ⟨c, behind, split, -, bracket, -⟩ := opened
      rw [dumps, List.cons_append, List.append_assoc, value, skipped]
      rw [split] at read ⊢
      split
      next others same => exact (bracket (List.cons.inj same).1).elim
      next => rw [read]; rfl
  | @object pairs plain distinct ih =>
    refine reads_of_succ (opens_dumps (.object plain distinct)) fun fuel rest enough _ => ?_
    cases pairs with
    | nil => rfl
    | cons pair others =>
      obtain ⟨key, json⟩ := pair
      have read : members fuel (quoted key ++ ':' :: ' ' :: (dumps repr json ++ (dumpsMembers repr others ++ rest))) =
          some ((key, json) :: others, rest) := by
        refine members_dumps ih (fun member mem => opens_dumps (plain member mem)) ?_ rest
        simp only [dumps, List.length_cons, List.length_append] at enough
        omega
      have shown : dumps repr (object ((key, json) :: others)) ++ rest =
          '{' :: (quoted key ++ ':' :: ' ' :: (dumps repr json ++ (dumpsMembers repr others ++ rest))) := by
        simp only [dumps, List.cons_append, List.append_assoc]
      have skipped (text : Text) : skip (quoted key ++ text) = quoted key ++ text := rfl
      rw [shown, value, skipped]
      obtain ⟨behind, split, -⟩ :=
        string_key key (':' :: ' ' :: (dumps repr json ++ (dumpsMembers repr others ++ rest)))
      rw [split] at read ⊢
      change (members fuel ('"' :: behind)).map (fun read => (object (collect read.1), read.2)) = _
      rw [read, Option.map_some, collect_of_nodup distinct]

/-- `json.loads(json.dumps(value))`. -/
theorem loads_dumps {json : Json} (plain : Plain json) : loads (dumps repr json) = some json := by
  have read := (reads_of_plain plain : Reads repr json) (2 * (dumps repr json).length + 1) [] (Nat.le_succ _)
    fun _ absent => by cases absent
  rw [List.append_nil] at read
  unfold loads
  rw [(opens_dumps plain).skip, read]
  rfl

end RoundTrip

section Ascii

def Printable (text : Text) : Prop := ∀ c ∈ text, 32 ≤ c.toNat ∧ c.toNat ≤ 126

theorem printable_of_all (text : Text) (all : text.all (fun c => 32 ≤ c.toNat && c.toNat ≤ 126) = true) :
    Printable text := by
  intro c mem
  simpa using List.all_eq_true.mp all c mem

theorem Printable.append {first second : Text} (left : Printable first) (right : Printable second) :
    Printable (first ++ second) :=
  fun c mem => (List.mem_append.mp mem).elim (left c) (right c)

theorem Printable.cons {c : Char} {rest : Text} (head : 32 ≤ c.toNat ∧ c.toNat ≤ 126) (tail : Printable rest) :
    Printable (c :: rest) :=
  fun other mem => (List.mem_cons.mp mem).elim (fun same => same ▸ head) (tail other)

theorem printable_hexDigits (unit : Nat) : Printable (hexDigits unit) := by
  have digit (shifted : Nat) : 32 ≤ (hexDigit (shifted % 16)).toNat ∧ (hexDigit (shifted % 16)).toNat ≤ 126 := by
    have known : ∀ value < 16, 32 ≤ (hexDigit value).toNat ∧ (hexDigit value).toNat ≤ 126 := by decide
    exact known _ (Nat.mod_lt _ (by decide))
  exact .cons (digit _) (.cons (digit _) (.cons (digit _) (.cons (digit _) fun _ absent => by cases absent)))

theorem printable_codeUnit (unit : Nat) : Printable (codeUnit unit) :=
  .cons (by decide) (.cons (by decide) (printable_hexDigits unit))

theorem printable_escaped (c : Char) : Printable (escaped c) := by
  unfold escaped
  split
  next letter found =>
    obtain ⟨before, after, split, _⟩ := List.lookup_eq_some_iff.mp found
    have known : ∀ pair ∈ shortEscapes, 32 ≤ pair.2.toNat ∧ pair.2.toNat ≤ 126 := by decide
    exact .cons (by decide) (.cons (known (c, letter) (by rw [split]; simp)) fun _ absent => by cases absent)
  next =>
    split
    next plain => exact .cons plain fun _ absent => by cases absent
    next =>
      split
      next => exact printable_codeUnit _
      next => exact (printable_codeUnit _).append (printable_codeUnit _)

theorem printable_quoted (text : Text) : Printable (quoted text) := by
  refine .cons (by decide) (Printable.append ?_ (.cons (by decide) fun _ absent => by cases absent))
  intro c mem
  obtain ⟨source, -, inside⟩ := List.mem_flatMap.mp mem
  exact printable_escaped source c inside

theorem printable_printed (value : Int) : Printable (printed value) := by
  have digits : Printable (Nat.toDigits 10 value.natAbs) := by
    intro c mem
    have range := of_decide_eq_true (decimal_of_mem_toDigits mem)
    omega
  unfold printed
  split
  next => exact .cons (by decide) digits
  next => exact digits

variable {repr : Double → Text}

theorem printable_dumpsItems {items : List Json} (printable : ∀ item ∈ items, Printable (dumps repr item)) :
    Printable (dumpsItems repr items) := by
  induction items with
  | nil => exact .cons (by decide) fun _ absent => by cases absent
  | cons item rest ih =>
    exact .cons (by decide) (.cons (by decide) ((printable item List.mem_cons_self).append
      (ih fun other mem => printable other (List.mem_cons_of_mem _ mem))))

theorem printable_dumpsMembers {members : List (Text × Json)}
    (printable : ∀ member ∈ members, Printable (dumps repr member.2)) : Printable (dumpsMembers repr members) := by
  induction members with
  | nil => exact .cons (by decide) fun _ absent => by cases absent
  | cons member rest ih =>
    have others := ih fun other mem => printable other (List.mem_cons_of_mem _ mem)
    exact .cons (by decide) (.cons (by decide) ((printable_quoted member.1).append
      (.cons (by decide) (.cons (by decide) ((printable member List.mem_cons_self).append others)))))

/-- What is written is printable ASCII, on one line. -/
theorem printable_dumps {json : Json} (plain : Plain json) : Printable (dumps repr json) := by
  induction plain with
  | null => exact printable_of_all "null".toList rfl
  | bool value =>
    cases value with
    | true => exact printable_of_all "true".toList rfl
    | false => exact printable_of_all "false".toList rfl
  | @integer value short => exact printable_printed value
  | text written => exact printable_quoted written
  | @array elements plain ih =>
    cases elements with
    | nil => exact printable_of_all "[]".toList rfl
    | cons item rest =>
      exact .cons (by decide) ((ih item List.mem_cons_self).append
        (printable_dumpsItems fun other mem => ih other (List.mem_cons_of_mem _ mem)))
  | @object pairs plain distinct ih =>
    cases pairs with
    | nil => exact printable_of_all "{}".toList rfl
    | cons member rest =>
      exact .cons (by decide) ((printable_quoted member.1).append (.cons (by decide) (.cons (by decide)
        ((ih member List.mem_cons_self).append
          (printable_dumpsMembers fun other mem => ih other (List.mem_cons_of_mem _ mem))))))

theorem length_escaped (c : Char) : (escaped c).length ≤ 12 := by
  unfold escaped
  repeat' split
  all_goals simp [codeUnit, hexDigits]

theorem length_quoted (text : Text) : (quoted text).length ≤ 12 * text.length + 2 := by
  have inside : (text.flatMap escaped).length ≤ 12 * text.length := by
    induction text with
    | nil => exact Nat.le_refl 0
    | cons c rest ih =>
      have first := length_escaped c
      rw [List.flatMap_cons, List.length_append, List.length_cons]
      omega
  rw [quoted, List.length_cons, List.length_append, List.length_singleton]
  omega

end Ascii

end Json

end Wqm1.Library
