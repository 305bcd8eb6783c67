import Wqm1.Library.Numeral

/-! The position in a GGA sentence of the GPS receiver, against the form that the sentence gives
to its fields. -/

set_option autoImplicit false

namespace Wqm1.Sensing.Gga

open Wqm1.Library

inductive Raised where
  | valueError
  | indexError
deriving DecidableEq

/-- `timestamp` is in seconds, and the sentence has no date for it. -/
structure GpsFix where
  latitude : Double
  longitude : Double
  altitude : Option Double
  satellites : Option Int
  hdop : Option Double
  timestamp : Option Rat
  fixQuality : Int
deriving DecidableEq

def verifyChecksum : Text → Bool
  | '$' :: rest =>
    match Text.cut '*' rest with
    | none => false
    | some (body, chk) =>
      match Numeral.hexInt chk with
      | none => false
      | some expected => decide ((body.foldl (fun computed c => computed ^^^ c.toNat) 0 : Nat) = expected)
  | _ => false

def int (text : Text) : Except Raised Int := (Numeral.int text).elim (.error .valueError) .ok

def float (text : Text) : Except Raised Double := (Numeral.float text).elim (.error .valueError) .ok

def part (parts : List Text) (index : Nat) : Except Raised Text := (parts[index]?).elim (.error .indexError) .ok

/-- `read(text) if text else None`. -/
def unlessEmpty {α : Type} (read : Text → Except Raised α) (text : Text) : Except Raised (Option α) :=
  if text = [] then .ok none else (read text).map some

/-- The coordinate whose field is at `index`, with `width` digits of whole degrees and its
hemisphere behind it. -/
def coordinate (parts : List Text) (index width : Nat) (negative : Text) : Except Raised (Option Double) := do
  let raw ← part parts index
  let direction ← part parts (index + 1)
  if raw = [] ∨ direction = [] then return none
  let degrees ← float (raw.take width)
  let minutes ← float (raw.drop width)
  let magnitude := degrees.add (minutes.divBy 60)
  return some (if direction = negative then magnitude.neg else magnitude)

/-- What is inside of the `try`. -/
def readFix (parts : List Text) : Except Raised (Option GpsFix) := do
  let fixQuality := (← unlessEmpty int (← part parts 6)).getD 0
  if fixQuality = 0 then return none
  let some latitude ← coordinate parts 2 2 ['S'] | return none
  let some longitude ← coordinate parts 4 3 ['W'] | return none
  let satellites ← unlessEmpty int (← part parts 7)
  let hdop ← unlessEmpty float (← part parts 8)
  let altitude ← unlessEmpty float (← part parts 9)
  return some {
    latitude := latitude
    longitude := longitude
    altitude := altitude
    satellites := satellites
    hdop := hdop
    timestamp := none
    fixQuality := fixQuality }

def headed (sentence : Text) : Bool := "$GPGGA".toList.isPrefixOf sentence || "$GNGGA".toList.isPrefixOf sentence

/-- The fields, without the checksum. -/
def parts (sentence : Text) : List Text := ((sentence.splitOn '*').headD []).splitOn ','

def parseGga (sentence : Text) : Except Raised (Option GpsFix) :=
  if !headed sentence then .ok none
  else if (parts sentence).length < 10 then .ok none
  else
    match readFix (parts sentence) with
    | .error .valueError | .error .indexError => .ok none
    | .ok found => .ok found

def field (sentence : Text) (index : Nat) : Text := (parts sentence).getD index []

/-- A coordinate the way the format writes it: `DDMM.mmm` or `DDDMM.mmm`, and a hemisphere. -/
structure Angle (width : Nat) where
  degrees : Text
  minutes : Text
  decimals : Text
  negative : Bool
  degreesWidth : degrees.length = width
  minutesWidth : minutes.length = 2
  nonempty : decimals ≠ []
  degreesDigits : degrees.all Numeral.decimal = true
  minutesDigits : minutes.all Numeral.decimal = true
  decimalsDigits : decimals.all Numeral.decimal = true
  minutesBelow : Numeral.natural minutes < 60

namespace Angle

variable {width : Nat}

def text (angle : Angle width) : Text := angle.degrees ++ (angle.minutes ++ '.' :: angle.decimals)

def direction (angle : Angle width) (letters : Char × Char) : Text :=
  if angle.negative then [letters.2] else [letters.1]

def minutesValue (angle : Angle width) : Rat :=
  Numeral.natural angle.minutes + Numeral.natural angle.decimals / 10 ^ angle.decimals.length

def magnitude (angle : Angle width) : Rat := Numeral.natural angle.degrees + angle.minutesValue / 60

def value (angle : Angle width) : Rat := if angle.negative then -angle.magnitude else angle.magnitude

end Angle

/-- The fields at `index` are a coordinate of the format, no further out than `bound`. -/
def Formed (sentence : Text) (index width : Nat) (letters : Char × Char) (bound : Nat) : Prop :=
  ∃ angle : Angle width, field sentence index = angle.text ∧ field sentence (index + 1) = angle.direction letters ∧
    |angle.value| ≤ bound

/-- Moreover `coordinate` is their value, but for the rounding of three operations. -/
def Located (sentence : Text) (index width : Nat) (letters : Char × Char) (bound : Nat) (coordinate : Double) : Prop :=
  ∃ angle : Angle width, field sentence index = angle.text ∧ field sentence (index + 1) = angle.direction letters ∧
    |angle.value| ≤ bound ∧
    ∃ number : Rat, coordinate = .finite number ∧ |number| ≤ bound ∧ |number - angle.value| ≤ 1 / 2 ^ 45

structure Proper (sentence : Text) : Prop where
  latitude : Formed sentence 2 2 ('N', 'S') 90
  longitude : Formed sentence 4 3 ('E', 'W') 180

structure Sound (sentence : Text) (fix : GpsFix) : Prop where
  latitude : Located sentence 2 2 ('N', 'S') 90 fix.latitude
  longitude : Located sentence 4 3 ('E', 'W') 180 fix.longitude

/-- Nothing is raised, and a fix only comes of fields of the form. -/
def Faithful (sentence : Text) : Prop :=
  ∃ outcome, parseGga sentence = .ok outcome ∧ ∀ fix ∈ outcome, Sound sentence fix

/-- The two parts of a coordinate are numbers to `float`, whatever their form. -/
structure Numeric (sentence : Text) (index width : Nat) : Prop where
  directed : field sentence (index + 1) ≠ []
  degrees : (Numeral.float ((field sentence index).take width)).isSome = true
  minutes : (Numeral.float ((field sentence index).drop width)).isSome = true

/-- The sentence tells of a fix, and everything that is read of it is a number. -/
structure Readable (sentence : Text) : Prop where
  header : headed sentence = true
  fields : 10 ≤ (parts sentence).length
  quality : ∃ quality ≠ 0, Numeral.int (field sentence 6) = some quality
  latitude : Numeric sentence 2 2
  longitude : Numeric sentence 4 3
  satellites : field sentence 7 = [] ∨ (Numeral.int (field sentence 7)).isSome = true
  hdop : field sentence 8 = [] ∨ (Numeral.float (field sentence 8)).isSome = true
  altitude : field sentence 9 = [] ∨ (Numeral.float (field sentence 9)).isSome = true

variable {sentence : Text} {fix : GpsFix} {index width : Nat}

theorem bind_eq_ok {α β : Type} {first : Except Raised α} {next : α → Except Raised β} {result : β} :
    first >>= next = .ok result ↔ ∃ value, first = .ok value ∧ next value = .ok result := by
  cases first with
  | error error => simp [bind, Except.bind]
  | ok value => simp [bind, Except.bind]

theorem ok_bind {α β : Type} (value : α) (next : α → Except Raised β) : (.ok value >>= next) = next value := rfl

theorem part_parts (present : index < (parts sentence).length) :
    part (parts sentence) index = .ok (field sentence index) := by
  rw [part, field, List.getD_eq_getElem?_getD, List.getElem?_eq_getElem present]
  rfl

theorem int_eq_ok {text : Text} {value : Int} : int text = .ok value ↔ Numeral.int text = some value := by
  unfold int
  cases Numeral.int text <;> simp

theorem float_eq_ok {text : Text} {value : Double} : float text = .ok value ↔ Numeral.float text = some value := by
  unfold float
  cases Numeral.float text <;> simp

theorem unlessEmpty_ok_iff {α : Type} (read : Text → Except Raised α) (text : Text) :
    (∃ found, unlessEmpty read text = .ok found) ↔ text = [] ∨ ∃ value, read text = .ok value := by
  unfold unlessEmpty
  split
  next empty => simp [empty]
  next nonempty =>
    cases read text with
    | error error => simp [nonempty, Except.map]
    | ok value => simp [Except.map]

def toward (negative : Prop) [Decidable negative] (magnitude : Double) : Double :=
  if negative then magnitude.neg else magnitude

theorem coordinate_eq_some_iff {negative : Text} {found : Double} (present : index + 1 < (parts sentence).length) :
    coordinate (parts sentence) index width negative = .ok (some found) ↔
      field sentence (index + 1) ≠ [] ∧
      ∃ degrees minutes : Double, Numeral.float ((field sentence index).take width) = some degrees ∧
        Numeral.float ((field sentence index).drop width) = some minutes ∧
        found = toward (field sentence (index + 1) = negative) (degrees.add (minutes.divBy 60)) := by
  unfold coordinate toward
  rw [part_parts (Nat.lt_of_succ_lt present), part_parts present, ok_bind, ok_bind]
  split
  next missing =>
    constructor
    · intro read
      cases read
    · rintro ⟨directed, degrees, minutes, _, behind, _⟩
      rw [missing.resolve_right directed, List.drop_nil, Numeral.float_nil] at behind
      cases behind
  next present =>
    obtain ⟨_, directed⟩ := not_or.mp present
    simp only [bind_eq_ok, float_eq_ok, pure, Except.pure, Except.ok.injEq, Option.some.injEq]
    constructor
    · rintro ⟨degrees, first, minutes, second, same⟩
      exact ⟨directed, degrees, minutes, first, second, same.symm⟩
    · rintro ⟨_, degrees, minutes, first, second, same⟩
      exact ⟨degrees, first, minutes, second, same.symm⟩

/-- What the parser reads for the fix that it returns. -/
structure Reads (sentence : Text) (fix : GpsFix) : Prop where
  quality : unlessEmpty int (field sentence 6) = .ok (some fix.fixQuality)
  fixed : fix.fixQuality ≠ 0
  latitude : coordinate (parts sentence) 2 2 ['S'] = .ok (some fix.latitude)
  longitude : coordinate (parts sentence) 4 3 ['W'] = .ok (some fix.longitude)
  satellites : unlessEmpty int (field sentence 7) = .ok fix.satellites
  hdop : unlessEmpty float (field sentence 8) = .ok fix.hdop
  altitude : unlessEmpty float (field sentence 9) = .ok fix.altitude
  undated : fix.timestamp = none

theorem reads_of_readFix (enough : 10 ≤ (parts sentence).length)
    (read : readFix (parts sentence) = .ok (some fix)) : Reads sentence fix := by
  unfold readFix at read
  rw [part_parts (by omega), part_parts (by omega), part_parts (by omega), part_parts (by omega)] at read
  simp only [ok_bind] at read
  obtain ⟨quality, counted, read⟩ := bind_eq_ok.mp read
  split at read
  next => cases read
  next fixed =>
    obtain ⟨latitude, north, read⟩ := bind_eq_ok.mp read
    cases latitude with
    | none => cases read
    | some latitude =>
      obtain ⟨longitude, east, read⟩ := bind_eq_ok.mp read
      cases longitude with
      | none => cases read
      | some longitude =>
        obtain ⟨satellites, seen, read⟩ := bind_eq_ok.mp read
        obtain ⟨hdop, diluted, read⟩ := bind_eq_ok.mp read
        obtain ⟨altitude, high, read⟩ := bind_eq_ok.mp read
        cases quality with
        | none => exact absurd rfl fixed
        | some quality =>
          cases read
          exact ⟨counted, fixed, north, east, seen, diluted, high, rfl⟩

theorem readFix_of_reads (enough : 10 ≤ (parts sentence).length) (reads : Reads sentence fix) :
    readFix (parts sentence) = .ok (some fix) := by
  unfold readFix
  rw [part_parts (by omega), part_parts (by omega), part_parts (by omega), part_parts (by omega)]
  obtain ⟨latitude, longitude, altitude, satellites, hdop, timestamp, fixQuality⟩ := fix
  obtain ⟨quality, fixed, north, east, seen, diluted, high, undated⟩ := reads
  dsimp only at quality fixed north east seen diluted high undated
  simp only [bind, Except.bind, quality, north, east, seen, diluted, high, Option.getD_some, if_neg fixed, undated]
  rfl

theorem parseGga_eq_some_iff :
    parseGga sentence = .ok (some fix) ↔
      headed sentence = true ∧ 10 ≤ (parts sentence).length ∧ Reads sentence fix := by
  unfold parseGga
  split
  next headless =>
    rw [Bool.not_eq_true'] at headless
    simp [headless]
  next headed =>
    rw [Bool.not_eq_true', Bool.not_eq_false] at headed
    split
    next few =>
      constructor
      · intro read
        cases read
      · rintro ⟨_, enough, _⟩
        omega
    next enough =>
      rw [Nat.not_lt] at enough
      constructor
      · intro parsed
        cases read : readFix (parts sentence) with
        | error error => cases error <;> simp [read] at parsed
        | ok found =>
          rw [read] at parsed
          cases parsed
          exact ⟨headed, enough, reads_of_readFix enough read⟩
      · rintro ⟨_, _, reads⟩
        rw [readFix_of_reads enough reads]

theorem parseGga_total (sentence : Text) : ∃ outcome, parseGga sentence = .ok outcome := by
  unfold parseGga
  split
  next => exact ⟨_, rfl⟩
  next =>
    split
    next => exact ⟨_, rfl⟩
    next => split <;> exact ⟨_, rfl⟩

theorem numeric_iff {negative : Text} (present : index + 1 < (parts sentence).length) :
    Numeric sentence index width ↔ ∃ found, coordinate (parts sentence) index width negative = .ok (some found) := by
  simp only [coordinate_eq_some_iff present]
  constructor
  · rintro ⟨directed, first, second⟩
    obtain ⟨degrees, before⟩ := Option.isSome_iff_exists.mp first
    obtain ⟨minutes, behind⟩ := Option.isSome_iff_exists.mp second
    exact ⟨_, directed, degrees, minutes, before, behind, rfl⟩
  · rintro ⟨_, directed, degrees, minutes, before, behind, _⟩
    exact ⟨directed, Option.isSome_iff_exists.mpr ⟨degrees, before⟩, Option.isSome_iff_exists.mpr ⟨minutes, behind⟩⟩

theorem int_or_empty_iff (text : Text) :
    (text = [] ∨ (Numeral.int text).isSome = true) ↔ ∃ found, unlessEmpty int text = .ok found := by
  simp only [unlessEmpty_ok_iff, int_eq_ok, Option.isSome_iff_exists]

theorem float_or_empty_iff (text : Text) :
    (text = [] ∨ (Numeral.float text).isSome = true) ↔ ∃ found, unlessEmpty float text = .ok found := by
  simp only [unlessEmpty_ok_iff, float_eq_ok, Option.isSome_iff_exists]

theorem quality_iff {quality : Int} (text : Text) :
    unlessEmpty int text = .ok (some quality) ↔ Numeral.int text = some quality := by
  unfold unlessEmpty
  split
  next empty =>
    rw [empty, Numeral.int_nil]
    simp
  next =>
    rw [← int_eq_ok]
    cases int text <;> simp [Except.map]

/-- The parser takes every sentence whose numbers it can read. -/
theorem readable_iff : Readable sentence ↔ ∃ fix, parseGga sentence = .ok (some fix) := by
  simp only [parseGga_eq_some_iff]
  constructor
  · rintro ⟨header, enough, ⟨quality, fixed, counted⟩, north, east, seen, diluted, high⟩
    obtain ⟨latitude, north⟩ := (numeric_iff (by omega)).mp north
    obtain ⟨longitude, east⟩ := (numeric_iff (by omega)).mp east
    obtain ⟨satellites, seen⟩ := (int_or_empty_iff _).mp seen
    obtain ⟨hdop, diluted⟩ := (float_or_empty_iff _).mp diluted
    obtain ⟨altitude, high⟩ := (float_or_empty_iff _).mp high
    exact ⟨⟨latitude, longitude, altitude, satellites, hdop, none, quality⟩, header, enough,
      (quality_iff _).mpr counted, fixed, north, east, seen, diluted, high, rfl⟩
  · rintro ⟨fix, header, enough, reads⟩
    exact {
      header := header
      fields := enough
      quality := ⟨fix.fixQuality, reads.fixed, (quality_iff _).mp reads.quality⟩
      latitude := (numeric_iff (by omega)).mpr ⟨_, reads.latitude⟩
      longitude := (numeric_iff (by omega)).mpr ⟨_, reads.longitude⟩
      satellites := (int_or_empty_iff _).mpr ⟨_, reads.satellites⟩
      hdop := (float_or_empty_iff _).mpr ⟨_, reads.hdop⟩
      altitude := (float_or_empty_iff _).mpr ⟨_, reads.altitude⟩ }

namespace Angle

variable (angle : Angle width)

theorem take_text : angle.text.take width = angle.degrees := List.take_left' angle.degreesWidth

theorem drop_text : angle.text.drop width = angle.minutes ++ '.' :: angle.decimals :=
  List.drop_left' angle.degreesWidth

theorem minutesValue_nonneg : 0 ≤ angle.minutesValue := by
  unfold minutesValue
  positivity

theorem minutesValue_lt : angle.minutesValue < 60 := by
  have whole : (Numeral.natural angle.minutes : Rat) + 1 ≤ 60 := by exact_mod_cast angle.minutesBelow
  have scale : (0 : Rat) < 10 ^ angle.decimals.length := by positivity
  have part : (Numeral.natural angle.decimals : Rat) / 10 ^ angle.decimals.length < 1 := by
    rw [div_lt_one scale]
    exact_mod_cast Numeral.natural_lt angle.decimalsDigits
  unfold minutesValue
  linarith

theorem magnitude_nonneg : 0 ≤ angle.magnitude := by
  have minutes := angle.minutesValue_nonneg
  unfold magnitude
  positivity

theorem abs_value : |angle.value| = angle.magnitude := by
  unfold value
  split
  next => rw [abs_neg, abs_of_nonneg angle.magnitude_nonneg]
  next => exact abs_of_nonneg angle.magnitude_nonneg

/-- The sum stays within the bound: either a whole degree is left for the minutes, or they are zero. -/
theorem exists_reading {bound : Nat} (small : bound ≤ 180) (within : angle.magnitude ≤ bound) :
    ∃ number : Rat, (Double.ofRat (Numeral.natural angle.degrees)).add
        ((Double.ofRat angle.minutesValue).divBy 60) = .finite number ∧
      0 ≤ number ∧ number ≤ bound ∧ |number - angle.magnitude| ≤ 1 / 2 ^ 45 := by
  have nonneg := angle.minutesValue_nonneg
  have below := angle.minutesValue_lt
  have few : Numeral.natural angle.degrees ≤ bound := by
    unfold magnitude at within
    have share : 0 ≤ angle.minutesValue / 60 := by positivity
    have less : (Numeral.natural angle.degrees : Rat) ≤ bound := by linarith
    exact_mod_cast less
  obtain ⟨minutes, read, minutesNonneg, minutesMost, minutesNear⟩ :=
    @Double.ofRat_spec angle.minutesValue 6 nonneg (by decide) (by decide) (by linarith)
  have atMost : minutes ≤ 60 := minutesMost 60 (by decide) (by exact_mod_cast below.le)
  obtain ⟨part, divided, partNonneg, partMost, partNear⟩ :=
    @Double.ofRat_spec (minutes / 60) 1 (by positivity) (by decide) (by decide) (by linarith)
  have atMostOne : part ≤ 1 := by
    exact_mod_cast partMost 1 (by decide) (by push_cast; linarith)
  have sum : (Numeral.natural angle.degrees : Rat) + part ≤ bound := by
    rcases Nat.lt_or_eq_of_le few with less | last
    · have next : (Numeral.natural angle.degrees : Rat) + 1 ≤ bound := by exact_mod_cast less
      linarith
    · rw [magnitude, last] at within
      have exact : minutes ≤ 0 := by exact_mod_cast minutesMost 0 (by decide) (by push_cast; linarith)
      have nothing : part ≤ 0 := by exact_mod_cast partMost 0 (by decide) (by push_cast; linarith)
      rw [last]
      linarith
  have wide : (bound : Rat) ≤ 180 := by exact_mod_cast small
  obtain ⟨number, added, numberNonneg, numberMost, numberNear⟩ :=
    @Double.ofRat_spec (Numeral.natural angle.degrees + part) 8 (by positivity) (by decide) (by decide) (by linarith)
  refine ⟨number, ?_, numberNonneg, numberMost bound (by omega) sum, ?_⟩
  · rw [Double.ofRat_natCast (by omega), read, Double.divBy, divided, Double.add, added]
  · unfold magnitude
    norm_num at minutesNear partNear numberNear ⊢
    rw [abs_le] at *
    constructor <;> linarith

end Angle

/-- Fields of the form are read as the place that they stand for. -/
theorem located_of_formed {letters : Char × Char} {bound : Nat} {found : Double} (digits : 0 < width)
    (distinct : letters.1 ≠ letters.2) (small : bound ≤ 180) (present : index + 1 < (parts sentence).length)
    (formed : Formed sentence index width letters bound)
    (read : coordinate (parts sentence) index width [letters.2] = .ok (some found)) :
    Located sentence index width letters bound found := by
  obtain ⟨angle, raw, direction, within⟩ := formed
  refine ⟨angle, raw, direction, within, ?_⟩
  rw [angle.abs_value] at within
  obtain ⟨number, sum, nonneg, most, near⟩ := angle.exists_reading small within
  obtain ⟨_, degrees, minutes, before, behind, same⟩ := (coordinate_eq_some_iff present).mp read
  have wide : angle.degrees ≠ [] := List.ne_nil_of_length_pos (by rw [angle.degreesWidth]; exact digits)
  have twoDigits : angle.minutes ≠ [] := List.ne_nil_of_length_pos (by rw [angle.minutesWidth]; decide)
  rw [raw, angle.take_text, Numeral.float_digits wide angle.degreesDigits] at before
  rw [raw, angle.drop_text, Numeral.float_point twoDigits angle.minutesDigits angle.decimalsDigits] at behind
  cases before
  cases behind
  change found = toward _ ((Double.ofRat _).add ((Double.ofRat angle.minutesValue).divBy 60)) at same
  rw [sum, direction] at same
  cases side : angle.negative with
  | false =>
    have positive : angle.direction letters ≠ [letters.2] := by
      simp [Angle.direction, side, distinct]
    rw [toward, if_neg positive] at same
    refine ⟨number, same, ?_, ?_⟩
    · rwa [abs_of_nonneg nonneg]
    · rwa [Angle.value, side]
  | true =>
    have turned : angle.direction letters = [letters.2] := by
      simp [Angle.direction, side]
    rw [toward, if_pos turned] at same
    refine ⟨-number, same, ?_, ?_⟩
    · rwa [abs_neg, abs_of_nonneg nonneg]
    · rw [Angle.value, side, if_pos rfl, neg_sub_neg, abs_sub_comm]
      exact near

theorem Located.formed {letters : Char × Char} {bound : Nat} {found : Double}
    (located : Located sentence index width letters bound found) : Formed sentence index width letters bound :=
  let ⟨angle, raw, direction, within, _⟩ := located
  ⟨angle, raw, direction, within⟩

/-- The form of the fields is up to the sender: what reads as numbers becomes a fix. -/
theorem fixes_faithful_iff (sentence : Text) : Faithful sentence ↔ (Readable sentence → Proper sentence) := by
  constructor
  · rintro ⟨outcome, parsed, sound⟩ readable
    obtain ⟨fix, found⟩ := readable_iff.mp readable
    rw [parsed] at found
    cases found
    exact ⟨(sound fix rfl).latitude.formed, (sound fix rfl).longitude.formed⟩
  · intro proper
    obtain ⟨outcome, parsed⟩ := parseGga_total sentence
    refine ⟨outcome, parsed, ?_⟩
    intro fix mem
    rw [Option.mem_def.mp mem] at parsed
    have formed := proper (readable_iff.mpr ⟨fix, parsed⟩)
    obtain ⟨_, enough, reads⟩ := parseGga_eq_some_iff.mp parsed
    exact {
      latitude := located_of_formed (by decide) (by decide) (by decide) (by omega) formed.latitude reads.latitude
      longitude := located_of_formed (by decide) (by decide) (by decide) (by omega) formed.longitude reads.longitude }

/-- Its checksum is right. -/
def nanSentence : Text := "$GPGGA,123519,48nan,N,01131.000,E,1,08,0.9,545.4,M,46.9,M,,*34".toList

theorem nan_latitude_taken : verifyChecksum nanSentence = true ∧ ¬ Faithful nanSentence := by
  refine ⟨by decide +kernel, ?_⟩
  rintro ⟨outcome, parsed, sound⟩
  have nan : (parseGga nanSentence).map (fun found => found.map GpsFix.latitude) = .ok (some .nan) := by
    decide +kernel
  rw [parsed] at nan
  obtain ⟨fix, found, latitude⟩ := Option.map_eq_some_iff.mp (Except.ok.inj nan)
  obtain ⟨_, _, _, _, number, same, _⟩ := (sound fix found).latitude
  rw [latitude] at same
  cases same

end Wqm1.Sensing.Gga
