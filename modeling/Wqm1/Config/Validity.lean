import Wqm1.Config.Schema

/-! The values that a key of the schema may have, and how far the check of a value goes with
them: what is not a number passes, and a very large integer makes the check raise. -/

set_option autoImplicit false

namespace Wqm1.Config

open Wqm1.Library

namespace SettingSpec

def Inside (spec : SettingSpec) (number : Rat) : Prop :=
  (∀ low ∈ spec.min, (low : Rat) ≤ number) ∧ ∀ high ∈ spec.max, number ≤ high

instance (spec : SettingSpec) (number : Rat) : Decidable (spec.Inside number) :=
  inferInstanceAs (Decidable ((∀ low ∈ spec.min, (low : Rat) ≤ number) ∧ ∀ high ∈ spec.max, number ≤ high))

def Allows (spec : SettingSpec) (word : String) : Prop :=
  (∀ most ∈ spec.maxLength, word.length ≤ most) ∧ ∀ choices ∈ spec.choices, word ∈ choices

instance (spec : SettingSpec) (word : String) : Decidable (spec.Allows word) :=
  inferInstanceAs (Decidable ((∀ most ∈ spec.maxLength, word.length ≤ most) ∧
    ∀ choices ∈ spec.choices, word ∈ choices))

/-- The value that a key may have, with an integer widened where a float is asked for. What
is not a number is in no range. -/
def valid (spec : SettingSpec) (value : Yaml) : Option Yaml :=
  match spec.type, value with
  | .bool, .bool value => some (.bool value)
  | .int, .int number => if spec.Inside number then some (.int number) else none
  | .float, .int number => if spec.Inside number then some (.float (.finite number)) else none
  | .float, .float (.finite number) => if spec.Inside number then some (.float (.finite number)) else none
  | .float, .float (.infinite negative) =>
      if (bif negative then spec.min else spec.max).isNone then some (.float (.infinite negative)) else none
  | .str, .text word => if spec.Allows word then some (.text word) else none
  | _, _ => none

/-- The bounds of a float key are there and far from where integers are rounded. -/
def Bounded (spec : SettingSpec) : Prop :=
  spec.type = .float → (∃ low ∈ spec.min, -2 ^ 53 < low) ∧ ∃ high ∈ spec.max, high < 2 ^ 53

end SettingSpec

theorem settingsSchema_bounded {name : String} {spec : SettingSpec}
    (known : settingsSchema.get name = some spec) : spec.Bounded := by
  have all : ∀ entry ∈ settingsSchemaEntries,
      entry.2.type = .float → entry.2.min.any (-2 ^ 53 < ·) ∧ entry.2.max.any (· < 2 ^ 53) := by
    decide +kernel
  intro float
  have both := all (name, spec) (Dict.get_eq_some_iff.mp known) float
  simpa [Option.any_eq_true] using both

namespace SettingSpec

/-- An integer under a float key that `float` cannot convert. -/
def Overflows (spec : SettingSpec) (value : Yaml) : Prop :=
  spec.type = .float ∧ ∃ number : Int, value = .int number ∧ Double.overflow ≤ number.natAbs

/-- The value under a float key that no bound refuses. -/
def NotNumber (spec : SettingSpec) (value : Yaml) : Prop :=
  spec.type = .float ∧ value = .float .nan

inductive Checked (spec : SettingSpec) (key : String) (value : Yaml) : Prop where
  | valid {kept : Yaml} (checked : spec.check key value = .ok (.accepted key kept))
      (valid : spec.valid value = some kept)
  | refused {error : SettingError} (checked : spec.check key value = .ok (.refused error))
      (invalid : spec.valid value = none)
  | notNumber (unordered : spec.NotNumber value) (checked : spec.check key value = .ok (.accepted key value))
      (invalid : spec.valid value = none)
  | overflows (huge : spec.Overflows value) (checked : spec.check key value = .error .overflowError)
      (invalid : spec.valid value = none)

theorem excludes_eq_false_iff {spec : SettingSpec} {less greater : Int → Bool} :
    spec.excludes less greater = false ↔
      (∀ low ∈ spec.min, less low = false) ∧ ∀ high ∈ spec.max, greater high = false := by
  unfold excludes
  rw [Bool.or_eq_false_iff]
  cases spec.min <;> cases spec.max <;> simp

theorem excludes_finite (spec : SettingSpec) (number : Rat) :
    spec.excludes (fun low => Double.lt (.finite number) low) (fun high => Double.gt (.finite number) high) = false ↔
      spec.Inside number := by
  rw [excludes_eq_false_iff]
  simp [Inside, Double.lt, Double.gt]

theorem excludes_int (spec : SettingSpec) (number : Int) :
    spec.excludes (fun low => number < low) (fun high => high < number) = false ↔ spec.Inside number := by
  rw [excludes_eq_false_iff]
  simp only [Inside, decide_eq_false_iff_not, Int.not_lt, Rat.intCast_le_intCast]

/-- The rounding of a large integer does not bring it back into the range. -/
theorem inside_rounded_iff {spec : SettingSpec} (float : spec.type = .float) (bounded : spec.Bounded)
    {number : Int} {converted : Double} (fits : Double.ofInt number = some converted) :
    ∃ rounded : Int, converted = .finite rounded ∧ (spec.Inside rounded ↔ spec.Inside number) ∧
      (spec.Inside number → rounded = number) := by
  obtain ⟨rounded, same, small, above, below⟩ := Double.ofInt_eq_some fits
  obtain ⟨⟨low, minimum, lowest⟩, high, maximum, highest⟩ := bounded float
  have inside (value : Int) : spec.Inside value ↔ low ≤ value ∧ value ≤ high := by
    unfold Inside
    rw [minimum, maximum]
    simp only [Option.mem_def, Option.some.injEq, forall_eq', Rat.intCast_le_intCast]
  refine ⟨rounded, same, ?_, ?_⟩
  · rw [inside, inside]
    omega
  · rw [inside]
    omega

theorem checkDouble_finite (spec : SettingSpec) (key : String) (number : Rat) :
    spec.checkDouble key (.finite number) =
      if spec.Inside number then .accepted key (.float (.finite number)) else .refused (.outside key spec) := by
  unfold checkDouble
  by_cases inside : spec.Inside number
  · rw [if_pos inside, (excludes_finite spec number).mpr inside]
    rfl
  · rw [if_neg inside, if_pos (by
      rw [← Bool.not_eq_false, excludes_finite]
      exact inside)]

theorem checkDouble_infinite {spec : SettingSpec} (float : spec.type = .float) (bounded : spec.Bounded)
    (key : String) (negative : Bool) :
    spec.checkDouble key (.infinite negative) = .refused (.outside key spec) := by
  obtain ⟨⟨low, minimum, lowest⟩, high, maximum, highest⟩ := bounded float
  unfold checkDouble excludes
  rw [minimum, maximum]
  cases negative <;> rfl

theorem checkDouble_nan (spec : SettingSpec) (key : String) :
    spec.checkDouble key .nan = .accepted key (.float .nan) := by
  have none : spec.excludes (fun low => Double.nan.lt low) (fun high => Double.nan.gt high) = false :=
    excludes_eq_false_iff.mpr ⟨fun low listed => rfl, fun high listed => rfl⟩
  unfold checkDouble
  rw [none]
  rfl

theorem not_inside_of_large {spec : SettingSpec} (float : spec.type = .float) (bounded : spec.Bounded)
    {number : Int} (large : 2 ^ 53 ≤ number.natAbs) : ¬spec.Inside number := by
  obtain ⟨⟨low, minimum, lowest⟩, high, maximum, highest⟩ := bounded float
  intro inside
  have lower := Rat.intCast_le_intCast.mp (inside.1 low minimum)
  have upper := Rat.intCast_le_intCast.mp (inside.2 high maximum)
  omega

theorem check_float {spec : SettingSpec} (float : spec.type = .float) (key : String) (value : Yaml) :
    spec.check key value = spec.checkFloat key value := by
  unfold check
  rw [float]

theorem check_overflows {spec : SettingSpec} {value : Yaml} (huge : spec.Overflows value) (key : String) :
    spec.check key value = .error .overflowError := by
  obtain ⟨float, number, same, large⟩ := huge
  have fails := (Double.ofInt_eq_none_iff number).mpr large
  rw [check_float float, same, checkFloat, fails]

theorem valid_overflows {spec : SettingSpec} (bounded : spec.Bounded) {value : Yaml}
    (huge : spec.Overflows value) : spec.valid value = none := by
  obtain ⟨float, number, same, large⟩ := huge
  have outside := not_inside_of_large float bounded (Double.large_of_overflow large)
  simp [valid, float, same, outside]

theorem check_notNumber {spec : SettingSpec} {value : Yaml} (unordered : spec.NotNumber value) (key : String) :
    spec.check key value = .ok (.accepted key value) := by
  obtain ⟨float, same⟩ := unordered
  rw [check_float float, same, checkFloat, checkDouble_nan]

theorem checked_float {spec : SettingSpec} (float : spec.type = .float) (bounded : spec.Bounded) (key : String)
    (value : Yaml) : spec.Checked key value := by
  have start := check_float float key value
  cases value with
  | int number =>
      cases fits : Double.ofInt number with
      | none =>
          have huge := (Double.ofInt_eq_none_iff number).mp fits
          have overflows : spec.Overflows (.int number) := ⟨float, number, rfl, huge⟩
          exact .overflows overflows (check_overflows overflows key) (valid_overflows bounded overflows)
      | some converted =>
          obtain ⟨rounded, same, inside, kept⟩ := inside_rounded_iff float bounded fits
          have checked : spec.check key (.int number) = .ok (spec.checkDouble key (.finite rounded)) := by
            rw [start, checkFloat, fits, same]
          rw [checkDouble_finite] at checked
          by_cases within : spec.Inside number
          · rw [if_pos (inside.mpr within), kept within] at checked
            exact .valid checked (by simp [valid, float, within])
          · rw [if_neg fun this => within (inside.mp this)] at checked
            exact .refused checked (by simp [valid, float, within])
  | float number =>
      have checked : spec.check key (.float number) = .ok (spec.checkDouble key number) := start
      cases number with
      | finite number =>
          rw [checkDouble_finite] at checked
          by_cases within : spec.Inside number
          · rw [if_pos within] at checked
            exact .valid checked (by simp [valid, float, within])
          · rw [if_neg within] at checked
            exact .refused checked (by simp [valid, float, within])
      | infinite negative =>
          rw [checkDouble_infinite float bounded] at checked
          obtain ⟨⟨low, minimum, lowest⟩, high, maximum, highest⟩ := bounded float
          exact .refused checked (by cases negative <;> simp_all [valid])
      | nan => exact .notNumber ⟨float, rfl⟩ (check_notNumber ⟨float, rfl⟩ key) (by simp [valid, float])
  | null | bool value | text word | seq items | mapping entries | other holds =>
      exact .refused start (by simp [valid, float])

theorem checked_int {spec : SettingSpec} (int : spec.type = .int) (key : String) (value : Yaml) :
    spec.Checked key value := by
  have start : spec.check key value = .ok (spec.checkInt key value) := by
    unfold check
    rw [int]
  cases value with
  | int number =>
      have inside := excludes_int spec number
      rw [checkInt] at start
      cases excluded : spec.excludes (fun low => number < low) (fun high => high < number) with
      | false =>
          rw [excluded, if_neg Bool.false_ne_true] at start
          exact .valid start (by simp [valid, int, inside.mp excluded])
      | true =>
          rw [excluded, if_pos rfl] at start
          have without : ¬spec.Inside number := by
            rw [← inside, excluded]
            exact Bool.noConfusion
          exact .refused start (by simp [valid, int, without])
  | null | bool value | float number | text word | seq items | mapping entries | other holds =>
      exact .refused start (by simp [valid, int])

theorem checked_bool {spec : SettingSpec} (bool : spec.type = .bool) (key : String) (value : Yaml) :
    spec.Checked key value := by
  have start : spec.check key value = .ok (checkBool key value) := by
    unfold check
    rw [bool]
  cases value with
  | bool value => exact .valid start (by simp [valid, bool])
  | null | int number | float number | text word | seq items | mapping entries | other holds =>
      exact .refused start (by simp [valid, bool])

theorem checkStr_text (spec : SettingSpec) (key word : String) :
    (spec.Allows word ∧ spec.checkStr key (.text word) = .accepted key (.text word)) ∨
      (¬spec.Allows word ∧ ∃ error, spec.checkStr key (.text word) = .refused error) := by
  unfold checkStr Allows
  dsimp only
  split
  next long =>
    obtain ⟨most, listed, exceeded⟩ := (Option.any_eq_true _ _).mp long
    refine .inr ⟨fun allowed => ?_, _, rfl⟩
    have fits := allowed.1 most listed
    have exceeds := of_decide_eq_true exceeded
    omega
  next short =>
    rw [Bool.not_eq_true, Option.any_eq_false] at short
    split
    next elsewhere =>
      obtain ⟨choices, listed, missing⟩ := (Option.any_eq_true _ _).mp elsewhere
      refine .inr ⟨fun allowed => ?_, _, rfl⟩
      have chosen := allowed.2 choices listed
      simp [chosen] at missing
    next chosen =>
      rw [Bool.not_eq_true, Option.any_eq_false] at chosen
      refine .inl ⟨⟨fun most listed => ?_, fun choices listed => ?_⟩, rfl⟩
      · have fits := short most listed
        simpa using fits
      · have listed := chosen choices listed
        simpa using listed

theorem checked_str {spec : SettingSpec} (str : spec.type = .str) (key : String) (value : Yaml) :
    spec.Checked key value := by
  have start : spec.check key value = .ok (spec.checkStr key value) := by
    unfold check
    rw [str]
  cases value with
  | text word =>
      obtain ⟨allowed, checked⟩ | ⟨excluded, error, checked⟩ := checkStr_text spec key word
      · rw [checked] at start
        exact .valid start (by simp [valid, str, allowed])
      · rw [checked] at start
        exact .refused start (by simp [valid, str, excluded])
  | null | bool value | int number | float number | seq items | mapping entries | other holds =>
      exact .refused start (by simp [valid, str])

theorem checked {spec : SettingSpec} (bounded : spec.Bounded) (key : String) (value : Yaml) :
    spec.Checked key value := by
  cases type : spec.type with
  | bool => exact checked_bool type key value
  | int => exact checked_int type key value
  | float => exact checked_float type bounded key value
  | str => exact checked_str type key value

theorem valid_nan (spec : SettingSpec) : spec.valid (.float .nan) = none := by
  unfold valid
  cases spec.type <;> rfl

theorem valid_valid {spec : SettingSpec} {value kept : Yaml} (valid : spec.valid value = some kept) :
    spec.valid kept = some kept := by
  unfold SettingSpec.valid at valid ⊢
  grind

end SettingSpec

theorem settingsDefaults_valid {name : String} {spec : SettingSpec}
    (known : settingsSchema.get name = some spec) :
    ∃ value, settingsDefaults.get name = some value ∧ (spec.valid value).isSome = true := by
  have all : ∀ entry ∈ settingsSchemaEntries,
      (settingsDefaults.get entry.1).any (fun value => (entry.2.valid value).isSome) = true := by
    decide +kernel
  have valid := all (name, spec) (Dict.get_eq_some_iff.mp known)
  exact (Option.any_eq_true _ _).mp valid

end Wqm1.Config
