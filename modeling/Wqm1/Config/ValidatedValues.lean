import Wqm1.Config.Layering

/-! `validate_values` against the schema: what it accepts is valid, what is valid it accepts,
and each key comes out once. -/

set_option autoImplicit false

namespace Wqm1.Config

open Wqm1.Library

def SettingError.key : SettingError → YamlKey
  | .unknownKey key _ => key
  | .notRemote key | .notBoolean key | .notInteger key | .notNumber key | .outside key _ | .notString key _
  | .tooLong key _ | .notChoice key _ => .text key

/-- A result that follows the schema. A valid value has the declared type and lies in the
range, the length and the choices of its key; an integer under a float key is widened. -/
structure FollowsSchema (remote : Bool) (values : Dict YamlKey Yaml) (accepted : Dict String Yaml)
    (errors : List SettingError) : Prop where
  sound : ∀ name value, accepted.get name = some value →
    ∃ spec given, settingsSchema.get name = some spec ∧
    values.get (.text name) = some given ∧ spec.valid given = some value
  settable : ∀ name value, accepted.get name = some value → remote = true →
    ∃ spec, settingsSchema.get name = some spec ∧ spec.remote = true
  complete : ∀ name spec given value, settingsSchema.get name = some spec →
    (remote = true → spec.remote = true) →
    values.get (.text name) = some given → spec.valid given = some value →
      accepted.get name = some value
  once : List.Perm (accepted.keys.map .text ++ errors.map SettingError.key) values.keys

theorem SettingSpec.key_of_refused {spec : SettingSpec} {key : String} {value : Yaml}
    {error : SettingError}
    (checked : spec.check key value = .ok (.refused error)) : error.key = .text key := by
  unfold check checkBool checkInt checkFloat checkDouble checkStr at checked
  grind [SettingError.key]

/-- Every error names the key it is about. -/
theorem key_of_refused {remote : Bool} {key : YamlKey} {value : Yaml} {error : SettingError}
    (checked : checkEntry remote key value = .ok (.refused error)) : error.key = key := by
  rcases checkEntry_cases checked with ⟨_, printed, same⟩ | ⟨name, spec, same, _, refused | ⟨_, judged⟩⟩
  · cases same
    rfl
  · cases refused
    exact same.symm
  · rw [same]
    exact SettingSpec.key_of_refused judged

/-- The loop takes every key to one side. -/
theorem validateEntries_once {remote : Bool} {entries : List (YamlKey × Yaml)}
    {accepted result : Dict String Yaml}
    {errors reported : List SettingError}
    (fresh : (accepted.keys.map YamlKey.text ++ entries.map Prod.fst).Nodup)
    (validated : validateEntries remote entries accepted errors = .ok (result, reported)) :
    List.Perm (result.keys.map .text ++ reported.map SettingError.key)
      (accepted.keys.map .text ++ errors.map SettingError.key ++ entries.map Prod.fst) := by
  induction entries generalizing accepted errors with
  | nil =>
      cases validated
      rw [List.map_nil, List.append_nil]
  | cons entry rest ih =>
      unfold validateEntries at validated
      rw [List.map_cons] at fresh
      cases checked : checkEntry remote entry.1 entry.2 with
      | error escaped =>
          rw [checked] at validated
          cases validated
      | ok verdict =>
          rw [checked] at validated
          cases verdict with
          | accepted name value =>
              have key : entry.1 = .text name := (checkEntry_accepted checked).1
              have absent : name ∉ accepted.keys := by
                intro member
                apply List.disjoint_of_nodup_append fresh (List.mem_map_of_mem member)
                rw [key]
                exact List.mem_cons_self
              have grown : (accepted.set name value).keys = accepted.keys ++ [name] := by
                change (Dict.setEntries accepted.entries name value).map Prod.fst = _
                rw [Dict.setEntries_of_absent absent, List.map_append]
                rfl
              have later := @ih (accepted.set name value) errors
                (by rw [grown, List.map_append, List.append_assoc, List.map_singleton, List.singleton_append, ← key]
                    exact fresh) validated
              refine later.trans (List.perm_iff_count.mpr fun other => ?_)
              rw [grown, List.map_append, List.map_cons, ← key]
              simp only [List.map_cons, List.map_nil, List.count_append, List.count_cons, List.count_nil]
              omega
          | refused error =>
              have later := @ih accepted (errors ++ [error]) (List.Nodup.sublist
                (List.Sublist.append_left (List.sublist_cons_self _ _) _) fresh) validated
              rw [List.map_append, List.map_singleton, key_of_refused checked] at later
              rw [List.map_cons]
              simpa only [List.append_assoc, List.singleton_append] using later

/-- The values on which the check follows the schema. -/
def Ordered (remote : Bool) (values : Dict YamlKey Yaml) : Prop :=
  ∀ name spec, settingsSchema.get name = some spec → ¬Unordered remote values name spec

/-- What is left at a key of the schema is its valid value, where it is a number. -/
theorem taken_of_ordered {remote : Bool} {values : Dict YamlKey Yaml}
    (ordered : Ordered remote values) {name : String}
    {spec : SettingSpec} (known : settingsSchema.get name = some spec) :
    (values.get (.text name)).bind (taken remote (.text name)) = held remote values name spec := by
  cases taken_cases known remote values with
  | inl number => exact number.2
  | inr unordered => exact absurd unordered.1 (ordered name spec known)

/-- Nothing is left at a key that the schema does not know. -/
theorem taken_unknown {name : String} (unknown : settingsSchema.get name = none) (remote : Bool)
    (value : Yaml) :
    taken remote (.text name) value = none := by
  unfold taken
  split
  next checked =>
    obtain ⟨same, spec, known, settable⟩ := checkEntry_accepted checked
    cases same
    cases unknown.symm.trans known
  next => rfl

theorem held_eq_some {remote : Bool} {values : Dict YamlKey Yaml} {name : String}
    {spec : SettingSpec} {value : Yaml}
    (holds : held remote values name spec = some value) :
    (remote = true → spec.remote = true) ∧
      ∃ given, values.get (.text name) = some given ∧ spec.valid given = some value := by
  unfold held at holds
  split at holds
  next => cases holds
  next settable =>
    rw [withheld_iff, Decidable.not_not] at settable
    exact ⟨settable, Option.bind_eq_some_iff.mp holds⟩

theorem follows_of_ordered {remote : Bool} {values : Dict YamlKey Yaml}
    (ordered : Ordered remote values)
    {accepted : Dict String Yaml} {errors : List SettingError}
    (validated : validateValues values remote = .ok (accepted, errors)) :
    FollowsSchema remote values accepted errors := by
  have left := (validateValues_ok validated).2
  have kept (name : String) (value : Yaml) (holds : accepted.get name = some value) :
      ∃ spec, settingsSchema.get name = some spec ∧ held remote values name spec = some value := by
    rw [left] at holds
    cases known : settingsSchema.get name with
    | none =>
        obtain ⟨given, stands, leaves⟩ := Option.bind_eq_some_iff.mp holds
        cases (taken_unknown known remote given).symm.trans leaves
    | some spec =>
        rw [taken_of_ordered ordered known] at holds
        exact ⟨spec, rfl, holds⟩
  refine { sound := ?_, settable := ?_, complete := ?_, once := ?_ }
  · intro name value holds
    obtain ⟨spec, known, valid⟩ := kept name value holds
    obtain ⟨settable, given, stands, valid⟩ := held_eq_some valid
    exact ⟨spec, given, known, stands, valid⟩
  · intro name value holds asked
    obtain ⟨spec, known, valid⟩ := kept name value holds
    exact ⟨spec, known, (held_eq_some valid).1 asked⟩
  · intro name spec given value known settable stands valid
    rw [left, taken_of_ordered ordered known]
    unfold held
    rw [if_neg fun withheld => (withheld_iff remote spec).mp withheld settable, stands]
    exact valid
  · exact @validateEntries_once remote values.entries .empty accepted [] errors values.nodup validated

/-- The check follows the schema if and only if no entry makes it raise and no float key that
may be set holds what is not a number. -/
theorem validateValues_follows_iff (remote : Bool) (values : Dict YamlKey Yaml) :
    (∃ accepted errors, validateValues values remote = .ok (accepted, errors) ∧
      FollowsSchema remote values accepted errors) ↔ Quiet remote values ∧ Ordered remote values := by
  constructor
  · intro follows
    obtain ⟨accepted, errors, validated, follows⟩ := follows
    obtain ⟨quiet, left⟩ := validateValues_ok validated
    refine ⟨quiet, fun name spec known unordered => ?_⟩
    cases taken_cases known remote values with
    | inl number => exact number.1 unordered
    | inr leaves =>
        have holds := (left name).trans leaves.2.2
        obtain ⟨same, given, known, stands, valid⟩ := follows.sound name _ holds
        cases stands.symm.trans unordered.2.2
        rw [SettingSpec.valid_nan] at valid
        cases valid
  · intro regular
    cases validated : validateValues values remote with
    | error raised => exact absurd regular.1 (validateValues_error validated)
    | ok outcome => exact ⟨outcome.1, outcome.2, rfl, follows_of_ordered regular.2 validated⟩

/-- What is not a number passes both comparisons. -/
theorem nan_accepted : ¬∃ accepted errors,
    validateValues (Dict.empty.set (.text "fan_on_temp_c") (.float .nan)) true = .ok (accepted, errors) ∧
      FollowsSchema true (Dict.empty.set (.text "fan_on_temp_c") (.float .nan)) accepted errors := by
  intro follows
  obtain ⟨accepted, errors, validated, follows⟩ := follows
  cases validated
  obtain ⟨spec, given, known, stands, valid⟩ := follows.sound "fan_on_temp_c" (.float .nan) rfl
  cases stands
  rw [SettingSpec.valid_nan] at valid
  cases valid

end Wqm1.Config
