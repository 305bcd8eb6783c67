import Wqm1.Config.Manager
import Wqm1.Config.Validity

/-! What `validate_values` makes of a mapping: it raises when one of the entries does, and
otherwise holds the accepted value of each key. -/

set_option autoImplicit false

namespace Wqm1.Config

open Wqm1.Library

theorem SettingSpec.check_accepted {spec : SettingSpec} {key name : String} {value taken : Yaml}
    (checked : spec.check key value = .ok (.accepted name taken)) : name = key := by
  unfold check checkBool checkInt checkFloat checkDouble checkStr at checked
  grind

theorem checkEntry_schema {name : String} {spec : SettingSpec} (known : settingsSchema.get name = some spec)
    {remote : Bool} (settable : remote = true → spec.remote = true) (value : Yaml) :
    checkEntry remote (.text name) value = spec.check name value := by
  have found : schemaEntry (.text name) = some (name, spec) := congrArg (Option.map _) known
  unfold checkEntry
  rw [found]
  cases remote with
  | false => rfl
  | true => simp [settable rfl]

/-- Either the schema does not know the key, or its entry of the schema judges the value, unless it
may not be set remotely. -/
theorem checkEntry_cases {remote : Bool} {key : YamlKey} {value : Yaml} {verdict : Verdict}
    (checked : checkEntry remote key value = .ok verdict) :
    (schemaEntry key = none ∧ ∃ printed, verdict = .refused (.unknownKey key printed)) ∨
      ∃ name spec, key = .text name ∧ settingsSchema.get name = some spec ∧
        (verdict = .refused (.notRemote name) ∨
          (remote = true → spec.remote = true) ∧ spec.check name value = .ok verdict) := by
  unfold checkEntry at checked
  cases found : schemaEntry key with
  | none =>
      rw [found] at checked
      dsimp only at checked
      split at checked
      next printed _ =>
        cases checked
        exact .inl ⟨rfl, printed, rfl⟩
      next => cases checked
  | some entry =>
      rw [found] at checked
      cases key with
      | int number => cases found
      | other printed => cases found
      | text name =>
          obtain ⟨spec, known, same⟩ := Option.map_eq_some_iff.mp found
          rw [← same] at checked
          dsimp only at checked
          refine .inr ⟨name, spec, rfl, known, ?_⟩
          split at checked
          next =>
            cases checked
            exact .inl rfl
          next settable => exact .inr ⟨fun asked => by simpa [asked] using settable, checked⟩

theorem checkEntry_accepted {remote : Bool} {key : YamlKey} {value taken : Yaml} {name : String}
    (checked : checkEntry remote key value = .ok (.accepted name taken)) :
    key = .text name ∧ ∃ spec, settingsSchema.get name = some spec ∧ (remote = true → spec.remote = true) := by
  rcases checkEntry_cases checked with ⟨_, printed, refused⟩ | ⟨word, spec, same, known, refused | ⟨settable, judged⟩⟩
  · cases refused
  · cases refused
  · rw [SettingSpec.check_accepted judged]
    exact ⟨same, spec, known, settable⟩

/-- The value that an entry leaves. -/
def taken (remote : Bool) (key : YamlKey) (value : Yaml) : Option Yaml :=
  match checkEntry remote key value with
  | .ok (.accepted _ value) => some value
  | _ => none

def raises (remote : Bool) (entry : YamlKey × Yaml) : Prop :=
  ∃ raised, checkEntry remote entry.1 entry.2 = .error raised

theorem validateEntries_raises {remote : Bool} {entries : List (YamlKey × Yaml)} {accepted : Dict String Yaml}
    {errors : List SettingError} {raised : Raised}
    (validated : validateEntries remote entries accepted errors = .error raised) :
    ∃ entry ∈ entries, raises remote entry := by
  induction entries generalizing accepted errors with
  | nil => cases validated
  | cons entry rest ih =>
      unfold validateEntries at validated
      cases checked : checkEntry remote entry.1 entry.2 with
      | error escaped => exact ⟨entry, List.mem_cons_self, escaped, checked⟩
      | ok verdict =>
          rw [checked] at validated
          cases verdict with
          | accepted name value =>
              obtain ⟨found, member, escapes⟩ := ih validated
              exact ⟨found, List.mem_cons_of_mem _ member, escapes⟩
          | refused error =>
              obtain ⟨found, member, escapes⟩ := ih validated
              exact ⟨found, List.mem_cons_of_mem _ member, escapes⟩

/-- The outcome of the loop where nothing raises. -/
structure Validates (remote : Bool) (entries : List (YamlKey × Yaml)) (accepted result : Dict String Yaml)
    (errors reported : List SettingError) : Prop where
  quiet : ∀ entry ∈ entries, ¬raises remote entry
  get : ∀ name, result.get name =
    ((entries.lookup (.text name)).bind (taken remote (.text name))).or (accepted.get name)
  reports : ∀ error ∈ reported, error ∈ errors ∨
    ∃ entry ∈ entries, checkEntry remote entry.1 entry.2 = .ok (.refused error)
  clean : reported = [] ↔ errors = [] ∧ ∀ entry ∈ entries, (taken remote entry.1 entry.2).isSome

theorem validateEntries_validates {remote : Bool} {entries : List (YamlKey × Yaml)}
    (nodup : (entries.map Prod.fst).Nodup) {accepted result : Dict String Yaml}
    {errors reported : List SettingError}
    (validated : validateEntries remote entries accepted errors = .ok (result, reported)) :
    Validates remote entries accepted result errors reported := by
  induction entries generalizing accepted errors with
  | nil =>
      cases validated
      exact { quiet := by simp, get := fun name => rfl, reports := fun error member => .inl member, clean := by simp }
  | cons entry rest ih =>
      rw [List.map_cons, List.nodup_cons] at nodup
      unfold validateEntries at validated
      cases checked : checkEntry remote entry.1 entry.2 with
      | error escaped =>
          rw [checked] at validated
          cases validated
      | ok verdict =>
          rw [checked] at validated
          have calm : ¬raises remote entry := by
            intro escapes
            obtain ⟨raised, fails⟩ := escapes
            rw [checked] at fails
            cases fails
          cases verdict with
          | accepted name value =>
              have later := ih nodup.2 validated
              have key : entry.1 = .text name := (checkEntry_accepted checked).1
              have left : taken remote entry.1 entry.2 = some value := by
                unfold taken
                rw [checked]
              refine { quiet := ?_, get := ?_, reports := ?_, clean := ?_ }
              · exact List.forall_mem_cons.mpr ⟨calm, later.quiet⟩
              · intro other
                rw [later.get, Dict.get_set, Dict.lookup_cons]
                by_cases same : other = name
                · have absent : rest.lookup (.text other) = none := by
                    rw [same, ← key]
                    exact Dict.lookup_eq_none nodup.1
                  rw [absent, if_pos same, if_pos (by rw [same, key]), same, ← key]
                  exact (congrArg (Option.or · _) left).symm
                · have different : YamlKey.text other ≠ entry.1 := by
                    rw [key]
                    exact fun this => same (YamlKey.text.inj this)
                  rw [if_neg same, if_neg different]
              · intro error member
                cases later.reports error member with
                | inl before => exact .inl before
                | inr after =>
                    obtain ⟨found, listed, refused⟩ := after
                    exact .inr ⟨found, List.mem_cons_of_mem _ listed, refused⟩
              · rw [later.clean, List.forall_mem_cons, left]
                simp
          | refused error =>
              have later := ih nodup.2 validated
              have left : taken remote entry.1 entry.2 = none := by
                unfold taken
                rw [checked]
              refine { quiet := ?_, get := ?_, reports := ?_, clean := ?_ }
              · exact List.forall_mem_cons.mpr ⟨calm, later.quiet⟩
              · intro other
                rw [later.get, Dict.lookup_cons]
                split
                next same =>
                  have absent : rest.lookup (.text other) = none := by
                    rw [same]
                    exact Dict.lookup_eq_none nodup.1
                  rw [absent, same]
                  exact (congrArg (Option.or · _) left).symm
                next => rfl
              · intro found member
                cases later.reports found member with
                | inl before =>
                    cases List.mem_append.mp before with
                    | inl old => exact .inl old
                    | inr new =>
                        rw [List.mem_singleton.mp new]
                        exact .inr ⟨entry, List.mem_cons_self, checked⟩
                | inr after =>
                    obtain ⟨other, listed, refused⟩ := after
                    exact .inr ⟨other, List.mem_cons_of_mem _ listed, refused⟩
              · rw [later.clean, List.forall_mem_cons, left]
                simp

end Wqm1.Config
