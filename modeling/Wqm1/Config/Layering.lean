import Wqm1.Config.Validation

/-! The layers of the settings. A schema key has the overlay's valid value, else the base
file's, else the default, and a call from the cloud is in force whole or not at all. -/

set_option autoImplicit false

namespace Wqm1.Config

open Wqm1.Library

def ConfigFile.values : ConfigFile → Dict YamlKey Yaml
  | .parsed content => content.dict
  | _ => .empty

def documentValues (document : Dict YamlKey Yaml) : Dict YamlKey Yaml :=
  ((document.get (.text "values")).getD .null).dict

def ConfigFile.overlayValues : ConfigFile → Dict YamlKey Yaml
  | .parsed content => documentValues content.dict
  | _ => .empty

/-- The valid value of a key in one layer. -/
def held (remote : Bool) (values : Dict YamlKey Yaml) (name : String) (spec : SettingSpec) : Option Yaml :=
  if remote && !spec.remote then none else (values.get (.text name)).bind spec.valid

/-- The layers below the overlay. -/
def below (base : Dict YamlKey Yaml) (name : String) (spec : SettingSpec) : Option Yaml :=
  (held false base name spec).or (settingsDefaults.get name)

def Layered (base overlay : Dict YamlKey Yaml) (settings : Dict String Yaml) : Prop :=
  ∀ name spec, settingsSchema.get name = some spec →
    settings.get name = (held true overlay name spec).or (below base name spec)

/-- What is not a number stands at the key in one layer. -/
def Unordered (remote : Bool) (values : Dict YamlKey Yaml) (name : String) (spec : SettingSpec) : Prop :=
  (remote = true → spec.remote = true) ∧ spec.type = .float ∧ values.get (.text name) = some (.float .nan)

/-- The entries that escape from the check: an integer key that is too long to print, and an
integer under a float key that overflows. -/
inductive Stops (remote : Bool) : YamlKey × Yaml → Prop where
  | key {number : Int} {value : Yaml} (long : YamlKey.unprintable ≤ number.natAbs) : Stops remote (.int number, value)
  | value {name : String} {spec : SettingSpec} {value : Yaml} (known : settingsSchema.get name = some spec)
      (settable : remote = true → spec.remote = true) (huge : spec.Overflows value) :
      Stops remote (.text name, value)

theorem raises_unknown {key : YamlKey} (unknown : schemaEntry key = none) (remote : Bool) (value : Yaml) :
    raises remote (key, value) ↔ key.printed = none := by
  unfold raises checkEntry
  rw [unknown]
  cases key.printed with
  | none => simp
  | some printed => simp

theorem withheld_iff (remote : Bool) (spec : SettingSpec) :
    (remote && !spec.remote) = true ↔ ¬(remote = true → spec.remote = true) := by
  cases remote <;> simp

theorem checkEntry_withheld {name : String} {spec : SettingSpec} (known : settingsSchema.get name = some spec)
    {remote : Bool} (withheld : ¬(remote = true → spec.remote = true)) (value : Yaml) :
    checkEntry remote (.text name) value = .ok (.refused (.notRemote name)) := by
  have found : schemaEntry (.text name) = some (name, spec) := congrArg (Option.map _) known
  unfold checkEntry
  rw [found]
  exact if_pos ((withheld_iff remote spec).mpr withheld)

theorem raises_iff_overflows {name : String} {spec : SettingSpec} (known : settingsSchema.get name = some spec)
    {remote : Bool} (settable : remote = true → spec.remote = true) (value : Yaml) :
    raises remote (.text name, value) ↔ spec.Overflows value := by
  unfold raises
  dsimp only
  rw [checkEntry_schema known settable]
  constructor
  · intro escapes
    obtain ⟨raised, fails⟩ := escapes
    cases spec.checked (settingsSchema_bounded known) name value with
    | valid checked valid => cases checked.symm.trans fails
    | refused checked invalid => cases checked.symm.trans fails
    | notNumber unordered checked invalid => cases checked.symm.trans fails
    | overflows huge checked invalid => exact huge
  · intro huge
    exact ⟨.overflowError, SettingSpec.check_overflows huge name⟩

theorem raises_iff_stops (remote : Bool) (entry : YamlKey × Yaml) : raises remote entry ↔ Stops remote entry := by
  constructor
  · intro escapes
    obtain ⟨key, value⟩ := entry
    cases found : schemaEntry key with
    | none =>
        have unprinted := (raises_unknown found remote value).mp escapes
        obtain ⟨number, same, long⟩ := (YamlKey.printed_eq_none_iff key).mp unprinted
        rw [same]
        exact .key long
    | some entry =>
        cases key with
        | int number => cases found
        | other printed => cases found
        | text name =>
            obtain ⟨spec, known, same⟩ := Option.map_eq_some_iff.mp found
            by_cases settable : remote = true → spec.remote = true
            · exact .value known settable ((raises_iff_overflows known settable value).mp escapes)
            · obtain ⟨raised, fails⟩ := escapes
              cases (checkEntry_withheld known settable value).symm.trans fails
  · intro stops
    cases stops with
    | key long =>
        exact (raises_unknown rfl remote _).mpr ((YamlKey.printed_eq_none_iff _).mpr ⟨_, rfl, long⟩)
    | value known settable huge => exact (raises_iff_overflows known settable _).mpr huge

/-- What one layer leaves at a key: its valid value, or what is not a number. -/
theorem taken_cases {name : String} {spec : SettingSpec} (known : settingsSchema.get name = some spec)
    (remote : Bool) (values : Dict YamlKey Yaml) :
    (¬Unordered remote values name spec ∧
        (values.get (.text name)).bind (taken remote (.text name)) = held remote values name spec) ∨
      (Unordered remote values name spec ∧ held remote values name spec = none ∧
        (values.get (.text name)).bind (taken remote (.text name)) = some (.float .nan)) := by
  unfold held Unordered
  by_cases settable : remote = true → spec.remote = true
  · rw [if_neg fun withheld => (withheld_iff remote spec).mp withheld settable]
    cases values.get (.text name) with
    | none => simp
    | some value =>
        have checks := spec.checked (settingsSchema_bounded known) name value
        simp only [Option.bind_some, Option.some.injEq]
        unfold taken
        rw [checkEntry_schema known settable]
        cases checks with
        | valid checked valid =>
            rw [checked, valid]
            refine .inl ⟨fun unordered => ?_, rfl⟩
            rw [unordered.2.2, SettingSpec.valid_nan] at valid
            cases valid
        | refused checked invalid =>
            rw [checked, invalid]
            refine .inl ⟨fun unordered => ?_, rfl⟩
            cases checked.symm.trans (SettingSpec.check_notNumber unordered.2 name)
        | notNumber unordered checked invalid =>
            rw [checked, invalid]
            exact .inr ⟨⟨settable, unordered⟩, rfl, congrArg some unordered.2⟩
        | overflows huge checked invalid =>
            rw [checked, invalid]
            refine .inl ⟨fun unordered => ?_, rfl⟩
            obtain ⟨float, number, same, large⟩ := huge
            cases same.symm.trans unordered.2.2
  · rw [if_pos ((withheld_iff remote spec).mpr settable)]
    refine .inl ⟨fun unordered => settable unordered.1, ?_⟩
    cases values.get (.text name) with
    | none => rfl
    | some value =>
        rw [Option.bind_some]
        unfold taken
        rw [checkEntry_withheld known settable]

/-- No entry escapes from the check. -/
def Quiet (remote : Bool) (values : Dict YamlKey Yaml) : Prop :=
  ∀ entry ∈ values.entries, ¬Stops remote entry

theorem validateValues_error {values : Dict YamlKey Yaml} {remote : Bool} {raised : Raised}
    (validated : validateValues values remote = .error raised) : ¬Quiet remote values := by
  intro quiet
  obtain ⟨entry, member, escapes⟩ := validateEntries_raises validated
  exact quiet entry member ((raises_iff_stops remote entry).mp escapes)

theorem validateValues_ok {values : Dict YamlKey Yaml} {remote : Bool} {accepted : Dict String Yaml}
    {errors : List SettingError} (validated : validateValues values remote = .ok (accepted, errors)) :
    Quiet remote values ∧
      ∀ name, accepted.get name = (values.get (.text name)).bind (taken remote (.text name)) := by
  have outcome := validateEntries_validates values.nodup validated
  constructor
  · intro entry member stops
    exact outcome.quiet entry member ((raises_iff_stops remote entry).mpr stops)
  · intro name
    exact (outcome.get name).trans (Option.or_none ..)

theorem SettingSpec.check_refused {spec : SettingSpec} {key : String} {value : Yaml} {error : SettingError}
    (checked : spec.check key value = .ok (.refused error)) (unknown : YamlKey) (printed : String) :
    error ≠ .unknownKey unknown printed := by
  unfold check checkBool checkInt checkFloat checkDouble checkStr at checked
  grind

theorem checkEntry_unknownKey {remote : Bool} {key : YamlKey} {value : Yaml} {name printed : String}
    (checked : checkEntry remote key value = .ok (.refused (.unknownKey (.text name) printed))) :
    settingsSchema.get name = none := by
  rcases checkEntry_cases checked with ⟨unknown, _, same⟩ | ⟨_, spec, _, _, refused | ⟨_, judged⟩⟩
  · cases same
    exact Option.map_eq_none_iff.mp unknown
  · cases refused
  · exact absurd rfl (SettingSpec.check_refused judged _ _)

/-- A legacy field is none of the schema. -/
theorem get_keepLegacy {remote : Bool} {values : Dict YamlKey Yaml} {errors : List SettingError} {name : String}
    (others : ∀ legacy printed, SettingError.unknownKey (.text legacy) printed ∈ errors → legacy ≠ name)
    (accepted : Dict String Yaml) :
    (errors.foldl (keepLegacy remote values) accepted).get name = accepted.get name := by
  induction errors generalizing accepted with
  | nil => rfl
  | cons error rest ih =>
      rw [List.foldl_cons, ih fun legacy printed member => others legacy printed (List.mem_cons_of_mem _ member)]
      unfold keepLegacy
      split
      next legacy printed =>
        have different := others legacy printed List.mem_cons_self
        split
        next =>
          split
          next => rw [Dict.get_set, if_neg (Ne.symm different)]
          next => rfl
        next => rfl
      next => rfl

theorem poppedKeys_unknown {name : String} (popped : YamlKey.text name ∈ poppedKeys) :
    settingsSchema.get name = none := by
  have all : ∀ key ∈ ["rules", "load_control", "service_window"], settingsSchema.get key = none := by
    decide +kernel
  apply all
  simpa [poppedKeys] using popped

theorem get_unpopped {raw : Dict YamlKey Yaml} {name : String} {spec : SettingSpec}
    (known : settingsSchema.get name = some spec) :
    (raw.filter fun entry => !poppedKeys.contains entry.1).get (.text name) = raw.get (.text name) := by
  have stays : YamlKey.text name ∉ poppedKeys := by
    intro popped
    cases known.symm.trans (poppedKeys_unknown popped)
  apply Option.ext
  intro value
  rw [Dict.get_filter_eq_some_iff]
  simp [stays]

theorem quiet_unpopped (raw : Dict YamlKey Yaml) :
    Quiet false (raw.filter fun entry => !poppedKeys.contains entry.1) ↔ Quiet false raw := by
  constructor
  · intro quiet entry member stops
    refine quiet entry (List.mem_filter.mpr ⟨member, ?_⟩) stops
    cases stops with
    | key long => rfl
    | @value name spec value known settable huge =>
        have stays : YamlKey.text name ∉ poppedKeys := by
          intro popped
          cases known.symm.trans (poppedKeys_unknown popped)
        simp [stays]
  · intro quiet entry member
    exact quiet entry (List.mem_of_mem_filter member)

theorem quiet_empty (remote : Bool) : Quiet remote .empty :=
  fun entry member => by cases member

/-- The base file over the settings, unless an entry of it escapes. -/
theorem applyMapping_outcome (settings : Dict String Yaml) (raw : Dict YamlKey Yaml) :
    (¬Quiet false raw ∧ ∃ raised, applyMapping settings raw false = .error raised) ∨
      (Quiet false raw ∧ ∃ result, applyMapping settings raw false = .ok result ∧
        ∀ name spec, settingsSchema.get name = some spec →
          result.get name = ((raw.get (.text name)).bind (taken false (.text name))).or (settings.get name)) := by
  unfold applyMapping
  dsimp only
  cases validated : validateValues (raw.filter fun entry => !poppedKeys.contains entry.1) false with
  | error raised =>
      have loud := validateValues_error validated
      rw [quiet_unpopped] at loud
      exact .inl ⟨loud, raised, rfl⟩
  | ok outcome =>
      obtain ⟨accepted, errors⟩ := outcome
      obtain ⟨quiet, values⟩ := validateValues_ok validated
      rw [quiet_unpopped] at quiet
      have updated (name : String) (spec : SettingSpec) (known : settingsSchema.get name = some spec) :
          (settings.update (errors.foldl
            (keepLegacy false (raw.filter fun entry => !poppedKeys.contains entry.1)) accepted)).get name =
          ((raw.get (.text name)).bind (taken false (.text name))).or (settings.get name) := by
        have others (legacy printed : String)
            (reported : SettingError.unknownKey (.text legacy) printed ∈ errors) : legacy ≠ name := by
          cases (validateEntries_validates (Dict.nodup _) validated).reports _ reported with
          | inl old => cases old
          | inr new =>
              obtain ⟨entry, member, refused⟩ := new
              intro same
              cases (checkEntry_unknownKey refused).symm.trans (same ▸ known)
        rw [Dict.get_update, get_keepLegacy others, values, get_unpopped known]
      refine .inr ⟨quiet, ?_⟩
      dsimp only
      split
      next rules listed =>
        refine ⟨_, rfl, fun name spec known => ?_⟩
        have different : name ≠ "rules" := by
          intro same
          have popped : YamlKey.text name ∈ poppedKeys := same ▸ List.mem_cons_self
          cases known.symm.trans (poppedKeys_unknown popped)
        rw [Dict.get_set, if_neg different]
        exact updated name spec known
      next => exact ⟨_, rfl, updated⟩

theorem applyFile_outcome (settings : Dict String Yaml) (file : ConfigFile) :
    (¬Quiet false file.values ∧ ∃ raised, applyFile settings file false = .error raised) ∨
      (Quiet false file.values ∧ ∃ result, applyFile settings file false = .ok result ∧
        ∀ name spec, settingsSchema.get name = some spec →
          result.get name =
            ((file.values.get (.text name)).bind (taken false (.text name))).or (settings.get name)) := by
  unfold applyFile
  cases file with
  | missing => exact .inr ⟨quiet_empty false, settings, rfl, fun name spec known => rfl⟩
  | unreadable => exact .inr ⟨quiet_empty false, settings, rfl, fun name spec known => rfl⟩
  | parsed content =>
      have values : (ConfigFile.parsed content).values = content.orEmpty.dict := (Yaml.dict_orEmpty content).symm
      rw [values]
      dsimp only
      split
      next entries shape =>
        rw [shape]
        exact applyMapping_outcome settings (Dict.ofList entries)
      next other =>
        rw [Yaml.dict_of_not_mapping other]
        exact .inr ⟨quiet_empty false, settings, rfl, fun name spec known => rfl⟩

/-- The overlay over the settings, which is left out whole where an entry of it escapes. -/
theorem applyDocument_outcome (settings : Dict String Yaml) (document : Dict YamlKey Yaml) :
    (¬Quiet true (documentValues document) ∧ (applyDocument settings document).1 = settings) ∨
      (Quiet true (documentValues document) ∧ ∀ name, (applyDocument settings document).1.get name =
        (((documentValues document).get (.text name)).bind (taken true (.text name))).or (settings.get name)) := by
  unfold applyDocument documentValues
  rw [← Yaml.dict_orEmpty]
  split
  next entries shape =>
    rw [shape]
    cases validated : validateValues (Dict.ofList entries) true with
    | error raised => exact .inl ⟨validateValues_error validated, rfl⟩
    | ok outcome =>
        obtain ⟨accepted, errors⟩ := outcome
        obtain ⟨quiet, values⟩ := validateValues_ok validated
        refine .inr ⟨quiet, fun name => ?_⟩
        dsimp only
        rw [Dict.get_update, values]
        rfl
  next other =>
    rw [Yaml.dict_of_not_mapping other]
    exact .inr ⟨quiet_empty true, fun name => rfl⟩

theorem applyRemoteOverlay_outcome (settings : Dict String Yaml) (file : ConfigFile) :
    (¬Quiet true file.overlayValues ∧ (applyRemoteOverlay settings file).1 = settings) ∨
      (Quiet true file.overlayValues ∧ ∀ name, (applyRemoteOverlay settings file).1.get name =
        ((file.overlayValues.get (.text name)).bind (taken true (.text name))).or (settings.get name)) := by
  unfold applyRemoteOverlay
  cases file with
  | missing => exact .inr ⟨quiet_empty true, fun name => rfl⟩
  | unreadable => exact .inr ⟨quiet_empty true, fun name => rfl⟩
  | parsed content =>
      have values : (ConfigFile.parsed content).overlayValues = documentValues content.orEmpty.dict := by
        rw [Yaml.dict_orEmpty]
        rfl
      rw [values]
      dsimp only
      split
      next entries shape =>
        rw [shape]
        exact applyDocument_outcome settings (Dict.ofList entries)
      next other =>
        rw [Yaml.dict_of_not_mapping other]
        exact .inr ⟨quiet_empty true, fun name => rfl⟩

theorem held_valid {remote : Bool} {values : Dict YamlKey Yaml} {name : String} {spec : SettingSpec} {value : Yaml}
    (kept : held remote values name spec = some value) : spec.valid value = some value := by
  unfold held at kept
  split at kept
  next => cases kept
  next =>
    obtain ⟨asked, found, valid⟩ := Option.bind_eq_some_iff.mp kept
    exact SettingSpec.valid_valid valid

theorem held_ne_nan (remote : Bool) (values : Dict YamlKey Yaml) (name : String) (spec : SettingSpec) :
    held remote values name spec ≠ some (.float .nan) := by
  intro kept
  cases (SettingSpec.valid_nan spec).symm.trans (held_valid kept)

theorem below_valid {name : String} {spec : SettingSpec} (known : settingsSchema.get name = some spec)
    (base : Dict YamlKey Yaml) : ∃ value, below base name spec = some value ∧ value ≠ .float .nan := by
  unfold below
  cases kept : held false base name spec with
  | some value =>
      refine ⟨value, rfl, fun same => ?_⟩
      exact held_ne_nan false base name spec (kept.trans (congrArg some same))
  | none =>
      obtain ⟨value, found, valid⟩ := settingsDefaults_valid known
      refine ⟨value, found, fun same => ?_⟩
      rw [same, SettingSpec.valid_nan] at valid
      cases valid

section Keys

variable {name : String} {spec : SettingSpec} (known : settingsSchema.get name = some spec)
  (base overlay : Dict YamlKey Yaml)

/-- The base file and the defaults at a key. -/
def underlaid (base : Dict YamlKey Yaml) (name : String) : Option Yaml :=
  ((base.get (.text name)).bind (taken false (.text name))).or (settingsDefaults.get name)

include known in
theorem underlaid_cases :
    (¬Unordered false base name spec ∧ underlaid base name = below base name spec) ∨
      (Unordered false base name spec ∧ underlaid base name = some (.float .nan)) := by
  unfold underlaid below
  obtain ⟨ordered, same⟩ | ⟨unordered, invalid, left⟩ := taken_cases known false base
  · rw [same]
    exact .inl ⟨ordered, rfl⟩
  · rw [left]
    exact .inr ⟨unordered, rfl⟩

include known in
theorem layered_whole_iff :
    ((overlay.get (.text name)).bind (taken true (.text name))).or (underlaid base name) =
        (held true overlay name spec).or (below base name spec) ↔
      ¬Unordered true overlay name spec ∧
        (Unordered false base name spec → (held true overlay name spec).isSome = true) := by
  obtain ⟨value, lower, number⟩ := below_valid known base
  obtain ⟨ordered, same⟩ | ⟨unordered, invalid, left⟩ := taken_cases known true overlay
  · rw [same]
    cases kept : held true overlay name spec with
    | some value => simp [ordered]
    | none =>
        obtain ⟨ordinary, under⟩ | ⟨odd, under⟩ := underlaid_cases known base
        · simp [ordered, ordinary, under]
        · simp [ordered, odd, under, lower, Ne.symm number]
  · rw [left, invalid, lower]
    simp [unordered, Ne.symm number]

include known in
theorem layered_skipped_iff :
    underlaid base name = (held true overlay name spec).or (below base name spec) ↔
      ¬Unordered false base name spec ∧
        ∀ value, held true overlay name spec = some value → below base name spec = some value := by
  obtain ⟨value, lower, number⟩ := below_valid known base
  obtain ⟨ordinary, under⟩ | ⟨odd, under⟩ := underlaid_cases known base
  · rw [under]
    cases kept : held true overlay name spec with
    | some value => simp [ordinary]
    | none => simp [ordinary]
  · rw [under]
    cases kept : held true overlay name spec with
    | some value =>
        have different : Yaml.float .nan ≠ value := by
          intro same
          exact held_ne_nan true overlay name spec (kept.trans (congrArg some same.symm))
        simp [odd, different]
    | none => simp [odd, lower, Ne.symm number]

end Keys

/-- Two layers without the values that the check gets wrong: no entry of the base escapes;
where none of the overlay does, what is not a number is nowhere in force; and an overlay
that is left out asks for nothing but what the layers below it give. -/
structure Sane (base overlay : Dict YamlKey Yaml) : Prop where
  loads : Quiet false base
  whole : Quiet true overlay → ∀ name spec, settingsSchema.get name = some spec →
    ¬Unordered true overlay name spec ∧
      (Unordered false base name spec → (held true overlay name spec).isSome = true)
  skipped : ¬Quiet true overlay → ∀ name spec, settingsSchema.get name = some spec →
    ¬Unordered false base name spec ∧
      ∀ value, held true overlay name spec = some value → below base name spec = some value

namespace ConfigManager

/-- `reload` neither raises nor leaves a key of the schema without its layered value. -/
def Reloads (manager : ConfigManager) : Prop :=
  ∃ after, manager.reload = .ok after ∧
    Layered manager.base.values manager.overlay.overlayValues after.settings

theorem reload_cases (manager : ConfigManager) :
    (¬Quiet false manager.base.values ∧ ∃ raised, manager.reload = .error raised) ∨
      (Quiet false manager.base.values ∧ ∃ after, manager.reload = .ok after ∧
        after.base = manager.base ∧ after.overlay = manager.overlay ∧
        (Layered manager.base.values manager.overlay.overlayValues after.settings ↔
          Sane manager.base.values manager.overlay.overlayValues)) := by
  unfold reload
  obtain ⟨loud, raised, fails⟩ | ⟨quiet, settings, applied, based⟩ := applyFile_outcome settingsDefaults manager.base
  · rw [fails]
    exact .inl ⟨loud, raised, rfl⟩
  · rw [applied]
    refine .inr ⟨quiet, _, rfl, rfl, rfl, ?_⟩
    change Layered _ _ (applyRemoteOverlay settings manager.overlay).1 ↔ _
    obtain ⟨loud, kept⟩ | ⟨whole, overlaid⟩ := applyRemoteOverlay_outcome settings manager.overlay
    · rw [kept]
      constructor
      · intro layered
        refine { loads := quiet, whole := fun whole => absurd whole loud, skipped := fun _ name spec known => ?_ }
        apply (layered_skipped_iff known _ _).mp
        exact (based name spec known).symm.trans (layered name spec known)
      · intro sane name spec known
        exact (based name spec known).trans ((layered_skipped_iff known _ _).mpr (sane.skipped loud name spec known))
    · constructor
      · intro layered
        refine { loads := quiet, whole := fun _ name spec known => ?_, skipped := fun loud => absurd whole loud }
        apply (layered_whole_iff known _ _).mp
        have value := (overlaid name).symm.trans (layered name spec known)
        rwa [based name spec known] at value
      · intro sane name spec known
        rw [overlaid, based name spec known]
        exact (layered_whole_iff known _ _).mpr (sane.whole whole name spec known)

theorem reloads_iff (manager : ConfigManager) :
    manager.Reloads ↔ Sane manager.base.values manager.overlay.overlayValues := by
  unfold Reloads
  obtain ⟨loud, raised, fails⟩ | ⟨quiet, after, reloaded, base, overlay, layered⟩ := reload_cases manager
  · rw [fails]
    constructor
    · intro reloads
      obtain ⟨after, reloaded, layered⟩ := reloads
      cases reloaded
    · exact fun sane => absurd sane.loads loud
  · rw [← layered, reloaded]
    constructor
    · intro reloads
      obtain ⟨other, same, settings⟩ := reloads
      cases same
      exact settings
    · exact fun settings => ⟨after, rfl, settings⟩

end ConfigManager

end Wqm1.Config
