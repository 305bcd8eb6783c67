import Wqm1.Config.Layering

/-! Runs of `apply_remote_config`: a call is in force and written whole, or changes nothing. -/

set_option autoImplicit false

namespace Wqm1.Config

open Wqm1.Library

/-- The calls that the check passes: every value is valid, or is not a number. -/
def Accepts (values : Dict YamlKey Yaml) : Prop :=
  ∀ entry ∈ values.entries, ∃ name spec, entry.1 = .text name ∧
    settingsSchema.get name = some spec ∧
    spec.remote = true ∧ ((spec.valid entry.2).isSome = true ∨ spec.NotNumber entry.2)

theorem taken_isSome_iff (key : YamlKey) (value : Yaml) :
    (taken true key value).isSome = true ↔ ∃ name spec, key = .text name ∧
      settingsSchema.get name = some spec ∧
      spec.remote = true ∧ ((spec.valid value).isSome = true ∨ spec.NotNumber value) := by
  unfold taken
  constructor
  · intro left
    cases accepted : checkEntry true key value with
    | error raised =>
        rw [accepted] at left
        cases left
    | ok verdict =>
        cases verdict with
        | refused error =>
            rw [accepted] at left
            cases left
        | accepted name kept =>
            obtain ⟨same, spec, known, settable⟩ := checkEntry_accepted accepted
            rw [same, checkEntry_schema known settable] at accepted
            refine ⟨name, spec, same, known, settable rfl, ?_⟩
            cases spec.checked (settingsSchema_bounded known) name value with
            | valid checked valid => exact .inl (Option.isSome_iff_exists.mpr ⟨_, valid⟩)
            | refused checked invalid => cases checked.symm.trans accepted
            | notNumber unordered checked invalid => exact .inr unordered
            | overflows huge checked invalid => cases checked.symm.trans accepted
  · intro acceptable
    obtain ⟨name, spec, same, known, settable, value⟩ := acceptable
    rw [same, checkEntry_schema known fun _ => settable]
    cases spec.checked (settingsSchema_bounded known) name _ with
    | valid checked valid => rw [checked]; rfl
    | notNumber unordered checked invalid => rw [checked]; rfl
    | refused checked invalid =>
        cases value with
        | inl valid => rw [invalid] at valid; cases valid
        | inr unordered => cases checked.symm.trans (SettingSpec.check_notNumber unordered name)
    | overflows huge checked invalid =>
        cases value with
        | inl valid => rw [invalid] at valid; cases valid
        | inr unordered => cases checked.symm.trans (SettingSpec.check_notNumber unordered name)

section Written

variable {values : Dict YamlKey Yaml} {accepted : Dict String Yaml}
  (kept : ∀ name, accepted.get name = (values.get (.text name)).bind (taken true (.text name)))

include kept in
theorem unordered_written_iff {name : String} {spec : SettingSpec}
    (known : settingsSchema.get name = some spec) :
    Unordered true (Yaml.ofDict accepted).dict name spec ↔ Unordered true values name spec := by
  unfold Unordered
  rw [Yaml.get_ofDict, kept]
  obtain ⟨ordered, same⟩ | ⟨unordered, invalid, left⟩ := taken_cases known true values
  · rw [same]
    constructor
    · intro written
      exact absurd written.2.2 (held_ne_nan true values name spec)
    · exact fun unordered => absurd unordered ordered
  · rw [left]
    exact iff_of_true ⟨unordered.1, unordered.2.1, rfl⟩ unordered

include kept in
theorem held_written {name : String} {spec : SettingSpec}
    (known : settingsSchema.get name = some spec) :
    held true (Yaml.ofDict accepted).dict name spec = held true values name spec := by
  have outcomes := taken_cases known true values
  unfold held at outcomes ⊢
  by_cases withheld : (true && !spec.remote) = true
  · rw [if_pos withheld, if_pos withheld]
  · rw [if_neg withheld] at outcomes
    rw [if_neg withheld, if_neg withheld, Yaml.get_ofDict, kept]
    obtain ⟨ordered, same⟩ | ⟨unordered, invalid, left⟩ := outcomes
    · rw [same]
      cases valid : (values.get (.text name)).bind spec.valid with
      | none => rfl
      | some value =>
          obtain ⟨asked, found, widened⟩ := Option.bind_eq_some_iff.mp valid
          exact SettingSpec.valid_valid widened
    · rw [left, invalid]
      exact SettingSpec.valid_nan spec

include kept in
theorem quiet_written : Quiet true (Yaml.ofDict accepted).dict := by
  intro entry member stops
  rw [Yaml.entries_ofDict] at member
  obtain ⟨listed, found, same⟩ := List.mem_map.mp member
  rw [← same] at stops
  cases stops with
  | @value name spec value known settable huge =>
      have taken : accepted.get listed.1 = some listed.2 := Dict.get_eq_some_iff.mpr found
      rw [kept] at taken
      obtain ⟨ordered, same⟩ | ⟨unordered, invalid, left⟩ := taken_cases known true values
      · have valid := held_valid (same.symm.trans taken)
        cases (SettingSpec.valid_overflows (settingsSchema_bounded known) huge).symm.trans valid
      · obtain ⟨float, number, same, large⟩ := huge
        have odd : Yaml.float .nan = .int number :=
          (Option.some.inj (left.symm.trans taken)).trans same
        cases odd

include kept in
theorem sane_written_iff (base : Dict YamlKey Yaml) (quiet : Quiet true values) :
    Sane base (Yaml.ofDict accepted).dict ↔ Sane base values := by
  have written := quiet_written kept
  constructor
  · intro sane
    refine { loads := sane.loads, whole := fun _ name spec known => ?_, skipped := fun loud => absurd quiet loud }
    rw [← held_written kept known, ← unordered_written_iff kept known]
    exact sane.whole written name spec known
  · intro sane
    refine { loads := sane.loads, whole := fun _ name spec known => ?_, skipped := fun loud => absurd written loud }
    rw [held_written kept known, unordered_written_iff kept known]
    exact sane.whole quiet name spec known

end Written

theorem validateValues_clean {values : Dict YamlKey Yaml} {accepted : Dict String Yaml}
    {errors : List SettingError}
    (validated : validateValues values true = .ok (accepted, errors)) :
    errors = [] ↔ Accepts values := by
  have clean := (validateEntries_validates values.nodup validated).clean
  unfold Accepts
  simp only [← taken_isSome_iff]
  simpa using clean

/-- What a call can come to: it raises, is refused, is written and then stops the reload, or
is written and reloaded. -/
inductive CallOutcome (manager : ConfigManager) (call : RemoteConfig) :
    Except Raised (Bool × List String) → ConfigManager → Prop where
  | raised {escaped : Raised} (loud : ¬Quiet true call.values) : CallOutcome manager call (.error escaped) manager
  | refused {errors : List String} (quiet : Quiet true call.values)
      (cause : Accepts call.values → call.persistFailure ≠ none) (listed : errors ≠ []) :
      CallOutcome manager call (.ok (false, errors)) manager
  | stopped {escaped : Raised} {written : ConfigManager} (quiet : Quiet true call.values)
      (accepts : Accepts call.values) (persists : call.persistFailure = none)
      (loud : ¬Quiet false manager.base.values) : CallOutcome manager call (.error escaped) written
  | applied {accepted : Dict String Yaml} {after : ConfigManager} (quiet : Quiet true call.values)
      (accepts : Accepts call.values) (persists : call.persistFailure = none)
      (kept : ∀ name, accepted.get name = (call.values.get (.text name)).bind (taken true (.text name)))
      (base : after.base = manager.base) (file : after.overlay = .parsed (overlayDocument call.version accepted))
      (layered : Layered manager.base.values after.overlay.overlayValues after.settings ↔
        Sane manager.base.values call.values) :
      CallOutcome manager call (.ok (true, [])) after

theorem overlayValues_written (version : Yaml) (accepted : Dict String Yaml) :
    (ConfigFile.parsed (overlayDocument version accepted)).overlayValues = (Yaml.ofDict accepted).dict := by
  unfold ConfigFile.overlayValues documentValues overlayDocument Yaml.dict Dict.ofList
  simp

theorem applyRemoteConfig_outcome (manager : ConfigManager) (call : RemoteConfig) :
    CallOutcome manager call (manager.applyRemoteConfig call).1 (manager.applyRemoteConfig call).2 := by
  unfold ConfigManager.applyRemoteConfig
  cases validated : validateValues call.values true with
  | error raised => exact .raised (validateValues_error validated)
  | ok outcome =>
      obtain ⟨accepted, errors⟩ := outcome
      obtain ⟨quiet, kept⟩ := validateValues_ok validated
      have clean := validateValues_clean validated
      cases errors with
      | cons error rest =>
          refine .refused quiet (fun accepts => ?_) (List.cons_ne_nil _ _)
          cases clean.mpr accepts
      | nil =>
          have accepts := clean.mp rfl
          cases persists : call.persistFailure with
          | some failure =>
              refine .refused quiet (fun _ => ?_) (List.cons_ne_nil _ _)
              rw [persists]
              exact Option.some_ne_none _
          | none =>
              have written := overlayValues_written call.version accepted
              have outcomes := ConfigManager.reload_cases
                { manager with overlay := .parsed (overlayDocument call.version accepted) }
              rw [written, sane_written_iff kept manager.base.values quiet] at outcomes
              obtain ⟨loud, raised, fails⟩ | ⟨_, after, reloaded, base, file, layered⟩ := outcomes
              · simp only [List.isEmpty_nil, if_true, fails]
                exact .stopped quiet accepts persists loud
              · have document : after.overlay = .parsed (overlayDocument call.version accepted) := file
                simp only [List.isEmpty_nil, if_true, reloaded]
                rw [← written, ← document] at layered
                exact .applied quiet accepts persists kept base document layered

/-- What a call comes to: it is in force through the overlay that it writes, or the settings stay
as they are and it is not reported as applied. -/
inductive Called (manager : ConfigManager) (call : RemoteConfig) :
    Except Raised (Bool × List String) × ConfigManager → Prop where
  | applied {accepted : Dict String Yaml} {after : ConfigManager}
      (validated : validateValues call.values true = .ok (accepted, [])) (writes : call.persistFailure = none)
      (reloaded : { manager with overlay := .parsed (overlayDocument call.version accepted) }.reload = .ok after) :
      Called manager call (.ok (true, []), after)
  | unapplied {result : Except Raised (Bool × List String)} {overlay : ConfigFile}
      (failed : ∀ errors, result ≠ .ok (true, errors))
      (cause : ∀ accepted, validateValues call.values true = .ok (accepted, []) → call.persistFailure = none →
        ∀ after, { manager with overlay := .parsed (overlayDocument call.version accepted) }.reload ≠ .ok after) :
      Called manager call (result, { manager with overlay })

theorem called (manager : ConfigManager) (call : RemoteConfig) :
    Called manager call (manager.applyRemoteConfig call) := by
  unfold ConfigManager.applyRemoteConfig
  cases validated : validateValues call.values true with
  | error raised =>
      refine .unapplied (fun _ impossible => by cases impossible) fun accepted valid => ?_
      cases validated.symm.trans valid
  | ok outcome =>
      obtain ⟨accepted, errors⟩ := outcome
      cases errors with
      | cons error rest =>
          refine .unapplied (fun _ impossible => by cases impossible) fun accepted valid => ?_
          cases validated.symm.trans valid
      | nil =>
          cases persists : call.persistFailure with
          | some failure =>
              refine .unapplied
                (fun _ impossible => by cases impossible) fun accepted _ writes => ?_
              cases persists.symm.trans writes
          | none =>
              cases reloaded : ConfigManager.reload
                  { manager with overlay := .parsed (overlayDocument call.version accepted) } with
              | ok after =>
                  simp only [List.isEmpty_nil, if_true, reloaded]
                  exact .applied validated persists reloaded
              | error raised =>
                  simp only [List.isEmpty_nil, if_true, reloaded]
                  refine .unapplied
                    (fun _ impossible => by cases impossible) fun other valid _ after same => ?_
                  cases validated.symm.trans valid
                  cases reloaded.symm.trans same

/-- The answer that a call may have: every value of it is written and in force and nothing else
is written, or something is reported and nothing has changed. -/
inductive Honoured (call : RemoteConfig) (before : ConfigManager) :
    Except Raised (Bool × List String) → ConfigManager → Prop where
  | applied {written : Dict String Yaml} {after : ConfigManager}
      (values : ∀ entry ∈ call.values.entries, ∃ name spec value, entry.1 = .text name ∧
        settingsSchema.get name = some spec ∧ spec.remote = true ∧ spec.valid entry.2 = some value ∧
        written.get name = some value ∧ after.settings.get name = some value)
      (only : ∀ name value, written.get name = some value → YamlKey.text name ∈ call.values.keys)
      (file : after.overlay = .parsed (overlayDocument call.version written))
      (layered : Layered before.base.values after.overlay.overlayValues after.settings) :
      Honoured call before (.ok (true, [])) after
  | refused {errors : List String} (listed : errors ≠ []) : Honoured call before (.ok (false, errors)) before

/-- A call without the values that the check gets wrong, over a base file. -/
structure SaneCall (base : Dict YamlKey Yaml) (call : RemoteConfig) : Prop where
  answers : Quiet true call.values
  keeps : Accepts call.values → call.persistFailure = none → Sane base call.values

theorem Accepts.valid {values : Dict YamlKey Yaml} (accepts : Accepts values)
    (ordered : ∀ name spec, settingsSchema.get name = some spec → ¬Unordered true values name spec)
    {entry : YamlKey × Yaml} (member : entry ∈ values.entries) :
    ∃ name spec value, entry.1 = .text name ∧ settingsSchema.get name = some spec ∧
      spec.remote = true ∧
      spec.valid entry.2 = some value ∧ held true values name spec = some value := by
  obtain ⟨key, asked⟩ := entry
  obtain ⟨name, spec, same, known, settable, acceptable⟩ := accepts _ member
  dsimp only at same acceptable
  rw [same] at member
  have found : values.get (.text name) = some asked := Dict.get_eq_some_iff.mpr member
  cases acceptable with
  | inl valid =>
      obtain ⟨value, valid⟩ := Option.isSome_iff_exists.mp valid
      refine ⟨name, spec, value, same, known, settable, valid, ?_⟩
      unfold held
      rw [found, settable]
      exact valid
  | inr unordered =>
      refine absurd ⟨fun _ => settable, unordered.1, ?_⟩ (ordered name spec known)
      rw [found, unordered.2]

theorem honoured_iff {manager : ConfigManager} {call : RemoteConfig}
    {result : Except Raised (Bool × List String)}
    {after : ConfigManager} (outcome : CallOutcome manager call result after) :
    Honoured call manager result after ↔ SaneCall manager.base.values call := by
  cases outcome with
  | raised loud =>
      constructor
      · intro honoured
        cases honoured
      · exact fun sane => absurd sane.answers loud
  | refused quiet cause listed =>
      refine iff_of_true (.refused listed) { answers := quiet, keeps := fun accepts persists => ?_ }
      exact absurd persists (cause accepts)
  | stopped quiet accepts persists loud =>
      constructor
      · intro honoured
        cases honoured
      · exact fun sane => absurd (sane.keeps accepts persists).loads loud
  | @applied accepted after quiet accepts persists kept base file layered =>
      constructor
      · intro honoured
        cases honoured with
        | applied values only file settings =>
            exact { answers := quiet, keeps := fun _ _ => layered.mp settings }
      · intro sane
        have settings := layered.mpr (sane.keeps accepts persists)
        have ordered (name : String) (spec : SettingSpec)
            (known : settingsSchema.get name = some spec) :=
          ((sane.keeps accepts persists).whole quiet name spec known).1
        refine .applied (fun entry member => ?_) (fun name value listed => ?_) file settings
        · obtain ⟨name, spec, value, same, known, settable, valid, asked⟩ :=
            accepts.valid ordered member
          refine ⟨name, spec, value, same, known, settable, valid, ?_, ?_⟩
          · rw [kept]
            obtain ⟨_, left⟩ | ⟨unordered, _⟩ := taken_cases known true call.values
            · exact left.trans asked
            · exact absurd unordered (ordered name spec known)
          · rw [settings name spec known, file, overlayValues_written, held_written kept known, asked]
            rfl
        · rw [kept] at listed
          obtain ⟨asked, found, _⟩ := Option.bind_eq_some_iff.mp listed
          exact Dict.mem_keys_iff.mpr ⟨asked, found⟩

/-- Every reload along a run of calls gives the layered settings, and every call is answered. -/
def HonoursAll (manager : ConfigManager) : List RemoteConfig → Prop
  | [] => manager.Reloads
  | call :: rest =>
      manager.Reloads ∧
        Honoured call manager (manager.applyRemoteConfig call).1 (manager.applyRemoteConfig call).2 ∧
        HonoursAll (manager.applyRemoteConfig call).2 rest

def LayeringHolds (base overlay : ConfigFile) (calls : List RemoteConfig) : Prop :=
  ∃ manager, ConfigManager.start base overlay = .ok manager ∧
    Layered base.values overlay.overlayValues manager.settings ∧ HonoursAll manager calls

/-- One call leaves the base file alone, and layers that a reload reads. -/
theorem CallOutcome.reloads {manager after : ConfigManager} {call : RemoteConfig}
    {result : Except Raised (Bool × List String)} (outcome : CallOutcome manager call result after)
    (sane : SaneCall manager.base.values call) (reloads : manager.Reloads) :
    after.base = manager.base ∧ after.Reloads := by
  cases outcome with
  | raised loud => exact ⟨rfl, reloads⟩
  | refused quiet cause listed => exact ⟨rfl, reloads⟩
  | stopped quiet accepts persists loud => exact absurd (sane.keeps accepts persists).loads loud
  | applied quiet accepts persists kept base file layered =>
      refine ⟨base, (ConfigManager.reloads_iff after).mpr ?_⟩
      rw [base, file, overlayValues_written, sane_written_iff kept _ quiet]
      exact sane.keeps accepts persists

theorem honoursAll_iff {manager : ConfigManager} (reloads : manager.Reloads)
    (calls : List RemoteConfig) :
    HonoursAll manager calls ↔ ∀ call ∈ calls, SaneCall manager.base.values call := by
  induction calls generalizing manager with
  | nil => exact iff_of_true reloads fun call member => by cases member
  | cons call rest ih =>
      have outcome := applyRemoteConfig_outcome manager call
      have honoured := honoured_iff outcome
      rw [List.forall_mem_cons]
      constructor
      · intro all
        obtain ⟨_, answered, later⟩ := all
        have sane := honoured.mp answered
        obtain ⟨base, next⟩ := outcome.reloads sane reloads
        refine ⟨sane, ?_⟩
        rw [← base]
        exact (ih next).mp later
      · intro all
        obtain ⟨sane, later⟩ := all
        obtain ⟨base, next⟩ := outcome.reloads sane reloads
        rw [← base] at later
        exact ⟨reloads, honoured.mpr sane, (ih next).mpr later⟩

/-- The layering holds in exactly the runs whose files and calls are free of the values that
the check gets wrong. -/
theorem layering_holds_iff (base overlay : ConfigFile) (calls : List RemoteConfig) :
    LayeringHolds base overlay calls ↔
      Sane base.values overlay.overlayValues ∧ ∀ call ∈ calls, SaneCall base.values call := by
  unfold LayeringHolds ConfigManager.start
  obtain ⟨loud, raised, fails⟩ | ⟨quiet, after, reloaded, same, file, layered⟩ :=
    ConfigManager.reload_cases { base, overlay }
  · rw [fails]
    constructor
    · intro holds
      obtain ⟨manager, started, _⟩ := holds
      cases started
    · exact fun sane => absurd sane.1.loads loud
  · have reloads : after.Reloads ↔ Sane base.values overlay.overlayValues := by
      rw [ConfigManager.reloads_iff, same, file]
    rw [reloaded]
    constructor
    · intro holds
      obtain ⟨manager, started, settings, all⟩ := holds
      cases started
      have sane := layered.mp settings
      have calls := (honoursAll_iff (reloads.mpr sane) _).mp all
      rw [same] at calls
      exact ⟨sane, calls⟩
    · intro sane
      refine ⟨after, rfl, layered.mpr sane.1, (honoursAll_iff (reloads.mpr sane.1) calls).mpr ?_⟩
      rw [same]
      exact sane.2

/-- One large integer in the base file, and the manager cannot be constructed. -/
theorem layering_broken :
    ¬LayeringHolds (.parsed (.mapping [(.text "fan_on_temp_c", .int (10 ^ 400))])) .missing [] := by
  intro holds
  obtain ⟨manager, started, _⟩ := holds
  obtain ⟨_, raised, fails⟩ | ⟨quiet, _⟩ := ConfigManager.reload_cases
    { base := .parsed (.mapping [(.text "fan_on_temp_c", .int (10 ^ 400))]), overlay := .missing }
  · cases fails.symm.trans started
  · have known : settingsSchema.get "fan_on_temp_c" = some { type := .float, min := some 30, max := some 90 } := by
      decide +kernel
    have huge : Double.overflow ≤ (10 ^ 400 : Int).natAbs := by decide +kernel
    exact quiet _ List.mem_cons_self
      (.value known (fun impossible => by cases impossible) ⟨rfl, _, rfl, huge⟩)

end Wqm1.Config
