import Wqm1.Cloud.Rs485Config
import Wqm1.Config.RemoteCalls
import Wqm1.Library.Events

/-! What the commands of the cloud have set, through reloads and remote configs. -/

set_option autoImplicit false

namespace Wqm1.Cloud.Rs485

open Wqm1.Library Wqm1.Library.Events Wqm1.Config

/-- `pinned`, for the statements only, holds the values that the last applied commands have set,
but for the keys that a remote config has set since. -/
structure Tracked where
  app : Rs485App
  pinned : Dict String Yaml := .empty

inductive ConfigStep where
  | command (sensor : WireSensor) (op : Rs485Op)
  | applyRemote (call : RemoteConfig)
  | reload

namespace Tracked

/-- The pins that a remote config leaves. -/
def released (tracked : Tracked) (call : RemoteConfig) :
    Except Raised (Bool × List String) → Dict String Yaml
  | .ok (true, _) => tracked.pinned.filter fun entry => (call.values.get (.text entry.1)).isNone
  | _ => tracked.pinned

def step (tracked : Tracked) : ConfigStep → Option Tracked
  | .command sensor op =>
    (tracked.app.command sensor op).map fun app => ⟨app, tracked.pinned.update (op.change.updates (.probe sensor))⟩
  | .applyRemote call =>
    let outcome := tracked.app.config.applyRemoteConfig call
    some ⟨{ tracked.app with config := outcome.2 }, tracked.released call outcome.1⟩
  | .reload => some { tracked with app := tracked.app.reload }

end Tracked

/-- The settings in force are those of the commands. -/
def Sticks (tracked : Tracked) : Prop :=
  ∀ name value, tracked.pinned.get name = some value →
    tracked.app.config.settings.get name = some value

/-- The overlay has no other value for a pinned key that is not set again. -/
def Agrees (tracked : Tracked) (updates : Dict String Yaml) : Prop :=
  ∀ name value, updates.get name = none → tracked.pinned.get name = some value →
    ∀ other, overlaid tracked.app.config.overlay name = some other → other = value

/-- Where the files are read again, the overlay agrees with the commands. -/
def Unopposed (tracked : Tracked) : ConfigStep → Prop
  | .command sensor op => Agrees tracked (op.change.updates (.probe sensor))
  | .applyRemote _ => True
  | .reload => ∀ after, tracked.app.config.reload = .ok after → Agrees tracked .empty

namespace Tracked

variable {tracked after : Tracked} {event : ConfigStep}

/-- What commands have set is valid, and stands in the base file and in force. -/
structure Clean (tracked : Tracked) : Prop where
  valid : ∀ name value, tracked.pinned.get name = some value →
    ∃ spec, settingsSchema.get name = some spec ∧ spec.type ≠ .float ∧ spec.valid value = some value
  base : ∀ name value, tracked.pinned.get name = some value →
    tracked.app.config.base.values.get (.text name) = some value
  sticks : Sticks tracked

/-- What is read of a key that a command has set, where the command's value is in the base file. -/
theorem filed_pinned {config : ConfigManager} {name : String} {spec : SettingSpec} {value : Yaml}
    (found : config.base.values.get (.text name) = some value)
    (valid : spec.valid value = some value) :
    filed config name spec = some value ↔ ∀ other, overlaid config.overlay name = some other → other = value := by
  unfold filed
  rw [below_of_base found valid]
  cases overlaid config.overlay name with
  | none => exact ⟨fun _ _ impossible => (by cases impossible), fun _ => rfl⟩
  | some other =>
    rw [Option.some_or]
    constructor
    · rintro ⟨⟩ _ ⟨⟩
      rfl
    · exact fun agrees => congrArg some (agrees other rfl)

/-- A remote config leaves no value in the overlay for a key that it does not set. -/
theorem overlaid_unset {values : Dict YamlKey Yaml} {accepted : Dict String Yaml}
    {errors : List SettingError}
    (validated : validateValues values true = .ok (accepted, errors)) {name : String}
    (unset : values.get (.text name) = none) (version : Yaml) :
    overlaid (.parsed (overlayDocument version accepted)) name = none := by
  have absent : accepted.get name = none := by
    rw [(validateValues_ok validated).2, unset]
    rfl
  unfold overlaid
  obtain ⟨_, skipped⟩ | ⟨_, read⟩ :=
    applyRemoteOverlay_outcome .empty (.parsed (overlayDocument version accepted))
  · rw [skipped]
    rfl
  · rw [read, overlayValues_written, Yaml.get_ofDict, absent]
    rfl

theorem Clean.applyRemote (clean : tracked.Clean) {call : RemoteConfig}
    (done : tracked.step (.applyRemote call) = some after) : after.Clean := by
  cases done
  have called := called tracked.app.config call
  revert called
  generalize tracked.app.config.applyRemoteConfig call = outcome
  intro called
  cases called with
  | @applied accepted after validated writes reloaded =>
    obtain ⟨base, overlay⟩ := base_reload reloaded
    have kept {name : String} {value : Yaml}
        (pinned : (tracked.released call (.ok (true, []))).get name = some value) :
        tracked.pinned.get name = some value ∧ call.values.get (.text name) = none := by
      obtain ⟨before, unset⟩ := Dict.get_filter_eq_some_iff.mp pinned
      exact ⟨before, Option.isNone_iff_eq_none.mp unset⟩
    refine ⟨fun name value pinned => clean.valid name value (kept pinned).1, fun name value pinned => ?_,
      fun name value pinned => ?_⟩
    · show after.base.values.get _ = _
      rw [base]
      exact clean.base name value (kept pinned).1
    · obtain ⟨before, unset⟩ := kept pinned
      obtain ⟨spec, known, notFloat, valid⟩ := clean.valid name value before
      refine (get_reload reloaded known notFloat).trans ?_
      refine (@filed_pinned { tracked.app.config with overlay := .parsed (overlayDocument call.version accepted) } name spec
        value (clean.base name value before) valid).mpr fun other found => ?_
      cases (overlaid_unset validated unset call.version).symm.trans found
  | @unapplied result overlay failed cause =>
    have same : tracked.released call result = tracked.pinned := by
      unfold released
      split
      next errors => exact absurd rfl (failed errors)
      next => rfl
    show Clean ⟨_, tracked.released call result⟩
    rw [same]
    exact ⟨clean.valid, clean.base, clean.sticks⟩

/-- A step that reads the files again, where they hold what it sets. -/
theorem Clean.reread (clean : tracked.Clean) {updates : Dict String Yaml}
    (settable : ∀ name value, updates.get name = some value →
      ∃ spec, settingsSchema.get name = some spec ∧ spec.type ≠ .float ∧
        spec.valid value = some value)
    (wrote : Wrote tracked.app.config updates after.app.config)
    (pins : after.pinned = tracked.pinned.update updates) :
    (Agrees tracked updates → after.Clean) ∧ (¬ Agrees tracked updates → ¬ Sticks after) := by
  have cases {name : String} {value : Yaml} (pinned : after.pinned.get name = some value) :
      updates.get name = some value ∨ updates.get name = none ∧
        tracked.pinned.get name = some value := by
    rw [pins, Dict.get_update] at pinned
    exact Option.or_eq_some_iff.mp pinned
  have stands {name : String} {value : Yaml} (pinned : after.pinned.get name = some value) :
      after.app.config.base.values.get (.text name) = some value := by
    rw [wrote.base]
    rcases cases pinned with now | ⟨unset, before⟩
    · rw [now]
      rfl
    · rw [unset, clean.base name value before]
      rfl
  have inForce {name : String} {value : Yaml} (unset : updates.get name = none)
      (before : tracked.pinned.get name = some value)
        (pinned : after.pinned.get name = some value) :
      after.app.config.settings.get name = some value ↔
        ∀ other, overlaid tracked.app.config.overlay name = some other → other = value := by
    obtain ⟨spec, known, notFloat, valid⟩ := clean.valid name value before
    rw [wrote.settings name spec known notFloat, unset, ← wrote.overlay]
    exact filed_pinned (stands pinned) valid
  constructor
  · intro agrees
    refine ⟨fun name value pinned => ?_, fun name value pinned => stands pinned, fun name value pinned => ?_⟩
    · rcases cases pinned with now | ⟨_, before⟩
      · exact settable name value now
      · exact clean.valid name value before
    · rcases cases pinned with now | ⟨unset, before⟩
      · obtain ⟨spec, known, notFloat, _⟩ := settable name value now
        rw [wrote.settings name spec known notFloat, now]
        rfl
      · exact (inForce unset before pinned).mpr (agrees name value unset before)
  · intro opposed sticks
    refine opposed fun name value unset before => ?_
    have pinned : after.pinned.get name = some value := by
      rw [pins, Dict.get_update, unset, before]
      rfl
    exact (inForce unset before pinned).mp (sticks name value pinned)

theorem wrote_reload {config after : ConfigManager} (reloaded : config.reload = .ok after) :
    Wrote config .empty after := by
  obtain ⟨base, overlay⟩ := base_reload reloaded
  refine ⟨fun name => ?_, overlay, fun name spec known notFloat => ?_⟩
  · rw [base]
    rfl
  · rw [get_reload reloaded known notFloat]
    unfold filed
    rw [base, overlay]
    rfl

theorem Clean.step (clean : tracked.Clean) (done : tracked.step event = some after) :
    (Unopposed tracked event → after.Clean) ∧ (¬ Unopposed tracked event → ¬ Sticks after) := by
  cases event with
  | command sensor op =>
    obtain ⟨app, commanded, same⟩ := Option.map_eq_some_iff.mp done
    subst same
    exact clean.reread (fun _ _ found => updates_valid found) (command_wrote commanded) rfl
  | applyRemote call => exact ⟨fun _ => clean.applyRemote done, fun opposed => absurd trivial opposed⟩
  | reload =>
    cases done
    unfold Unopposed Rs485App.reload
    cases reloaded : tracked.app.config.reload with
    | error raised =>
      exact ⟨fun _ => clean, fun opposed => absurd (fun _ impossible => (by cases impossible)) opposed⟩
    | ok config =>
      have both := @Clean.reread tracked ⟨{ tracked.app with config }, tracked.pinned⟩ clean .empty
        (fun _ _ impossible => (by cases impossible)) (wrote_reload reloaded) rfl
      exact ⟨fun agrees => both.1 (agrees config rfl), fun opposed => both.2 fun agrees => opposed fun _ _ => agrees⟩

end Tracked

/-- What commands have set stays in force through a run if and only if the overlay holds no
other value for it whenever the files are read again. -/
theorem command_settings_stick_iff (app : Rs485App) (steps : List ConfigStep) :
    Throughout Tracked.step Sticks ⟨app, .empty⟩ steps ↔ Along Tracked.step Unopposed ⟨app, .empty⟩ steps := by
  have begins : Tracked.Clean ⟨app, .empty⟩ :=
    ⟨fun _ _ impossible => (by cases impossible), fun _ _ impossible => (by cases impossible),
      fun _ _ impossible => (by cases impossible)⟩
  exact throughout_iff_along (fun clean => clean.sticks)
    (fun clean stepped unopposed => (clean.step stepped).1 unopposed)
    (fun clean stepped opposed => (clean.step stepped).2 opposed) begins steps

/-- A unit without a base file whose remote config, from before, puts the ORP probe at 9. -/
def remoteOrp : Except Raised Rs485App :=
  (ConfigManager.start .missing (.parsed (.mapping [(.text "version", .int 1),
    (.text "values", .mapping [(.text "rs485_orp_addr", .int 9)])]))).map fun config => ⟨config, fun _ => none⟩

/-- The ORP probe is added, and then the chlorine probe. -/
def twoProbes (orp chlorine : ModbusAddr) : List ConfigStep :=
  [.command .rdOrpWe01 (.add orp), .command .residualChlorine (.add chlorine)]

theorem orp_address_undone : ¬ ∀ (app : Rs485App) (steps : List ConfigStep),
    Throughout Tracked.step Sticks ⟨app, .empty⟩ steps := by
  intro claim
  let steps := twoProbes ⟨5, by decide, by decide⟩ ⟨7, by decide, by decide⟩
  have undone : (remoteOrp.toOption.any fun app => (play Tracked.step anything ⟨app, .empty⟩ steps).any fun tracked =>
      number tracked.pinned.get "rs485_orp_addr" = some 5 &&
        number tracked.app.config.settings.get "rs485_orp_addr" = some 9) = true := by decide +kernel
  obtain ⟨app, _, ran⟩ := (Option.any_eq_true _ _).mp undone
  obtain ⟨tracked, played, both⟩ := (Option.any_eq_true _ _).mp ran
  obtain ⟨pinned, inForce⟩ := (Bool.and_eq_true _ _).mp both
  have sticks := (claim app steps).final played "rs485_orp_addr"
  unfold number at pinned inForce
  cases stands : tracked.pinned.get "rs485_orp_addr" with
  | none =>
    rw [stands] at pinned
    cases pinned
  | some value =>
    rw [sticks value stands, ← stands] at inForce
    have same := (of_decide_eq_true pinned).symm.trans (of_decide_eq_true inForce)
    cases same

end Wqm1.Cloud.Rs485
