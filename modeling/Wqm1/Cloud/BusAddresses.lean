import Wqm1.Cloud.Rs485Config
import Wqm1.Library.Events

/-! The addresses of the enabled devices on the RS485 bus, through commands of the cloud and
assignments in the Service Window. -/

set_option autoImplicit false

namespace Wqm1.Cloud.Rs485

open Wqm1.Library Wqm1.Library.Events Wqm1.Config

/-- A reload stands for a restart as well: both read the settings from the files. -/
inductive BusStep where
  | command (sensor : WireSensor) (op : Rs485Op)
  | assign (device : BusDevice) (newAddress : ModbusAddr)
  | reload

def Rs485App.step (app : Rs485App) : BusStep → Option Rs485App
  | .command sensor op => app.command sensor op
  | .assign device newAddress => app.assign device newAddress
  | .reload => some app.reload

/-- What the next reload reads. -/
def filedSettings (config : ConfigManager) (name : String) : Option Yaml :=
  (settingsSchema.get name).bind (filed config name)

/-- The enabled devices have distinct addresses. -/
def Distinct (settings : String → Option Yaml) : Prop :=
  ∀ device other : BusDevice, device ≠ other → flag settings device.enabledKey = true →
    flag settings other.enabledKey = true →
      number settings device.addrKey ≠ number settings other.addrKey

/-- The addresses are distinct in the settings in force and in the files. -/
structure Unique (app : Rs485App) : Prop where
  inForce : Distinct app.config.settings.get
  filed : Distinct (filedSettings app.config)

/-- A device that reads as it does in `read` is disabled or at an address of no other enabled one. -/
def Free (settings : String → Option Yaml) (device : BusDevice) (read : String → Option Yaml) : Prop :=
  flag read device.enabledKey = true → ∀ other, other ≠ device →
    flag settings other.enabledKey = true →
    number settings other.addrKey ≠ number read device.addrKey

/-- What is pinned in memory, over the files. -/
def pinnedRead (config : ConfigManager) (updates : Dict String Yaml) (name : String) :
    Option Yaml :=
  (updates.get name).or (filedSettings config name)

/-- What the files read as after an update of the base file, over which the overlay stays. -/
def filedRead (config : ConfigManager) (updates : Dict String Yaml) (name : String) : Option Yaml :=
  (overlaid config.overlay name).or (pinnedRead config updates name)

/-- A device is set to an address that is free, as it is set and as the files then read. -/
def Vacant (app : Rs485App) : BusStep → Prop
  | .command sensor op =>
    Free (filedSettings app.config) (.probe sensor) (pinnedRead app.config (op.change.updates (.probe sensor))) ∧
      Free (filedSettings app.config) (.probe sensor) (filedRead app.config (op.change.updates (.probe sensor)))
  | .assign device newAddress =>
    Free (filedSettings app.config) device (filedRead app.config ((Change.mk (some true) (some newAddress)).updates device))
  | .reload => True

section Decidable

def busDevices : List BusDevice := .flow :: wireSensors.map .probe

theorem mem_busDevices (device : BusDevice) : device ∈ busDevices := by
  cases device with
  | probe sensor => cases sensor <;> decide
  | flow => decide

instance {holds : BusDevice → Prop} [DecidablePred holds] : Decidable (∀ device, holds device) :=
  decidable_of_iff (∀ device ∈ busDevices, holds device)
    ⟨fun all device => all device (mem_busDevices device), fun all device _ => all device⟩

instance (settings : String → Option Yaml) : Decidable (Distinct settings) :=
  inferInstanceAs (Decidable (∀ device other : BusDevice, device ≠ other → flag settings device.enabledKey = true →
    flag settings other.enabledKey = true →
      number settings device.addrKey ≠ number settings other.addrKey))

instance (settings : String → Option Yaml) (device : BusDevice) (read : String → Option Yaml) :
    Decidable (Free settings device read) :=
  inferInstanceAs (Decidable (flag read device.enabledKey = true → ∀ other, other ≠ device →
    flag settings other.enabledKey = true →
      number settings other.addrKey ≠ number read device.addrKey))

instance (app : Rs485App) : DecidablePred (Vacant app)
  | .command _ _ => inferInstanceAs (Decidable (Free _ _ _ ∧ Free _ _ _))
  | .assign _ _ => inferInstanceAs (Decidable (Free _ _ _))
  | .reload => .isTrue trivial

end Decidable

section Reading

variable {settings read : String → Option Yaml}

theorem flag_congr {key : String} (same : read key = settings key) :
    flag read key = flag settings key := by
  unfold flag
  rw [same]

theorem number_congr {key : String} (same : read key = settings key) :
    number read key = number settings key := by
  unfold number
  rw [same]

theorem Distinct.congr (same : ∀ device : BusDevice, read device.enabledKey = settings device.enabledKey ∧
    read device.addrKey = settings device.addrKey) : Distinct read ↔ Distinct settings := by
  unfold Distinct
  simp only [fun device => flag_congr (same device).1, fun device => number_congr (same device).2]

/-- Where one device changes, the addresses stay distinct exactly if its own is free. -/
theorem Distinct.changed_iff (distinct : Distinct settings) {device : BusDevice}
    (same : ∀ other : BusDevice, other ≠ device → read other.enabledKey = settings other.enabledKey ∧
      read other.addrKey = settings other.addrKey) : Distinct read ↔ Free settings device read := by
  have flags {other : BusDevice} (different : other ≠ device) := flag_congr (same other different).1
  have numbers {other : BusDevice} (different : other ≠ device) :=
    number_congr (same other different).2
  constructor
  · intro unique runs other different on
    rw [← flags different] at on
    rw [← numbers different]
    exact unique other device different on runs
  · intro free first second different firstOn secondOn
    by_cases isFirst : first = device
    · subst isFirst
      have other : second ≠ first := different.symm
      rw [flags other] at secondOn
      rw [numbers other]
      exact (free firstOn second other secondOn).symm
    · rw [flags isFirst] at firstOn
      rw [numbers isFirst]
      by_cases isSecond : second = device
      · subst isSecond
        exact free secondOn first isFirst firstOn
      · rw [flags isSecond] at secondOn
        rw [numbers isSecond]
        exact distinct first second different firstOn secondOn

end Reading

section Updated

variable {config after : ConfigManager} {change : Change} {device : BusDevice} {name : String} {spec : SettingSpec}

theorem filedSettings_of_schema (known : settingsSchema.get name = some spec)
    (config : ConfigManager) :
    filedSettings config name = filed config name spec := by
  unfold filedSettings
  rw [known]
  rfl

theorem filedRead_unset {updates : Dict String Yaml} (unset : updates.get name = none)
    (known : settingsSchema.get name = some spec) :
    filedRead config updates name = filedSettings config name := by
  unfold filedRead pinnedRead
  rw [unset, Option.none_or, filedSettings_of_schema known]
  unfold filed
  cases overlaid config.overlay name <;> rfl

/-- The files after an update of the base file. -/
theorem filed_updated (base : ∀ name, after.base.values.get (.text name) =
      ((change.updates device).get name).or (config.base.values.get (.text name)))
    (overlay : after.overlay = config.overlay) (known : settingsSchema.get name = some spec) :
    filed after name spec = filedRead config (change.updates device) name := by
  cases given : (change.updates device).get name with
  | none =>
    rw [filedRead_unset given known, filedSettings_of_schema known]
    have same := base name
    rw [given, Option.none_or] at same
    unfold filed
    rw [overlay, below_congr same]
  | some value =>
    obtain ⟨other, sameSpec, -, valid⟩ := updates_valid given
    cases known.symm.trans sameSpec
    have stands := base name
    rw [given, Option.some_or] at stands
    unfold filed filedRead pinnedRead
    rw [overlay, below_of_base stands valid, given, Option.some_or]

theorem settings_wrote (wrote : Wrote config (change.updates device) after)
    (known : settingsSchema.get name = some spec)
    (notFloat : spec.type ≠ .float) :
    after.settings.get name = pinnedRead config (change.updates device) name := by
  rw [wrote.settings name spec known notFloat, filed_updated wrote.base wrote.overlay known]
  unfold pinnedRead
  cases given : (change.updates device).get name with
  | none => rw [Option.none_or, Option.none_or, filedRead_unset given known]
  | some value => rfl

end Updated

/-- The keys of a device read the same in both. -/
theorem same_keys {settings read : String → Option Yaml}
    (same : ∀ name spec, settingsSchema.get name = some spec → spec.type ≠ .float → read name = settings name)
    (device : BusDevice) : read device.enabledKey = settings device.enabledKey ∧
      read device.addrKey = settings device.addrKey :=
  ⟨same _ _ (schema_enabledKey device) (by decide), same _ _ (schema_addrKey device) (by decide)⟩

theorem filedRead_other (config : ConfigManager) (change : Change) {device other : BusDevice}
    (different : other ≠ device) :
    filedRead config (change.updates device) other.enabledKey = filedSettings config other.enabledKey ∧
      filedRead config (change.updates device) other.addrKey = filedSettings config other.addrKey := by
  obtain ⟨enabled, addr⟩ := updates_other change different
  exact ⟨filedRead_unset enabled (schema_enabledKey other), filedRead_unset addr (schema_addrKey other)⟩

theorem pinnedRead_other (config : ConfigManager) (change : Change) {device other : BusDevice}
    (different : other ≠ device) :
    pinnedRead config (change.updates device) other.enabledKey = filedSettings config other.enabledKey ∧
      pinnedRead config (change.updates device) other.addrKey = filedSettings config other.addrKey := by
  obtain ⟨enabled, addr⟩ := updates_other change different
  unfold pinnedRead
  rw [enabled, addr]
  exact ⟨rfl, rfl⟩

namespace Unique

variable {app after : Rs485App} {event : BusStep}

/-- The files after an update are without a clash exactly if the device's place in them is free. -/
theorem filed_iff (unique : Unique app) {config : ConfigManager} {change : Change}
    {device : BusDevice}
    (base : ∀ name, config.base.values.get (.text name) =
      ((change.updates device).get name).or (app.config.base.values.get (.text name)))
    (overlay : config.overlay = app.config.overlay) :
    Distinct (filedSettings config) ↔
      Free (filedSettings app.config) device (filedRead app.config (change.updates device)) := by
  have read : Distinct (filedSettings config) ↔ Distinct (filedRead app.config (change.updates device)) :=
    Distinct.congr (same_keys fun name spec known _ =>
      (filedSettings_of_schema known config).trans (filed_updated base overlay known))
  exact read.trans
    (unique.filed.changed_iff fun other different => filedRead_other app.config change different)

theorem step_iff (unique : Unique app) (done : app.step event = some after) :
    Unique after ↔ Vacant app event := by
  cases event with
  | command sensor op =>
    have wrote := command_wrote done
    have read : Distinct after.config.settings.get ↔
        Distinct (pinnedRead app.config (op.change.updates (.probe sensor))) :=
      Distinct.congr (same_keys fun name spec known notFloat => settings_wrote wrote known notFloat)
    have pinned : Distinct (pinnedRead app.config (op.change.updates (.probe sensor))) ↔
        Free (filedSettings app.config) (.probe sensor)
          (pinnedRead app.config (op.change.updates (.probe sensor))) :=
      unique.filed.changed_iff fun other different => pinnedRead_other app.config op.change different
    have filed := unique.filed_iff wrote.base wrote.overlay
    exact ⟨fun both => ⟨pinned.mp (read.mp both.inForce), filed.mp both.filed⟩,
      fun both => ⟨read.mpr (pinned.mpr both.1), filed.mpr both.2⟩⟩
  | assign device newAddress =>
    obtain ⟨base, updated, same⟩ := Option.map_eq_some_iff.mp done
    subst same
    have filed := @filed_iff app unique { app.config with base } _ device
      (fun name => get_updateConfig updated name) rfl
    exact ⟨fun both => filed.mp both.filed, fun free => ⟨unique.inForce, filed.mpr free⟩⟩
  | reload =>
    cases done
    refine iff_of_true ?_ trivial
    unfold Rs485App.reload
    cases reloaded : app.config.reload with
    | error raised => exact unique
    | ok config =>
      obtain ⟨base, overlay⟩ := base_reload reloaded
      have same : Distinct config.settings.get ↔ Distinct (filedSettings app.config) :=
        Distinct.congr (same_keys fun name spec known notFloat =>
          (get_reload reloaded known notFloat).trans (filedSettings_of_schema known app.config).symm)
      have files : filedSettings config = filedSettings app.config := by
        funext name
        unfold filedSettings Rs485.filed
        rw [base, overlay]
      refine ⟨same.mpr unique.filed, ?_⟩
      show Distinct (filedSettings config)
      rw [files]
      exact unique.filed

end Unique

/-- From distinct addresses, the addresses stay distinct through a run if and only if every
command and every assignment puts its device at an address that is free. -/
theorem addresses_unique_iff (app : Rs485App) (unique : Unique app) (steps : List BusStep) :
    Throughout Rs485App.step Unique app steps ↔ Along Rs485App.step Vacant app steps :=
  throughout_iff_along id (fun unique done vacant => (unique.step_iff done).mpr vacant)
    (fun unique done taken clash => taken ((unique.step_iff done).mp clash)) unique steps

/-- A unit without config files, whose probes are all disabled. -/
def bareUnit : Rs485App := ⟨{ base := .missing, overlay := .missing }, fun _ => none⟩

theorem bareUnit_disabled (device : BusDevice) :
    flag bareUnit.config.settings.get device.enabledKey = false ∧
    flag (filedSettings bareUnit.config) device.enabledKey = false := by
  cases device with
  | probe sensor => cases sensor <;> exact ⟨rfl, rfl⟩
  | flow => exact ⟨rfl, rfl⟩

theorem unique_bareUnit : Unique bareUnit where
  inForce device _ _ on := by cases (bareUnit_disabled device).1.symm.trans on
  filed device _ _ on := by cases (bareUnit_disabled device).2.symm.trans on

def fifth : ModbusAddr := ⟨5, by decide, by decide⟩

/-- The configuration of a unit whose chlorine probe and flow meter are enabled. -/
def siteConfig : Yaml := .mapping [
  (.text "rs485_chlorine_enabled", .bool true), (.text "rs485_chlorine_addr", .int 5),
  (.text "rs485_flow_enabled", .bool true), (.text "rs485_flow_addr", .int 4)]

def siteUnit : Rs485App :=
  Rs485App.reload ⟨{ base := .parsed siteConfig, overlay := .missing }, fun sensor =>
    if sensor = .residualChlorine then some 5 else none⟩

theorem unique_siteUnit : Unique siteUnit where
  inForce := by decide +kernel
  filed := by decide +kernel

/-- A third device is added and moved, a fourth assigned, and the flow meter takes the address
that the chlorine probe has given up. -/
def siteWork : List BusStep := [.command .rdOrpWe01 (.add ⟨6, by decide, by decide⟩),
  .command .rdOrpWe01 (.setAddress ⟨6, by decide, by decide⟩ ⟨8, by decide, by decide⟩),
  .assign (.probe .rdPetsts01) ⟨7, by decide, by decide⟩, .reload, .command .residualChlorine (.disable none),
  .assign .flow fifth, .reload]

theorem addresses_unique_siteUnit : Throughout Rs485App.step Unique siteUnit siteWork :=
  (addresses_unique_iff siteUnit unique_siteUnit siteWork).mpr (by decide +kernel)

/-- Two probes are added at the same address. -/
def sameAddress : List BusStep :=
  [.command .residualChlorine (.add fifth), .command .rdOrpWe01 (.add fifth)]

theorem addresses_clash : ¬ ∀ (app : Rs485App), Unique app → ∀ steps : List BusStep,
    Throughout Rs485App.step Unique app steps := by
  intro claim
  have clash : ((play Rs485App.step anything bareUnit sameAddress).any fun app =>
      flag app.config.settings.get "rs485_chlorine_enabled" && flag app.config.settings.get "rs485_orp_enabled" &&
        number app.config.settings.get "rs485_chlorine_addr" =
          number app.config.settings.get "rs485_orp_addr") = true := by
    decide +kernel
  obtain ⟨app, played, both⟩ := (Option.any_eq_true _ _).mp clash
  obtain ⟨enabled, same⟩ := (Bool.and_eq_true _ _).mp both
  obtain ⟨chlorine, orp⟩ := (Bool.and_eq_true _ _).mp enabled
  have distinct := ((claim bareUnit unique_bareUnit sameAddress).final played).inForce
  exact distinct (.probe .residualChlorine) (.probe .rdOrpWe01) (by decide) chlorine orp
    (of_decide_eq_true same)

end Wqm1.Cloud.Rs485
