import Wqm1.Config.Layering

/-! The RS485 devices: the commands of the cloud and the assignments of the Service Window
that change their settings, and what a reload makes of them. -/

set_option autoImplicit false

namespace Wqm1.Cloud.Rs485

open Wqm1.Library Wqm1.Config

/-- The probes that the cloud can name. -/
inductive WireSensor where
  | residualChlorine
  | rdOrpWe01
  | rdPetsts01
deriving DecidableEq

inductive BusDevice where
  | probe (sensor : WireSensor)
  | flow
deriving DecidableEq

namespace BusDevice

def configPrefix : BusDevice → String
  | .probe .residualChlorine => "rs485_chlorine"
  | .probe .rdOrpWe01 => "rs485_orp"
  | .probe .rdPetsts01 => "rs485_multi"
  | .flow => "rs485_flow"

def enabledKey (device : BusDevice) : String := device.configPrefix ++ "_enabled"

def addrKey (device : BusDevice) : String := device.configPrefix ++ "_addr"

end BusDevice

def wireSensors : List WireSensor := [.residualChlorine, .rdOrpWe01, .rdPetsts01]

/-- An address that `_modbus_addr` and the assign page let through. -/
structure ModbusAddr where
  value : Int
  low : 1 ≤ value
  high : value ≤ 247
deriving DecidableEq

/-- What a command or an assignment sets. -/
structure Change where
  enabled : Option Bool
  addr : Option ModbusAddr

def Change.updates (change : Change) (device : BusDevice) : Dict String Yaml :=
  let enabled := change.enabled.elim .empty fun enabled => Dict.empty.set device.enabledKey (.bool enabled)
  change.addr.elim enabled fun addr => enabled.set device.addrKey (.int addr.value)

/-- `op` and the addresses of an `rs485_config` command. -/
inductive Rs485Op where
  | add (address : ModbusAddr)
  | setAddress (address newAddress : ModbusAddr)
  | enable (address : Option ModbusAddr)
  | disable (address : Option ModbusAddr)

def Rs485Op.change : Rs485Op → Change
  | .add address => ⟨some true, some address⟩
  | .setAddress _ newAddress => ⟨none, some newAddress⟩
  | .enable address => ⟨some true, address⟩
  | .disable address => ⟨some false, address⟩

/-- `bool(getattr(settings, key))`. -/
def flag (settings : String → Option Yaml) (key : String) : Bool := (settings key).any Yaml.truthy

/-- `int(getattr(settings, key))`. -/
def number (settings : String → Option Yaml) (key : String) : Option Int :=
  match settings key with
  | some (.int number) => some number
  | some (.bool value) => some (if value then 1 else 0)
  | _ => none

/-- `read_config` and the merge of `update_config`, which raises on a file that is not a
mapping. A write that fails raises as well, and the command is then not applied. -/
def updateConfig (file : ConfigFile) (updates : Dict String Yaml) : Option ConfigFile :=
  match file with
  | .missing => some (.parsed (.ofDict updates))
  | .unreadable => none
  | .parsed content =>
    match content.orEmpty with
    | .mapping entries => some (.parsed (.mapping ((Dict.ofList entries).update (Yaml.ofDict updates).dict).entries))
    | _ => none

/-- The application: its configuration, and the addresses of the drivers of its probes. -/
structure Rs485App where
  config : ConfigManager
  probes : WireSensor → Option Int

namespace Rs485App

def rejectAddressInUse (app : Rs485App) (newAddress : ModbusAddr) (except : WireSensor) : Bool :=
  wireSensors.any fun sensor => sensor ≠ except && flag app.config.settings.get (BusDevice.probe sensor).enabledKey &&
    number app.config.settings.get (BusDevice.probe sensor).addrKey = some newAddress.value

/-- `_write_local`: the base file is updated and reloaded, and the updates are pinned in memory. -/
def writeLocal (config : ConfigManager) (updates : Dict String Yaml) : Option ConfigManager :=
  match updateConfig config.base updates with
  | none => none
  | some base =>
    match { config with base }.reload with
    | .error _ => none
    | .ok reloaded => some { reloaded with settings := reloaded.settings.update updates }

/-- The driver of the sensor after a command, or none if the command is refused. -/
def probeAfter (app : Rs485App) (sensor : WireSensor) : Rs485Op → Option (Option Int)
  | .add address => some (some address.value)
  | .setAddress address newAddress =>
    if app.probes sensor ≠ some address.value || app.rejectAddressInUse newAddress sensor then none
    else some (some newAddress.value)
  | .enable address =>
    some ((address.map ModbusAddr.value).or (number app.config.settings.get (BusDevice.probe sensor).addrKey))
  | .disable _ => some none

/-- A command that is answered with `applied`. -/
def command (app : Rs485App) (sensor : WireSensor) (op : Rs485Op) : Option Rs485App :=
  match app.probeAfter sensor op, writeLocal app.config (op.change.updates (.probe sensor)) with
  | some probe, some config => some ⟨config, Function.update app.probes sensor probe⟩
  | _, _ => none

/-- An assignment in the Service Window whose probe has answered: another process updates the
base file. -/
def assign (app : Rs485App) (device : BusDevice) (newAddress : ModbusAddr) : Option Rs485App :=
  (updateConfig app.config.base ((Change.mk (some true) (some newAddress)).updates device)).map fun base =>
    { app with config := { app.config with base } }

/-- `config_reload`; what the reload raises is caught. -/
def reload (app : Rs485App) : Rs485App :=
  match app.config.reload with
  | .error _ => app
  | .ok config => { app with config }

end Rs485App

/-- What the overlay sets a key to. -/
def overlaid (overlay : ConfigFile) (name : String) : Option Yaml := (applyRemoteOverlay .empty overlay).1.get name

/-- What a reload reads for a key of the schema. -/
def filed (config : ConfigManager) (name : String) (spec : SettingSpec) : Option Yaml :=
  (overlaid config.overlay name).or (below config.base.values name spec)

theorem get_applyRemoteOverlay (settings : Dict String Yaml) (file : ConfigFile) (name : String) :
    (applyRemoteOverlay settings file).1.get name = (overlaid file name).or (settings.get name) := by
  have document (entries : List (YamlKey × Yaml)) : (applyDocument settings (Dict.ofList entries)).1.get name =
      ((applyDocument .empty (Dict.ofList entries)).1.get name).or (settings.get name) := by
    unfold applyDocument
    split
    next =>
      split
      next => rw [Dict.get_update, Dict.get_update, Option.or_assoc]; rfl
      next => rfl
    next => rfl
  unfold overlaid applyRemoteOverlay
  split
  next => rfl
  next => rfl
  next =>
    split
    next entries _ => exact document entries
    next => rfl

/-- A reload gives every key that is not a float what its layers hold. -/
theorem get_reload {config after : ConfigManager} {name : String} {spec : SettingSpec}
    (reloaded : config.reload = .ok after) (known : settingsSchema.get name = some spec) (notFloat : spec.type ≠ .float) :
    after.settings.get name = filed config name spec := by
  unfold ConfigManager.reload at reloaded
  obtain ⟨_, raised, fails⟩ | ⟨_, settings, applied, based⟩ := applyFile_outcome settingsDefaults config.base
  · rw [fails] at reloaded
    cases reloaded
  · rw [applied] at reloaded
    cases reloaded
    show (applyRemoteOverlay settings config.overlay).1.get name = _
    rw [get_applyRemoteOverlay, based name spec known]
    obtain ⟨_, same⟩ | ⟨unordered, _⟩ := taken_cases known false config.base.values
    · rw [same]
      rfl
    · exact absurd unordered.2.1 notFloat

theorem base_reload {config after : ConfigManager} (reloaded : config.reload = .ok after) :
    after.base = config.base ∧ after.overlay = config.overlay := by
  unfold ConfigManager.reload at reloaded
  split at reloaded
  next => cases reloaded
  next =>
    cases reloaded
    exact ⟨rfl, rfl⟩

theorem get_ofList_entries {Key Value : Type} [DecidableEq Key] (dict : Dict Key Value) (key : Key) :
    (Dict.ofList dict.entries).get key = dict.get key := by
  unfold Dict.get
  rw [Dict.entries_ofList dict.nodup]

/-- The update of a file sets the keys of the updates and no others. -/
theorem get_updateConfig {file after : ConfigFile} {updates : Dict String Yaml}
    (updated : updateConfig file updates = some after) (name : String) :
    after.values.get (.text name) = (updates.get name).or (file.values.get (.text name)) := by
  unfold updateConfig at updated
  split at updated
  next =>
    cases updated
    show (Yaml.ofDict updates).dict.get (.text name) = _
    rw [Yaml.get_ofDict]
    exact Option.or_none.symm
  next => cases updated
  next content =>
    split at updated
    next entries shape =>
      cases updated
      have values : (ConfigFile.parsed content).values = Dict.ofList entries := by
        show content.dict = _
        rw [← Yaml.dict_orEmpty, shape]
        rfl
      show (Dict.ofList ((Dict.ofList entries).update (Yaml.ofDict updates).dict).entries).get (YamlKey.text name) = _
      rw [get_ofList_entries, Dict.get_update, Yaml.get_ofDict, values]
    next => cases updated

def enabledSpec : SettingSpec := { type := .bool }

def addrSpec : SettingSpec := { type := .int, min := some 1, max := some 247 }

theorem schema_enabledKey (device : BusDevice) : settingsSchema.get device.enabledKey = some enabledSpec := by
  cases device with
  | probe sensor => cases sensor <;> rfl
  | flow => rfl

theorem schema_addrKey (device : BusDevice) : settingsSchema.get device.addrKey = some addrSpec := by
  cases device with
  | probe sensor => cases sensor <;> rfl
  | flow => rfl

theorem addrKey_ne_enabledKey (device other : BusDevice) : device.addrKey ≠ other.enabledKey := by
  intro same
  have specs := (schema_addrKey device).symm.trans (same ▸ schema_enabledKey other)
  cases specs

theorem enabledKey_injective {device other : BusDevice} (same : device.enabledKey = other.enabledKey) : device = other := by
  revert same
  cases device with
  | probe sensor => cases other with
    | probe another => cases sensor <;> cases another <;> decide
    | flow => cases sensor <;> decide
  | flow => cases other with
    | probe another => cases another <;> decide
    | flow => decide

theorem addrKey_injective {device other : BusDevice} (same : device.addrKey = other.addrKey) : device = other := by
  revert same
  cases device with
  | probe sensor => cases other with
    | probe another => cases sensor <;> cases another <;> decide
    | flow => cases sensor <;> decide
  | flow => cases other with
    | probe another => cases another <;> decide
    | flow => decide

theorem get_updates (change : Change) (device : BusDevice) (name : String) :
    (change.updates device).get name =
      (if name = device.addrKey then change.addr.map fun addr => .int addr.value else none).or
        (if name = device.enabledKey then change.enabled.map .bool else none) := by
  obtain ⟨enabled, addr⟩ := change
  have nothing : (Dict.empty : Dict String Yaml).get name = none := rfl
  unfold Change.updates
  cases enabled <;> cases addr <;> simp [nothing]
  split <;> rfl

/-- No key of another device is set. -/
theorem updates_other (change : Change) {device other : BusDevice} (different : other ≠ device) :
    (change.updates device).get other.enabledKey = none ∧ (change.updates device).get other.addrKey = none := by
  rw [get_updates, get_updates, if_neg (addrKey_ne_enabledKey device other).symm,
    if_neg fun same => different (enabledKey_injective same), if_neg fun same => different (addrKey_injective same),
    if_neg (addrKey_ne_enabledKey other device)]
  exact ⟨rfl, rfl⟩

/-- What is set for a device is a valid value of one of its keys. -/
theorem updates_valid {change : Change} {device : BusDevice} {name : String} {value : Yaml}
    (found : (change.updates device).get name = some value) :
    ∃ spec, settingsSchema.get name = some spec ∧ spec.type ≠ .float ∧ spec.valid value = some value := by
  rw [get_updates] at found
  rcases Option.or_eq_some_iff.mp found with addr | ⟨-, enabled⟩
  · obtain ⟨same, given⟩ := Option.ite_none_right_eq_some.mp addr
    obtain ⟨address, -, this⟩ := Option.map_eq_some_iff.mp given
    subst same this
    refine ⟨addrSpec, schema_addrKey device, by decide, if_pos ?_⟩
    have low : (1 : Rat) ≤ address.value := by exact_mod_cast address.low
    have high : (address.value : Rat) ≤ 247 := by exact_mod_cast address.high
    constructor
    · rintro _ ⟨⟩
      simpa using low
    · rintro _ ⟨⟩
      simpa using high
  · obtain ⟨same, given⟩ := Option.ite_none_right_eq_some.mp enabled
    obtain ⟨enabled, -, this⟩ := Option.map_eq_some_iff.mp given
    subst same this
    exact ⟨enabledSpec, schema_enabledKey device, by decide, rfl⟩

theorem below_of_base {values : Dict YamlKey Yaml} {name : String} {spec : SettingSpec} {value : Yaml}
    (found : values.get (.text name) = some value) (valid : spec.valid value = some value) :
    below values name spec = some value := by
  unfold below held
  rw [found, Option.bind_some, valid]
  rfl

theorem below_congr {values other : Dict YamlKey Yaml} {name : String}
    (same : values.get (.text name) = other.get (.text name)) (spec : SettingSpec) :
    below values name spec = below other name spec := by
  unfold below held
  rw [same]

/-- What a command leaves in the files and in force. -/
structure Wrote (config : ConfigManager) (updates : Dict String Yaml) (after : ConfigManager) : Prop where
  base : ∀ name, after.base.values.get (.text name) =
    (updates.get name).or (config.base.values.get (.text name))
  overlay : after.overlay = config.overlay
  settings : ∀ name spec, settingsSchema.get name = some spec → spec.type ≠ .float →
    after.settings.get name = (updates.get name).or (filed after name spec)

theorem wrote {config after : ConfigManager} {updates : Dict String Yaml}
    (written : Rs485App.writeLocal config updates = some after) : Wrote config updates after := by
  unfold Rs485App.writeLocal at written
  split at written
  next => cases written
  next base updated =>
    split at written
    next => cases written
    next reloaded read =>
      cases written
      obtain ⟨file, overlay⟩ := base_reload read
      refine ⟨fun name => ?_, overlay, fun name spec known notFloat => ?_⟩
      · show reloaded.base.values.get _ = _
        rw [file]
        exact get_updateConfig updated name
      · show (reloaded.settings.update updates).get name = (updates.get name).or (filed _ name spec)
        rw [Dict.get_update, get_reload read known notFloat]
        unfold filed
        show (updates.get name).or ((overlaid config.overlay name).or (below base.values name spec)) =
          (updates.get name).or ((overlaid reloaded.overlay name).or (below reloaded.base.values name spec))
        rw [file, overlay]

theorem command_wrote {app after : Rs485App} {sensor : WireSensor} {op : Rs485Op}
    (done : app.command sensor op = some after) : Wrote app.config (op.change.updates (.probe sensor)) after.config := by
  unfold Rs485App.command at done
  split at done
  next written =>
    cases done
    exact wrote written
  next => cases done

end Wqm1.Cloud.Rs485
