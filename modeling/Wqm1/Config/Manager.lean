import Wqm1.Config.Schema

/-! The layered settings: the defaults, the base file over them and the remote overlay on top.
A file is taken at what the YAML parser makes of it, and a document that was written is read
back as it was. -/

set_option autoImplicit false

namespace Wqm1.Config

open Wqm1.Library

/-- `SETTINGS_SCHEMA.get(key)`. -/
def schemaEntry : YamlKey → Option (String × SettingSpec)
  | .text name => (settingsSchema.get name).map fun spec => (name, spec)
  | _ => none

def checkEntry (remote : Bool) (key : YamlKey) (value : Yaml) : Except Raised Verdict :=
  match schemaEntry key with
  | none =>
      match key.printed with
      | some printed => .ok (.refused (.unknownKey key printed))
      | none => .error .valueError
  | some (name, spec) =>
      if remote && !spec.remote then .ok (.refused (.notRemote name)) else spec.check name value

/-- The loop of `validate_values`. -/
def validateEntries (remote : Bool) (entries : List (YamlKey × Yaml)) (accepted : Dict String Yaml)
    (errors : List SettingError) : Except Raised (Dict String Yaml × List SettingError) :=
  match entries with
  | [] => .ok (accepted, errors)
  | (key, value) :: rest =>
      match checkEntry remote key value with
      | .error raised => .error raised
      | .ok (.accepted name value) => validateEntries remote rest (accepted.set name value) errors
      | .ok (.refused error) => validateEntries remote rest accepted (errors ++ [error])

def validateValues (values : Dict YamlKey Yaml) (remote : Bool) :
    Except Raised (Dict String Yaml × List SettingError) :=
  validateEntries remote values.entries .empty []

inductive ConfigFile where
  | missing
  | unreadable
  | parsed (content : Yaml)

/-- The base file may carry fields of the settings that the schema does not know. Only text
prints as the name of a field. -/
def keepLegacy (remote : Bool) (values : Dict YamlKey Yaml) (accepted : Dict String Yaml) (error : SettingError) :
    Dict String Yaml :=
  match error with
  | .unknownKey (.text name) _ =>
      match values.get (.text name) with
      | some value => if !remote && settingsFields.contains name then accepted.set name value else accepted
      | none => accepted
  | _ => accepted

/-- The keys that do not go through the schema. -/
def poppedKeys : List YamlKey := [.text "rules", .text "load_control", .text "service_window"]

/-- A mapping that was read from the base file. -/
def applyMapping (settings : Dict String Yaml) (raw : Dict YamlKey Yaml) (remote : Bool) :
    Except Raised (Dict String Yaml) :=
  let values := raw.filter fun entry => !poppedKeys.contains entry.1
  match validateValues values remote with
  | .error raised => .error raised
  | .ok (accepted, errors) =>
      let applied := settings.update (errors.foldl (keepLegacy remote values) accepted)
      match raw.get (.text "rules") with
      | some (.seq rules) => .ok (applied.set "rules" (.seq rules))
      | _ => .ok applied

def applyFile (settings : Dict String Yaml) (file : ConfigFile) (remote : Bool) : Except Raised (Dict String Yaml) :=
  match file with
  | .missing | .unreadable => .ok settings
  | .parsed content =>
      match content.orEmpty with
      | .mapping entries => applyMapping settings (Dict.ofList entries) remote
      | _ => .ok settings

/-- `isinstance(version, int)`, which holds of Booleans as well. -/
def versionOf : Option Yaml → Option Yaml
  | some (.int number) => some (.int number)
  | some (.bool value) => some (.bool value)
  | _ => none

/-- Whatever escapes inside is caught, and the overlay is then left out whole. -/
def applyDocument (settings : Dict String Yaml) (document : Dict YamlKey Yaml) : Dict String Yaml × Option Yaml :=
  match ((document.get (.text "values")).getD .null).orEmpty with
  | .mapping entries =>
      match validateValues (Dict.ofList entries) true with
      | .ok (accepted, _) => (settings.update accepted, versionOf (document.get (.text "version")))
      | .error _ => (settings, none)
  | _ => (settings, none)

def applyRemoteOverlay (settings : Dict String Yaml) (file : ConfigFile) : Dict String Yaml × Option Yaml :=
  match file with
  | .missing | .unreadable => (settings, none)
  | .parsed content =>
      match content.orEmpty with
      | .mapping entries => applyDocument settings (Dict.ofList entries)
      | _ => (settings, none)

structure ConfigManager where
  base : ConfigFile
  overlay : ConfigFile
  settings : Dict String Yaml := settingsDefaults
  remoteVersion : Option Yaml := none

namespace ConfigManager

def reload (manager : ConfigManager) : Except Raised ConfigManager :=
  match applyFile settingsDefaults manager.base false with
  | .error raised => .error raised
  | .ok settings =>
      let overlaid := applyRemoteOverlay settings manager.overlay
      .ok { manager with settings := overlaid.1, remoteVersion := overlaid.2 }

/-- The constructor, for what the two files hold. -/
def start (base overlay : ConfigFile) : Except Raised ConfigManager :=
  reload { base, overlay }

end ConfigManager

/-- A call of `apply_remote_config`, and the failure of its write if it fails. -/
structure RemoteConfig where
  version : Yaml
  values : Dict YamlKey Yaml
  persistFailure : Option String := none

def overlayDocument (version : Yaml) (accepted : Dict String Yaml) : Yaml :=
  .mapping [(.text "version", version), (.text "values", .ofDict accepted)]

/-- What the call returns or raises, and the manager after it. -/
def ConfigManager.applyRemoteConfig (manager : ConfigManager) (call : RemoteConfig) :
    Except Raised (Bool × List String) × ConfigManager :=
  match validateValues call.values true with
  | .error raised => (.error raised, manager)
  | .ok (accepted, errors) =>
      if errors.isEmpty then
        match call.persistFailure with
        | some failure => (.ok (false, ["persist failed: " ++ failure]), manager)
        | none =>
            let written := { manager with overlay := .parsed (overlayDocument call.version accepted) }
            match written.reload with
            | .ok reloaded => (.ok (true, []), reloaded)
            | .error raised => (.error raised, written)
      else
        (.ok (false, errors.map SettingError.text), manager)

end Wqm1.Config
