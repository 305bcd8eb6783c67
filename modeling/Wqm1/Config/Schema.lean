import Wqm1.Library.Yaml

/-! The settings schema: the defaults of the settings, what each key may hold, and the
check of one value. -/

set_option autoImplicit false

namespace Wqm1.Config

open Wqm1.Library

inductive SettingType where
  | bool
  | int
  | float
  | str
deriving DecidableEq

/-- The bounds are whole numbers for every key of the schema. -/
structure SettingSpec where
  type : SettingType
  min : Option Int := none
  max : Option Int := none
  maxLength : Option Nat := none
  remote : Bool := true
  choices : Option (List String) := none
deriving DecidableEq

inductive SettingError where
  | unknownKey (key : YamlKey) (printed : String)
  | notRemote (key : String)
  | notBoolean (key : String)
  | notInteger (key : String)
  | notNumber (key : String)
  | outside (key : String) (spec : SettingSpec)
  | notString (key : String) (quoteHint : Bool)
  | tooLong (key : String) (spec : SettingSpec)
  | notChoice (key : String) (spec : SettingSpec)

def SettingSpec.printBound (spec : SettingSpec) : Option Int → String
  | none => "None"
  | some bound => if spec.type = .float then toString bound ++ ".0" else toString bound

def SettingError.text : SettingError → String
  | .unknownKey _ printed => "unknown key: " ++ printed
  | .notRemote key => "key not remotely configurable: " ++ key
  | .notBoolean key => key ++ " must be a boolean"
  | .notInteger key => key ++ " must be an integer"
  | .notNumber key => key ++ " must be a number"
  | .outside key spec =>
      key ++ " must be in [" ++ spec.printBound spec.min ++ ", " ++ spec.printBound spec.max ++ "]"
  | .notString key quoteHint =>
      key ++ " must be a string" ++ if quoteHint then " (quote it: \"on\" / \"off\")" else ""
  | .tooLong key spec => key ++ " must be at most " ++ spec.maxLength.elim "None" toString ++ " chars"
  | .notChoice key spec => key ++ " must be one of " ++ ", ".intercalate (spec.choices.getD [])

/-- What escapes from the check: of `float(value)`, and of printing a key. -/
inductive Raised where
  | overflowError
  | valueError
deriving DecidableEq

inductive Verdict where
  | accepted (key : String) (value : Yaml)
  | refused (error : SettingError)

namespace SettingSpec

def excludes (spec : SettingSpec) (less greater : Int → Bool) : Bool :=
  spec.min.any less || spec.max.any greater

def checkBool (key : String) : Yaml → Verdict
  | .bool value => .accepted key (.bool value)
  | _ => .refused (.notBoolean key)

def checkInt (spec : SettingSpec) (key : String) : Yaml → Verdict
  | .int number =>
      if spec.excludes (fun low => number < low) (fun high => high < number) then
        .refused (.outside key spec)
      else
        .accepted key (.int number)
  | _ => .refused (.notInteger key)

def checkDouble (spec : SettingSpec) (key : String) (number : Double) : Verdict :=
  if spec.excludes (fun low => number.lt low) (fun high => number.gt high) then
    .refused (.outside key spec)
  else
    .accepted key (.float number)

def checkFloat (spec : SettingSpec) (key : String) : Yaml → Except Raised Verdict
  | .int number =>
      match Double.ofInt number with
      | some converted => .ok (spec.checkDouble key converted)
      | none => .error .overflowError
  | .float number => .ok (spec.checkDouble key number)
  | _ => .ok (.refused (.notNumber key))

/-- YAML reads a bare on or off as a Boolean. -/
def quoteHint (spec : SettingSpec) : Yaml → Bool
  | .bool _ => spec.choices.any fun choices => choices.contains "on" || choices.contains "off"
  | _ => false

def checkStr (spec : SettingSpec) (key : String) : Yaml → Verdict
  | .text word =>
      if spec.maxLength.any (· < word.length) then
        .refused (.tooLong key spec)
      else if spec.choices.any (!·.contains word) then
        .refused (.notChoice key spec)
      else
        .accepted key (.text word)
  | value => .refused (.notString key (spec.quoteHint value))

def check (spec : SettingSpec) (key : String) (value : Yaml) : Except Raised Verdict :=
  match spec.type with
  | .bool => .ok (checkBool key value)
  | .int => .ok (spec.checkInt key value)
  | .float => spec.checkFloat key value
  | .str => .ok (spec.checkStr key value)

end SettingSpec

def smartBreakerVendors : List String := ["none", "relay_only", "ableedge"]

def smartBreakerFailSafeModes : List String := ["off", "last", "on"]

def backhauls : List String := ["wifi", "lte", "none"]

def smartBreakerAuthModes : List String := ["direct", "cloud_proxy"]

def irrigationHoldOnFaultModes : List String := ["release", "hold"]

def settingsSchemaEntries : List (String × SettingSpec) := [
  ("sensor_read_s", { type := .int, min := some 5, max := some 3600 }),
  ("lora_tx_s", { type := .int, min := some 60, max := some 86400 }),
  ("gps_fix_s", { type := .int, min := some 86400, max := some 1296000 }),
  ("gps_fix_timeout_s", { type := .int, min := some 5, max := some 300 }),
  ("command_poll_s", { type := .int, min := some 5, max := some 3600 }),
  ("sync_interval_s", { type := .int, min := some 30, max := some 86400 }),
  ("heartbeat_s", { type := .int, min := some 60, max := some 86400 }),
  ("batch_size", { type := .int, min := some 1, max := some 200 }),
  ("max_retries", { type := .int, min := some 1, max := some 10 }),
  ("gps_baud", { type := .int, min := some 1200, max := some 921600, remote := false }),
  ("gps_enabled", { type := .bool, remote := false }),
  ("lora_enabled", { type := .bool, remote := false }),
  ("backhaul", { type := .str, maxLength := some 8, remote := false, choices := some backhauls }),
  ("app_key", { type := .str, maxLength := some 32, remote := false }),
  ("app_eui", { type := .str, maxLength := some 16, remote := false }),
  ("lora_sub_band", { type := .int, min := some 1, max := some 8, remote := false }),
  ("cloud_enabled", { type := .bool, remote := false }),
  ("cloud_ingest_url", { type := .str, maxLength := some 256, remote := false }),
  ("cloud_command_url", { type := .str, maxLength := some 256, remote := false }),
  ("cloud_api_base", { type := .str, maxLength := some 256, remote := false }),
  ("api_key", { type := .str, maxLength := some 128, remote := false }),
  ("ota_enabled", { type := .bool }),
  ("ota_poll_s", { type := .int, min := some 300, max := some 86400 }),
  ("ota_max_bundle_bytes", { type := .int, min := some 1000000, max := some 536870912 }),
  ("ota_self_test_timeout_s", { type := .int, min := some 60, max := some 3600 }),
  ("ota_keep_releases", { type := .int, min := some 1, max := some 10 }),
  ("db_path", { type := .str, maxLength := some 256, remote := false }),
  ("log_path", { type := .str, maxLength := some 256, remote := false }),
  ("log_max_bytes", { type := .int, min := some 1024, max := some 1073741824, remote := false }),
  ("log_backup_count", { type := .int, min := some 0, max := some 50, remote := false }),
  ("db_max_rows", { type := .int, min := some 1000, max := some 10000000 }),
  ("cmd_sock", { type := .str, maxLength := some 256, remote := false }),
  ("simulate_enabled", { type := .bool, remote := false }),
  ("simulate_seed", { type := .int, min := some 0, max := some 2147483647, remote := false }),
  ("simulate_faults", { type := .str, maxLength := some 512, remote := false }),
  ("board", { type := .str, maxLength := some 32, remote := false }),
  ("orp_enabled", { type := .bool }),
  ("ph_enabled", { type := .bool }),
  ("tds_enabled", { type := .bool }),
  ("turbidity_enabled", { type := .bool }),
  ("temperature_enabled", { type := .bool }),
  ("rs485_port", { type := .str, maxLength := some 64, remote := false }),
  ("rs485_chlorine_enabled", { type := .bool }),
  ("rs485_chlorine_addr", { type := .int, min := some 1, max := some 247 }),
  ("rs485_orp_enabled", { type := .bool }),
  ("rs485_orp_addr", { type := .int, min := some 1, max := some 247 }),
  ("rs485_multi_enabled", { type := .bool }),
  ("rs485_multi_addr", { type := .int, min := some 1, max := some 247 }),
  ("rs485_baud", { type := .int, min := some 1200, max := some 115200 }),
  ("flow_pulse_enabled", { type := .bool }),
  ("flow_pulse_gpio", { type := .int, min := some 0, max := some 27, remote := false }),
  ("rs485_flow_enabled", { type := .bool }),
  ("rs485_flow_addr", { type := .int, min := some 1, max := some 247 }),
  ("rs485_flow_model", { type := .str, maxLength := some 32 }),
  ("adaptive_sampling_enabled", { type := .bool }),
  ("sensor_read_fast_s", { type := .int, min := some 5, max := some 600 }),
  ("adaptive_delta_threshold", { type := .float, min := some 0, max := some 1000 }),
  ("adaptive_hold_s", { type := .int, min := some 30, max := some 86400 }),
  ("flatline_window_min", { type := .int, min := some 5, max := some 1440 }),
  ("spike_z_threshold", { type := .float, min := some 1, max := some 20 }),
  ("drift_check_enabled", { type := .bool }),
  ("calibration_max_age_days", { type := .int, min := some 1, max := some 3650 }),
  ("hardware_watchdog_enabled", { type := .bool, remote := false }),
  ("fan_on_temp_c", { type := .float, min := some 30, max := some 90 }),
  ("fan_off_temp_c", { type := .float, min := some 25, max := some 85 }),
  ("smart_breaker_vendor",
    { type := .str, maxLength := some 16, remote := false, choices := some smartBreakerVendors }),
  ("smart_breaker_device_id", { type := .str, maxLength := some 64, remote := false }),
  ("smart_breaker_site_id", { type := .str, maxLength := some 64, remote := false }),
  ("smart_breaker_circuit_label", { type := .str, maxLength := some 64 }),
  ("smart_breaker_circuit_amps", { type := .int, min := some 0, max := some 200, remote := false }),
  ("smart_breaker_interlock_relay", { type := .int, min := some 0, max := some 4, remote := false }),
  ("smart_breaker_poll_s", { type := .int, min := some 15, max := some 3600 }),
  ("smart_breaker_fail_safe", { type := .str, maxLength := some 8, choices := some smartBreakerFailSafeModes }),
  ("smart_breaker_unreachable_grace_s", { type := .int, min := some 0, max := some 86400 }),
  ("smart_breaker_min_off_s", { type := .int, min := some 0, max := some 3600 }),
  ("smart_breaker_auth_mode",
    { type := .str, maxLength := some 16, remote := false, choices := some smartBreakerAuthModes }),
  ("smart_breaker_api_base", { type := .str, maxLength := some 256, remote := false }),
  ("smart_breaker_token_url", { type := .str, maxLength := some 256, remote := false }),
  ("smart_breaker_client_id", { type := .str, maxLength := some 128, remote := false }),
  ("smart_breaker_client_secret", { type := .str, maxLength := some 256, remote := false }),
  ("smart_breaker_subscription_key", { type := .str, maxLength := some 128, remote := false }),
  ("irrigation_hold_enabled", { type := .bool }),
  ("irrigation_hold_relay", { type := .int, min := some 0, max := some 4 }),
  ("irrigation_hold_turbidity_ntu", { type := .float, min := some 0, max := some 4000 }),
  ("irrigation_hold_tds_ppm", { type := .float, min := some 0, max := some 20000 }),
  ("irrigation_hold_ph_min", { type := .float, min := some 0, max := some 14 }),
  ("irrigation_hold_ph_max", { type := .float, min := some 0, max := some 14 }),
  ("irrigation_hold_flow_gpm_max", { type := .float, min := some 0, max := some 1000 }),
  ("irrigation_hold_trip_samples", { type := .int, min := some 1, max := some 10 }),
  ("irrigation_hold_release_min", { type := .int, min := some 0, max := some 1440 }),
  ("irrigation_hold_on_fault", { type := .str, maxLength := some 8, choices := some irrigationHoldOnFaultModes }),
  ("apple_home_enabled", { type := .bool }),
  ("apple_home_port", { type := .int, min := some 1024, max := some 65535, remote := false }),
  ("mqtt_enabled", { type := .bool }),
  ("mqtt_host", { type := .str, maxLength := some 253, remote := false }),
  ("mqtt_port", { type := .int, min := some 0, max := some 65535, remote := false }),
  ("mqtt_username", { type := .str, maxLength := some 128, remote := false }),
  ("mqtt_password", { type := .str, maxLength := some 256, remote := false }),
  ("mqtt_tls", { type := .bool, remote := false }),
  ("mqtt_discovery_prefix", { type := .str, maxLength := some 64, remote := false })]

def settingsSchema : Dict String SettingSpec := ⟨settingsSchemaEntries, by decide +kernel⟩

/-- The attributes of a `Settings` object. -/
def settingsDefaultEntries : List (String × Yaml) := [
  ("sensor_read_s", .int 60),
  ("lora_tx_s", .int 300),
  ("gps_fix_s", .int 86400),
  ("gps_fix_timeout_s", .int 60),
  ("gps_baud", .int 38400),
  ("gps_enabled", .bool true),
  ("lora_enabled", .bool true),
  ("backhaul", .text "wifi"),
  ("app_key", .text "00000000000000000000000000000000"),
  ("app_eui", .text "0000000000000000"),
  ("lora_sub_band", .int 2),
  ("cloud_enabled", .bool false),
  ("cloud_ingest_url", .text "https://us-central1-waterquality-trading.cloudfunctions.net/ingestReading"),
  ("cloud_command_url", .text "https://us-central1-waterquality-trading.cloudfunctions.net/deviceCommands"),
  ("cloud_api_base", .text "https://us-central1-waterquality-trading.cloudfunctions.net/app"),
  ("command_poll_s", .int 5),
  ("api_key", .text ""),
  ("batch_size", .int 50),
  ("sync_interval_s", .int 300),
  ("max_retries", .int 3),
  ("retry_delays", .seq [.int 5, .int 15, .int 30]),
  ("heartbeat_s", .int 600),
  ("ota_enabled", .bool true),
  ("ota_poll_s", .int 900),
  ("ota_max_bundle_bytes", .int 67108864),
  ("ota_self_test_timeout_s", .int 600),
  ("ota_keep_releases", .int 2),
  ("db_path", .text "/var/lib/bluesignal/wqm1.db"),
  ("log_path", .text "/var/log/bluesignal/wqm1.log"),
  ("log_max_bytes", .int 10485760),
  ("log_backup_count", .int 5),
  ("db_max_rows", .int 100000),
  ("cmd_sock", .text "/var/run/bluesignal/cmd.sock"),
  ("simulate_enabled", .bool false),
  ("simulate_seed", .int 0),
  ("simulate_faults", .text ""),
  ("board", .text "auto"),
  ("orp_enabled", .bool false),
  ("ph_enabled", .bool true),
  ("tds_enabled", .bool true),
  ("turbidity_enabled", .bool true),
  ("temperature_enabled", .bool true),
  ("rs485_port", .text "/dev/ttyUSB0"),
  ("rs485_chlorine_enabled", .bool false),
  ("rs485_chlorine_addr", .int 1),
  ("rs485_orp_enabled", .bool false),
  ("rs485_orp_addr", .int 2),
  ("rs485_multi_enabled", .bool false),
  ("rs485_multi_addr", .int 3),
  ("rs485_baud", .int 9600),
  ("flow_pulse_enabled", .bool false),
  ("flow_pulse_gpio", .int 26),
  ("rs485_flow_enabled", .bool false),
  ("rs485_flow_addr", .int 4),
  ("rs485_flow_model", .text "tuf2000m"),
  ("adaptive_sampling_enabled", .bool false),
  ("sensor_read_fast_s", .int 15),
  ("adaptive_delta_threshold", .float (.finite 5)),
  ("adaptive_hold_s", .int 600),
  ("flatline_window_min", .int 20),
  ("spike_z_threshold", .float (.finite 6)),
  ("drift_check_enabled", .bool true),
  ("calibration_max_age_days", .int 90),
  ("hardware_watchdog_enabled", .bool false),
  ("fan_on_temp_c", .float (.finite 60)),
  ("fan_off_temp_c", .float (.finite 55)),
  ("smart_breaker_vendor", .text "none"),
  ("smart_breaker_device_id", .text ""),
  ("smart_breaker_site_id", .text ""),
  ("smart_breaker_circuit_label", .text ""),
  ("smart_breaker_circuit_amps", .int 0),
  ("smart_breaker_interlock_relay", .int 0),
  ("smart_breaker_poll_s", .int 60),
  ("smart_breaker_fail_safe", .text "off"),
  ("smart_breaker_unreachable_grace_s", .int 300),
  ("smart_breaker_min_off_s", .int 180),
  ("smart_breaker_auth_mode", .text "direct"),
  ("smart_breaker_api_base", .text "https://api.em.eaton.com/api/v1"),
  ("smart_breaker_token_url", .text "https://api.em.eaton.com/oauth2/token"),
  ("smart_breaker_client_id", .text ""),
  ("smart_breaker_client_secret", .text ""),
  ("smart_breaker_subscription_key", .text ""),
  ("irrigation_hold_enabled", .bool false),
  ("irrigation_hold_relay", .int 0),
  ("irrigation_hold_turbidity_ntu", .float (.finite 0)),
  ("irrigation_hold_tds_ppm", .float (.finite 0)),
  ("irrigation_hold_ph_min", .float (.finite 0)),
  ("irrigation_hold_ph_max", .float (.finite 0)),
  ("irrigation_hold_flow_gpm_max", .float (.finite 0)),
  ("irrigation_hold_trip_samples", .int 2),
  ("irrigation_hold_release_min", .int 10),
  ("irrigation_hold_on_fault", .text "release"),
  ("apple_home_enabled", .bool false),
  ("apple_home_port", .int 51826),
  ("mqtt_enabled", .bool false),
  ("mqtt_host", .text ""),
  ("mqtt_port", .int 0),
  ("mqtt_username", .text ""),
  ("mqtt_password", .text ""),
  ("mqtt_tls", .bool false),
  ("mqtt_discovery_prefix", .text "homeassistant"),
  ("rules", .seq [])]

def settingsDefaults : Dict String Yaml := ⟨settingsDefaultEntries, by decide +kernel⟩

def settingsFields : List String := settingsDefaults.keys

end Wqm1.Config
