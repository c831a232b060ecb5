import ServiceTopology.Schema.Decode

/-!
# Settings

Labels, reserved ids, page sizes and the other settings of a deployment, with their defaults. Settings
are validated from named values; names that are not settings are ignored, and a setting without a value
keeps its default.

Where the named values come from is treated elsewhere.
-/

namespace ServiceTopology

open Schema

/-- Settings of a deployment. -/
structure Settings where
  appName : WideText := "svcmap"
  appVersion : WideText := "0.1.0"
  environment : WideText := "development"
  logLevel : WideText := "INFO"
  logJson : Bool := false
  unknownLabel : WideText := "UNKNOWN"
  userCode : WideText := "User"
  noneApplicationId : Int := 1
  invalidApplicationId : Int := 0
  alarmProbePageSize : Int := 1
  alarmCountPageSize : Int := 1000
  syntheticNodeSla : Int := 100
  syntheticNodeApdex : Int := 100
  deriving DecidableEq

namespace Settings

/-- The settings without any value given. -/
def standard : Settings := {}

/-- Validate settings from named values. -/
def ofMembers (members : Json.Members) : Checked Settings :=
  Settings.mk <$> optional members "app_name" standard.appName string
    <*> optional members "app_version" standard.appVersion string
    <*> optional members "environment" standard.environment string
    <*> optional members "log_level" standard.logLevel string
    <*> optional members "log_json" standard.logJson boolean
    <*> optional members "unknown_label" standard.unknownLabel string
    <*> optional members "user_code" standard.userCode string
    <*> optional members "none_application_id" standard.noneApplicationId integer
    <*> optional members "invalid_application_id" standard.invalidApplicationId integer
    <*> optional members "alarm_probe_page_size" standard.alarmProbePageSize integer
    <*> optional members "alarm_count_page_size" standard.alarmCountPageSize integer
    <*> optional members "synthetic_node_sla" standard.syntheticNodeSla integer
    <*> optional members "synthetic_node_apdex" standard.syntheticNodeApdex integer

/-- Write settings. -/
def toJson (settings : Settings) : Json :=
  .obj [("app_name", .str settings.appName), ("app_version", .str settings.appVersion),
    ("environment", .str settings.environment), ("log_level", .str settings.logLevel),
    ("log_json", .bool settings.logJson), ("unknown_label", .str settings.unknownLabel),
    ("user_code", .str settings.userCode),
    ("none_application_id", .int settings.noneApplicationId),
    ("invalid_application_id", .int settings.invalidApplicationId),
    ("alarm_probe_page_size", .int settings.alarmProbePageSize),
    ("alarm_count_page_size", .int settings.alarmCountPageSize),
    ("synthetic_node_sla", .int settings.syntheticNodeSla),
    ("synthetic_node_apdex", .int settings.syntheticNodeApdex)]

end Settings

end ServiceTopology
