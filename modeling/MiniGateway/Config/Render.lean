/-
  The documents of a configuration.

  `ApplicationConfig.WellFormed` lists what the parser demands of the values it returns, without
  saying how it reads them.  `ApplicationConfig.toJson` writes a configuration as a document in the
  format of `config.cpp`; the settings of a plugin are kept as text in the configuration, so the
  writer is given the members behind each text.
-/
import MiniGateway.Config.Runnable

namespace MiniGateway

open Binary64 (Double)

/-! ### What the parser demands -/

/-- The text of a JSON object. -/
def JsonLibrary.IsSettings (json : JsonLibrary) (text : ByteString) : Prop :=
  ∃ members, text = json.dump (.object members)

/-- A duration of a positive number of milliseconds that fits its type. -/
def IsDuration (milliseconds : ℤ) : Prop := 0 < milliseconds ∧ milliseconds ≤ millisecondsMax

/-- A positive `std::size_t`. -/
def IsCapacity (n : ℕ) : Prop := 0 < n ∧ n ≤ 2 ^ 64 - 1

structure PointConfig.WellFormed (point : PointConfig) : Prop where
  finite : point.Finite
  range : invertedRange point.minimum point.maximum = false

structure DeviceConfig.WellFormed (json : JsonLibrary) (device : DeviceConfig) : Prop where
  type : device.driver.type ≠ []
  settings : json.IsSettings device.driver.settingsJson
  points_ne : device.points ≠ []
  points : ∀ point ∈ device.points, point.WellFormed
  names : Fresh PointConfig.name [] device.points

structure CollectionGroup.WellFormed (devices : List DeviceConfig) (group : CollectionGroup) :
    Prop where
  interval : IsDuration group.interval
  timeout : IsDuration group.timeout
  points_ne : group.points ≠ []
  refers : group.Refers devices

structure PluginConfig.WellFormed (json : JsonLibrary) (plugin : PluginConfig) : Prop where
  type : plugin.type ≠ []
  settings : json.IsSettings plugin.settingsJson

/-- The entries of one plugin list. -/
structure PluginsWellFormed (json : JsonLibrary) (plugins : List PluginConfig) : Prop where
  ids : Fresh PluginConfig.id [] plugins
  plugins : ∀ plugin ∈ plugins, plugin.WellFormed json

structure ApplicationConfig.WellFormed (json : JsonLibrary) (config : ApplicationConfig) :
    Prop where
  runDuration : ∀ d, config.runDuration = some d → IsDuration d
  rawQueueCapacity : IsCapacity config.gateway.rawQueueCapacity
  controlQueueCapacity : IsCapacity config.gateway.controlQueueCapacity
  devices_ne : config.gateway.devices ≠ []
  deviceIds : Fresh DeviceConfig.id [] config.gateway.devices
  devices : ∀ device ∈ config.gateway.devices, device.WellFormed json
  groupIds : Fresh CollectionGroup.id [] config.gateway.groups
  groups : ∀ group ∈ config.gateway.groups, group.WellFormed config.gateway.devices
  processors : PluginsWellFormed json config.processors
  eventPublishers : PluginsWellFormed json config.eventPublishers
  deviceControlSources : PluginsWellFormed json config.deviceControlSources

/-! ### The writer -/

/-- The name of a value type in a document. -/
def ValueType.configName : ValueType → ByteString
  | integer => lit "integer"
  | double => lit "double"
  | boolean => lit "boolean"
  | string => lit "string"
  | byteArray => lit "bytes"

namespace Json

/-- An object of strings. -/
def ofStrings (map : List (ByteString × ByteString)) : Json :=
  .object (map.map fun item => (item.1, .string item.2))

/-- A number, or `null`. -/
def ofNumber? (number : Option Double) : Json := number.elim .null .number

/-- A number of milliseconds that is not negative. -/
def ofMilliseconds (milliseconds : ℤ) : Json := .unsigned (UInt64.ofNat milliseconds.toNat)

/-- A path, `null` for the empty one. -/
def ofLibrary (library : ByteString) : Json := if library = [] then .null else .string library

end Json

def PointConfig.toJson (point : PointConfig) : Json :=
  .object
    [(lit "name", .string point.name), (lit "type", .string point.type.configName),
      (lit "unit", .string point.unit), (lit "address", Json.ofStrings point.address),
      (lit "scale", .number point.scale), (lit "offset", .number point.offset),
      (lit "minimum", Json.ofNumber? point.minimum), (lit "maximum", Json.ofNumber? point.maximum)]

def CollectionGroup.toJson (group : CollectionGroup) : Json :=
  .object
    [(lit "id", .string group.id), (lit "device_id", .string group.deviceId),
      (lit "interval_ms", Json.ofMilliseconds group.interval),
      (lit "timeout_ms", Json.ofMilliseconds group.timeout),
      (lit "points", .array (group.points.map .string))]

section Settings

variable (settings : ByteString → List (ByteString × Json))

def DeviceConfig.toJson (device : DeviceConfig) : Json :=
  .object
    [(lit "id", .string device.id), (lit "driver", .string device.driver.type),
      (lit "driver_config", .object (settings device.driver.settingsJson)),
      (lit "library", Json.ofLibrary device.driver.library),
      (lit "connection", Json.ofStrings device.connection),
      (lit "points", .array (device.points.map PointConfig.toJson))]

def PluginConfig.toJson (plugin : PluginConfig) : Json :=
  .object
    [(lit "id", .string plugin.id), (lit "type", .string plugin.type),
      (lit "enabled", .boolean plugin.enabled),
      (lit "config", .object (settings plugin.settingsJson)),
      (lit "library", Json.ofLibrary plugin.library)]

/-- The configuration as a document; `settings` gives the members behind a settings text. -/
def ApplicationConfig.toJson (config : ApplicationConfig) : Json :=
  .object
    [(lit "runtime", .object
        [(lit "run_duration_ms", config.runDuration.elim .null Json.ofMilliseconds),
          (lit "raw_queue_capacity", .unsigned (UInt64.ofNat config.gateway.rawQueueCapacity)),
          (lit "control_queue_capacity",
            .unsigned (UInt64.ofNat config.gateway.controlQueueCapacity))]),
      (lit "devices", .array (config.gateway.devices.map (DeviceConfig.toJson settings))),
      (lit "groups", .array (config.gateway.groups.map CollectionGroup.toJson)),
      (lit "processors", .array (config.processors.map (PluginConfig.toJson settings))),
      (lit "event_publishers", .array (config.eventPublishers.map (PluginConfig.toJson settings))),
      (lit "device_control_sources",
        .array (config.deviceControlSources.map (PluginConfig.toJson settings)))]

end Settings

end MiniGateway
