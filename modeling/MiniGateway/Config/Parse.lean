/-
  `parse_config` (`config.cpp`): from a JSON value to an `ApplicationConfig`, or to the text of the
  first error in the order of the source.

  Each `*_member` function is here under its own name.  A `ConfigError` is the text
  `path + ": " + message`; the `Except` monad stops at the first one, as the exception does.
-/
import MiniGateway.Config.Types

namespace MiniGateway

open Binary64 (Double)

/-! ### Members -/

/-- `fail`. -/
def fail {α : Type} (path message : ByteString) : Except ByteString α :=
  .error (path ++ lit ": " ++ message)

/-- `path + "." + key`. -/
def fieldPath (path key : ByteString) : ByteString := path ++ lit "." ++ key

/-- `path + "[" + std::to_string(index) + "]"`. -/
def itemPath (path : ByteString) (index : ℕ) : ByteString :=
  path ++ lit "[" ++ decimal index ++ lit "]"

/-- The members of an object, or the error of the code that needs one at `path`. -/
def asObject (value : Json) (path : ByteString) :
    Except ByteString (List (ByteString × Json)) :=
  match value with
  | .object members => .ok members
  | _ => fail path (lit "must be an object")

/-- `member`. -/
def member (object : List (ByteString × Json)) (key path : ByteString) : Except ByteString Json :=
  match Json.find object key with
  | some item => .ok item
  | none => fail (fieldPath path key) (lit "is a required field")

/-- `object_member`. -/
def objectMember (object : List (ByteString × Json)) (key path : ByteString) :
    Except ByteString (List (ByteString × Json)) := do
  let value ← member object key path
  asObject value (fieldPath path key)

/-- `array_member`. -/
def arrayMember (object : List (ByteString × Json)) (key path : ByteString) :
    Except ByteString (List Json) := do
  match ← member object key path with
  | .array items => .ok items
  | _ => fail (fieldPath path key) (lit "must be an array")

/-- `string_value`. -/
def stringValue (value : Json) (path : ByteString) (allowEmpty : Bool) :
    Except ByteString ByteString :=
  match value with
  | .string result =>
    if !allowEmpty && result.isEmpty then fail path (lit "must not be empty") else .ok result
  | _ => fail path (lit "must be a string")

/-- `string_member`. -/
def stringMember (object : List (ByteString × Json)) (key path : ByteString) (allowEmpty : Bool) :
    Except ByteString ByteString := do
  let value ← member object key path
  stringValue value (fieldPath path key) allowEmpty

/-- `optional_path_member`: the path is kept verbatim. -/
def optionalPathMember (object : List (ByteString × Json)) (key path : ByteString) :
    Except ByteString ByteString :=
  match Json.find object key with
  | none => .ok []
  | some .null => .ok []
  | some item => stringValue item (fieldPath path key) false

/-- `optional_enabled`. -/
def optionalEnabled (object : List (ByteString × Json)) (path : ByteString) :
    Except ByteString Bool :=
  match Json.find object (lit "enabled") with
  | none => .ok true
  | some (.boolean enabled) => .ok enabled
  | some _ => fail (fieldPath path (lit "enabled")) (lit "must be a boolean")

/-- `unsigned_integer_value`. -/
def unsignedIntegerValue (value : Json) (path : ByteString) : Except ByteString ℕ :=
  match value with
  | .unsigned n => .ok n.toNat
  | .integer n =>
    if n.toInt < 0 then fail path (lit "must be a non-negative integer") else .ok n.toInt.toNat
  | _ => fail path (lit "must be a non-negative integer")

/-- `unsigned_integer_member`. -/
def unsignedIntegerMember (object : List (ByteString × Json)) (key path : ByteString) :
    Except ByteString ℕ := do
  let value ← member object key path
  unsignedIntegerValue value (fieldPath path key)

/-- What `size_member` and `milliseconds_member` share: the member must be at most `limit`, and not
zero if `positive`. -/
def boundedMember (limit : ℕ) (message : ByteString) (object : List (ByteString × Json))
    (key path : ByteString) (positive : Bool) : Except ByteString ℕ := do
  let value ← unsignedIntegerMember object key path
  if (positive && value == 0) || limit < value then
    fail (fieldPath path key) (if positive then message else lit "is too large")
  else .ok value

/-- `size_member`, for a 64-bit `std::size_t`. -/
def sizeMember (object : List (ByteString × Json)) (key path : ByteString) (positive : Bool) :
    Except ByteString ℕ :=
  boundedMember (2 ^ 64 - 1) (lit "must be a positive size") object key path positive

/-- `std::numeric_limits<std::chrono::milliseconds::rep>::max()`. -/
def millisecondsMax : ℕ := 2 ^ 63 - 1

/-- `milliseconds_member`. -/
def millisecondsMember (object : List (ByteString × Json)) (key path : ByteString)
    (positive : Bool) : Except ByteString ℤ := do
  let value ← boundedMember millisecondsMax (lit "must be a positive duration") object key path
    positive
  .ok value

/-- `value.get<double>()` of a number. -/
def asNumber : Json → Option Double
  | .integer n => some (Double.ofInt n.toInt)
  | .unsigned n => some (Double.ofInt n.toNat)
  | .number d => some d
  | _ => none

/-- The conversion that both number members make. -/
def finiteNumber (value : Json) (path message : ByteString) : Except ByteString Double :=
  match asNumber value with
  | none => fail path message
  | some result => if result.isFinite then .ok result else fail path (lit "must be finite")

/-- `finite_number_member`. -/
def finiteNumberMember (object : List (ByteString × Json)) (key path : ByteString) :
    Except ByteString Double := do
  let value ← member object key path
  finiteNumber value (fieldPath path key) (lit "must be a number")

/-- `optional_number_member`. -/
def optionalNumberMember (object : List (ByteString × Json)) (key path : ByteString) :
    Except ByteString (Option Double) :=
  match Json.find object key with
  | none => .ok none
  | some .null => .ok none
  | some item => do
    let result ← finiteNumber item (fieldPath path key) (lit "must be a number or null")
    .ok (some result)

/-- The loop of `string_map`. -/
def stringMapItems (path : ByteString) :
    List (ByteString × Json) → Except ByteString (List (ByteString × ByteString))
  | [] => .ok []
  | (key, .string item) :: rest => do
    let items ← stringMapItems path rest
    .ok ((key, item) :: items)
  | (key, _) :: _ => fail (fieldPath path key) (lit "must be a string")

/-- `string_map`. -/
def stringMap (value : Json) (path : ByteString) :
    Except ByteString (List (ByteString × ByteString)) :=
  match value with
  | .object members => stringMapItems path members
  | _ => fail path (lit "must be an object containing string values")

/-- The loop of `string_array` from `index` on; `unique` are the items seen so far. -/
def stringArrayItems (path : ByteString) (index : ℕ) (unique : List ByteString) :
    List Json → Except ByteString (List ByteString)
  | [] => .ok []
  | value :: rest => do
    let item ← stringValue value (itemPath path index) false
    if item ∈ unique then fail (itemPath path index) (lit "must be unique within the array")
    else
      let items ← stringArrayItems path (index + 1) (item :: unique) rest
      .ok (item :: items)

/-- `string_array`. -/
def stringArray (value : Json) (path : ByteString) (requireNonEmpty : Bool) :
    Except ByteString (List ByteString) :=
  let message :=
    if requireNonEmpty then lit "must be a non-empty array" else lit "must be an array"
  match value with
  | .array items =>
    if requireNonEmpty && items.isEmpty then fail path message
    else stringArrayItems path 0 [] items
  | _ => fail path message

/-- `value_type`. -/
def valueType (value : Json) (path : ByteString) : Except ByteString ValueType := do
  let name ← stringValue value path false
  if name = lit "integer" then .ok .integer
  else if name = lit "double" then .ok .double
  else if name = lit "boolean" then .ok .boolean
  else if name = lit "string" then .ok .string
  else if name = lit "bytes" ∨ name = lit "byte_array" then .ok .byteArray
  else fail path (lit "unsupported value type '" ++ name ++ lit "'")

/-! ### Sections of the document -/

/-- `parse_point`. -/
def parsePoint (value : Json) (path : ByteString) : Except ByteString PointConfig := do
  let object ← asObject value path
  let name ← stringMember object (lit "name") path false
  let type ← valueType (← member object (lit "type") path) (fieldPath path (lit "type"))
  let unit ← stringMember object (lit "unit") path true
  let address ←
    stringMap (← member object (lit "address") path) (fieldPath path (lit "address"))
  let scale ← finiteNumberMember object (lit "scale") path
  let offset ← finiteNumberMember object (lit "offset") path
  let minimum ← optionalNumberMember object (lit "minimum") path
  let maximum ← optionalNumberMember object (lit "maximum") path
  if invertedRange minimum maximum then fail path (lit "minimum must not exceed maximum")
  else .ok { name, type, unit, address, scale, offset, minimum, maximum }

/-- The loop over the points of one device. -/
def parsePoints (path : ByteString) (index : ℕ) (names : List ByteString) :
    List Json → Except ByteString (List PointConfig)
  | [] => .ok []
  | value :: rest => do
    let pointPath := itemPath (fieldPath path (lit "points")) index
    let point ← parsePoint value pointPath
    if point.name ∈ names then
      fail (fieldPath pointPath (lit "name")) (lit "duplicate point '" ++ point.name ++ lit "'")
    else
      let points ← parsePoints path (index + 1) (point.name :: names) rest
      .ok (point :: points)

/-- The body of the loop of `parse_devices`. -/
def parseDevice (json : JsonLibrary) (path : ByteString) (deviceIds : List ByteString)
    (value : Json) : Except ByteString DeviceConfig := do
  let object ← asObject value path
  let id ← stringMember object (lit "id") path false
  if id ∈ deviceIds then
    fail (fieldPath path (lit "id")) (lit "duplicate device id '" ++ id ++ lit "'")
  else
    let type ← stringMember object (lit "driver") path false
    let settings ← objectMember object (lit "driver_config") path
    let library ← optionalPathMember object (lit "library") path
    let connection ←
      stringMap (← member object (lit "connection") path) (fieldPath path (lit "connection"))
    let pointValues ← arrayMember object (lit "points") path
    if pointValues.isEmpty then fail (fieldPath path (lit "points")) (lit "must not be empty")
    else
      let points ← parsePoints path 0 [] pointValues
      .ok { id, driver := { type, settingsJson := json.dump (.object settings), library },
            connection, points }

/-- The loop of `parse_devices`. -/
def parseDeviceItems (json : JsonLibrary) (index : ℕ) (deviceIds : List ByteString) :
    List Json → Except ByteString (List DeviceConfig)
  | [] => .ok []
  | value :: rest => do
    let device ← parseDevice json (itemPath (lit "root.devices") index) deviceIds value
    let devices ← parseDeviceItems json (index + 1) (device.id :: deviceIds) rest
    .ok (device :: devices)

/-- `parse_devices`.  The map from devices to their point names that it fills for `parse_groups`
is read off the devices there. -/
def parseDevices (json : JsonLibrary) (root : List (ByteString × Json)) :
    Except ByteString (List DeviceConfig) := do
  let devices ← arrayMember root (lit "devices") (lit "root")
  if devices.isEmpty then fail (lit "root.devices") (lit "must not be empty")
  else parseDeviceItems json 0 [] devices

/-- The loop of `parse_groups` over the points of one group. -/
def checkGroupPoints (path : ByteString) (device : DeviceConfig) :
    List ByteString → Except ByteString Unit
  | [] => .ok ()
  | point :: rest =>
    if point ∈ device.points.map PointConfig.name then checkGroupPoints path device rest
    else fail (fieldPath path (lit "points")) (lit "references unknown point '" ++ point ++ lit "'")

/-- The body of the loop of `parse_groups`. -/
def parseGroup (devices : List DeviceConfig) (path : ByteString) (groupIds : List ByteString)
    (value : Json) : Except ByteString CollectionGroup := do
  let object ← asObject value path
  let id ← stringMember object (lit "id") path false
  if id ∈ groupIds then
    fail (fieldPath path (lit "id")) (lit "duplicate group id '" ++ id ++ lit "'")
  else
    let deviceId ← stringMember object (lit "device_id") path false
    let interval ← millisecondsMember object (lit "interval_ms") path true
    let timeout ← millisecondsMember object (lit "timeout_ms") path true
    let points ←
      stringArray (← member object (lit "points") path) (fieldPath path (lit "points")) true
    match devices.find? fun device => device.id == deviceId with
    | none => fail (fieldPath path (lit "device_id")) (lit "references an unknown device")
    | some device =>
      checkGroupPoints path device points
      .ok { id, deviceId, interval, timeout, points }

/-- The loop of `parse_groups`. -/
def parseGroupItems (devices : List DeviceConfig) (index : ℕ) (groupIds : List ByteString) :
    List Json → Except ByteString (List CollectionGroup)
  | [] => .ok []
  | value :: rest => do
    let group ← parseGroup devices (itemPath (lit "root.groups") index) groupIds value
    let groups ← parseGroupItems devices (index + 1) (group.id :: groupIds) rest
    .ok (group :: groups)

/-- `parse_groups`. -/
def parseGroups (root : List (ByteString × Json)) (devices : List DeviceConfig) :
    Except ByteString (List CollectionGroup) := do
  let groups ← arrayMember root (lit "groups") (lit "root")
  parseGroupItems devices 0 [] groups

/-- The body of the loop of `parse_plugins`. -/
def parsePlugin (json : JsonLibrary) (path : ByteString) (ids : List ByteString) (value : Json) :
    Except ByteString PluginConfig := do
  let object ← asObject value path
  let id ← stringMember object (lit "id") path false
  let type ← stringMember object (lit "type") path false
  let enabled ← optionalEnabled object path
  let settings ← objectMember object (lit "config") path
  let library ← optionalPathMember object (lit "library") path
  if id ∈ ids then
    fail (fieldPath path (lit "id")) (lit "duplicate plugin id '" ++ id ++ lit "'")
  else .ok { id, type, enabled, settingsJson := json.dump (.object settings), library }

/-- The loop of `parse_plugins`. -/
def parsePluginItems (json : JsonLibrary) (basePath : ByteString) (index : ℕ)
    (ids : List ByteString) : List Json → Except ByteString (List PluginConfig)
  | [] => .ok []
  | value :: rest => do
    let plugin ← parsePlugin json (itemPath basePath index) ids value
    let plugins ← parsePluginItems json basePath (index + 1) (plugin.id :: ids) rest
    .ok (plugin :: plugins)

/-- `parse_plugins`. -/
def parsePlugins (json : JsonLibrary) (root : List (ByteString × Json)) (key : ByteString)
    (optional : Bool) : Except ByteString (List PluginConfig) :=
  if optional && (Json.find root key).isNone then .ok []
  else do
    let values ← arrayMember root key (lit "root")
    parsePluginItems json (fieldPath (lit "root") key) 0 [] values

/-- The member `run_duration_ms`, which may be absent or null. -/
def parseRunDuration (runtime : List (ByteString × Json)) : Except ByteString (Option ℤ) :=
  match Json.find runtime (lit "run_duration_ms") with
  | none => .ok none
  | some .null => .ok none
  | some _ => do
    let duration ← millisecondsMember runtime (lit "run_duration_ms") (lit "root.runtime") true
    .ok (some duration)

/-- The member `control_queue_capacity`, which defaults to 64. -/
def parseControlCapacity (runtime : List (ByteString × Json)) : Except ByteString ℕ :=
  match Json.find runtime (lit "control_queue_capacity") with
  | none => .ok 64
  | some _ => sizeMember runtime (lit "control_queue_capacity") (lit "root.runtime") true

/-- `parse_application_config`. -/
def parseApplicationConfig (json : JsonLibrary) (root : Json) :
    Except ByteString ApplicationConfig := do
  let root ← asObject root (lit "root")
  let runtime ← objectMember root (lit "runtime") (lit "root")
  let runDuration ← parseRunDuration runtime
  let rawQueueCapacity ← sizeMember runtime (lit "raw_queue_capacity") (lit "root.runtime") true
  let controlQueueCapacity ← parseControlCapacity runtime
  let devices ← parseDevices json root
  let groups ← parseGroups root devices
  let processors ← parsePlugins json root (lit "processors") false
  let eventPublishers ← parsePlugins json root (lit "event_publishers") false
  let deviceControlSources ← parsePlugins json root (lit "device_control_sources") true
  .ok { runDuration, gateway := { rawQueueCapacity, controlQueueCapacity, devices, groups },
        processors, eventPublishers, deviceControlSources }

/-- `parse_config`. -/
def parseConfig (json : JsonLibrary) (jsonText sourceName : ByteString) :
    Except ByteString ApplicationConfig :=
  let source := if sourceName.isEmpty then lit "<memory>" else sourceName
  match json.parse jsonText with
  | .error what => .error (lit "invalid JSON in " ++ source ++ lit ": " ++ what)
  | .ok root =>
    match parseApplicationConfig json root with
    | .error what => .error (lit "invalid configuration in " ++ source ++ lit ": " ++ what)
    | .ok config => .ok config

end MiniGateway
