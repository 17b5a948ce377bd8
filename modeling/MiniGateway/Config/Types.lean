/-
  The configuration of a gateway (`gateway/model.hpp`, `gateway/config.hpp`) and the JSON values
  it is read from.

  A `Json` is a value of the JSON library: integers that fit are kept apart from floating-point
  numbers, and an object lists its members by key.  The library itself, its text parser and its
  serialiser, is a parameter (`JsonLibrary`).
-/
import MiniGateway.Model
import MiniGateway.Binary64.Arithmetic

namespace MiniGateway

open Binary64 (Double)

/-! ### JSON values -/

/-- `nlohmann::json`. -/
inductive Json
  | null
  | boolean (value : Bool)
  /-- `number_integer`: a negative integer. -/
  | integer (value : Int64)
  /-- `number_unsigned`. -/
  | unsigned (value : UInt64)
  /-- `number_float`. -/
  | number (value : Double)
  | string (value : ByteString)
  | array (items : List Json)
  | object (members : List (ByteString × Json))

namespace Json

/-- `find` on an object. -/
def find (members : List (ByteString × Json)) (key : ByteString) : Option Json :=
  (members.find? fun member => member.1 == key).map Prod.snd

end Json

/-- The functions of the JSON library that the gateway calls: `Json::parse`, which throws with a
text, and `dump`. -/
structure JsonLibrary where
  parse : ByteString → Except ByteString Json
  dump : Json → ByteString

/-! ### Configuration records -/

/-- `PointConfig`. -/
structure PointConfig where
  name : ByteString
  type : ValueType
  unit : ByteString
  address : List (ByteString × ByteString)
  scale : Double
  offset : Double
  minimum : Option Double
  maximum : Option Double

/-- `*minimum > *maximum`, when both are given. -/
def invertedRange (minimum maximum : Option Double) : Bool :=
  match minimum, maximum with
  | some low, some high => high.lt low
  | _, _ => false

/-- `PluginSpec`: the driver of a device. -/
structure PluginSpec where
  type : ByteString
  settingsJson : ByteString
  library : ByteString

/-- `DeviceConfig`. -/
structure DeviceConfig where
  id : ByteString
  driver : PluginSpec
  connection : List (ByteString × ByteString)
  points : List PointConfig

/-- `CollectionGroup`; both durations are in milliseconds. -/
structure CollectionGroup where
  id : ByteString
  deviceId : ByteString
  interval : ℤ
  timeout : ℤ
  points : List ByteString

/-- `GatewayConfig`. -/
structure GatewayConfig where
  rawQueueCapacity : ℕ
  controlQueueCapacity : ℕ
  devices : List DeviceConfig
  groups : List CollectionGroup

/-- `PluginConfig`. -/
structure PluginConfig where
  id : ByteString
  type : ByteString
  enabled : Bool
  settingsJson : ByteString
  library : ByteString

/-- `ApplicationConfig`; the run duration is in milliseconds. -/
structure ApplicationConfig where
  runDuration : Option ℤ
  gateway : GatewayConfig
  processors : List PluginConfig
  eventPublishers : List PluginConfig
  deviceControlSources : List PluginConfig

end MiniGateway
