/-
  `Normalizer` (`normalizer.cpp`): from a raw batch to an event.

  The two maps of `points_` are the configured devices themselves, looked up by id and by point
  name; the constructor's check that both are unique is the field `accepted`.
-/
import MiniGateway.Config.Types
import MiniGateway.Conversion

namespace MiniGateway

open Binary64 (Double)

/-! ### Conversion of one value -/

/-- The range check at the end of `convert_value`. -/
def checkRange (config : PointConfig) (value : Scalar) : Scalar × Quality :=
  match numericValue value with
  | none => (value, .good)
  | some numeric =>
    if config.minimum.any (fun minimum => numeric.lt minimum) ||
        config.maximum.any (fun maximum => maximum.lt numeric) then
      (value, .outOfRange)
    else (value, .good)

/-- `*numeric * config.scale + config.offset`. -/
def scaled (config : PointConfig) (numeric : Double) : Double :=
  (numeric.mul config.scale).add config.offset

/-- The finite number a value stands for. -/
def finiteValue (value : Scalar) : Option Double := (numericValue value).filter Double.isFinite

/-- `convert_value`. -/
def convertValue (value : Scalar) (config : PointConfig) (quality : Quality) : Scalar × Quality :=
  if quality ≠ .good then (value, quality)
  else
    match config.type with
    | .string => checkRange config (.string (scalarToString value))
    | .byteArray =>
      match value with
      | .byteArray _ => checkRange config value
      | _ => (value, .decodeError)
    | .boolean =>
      match booleanValue value with
      | none => (value, .decodeError)
      | some boolean => checkRange config (.boolean boolean)
    | .double =>
      match finiteValue value with
      | none => (value, .decodeError)
      | some numeric => checkRange config (.double (scaled config numeric))
    | .integer =>
      match finiteValue value with
      | none => (value, .decodeError)
      | some numeric =>
        let result := scaled config numeric
        if result.lt (Double.ofInt (-2 ^ 63)) || (Double.ofInt (2 ^ 63 - 1)).lt result then
          (value, .outOfRange)
        else checkRange config (.integer result.llround)

/-! ### The constructor -/

/-- The inner loop of the constructor; `names` are the points seen so far. -/
def checkPoints (deviceId : ByteString) (names : List ByteString) :
    List PointConfig → Except ByteString Unit
  | [] => .ok ()
  | point :: rest =>
    if point.name = [] then .error (lit "point name cannot be empty")
    else if invertedRange point.minimum point.maximum then
      .error (lit "invalid range for point: " ++ point.name)
    else if point.name ∈ names then
      .error (lit "duplicate point " ++ point.name ++ lit " in device " ++ deviceId)
    else checkPoints deviceId (point.name :: names) rest

/-- The outer loop of the constructor; `ids` are the devices seen so far. -/
def checkDevices (ids : List ByteString) : List DeviceConfig → Except ByteString Unit
  | [] => .ok ()
  | device :: rest =>
    if device.id = [] then .error (lit "device id cannot be empty")
    else if device.id ∈ ids then .error (lit "duplicate device id: " ++ device.id)
    else
      match checkPoints device.id [] device.points with
      | .error what => .error what
      | .ok () => checkDevices (device.id :: ids) rest

/-- Ids that are not empty, not among `ids`, and distinct. -/
def Fresh {α : Type} (id : α → ByteString) (ids : List ByteString) (items : List α) : Prop :=
  (∀ item ∈ items, id item ≠ [] ∧ id item ∉ ids) ∧ (items.map id).Nodup

/-- A loop that adds each id it accepts to `ids` accepts fresh ids. -/
theorem Fresh.cons {α : Type} {id : α → ByteString} {ids : List ByteString} {item : α}
    {rest : List α} (hfirst : id item ≠ [] ∧ id item ∉ ids) (h : Fresh id (id item :: ids) rest) :
    Fresh id ids (item :: rest) := by
  obtain ⟨hrest, hnodup⟩ := h
  constructor
  · intro other hmem
    rcases List.mem_cons.mp hmem with rfl | hmem
    · exact hfirst
    · obtain ⟨hid, hnew⟩ := hrest other hmem
      exact ⟨hid, fun hold => hnew (List.mem_cons_of_mem _ hold)⟩
  · rw [List.map_cons, List.nodup_cons]
    refine ⟨fun hmem => ?_, hnodup⟩
    obtain ⟨other, hin, heq⟩ := List.mem_map.mp hmem
    exact (hrest other hin).2 (by simp [heq])

/-- What the constructor of `Normalizer` guarantees of the ids. -/
theorem checkDevices_ok {ids : List ByteString} {devices : List DeviceConfig}
    (h : checkDevices ids devices = .ok ()) :
    (∀ device ∈ devices, device.id ≠ [] ∧ device.id ∉ ids) ∧
      (devices.map DeviceConfig.id).Nodup := by
  induction devices generalizing ids with
  | nil => simp
  | cons device rest ih =>
    simp only [checkDevices] at h
    split_ifs at h with hempty hseen
    split at h
    · cases h
    · exact Fresh.cons ⟨hempty, hseen⟩ (ih h)

/-- `NormalizerStats`. -/
structure NormalizerStats where
  batches : ℕ := 0
  readings : ℕ := 0
  badReadings : ℕ := 0
  deriving DecidableEq

/-- `Normalizer`: the points of devices that passed the constructor, and its counters. -/
structure Normalizer where
  devices : List DeviceConfig
  accepted : checkDevices [] devices = .ok ()
  /-- `event_sequence_`, of 64 bits. -/
  sequence : ℕ := 0
  stats : NormalizerStats := {}

namespace Normalizer

/-- The constructor. -/
def create (config : GatewayConfig) : Except ByteString Normalizer :=
  match h : checkDevices [] config.devices with
  | .error what => .error what
  | .ok () => .ok { devices := config.devices, accepted := h }

theorem create_devices {config : GatewayConfig} {n : Normalizer} (h : create config = .ok n) :
    n.devices = config.devices := by
  unfold create at h
  split at h
  · simp at h
  · obtain rfl := Except.ok.inj h
    rfl

end Normalizer

/-! ### Normalisation -/

/-- The configuration of a point of a device. -/
def findPoint (devices : List DeviceConfig) (deviceId point : ByteString) : Option PointConfig := do
  let device ← devices.find? fun device => device.id == deviceId
  device.points.find? fun config => config.name == point

/-- The body of the loop of `normalize`. -/
def normalizeSample (devices : List DeviceConfig) (deviceId : ByteString) (receivedAt : ℤ)
    (sample : RawSample) : Reading :=
  let (unit, value, quality) :=
    match findPoint devices deviceId sample.point with
    | none => ([], sample.value, .bad)
    | some config => (config.unit, convertValue sample.value config sample.status)
  { point := sample.point
    value := value
    quality := quality
    unit := unit
    sourceTimeNs := if sample.sourceTimeNs = 0 then receivedAt else sample.sourceTimeNs
    receivedTimeNs := receivedAt
    derived := false }

/-- The event of `normalize`; `receivedAt` is the wall clock and `sequence` the number of the
batch. -/
def normalizedEvent (devices : List DeviceConfig) (receivedAt : ℤ) (sequence : ℕ)
    (batch : RawBatch) : Event where
  eventId := lit "event-" ++ decimalInt receivedAt ++ lit "-" ++ decimal sequence
  deviceId := batch.deviceId
  source := batch.source
  readings := batch.samples.map (normalizeSample devices batch.deviceId receivedAt)
  modelVersion := []

/-- `normalize`. -/
def Normalizer.normalize (n : Normalizer) (receivedAt : ℤ) (batch : RawBatch) :
    Event × Normalizer :=
  let sequence := (n.sequence + 1) % 2 ^ 64
  let event := normalizedEvent n.devices receivedAt sequence batch
  (event, { n with
    sequence := sequence
    stats := {
      batches := n.stats.batches + 1
      readings := n.stats.readings + event.readings.length
      badReadings := n.stats.badReadings +
        event.readings.countP fun reading => reading.quality != .good } })

end MiniGateway
