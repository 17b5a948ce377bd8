/-
  What an accepted configuration satisfies.

  One lemma for each function of the parser says what its success means, for the properties that
  the rest of the gateway relies on: durations are positive, and the numbers of a point are finite.
  The functions are monadic, so each proof takes the steps apart with `bind_eq_ok`.
-/
import MiniGateway.Config.Parse
import MiniGateway.Throwing

namespace MiniGateway

open Binary64 (Double)
open Throwing (bind_eq_ok)

/-! ### Steps that succeed -/

@[simp] theorem fail_ne_ok {α : Type} (path message : ByteString) (a : α) :
    fail path message ≠ .ok a := by
  simp [fail]

theorem toOption_eq_some {ε α : Type} {x : Except ε α} {a : α} :
    x.toOption = some a ↔ x = .ok a := by
  cases x <;> simp [Except.toOption]

/-! ### Durations -/

/-- A duration that must be positive is accepted as a positive number of milliseconds that fits
64 bits. -/
theorem millisecondsMember_ok {object : List (ByteString × Json)} {key path : ByteString} {d : ℤ}
    (h : millisecondsMember object key path true = .ok d) : 0 < d ∧ d ≤ millisecondsMax := by
  simp only [millisecondsMember, boundedMember, bind_eq_ok] at h
  obtain ⟨value, ⟨n, -, hn⟩, hd⟩ := h
  split_ifs at hn with hbounds
  · simp at hn
  · obtain rfl := Except.ok.inj hn
    obtain rfl := Except.ok.inj hd
    simp only [Bool.true_and, beq_iff_eq, Bool.or_eq_true, decide_eq_true_eq, not_or] at hbounds
    omega

theorem parseGroup_ok {devices : List DeviceConfig} {path : ByteString}
    {groupIds : List ByteString} {value : Json} {group : CollectionGroup}
    (h : parseGroup devices path groupIds value = .ok group) :
    0 < group.interval ∧ 0 < group.timeout := by
  simp only [parseGroup, bind_eq_ok] at h
  obtain ⟨object, -, id, -, h⟩ := h
  split_ifs at h
  · simp at h
  · simp only [bind_eq_ok] at h
    obtain ⟨deviceId, -, interval, hinterval, timeout, htimeout, -, -, points, -, h⟩ := h
    split at h
    · simp at h
    · obtain ⟨-, -, h⟩ := bind_eq_ok.mp h
      obtain rfl := Except.ok.inj h
      exact ⟨(millisecondsMember_ok hinterval).1, (millisecondsMember_ok htimeout).1⟩

/-- Every group of the loop has passed `parse_group`. -/
theorem parseGroupItems_forall {devices : List DeviceConfig} {p : CollectionGroup → Prop}
    (hp : ∀ {path : ByteString} {groupIds : List ByteString} {value : Json}
      {group : CollectionGroup}, parseGroup devices path groupIds value = .ok group → p group)
    {index : ℕ} {groupIds : List ByteString} {values : List Json} {groups : List CollectionGroup}
    (h : parseGroupItems devices index groupIds values = .ok groups) :
    ∀ group ∈ groups, p group := by
  induction values generalizing index groupIds groups with
  | nil =>
    obtain rfl := Except.ok.inj h
    simp
  | cons value rest ih =>
    simp only [parseGroupItems, bind_eq_ok] at h
    obtain ⟨group, hgroup, more, hmore, h⟩ := h
    obtain rfl := Except.ok.inj h
    intro other hmem
    rcases List.mem_cons.mp hmem with rfl | hmem
    · exact hp hgroup
    · exact ih hmore other hmem

theorem parseRunDuration_ok {runtime : List (ByteString × Json)} {runDuration : Option ℤ}
    (h : parseRunDuration runtime = .ok runDuration) : ∀ d, runDuration = some d → 0 < d := by
  unfold parseRunDuration at h
  split at h
  · obtain rfl := Except.ok.inj h
    simp
  · obtain rfl := Except.ok.inj h
    simp
  · obtain ⟨d, hd, h⟩ := bind_eq_ok.mp h
    obtain rfl := Except.ok.inj h
    intro d' hd'
    obtain rfl := Option.some.inj hd'
    exact (millisecondsMember_ok hd).1

theorem parseConfig_eq_ok {json : JsonLibrary} {jsonText sourceName : ByteString}
    {config : ApplicationConfig} (h : parseConfig json jsonText sourceName = .ok config) :
    ∃ root, json.parse jsonText = .ok root ∧ parseApplicationConfig json root = .ok config := by
  simp only [parseConfig] at h
  cases hroot : json.parse jsonText with
  | error what => simp [hroot] at h
  | ok root =>
    cases hconfig : parseApplicationConfig json root with
    | error what => simp [hroot, hconfig] at h
    | ok config' =>
      simp only [hroot, hconfig] at h
      exact ⟨root, rfl, hconfig.trans h⟩

/-- Every duration of an accepted configuration is positive. -/
theorem parseConfig_durations_pos {json : JsonLibrary} {jsonText sourceName : ByteString}
    {config : ApplicationConfig} (h : parseConfig json jsonText sourceName = .ok config) :
    (∀ group ∈ config.gateway.groups, 0 < group.interval ∧ 0 < group.timeout) ∧
      ∀ d, config.runDuration = some d → 0 < d := by
  obtain ⟨root, -, hconfig⟩ := parseConfig_eq_ok h
  simp only [parseApplicationConfig, bind_eq_ok] at hconfig
  obtain ⟨_, -, runtime, -, runDuration, hduration, _, -, _, -, devices, -, groups, hgroups, _, -,
    _, -, _, -, hconfig⟩ := hconfig
  obtain rfl := Except.ok.inj hconfig
  obtain ⟨values, -, hgroups⟩ := bind_eq_ok.mp hgroups
  exact ⟨parseGroupItems_forall parseGroup_ok hgroups, parseRunDuration_ok hduration⟩

/-! ### Points -/

/-- The numbers of a point are finite. -/
structure PointConfig.Finite (point : PointConfig) : Prop where
  scale : point.scale.isFinite = true
  offset : point.offset.isFinite = true
  minimum : ∀ d, point.minimum = some d → d.isFinite = true
  maximum : ∀ d, point.maximum = some d → d.isFinite = true

theorem finiteNumber_ok {value : Json} {path message : ByteString} {d : Double}
    (h : finiteNumber value path message = .ok d) : d.isFinite = true := by
  unfold finiteNumber at h
  split at h
  · simp at h
  · split_ifs at h with hfinite
    · obtain rfl := Except.ok.inj h
      exact hfinite
    · simp at h

theorem finiteNumberMember_ok {object : List (ByteString × Json)} {key path : ByteString}
    {d : Double} (h : finiteNumberMember object key path = .ok d) : d.isFinite = true := by
  obtain ⟨value, -, h⟩ := bind_eq_ok.mp h
  exact finiteNumber_ok h

theorem optionalNumberMember_ok {object : List (ByteString × Json)} {key path : ByteString}
    {o : Option Double} (h : optionalNumberMember object key path = .ok o) :
    ∀ d, o = some d → d.isFinite = true := by
  unfold optionalNumberMember at h
  split at h
  · obtain rfl := Except.ok.inj h
    simp
  · obtain rfl := Except.ok.inj h
    simp
  · obtain ⟨d, hd, h⟩ := bind_eq_ok.mp h
    obtain rfl := Except.ok.inj h
    intro d' hd'
    obtain rfl := Option.some.inj hd'
    exact finiteNumber_ok hd

theorem parsePoint_ok {value : Json} {path : ByteString} {point : PointConfig}
    (h : parsePoint value path = .ok point) : point.Finite := by
  simp only [parsePoint, bind_eq_ok] at h
  obtain ⟨_, -, _, -, _, -, _, -, _, -, _, -, _, -, scale, hscale, offset, hoffset, minimum,
    hminimum, maximum, hmaximum, h⟩ := h
  split_ifs at h
  · simp at h
  · obtain rfl := Except.ok.inj h
    exact ⟨finiteNumberMember_ok hscale, finiteNumberMember_ok hoffset,
      optionalNumberMember_ok hminimum, optionalNumberMember_ok hmaximum⟩

theorem parsePoints_ok {path : ByteString} {index : ℕ} {names : List ByteString}
    {values : List Json} {points : List PointConfig}
    (h : parsePoints path index names values = .ok points) : ∀ point ∈ points, point.Finite := by
  induction values generalizing index names points with
  | nil =>
    obtain rfl := Except.ok.inj h
    simp
  | cons value rest ih =>
    simp only [parsePoints, bind_eq_ok] at h
    obtain ⟨point, hpoint, h⟩ := h
    split_ifs at h
    · simp at h
    · obtain ⟨more, hmore, h⟩ := bind_eq_ok.mp h
      obtain rfl := Except.ok.inj h
      rintro p (_ | ⟨_, hp⟩)
      · exact parsePoint_ok hpoint
      · exact ih hmore p hp

/-- Where an accepted device has its id and its points from. -/
theorem parseDevice_eq_ok {json : JsonLibrary} {path : ByteString} {deviceIds : List ByteString}
    {value : Json} {device : DeviceConfig}
    (h : parseDevice json path deviceIds value = .ok device) :
    (∃ object, stringMember object (lit "id") path false = .ok device.id) ∧
      device.id ∉ deviceIds ∧
      ∃ pointValues, parsePoints path 0 [] pointValues = .ok device.points := by
  simp only [parseDevice, bind_eq_ok] at h
  obtain ⟨object, -, id, hid, h⟩ := h
  split_ifs at h with hseen
  · simp at h
  · simp only [bind_eq_ok] at h
    obtain ⟨_, -, _, -, _, -, _, -, _, -, pointValues, -, h⟩ := h
    split_ifs at h
    · simp at h
    · obtain ⟨points, hpoints, h⟩ := bind_eq_ok.mp h
      obtain rfl := Except.ok.inj h
      exact ⟨⟨object, hid⟩, hseen, pointValues, hpoints⟩

theorem parseDevice_ok {json : JsonLibrary} {path : ByteString} {deviceIds : List ByteString}
    {value : Json} {device : DeviceConfig}
    (h : parseDevice json path deviceIds value = .ok device) :
    ∀ point ∈ device.points, point.Finite := by
  obtain ⟨-, -, pointValues, hpoints⟩ := parseDevice_eq_ok h
  exact parsePoints_ok hpoints

theorem parseDeviceItems_ok {json : JsonLibrary} {index : ℕ} {deviceIds : List ByteString}
    {values : List Json} {devices : List DeviceConfig}
    (h : parseDeviceItems json index deviceIds values = .ok devices) :
    ∀ device ∈ devices, ∀ point ∈ device.points, point.Finite := by
  induction values generalizing index deviceIds devices with
  | nil =>
    obtain rfl := Except.ok.inj h
    simp
  | cons value rest ih =>
    simp only [parseDeviceItems, bind_eq_ok] at h
    obtain ⟨device, hdevice, more, hmore, h⟩ := h
    obtain rfl := Except.ok.inj h
    rintro d (_ | ⟨_, hd⟩)
    · exact parseDevice_ok hdevice
    · exact ih hmore d hd

/-- Every number of an accepted configuration is finite. -/
theorem parseConfig_points_finite {json : JsonLibrary} {jsonText sourceName : ByteString}
    {config : ApplicationConfig} (h : parseConfig json jsonText sourceName = .ok config) :
    ∀ device ∈ config.gateway.devices, ∀ point ∈ device.points, point.Finite := by
  obtain ⟨root, -, hconfig⟩ := parseConfig_eq_ok h
  simp only [parseApplicationConfig, bind_eq_ok] at hconfig
  obtain ⟨root, -, _, -, _, -, _, -, _, -, devices, hdevices, _, -, _, -, _, -, _, -, hconfig⟩ :=
    hconfig
  obtain rfl := Except.ok.inj hconfig
  obtain ⟨values, -, hdevices⟩ := bind_eq_ok.mp hdevices
  split_ifs at hdevices
  · simp at hdevices
  · exact parseDeviceItems_ok hdevices

/-! ### A document -/

/-- The number one. -/
def one : Double := .finite 1 ⟨1, 0, by norm_num, by norm_num, by norm_num, by norm_num⟩

/-- A document with one device, whose point has this scale, and one group that is polled every
`intervalMs`. -/
def oneGroupDocument (intervalMs : UInt64) (scale : Double) : Json :=
  let point : Json := .object [(lit "address", .object []), (lit "name", .string (lit "p")),
    (lit "offset", .number Double.zero), (lit "scale", .number scale),
    (lit "type", .string (lit "double")), (lit "unit", .string [])]
  let device : Json := .object [(lit "connection", .object []), (lit "driver", .string (lit "d")),
    (lit "driver_config", .object []), (lit "id", .string (lit "a")), (lit "points", .array [point])]
  let group : Json := .object [(lit "device_id", .string (lit "a")), (lit "id", .string (lit "g")),
    (lit "interval_ms", .unsigned intervalMs), (lit "points", .array [.string (lit "p")]),
    (lit "timeout_ms", .unsigned 500)]
  .object [(lit "devices", .array [device]), (lit "event_publishers", .array []),
    (lit "groups", .array [group]), (lit "processors", .array []),
    (lit "runtime", .object [(lit "raw_queue_capacity", .unsigned 64)])]

/-- The text of `oneGroupDocument`, up to the digits of the interval and of the scale. -/
def oneGroupText (interval scale : ByteString) : ByteString :=
  lit "\x7b\"devices\":[\x7b\"connection\":\x7b\x7d,\"driver\":\"d\",\"driver_config\":\x7b\x7d," ++
  lit "\"id\":\"a\",\"points\":[\x7b\"address\":\x7b\x7d,\"name\":\"p\",\"offset\":0.0," ++
  lit "\"scale\":" ++ scale ++ lit ",\"type\":\"double\",\"unit\":\"\"\x7d]\x7d],\"event_publishers\":[]," ++
  lit "\"groups\":[\x7b\"device_id\":\"a\",\"id\":\"g\",\"interval_ms\":" ++ interval ++
  lit ",\"points\":[\"p\"],\"timeout_ms\":500\x7d],\"processors\":[]," ++
  lit "\"runtime\":\x7b\"raw_queue_capacity\":64\x7d\x7d"

/-- The JSON library on the one text `text`. -/
def libraryFor (text : ByteString) (root : Json) : JsonLibrary where
  parse input := if input = text then .ok root else .error []
  dump _ := lit "\x7b\x7d"

end MiniGateway
