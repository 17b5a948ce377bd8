/-
  The parser of configurations accepts exactly the well-formed ones, and reads back what the writer
  writes.

  Soundness goes function by function: what each returns is as `WellFormed` says.  Completeness
  runs the same functions on a written document, where each field finds its value.  Both follow the
  loops, whose lists of ids seen so far are `Fresh` read from the front.
-/
import MiniGateway.Config.Render
import MiniGateway.Normalizer.Batches

namespace MiniGateway

open Binary64 (Double)
open Throwing (bind_eq_ok)

variable {json : JsonLibrary}

/-- The ids of a list, read from the front. -/
theorem fresh_cons {α : Type} {id : α → ByteString} {ids : List ByteString} {item : α}
    {rest : List α} : Fresh id ids (item :: rest) ↔
      (id item ≠ [] ∧ id item ∉ ids) ∧ Fresh id (id item :: ids) rest := by
  refine ⟨fun ⟨hids, hnodup⟩ => ?_, fun ⟨hfirst, hrest⟩ => hrest.cons hfirst⟩
  rw [List.map_cons, List.nodup_cons] at hnodup
  refine ⟨hids item List.mem_cons_self, fun other hmem => ?_, hnodup.2⟩
  obtain ⟨hne, hnew⟩ := hids other (List.mem_cons_of_mem _ hmem)
  refine ⟨hne, fun hold => ?_⟩
  rcases List.mem_cons.mp hold with heq | hold
  · exact hnodup.1 (heq ▸ List.mem_map_of_mem hmem)
  · exact hnew hold

/-! ### Soundness -/

section Soundness

theorem boundedMember_le {limit n : ℕ} {message : ByteString} {object : List (ByteString × Json)}
    {key path : ByteString} (h : boundedMember limit message object key path true = .ok n) :
    0 < n ∧ n ≤ limit := by
  simp only [boundedMember, bind_eq_ok] at h
  obtain ⟨value, -, h⟩ := h
  split_ifs at h with hbounds
  · simp at h
  · obtain rfl := Except.ok.inj h
    simp only [Bool.true_and, beq_iff_eq, Bool.or_eq_true, decide_eq_true_eq, not_or] at hbounds
    omega

theorem parsePoint_wellFormed {value : Json} {path : ByteString} {point : PointConfig}
    (h : parsePoint value path = .ok point) : point.WellFormed :=
  ⟨parsePoint_ok h, (parsePoint_valid h).2⟩

theorem parsePoints_wellFormed {path : ByteString} {index : ℕ} {names : List ByteString}
    {values : List Json} {points : List PointConfig}
    (h : parsePoints path index names values = .ok points) :
    Fresh PointConfig.name names points ∧ (∀ point ∈ points, point.WellFormed) ∧
      points.length = values.length := by
  induction values generalizing index names points with
  | nil =>
    obtain rfl := Except.ok.inj h
    simp [Fresh]
  | cons value rest ih =>
    obtain ⟨point, hpoint, h⟩ := bind_eq_ok.mp h
    split_ifs at h with hseen
    · simp at h
    · obtain ⟨more, hmore, h⟩ := bind_eq_ok.mp h
      obtain rfl := Except.ok.inj h
      obtain ⟨hfresh, hall, hlength⟩ := ih hmore
      refine ⟨hfresh.cons ⟨(parsePoint_valid hpoint).1, hseen⟩, ?_, congrArg Nat.succ hlength⟩
      exact List.forall_mem_cons.mpr ⟨parsePoint_wellFormed hpoint, hall⟩

theorem parseDevice_wellFormed {path : ByteString} {deviceIds : List ByteString} {value : Json}
    {device : DeviceConfig} (h : parseDevice json path deviceIds value = .ok device) :
    device.WellFormed json := by
  obtain ⟨object, -, h⟩ := bind_eq_ok.mp h
  obtain ⟨id, -, h⟩ := bind_eq_ok.mp h
  split_ifs at h
  · simp at h
  · simp only [bind_eq_ok] at h
    obtain ⟨type, htype, settings, -, library, -, _, -, connection, -, pointValues, -, h⟩ := h
    split_ifs at h with hempty
    · simp at h
    · obtain ⟨points, hpoints, h⟩ := bind_eq_ok.mp h
      obtain rfl := Except.ok.inj h
      obtain ⟨hnames, hall, hlength⟩ := parsePoints_wellFormed hpoints
      refine ⟨stringMember_ne_nil htype, ⟨settings, rfl⟩, ?_, hall, hnames⟩
      rintro rfl
      rw [List.isEmpty_iff, ← List.length_eq_zero_iff, ← hlength] at hempty
      exact hempty rfl

theorem parseDeviceItems_wellFormed {index : ℕ} {deviceIds : List ByteString}
    {values : List Json} {devices : List DeviceConfig}
    (h : parseDeviceItems json index deviceIds values = .ok devices) :
    Fresh DeviceConfig.id deviceIds devices ∧ (∀ device ∈ devices, device.WellFormed json) ∧
      devices.length = values.length := by
  induction values generalizing index deviceIds devices with
  | nil =>
    obtain rfl := Except.ok.inj h
    simp [Fresh]
  | cons value rest ih =>
    obtain ⟨device, hdevice, h⟩ := bind_eq_ok.mp h
    obtain ⟨more, hmore, h⟩ := bind_eq_ok.mp h
    obtain rfl := Except.ok.inj h
    obtain ⟨hfresh, hall, hlength⟩ := ih hmore
    obtain ⟨hid, hseen, -⟩ := parseDevice_checkPoints hdevice
    refine ⟨hfresh.cons ⟨hid, hseen⟩, ?_, congrArg Nat.succ hlength⟩
    exact List.forall_mem_cons.mpr ⟨parseDevice_wellFormed hdevice, hall⟩

theorem stringArray_ne_nil {value : Json} {path : ByteString} {items : List ByteString}
    (h : stringArray value path true = .ok items) : items ≠ [] := by
  unfold stringArray at h
  cases value with
  | array values =>
    cases values with
    | nil => simp at h
    | cons value rest =>
      obtain ⟨item, -, h⟩ := bind_eq_ok.mp h
      split_ifs at h
      · simp at h
      · obtain ⟨more, -, h⟩ := bind_eq_ok.mp h
        obtain rfl := Except.ok.inj h
        exact List.cons_ne_nil item more
  | _ => simp at h

theorem parseGroup_wellFormed {devices : List DeviceConfig} {path : ByteString}
    {groupIds : List ByteString} {value : Json} {group : CollectionGroup}
    (h : parseGroup devices path groupIds value = .ok group) : group.WellFormed devices := by
  have hrefers := (parseGroup_refers h).2.2
  obtain ⟨object, -, h⟩ := bind_eq_ok.mp h
  obtain ⟨id, -, h⟩ := bind_eq_ok.mp h
  split_ifs at h
  · simp at h
  · simp only [bind_eq_ok] at h
    obtain ⟨deviceId, -, interval, hinterval, timeout, htimeout, _, -, points, hpoints, h⟩ := h
    split at h
    · simp at h
    · obtain ⟨-, -, h⟩ := bind_eq_ok.mp h
      obtain rfl := Except.ok.inj h
      exact ⟨millisecondsMember_ok hinterval, millisecondsMember_ok htimeout,
        stringArray_ne_nil hpoints, hrefers⟩

theorem parseGroupItems_fresh {devices : List DeviceConfig} {index : ℕ}
    {groupIds : List ByteString} {values : List Json} {groups : List CollectionGroup}
    (h : parseGroupItems devices index groupIds values = .ok groups) :
    Fresh CollectionGroup.id groupIds groups := by
  induction values generalizing index groupIds groups with
  | nil =>
    obtain rfl := Except.ok.inj h
    simp [Fresh]
  | cons value rest ih =>
    obtain ⟨group, hgroup, h⟩ := bind_eq_ok.mp h
    obtain ⟨more, hmore, h⟩ := bind_eq_ok.mp h
    obtain rfl := Except.ok.inj h
    obtain ⟨hid, hseen, -⟩ := parseGroup_refers hgroup
    exact (ih hmore).cons ⟨hid, hseen⟩

theorem parsePlugin_wellFormed {path : ByteString} {ids : List ByteString} {value : Json}
    {plugin : PluginConfig} (h : parsePlugin json path ids value = .ok plugin) :
    plugin.WellFormed json := by
  simp only [parsePlugin, bind_eq_ok] at h
  obtain ⟨_, -, id, -, type, htype, _, -, settings, -, _, -, h⟩ := h
  split_ifs at h
  · simp at h
  · obtain rfl := Except.ok.inj h
    exact ⟨stringMember_ne_nil htype, settings, rfl⟩

theorem parsePlugins_wellFormed {root : List (ByteString × Json)} {key : ByteString}
    {optional : Bool} {plugins : List PluginConfig}
    (h : parsePlugins json root key optional = .ok plugins) : PluginsWellFormed json plugins := by
  have hitems : ∀ {basePath : ByteString} {index : ℕ} {ids : List ByteString} {values : List Json}
      {plugins : List PluginConfig}, parsePluginItems json basePath index ids values = .ok plugins →
      ∀ plugin ∈ plugins, plugin.WellFormed json := by
    intro basePath index ids values
    induction values generalizing index ids with
    | nil =>
      intro plugins h
      obtain rfl := Except.ok.inj h
      simp
    | cons value rest ih =>
      intro plugins h
      obtain ⟨plugin, hplugin, h⟩ := bind_eq_ok.mp h
      obtain ⟨more, hmore, h⟩ := bind_eq_ok.mp h
      obtain rfl := Except.ok.inj h
      exact List.forall_mem_cons.mpr ⟨parsePlugin_wellFormed hplugin, ih hmore⟩
  unfold parsePlugins at h
  split_ifs at h
  · obtain rfl := Except.ok.inj h
    exact ⟨by simp [Fresh], by simp⟩
  · obtain ⟨values, -, h⟩ := bind_eq_ok.mp h
    exact ⟨parsePluginItems_ids h, hitems h⟩

theorem parseRunDuration_isDuration {runtime : List (ByteString × Json)} {runDuration : Option ℤ}
    (h : parseRunDuration runtime = .ok runDuration) : ∀ d, runDuration = some d → IsDuration d := by
  unfold parseRunDuration at h
  split at h
  · obtain rfl := Except.ok.inj h
    simp
  · obtain rfl := Except.ok.inj h
    simp
  · obtain ⟨d, hd, h⟩ := bind_eq_ok.mp h
    obtain rfl := Except.ok.inj h
    intro d' hd'
    obtain rfl := Option.some.inj hd'
    exact millisecondsMember_ok hd

theorem parseControlCapacity_isCapacity {runtime : List (ByteString × Json)} {n : ℕ}
    (h : parseControlCapacity runtime = .ok n) : IsCapacity n := by
  unfold parseControlCapacity at h
  split at h
  · obtain rfl := Except.ok.inj h
    unfold IsCapacity
    omega
  · exact boundedMember_le h

/-- **Soundness**: an accepted configuration is well formed. -/
theorem parseApplicationConfig_wellFormed {root : Json} {config : ApplicationConfig}
    (h : parseApplicationConfig json root = .ok config) : config.WellFormed json := by
  simp only [parseApplicationConfig, bind_eq_ok] at h
  obtain ⟨root, -, runtime, -, _, hduration, _, hraw, _, hcontrol, devices, hdevices, groups,
    hgroups, _, hprocessors, _, hpublishers, _, hsources, h⟩ := h
  obtain rfl := Except.ok.inj h
  obtain ⟨deviceValues, -, hdevices⟩ := bind_eq_ok.mp hdevices
  obtain ⟨groupValues, -, hgroups⟩ := bind_eq_ok.mp hgroups
  split_ifs at hdevices with hempty
  · simp at hdevices
  · obtain ⟨hids, hall, hlength⟩ := parseDeviceItems_wellFormed hdevices
    refine
      { runDuration := parseRunDuration_isDuration hduration
        rawQueueCapacity := boundedMember_le hraw
        controlQueueCapacity := parseControlCapacity_isCapacity hcontrol
        devices_ne := ?_
        deviceIds := hids
        devices := hall
        groupIds := parseGroupItems_fresh hgroups
        groups := parseGroupItems_forall parseGroup_wellFormed hgroups
        processors := parsePlugins_wellFormed hprocessors
        eventPublishers := parsePlugins_wellFormed hpublishers
        deviceControlSources := parsePlugins_wellFormed hsources }
    rintro rfl
    rw [List.isEmpty_iff, ← List.length_eq_zero_iff, ← hlength] at hempty
    exact hempty rfl

end Soundness

/-! ### Completeness -/

section Completeness

variable {object : List (ByteString × Json)} {key path : ByteString}

theorem member_of_find {value : Json} (h : Json.find object key = some value) :
    member object key path = .ok value := by
  unfold member
  rw [h]

theorem objectMember_of_find {members : List (ByteString × Json)}
    (h : Json.find object key = some (.object members)) :
    objectMember object key path = .ok members := by
  unfold objectMember
  rw [member_of_find h]
  rfl

theorem arrayMember_of_find {items : List Json} (h : Json.find object key = some (.array items)) :
    arrayMember object key path = .ok items := by
  unfold arrayMember
  rw [member_of_find h]
  rfl

theorem stringValue_string {text : ByteString} {allowEmpty : Bool}
    (htext : allowEmpty = true ∨ text ≠ []) :
    stringValue (.string text) path allowEmpty = .ok text := by
  have hno : ¬(!allowEmpty && text.isEmpty) = true := by
    rcases htext with rfl | hne
    · simp
    · simp [hne]
  exact if_neg hno

theorem stringMember_of_find {text : ByteString} {allowEmpty : Bool}
    (h : Json.find object key = some (.string text)) (htext : allowEmpty = true ∨ text ≠ []) :
    stringMember object key path allowEmpty = .ok text := by
  unfold stringMember
  rw [member_of_find h]
  exact stringValue_string htext

theorem optionalPathMember_of_find {library : ByteString}
    (h : Json.find object key = some (Json.ofLibrary library)) :
    optionalPathMember object key path = .ok library := by
  unfold optionalPathMember
  rw [h]
  by_cases hempty : library = []
  · rw [Json.ofLibrary, if_pos hempty, hempty]
  · rw [Json.ofLibrary, if_neg hempty]
    exact stringValue_string (.inr hempty)

theorem boundedMember_of_find {limit n : ℕ} {message : ByteString} (hlimit : limit < 2 ^ 64)
    (h : Json.find object key = some (.unsigned (UInt64.ofNat n))) (hpos : 0 < n)
    (hle : n ≤ limit) : boundedMember limit message object key path true = .ok n := by
  have hvalue : unsignedIntegerMember object key path = .ok n := by
    unfold unsignedIntegerMember
    rw [member_of_find h]
    exact congrArg Except.ok (UInt64.toNat_ofNat_of_lt' (hle.trans_lt hlimit))
  unfold boundedMember
  rw [hvalue]
  refine if_neg ?_
  simp only [Bool.true_and, beq_iff_eq, Bool.or_eq_true, decide_eq_true_eq, not_or]
  omega

theorem millisecondsMember_of_find {d : ℤ}
    (h : Json.find object key = some (Json.ofMilliseconds d)) (hd : IsDuration d) :
    millisecondsMember object key path true = .ok d := by
  obtain ⟨hpos, hle⟩ := hd
  have hbounds : 0 < d.toNat ∧ d.toNat ≤ millisecondsMax := by omega
  unfold millisecondsMember
  rw [boundedMember_of_find (by decide) h hbounds.1 hbounds.2]
  exact congrArg Except.ok (Int.toNat_of_nonneg hpos.le)

theorem sizeMember_of_find {n : ℕ}
    (h : Json.find object key = some (.unsigned (UInt64.ofNat n))) (hn : IsCapacity n) :
    sizeMember object key path true = .ok n :=
  boundedMember_of_find (by decide) h hn.1 hn.2

theorem finiteNumber_number {d : Double} {message : ByteString} (hd : d.isFinite = true) :
    finiteNumber (.number d) path message = .ok d :=
  if_pos hd

theorem finiteNumberMember_of_find {d : Double} (h : Json.find object key = some (.number d))
    (hd : d.isFinite = true) : finiteNumberMember object key path = .ok d := by
  unfold finiteNumberMember
  rw [member_of_find h]
  exact if_pos hd

theorem optionalNumberMember_of_find {number : Option Double}
    (h : Json.find object key = some (Json.ofNumber? number))
    (hfinite : ∀ d, number = some d → d.isFinite = true) :
    optionalNumberMember object key path = .ok number := by
  unfold optionalNumberMember
  rw [h]
  cases number with
  | none => rfl
  | some d =>
    show (finiteNumber (.number d) _ _ >>= fun result => .ok (some result)) = .ok (some d)
    rw [finiteNumber_number (hfinite d rfl)]
    rfl

theorem stringMap_ofStrings (map : List (ByteString × ByteString)) :
    stringMap (Json.ofStrings map) path = .ok map := by
  show stringMapItems path _ = .ok map
  induction map with
  | nil => rfl
  | cons item rest ih =>
    show (stringMapItems path _ >>= fun items => .ok ((item.1, item.2) :: items)) = _
    rw [ih]
    rfl

theorem stringArrayItems_strings {index : ℕ} {unique items : List ByteString}
    (h : Fresh id unique items) :
    stringArrayItems path index unique (items.map .string) = .ok items := by
  induction items generalizing index unique with
  | nil => rfl
  | cons item rest ih =>
    obtain ⟨⟨hne, hnew⟩, hrest⟩ := fresh_cons.mp h
    have hitem : stringValue (.string item) (itemPath path index) false = .ok item :=
      stringValue_string (.inr hne)
    simp only [List.map_cons, stringArrayItems]
    rw [hitem]
    refine (if_neg hnew).trans ?_
    exact bind_eq_ok.mpr ⟨rest, ih hrest, rfl⟩

theorem valueType_configName (type : ValueType) :
    valueType (.string type.configName) path = .ok type := by
  cases type <;> rfl

theorem parsePoint_toJson {point : PointConfig} (h : point.WellFormed) (hname : point.name ≠ []) :
    parsePoint point.toJson path = .ok point := by
  refine bind_eq_ok.mpr ⟨_, rfl, ?_⟩
  refine bind_eq_ok.mpr ⟨point.name, stringMember_of_find rfl (.inr hname), ?_⟩
  refine bind_eq_ok.mpr ⟨_, member_of_find rfl, ?_⟩
  refine bind_eq_ok.mpr ⟨point.type, valueType_configName _, ?_⟩
  refine bind_eq_ok.mpr ⟨point.unit, stringMember_of_find rfl (.inl rfl), ?_⟩
  refine bind_eq_ok.mpr ⟨_, member_of_find rfl, ?_⟩
  refine bind_eq_ok.mpr ⟨point.address, stringMap_ofStrings _, ?_⟩
  refine bind_eq_ok.mpr ⟨point.scale, finiteNumberMember_of_find rfl h.finite.scale, ?_⟩
  refine bind_eq_ok.mpr ⟨point.offset, finiteNumberMember_of_find rfl h.finite.offset, ?_⟩
  refine bind_eq_ok.mpr ⟨point.minimum, optionalNumberMember_of_find rfl h.finite.minimum, ?_⟩
  refine bind_eq_ok.mpr ⟨point.maximum, optionalNumberMember_of_find rfl h.finite.maximum, ?_⟩
  exact if_neg (by simp [h.range])

theorem parsePoints_toJson {index : ℕ} {names : List ByteString} {points : List PointConfig}
    (h : ∀ point ∈ points, point.WellFormed) (hnames : Fresh PointConfig.name names points) :
    parsePoints path index names (points.map PointConfig.toJson) = .ok points := by
  induction points generalizing index names with
  | nil => rfl
  | cons point rest ih =>
    obtain ⟨hpoint, hrest⟩ := List.forall_mem_cons.mp h
    obtain ⟨⟨hne, hnew⟩, hfresh⟩ := fresh_cons.mp hnames
    refine bind_eq_ok.mpr ⟨point, parsePoint_toJson hpoint hne, ?_⟩
    refine (if_neg hnew).trans ?_
    exact bind_eq_ok.mpr ⟨rest, ih hrest hfresh, rfl⟩

theorem checkGroupPoints_of_mem {device : DeviceConfig} {points : List ByteString}
    (h : ∀ point ∈ points, point ∈ device.points.map PointConfig.name) :
    checkGroupPoints path device points = .ok () := by
  induction points with
  | nil => rfl
  | cons point rest ih =>
    obtain ⟨hpoint, hrest⟩ := List.forall_mem_cons.mp h
    exact (if_pos hpoint).trans (ih hrest)

section Settings

variable {settings : ByteString → List (ByteString × Json)}

theorem parseDevice_toJson {device : DeviceConfig} {deviceIds : List ByteString}
    (hsettings : ∀ text, json.IsSettings text → json.dump (.object (settings text)) = text)
    (h : device.WellFormed json) (hne : device.id ≠ []) (hnew : device.id ∉ deviceIds) :
    parseDevice json path deviceIds (device.toJson settings) = .ok device := by
  refine bind_eq_ok.mpr ⟨_, rfl, ?_⟩
  refine bind_eq_ok.mpr ⟨device.id, stringMember_of_find rfl (.inr hne), ?_⟩
  refine (if_neg hnew).trans ?_
  refine bind_eq_ok.mpr ⟨device.driver.type, stringMember_of_find rfl (.inr h.type), ?_⟩
  refine bind_eq_ok.mpr ⟨_, objectMember_of_find rfl, ?_⟩
  refine bind_eq_ok.mpr ⟨device.driver.library, optionalPathMember_of_find rfl, ?_⟩
  refine bind_eq_ok.mpr ⟨_, member_of_find rfl, ?_⟩
  refine bind_eq_ok.mpr ⟨device.connection, stringMap_ofStrings _, ?_⟩
  refine bind_eq_ok.mpr ⟨_, arrayMember_of_find rfl, ?_⟩
  refine (if_neg (by simp [h.points_ne])).trans ?_
  refine bind_eq_ok.mpr ⟨device.points, parsePoints_toJson h.points h.names, ?_⟩
  rw [hsettings device.driver.settingsJson h.settings]

theorem parseDeviceItems_toJson {devices : List DeviceConfig} {index : ℕ}
    {deviceIds : List ByteString}
    (hsettings : ∀ text, json.IsSettings text → json.dump (.object (settings text)) = text)
    (h : ∀ device ∈ devices, device.WellFormed json)
    (hids : Fresh DeviceConfig.id deviceIds devices) :
    parseDeviceItems json index deviceIds (devices.map (DeviceConfig.toJson settings)) =
      .ok devices := by
  induction devices generalizing index deviceIds with
  | nil => rfl
  | cons device rest ih =>
    obtain ⟨hdevice, hrest⟩ := List.forall_mem_cons.mp h
    obtain ⟨⟨hne, hnew⟩, hfresh⟩ := fresh_cons.mp hids
    refine bind_eq_ok.mpr ⟨device, parseDevice_toJson hsettings hdevice hne hnew, ?_⟩
    exact bind_eq_ok.mpr ⟨rest, ih hrest hfresh, rfl⟩

/-- The points of a group are names of points, so none is empty. -/
theorem fresh_points {devices : List DeviceConfig}
    {group : CollectionGroup} (h : group.WellFormed devices)
    (hdevices : ∀ device ∈ devices, device.WellFormed json) : Fresh id [] group.points := by
  obtain ⟨hnodup, device, hdevice, -, hpoints⟩ := h.refers
  refine ⟨fun point hpoint => ?_, by simpa using hnodup⟩
  obtain ⟨config, hconfig, rfl⟩ := List.mem_map.mp (hpoints point hpoint)
  exact ((hdevices device hdevice).names.1 config hconfig)

theorem parseGroup_toJson {devices : List DeviceConfig} {group : CollectionGroup}
    {groupIds : List ByteString} (h : group.WellFormed devices)
    (hids : Fresh DeviceConfig.id [] devices)
    (hdevices : ∀ device ∈ devices, device.WellFormed json) (hne : group.id ≠ [])
    (hnew : group.id ∉ groupIds) :
    parseGroup devices path groupIds group.toJson = .ok group := by
  obtain ⟨-, device, hdevice, hid, hpoints⟩ := h.refers
  have hdeviceId : group.deviceId ≠ [] := hid ▸ (hids.1 device hdevice).1
  have hfound : devices.find? (fun device => device.id == group.deviceId) = some device := by
    rw [← hid]
    exact find?_of_nodup hids.2 hdevice
  refine bind_eq_ok.mpr ⟨_, rfl, ?_⟩
  refine bind_eq_ok.mpr ⟨group.id, stringMember_of_find rfl (.inr hne), ?_⟩
  refine (if_neg hnew).trans ?_
  refine bind_eq_ok.mpr ⟨group.deviceId, stringMember_of_find rfl (.inr hdeviceId), ?_⟩
  refine bind_eq_ok.mpr ⟨group.interval, millisecondsMember_of_find rfl h.interval, ?_⟩
  refine bind_eq_ok.mpr ⟨group.timeout, millisecondsMember_of_find rfl h.timeout, ?_⟩
  refine bind_eq_ok.mpr ⟨_, member_of_find rfl, ?_⟩
  refine bind_eq_ok.mpr ⟨group.points, ?_, ?_⟩
  · refine (if_neg (by simp [h.points_ne])).trans ?_
    exact stringArrayItems_strings (fresh_points h hdevices)
  · rw [hfound]
    exact bind_eq_ok.mpr ⟨(), checkGroupPoints_of_mem hpoints, rfl⟩

theorem parseGroupItems_toJson {devices : List DeviceConfig} {groups : List CollectionGroup}
    {index : ℕ} {groupIds : List ByteString} (h : ∀ group ∈ groups, group.WellFormed devices)
    (hdeviceIds : Fresh DeviceConfig.id [] devices)
    (hdevices : ∀ device ∈ devices, device.WellFormed json)
    (hids : Fresh CollectionGroup.id groupIds groups) :
    parseGroupItems devices index groupIds (groups.map CollectionGroup.toJson) = .ok groups := by
  induction groups generalizing index groupIds with
  | nil => rfl
  | cons group rest ih =>
    obtain ⟨hgroup, hrest⟩ := List.forall_mem_cons.mp h
    obtain ⟨⟨hne, hnew⟩, hfresh⟩ := fresh_cons.mp hids
    refine bind_eq_ok.mpr ⟨group, parseGroup_toJson hgroup hdeviceIds hdevices hne hnew, ?_⟩
    exact bind_eq_ok.mpr ⟨rest, ih hrest hfresh, rfl⟩

theorem parsePlugin_toJson {plugin : PluginConfig} {ids : List ByteString}
    (hsettings : ∀ text, json.IsSettings text → json.dump (.object (settings text)) = text)
    (h : plugin.WellFormed json) (hne : plugin.id ≠ []) (hnew : plugin.id ∉ ids) :
    parsePlugin json path ids (plugin.toJson settings) = .ok plugin := by
  refine bind_eq_ok.mpr ⟨_, rfl, ?_⟩
  refine bind_eq_ok.mpr ⟨plugin.id, stringMember_of_find rfl (.inr hne), ?_⟩
  refine bind_eq_ok.mpr ⟨plugin.type, stringMember_of_find rfl (.inr h.type), ?_⟩
  refine bind_eq_ok.mpr ⟨plugin.enabled, rfl, ?_⟩
  refine bind_eq_ok.mpr ⟨_, objectMember_of_find rfl, ?_⟩
  refine bind_eq_ok.mpr ⟨plugin.library, optionalPathMember_of_find rfl, ?_⟩
  refine (if_neg hnew).trans ?_
  rw [hsettings plugin.settingsJson h.settings]

theorem parsePlugins_toJson {plugins : List PluginConfig} {root : List (ByteString × Json)}
    {optional : Bool}
    (hsettings : ∀ text, json.IsSettings text → json.dump (.object (settings text)) = text)
    (hroot : Json.find root key = some (.array (plugins.map (PluginConfig.toJson settings))))
    (h : PluginsWellFormed json plugins) : parsePlugins json root key optional = .ok plugins := by
  have hitems : ∀ (basePath : ByteString) (index : ℕ) (ids : List ByteString)
      (plugins : List PluginConfig), Fresh PluginConfig.id ids plugins →
      (∀ plugin ∈ plugins, plugin.WellFormed json) →
      parsePluginItems json basePath index ids (plugins.map (PluginConfig.toJson settings)) =
        .ok plugins := by
    intro basePath index ids plugins hids hall
    induction plugins generalizing index ids with
    | nil => rfl
    | cons plugin rest ih =>
      obtain ⟨hplugin, hrest⟩ := List.forall_mem_cons.mp hall
      obtain ⟨⟨hne, hnew⟩, hfresh⟩ := fresh_cons.mp hids
      refine bind_eq_ok.mpr ⟨plugin, parsePlugin_toJson hsettings hplugin hne hnew, ?_⟩
      exact bind_eq_ok.mpr ⟨rest, ih _ _ hfresh hrest, rfl⟩
  refine (if_neg (by simp [hroot])).trans ?_
  exact bind_eq_ok.mpr ⟨_, arrayMember_of_find hroot, hitems _ 0 [] plugins h.ids h.plugins⟩

/-- **Completeness**: a written configuration is read back. -/
theorem parseApplicationConfig_toJson {config : ApplicationConfig}
    (hsettings : ∀ text, json.IsSettings text → json.dump (.object (settings text)) = text)
    (h : config.WellFormed json) :
    parseApplicationConfig json (config.toJson settings) = .ok config := by
  refine bind_eq_ok.mpr ⟨_, rfl, ?_⟩
  refine bind_eq_ok.mpr ⟨_, objectMember_of_find rfl, ?_⟩
  refine bind_eq_ok.mpr ⟨config.runDuration, ?_, ?_⟩
  · cases hduration : config.runDuration with
    | none => rfl
    | some d =>
      have hd : IsDuration d := h.runDuration d hduration
      exact bind_eq_ok.mpr ⟨d, millisecondsMember_of_find rfl hd, rfl⟩
  refine bind_eq_ok.mpr
    ⟨config.gateway.rawQueueCapacity, sizeMember_of_find rfl h.rawQueueCapacity, ?_⟩
  refine bind_eq_ok.mpr
    ⟨config.gateway.controlQueueCapacity, sizeMember_of_find rfl h.controlQueueCapacity, ?_⟩
  refine bind_eq_ok.mpr ⟨config.gateway.devices, ?_, ?_⟩
  · refine bind_eq_ok.mpr ⟨_, arrayMember_of_find rfl, ?_⟩
    refine (if_neg (by simp [h.devices_ne])).trans ?_
    exact parseDeviceItems_toJson hsettings h.devices h.deviceIds
  refine bind_eq_ok.mpr ⟨config.gateway.groups, ?_, ?_⟩
  · refine bind_eq_ok.mpr ⟨_, arrayMember_of_find rfl, ?_⟩
    exact parseGroupItems_toJson h.groups h.deviceIds h.devices h.groupIds
  refine bind_eq_ok.mpr ⟨config.processors, parsePlugins_toJson hsettings rfl h.processors, ?_⟩
  refine bind_eq_ok.mpr
    ⟨config.eventPublishers, parsePlugins_toJson hsettings rfl h.eventPublishers, ?_⟩
  exact bind_eq_ok.mpr ⟨config.deviceControlSources,
    parsePlugins_toJson hsettings rfl h.deviceControlSources, rfl⟩

end Settings

end Completeness

/-- The configurations that some document stands for are the well-formed ones. -/
theorem exists_document_iff {config : ApplicationConfig} :
    (∃ root, parseApplicationConfig json root = .ok config) ↔ config.WellFormed json := by
  refine ⟨fun ⟨root, h⟩ => parseApplicationConfig_wellFormed h, fun h => ?_⟩
  have hmembers : ∀ text, ∃ members, json.IsSettings text → json.dump (.object members) = text := by
    intro text
    by_cases htext : json.IsSettings text
    · obtain ⟨members, rfl⟩ := htext
      exact ⟨members, fun _ => rfl⟩
    · exact ⟨[], fun hno => absurd hno htext⟩
  choose settings hsettings using hmembers
  exact ⟨config.toJson settings, parseApplicationConfig_toJson hsettings h⟩

/-- **Round trip**: what the parser returns for any document is the well-formed configurations, and
it returns each of them for the document written from it. -/
theorem config_round_trip {settings : ByteString → List (ByteString × Json)}
    (hsettings : ∀ text, json.IsSettings text → json.dump (.object (settings text)) = text)
    (config : ApplicationConfig) :
    ((∃ root, parseApplicationConfig json root = .ok config) ↔ config.WellFormed json) ∧
      (config.WellFormed json → parseApplicationConfig json (config.toJson settings) = .ok config) :=
  ⟨exists_document_iff, parseApplicationConfig_toJson hsettings⟩

/-- A document that leaves members out is not the one written from its configuration, and both are
read alike. -/
theorem config_round_trip_oneGroup : ∃ config,
    parseApplicationConfig (libraryFor [] .null) (oneGroupDocument 1000 one) = .ok config ∧
      parseApplicationConfig (libraryFor [] .null) (config.toJson fun _ => []) = .ok config := by
  have hsettings : ∀ text, (libraryFor [] .null).IsSettings text →
      (libraryFor [] .null).dump (.object []) = text := by
    rintro text ⟨members, rfl⟩
    rfl
  obtain ⟨config, hconfig⟩ := Throwing.exists_eq_ok
    (x := parseApplicationConfig (libraryFor [] .null) (oneGroupDocument 1000 one))
    (by decide +kernel)
  obtain ⟨hiff, hwritten⟩ := config_round_trip hsettings config
  exact ⟨config, hconfig, hwritten (hiff.mp ⟨_, hconfig⟩)⟩

end MiniGateway
