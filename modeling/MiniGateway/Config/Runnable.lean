/-
  Every accepted configuration can be run.

  The parser and the constructors that see its result check overlapping rules in loops of their own.
  Each loop of the parser is shown to imply the loop of the constructor over the same items
  (`parseDeviceItems_checkDevices`, `parseGroupItems_checkGroups`), and `runnable` puts them together
  for plugins that match the configuration.
-/
import MiniGateway.Runtime.Parts

namespace MiniGateway

open Throwing (bind_eq_ok)

/-! ### Devices -/

theorem stringValue_ne_nil {value : Json} {path result : ByteString}
    (h : stringValue value path false = .ok result) : result ≠ [] := by
  unfold stringValue at h
  split at h
  · split_ifs at h with hempty
    · simp at h
    · obtain rfl := Except.ok.inj h
      simpa using hempty
  · simp at h

theorem stringMember_ne_nil {object : List (ByteString × Json)} {key path result : ByteString}
    (h : stringMember object key path false = .ok result) : result ≠ [] := by
  obtain ⟨value, -, hvalue⟩ := bind_eq_ok.mp h
  exact stringValue_ne_nil hvalue

theorem parsePoint_valid {value : Json} {path : ByteString} {point : PointConfig}
    (h : parsePoint value path = .ok point) :
    point.name ≠ [] ∧ invertedRange point.minimum point.maximum = false := by
  simp only [parsePoint, bind_eq_ok] at h
  obtain ⟨_, -, name, hname, _, -, _, -, _, -, _, -, _, -, _, -, _, -, _, -, _, -, h⟩ := h
  split_ifs at h with hinverted
  · simp at h
  · obtain rfl := Except.ok.inj h
    exact ⟨stringMember_ne_nil hname, by simpa using hinverted⟩

/-- The loop over the points, in the parser and in `Normalizer`. -/
theorem parsePoints_checkPoints (deviceId : ByteString) {path : ByteString} {index : ℕ}
    {names : List ByteString} {values : List Json} {points : List PointConfig}
    (h : parsePoints path index names values = .ok points) :
    checkPoints deviceId names points = .ok () := by
  induction values generalizing index names points with
  | nil =>
    obtain rfl := Except.ok.inj h
    rfl
  | cons value rest ih =>
    simp only [parsePoints, bind_eq_ok] at h
    obtain ⟨point, hpoint, h⟩ := h
    split_ifs at h with hseen
    · simp at h
    · obtain ⟨more, hmore, h⟩ := bind_eq_ok.mp h
      obtain rfl := Except.ok.inj h
      obtain ⟨hname, hrange⟩ := parsePoint_valid hpoint
      rw [checkPoints, if_neg hname, hrange, if_neg (by decide), if_neg hseen]
      exact ih hmore

theorem parseDevice_checkPoints {json : JsonLibrary} {path : ByteString}
    {deviceIds : List ByteString} {value : Json} {device : DeviceConfig}
    (h : parseDevice json path deviceIds value = .ok device) :
    device.id ≠ [] ∧ device.id ∉ deviceIds ∧ checkPoints device.id [] device.points = .ok () := by
  obtain ⟨⟨object, hid⟩, hseen, pointValues, hpoints⟩ := parseDevice_eq_ok h
  exact ⟨stringMember_ne_nil hid, hseen, parsePoints_checkPoints device.id hpoints⟩

/-- The loop over the devices, in the parser and in `Normalizer`. -/
theorem parseDeviceItems_checkDevices {json : JsonLibrary} {index : ℕ}
    {deviceIds : List ByteString} {values : List Json} {devices : List DeviceConfig}
    (h : parseDeviceItems json index deviceIds values = .ok devices) :
    checkDevices deviceIds devices = .ok () := by
  induction values generalizing index deviceIds devices with
  | nil =>
    obtain rfl := Except.ok.inj h
    rfl
  | cons value rest ih =>
    simp only [parseDeviceItems, bind_eq_ok] at h
    obtain ⟨device, hdevice, more, hmore, h⟩ := h
    obtain rfl := Except.ok.inj h
    obtain ⟨hid, hseen, hpoints⟩ := parseDevice_checkPoints hdevice
    rw [checkDevices, if_neg hid, if_neg hseen, hpoints]
    exact ih hmore

/-! ### Groups -/

theorem stringArrayItems_ok {path : ByteString} {index : ℕ} {unique : List ByteString}
    {values : List Json} {items : List ByteString}
    (h : stringArrayItems path index unique values = .ok items) :
    (∀ item ∈ items, item ∉ unique) ∧ items.Nodup := by
  induction values generalizing index unique items with
  | nil =>
    obtain rfl := Except.ok.inj h
    simp
  | cons value rest ih =>
    simp only [stringArrayItems, bind_eq_ok] at h
    obtain ⟨item, -, h⟩ := h
    split_ifs at h with hseen
    · simp at h
    · obtain ⟨more, hmore, h⟩ := bind_eq_ok.mp h
      obtain rfl := Except.ok.inj h
      obtain ⟨hnew, hnodup⟩ := ih hmore
      refine ⟨?_, ?_⟩
      · intro other hmem
        rcases List.mem_cons.mp hmem with rfl | hmem
        · exact hseen
        · exact fun hold => hnew other hmem (List.mem_cons_of_mem _ hold)
      · rw [List.nodup_cons]
        exact ⟨fun hmem => hnew item hmem List.mem_cons_self, hnodup⟩

theorem stringArray_nodup {value : Json} {path : ByteString} {required : Bool}
    {items : List ByteString} (h : stringArray value path required = .ok items) : items.Nodup := by
  unfold stringArray at h
  cases value with
  | array values =>
    by_cases hempty : (required && values.isEmpty) = true
    · simp [hempty] at h
    · simp only [hempty] at h
      exact (stringArrayItems_ok h).2
  | _ => simp at h

theorem checkGroupPoints_ok {path : ByteString} {device : DeviceConfig} {points : List ByteString}
    (h : checkGroupPoints path device points = .ok ()) :
    ∀ point ∈ points, point ∈ device.points.map PointConfig.name := by
  induction points with
  | nil => simp
  | cons point rest ih =>
    simp only [checkGroupPoints] at h
    split_ifs at h with hknown
    · intro other hmem
      rcases List.mem_cons.mp hmem with rfl | hmem
      · exact hknown
      · exact ih h other hmem
    · simp at h

/-- The group names a device and points of it, each once. -/
def CollectionGroup.Refers (devices : List DeviceConfig) (group : CollectionGroup) : Prop :=
  group.points.Nodup ∧ ∃ device ∈ devices, device.id = group.deviceId ∧
    ∀ point ∈ group.points, point ∈ device.points.map PointConfig.name

theorem parseGroup_refers {devices : List DeviceConfig} {path : ByteString}
    {groupIds : List ByteString} {value : Json} {group : CollectionGroup}
    (h : parseGroup devices path groupIds value = .ok group) :
    group.id ≠ [] ∧ group.id ∉ groupIds ∧ group.Refers devices := by
  simp only [parseGroup, bind_eq_ok] at h
  obtain ⟨object, -, id, hid, h⟩ := h
  split_ifs at h with hseen
  · simp at h
  · simp only [bind_eq_ok] at h
    obtain ⟨deviceId, -, _, -, _, -, _, -, points, hpoints, h⟩ := h
    split at h
    · simp at h
    · rename_i device hdevice
      obtain ⟨_, hknown, h⟩ := bind_eq_ok.mp h
      obtain rfl := Except.ok.inj h
      have hfound : device.id = deviceId := by simpa using List.find?_some hdevice
      exact ⟨stringMember_ne_nil hid, hseen, stringArray_nodup hpoints, device,
        List.mem_of_find?_eq_some hdevice, hfound, checkGroupPoints_ok hknown⟩

/-- The loop over the groups, in the parser and in `validate_and_configure`. -/
theorem parseGroupItems_checkGroups {devices : List DeviceConfig}
    {modes : List (ByteString × AcquisitionMode)} {index : ℕ} {groupIds : List ByteString}
    {values : List Json} {groups : List CollectionGroup}
    (hmodes : ∀ group ∈ groups, modes.lookup group.deviceId = some .poll)
    (h : parseGroupItems devices index groupIds values = .ok groups) :
    checkGroups modes groupIds groups = .ok () := by
  induction values generalizing index groupIds groups with
  | nil =>
    obtain rfl := Except.ok.inj h
    rfl
  | cons value rest ih =>
    simp only [parseGroupItems, bind_eq_ok] at h
    obtain ⟨group, hgroup, more, hmore, h⟩ := h
    obtain rfl := Except.ok.inj h
    obtain ⟨hid, hseen, -⟩ := parseGroup_refers hgroup
    obtain ⟨hinterval, htimeout⟩ := parseGroup_ok hgroup
    rw [checkGroups, if_neg (not_or.mpr ⟨hid, hseen⟩), if_neg (by omega),
      if_neg (not_not.mpr (hmodes group List.mem_cons_self))]
    exact ih (fun other hmem => hmodes other (List.mem_cons_of_mem _ hmem)) hmore

/-! ### Publishers -/

theorem parsePluginItems_ids {json : JsonLibrary} {basePath : ByteString} {index : ℕ}
    {ids : List ByteString} {values : List Json} {plugins : List PluginConfig}
    (h : parsePluginItems json basePath index ids values = .ok plugins) :
    (∀ plugin ∈ plugins, plugin.id ≠ [] ∧ plugin.id ∉ ids) ∧
      (plugins.map PluginConfig.id).Nodup := by
  induction values generalizing index ids plugins with
  | nil =>
    obtain rfl := Except.ok.inj h
    simp
  | cons value rest ih =>
    simp only [parsePluginItems, bind_eq_ok] at h
    obtain ⟨plugin, hplugin, more, hmore, h⟩ := h
    obtain rfl := Except.ok.inj h
    have hfirst : plugin.id ≠ [] ∧ plugin.id ∉ ids := by
      simp only [parsePlugin, bind_eq_ok] at hplugin
      obtain ⟨_, -, id, hid, _, -, _, -, _, -, _, -, hplugin⟩ := hplugin
      split_ifs at hplugin with hseen
      · simp at hplugin
      · obtain rfl := Except.ok.inj hplugin
        exact ⟨stringMember_ne_nil hid, hseen⟩
    exact Fresh.cons hfirst (ih hmore)

theorem parsePlugins_ids {json : JsonLibrary} {root : List (ByteString × Json)} {key : ByteString}
    {optional : Bool} {plugins : List PluginConfig}
    (h : parsePlugins json root key optional = .ok plugins) :
    (∀ plugin ∈ plugins, plugin.id ≠ []) ∧ (plugins.map PluginConfig.id).Nodup := by
  unfold parsePlugins at h
  split_ifs at h
  · obtain rfl := Except.ok.inj h
    simp
  · obtain ⟨values, -, hitems⟩ := bind_eq_ok.mp h
    obtain ⟨hids, hnodup⟩ := parsePluginItems_ids hitems
    exact ⟨fun plugin hin => (hids plugin hin).1, hnodup⟩

/-- The loop over the publishers accepts distinct ids. -/
theorem checkPublishers_eq_ok {publisherIds : List ByteString}
    {publishers : List EventPublisherInstance}
    (h : ∀ item ∈ publishers, item.id ≠ [] ∧ item.publisher ≠ .null ∧ item.id ∉ publisherIds)
    (hnodup : (publishers.map EventPublisherInstance.id).Nodup) :
    checkPublishers publisherIds publishers = .ok () := by
  induction publishers generalizing publisherIds with
  | nil => rfl
  | cons item rest ih =>
    obtain ⟨hid, hpublisher, hseen⟩ := h item List.mem_cons_self
    rw [List.map_cons, List.nodup_cons] at hnodup
    rw [checkPublishers, if_neg (not_or.mpr ⟨hid, hpublisher⟩), if_neg hseen]
    refine ih (fun other hmem => ?_) hnodup.2
    obtain ⟨hid', hpublisher', hseen'⟩ := h other (List.mem_cons_of_mem _ hmem)
    refine ⟨hid', hpublisher', fun hold => ?_⟩
    rcases List.mem_cons.mp hold with heq | hold
    · exact hnodup.1 (heq ▸ List.mem_map_of_mem hmem)
    · exact hseen' hold

/-! ### Drivers -/

/-- The loop over the drivers accepts one driver for each device. -/
theorem checkDrivers_eq_ok {devices : List DeviceConfig} {driverDevices : List ByteString}
    {drivers : List DriverInstance}
    (h : ∀ item ∈ drivers, item.deviceId ≠ [] ∧ item.driver ≠ none ∧
      item.deviceId ∉ driverDevices ∧ item.deviceId ∈ devices.map DeviceConfig.id)
    (hnodup : (drivers.map DriverInstance.deviceId).Nodup) :
    checkDrivers devices driverDevices drivers = .ok () := by
  induction drivers generalizing driverDevices with
  | nil => rfl
  | cons item rest ih =>
    obtain ⟨hid, hdriver, hseen, hknown⟩ := h item List.mem_cons_self
    rw [List.map_cons, List.nodup_cons] at hnodup
    have hfound : ¬(devices.find? fun device => device.id == item.deviceId).isNone = true := by
      obtain ⟨device, hdevice, heq⟩ := List.mem_map.mp hknown
      simp only [Option.isNone_iff_eq_none, List.find?_eq_none]
      intro hnone
      exact hnone device hdevice (by simp [heq])
    rw [checkDrivers, if_neg (not_or.mpr ⟨hid, hdriver⟩), if_neg hseen, if_neg hfound]
    refine ih (fun other hmem => ?_) hnodup.2
    obtain ⟨hid', hdriver', hseen', hknown'⟩ := h other (List.mem_cons_of_mem _ hmem)
    refine ⟨hid', hdriver', fun hold => ?_, hknown'⟩
    rcases List.mem_cons.mp hold with heq | hold
    · exact hnodup.1 (heq ▸ List.mem_map_of_mem hmem)
    · exact hseen' hold

/-! ### The whole configuration -/

theorem sizeMember_pos {object : List (ByteString × Json)} {key path : ByteString} {n : ℕ}
    (h : sizeMember object key path true = .ok n) : n ≠ 0 := by
  simp only [sizeMember, boundedMember, bind_eq_ok] at h
  obtain ⟨value, -, h⟩ := h
  split_ifs at h with hbounds
  · simp at h
  · obtain rfl := Except.ok.inj h
    rintro rfl
    simp at hbounds

theorem parseControlCapacity_pos {runtime : List (ByteString × Json)} {n : ℕ}
    (h : parseControlCapacity runtime = .ok n) : n ≠ 0 := by
  unfold parseControlCapacity at h
  split at h
  · obtain rfl := Except.ok.inj h
    decide
  · exact sizeMember_pos h

/-- What the sections of an accepted configuration satisfy. -/
structure ApplicationConfig.Checked (config : ApplicationConfig) : Prop where
  rawQueueCapacity : config.gateway.rawQueueCapacity ≠ 0
  controlQueueCapacity : config.gateway.controlQueueCapacity ≠ 0
  devices : checkDevices [] config.gateway.devices = .ok ()
  groups : ∀ modes : List (ByteString × AcquisitionMode),
    (∀ group ∈ config.gateway.groups, modes.lookup group.deviceId = some .poll) →
      checkGroups modes [] config.gateway.groups = .ok ()
  refers : ∀ group ∈ config.gateway.groups, group.Refers config.gateway.devices
  publisherIds : ∀ spec ∈ config.eventPublishers, spec.id ≠ []
  publishers_nodup : (config.eventPublishers.map PluginConfig.id).Nodup

theorem parseApplicationConfig_checked {json : JsonLibrary} {root : Json}
    {config : ApplicationConfig} (h : parseApplicationConfig json root = .ok config) :
    config.Checked := by
  simp only [parseApplicationConfig, bind_eq_ok] at h
  obtain ⟨root, -, runtime, -, _, -, rawCapacity, hraw, controlCapacity, hcontrol, devices,
    hdevices, groups, hgroups, _, -, publishers, hpublishers, _, -, h⟩ := h
  obtain rfl := Except.ok.inj h
  obtain ⟨deviceValues, -, hdevices⟩ := bind_eq_ok.mp hdevices
  obtain ⟨groupValues, -, hgroups⟩ := bind_eq_ok.mp hgroups
  split_ifs at hdevices
  · simp at hdevices
  · obtain ⟨hids, hnodup⟩ := parsePlugins_ids hpublishers
    exact {
      rawQueueCapacity := sizeMember_pos hraw
      controlQueueCapacity := parseControlCapacity_pos hcontrol
      devices := parseDeviceItems_checkDevices hdevices
      groups := fun modes hmodes => parseGroupItems_checkGroups hmodes hgroups
      refers := parseGroupItems_forall (fun hgroup => (parseGroup_refers hgroup).2.2) hgroups
      publisherIds := hids
      publishers_nodup := hnodup }

/-- Plugins that match the configuration. -/
structure RuntimeArguments.Matches (args : RuntimeArguments) (config : ApplicationConfig) :
    Prop where
  gateway : args.config = config.gateway
  /-- One driver for each device, in order. -/
  drivers : List.Forall₂ (fun device item => item.deviceId = device.id ∧ item.driver ≠ none)
    config.gateway.devices args.drivers
  /-- A device that owns a group is polled. -/
  polled : ∀ item ∈ args.drivers, ∀ group ∈ config.gateway.groups,
    group.deviceId = item.deviceId → item.driver = some .poll
  /-- One publisher for each enabled entry. -/
  publisherIds : (args.eventPublishers.map EventPublisherInstance.id).Perm
    ((config.eventPublishers.filter (·.enabled)).map PluginConfig.id)
  publishers : ∀ item ∈ args.eventPublishers, item.publisher ≠ .null

/-- Everything that is built from the configuration accepts it. -/
structure RuntimeArguments.Runs (args : RuntimeArguments) : Prop where
  rawQueue : args.config.rawQueueCapacity ≠ 0
  normalizer : ∃ normalizer, Normalizer.create args.config = .ok normalizer
  validated : validateAndConfigure args = .ok ()
  controlDispatcher : args.config.controlQueueCapacity ≠ 0
  policy : ∀ startTime, checkTasks [] (args.config.scheduleTasks startTime) = .ok ()
  groups : ∀ group ∈ args.config.groups, group.Refers args.config.devices
  /-- The constructor as a whole then only looks for null processors and sources. -/
  accepted : .null ∉ args.processors → .null ∉ args.deviceControlSources →
    checkRuntime args = .ok ()

section Matching

variable {args : RuntimeArguments} {config : ApplicationConfig}

theorem RuntimeArguments.Matches.driverIds (h : args.Matches config) :
    args.drivers.map DriverInstance.deviceId = config.gateway.devices.map DeviceConfig.id := by
  have hdrivers := h.drivers
  generalize args.drivers = drivers, config.gateway.devices = devices at hdrivers ⊢
  induction hdrivers with
  | nil => rfl
  | cons hfirst _ ih => rw [List.map_cons, List.map_cons, hfirst.1, ih]

theorem RuntimeArguments.Matches.driver (h : args.Matches config) {item : DriverInstance}
    (hin : item ∈ args.drivers) : item.driver ≠ none := by
  have hdrivers := h.drivers
  generalize args.drivers = drivers, config.gateway.devices = devices at hdrivers hin
  induction hdrivers with
  | nil => exact absurd hin List.not_mem_nil
  | cons hfirst _ ih =>
    rcases List.mem_cons.mp hin with rfl | hin
    · exact hfirst.2
    · exact ih hin

theorem RuntimeArguments.Matches.checkDrivers (h : args.Matches config) (hc : config.Checked) :
    checkDrivers config.gateway.devices [] args.drivers = .ok () := by
  obtain ⟨hids, hnodup⟩ := checkDevices_ok hc.devices
  refine checkDrivers_eq_ok ?_ (by rwa [h.driverIds])
  intro item hin
  have hknown : item.deviceId ∈ config.gateway.devices.map DeviceConfig.id := by
    rw [← h.driverIds]
    exact List.mem_map_of_mem hin
  obtain ⟨device, hdevice, heq⟩ := List.mem_map.mp hknown
  refine ⟨?_, h.driver hin, List.not_mem_nil, hknown⟩
  rw [← heq]
  exact (hids device hdevice).1

/-- The driver of the device of a group is polled. -/
theorem RuntimeArguments.Matches.mode (h : args.Matches config) (hc : config.Checked)
    {group : CollectionGroup} (hgroup : group ∈ config.gateway.groups) :
    (driverModes args.drivers).lookup group.deviceId = some .poll := by
  obtain ⟨-, device, hdevice, hid, -⟩ := hc.refers group hgroup
  have hin : group.deviceId ∈ args.drivers.map DriverInstance.deviceId := by
    rw [h.driverIds, ← hid]
    exact List.mem_map_of_mem hdevice
  obtain ⟨item, hitem, heq⟩ := List.mem_map.mp hin
  have hpoll := h.polled item hitem group hgroup heq.symm
  have hnodup := (checkDrivers_ok (h.checkDrivers hc)).2
  rw [← heq, driverModes_lookup hnodup hitem (by rw [hpoll]; rfl), hpoll]

theorem RuntimeArguments.Matches.checkPublishers (h : args.Matches config) (hc : config.Checked) :
    checkPublishers [] args.eventPublishers = .ok () := by
  have henabled : ((config.eventPublishers.filter (·.enabled)).map PluginConfig.id).Nodup :=
    hc.publishers_nodup.sublist (List.filter_sublist.map _)
  refine checkPublishers_eq_ok ?_ (h.publisherIds.nodup_iff.mpr henabled)
  intro item hin
  refine ⟨?_, h.publishers item hin, List.not_mem_nil⟩
  obtain ⟨spec, hspec, heq⟩ :=
    List.mem_map.mp (h.publisherIds.mem_iff.mp (List.mem_map_of_mem hin))
  rw [← heq]
  exact hc.publisherIds spec (List.mem_of_mem_filter hspec)

theorem RuntimeArguments.Matches.validated (h : args.Matches config) (hc : config.Checked) :
    validateAndConfigure args = .ok () := by
  have hcount : args.drivers.length = config.gateway.devices.length := h.drivers.length_eq.symm
  unfold validateAndConfigure
  rw [h.gateway, h.checkDrivers hc, hc.groups _ fun group hin => h.mode hc hin,
    h.checkPublishers hc]
  show (if args.drivers.length ≠ config.gateway.devices.length then _ else _) = _
  rw [if_neg (not_not.mpr hcount)]
  rfl

end Matching

/-- **Every accepted configuration can be run.** -/
theorem runnable {json : JsonLibrary} {root : Json} {config : ApplicationConfig}
    {args : RuntimeArguments} (h : parseApplicationConfig json root = .ok config)
    (hargs : args.Matches config) : args.Runs := by
  have hc := parseApplicationConfig_checked h
  have hnormalizer : ∃ normalizer, Normalizer.create args.config = .ok normalizer := by
    unfold Normalizer.create
    split
    · rename_i what hwhat
      rw [hargs.gateway, hc.devices] at hwhat
      cases hwhat
    · exact ⟨_, rfl⟩
  have hraw : args.config.rawQueueCapacity ≠ 0 := by
    rw [hargs.gateway]
    exact hc.rawQueueCapacity
  have hcontrol : args.config.controlQueueCapacity ≠ 0 := by
    rw [hargs.gateway]
    exact hc.controlQueueCapacity
  refine {
    rawQueue := hraw
    normalizer := hnormalizer
    validated := hargs.validated hc
    controlDispatcher := hcontrol
    policy := ?_
    groups := ?_
    accepted := ?_ }
  · intro startTime
    rw [hargs.gateway]
    exact GatewayConfig.checkTasks_scheduleTasks
      (hc.groups (driverModes args.drivers) fun group hin => hargs.mode hc hin) startTime
  · rw [hargs.gateway]
    exact hc.refers
  · intro hprocessors hsources
    obtain ⟨normalizer, hcreate⟩ := hnormalizer
    unfold checkRuntime
    rw [if_neg hraw, hcreate, if_neg hprocessors, hargs.validated hc, if_neg hcontrol,
      if_neg hsources]
    rfl

/-- One device that is polled by one group. -/
theorem runnable_oneGroup : ∃ config, ∃ args : RuntimeArguments,
    parseApplicationConfig (libraryFor [] .null) (oneGroupDocument 1000 one) = .ok config ∧
      args.Matches config ∧ args.Runs := by
  have hparsed : (parseApplicationConfig (libraryFor [] .null)
      (oneGroupDocument 1000 one)).toOption.map (fun config =>
        (config.gateway.devices.map DeviceConfig.id, config.eventPublishers.map PluginConfig.id)) =
      some ([lit "a"], []) := by decide +kernel
  obtain ⟨config, hconfig, hshape⟩ := Option.map_eq_some_iff.mp hparsed
  have hparse := toOption_eq_some.mp hconfig
  obtain ⟨hdevices, hpublishers⟩ := Prod.mk.inj hshape
  have hmatches : RuntimeArguments.Matches
      { config := config.gateway
        drivers := [{ deviceId := lit "a", driver := some .poll }]
        processors := []
        eventPublishers := []
        deviceControlSources := [] } config := by
    refine ⟨rfl, ?_, ?_, ?_, ?_⟩
    · obtain ⟨device, hdevice, hid⟩ := List.map_eq_singleton_iff.mp hdevices
      rw [hdevice]
      exact .cons ⟨hid.symm, by simp⟩ .nil
    · intro item hin _ _ _
      obtain rfl := List.mem_singleton.mp hin
      rfl
    · rw [List.map_eq_nil_iff.mp hpublishers]
      exact .nil
    · intro item hin
      exact absurd hin List.not_mem_nil
  exact ⟨config, _, hparse, hmatches, runnable hparse hmatches⟩

end MiniGateway
