/-
  What a `GatewayRuntime` is made of (`runtime.cpp`): the arguments its constructor accepts and the
  lookups by group and device id.

  A plugin is known by its position in its list; a driver pointer that is not null carries the mode
  that `capabilities()` reports.  The mutexes of `io_gates_` are numbered by the driver instance
  they were made for.
-/
import MiniGateway.Config.Durations
import MiniGateway.Normalizer
import MiniGateway.Scheduler.Policy
import Mathlib.Data.List.Nodup
import Mathlib.Data.List.Range

namespace MiniGateway

open Throwing (bind_eq_ok)

inductive AcquisitionMode
  | poll
  | push
  deriving DecidableEq, Repr

/-- A `std::unique_ptr` to a plugin. -/
inductive PluginPointer
  | null
  | plugin
  deriving DecidableEq

/-- `DriverInstance`; the null pointer is `none`. -/
structure DriverInstance where
  deviceId : ByteString
  driver : Option AcquisitionMode
  deriving DecidableEq

/-- `EventPublisherInstance`. -/
structure EventPublisherInstance where
  id : ByteString
  publisher : PluginPointer
  deriving DecidableEq

/-- The arguments of the constructor. -/
structure RuntimeArguments where
  config : GatewayConfig
  drivers : List DriverInstance
  processors : List PluginPointer
  eventPublishers : List EventPublisherInstance
  deviceControlSources : List PluginPointer

/-! ### The maps -/

/-- `std::unordered_map::emplace`: a key that is there keeps its value. -/
def emplace {β : Type*} (map : List (ByteString × β)) (key : ByteString) (value : β) :
    List (ByteString × β) :=
  if (map.lookup key).isSome then map else map ++ [(key, value)]

theorem lookup_emplace {β : Type*} (map : List (ByteString × β)) (key key' : ByteString)
    (value : β) : (emplace map key value).lookup key' =
      (map.lookup key').or (if key' = key then some value else none) := by
  unfold emplace
  by_cases hkey : key' = key
  · subst hkey
    cases hfound : map.lookup key' <;> simp [hfound, List.lookup_append]
  · rw [if_neg hkey, Option.or_none]
    split_ifs
    · rfl
    · have hne : (key' == key) = false := by simpa using hkey
      rw [List.lookup_append]
      simp [List.lookup_cons, hne]

/-- `driver_modes_` after the loop over the drivers. -/
def driverModes (drivers : List DriverInstance) : List (ByteString × AcquisitionMode) :=
  drivers.foldl (fun modes item =>
    match item.driver with
    | some mode => emplace modes item.deviceId mode
    | none => modes) []

/-- `io_gates_` after the loop over the drivers. -/
def ioGates (drivers : List DriverInstance) : List (ByteString × ℕ) :=
  drivers.zipIdx.foldl (fun gates entry => emplace gates entry.1.deviceId entry.2) []

/-! ### The constructor -/

/-- The loop of `validate_and_configure` over the drivers; `driverDevices` are the ids seen so
far. -/
def checkDrivers (devices : List DeviceConfig) (driverDevices : List ByteString) :
    List DriverInstance → Except ByteString Unit
  | [] => .ok ()
  | item :: rest =>
    if item.deviceId = [] ∨ item.driver = none then
      .error (lit "every driver instance needs a device id and driver")
    else if item.deviceId ∈ driverDevices then
      .error (lit "duplicate driver for device: " ++ item.deviceId)
    else if (devices.find? fun device => device.id == item.deviceId).isNone then
      .error (lit "driver references unknown device: " ++ item.deviceId)
    else checkDrivers devices (item.deviceId :: driverDevices) rest

/-- The loop over the groups; `groupIds` are the ids seen so far. -/
def checkGroups (modes : List (ByteString × AcquisitionMode)) (groupIds : List ByteString) :
    List CollectionGroup → Except ByteString Unit
  | [] => .ok ()
  | group :: rest =>
    if group.id = [] ∨ group.id ∈ groupIds then
      .error (lit "collection group ids must be non-empty and unique")
    else if group.interval ≤ 0 ∨ group.timeout ≤ 0 then
      .error (lit "collection group interval and timeout must be positive")
    else if modes.lookup group.deviceId ≠ some .poll then
      .error (lit "push device cannot own a collection group: " ++ group.id)
    else checkGroups modes (group.id :: groupIds) rest

/-- The loop over the publishers; `publisherIds` are the ids seen so far. -/
def checkPublishers (publisherIds : List ByteString) :
    List EventPublisherInstance → Except ByteString Unit
  | [] => .ok ()
  | item :: rest =>
    if item.id = [] ∨ item.publisher = .null then
      .error (lit "every event publisher instance needs an id and publisher")
    else if item.id ∈ publisherIds then
      .error (lit "duplicate event publisher: " ++ item.id)
    else checkPublishers (item.id :: publisherIds) rest

/-- `validate_and_configure`. -/
def validateAndConfigure (args : RuntimeArguments) : Except ByteString Unit := do
  checkDrivers args.config.devices [] args.drivers
  if args.drivers.length ≠ args.config.devices.length then
    .error (lit "each configured device must have one driver instance")
  else
    checkGroups (driverModes args.drivers) [] args.config.groups
    checkPublishers [] args.eventPublishers

/-- The checks of the constructor and of the members it builds, in their order. -/
def checkRuntime (args : RuntimeArguments) : Except ByteString Unit := do
  if args.config.rawQueueCapacity = 0 then .error (lit "queue capacity must be positive")
  else
    let _ ← Normalizer.create args.config
    if .null ∈ args.processors then
      .error (lit "processing pipeline contains a null processor")
    else
      validateAndConfigure args
      if args.config.controlQueueCapacity = 0 then
        .error (lit "control queue capacity must be positive")
      else if .null ∈ args.deviceControlSources then
        .error (lit "device control source list contains a null source")
      else .ok ()

/-- A runtime's members: arguments that the constructor accepted. -/
structure RuntimeParts extends RuntimeArguments where
  accepted : checkRuntime toRuntimeArguments = .ok ()

/-! ### What the constructor guarantees -/

theorem checkDrivers_ok {devices : List DeviceConfig} {driverDevices : List ByteString}
    {drivers : List DriverInstance} (h : checkDrivers devices driverDevices drivers = .ok ()) :
    (∀ item ∈ drivers, item.driver.isSome = true ∧
      item.deviceId ∉ driverDevices) ∧ (drivers.map DriverInstance.deviceId).Nodup := by
  induction drivers generalizing driverDevices with
  | nil => simp
  | cons first rest ih =>
    simp only [checkDrivers] at h
    split_ifs at h with hempty hseen hunknown
    rw [not_or] at hempty
    obtain ⟨hrest, hnodup⟩ := ih h
    refine ⟨?_, ?_⟩
    · intro item hmem
      rcases List.mem_cons.mp hmem with rfl | hmem
      · exact ⟨Option.isSome_iff_ne_none.mpr hempty.2, hseen⟩
      · obtain ⟨hdriver, hnew⟩ := hrest item hmem
        exact ⟨hdriver, fun hold => hnew (List.mem_cons_of_mem _ hold)⟩
    · rw [List.map_cons, List.nodup_cons]
      refine ⟨fun hmem => ?_, hnodup⟩
      obtain ⟨item, hin, heq⟩ := List.mem_map.mp hmem
      exact (hrest item hin).2 (by simp [heq])

theorem checkGroups_ok {modes : List (ByteString × AcquisitionMode)} {groupIds : List ByteString}
    {groups : List CollectionGroup} (h : checkGroups modes groupIds groups = .ok ()) :
    (∀ group ∈ groups, group.id ≠ [] ∧ group.id ∉ groupIds ∧ 0 < group.interval ∧
      0 < group.timeout ∧ modes.lookup group.deviceId = some .poll) ∧
      (groups.map CollectionGroup.id).Nodup := by
  induction groups generalizing groupIds with
  | nil => simp
  | cons first rest ih =>
    simp only [checkGroups] at h
    split_ifs at h with hid hpositive hmode
    rw [not_or] at hid hpositive
    obtain ⟨hrest, hnodup⟩ := ih h
    refine ⟨?_, ?_⟩
    · intro group hmem
      rcases List.mem_cons.mp hmem with rfl | hmem
      · exact ⟨hid.1, hid.2, by omega, by omega, not_not.mp hmode⟩
      · obtain ⟨hempty, hnew, hlater⟩ := hrest group hmem
        exact ⟨hempty, fun hold => hnew (List.mem_cons_of_mem _ hold), hlater⟩
    · rw [List.map_cons, List.nodup_cons]
      refine ⟨fun hmem => ?_, hnodup⟩
      obtain ⟨group, hin, heq⟩ := List.mem_map.mp hmem
      exact (hrest group hin).2.1 (by simp [heq])

/-! ### Lookups -/

/-- `find_driver_ptr`: the first driver instance of the device. -/
def findDriverPtr (drivers : List DriverInstance) (deviceId : ByteString) : Option ℕ :=
  drivers.findIdx? fun item => item.deviceId == deviceId

/-- `find_driver`, which throws where `find_driver_ptr` returns null. -/
def findDriver (drivers : List DriverInstance) (deviceId : ByteString) : Except ByteString ℕ :=
  match findDriverPtr drivers deviceId with
  | some index => .ok index
  | none => .error (lit "group references device without driver: " ++ deviceId)

/-- `find_io_gate`. -/
def findIoGate (drivers : List DriverInstance) (deviceId : ByteString) : Option ℕ :=
  (ioGates drivers).lookup deviceId

/-- `find_group`. -/
def findGroup (groups : List CollectionGroup) (groupId : ByteString) :
    Except ByteString CollectionGroup :=
  match groups.find? fun group => group.id == groupId with
  | some group => .ok group
  | none => .error (lit "scheduled collection group was not found: " ++ groupId)

/-- **The gate of a device is the gate of its driver**: both lookups, over the list and over the
map, end at the same instance. -/
theorem findIoGate_eq (drivers : List DriverInstance) (deviceId : ByteString) :
    findIoGate drivers deviceId = findDriverPtr drivers deviceId := by
  suffices h : ∀ (index : ℕ) (gates : List (ByteString × ℕ)),
      ((drivers.zipIdx index).foldl (fun gates entry => emplace gates entry.1.deviceId entry.2)
        gates).lookup deviceId =
      (gates.lookup deviceId).or ((findDriverPtr drivers deviceId).map (· + index)) by
    unfold findIoGate ioGates
    rw [h 0 []]
    simp
  induction drivers with
  | nil => simp [findDriverPtr]
  | cons first rest ih =>
    intro index gates
    rw [List.zipIdx_cons, List.foldl_cons, ih, lookup_emplace]
    simp only [findDriverPtr, List.findIdx?_cons, beq_iff_eq]
    by_cases hid : first.deviceId = deviceId
    · subst hid
      cases gates.lookup first.deviceId <;> simp
    · rw [if_neg (Ne.symm hid), if_neg hid, Option.or_none, Option.map_map]
      congr 2
      funext i
      simp only [Function.comp_apply]
      omega

theorem findDriverPtr_some {drivers : List DriverInstance} {deviceId : ByteString} {index : ℕ}
    (h : findDriverPtr drivers deviceId = some index) :
    ∃ item, drivers[index]? = some item ∧ item.deviceId = deviceId := by
  obtain ⟨hlt, hid, -⟩ := List.findIdx?_eq_some_iff_getElem.mp h
  exact ⟨drivers[index], List.getElem?_eq_getElem hlt, by simpa using hid⟩

/-- `driver_modes_` holds the mode of every driver whose id is its own. -/
theorem driverModes_lookup {drivers : List DriverInstance}
    (hnodup : (drivers.map DriverInstance.deviceId).Nodup) {item : DriverInstance}
    (hmem : item ∈ drivers) (hdriver : item.driver.isSome = true) :
    (driverModes drivers).lookup item.deviceId = item.driver := by
  suffices h : ∀ modes : List (ByteString × AcquisitionMode),
      modes.lookup item.deviceId = none →
      (drivers.foldl (fun modes other =>
        match other.driver with
        | some mode => emplace modes other.deviceId mode
        | none => modes) modes).lookup item.deviceId = item.driver from h [] rfl
  -- later drivers cannot change a mode that is there
  have hkeep : ∀ (rest : List DriverInstance) (modes : List (ByteString × AcquisitionMode)),
      modes.lookup item.deviceId = item.driver →
      (rest.foldl (fun modes other =>
        match other.driver with
        | some mode => emplace modes other.deviceId mode
        | none => modes) modes).lookup item.deviceId = item.driver := by
    intro rest
    induction rest with
    | nil => exact fun _ h => h
    | cons other rest ih =>
      intro modes hmodes
      rw [List.foldl_cons]
      refine ih _ ?_
      cases other.driver with
      | none => exact hmodes
      | some mode =>
        show (emplace modes other.deviceId mode).lookup _ = _
        rw [lookup_emplace, hmodes]
        obtain ⟨own, hown⟩ := Option.isSome_iff_exists.mp hdriver
        rw [hown, Option.some_or]
  induction drivers with
  | nil => simp at hmem
  | cons first rest ih =>
    intro modes hmodes
    rw [List.map_cons, List.nodup_cons] at hnodup
    rw [List.foldl_cons]
    rcases List.mem_cons.mp hmem with rfl | hmem
    · refine hkeep rest _ ?_
      obtain ⟨own, hown⟩ := Option.isSome_iff_exists.mp hdriver
      rw [hown]
      show (emplace modes item.deviceId own).lookup _ = _
      rw [lookup_emplace, hmodes, if_pos rfl, Option.none_or]
    · refine ih hnodup.2 hmem _ ?_
      cases first.driver with
      | none => exact hmodes
      | some mode =>
        show (emplace modes first.deviceId mode).lookup _ = _
        rw [lookup_emplace, hmodes, if_neg, Option.none_or]
        rintro heq
        exact hnodup.1 (heq ▸ List.mem_map_of_mem hmem)

/-! ### The schedule -/

/-- The tasks that `start` makes of the groups. -/
def GatewayConfig.scheduleTasks (config : GatewayConfig) (startTime : ℤ) : List ScheduleTask :=
  config.groups.mapIdx fun index group =>
    { groupId := group.id
      interval := group.interval
      nextDue := startTime + group.interval * nanosecondsPerMillisecond
      stableOrder := index }

/-- Validated groups pass the constructor of the policy. -/
theorem GatewayConfig.checkTasks_scheduleTasks {config : GatewayConfig}
    {modes : List (ByteString × AcquisitionMode)}
    (h : checkGroups modes [] config.groups = .ok ()) (startTime : ℤ) :
    checkTasks [] (config.scheduleTasks startTime) = .ok () := by
  obtain ⟨hgroups, hnodup⟩ := checkGroups_ok h
  refine checkTasks_eq_ok (fun task hmem => ?_) ?_
  · obtain ⟨index, hindex, rfl⟩ := List.mem_mapIdx.mp hmem
    obtain ⟨hid, -, hinterval, -⟩ := hgroups _ (List.getElem_mem hindex)
    exact ⟨hid, hinterval, List.not_mem_nil⟩
  · have hids : (config.scheduleTasks startTime).map ScheduleTask.groupId =
        config.groups.map CollectionGroup.id := by
      unfold scheduleTasks
      refine List.ext_getElem (by simp) fun i _ _ => ?_
      simp
    rwa [hids]

namespace RuntimeParts

variable (parts : RuntimeParts)

/-- The constructor. -/
def create (args : RuntimeArguments) : Except ByteString RuntimeParts :=
  match h : checkRuntime args with
  | .error what => .error what
  | .ok () => .ok { args with accepted := h }

/-- The parts passed every check of the constructor. -/
theorem checks : checkDevices [] parts.config.devices = .ok () ∧
    checkDrivers parts.config.devices [] parts.drivers = .ok () ∧
    checkGroups (driverModes parts.drivers) [] parts.config.groups = .ok () ∧
    0 < parts.config.controlQueueCapacity := by
  have h := parts.accepted
  unfold checkRuntime at h
  by_cases hcapacity : parts.config.rawQueueCapacity = 0
  · simp [hcapacity] at h
  rw [if_neg hcapacity] at h
  obtain ⟨normalizer, hnormalizer, h⟩ := bind_eq_ok.mp h
  by_cases hprocessors : PluginPointer.null ∈ parts.processors
  · simp [hprocessors] at h
  rw [if_neg hprocessors] at h
  obtain ⟨_, hvalid, h⟩ := bind_eq_ok.mp h
  have hcontrol : parts.config.controlQueueCapacity ≠ 0 := by
    intro hzero
    simp [hzero] at h
  obtain ⟨_, hdrivers, hvalid⟩ := bind_eq_ok.mp hvalid
  by_cases hcount : parts.drivers.length ≠ parts.config.devices.length
  · simp [hcount] at hvalid
  rw [if_neg hcount] at hvalid
  obtain ⟨_, hgroups, hvalid⟩ := bind_eq_ok.mp hvalid
  refine ⟨?_, hdrivers, hgroups, Nat.pos_of_ne_zero hcontrol⟩
  have hdevices := normalizer.accepted
  rwa [Normalizer.create_devices hnormalizer] at hdevices

theorem driver_isSome {item : DriverInstance} (h : item ∈ parts.drivers) :
    item.driver.isSome = true :=
  ((checkDrivers_ok parts.checks.2.1).1 item h).1

theorem drivers_nodup : (parts.drivers.map DriverInstance.deviceId).Nodup :=
  (checkDrivers_ok parts.checks.2.1).2

/-- The `normalizer_` member. -/
def normalizer : Normalizer where
  devices := parts.config.devices
  accepted := parts.checks.1

/-- The tasks that `start` makes of the groups. -/
def scheduleTasks (startTime : ℤ) : List ScheduleTask := parts.config.scheduleTasks startTime

/-- Validated groups pass the constructor of the policy. -/
theorem checkTasks_scheduleTasks (startTime : ℤ) :
    checkTasks [] (parts.scheduleTasks startTime) = .ok () :=
  GatewayConfig.checkTasks_scheduleTasks parts.checks.2.2.1 startTime

/-- The policy that `start` builds; no validated configuration makes its constructor throw. -/
def schedulePolicy (startTime : ℤ) : FixedIntervalSequentialPolicy where
  tasks := parts.scheduleTasks startTime
  accepted := parts.checkTasks_scheduleTasks startTime

end RuntimeParts

end MiniGateway
