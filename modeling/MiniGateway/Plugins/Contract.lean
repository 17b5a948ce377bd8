/-
  The contract of the plugin registry.

  The four loops of `load_dynamic_plugins` run one loading routine for each entry whose plugin is to
  be available; `loaded` carries the invariant of one entry through them.  From it follow what
  `create` does afterwards (`loading`), and exactly when no file serves two keys (`oneKeyPerFile`).
-/
import MiniGateway.Plugins.Loaded

namespace MiniGateway

variable {Raw : Type} {Plugin : PluginKind → Type}

open Throwing (Returns returns_bind bind_eq_ok bind_eq_error)

/-! ### The four loops -/

/-- The driver of a device. -/
def driverRequest (device : DeviceConfig) : LoadRequest :=
  ⟨.driver, device.driver.type, device.driver.library⟩

/-- An entry of a list. -/
def pluginRequest (kind : PluginKind) (spec : PluginConfig) : LoadRequest :=
  ⟨kind, spec.type, spec.library⟩

/-- The entries whose plugin is to be available, in the order of the loops. -/
def requests (config : ApplicationConfig) : List LoadRequest :=
  config.gateway.devices.map driverRequest ++
    (config.processors.filter (·.enabled)).map (pluginRequest .processor) ++
    (config.eventPublishers.filter (·.enabled)).map (pluginRequest .eventPublisher) ++
    (config.deviceControlSources.filter (·.enabled)).map (pluginRequest .deviceControlSource)

/-- The configuration without its disabled entries. -/
def ApplicationConfig.enabledOnly (config : ApplicationConfig) : ApplicationConfig :=
  { config with
    processors := config.processors.filter (·.enabled)
    eventPublishers := config.eventPublishers.filter (·.enabled)
    deviceControlSources := config.deviceControlSources.filter (·.enabled) }

/-- A registry on which only the four registering functions have been called. -/
def PluginRegistry.registered (factories : ∀ kind, ByteString → Option (Factory (Plugin kind))) :
    PluginRegistry Raw Plugin :=
  { factories }

/-- A loop over entries, each of which runs the loading routine. -/
private theorem Loaded.forM {α : Type} (request : α → LoadRequest) {platform : Platform Raw Plugin}
    {initial registry registry' : PluginRegistry Raw Plugin} {items : List α}
    {done : List LoadRequest} (h : Loaded platform initial done registry)
    (hreturns : Returns (items.forM fun item =>
      loadLibrary platform (request item).kind (request item).type (request item).library)
      registry () registry') :
    Loaded platform initial (done ++ items.map request) registry' := by
  have hround : ∀ (seen : List α) (item : α) (s s' : PluginRegistry Raw Plugin),
      Loaded platform initial (done ++ seen.map request) s →
      Returns (loadLibrary platform (request item).kind (request item).type (request item).library)
        s () s' →
      Loaded platform initial (done ++ (seen ++ [item]).map request) s' := by
    intro seen item s s' hs hload
    have hstep := hs.step (loadLibrary_returns hload)
    rwa [List.append_assoc, ← List.map_singleton, ← List.map_append] at hstep
  have hstart : Loaded platform initial (done ++ [].map request) registry := by
    rwa [List.map_nil, List.append_nil]
  exact Returns.forM hround hreturns hstart

/-- The entries that a loop skips. -/
private theorem forM_enabled {platform : Platform Raw Plugin} (kind : PluginKind)
    (specs : List PluginConfig) :
    (specs.forM fun spec =>
        if spec.enabled then loadLibrary platform kind spec.type spec.library else pure ()) =
      (specs.filter (·.enabled)).forM fun spec =>
        loadLibrary platform (pluginRequest kind spec).kind (pluginRequest kind spec).type
          (pluginRequest kind spec).library :=
  (Throwing.forM_filter (fun spec : PluginConfig => spec.enabled) _ specs).symm

/-- **The invariant of the loops** holds when `load_dynamic_plugins` returns. -/
theorem loaded {platform : Platform Raw Plugin}
    {factories : ∀ kind, ByteString → Option (Factory (Plugin kind))} {config : ApplicationConfig}
    {registry : PluginRegistry Raw Plugin}
    (h : Returns (loadDynamicPlugins platform config) (.registered factories) () registry) :
    Loaded platform (.registered factories) (requests config) registry := by
  unfold loadDynamicPlugins at h
  obtain ⟨r, s, hget, h⟩ := returns_bind.mp h
  obtain ⟨rfl, rfl⟩ := Throwing.returns_get.mp hget
  split_ifs at h with hcalled
  · exact absurd h (by simp)
  · obtain ⟨⟨⟩, s₀, hmark, h⟩ := returns_bind.mp h
    obtain ⟨⟨⟩, s₁, hdrivers, h⟩ := returns_bind.mp h
    obtain ⟨⟨⟩, s₂, hprocessors, h⟩ := returns_bind.mp h
    obtain ⟨⟨⟩, s₃, hpublishers, hsources⟩ := returns_bind.mp h
    have hfresh : s₀.Fresh := by
      rw [← Throwing.returns_modify.mp hmark]
      exact ⟨rfl, fun _ => rfl, fun _ => rfl⟩
    have hfactories : s₀.factories =
        (PluginRegistry.registered factories : PluginRegistry Raw Plugin).factories := by
      rw [← Throwing.returns_modify.mp hmark]
    have h₀ : Loaded platform (.registered factories) [] s₀ := .nil hfresh hfactories
    have h₁ := h₀.forM driverRequest hdrivers
    have h₂ := h₁.forM (pluginRequest .processor) ((forM_enabled .processor _) ▸ hprocessors)
    have h₃ := h₂.forM (pluginRequest .eventPublisher)
      ((forM_enabled .eventPublisher _) ▸ hpublishers)
    exact h₃.forM (pluginRequest .deviceControlSource)
      ((forM_enabled .deviceControlSource _) ▸ hsources)

/-- Disabled entries change nothing, not even what is thrown. -/
theorem loadDynamicPlugins_enabledOnly (platform : Platform Raw Plugin)
    (config : ApplicationConfig) :
    loadDynamicPlugins platform config.enabledOnly = loadDynamicPlugins platform config := by
  have hskip : ∀ (kind : PluginKind) (specs : List PluginConfig),
      ((specs.filter (·.enabled)).forM fun spec =>
          if spec.enabled then loadLibrary platform kind spec.type spec.library else pure ()) =
        specs.forM fun spec =>
          if spec.enabled then loadLibrary platform kind spec.type spec.library else pure () := by
    intro kind specs
    rw [forM_enabled, forM_enabled, List.filter_filter]
    simp
  unfold loadDynamicPlugins loadProcessor loadPublisher loadControlSource
  simp only [ApplicationConfig.enabledOnly, hskip]

/-! ### Creating the instances -/

/-- The plugin was built for this entry. -/
structure BuiltFor (platform : Platform Raw Plugin)
    (factories : ∀ kind, ByteString → Option (Factory (Plugin kind)))
    (registry : PluginRegistry Raw Plugin) (request : LoadRequest) (settings : ByteString)
    (plugin : Plugin request.kind) : Prop where
  /-- By the factory of its own type in its own category, from its own settings. -/
  factory : ∃ factory, registry.factories request.kind request.type = some factory ∧
    factory settings = .ok (some plugin)
  /-- That is the pre-registered one if there was one. -/
  preregistered : ∀ factory, factories request.kind request.type = some factory →
    factory settings = .ok (some plugin)
  /-- Otherwise it calls the entry's own library. -/
  library : request.library ≠ [] → ∃ loader ∈ registry.dynamicPlugins, ∃ create raw,
    pathName loader.path = pathName request.library ∧ loader.library.createPlugin = some create ∧
      create (settings.takeWhile (· != 0)) = .object raw ∧
      plugin = platform.adapter request.kind loader raw

/-- The instances are those of the configuration, in its order. -/
structure InstancesOf (platform : Platform Raw Plugin)
    (factories : ∀ kind, ByteString → Option (Factory (Plugin kind)))
    (registry : PluginRegistry Raw Plugin) (config : ApplicationConfig)
    (instances : PluginInstances Plugin) : Prop where
  drivers : List.Forall₂ (fun device driver => driver.1 = device.id ∧
      BuiltFor platform factories registry (driverRequest device) device.driver.settingsJson
        driver.2) config.gateway.devices instances.drivers
  processors : List.Forall₂ (fun spec =>
      BuiltFor platform factories registry (pluginRequest .processor spec) spec.settingsJson)
    (config.processors.filter (·.enabled)) instances.processors
  eventPublishers : List.Forall₂ (fun spec publisher => publisher.1 = spec.id ∧
      BuiltFor platform factories registry (pluginRequest .eventPublisher spec) spec.settingsJson
        publisher.2) (config.eventPublishers.filter (·.enabled)) instances.eventPublishers
  sources : List.Forall₂ (fun spec =>
      BuiltFor platform factories registry (pluginRequest .deviceControlSource spec)
        spec.settingsJson)
    (config.deviceControlSources.filter (·.enabled)) instances.sources

theorem instantiate_ok {registry : PluginRegistry Raw Plugin} {kind : PluginKind}
    {type settings : ByteString} {plugin : Plugin kind}
    (h : registry.instantiate kind type settings = .ok plugin) :
    ∃ factory, registry.factories kind type = some factory ∧
      factory settings = .ok (some plugin) := by
  unfold PluginRegistry.instantiate at h
  split at h
  · cases h
  · rename_i factory hfactory
    split at h
    · cases h
    · cases h
    · rename_i plugin' hplugin
      obtain rfl := Except.ok.inj h
      exact ⟨factory, hfactory, hplugin⟩

theorem instantiate_unknownType {registry : PluginRegistry Raw Plugin}
    {kind kind' : PluginKind} {type type' settings : ByteString}
    (h : registry.instantiate kind type settings = .error (.unknownType kind' type')) :
    registry.factories kind type = none := by
  unfold PluginRegistry.instantiate at h
  split at h
  · assumption
  · split at h <;> cases h

/-- What the factory of a dynamically loaded type has built. -/
theorem dynamicFactory_ok {platform : Platform Raw Plugin} {kind : PluginKind}
    {loader : DynamicPluginLoader Raw} {create : ByteString → CreateOutcome Raw}
    {type settings : ByteString} {plugin : Plugin kind}
    (h : dynamicFactory platform kind loader create type settings = .ok (some plugin)) :
    ∃ raw, create (settings.takeWhile (· != 0)) = .object raw ∧
      plugin = platform.adapter kind loader raw := by
  unfold dynamicFactory at h
  split at h
  · cases h
  · cases h
  · cases h
  · rename_i raw hraw
    exact ⟨raw, hraw, (Option.some.inj (Except.ok.inj h)).symm⟩

section Creating

variable {platform : Platform Raw Plugin}
  {factories : ∀ kind, ByteString → Option (Factory (Plugin kind))} {done : List LoadRequest}
  {registry : PluginRegistry Raw Plugin}

private theorem Loaded.builtFor (h : Loaded platform (.registered factories) done registry)
    {request : LoadRequest} (hin : request ∈ done) {settings : ByteString}
    {plugin : Plugin request.kind}
    (hplugin : registry.instantiate request.kind request.type settings = .ok plugin) :
    BuiltFor platform factories registry request settings plugin := by
  obtain ⟨factory, hfactory, hbuilt⟩ := instantiate_ok hplugin
  refine ⟨⟨factory, hfactory, hbuilt⟩, ?_, ?_⟩
  · intro initial hinitial
    have hkept := h.kept request.kind request.type initial hinitial
    rw [hfactory] at hkept
    rwa [← Option.some.inj hkept]
  · intro hlibrary
    obtain ⟨path, hpath, hsame⟩ := h.source request hin hlibrary
    obtain ⟨loader, hloader, create, rfl, hexported, hserved⟩ :=
      h.served request.kind request.type path hpath
    rw [hfactory] at hserved
    rw [Option.some.inj hserved] at hbuilt
    obtain ⟨raw, hraw, hobject⟩ := dynamicFactory_ok hbuilt
    exact ⟨loader, hloader, create, raw, hsame, hexported, hraw, hobject⟩

private theorem Loaded.known (h : Loaded platform (.registered factories) done registry)
    {request : LoadRequest} (hin : request ∈ done) {settings : ByteString} {kind : PluginKind}
    {type : ByteString} :
    registry.instantiate request.kind request.type settings ≠ .error (.unknownType kind type) := by
  intro hunknown
  have havailable := h.available request hin
  rw [instantiate_unknownType hunknown] at havailable
  cases havailable

end Creating

theorem driverRequest_mem {config : ApplicationConfig} {device : DeviceConfig}
    (h : device ∈ config.gateway.devices) : driverRequest device ∈ requests config := by
  simp only [requests, List.mem_append]
  exact .inl (.inl (.inl (List.mem_map_of_mem h)))

theorem processorRequest_mem {config : ApplicationConfig} {spec : PluginConfig}
    (h : spec ∈ config.processors.filter (·.enabled)) :
    pluginRequest .processor spec ∈ requests config := by
  simp only [requests, List.mem_append]
  exact .inl (.inl (.inr (List.mem_map_of_mem h)))

theorem publisherRequest_mem {config : ApplicationConfig} {spec : PluginConfig}
    (h : spec ∈ config.eventPublishers.filter (·.enabled)) :
    pluginRequest .eventPublisher spec ∈ requests config := by
  simp only [requests, List.mem_append]
  exact .inl (.inr (List.mem_map_of_mem h))

theorem sourceRequest_mem {config : ApplicationConfig} {spec : PluginConfig}
    (h : spec ∈ config.deviceControlSources.filter (·.enabled)) :
    pluginRequest .deviceControlSource spec ∈ requests config := by
  simp only [requests, List.mem_append]
  exact .inr (List.mem_map_of_mem h)

section Creating

variable {platform : Platform Raw Plugin}
  {factories : ∀ kind, ByteString → Option (Factory (Plugin kind))} {config : ApplicationConfig}
  {registry : PluginRegistry Raw Plugin}

/-- What `create` returns after loading. -/
private theorem Loaded.created (h : Loaded platform (.registered factories) (requests config) registry)
    {instances : PluginInstances Plugin} (hcreate : registry.create config = .ok instances) :
    InstancesOf platform factories registry config instances := by
  simp only [PluginRegistry.create, bind_eq_ok] at hcreate
  obtain ⟨drivers, hdrivers, processors, hprocessors, publishers, hpublishers, sources, hsources,
    hinstances⟩ := hcreate
  obtain rfl := Except.ok.inj hinstances
  refine ⟨?_, ?_, ?_, ?_⟩
  · refine Throwing.forall₂_of_mapM hdrivers fun device hin driver hdriver => ?_
    obtain ⟨plugin, hplugin, hpair⟩ := bind_eq_ok.mp hdriver
    obtain rfl := Except.ok.inj hpair
    exact ⟨rfl, h.builtFor (driverRequest_mem hin) hplugin⟩
  · refine Throwing.forall₂_of_mapM hprocessors fun spec hin plugin hplugin => ?_
    exact h.builtFor (processorRequest_mem hin) hplugin
  · refine Throwing.forall₂_of_mapM hpublishers fun spec hin publisher hpublisher => ?_
    obtain ⟨plugin, hplugin, hpair⟩ := bind_eq_ok.mp hpublisher
    obtain rfl := Except.ok.inj hpair
    exact ⟨rfl, h.builtFor (publisherRequest_mem hin) hplugin⟩
  · refine Throwing.forall₂_of_mapM hsources fun spec hin plugin hplugin => ?_
    exact h.builtFor (sourceRequest_mem hin) hplugin

/-- `create` finds a factory for every entry. -/
private theorem Loaded.create_ne_unknownType
    (h : Loaded platform (.registered factories) (requests config) registry) (kind : PluginKind)
    (type : ByteString) : registry.create config ≠ .error (.unknownType kind type) := by
  intro hcreate
  simp only [PluginRegistry.create, bind_eq_error] at hcreate
  rcases hcreate with hdrivers | ⟨_, -, hprocessors | ⟨_, -, hpublishers | ⟨_, -, hsources |
    ⟨_, -, hend⟩⟩⟩⟩
  · obtain ⟨device, hin, hdriver⟩ := Throwing.error_of_mapM hdrivers
    rcases bind_eq_error.mp hdriver with hunknown | ⟨_, -, hend⟩
    · exact h.known (driverRequest_mem hin) hunknown
    · cases hend
  · obtain ⟨spec, hin, hunknown⟩ := Throwing.error_of_mapM hprocessors
    exact h.known (processorRequest_mem hin) hunknown
  · obtain ⟨spec, hin, hpublisher⟩ := Throwing.error_of_mapM hpublishers
    rcases bind_eq_error.mp hpublisher with hunknown | ⟨_, -, hend⟩
    · exact h.known (publisherRequest_mem hin) hunknown
    · cases hend
  · obtain ⟨spec, hin, hunknown⟩ := Throwing.error_of_mapM hsources
    exact h.known (sourceRequest_mem hin) hunknown
  · cases hend

/-- The loaders are those of the libraries named by the entries. -/
private theorem Loaded.loaders (h : Loaded platform (.registered factories) (requests config) registry)
    (name : PathName) :
    (∃ loader ∈ registry.dynamicPlugins, pathName loader.path = name) ↔
      ∃ request ∈ requests config, request.library ≠ [] ∧ pathName request.library = name := by
  constructor
  · rintro ⟨loader, hin, rfl⟩
    obtain ⟨key, hkey⟩ := h.loader loader hin
    obtain ⟨request, hrequest, -, hpath, hlibrary⟩ := h.requested key loader.path hkey
    exact ⟨request, hrequest, hlibrary, by rw [hpath]⟩
  · rintro ⟨request, hin, hlibrary, rfl⟩
    obtain ⟨path, hpath, hsame⟩ := h.source request hin hlibrary
    obtain ⟨loader, hloader, -, rfl, -⟩ := h.served request.kind request.type path hpath
    exact ⟨loader, hloader, hsame⟩

/-- What loading a configuration promises, to the creation of its instances above all. -/
structure LoadContract (platform : Platform Raw Plugin)
    (factories : ∀ kind, ByteString → Option (Factory (Plugin kind))) (config : ApplicationConfig)
    (registry : PluginRegistry Raw Plugin) : Prop where
  owner : ∀ key path, registry.dynamicPluginSources key = some path →
    registry.dynamicLibraryOwners (pathName path) = some key
  owned : ∀ name key, registry.dynamicLibraryOwners name = some key →
    ∃ path, registry.dynamicPluginSources key = some path ∧ pathName path = name
  /-- One loader for each path that an entry names. -/
  distinct : (registry.dynamicPlugins.map fun loader => pathName loader.path).Nodup
  loaders : ∀ name, (∃ loader ∈ registry.dynamicPlugins, pathName loader.path = name) ↔
    ∃ request ∈ requests config, request.library ≠ [] ∧ pathName request.library = name
  /-- Without the disabled entries the same would have been loaded. -/
  disabled : Returns (loadDynamicPlugins platform config.enabledOnly) (.registered factories) ()
    registry
  known : ∀ kind type, registry.create config ≠ .error (.unknownType kind type)
  created : ∀ instances, registry.create config = .ok instances →
    InstancesOf platform factories registry config instances

/-- **Loading makes creation total and faithful to the order.** -/
theorem loading (h : Returns (loadDynamicPlugins platform config) (.registered factories) () registry) :
    LoadContract platform factories config registry where
  owner := (loaded h).owner
  owned := (loaded h).owned
  distinct := (loaded h).distinct
  loaders := (loaded h).loaders
  disabled := by
    rw [loadDynamicPlugins_enabledOnly]
    exact h
  known := (loaded h).create_ne_unknownType
  created _ hcreate := (loaded h).created hcreate

end Creating

/-! ### A platform -/

/-- Every library opens, and makes an object for any settings. -/
def openingPlatform : Platform Unit fun _ => Unit where
  load _ := .ok { createPlugin := some fun _ => .object (), destroyPlugin := true }
  adapter _ _ _ := ()

/-- A driver and a processor from these libraries, and a publisher that is disabled. -/
def librariesConfig (driver processor : ByteString) : ApplicationConfig where
  runDuration := none
  gateway :=
    { rawQueueCapacity := 1
      controlQueueCapacity := 1
      devices :=
        [{ id := lit "a"
           driver := { type := lit "modbus", settingsJson := lit "[]", library := driver }
           connection := []
           points := [] }]
      groups := [] }
  processors :=
    [{ id := lit "b", type := lit "threshold", enabled := true, settingsJson := lit "[]",
       library := processor }]
  eventPublishers :=
    [{ id := lit "c", type := lit "mqtt", enabled := false, settingsJson := lit "[]",
       library := driver }]
  deviceControlSources := []

theorem loading_librariesConfig : ∃ registry,
    Returns (loadDynamicPlugins openingPlatform
      (librariesConfig (lit "plugins/a.so") (lit "plugins/b.so"))) (.registered fun _ _ => none) ()
      registry ∧
    LoadContract openingPlatform (fun _ _ => none)
      (librariesConfig (lit "plugins/a.so") (lit "plugins/b.so")) registry := by
  have hok : ((loadDynamicPlugins openingPlatform
      (librariesConfig (lit "plugins/a.so") (lit "plugins/b.so"))).run.run
      (.registered fun _ _ => none)).1.isOk = true := by decide +kernel
  obtain ⟨registry, h⟩ := Throwing.exists_returns hok
  exact ⟨registry, h, loading h⟩

/-! ### One key for each file -/

/-- The type is served by this library. -/
structure PluginRegistry.Serves (platform : Platform Raw Plugin)
    (registry : PluginRegistry Raw Plugin) (loader : DynamicPluginLoader Raw) (kind : PluginKind)
    (type : ByteString) : Prop where
  mem : loader ∈ registry.dynamicPlugins
  source : registry.dynamicPluginSources (sourceKey kind type) = some loader.path
  factory : ∃ create, loader.library.createPlugin = some create ∧
    registry.factories kind type = some (dynamicFactory platform kind loader create type)

/-- No file serves two keys; `resolve` is the file that the platform opens for a path. -/
def OneKeyPerFile {File : Type} (resolve : ByteString → File) (platform : Platform Raw Plugin)
    (registry : PluginRegistry Raw Plugin) : Prop :=
  ∀ loader kind type loader' kind' type', registry.Serves platform loader kind type →
    registry.Serves platform loader' kind' type' → resolve loader.path = resolve loader'.path →
    kind = kind' ∧ type = type'

/-- The paths of one file compare equal. -/
def OneSpelling {File : Type} (resolve : ByteString → File) (config : ApplicationConfig) : Prop :=
  ∀ request ∈ requests config, ∀ request' ∈ requests config, request.library ≠ [] →
    request'.library ≠ [] → resolve request.library = resolve request'.library →
    pathName request.library = pathName request'.library

section Files

variable {platform : Platform Raw Plugin}
  {factories : ∀ kind, ByteString → Option (Factory (Plugin kind))} {config : ApplicationConfig}
  {registry : PluginRegistry Raw Plugin}

private theorem Loaded.serves
    (h : Loaded platform (.registered factories) (requests config) registry)
    {request : LoadRequest} (hin : request ∈ requests config) (hlibrary : request.library ≠ []) :
    ∃ loader, registry.Serves platform loader request.kind request.type ∧
      pathName loader.path = pathName request.library := by
  obtain ⟨path, hpath, hsame⟩ := h.source request hin hlibrary
  obtain ⟨loader, hloader, create, rfl, hexported, hfactory⟩ :=
    h.served request.kind request.type path hpath
  exact ⟨loader, ⟨hloader, hpath, create, hexported, hfactory⟩, hsame⟩

/-- **No file serves two keys exactly when no file is named by two different paths.** -/
theorem oneKeyPerFile {File : Type} {resolve : ByteString → File}
    (hresolve : ∀ path path' : ByteString,
      (pathName path).lexicallyNormal = (pathName path').lexicallyNormal →
        resolve path = resolve path')
    (h : Returns (loadDynamicPlugins platform config) (.registered factories) () registry) :
    OneKeyPerFile resolve platform registry ↔ OneSpelling resolve config := by
  have hloaded := loaded h
  constructor
  · intro hone request hin request' hin' hlibrary hlibrary' hfile
    obtain ⟨loader, hserves, hsame⟩ := hloaded.serves hin hlibrary
    obtain ⟨loader', hserves', hsame'⟩ := hloaded.serves hin' hlibrary'
    have hresolved : resolve loader.path = resolve loader'.path := by
      rw [hresolve loader.path request.library (by rw [hsame]), hfile,
        hresolve request'.library loader'.path (by rw [hsame'])]
    -- two entries of one key have one path
    obtain ⟨hkind, htype⟩ := hone _ _ _ _ _ _ hserves hserves' hresolved
    have hsource := hserves.source
    rw [hkind, htype, hserves'.source] at hsource
    rw [← hsame, ← hsame', Option.some.inj hsource]
  · intro hspelling loader kind type loader' kind' type' hserves hserves' hfile
    obtain ⟨request, hin, hkey, hpath, hlibrary⟩ := hloaded.requested _ _ hserves.source
    obtain ⟨request', hin', hkey', hpath', hlibrary'⟩ := hloaded.requested _ _ hserves'.source
    have hsame : pathName loader.path = pathName loader'.path := by
      rw [← hpath, ← hpath'] at hfile ⊢
      exact hspelling request hin request' hin' hlibrary hlibrary' hfile
    -- one path has one owner
    have howner := hloaded.owner _ _ hserves.source
    rw [hsame, hloaded.owner _ _ hserves'.source] at howner
    exact sourceKey_inj (Option.some.inj howner).symm

end Files

theorem oneKeyPerFile_librariesConfig : ∃ registry,
    Returns (loadDynamicPlugins openingPlatform
      (librariesConfig (lit "plugins/a.so") (lit "plugins/b.so"))) (.registered fun _ _ => none) ()
      registry ∧
    (OneKeyPerFile (fun path => (pathName path).lexicallyNormal) openingPlatform registry ↔
      OneSpelling (fun path => (pathName path).lexicallyNormal)
        (librariesConfig (lit "plugins/a.so") (lit "plugins/b.so"))) := by
  have hok : ((loadDynamicPlugins openingPlatform
      (librariesConfig (lit "plugins/a.so") (lit "plugins/b.so"))).run.run
      (.registered fun _ _ => none)).1.isOk = true := by decide +kernel
  obtain ⟨registry, h⟩ := Throwing.exists_returns hok
  exact ⟨registry, h, oneKeyPerFile (fun _ _ hnormal => hnormal) h⟩

/-- `x.so` is opened for a driver and `./x.so` for a processor. -/
theorem x_so_served_twice : ∃ registry,
    Returns (loadDynamicPlugins openingPlatform (librariesConfig (lit "x.so") (lit "./x.so")))
      (.registered fun _ _ => none) () registry ∧
    ¬ OneKeyPerFile (fun path => (pathName path).lexicallyNormal) openingPlatform registry := by
  have hok : ((loadDynamicPlugins openingPlatform
      (librariesConfig (lit "x.so") (lit "./x.so"))).run.run
      (.registered fun _ _ => none)).1.isOk = true := by decide +kernel
  obtain ⟨registry, h⟩ := Throwing.exists_returns hok
  refine ⟨registry, h, fun hone => ?_⟩
  have hserves : ∀ request ∈ requests (librariesConfig (lit "x.so") (lit "./x.so")),
      request.library ≠ [] → ∃ loader, registry.Serves openingPlatform loader request.kind
        request.type ∧ pathName loader.path = pathName request.library :=
    fun request hin hlibrary => (loaded h).serves hin hlibrary
  obtain ⟨loader, hdriver, hpath⟩ := hserves
    ⟨.driver, lit "modbus", lit "x.so"⟩ (by simp [requests, librariesConfig, driverRequest])
    (by decide +kernel)
  obtain ⟨loader', hprocessor, hpath'⟩ := hserves
    ⟨.processor, lit "threshold", lit "./x.so"⟩
    (by simp [requests, librariesConfig, pluginRequest]) (by decide +kernel)
  have hnormal : (pathName loader.path).lexicallyNormal = (pathName loader'.path).lexicallyNormal := by
    rw [hpath, hpath']
    decide +kernel
  have hkind := (hone _ _ _ _ _ _ hdriver hprocessor hnormal).1
  cases hkind

end MiniGateway
