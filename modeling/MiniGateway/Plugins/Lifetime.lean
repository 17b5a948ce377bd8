/-
  Who owns a loaded library, and when it is unloaded.

  A `shared_ptr` to the `DynamicPluginLoader` of a library is held by the registry, in
  `dynamic_plugins_` and in the factories, and by the adapter of every object that the library has
  made; the library is closed by whoever drops the last one.  `PluginHost` is the registry together
  with the objects that are alive, and a log of what is done to the libraries.  Callers register
  factories, load and create, call and destroy objects and destroy the registry, in any order.
-/
import MiniGateway.Lease
import MiniGateway.Plugins.Growth
import MiniGateway.TransitionSystem

namespace MiniGateway

/-! ### Objects -/

/-- A plugin object: one of a registered factory, or `LoadedDriver`, `LoadedProcessor`,
`LoadedPublisher` or `LoadedControlSource` around what a library has made. -/
inductive PluginObject (Raw : Type)
  | direct
  | loaded (loader : DynamicPluginLoader Raw) (raw : Raw)

/-- The library that the object keeps open. -/
def PluginObject.library? {Raw : Type} : PluginObject Raw → Option PathName
  | .direct => none
  | .loaded loader _ => some (pathName loader.path)

/-- What is done to the libraries; the objects are numbered as they are created. -/
inductive LibraryCall
  | openLibrary (library : PathName)
  /-- `create_plugin` makes no object. -/
  | createFailed (library : PathName)
  | createPlugin (library : PathName) (object : ℕ)
  | callPlugin (library : PathName) (object : ℕ)
  | destroyPlugin (library : PathName) (object : ℕ)
  | closeLibrary (library : PathName)
  deriving DecidableEq

/-- A call into the library that the object comes from, if there is one. -/
def PluginObject.calls {Raw : Type} (plugin : PluginObject Raw) (call : PathName → LibraryCall) :
    List LibraryCall :=
  (plugin.library?.map call).toList

/-- The platform whose adapters are these objects. -/
def objectPlatform {Raw : Type} (load : ByteString → Except ByteString (PluginExports Raw)) :
    Platform Raw fun _ => PluginObject Raw where
  load := load
  adapter _ loader raw := .loaded loader raw

abbrev ObjectRegistry (Raw : Type) : Type := PluginRegistry Raw fun _ => PluginObject Raw

/-- A factory that is registered by a call, and not loaded. -/
def directFactory {Raw : Type} (factory : ByteString → Except ByteString (Option Unit)) :
    Factory (PluginObject Raw) :=
  fun settings => (factory settings).map fun plugin => plugin.map fun _ => .direct

/-! ### The host -/

/-- An object that somebody owns. -/
structure PluginInstance (Raw : Type) where
  id : ℕ
  kind : PluginKind
  plugin : PluginObject Raw

structure PluginHost (Raw : Type) where
  /-- `none` after the destructor. -/
  registry : Option (ObjectRegistry Raw)
  instances : List (PluginInstance Raw) := []
  /-- How many objects have been created. -/
  created : ℕ := 0
  log : List LibraryCall := []

variable {Raw : Type}

/-- The libraries that the registry has open. -/
def PluginRegistry.libraries (registry : ObjectRegistry Raw) : List PathName :=
  registry.dynamicPlugins.map fun loader => pathName loader.path

namespace PluginHost

/-- The libraries that somebody holds. -/
def held (host : PluginHost Raw) : List PathName :=
  (host.registry.map PluginRegistry.libraries).getD [] ++
    host.instances.filterMap fun made => made.plugin.library?

def record (host : PluginHost Raw) (calls : List LibraryCall) : PluginHost Raw :=
  { host with log := host.log ++ calls }

/-- An object comes alive. -/
def add (host : PluginHost Raw) (kind : PluginKind) (plugin : PluginObject Raw) :
    PluginHost Raw :=
  { host with
    instances := host.instances ++ [⟨host.created, kind, plugin⟩]
    created := host.created + 1
    log := host.log ++ plugin.calls (.createPlugin · host.created) }

/-- An object whose adapter or entry cannot be allocated. -/
def discard (host : PluginHost Raw) (plugin : PluginObject Raw) : PluginHost Raw :=
  { host with
    created := host.created + 1
    log := host.log ++ plugin.calls (.createPlugin · host.created) ++
      plugin.calls (.destroyPlugin · host.created) }

/-- The libraries among these that nobody holds are closed. -/
def close (host : PluginHost Raw) (libraries : List PathName) : PluginHost Raw :=
  host.record ((libraries.filter (· ∉ host.held)).map .closeLibrary)

/-- The object is destroyed, and its adapter drops the library. -/
def remove (host : PluginHost Raw) (made : PluginInstance Raw) (id : ℕ) : PluginHost Raw :=
  { host with
    instances := host.instances.filter (·.id ≠ id)
    log := host.log ++ made.plugin.calls (.destroyPlugin · id) }

/-- The destructor of an object: `destroy_plugin`, then the handle of the library. -/
def destroy (host : PluginHost Raw) (id : ℕ) : PluginHost Raw :=
  match host.instances.find? (·.id = id) with
  | none => host
  | some made => (host.remove made id).close made.plugin.library?.toList

/-- `~PluginRegistry`. -/
def destroyRegistry (host : PluginHost Raw) (registry : ObjectRegistry Raw) : PluginHost Raw :=
  { host with registry := none : PluginHost Raw }.close registry.libraries

/-- `load_dynamic_plugins`: a library is open from when it is in `dynamic_plugins_`. -/
def load (load : ByteString → Except ByteString (PluginExports Raw)) (host : PluginHost Raw)
    (registry : ObjectRegistry Raw) (config : ApplicationConfig) : PluginHost Raw :=
  let registry' := Throwing.final (loadDynamicPlugins (objectPlatform load) config) registry
  { host with
    registry := some registry'
    log := host.log ++
      (registry'.libraries.drop registry.libraries.length).map .openLibrary }

/-- `register_driver` and the three like it. -/
def register (host : PluginHost Raw) (registry : ObjectRegistry Raw) (kind : PluginKind)
    (type : ByteString) (factory : Option (ByteString → Except ByteString (Option Unit))) :
    PluginHost Raw :=
  { host with
    registry :=
      some (Throwing.final (registerFactory kind type (factory.map directFactory)) registry) }

/-- The library of a dynamically loaded type. -/
def library? (registry : ObjectRegistry Raw) (kind : PluginKind) (type : ByteString) :
    Option PathName :=
  (registry.dynamicPluginSources (sourceKey kind type)).map pathName

/-- One entry of `create`; `allocates` says for which objects there is memory. -/
def make (registry : ObjectRegistry Raw) (allocates : ℕ → Bool) (kind : PluginKind)
    (type settings : ByteString) : Throwing CreateError (PluginHost Raw) Unit := do
  let host ← get
  match registry.instantiate kind type settings with
  | .error e =>
    modify fun host => host.record ((library? registry kind type).map .createFailed).toList
    throw e
  | .ok plugin =>
    if allocates host.created then modify fun host => host.add kind plugin
    else
      modify fun host => host.discard plugin
      throw (.factory (lit "std::bad_alloc"))

/-- The four loops of `create`. -/
def makeAll (registry : ObjectRegistry Raw) (allocates : ℕ → Bool) (config : ApplicationConfig) :
    Throwing CreateError (PluginHost Raw) Unit := do
  config.gateway.devices.forM fun device =>
    make registry allocates .driver device.driver.type device.driver.settingsJson
  (config.processors.filter (·.enabled)).forM fun spec =>
    make registry allocates .processor spec.type spec.settingsJson
  (config.eventPublishers.filter (·.enabled)).forM fun spec =>
    make registry allocates .eventPublisher spec.type spec.settingsJson
  (config.deviceControlSources.filter (·.enabled)).forM fun spec =>
    make registry allocates .deviceControlSource spec.type spec.settingsJson

/-- The members of `PluginInstances` from the last to the first. -/
def unwinding : List PluginKind := [.deviceControlSource, .eventPublisher, .processor, .driver]

/-- The destructor of `PluginInstances`, for the objects from `first` on. -/
def unwind (host : PluginHost Raw) (first : ℕ) : PluginHost Raw :=
  (unwinding.flatMap fun kind =>
    (host.instances.filter fun made => made.kind = kind ∧ first ≤ made.id).map (·.id)).foldl
      destroy host

/-- `create`: when an entry throws, the objects of the entries before it are destroyed. -/
def create (host : PluginHost Raw) (registry : ObjectRegistry Raw) (allocates : ℕ → Bool)
    (config : ApplicationConfig) : PluginHost Raw :=
  match (makeAll registry allocates config).run.run host with
  | (.ok (), host') => host'
  | (.error _, host') => host'.unwind host.created

end PluginHost

/-! ### Any callers -/

inductive HostEvent
  | register (kind : PluginKind) (type : ByteString)
      (factory : Option (ByteString → Except ByteString (Option Unit)))
  | load (config : ApplicationConfig)
  | create (config : ApplicationConfig) (allocates : ℕ → Bool)
  /-- A member function of an object. -/
  | call (id : ℕ)
  | destroy (id : ℕ)
  | destroyRegistry

/-- The host with the libraries that `load` opens. -/
def hostSystem (load : ByteString → Except ByteString (PluginExports Raw)) :
    TransitionSystem (PluginHost Raw) HostEvent where
  Init host := host = { registry := some (.registered fun _ _ => none) }
  step host event :=
    match event with
    | .register kind type factory =>
      host.registry.map fun registry => host.register registry kind type factory
    | .load config => host.registry.map fun registry => host.load load registry config
    | .create config allocates =>
      host.registry.map fun registry => host.create registry allocates config
    | .call id =>
      (host.instances.find? (·.id = id)).map fun made =>
        host.record (made.plugin.calls (.callPlugin · id))
    | .destroy id => (host.instances.find? (·.id = id)).map fun _ => host.destroy id
    | .destroyRegistry => host.registry.map host.destroyRegistry

end MiniGateway
