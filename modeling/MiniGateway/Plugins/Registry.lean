/-
  `PluginRegistry` (`plugin_registry.cpp`): the factories of the four plugin categories, the
  libraries loaded for a configuration, and the creation of its instances.

  The platform's loader is a parameter: what opening a path gives, what a library exports, what its
  `create_plugin` returns, and the adapter object around the result.  A `std::function` that is empty
  is `none`; a null pointer returned by a factory is `.ok none`.
-/
import MiniGateway.Config.Types
import MiniGateway.Plugins.Path
import MiniGateway.Throwing

namespace MiniGateway

/-! ### Categories -/

inductive PluginKind
  | driver
  | processor
  | eventPublisher
  | deviceControlSource
  deriving DecidableEq

namespace PluginKind

/-- The category in the messages of `register_factory`, `find_factory` and the loading routines. -/
def category : PluginKind → ByteString
  | driver => lit "driver"
  | processor => lit "processor"
  | eventPublisher => lit "event publisher"
  | deviceControlSource => lit "device control source"

/-- The category in the keys of `source_key`. -/
def keyCategory : PluginKind → ByteString
  | driver => lit "driver"
  | processor => lit "processor"
  | eventPublisher => lit "event_publisher"
  | deviceControlSource => lit "device_control_source"

/-- How the message about two libraries for one type begins. -/
def multipleText : PluginKind → ByteString
  | driver => lit "driver plugin type"
  | processor => lit "processor plugin type"
  | eventPublisher => lit "event publisher type"
  | deviceControlSource => lit "device control source type"

end PluginKind

/-- `source_key`. -/
def sourceKey (kind : PluginKind) (type : ByteString) : ByteString :=
  kind.keyCategory ++ lit ":" ++ type

/-! ### The platform -/

/-- What a call of `create_plugin` does. -/
inductive CreateOutcome (Raw : Type)
  | object (raw : Raw)
  | null
  /-- It throws; `what` is `none` when it is not a `std::exception`. -/
  | threw (what : Option ByteString)

/-- What a library exports. -/
structure PluginExports (Raw : Type) where
  createPlugin : Option (ByteString → CreateOutcome Raw)
  /-- `destroy_plugin` is exported. -/
  destroyPlugin : Bool

/-- `DynamicPluginLoader`: an opened library. -/
structure DynamicPluginLoader (Raw : Type) where
  path : ByteString
  library : PluginExports Raw

/-- The platform's loader, and the adapters `LoadedDriver`, `LoadedProcessor`, `LoadedPublisher` and
`LoadedControlSource`. -/
structure Platform (Raw : Type) (Plugin : PluginKind → Type) where
  load : ByteString → Except ByteString (PluginExports Raw)
  adapter : ∀ kind, DynamicPluginLoader Raw → Raw → Plugin kind

/-! ### The registry -/

/-- A factory: what it returns for its settings, or the exception it throws. -/
abbrev Factory (α : Type) : Type := ByteString → Except ByteString (Option α)

/-- The fields of `PluginRegistry`. -/
structure PluginRegistry (Raw : Type) (Plugin : PluginKind → Type) where
  factories : ∀ kind, ByteString → Option (Factory (Plugin kind))
  dynamicPlugins : List (DynamicPluginLoader Raw) := []
  dynamicPluginSources : ByteString → Option ByteString := fun _ => none
  dynamicLibraryOwners : PathName → Option ByteString := fun _ => none
  dynamicLoadingCalled : Bool := false

section Loading

variable {Raw : Type} {Plugin : PluginKind → Type}

/-- A step of the registry that may throw. -/
abbrev Loading (Raw : Type) (Plugin : PluginKind → Type) (α : Type) : Type :=
  Throwing ByteString (PluginRegistry Raw Plugin) α

/-- `factories.emplace` of a type that is not there. -/
def PluginRegistry.addFactory (registry : PluginRegistry Raw Plugin) (kind : PluginKind)
    (type : ByteString) (factory : Factory (Plugin kind)) : PluginRegistry Raw Plugin :=
  { registry with
    factories := Function.update registry.factories kind
      (Function.update (registry.factories kind) type (some factory)) }

/-- `register_factory`, through `register_driver` and the three like it. -/
def registerFactory (kind : PluginKind) (type : ByteString)
    (factory : Option (Factory (Plugin kind))) : Loading Raw Plugin Unit := do
  match factory with
  | none => throw (kind.category ++ lit " plugin type and factory are required")
  | some factory =>
    if type = [] then throw (kind.category ++ lit " plugin type and factory are required")
    else
      let registry ← get
      if (registry.factories kind type).isSome then
        throw (lit "duplicate " ++ kind.category ++ lit " plugin type: " ++ type)
      else modify fun registry => registry.addFactory kind type factory

/-- `validate_library_filename`. -/
def validateLibraryFilename (configured type : ByteString) : Loading Raw Plugin Unit :=
  if configured = [] then
    throw (lit "plugin '" ++ type ++ lit "' must specify a library path")
  else if (pathName configured).filename = [] ∨ hasExtension (pathName configured).filename = false
  then
    throw (lit "plugin '" ++ type ++
      lit "' library must be a complete filename with a suffix: " ++ configured)
  else pure ()

/-- `function_symbol`. -/
def functionSymbol {α : Type} (symbol : Option α) (loader : DynamicPluginLoader Raw)
    (name type : ByteString) : Loading Raw Plugin α :=
  match symbol with
  | none => throw (lit "plugin '" ++ type ++ lit "' in " ++ loader.path ++
      lit " does not export " ++ name)
  | some symbol => pure symbol

variable (platform : Platform Raw Plugin)

/-- `dynamic_factory`; `create_plugin` gets the settings as a C string. -/
def dynamicFactory (kind : PluginKind) (loader : DynamicPluginLoader Raw)
    (create : ByteString → CreateOutcome Raw) (type : ByteString) : Factory (Plugin kind) :=
  fun settings =>
    match create (cString settings) with
    | .threw (some what) => .error (lit "create_plugin failed for '" ++ type ++ lit "': " ++ what)
    | .threw none => .error (lit "create_plugin failed for plugin '" ++ type ++ lit "'")
    | .null => .error (lit "create_plugin returned null for plugin '" ++ type ++ lit "'")
    | .object raw => .ok (some (platform.adapter kind loader raw))

/-- `find_or_open`. -/
def findOrOpen (configured type : ByteString) :
    Loading Raw Plugin (DynamicPluginLoader Raw) := do
  validateLibraryFilename configured type
  let registry ← get
  match registry.dynamicPlugins.find? fun loaded => pathName loaded.path = pathName configured with
  | some loaded => pure loaded
  | none =>
    match platform.load configured with
    | .error what => throw (lit "cannot load plugin '" ++ type ++ lit "': " ++ what)
    | .ok library =>
      modify fun registry =>
        { registry with dynamicPlugins := registry.dynamicPlugins ++ [⟨configured, library⟩] }
      pure ⟨configured, library⟩

/-- `claim_library`. -/
def claimLibrary (configured key : ByteString) : Loading Raw Plugin Unit := do
  let registry ← get
  match registry.dynamicLibraryOwners (pathName configured) with
  | some owner =>
    if owner ≠ key then
      throw (lit "plugin library " ++ configured ++ lit " is already assigned to " ++ owner ++
        lit " and cannot be assigned to " ++ key)
    else pure ()
  | none =>
    modify fun registry =>
      { registry with
        dynamicLibraryOwners :=
          Function.update registry.dynamicLibraryOwners (pathName configured) (some key) }

/-- The body that the four loading routines share. -/
def loadLibrary (kind : PluginKind) (type library : ByteString) : Loading Raw Plugin Unit := do
  let registry ← get
  if library = [] then
    if (registry.factories kind type).isNone then
      throw (kind.category ++ lit " plugin '" ++ type ++
        lit "' has no library path and is not registered")
    else pure ()
  else
    match registry.dynamicPluginSources (sourceKey kind type) with
    | some previous =>
      if pathName previous ≠ pathName library then
        throw (kind.multipleText ++ lit " is configured with multiple libraries: " ++ type)
      else pure ()
    | none =>
      if (registry.factories kind type).isSome then
        throw (lit "duplicate " ++ kind.category ++ lit " plugin type: " ++ type)
      else
        claimLibrary library (sourceKey kind type)
        let loader ← findOrOpen platform library type
        let create ← functionSymbol loader.library.createPlugin loader (lit "create_plugin") type
        functionSymbol (if loader.library.destroyPlugin then some () else none) loader
          (lit "destroy_plugin") type
        registerFactory kind type (some (dynamicFactory platform kind loader create type))
        modify fun registry =>
          { registry with
            dynamicPluginSources :=
              Function.update registry.dynamicPluginSources (sourceKey kind type) (some library) }

/-- `load_driver`. -/
def loadDriver (spec : PluginSpec) : Loading Raw Plugin Unit :=
  loadLibrary platform .driver spec.type spec.library

/-- `load_processor`. -/
def loadProcessor (spec : PluginConfig) : Loading Raw Plugin Unit :=
  if spec.enabled then loadLibrary platform .processor spec.type spec.library else pure ()

/-- `load_publisher`. -/
def loadPublisher (spec : PluginConfig) : Loading Raw Plugin Unit :=
  if spec.enabled then loadLibrary platform .eventPublisher spec.type spec.library else pure ()

/-- `load_control_source`. -/
def loadControlSource (spec : PluginConfig) : Loading Raw Plugin Unit :=
  if spec.enabled then loadLibrary platform .deviceControlSource spec.type spec.library
  else pure ()

/-- `load_dynamic_plugins`. -/
def loadDynamicPlugins (config : ApplicationConfig) : Loading Raw Plugin Unit := do
  let registry ← get
  if registry.dynamicLoadingCalled then
    throw (lit "dynamic plugins can only be loaded once per registry")
  else
    modify fun registry => { registry with dynamicLoadingCalled := true }
    config.gateway.devices.forM fun device => loadDriver platform device.driver
    config.processors.forM (loadProcessor platform)
    config.eventPublishers.forM (loadPublisher platform)
    config.deviceControlSources.forM (loadControlSource platform)

end Loading

/-! ### Creating the instances -/

/-- The exceptions of `create`. -/
inductive CreateError
  | unknownType (kind : PluginKind) (type : ByteString)
  | returnedNull (kind : PluginKind) (type : ByteString)
  /-- A factory has thrown. -/
  | factory (what : ByteString)

/-- The text of the exception. -/
def CreateError.what : CreateError → ByteString
  | unknownType kind type => lit "unknown " ++ kind.category ++ lit " plugin type: " ++ type
  | returnedNull kind type => kind.category ++ lit " plugin factory returned null: " ++ type
  | factory what => what

/-- `PluginInstances`; a driver comes with its device id and a publisher with the id of its entry. -/
structure PluginInstances (Plugin : PluginKind → Type) where
  drivers : List (ByteString × Plugin .driver)
  processors : List (Plugin .processor)
  eventPublishers : List (ByteString × Plugin .eventPublisher)
  sources : List (Plugin .deviceControlSource)

namespace PluginRegistry

variable {Raw : Type} {Plugin : PluginKind → Type} (registry : PluginRegistry Raw Plugin)

/-- `find_factory`, the call of the factory and the check of its result. -/
def instantiate (kind : PluginKind) (type settings : ByteString) :
    Except CreateError (Plugin kind) :=
  match registry.factories kind type with
  | none => .error (.unknownType kind type)
  | some factory =>
    match factory settings with
    | .error what => .error (.factory what)
    | .ok none => .error (.returnedNull kind type)
    | .ok (some plugin) => .ok plugin

/-- `create`. -/
def create (config : ApplicationConfig) : Except CreateError (PluginInstances Plugin) := do
  let drivers ← config.gateway.devices.mapM fun device => do
    let driver ← registry.instantiate .driver device.driver.type device.driver.settingsJson
    pure (device.id, driver)
  let processors ← (config.processors.filter (·.enabled)).mapM fun spec =>
    registry.instantiate .processor spec.type spec.settingsJson
  let eventPublishers ← (config.eventPublishers.filter (·.enabled)).mapM fun spec => do
    let publisher ← registry.instantiate .eventPublisher spec.type spec.settingsJson
    pure (spec.id, publisher)
  let sources ← (config.deviceControlSources.filter (·.enabled)).mapM fun spec =>
    registry.instantiate .deviceControlSource spec.type spec.settingsJson
  pure { drivers, processors, eventPublishers, sources }

end PluginRegistry

end MiniGateway
