/-
  What the callers of the registry and of its objects can rely on.

  Every event keeps the invariant of `Ownership`, from which `libraries_in_order` follows: whatever
  the order in which objects and registry are destroyed, a library is entered only while it is open,
  an object is used only while it is alive, and once everything is gone each library has been opened
  and closed once and each object made and destroyed once.  `create_all_or_nothing` says what one
  call of `create` leaves behind.
-/
import MiniGateway.Plugins.Ownership

namespace MiniGateway

open Throwing (Returns Throws Leaves Keeps returns_bind throws_bind leaves_bind)

variable {Raw : Type} {load : ByteString → Except ByteString (PluginExports Raw)}
  {host host' : PluginHost Raw} {registry registry' : ObjectRegistry Raw}
  {plugin : PluginObject Raw} {library : PathName} {id : ℕ}

/-! ### The factories of the registry -/

theorem PluginRegistry.MakesOwn.mono (h : registry.MakesOwn)
    (hfactories : registry'.factories = registry.factories)
    (hlibraries : registry.dynamicPlugins <+: registry'.dynamicPlugins) : registry'.MakesOwn := by
  intro kind type factory hfactory settings plugin hplugin library hlibrary
  rw [hfactories] at hfactory
  exact (hlibraries.map _).subset (h kind type factory hfactory settings plugin hplugin library
    hlibrary)

theorem PluginRegistry.MakesOwn.addFactory (h : registry.MakesOwn) {kind : PluginKind}
    {type : ByteString} {factory : Factory (PluginObject Raw)}
    (hnew : ∀ settings plugin, factory settings = .ok (some plugin) →
      ∀ library, plugin.library? = some library → library ∈ registry.libraries) :
    (registry.addFactory kind type factory).MakesOwn := by
  intro kind' type' factory' hfactory
  by_cases hkind : kind' = kind
  · subst hkind
    by_cases htype : type' = type
    · subst htype
      simp only [PluginRegistry.addFactory, Function.update_self, Option.some.injEq] at hfactory
      exact hfactory ▸ hnew
    · simp only [PluginRegistry.addFactory, Function.update_self,
        Function.update_of_ne htype] at hfactory
      exact h kind' type' factory' hfactory
  · simp only [PluginRegistry.addFactory, Function.update_of_ne hkind] at hfactory
    exact h kind' type' factory' hfactory

theorem LoadLeaves.makesOwn {request : LoadRequest}
    (h : LoadLeaves (objectPlatform load) registry request registry') (hown : registry.MakesOwn) :
    registry'.MakesOwn := by
  cases h with
  | unchanged => exact hown
  | claimed howner hopened =>
    refine hown.mono rfl ?_
    rcases hopened with rfl | ⟨loader, hopened⟩
    · exact List.prefix_rfl
    · exact hopened.prefix
  | returned heffect =>
    cases heffect with
    | registered => exact hown
    | again => exact hown
    | @loaded loader loaders create hlibrary hprevious hfactory howner hopened hexported =>
      rw [withLibrary_eq]
      have hclaimed : (registry.claim request loaders).MakesOwn := hown.mono rfl hopened.prefix
      have hnew : ∀ settings plugin, dynamicFactory (objectPlatform load) request.kind loader create
          request.type settings = .ok (some plugin) → ∀ library, plugin.library? = some library →
            library ∈ (registry.claim request loaders).libraries := by
        intro settings plugin hplugin library hsome
        obtain ⟨raw, -, rfl⟩ := dynamicFactory_ok hplugin
        obtain rfl : pathName loader.path = library := Option.some.inj hsome
        exact List.mem_map_of_mem hopened.mem.1
      exact (hclaimed.addFactory hnew).mono rfl List.prefix_rfl

theorem makesOwn_registered : (PluginRegistry.registered fun _ _ => none : ObjectRegistry Raw).MakesOwn :=
  fun _ _ _ hfactory => by cases hfactory

/-- The registry that `load_dynamic_plugins` leaves. -/
theorem loadDynamicPlugins_makesOwn {config : ApplicationConfig} (hown : registry.MakesOwn)
    (h : Leaves (loadDynamicPlugins (objectPlatform load) config) registry registry') :
    registry'.MakesOwn := by
  have hentry : ∀ kind type library,
      Keeps PluginRegistry.MakesOwn (loadLibrary (objectPlatform load) kind type library) := by
    intro kind type library s s' hs hleaves
    have hentry : LoadLeaves (objectPlatform load) s ⟨kind, type, library⟩ s' :=
      loadLibrary_leaves hleaves
    exact hentry.makesOwn hs
  have hmarked : PluginRegistry.MakesOwn { registry with dynamicLoadingCalled := true } :=
    hown.mono rfl List.prefix_rfl
  rcases loadDynamicPlugins_cases hmarked hentry h with ⟨-, rfl⟩ | ⟨-, hown'⟩
  · exact hown
  · exact hown'

/-- What registering a factory leaves. -/
theorem registerFactory_leaves {Plugin : PluginKind → Type}
    {registry registry' : PluginRegistry Raw Plugin} {kind : PluginKind} {type : ByteString}
    {factory : Option (Factory (Plugin kind))}
    (h : Leaves (registerFactory kind type factory) registry registry') :
    registry' = registry ∨ ∃ added, factory = some added ∧ registry.factories kind type = none ∧
      registry' = registry.addFactory kind type added := by
  rcases h with ⟨⟨⟩, h⟩ | h
  · cases factory with
    | none => exact (Throwing.returns_throw.mp h).elim
    | some factory => exact .inr ⟨factory, rfl, registerFactory_none h, registerFactory_returns h⟩
  · exact .inl (registerFactory_throws h)

/-! ### The host -/

/-- A registry that has grown by some libraries. -/
theorem Owned.grow (h : Owned load [] host) (hregistry : host.registry = some registry)
    (hsound : registry'.Sound (objectPlatform load)) (hown : registry'.MakesOwn)
    {new : List PathName} (hnew : registry'.libraries = registry.libraries ++ new) :
    Owned load [] { host with
      registry := some registry', log := host.log ++ new.map .openLibrary } := by
  have hopened := h.openedBy registry hregistry
  have hnodup : (registry.libraries ++ new).Nodup := hnew ▸ hsound.distinct
  have hheld : ∀ library, library ∈ host.held ↔ library ∈ registry.libraries := by
    intro library
    rw [mem_held]
    constructor
    · rintro (⟨registry₁, hregistry₁, hin⟩ | ⟨made, hmade, hlibrary⟩)
      · obtain rfl : registry = registry₁ := Option.some.inj (hregistry.symm.trans hregistry₁)
        exact hin
      · exact h.inside registry hregistry made hmade library hlibrary
    · intro hin
      exact .inl ⟨registry, hregistry, hin⟩
  exact {
    sound := fun registry₁ hregistry₁ => Option.some.inj hregistry₁ ▸ hsound
    makesOwn := fun registry₁ hregistry₁ => Option.some.inj hregistry₁ ▸ hown
    inside := fun registry₁ hregistry₁ made hmade library hlibrary => by
      obtain rfl : registry' = registry₁ := Option.some.inj hregistry₁
      rw [hnew]
      exact List.mem_append_left _ (h.inside registry hregistry made hmade library hlibrary)
    ids := h.ids
    fresh := h.fresh
    inOrder := by
      have horder := h.inOrder
      rw [List.append_nil] at horder
      refine InOrder.congr (horder.openLibraries ?_ (hopened ▸ hnodup)) (fun library => ?_) fun _ => .rfl
      · intro name hin hold
        exact (List.nodup_append.mp hnodup).2.2 name ((hheld name).mp hold) name hin rfl
      · rw [List.append_nil, List.mem_append, hheld, mem_held]
        constructor
        · intro hin
          exact .inl ⟨registry', rfl, hnew ▸ List.mem_append.mpr hin⟩
        · rintro (⟨registry₁, hregistry₁, hin⟩ | ⟨made, hmade, hlibrary⟩)
          · obtain rfl : registry' = registry₁ := Option.some.inj hregistry₁
            exact List.mem_append.mp (hnew ▸ hin)
          · exact .inl (h.inside registry hregistry made hmade library hlibrary)
    openedBy := fun registry₁ hregistry₁ => by
      obtain rfl : registry' = registry₁ := Option.some.inj hregistry₁
      rw [openedLibraries_append, openedLibraries_openLibrary, hopened, hnew]
    createdBefore := by
      show ∀ id ∈ createdObjects (host.log ++ _), _
      rw [createdObjects, objectLog_append, objectLog_openLibrary, List.append_nil]
      exact h.createdBefore }

theorem Owned.loaded (h : Owned load [] host) (hregistry : host.registry = some registry)
    (config : ApplicationConfig) : Owned load [] (host.load load registry config) := by
  have hleaves := Throwing.leaves_final (loadDynamicPlugins (objectPlatform load) config) registry
  obtain ⟨hsound, hextends, -⟩ :=
    loadDynamicPlugins_leaves (h.sound registry hregistry) hleaves
  refine h.grow hregistry hsound
    (loadDynamicPlugins_makesOwn (h.makesOwn registry hregistry) hleaves) ?_
  have hprefix := hextends.dynamicPlugins.map fun loader => pathName loader.path
  exact (List.prefix_iff_eq_append.mp hprefix).symm

/-- What a registered factory makes belongs to no library. -/
theorem directFactory_library? {factory : ByteString → Except ByteString (Option Unit)}
    {settings : ByteString} (h : directFactory factory settings = .ok (some plugin)) :
    plugin.library? = none := by
  unfold directFactory at h
  cases hmade : factory settings with
  | error what =>
    rw [hmade] at h
    cases h
  | ok made =>
    rw [hmade] at h
    cases made with
    | none => cases h
    | some made =>
      cases h
      rfl

theorem Owned.registered (h : Owned load [] host) (hregistry : host.registry = some registry)
    (kind : PluginKind) (type : ByteString)
    (factory : Option (ByteString → Except ByteString (Option Unit))) :
    Owned load [] (host.register registry kind type factory) := by
  have hleaves := Throwing.leaves_final
    (registerFactory kind type (factory.map directFactory) : Loading Raw _ Unit) registry
  have hsound := h.sound registry hregistry
  have hown := h.makesOwn registry hregistry
  have hsame : ∀ registry' : ObjectRegistry Raw, registry'.Sound (objectPlatform load) →
      registry'.MakesOwn → registry'.libraries = registry.libraries →
      Owned load [] { host with registry := some registry' } := by
    intro registry' hsound' hown' hlibraries
    have hnone : registry'.libraries = registry.libraries ++ [] := by
      rw [hlibraries, List.append_nil]
    have hgrown := h.grow hregistry hsound' hown' hnone
    rwa [List.map_nil, List.append_nil] at hgrown
  rcases registerFactory_leaves hleaves with hnone | ⟨added, hadded, hnone, hnew⟩
  · exact hsame _ (by rwa [hnone]) (by rwa [hnone]) (by rw [hnone])
  · obtain ⟨factory, -, rfl⟩ := Option.map_eq_some_iff.mp hadded
    have hdirect : ∀ settings (plugin : PluginObject Raw),
        directFactory factory settings = .ok (some plugin) →
          ∀ library, plugin.library? = some library → library ∈ registry.libraries := by
      intro settings plugin hplugin library hlibrary
      rw [directFactory_library? hplugin] at hlibrary
      cases hlibrary
    rw [PluginHost.register, hnew]
    exact hsame _ (hsound.addFactory hnone) (hown.addFactory hdirect) rfl

/-- One entry of `create` that returns. -/
theorem make_returns {allocates : ℕ → Bool} {kind : PluginKind} {type settings : ByteString}
    (h : Returns (PluginHost.make registry allocates kind type settings) host () host') :
    ∃ plugin, registry.instantiate kind type settings = .ok plugin ∧
      allocates host.created = true ∧ host' = host.add kind plugin := by
  unfold PluginHost.make at h
  obtain ⟨s, s₁, hget, h⟩ := returns_bind.mp h
  obtain ⟨rfl, rfl⟩ := Throwing.returns_get.mp hget
  split at h
  · obtain ⟨⟨⟩, s₁, -, h⟩ := returns_bind.mp h
    exact (Throwing.returns_throw.mp h).elim
  · rename_i plugin hplugin
    split_ifs at h with hallocates
    · exact ⟨plugin, hplugin, hallocates, (Throwing.returns_modify.mp h).symm⟩
    · obtain ⟨⟨⟩, s₁, -, h⟩ := returns_bind.mp h
      exact (Throwing.returns_throw.mp h).elim

/-- One entry of `create` that throws. -/
theorem make_throws {allocates : ℕ → Bool} {kind : PluginKind} {type settings : ByteString}
    (h : Throws (PluginHost.make registry allocates kind type settings) host host') :
    (∃ e, registry.instantiate kind type settings = .error e ∧ host' =
      host.record ((PluginHost.library? registry kind type).map .createFailed).toList) ∨
    ∃ plugin, registry.instantiate kind type settings = .ok plugin ∧
      allocates host.created = false ∧ host' = host.discard plugin := by
  unfold PluginHost.make at h
  rcases throws_bind.mp h with h | ⟨s, s₁, hget, h⟩
  · exact (Throwing.throws_get.mp h).elim
  obtain ⟨rfl, rfl⟩ := Throwing.returns_get.mp hget
  split at h
  · rename_i e he
    rcases throws_bind.mp h with h | ⟨⟨⟩, s₁, hrecord, h⟩
    · exact (Throwing.throws_modify.mp h).elim
    · obtain rfl := Throwing.returns_modify.mp hrecord
      exact .inl ⟨e, he, (Throwing.throws_throw.mp h).symm⟩
  · rename_i plugin hplugin
    split_ifs at h with hallocates
    · exact (Throwing.throws_modify.mp h).elim
    · rcases throws_bind.mp h with h | ⟨⟨⟩, s₁, hdiscard, h⟩
      · exact (Throwing.throws_modify.mp h).elim
      · obtain rfl := Throwing.returns_modify.mp hdiscard
        exact .inr ⟨plugin, hplugin, by simpa using hallocates,
          (Throwing.throws_throw.mp h).symm⟩

theorem make_keeps (registry : ObjectRegistry Raw) (allocates : ℕ → Bool) (kind : PluginKind)
    (type settings : ByteString) :
    Keeps (fun host => Owned load [] host ∧ host.registry = some registry)
      (PluginHost.make registry allocates kind type settings) := by
  rintro host host' ⟨hhost, hregistry⟩ h
  have hown : ∀ plugin, registry.instantiate kind type settings = .ok plugin →
      ∀ library, plugin.library? = some library → library ∈ registry.libraries := by
    intro plugin hplugin
    obtain ⟨factory, hfactory, hmade⟩ := instantiate_ok hplugin
    exact hhost.makesOwn registry hregistry kind type factory hfactory settings plugin hmade
  rcases h with ⟨⟨⟩, h⟩ | h
  · obtain ⟨plugin, hplugin, -, rfl⟩ := make_returns h
    exact ⟨hhost.add hregistry kind (hown plugin hplugin), hregistry⟩
  · rcases make_throws h with ⟨e, -, rfl⟩ | ⟨plugin, hplugin, -, rfl⟩
    · refine ⟨?_, hregistry⟩
      cases hlibrary : PluginHost.library? registry kind type with
      | none => simpa [PluginHost.record] using hhost
      | some library =>
        obtain ⟨path, hpath, rfl⟩ := Option.map_eq_some_iff.mp hlibrary
        obtain ⟨loader, hin, -, hsame, -⟩ :=
          (hhost.sound registry hregistry).served kind type path hpath
        exact hhost.createFailed hregistry (hsame ▸ List.mem_map_of_mem hin)
    · exact ⟨hhost.discard hregistry (hown plugin hplugin), hregistry⟩

theorem makeAll_keeps {P : PluginHost Raw → Prop} (registry : ObjectRegistry Raw)
    (allocates : ℕ → Bool) (config : ApplicationConfig)
    (hmake : ∀ kind type settings,
      Keeps P (PluginHost.make registry allocates kind type settings)) :
    Keeps P (PluginHost.makeAll registry allocates config) := by
  refine Keeps.bind ?_ fun _ => Keeps.bind ?_ fun _ => Keeps.bind ?_ fun _ => ?_
  · exact Keeps.forM _ fun device _ => hmake .driver device.driver.type device.driver.settingsJson
  · exact Keeps.forM _ fun spec _ => hmake .processor spec.type spec.settingsJson
  · exact Keeps.forM _ fun spec _ => hmake .eventPublisher spec.type spec.settingsJson
  · exact Keeps.forM _ fun spec _ => hmake .deviceControlSource spec.type spec.settingsJson

theorem Owned.created (h : Owned load [] host) (hregistry : host.registry = some registry)
    (allocates : ℕ → Bool) (config : ApplicationConfig) :
    Owned load [] (host.create registry allocates config) := by
  have hall := makeAll_keeps registry allocates config (make_keeps registry allocates) host
    (Throwing.final (PluginHost.makeAll registry allocates config) host) ⟨h, hregistry⟩
    (Throwing.leaves_final (PluginHost.makeAll registry allocates config) host)
  unfold Throwing.final at hall
  unfold PluginHost.create
  split
  · rename_i hrun
    rw [hrun] at hall
    exact hall.1
  · rename_i hrun
    rw [hrun] at hall
    exact hall.1.unwind host.created

/-! ### Any order -/

/-- The host of a new registry. -/
theorem owned_init : Owned load []
    ({ registry := some (.registered fun _ _ => none) } : PluginHost Raw) where
  sound _ hregistry := Option.some.inj hregistry ▸ sound_registered _ _
  makesOwn _ hregistry := Option.some.inj hregistry ▸ makesOwn_registered
  inside _ _ _ hmade := absurd hmade List.not_mem_nil
  ids := List.nodup_nil
  fresh _ hmade := absurd hmade List.not_mem_nil
  inOrder :=
    { libraries := Lease.Holding.nil
      objects := Lease.Holding.nil
      opened := List.nodup_nil
      created := List.nodup_nil }
  openedBy _ hregistry := Option.some.inj hregistry ▸ rfl
  createdBefore _ hin := absurd hin List.not_mem_nil

theorem Owned.step {event : HostEvent} (h : Owned load [] host)
    (hstep : (hostSystem load).step host event = some host') : Owned load [] host' := by
  cases event with
  | register kind type factory =>
    obtain ⟨registry, hregistry, rfl⟩ := Option.map_eq_some_iff.mp hstep
    exact h.registered hregistry kind type factory
  | load config =>
    obtain ⟨registry, hregistry, rfl⟩ := Option.map_eq_some_iff.mp hstep
    exact h.loaded hregistry config
  | create config allocates =>
    obtain ⟨registry, hregistry, rfl⟩ := Option.map_eq_some_iff.mp hstep
    exact h.created hregistry allocates config
  | call id =>
    obtain ⟨made, hfind, rfl⟩ := Option.map_eq_some_iff.mp hstep
    exact h.call (List.mem_of_find?_eq_some hfind) (by simpa using List.find?_some hfind)
  | destroy id =>
    obtain ⟨-, -, rfl⟩ := Option.map_eq_some_iff.mp hstep
    exact h.destroy id
  | destroyRegistry =>
    obtain ⟨registry, hregistry, rfl⟩ := Option.map_eq_some_iff.mp hstep
    exact h.destroyRegistry hregistry

theorem owned_of_reachable (h : (hostSystem load).Reachable host) : Owned load [] host :=
  h.invariant (fun _ hinit => hinit ▸ owned_init) fun _ _ _ _ hs hstep => hs.step hstep

/-- What the log of a host promises. -/
structure LibrariesInOrder (host : PluginHost Raw) : Prop where
  /-- A library is entered and closed only while it is open, and opened only while it is not. -/
  libraries : ∀ library, Lease.Disciplined (Lease.actsOn library (libraryLog host.log))
  /-- An object is called and destroyed only while it is alive. -/
  objects : ∀ id, Lease.Disciplined (Lease.actsOn id (objectLog host.log))
  /-- A library is open exactly while the registry or an object holds it. -/
  isOpen : ∀ library,
    Lease.live (Lease.actsOn library (libraryLog host.log)) = [()] ↔ library ∈ host.held
  isAlive : ∀ id, Lease.live (Lease.actsOn id (objectLog host.log)) = [()] ↔ id ∈ host.owned
  openedOnce : (openedLibraries host.log).Nodup
  createdOnce : (createdObjects host.log).Nodup
  /-- Once all owners are gone, each library has had one lease or none, and so has each object. -/
  ended : host.registry = none → host.instances = [] →
    (∀ library, Lease.actsOn library (libraryLog host.log) = [] ∨
      ∃ uses, Lease.actsOn library (libraryLog host.log) = (Lease.Episode.lease () uses).acts) ∧
    ∀ id, Lease.actsOn id (objectLog host.log) = [] ∨
      ∃ uses, Lease.actsOn id (objectLog host.log) = (Lease.Episode.lease () uses).acts

private theorem live_iff {κ : Type*} [DecidableEq κ] {family : List (κ × Lease.Act Unit)}
    {keys : List κ} (h : Lease.Holding family keys) (k : κ) :
    Lease.live (Lease.actsOn k family) = [()] ↔ k ∈ keys := by
  rw [(h k).live_eq]
  split <;> simp_all

private theorem attempt_not_mem_libraries (log : List LibraryCall) (library : PathName) :
    (library, Lease.Act.attempt) ∉ libraryLog log := by
  intro hin
  obtain ⟨call, -, hact⟩ := List.mem_map.mp hin
  cases call <;> simp [LibraryCall.libraryAct] at hact

private theorem attempt_not_mem_objects (log : List LibraryCall) (id : ℕ) :
    (id, Lease.Act.attempt) ∉ objectLog log := by
  intro hin
  obtain ⟨call, -, hact⟩ := List.mem_filterMap.mp hin
  cases call <;> simp [LibraryCall.objectAct] at hact

/-- **No plugin outlives its library, and no library is left open**, in whatever order the registry
and the objects are used and destroyed. -/
theorem libraries_in_order (h : (hostSystem load).Reachable host) : LibrariesInOrder host := by
  have hhost := owned_of_reachable h
  have horder := hhost.inOrder
  rw [List.append_nil] at horder
  refine {
    libraries := fun library => (horder.libraries library).disciplined
    objects := fun id => (horder.objects id).disciplined
    isOpen := live_iff horder.libraries
    isAlive := live_iff horder.objects
    openedOnce := horder.opened
    createdOnce := horder.created
    ended := ?_ }
  intro hregistry hinstances
  have hheld : host.held = [] := by simp [PluginHost.held, hregistry, hinstances]
  have howned : host.owned = [] := by simp [PluginHost.owned, hinstances]
  rw [hheld, howned] at horder
  exact ⟨horder.libraries.complete (attempt_not_mem_libraries host.log) horder.opened,
    horder.objects.complete (attempt_not_mem_objects host.log) horder.created⟩

/-- Two libraries are loaded, and the registry is gone before the objects that it has created. -/
def driverOutlivesRegistry : List HostEvent :=
  [.load (librariesConfig (lit "plugins/a.so") (lit "plugins/b.so")),
    .create (librariesConfig (lit "plugins/a.so") (lit "plugins/b.so")) fun _ => true,
    .destroyRegistry, .call 0, .destroy 1, .destroy 0]

/-- What is done to the libraries in this run. -/
def driverOutlivesRegistryLog : List LibraryCall :=
  let a := pathName (lit "plugins/a.so")
  let b := pathName (lit "plugins/b.so")
  [.openLibrary a, .openLibrary b, .createPlugin a 0, .createPlugin b 1, .callPlugin a 0,
    .destroyPlugin b 1, .closeLibrary b, .destroyPlugin a 0, .closeLibrary a]

theorem libraries_in_order_driverOutlivesRegistry : ∃ host : PluginHost Unit,
    host.log = driverOutlivesRegistryLog ∧ LibrariesInOrder host := by
  have hrun : ((hostSystem openingPlatform.load).run { registry := some (.registered fun _ _ => none) }
      driverOutlivesRegistry).any (fun host => host.log = driverOutlivesRegistryLog) = true := by
    decide +kernel
  obtain ⟨host, hreach, hlog⟩ := TransitionSystem.exists_reachable_of_run rfl hrun
  exact ⟨host, by simpa using hlog, libraries_in_order hreach⟩

end MiniGateway
