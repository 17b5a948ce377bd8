/-
  What every call leaves of the plugin registry, also a call that throws.

  `load_dynamic_plugins` can throw in the middle of an entry: a library may be claimed and not
  opened, or opened and then found to lack a symbol.  `LoadLeaves` lists the states that can be left
  behind.  Nothing that is in the registry is ever taken out or replaced (`Grows`), and the tables
  about libraries agree in every state (`Sound`).
-/
import MiniGateway.Plugins.Contract

namespace MiniGateway

open Throwing (Returns Throws Leaves Keeps returns_bind throws_bind leaves_bind)

variable {Raw : Type} {Plugin : PluginKind → Type} {platform : Platform Raw Plugin}
  {registry registry' : PluginRegistry Raw Plugin} {request : LoadRequest}

/-! ### One entry -/

/-- The registry after a library has been claimed, with these loaders. -/
def PluginRegistry.claim (registry : PluginRegistry Raw Plugin) (request : LoadRequest)
    (loaders : List (DynamicPluginLoader Raw)) : PluginRegistry Raw Plugin :=
  { registry with
    dynamicPlugins := loaders
    dynamicLibraryOwners :=
      Function.update registry.dynamicLibraryOwners (pathName request.library) (some request.key) }

/-- What a loading routine leaves behind, whether it returns or throws. -/
inductive LoadLeaves (platform : Platform Raw Plugin) (registry : PluginRegistry Raw Plugin)
    (request : LoadRequest) : PluginRegistry Raw Plugin → Prop
  | unchanged : LoadLeaves platform registry request registry
  /-- The library is claimed and not registered: it could not be opened, or lacks a symbol. -/
  | claimed {loaders : List (DynamicPluginLoader Raw)}
      (owner : ∀ key, registry.dynamicLibraryOwners (pathName request.library) = some key →
        key = request.key)
      (opened : loaders = registry.dynamicPlugins ∨
        ∃ loader, OpenEffect platform request.library registry.dynamicPlugins loader loaders) :
      LoadLeaves platform registry request (registry.claim request loaders)
  | returned {registry' : PluginRegistry Raw Plugin}
      (effect : LoadEffect platform registry request registry') :
      LoadLeaves platform registry request registry'

theorem claimLibrary_throws {path key : ByteString}
    (h : Throws (claimLibrary path key) registry registry') : registry' = registry := by
  unfold claimLibrary at h
  rcases throws_bind.mp h with h | ⟨r, s, hget, h⟩
  · exact (Throwing.throws_get.mp h).elim
  · obtain ⟨rfl, rfl⟩ := Throwing.returns_get.mp hget
    split at h
    · split_ifs at h
      · exact (Throwing.throws_throw.mp h).symm
      · exact (Throwing.throws_pure.mp h).elim
    · exact (Throwing.throws_modify.mp h).elim

theorem validateLibraryFilename_returns {path type : ByteString}
    (h : Returns (validateLibraryFilename path type) registry () registry') :
    registry' = registry := by
  unfold validateLibraryFilename at h
  split_ifs at h
  · exact (Throwing.returns_throw.mp h).elim
  · exact (Throwing.returns_throw.mp h).elim
  · exact (Throwing.returns_pure.mp h).2.symm

theorem validateLibraryFilename_throws {path type : ByteString}
    (h : Throws (validateLibraryFilename path type) registry registry') : registry' = registry := by
  unfold validateLibraryFilename at h
  split_ifs at h
  · exact (Throwing.throws_throw.mp h).symm
  · exact (Throwing.throws_throw.mp h).symm
  · exact (Throwing.throws_pure.mp h).elim

theorem findOrOpen_throws {path type : ByteString}
    (h : Throws (findOrOpen platform path type) registry registry') : registry' = registry := by
  unfold findOrOpen at h
  rcases throws_bind.mp h with h | ⟨⟨⟩, s, hvalid, hfind⟩
  · exact validateLibraryFilename_throws h
  · obtain rfl := validateLibraryFilename_returns hvalid
    rcases throws_bind.mp hfind with h | ⟨r, s, hget, h⟩
    · exact (Throwing.throws_get.mp h).elim
    · obtain ⟨rfl, rfl⟩ := Throwing.returns_get.mp hget
      split at h
      · exact (Throwing.throws_pure.mp h).elim
      · split at h
        · exact (Throwing.throws_throw.mp h).symm
        · rcases throws_bind.mp h with h | ⟨⟨⟩, s, -, h⟩
          · exact (Throwing.throws_modify.mp h).elim
          · exact (Throwing.throws_pure.mp h).elim

theorem functionSymbol_throws {α : Type} {symbol : Option α} {loader : DynamicPluginLoader Raw}
    {name type : ByteString}
    (h : Throws (functionSymbol symbol loader name type) registry registry') :
    registry' = registry := by
  unfold functionSymbol at h
  split at h
  · exact (Throwing.throws_throw.mp h).symm
  · exact (Throwing.throws_pure.mp h).elim

theorem registerFactory_none {kind : PluginKind} {type : ByteString}
    {factory : Factory (Plugin kind)}
    (h : Returns (registerFactory kind type (some factory)) registry () registry') :
    registry.factories kind type = none := by
  unfold registerFactory at h
  simp only at h
  split_ifs at h
  · exact (Throwing.returns_throw.mp h).elim
  · obtain ⟨r, s, hget, h⟩ := returns_bind.mp h
    obtain ⟨rfl, rfl⟩ := Throwing.returns_get.mp hget
    split_ifs at h with hfactory
    · exact (Throwing.returns_throw.mp h).elim
    · simpa using hfactory

theorem registerFactory_throws {kind : PluginKind} {type : ByteString}
    {factory : Option (Factory (Plugin kind))}
    (h : Throws (registerFactory kind type factory) registry registry') : registry' = registry := by
  unfold registerFactory at h
  split at h
  · exact (Throwing.throws_throw.mp h).symm
  · split_ifs at h
    · exact (Throwing.throws_throw.mp h).symm
    · rcases throws_bind.mp h with h | ⟨r, s, hget, h⟩
      · exact (Throwing.throws_get.mp h).elim
      · obtain ⟨rfl, rfl⟩ := Throwing.returns_get.mp hget
        split_ifs at h
        · exact (Throwing.throws_throw.mp h).symm
        · exact (Throwing.throws_modify.mp h).elim

/-- **Inversion of the loading routines**, for both outcomes. -/
theorem loadLibrary_leaves
    (h : Leaves (loadLibrary platform request.kind request.type request.library) registry
      registry') : LoadLeaves platform registry request registry' := by
  rcases h with ⟨⟨⟩, h⟩ | h
  · exact .returned (loadLibrary_returns h)
  unfold loadLibrary at h
  rcases throws_bind.mp h with h | ⟨r, s, hget, h⟩
  · exact (Throwing.throws_get.mp h).elim
  obtain ⟨rfl, rfl⟩ := Throwing.returns_get.mp hget
  by_cases hlibrary : request.library = []
  · rw [if_pos hlibrary] at h
    split_ifs at h
    · exact Throwing.throws_throw.mp h ▸ .unchanged
    · exact (Throwing.throws_pure.mp h).elim
  · rw [if_neg hlibrary] at h
    split at h
    · split_ifs at h
      · exact Throwing.throws_throw.mp h ▸ .unchanged
      · exact (Throwing.throws_pure.mp h).elim
    · split_ifs at h
      · exact Throwing.throws_throw.mp h ▸ .unchanged
      · rcases throws_bind.mp h with h | ⟨⟨⟩, s₁, hclaim, h⟩
        · exact claimLibrary_throws h ▸ .unchanged
        obtain ⟨howner, rfl⟩ := claimLibrary_returns hclaim
        rcases throws_bind.mp h with h | ⟨loader, s₂, hopen, h⟩
        · exact findOrOpen_throws h ▸ .claimed howner (.inl rfl)
        obtain ⟨loaders, hopened, rfl⟩ := findOrOpen_returns hopen
        -- whatever is thrown now, the library stays claimed and open
        have hclaimed : LoadLeaves platform registry request (registry.claim request loaders) :=
          .claimed howner (.inr ⟨loader, hopened⟩)
        rcases throws_bind.mp h with h | ⟨create, s₃, hcreate, h⟩
        · exact functionSymbol_throws h ▸ hclaimed
        obtain ⟨-, rfl⟩ := functionSymbol_returns hcreate
        rcases throws_bind.mp h with h | ⟨⟨⟩, s₄, hdestroy, h⟩
        · exact functionSymbol_throws h ▸ hclaimed
        obtain ⟨-, rfl⟩ := functionSymbol_returns hdestroy
        rcases throws_bind.mp h with h | ⟨⟨⟩, s₅, -, h⟩
        · exact registerFactory_throws h ▸ hclaimed
        · exact (Throwing.throws_modify.mp h).elim

/-! ### What is kept -/

/-- The second registry has everything that is in the first. -/
structure PluginRegistry.Extends (registry' registry : PluginRegistry Raw Plugin) : Prop where
  factories : ∀ kind type factory, registry.factories kind type = some factory →
    registry'.factories kind type = some factory
  dynamicPlugins : registry.dynamicPlugins <+: registry'.dynamicPlugins
  sources : ∀ key path, registry.dynamicPluginSources key = some path →
    registry'.dynamicPluginSources key = some path
  owners : ∀ name key, registry.dynamicLibraryOwners name = some key →
    registry'.dynamicLibraryOwners name = some key
  called : registry.dynamicLoadingCalled = true → registry'.dynamicLoadingCalled = true

theorem PluginRegistry.Extends.refl (registry : PluginRegistry Raw Plugin) :
    registry.Extends registry where
  factories _ _ _ h := h
  dynamicPlugins := List.prefix_rfl
  sources _ _ h := h
  owners _ _ h := h
  called h := h

theorem PluginRegistry.Extends.trans {registry'' : PluginRegistry Raw Plugin}
    (h : registry'.Extends registry) (h' : registry''.Extends registry') :
    registry''.Extends registry where
  factories kind type factory hfactory :=
    h'.factories kind type factory (h.factories kind type factory hfactory)
  dynamicPlugins := h.dynamicPlugins.trans h'.dynamicPlugins
  sources key path hsource := h'.sources key path (h.sources key path hsource)
  owners name key howner := h'.owners name key (h.owners name key howner)
  called hcalled := h'.called (h.called hcalled)

/-- The libraries of both are the same. -/
structure PluginRegistry.SameLibraries (registry' registry : PluginRegistry Raw Plugin) : Prop where
  dynamicPlugins : registry'.dynamicPlugins = registry.dynamicPlugins
  sources : registry'.dynamicPluginSources = registry.dynamicPluginSources
  owners : registry'.dynamicLibraryOwners = registry.dynamicLibraryOwners

theorem PluginRegistry.SameLibraries.refl (registry : PluginRegistry Raw Plugin) :
    registry.SameLibraries registry :=
  ⟨rfl, rfl, rfl⟩

theorem PluginRegistry.SameLibraries.trans {registry'' : PluginRegistry Raw Plugin}
    (h : registry'.SameLibraries registry) (h' : registry''.SameLibraries registry') :
    registry''.SameLibraries registry :=
  ⟨h'.dynamicPlugins.trans h.dynamicPlugins, h'.sources.trans h.sources, h'.owners.trans h.owners⟩

/-- The tables about libraries agree. -/
structure PluginRegistry.Sound (platform : Platform Raw Plugin)
    (registry : PluginRegistry Raw Plugin) : Prop where
  distinct : (registry.dynamicPlugins.map fun loader => pathName loader.path).Nodup
  opened : ∀ loader ∈ registry.dynamicPlugins, platform.load loader.path = .ok loader.library
  /-- A library that is open has been claimed. -/
  claimed : ∀ loader ∈ registry.dynamicPlugins,
    (registry.dynamicLibraryOwners (pathName loader.path)).isSome = true
  owner : ∀ key path, registry.dynamicPluginSources key = some path →
    registry.dynamicLibraryOwners (pathName path) = some key
  /-- A dynamically loaded type is served by the library of its path. -/
  served : ∀ kind type path, registry.dynamicPluginSources (sourceKey kind type) = some path →
    ∃ loader ∈ registry.dynamicPlugins, ∃ create, pathName loader.path = pathName path ∧
      loader.library.createPlugin = some create ∧
      registry.factories kind type = some (dynamicFactory platform kind loader create type)
  /-- Nothing is open before the call. -/
  idle : registry.dynamicLoadingCalled = false → registry.dynamicPlugins = []

section Kept

theorem OpenEffect.prefix {path : ByteString} {loader : DynamicPluginLoader Raw}
    {loaders loaders' : List (DynamicPluginLoader Raw)}
    (h : OpenEffect platform path loaders loader loaders') : loaders <+: loaders' := by
  cases h with
  | found => exact List.prefix_rfl
  | opened => exact List.prefix_append ..

theorem OpenEffect.mem {path : ByteString} {loader : DynamicPluginLoader Raw}
    {loaders loaders' : List (DynamicPluginLoader Raw)}
    (h : OpenEffect platform path loaders loader loaders') :
    loader ∈ loaders' ∧ pathName loader.path = pathName path := by
  cases h with
  | found hin hsame => exact ⟨hin, hsame⟩
  | opened => exact ⟨by simp, rfl⟩

theorem claim_owners_self (loaders : List (DynamicPluginLoader Raw)) :
    (registry.claim request loaders).dynamicLibraryOwners (pathName request.library) =
      some request.key :=
  Function.update_self ..

/-- Whose path has been claimed stays so, and the new claim is no second one. -/
private theorem owners_claim {key : ByteString} {name : PathName} (loaders)
    (howner : ∀ key, registry.dynamicLibraryOwners (pathName request.library) = some key →
      key = request.key) (h : registry.dynamicLibraryOwners name = some key) :
    (registry.claim request loaders).dynamicLibraryOwners name = some key := by
  by_cases hname : name = pathName request.library
  · subst hname
    rw [howner key h]
    exact claim_owners_self loaders
  · exact (Function.update_of_ne hname ..).trans h

theorem PluginRegistry.Sound.claim (h : registry.Sound platform)
    (hcalled : registry.dynamicLoadingCalled = true)
    (howner : ∀ key, registry.dynamicLibraryOwners (pathName request.library) = some key →
      key = request.key) {loaders : List (DynamicPluginLoader Raw)}
    (hopened : loaders = registry.dynamicPlugins ∨
      ∃ loader, OpenEffect platform request.library registry.dynamicPlugins loader loaders) :
    (registry.claim request loaders).Sound platform := by
  have hprefix : registry.dynamicPlugins <+: loaders := by
    rcases hopened with rfl | ⟨loader, hopened⟩
    · exact List.prefix_rfl
    · exact hopened.prefix
  -- the only new loader is that of the entry
  have hnew : ∀ loader ∈ loaders, loader ∈ registry.dynamicPlugins ∨
      loader.path = request.library ∧ platform.load loader.path = .ok loader.library := by
    intro loader hin
    rcases hopened with rfl | ⟨loader', hopened⟩
    · exact .inl hin
    · cases hopened with
      | found => exact .inl hin
      | opened hload =>
        rcases List.mem_append.mp hin with hold | hlast
        · exact .inl hold
        · obtain rfl := List.mem_singleton.mp hlast
          exact .inr ⟨rfl, hload⟩
  refine {
    distinct := ?_
    opened := ?_
    claimed := ?_
    owner := fun key path hsource => owners_claim loaders howner (h.owner key path hsource)
    served := ?_
    idle := fun hidle => ?_ }
  · rcases hopened with rfl | ⟨loader, hopened⟩
    · exact h.distinct
    · cases hopened with
      | found => exact h.distinct
      | opened hload hfresh =>
        show (List.map _ (_ ++ [_])).Nodup
        rw [List.map_append, List.nodup_append]
        refine ⟨h.distinct, List.nodup_singleton _, ?_⟩
        intro name hin name' hin' hsame
        obtain ⟨loaded, hloaded, rfl⟩ := List.mem_map.mp hin
        obtain rfl : name' = pathName request.library := by simpa using hin'
        exact hfresh loaded hloaded hsame
  · intro loader hin
    rcases hnew loader hin with hold | ⟨-, hload⟩
    · exact h.opened loader hold
    · exact hload
  · intro loader hin
    rcases hnew loader hin with hold | ⟨hpath, -⟩
    · obtain ⟨key, hkey⟩ := Option.isSome_iff_exists.mp (h.claimed loader hold)
      rw [owners_claim loaders howner hkey]
      rfl
    · rw [hpath, claim_owners_self]
      rfl
  · intro kind type path hsource
    obtain ⟨loader, hin, create, hsame, hexported, hfactory⟩ := h.served kind type path hsource
    exact ⟨loader, hprefix.subset hin, create, hsame, hexported, hfactory⟩
  · rw [show registry.dynamicLoadingCalled = false from hidle] at hcalled
    cases hcalled

theorem PluginRegistry.Extends.claim {loaders : List (DynamicPluginLoader Raw)}
    (howner : ∀ key, registry.dynamicLibraryOwners (pathName request.library) = some key →
      key = request.key)
    (hloaders : registry.dynamicPlugins <+: loaders) :
    (registry.claim request loaders).Extends registry where
  factories _ _ _ h := h
  dynamicPlugins := hloaders
  sources _ _ h := h
  owners _ _ h := owners_claim loaders howner h
  called h := h

theorem PluginRegistry.Extends.addFactory {kind : PluginKind} {type : ByteString}
    {factory : Factory (Plugin kind)} (h : registry.factories kind type = none) :
    (registry.addFactory kind type factory).Extends registry where
  factories kind' type' factory' hfactory := by
    by_cases hkind : kind' = kind
    · subst hkind
      by_cases htype : type' = type
      · subst htype
        rw [h] at hfactory
        cases hfactory
      · simpa [PluginRegistry.addFactory, Function.update_of_ne htype] using hfactory
    · simpa [PluginRegistry.addFactory, Function.update_of_ne hkind] using hfactory
  dynamicPlugins := List.prefix_rfl
  sources _ _ hsource := hsource
  owners _ _ howner := howner
  called hcalled := hcalled

theorem PluginRegistry.Sound.addFactory {kind : PluginKind} {type : ByteString}
    {factory : Factory (Plugin kind)} (h : registry.Sound platform)
    (hnone : registry.factories kind type = none) :
    (registry.addFactory kind type factory).Sound platform :=
  { h with
    served := by
      intro kind' type' path hsource
      obtain ⟨loader, hin, create, hsame, hexported, hfactory⟩ := h.served kind' type' path hsource
      exact ⟨loader, hin, create, hsame, hexported,
        (PluginRegistry.Extends.addFactory hnone).factories _ _ _ hfactory⟩ }

/-- The registry with the source of an entry recorded. -/
def PluginRegistry.addSource (registry : PluginRegistry Raw Plugin) (request : LoadRequest) :
    PluginRegistry Raw Plugin :=
  { registry with
    dynamicPluginSources :=
      Function.update registry.dynamicPluginSources request.key (some request.library) }

theorem addSource_sources_self :
    (registry.addSource request).dynamicPluginSources request.key = some request.library :=
  Function.update_self ..

theorem addSource_sources_of_ne {key : ByteString} (h : key ≠ request.key) :
    (registry.addSource request).dynamicPluginSources key = registry.dynamicPluginSources key :=
  Function.update_of_ne h ..

theorem PluginRegistry.Extends.addSource
    (hnone : registry.dynamicPluginSources request.key = none) :
    (registry.addSource request).Extends registry where
  factories _ _ _ h := h
  dynamicPlugins := List.prefix_rfl
  sources key path h := by
    have hkey : key ≠ request.key := by
      rintro rfl
      rw [hnone] at h
      cases h
    exact (addSource_sources_of_ne hkey).trans h
  owners _ _ h := h
  called h := h

theorem PluginRegistry.Sound.addSource (h : registry.Sound platform)
    (howner : registry.dynamicLibraryOwners (pathName request.library) = some request.key)
    (hserved : ∃ loader ∈ registry.dynamicPlugins, ∃ create,
      pathName loader.path = pathName request.library ∧
      loader.library.createPlugin = some create ∧ registry.factories request.kind request.type =
        some (dynamicFactory platform request.kind loader create request.type)) :
    (registry.addSource request).Sound platform :=
  { h with
    owner := by
      intro key path hsource
      by_cases hkey : key = request.key
      · subst hkey
        rw [addSource_sources_self] at hsource
        obtain rfl := Option.some.inj hsource
        exact howner
      · rw [addSource_sources_of_ne hkey] at hsource
        exact h.owner key path hsource
    served := by
      intro kind type path hsource
      by_cases hkey : sourceKey kind type = request.key
      · obtain ⟨rfl, rfl⟩ := sourceKey_inj hkey
        rw [hkey, addSource_sources_self] at hsource
        obtain rfl := Option.some.inj hsource
        exact hserved
      · rw [addSource_sources_of_ne hkey] at hsource
        exact h.served kind type path hsource }

/-- A library is registered after it has been claimed. -/
theorem withLibrary_eq {loaders : List (DynamicPluginLoader Raw)}
    {loader : DynamicPluginLoader Raw} {create : ByteString → CreateOutcome Raw} :
    registry.withLibrary platform request loaders loader create =
      ((registry.claim request loaders).addFactory request.kind request.type
        (dynamicFactory platform request.kind loader create request.type)).addSource request :=
  rfl

/-- **One entry takes nothing away and keeps the tables consistent**, also where it throws. -/
theorem LoadLeaves.kept (h : LoadLeaves platform registry request registry')
    (hsound : registry.Sound platform) (hcalled : registry.dynamicLoadingCalled = true) :
    registry'.Sound platform ∧ registry'.Extends registry := by
  cases h with
  | unchanged => exact ⟨hsound, .refl registry⟩
  | claimed howner hopened =>
    refine ⟨hsound.claim hcalled howner hopened, .claim howner ?_⟩
    rcases hopened with rfl | ⟨loader, hopened⟩
    · exact List.prefix_rfl
    · exact hopened.prefix
  | returned heffect =>
    cases heffect with
    | registered => exact ⟨hsound, .refl registry⟩
    | again => exact ⟨hsound, .refl registry⟩
    | @loaded loader loaders create hlibrary hprevious hfactory howner hopened hexported =>
      rw [withLibrary_eq]
      have hclaimed := hsound.claim hcalled howner (.inr ⟨loader, hopened⟩)
      have hadded : ((registry.claim request loaders).addFactory request.kind request.type
          (dynamicFactory platform request.kind loader create request.type)).Sound platform :=
        hclaimed.addFactory hfactory
      refine ⟨hadded.addSource (claim_owners_self loaders) ?_, ?_⟩
      · exact ⟨loader, hopened.mem.1, create, hopened.mem.2, hexported, by
          simp [PluginRegistry.addFactory]⟩
      · exact ((PluginRegistry.Extends.claim howner hopened.prefix).trans
          (.addFactory hfactory)).trans (.addSource hprevious)

end Kept

/-! ### Calls -/

/-- The registry `registry` is consistent, has all of `initial`, and loading has been called. -/
def Loading.Kept (platform : Platform Raw Plugin) (initial registry : PluginRegistry Raw Plugin) :
    Prop :=
  registry.Sound platform ∧ registry.Extends initial ∧ registry.dynamicLoadingCalled = true

theorem loadLibrary_keeps (initial : PluginRegistry Raw Plugin) (kind : PluginKind)
    (type library : ByteString) :
    Keeps (Loading.Kept platform initial) (loadLibrary platform kind type library) := by
  rintro s s' ⟨hsound, hextends, hcalled⟩ h
  have hleaves : LoadLeaves platform s ⟨kind, type, library⟩ s' := loadLibrary_leaves h
  obtain ⟨hsound', hextends'⟩ := hleaves.kept hsound hcalled
  exact ⟨hsound', hextends.trans hextends', hextends'.called hcalled⟩

/-- What each entry keeps is kept by the four loops, which run once. -/
theorem loadDynamicPlugins_cases {P : PluginRegistry Raw Plugin → Prop} {config : ApplicationConfig}
    (hmarked : P { registry with dynamicLoadingCalled := true })
    (hentry : ∀ kind type library, Keeps P (loadLibrary platform kind type library))
    (h : Leaves (loadDynamicPlugins platform config) registry registry') :
    registry.dynamicLoadingCalled = true ∧ registry' = registry ∨
      registry.dynamicLoadingCalled = false ∧ P registry' := by
  have hspec : ∀ (kind : PluginKind) (spec : PluginConfig),
      Keeps P (if spec.enabled then loadLibrary platform kind spec.type spec.library
        else pure ()) := by
    intro kind spec
    split
    · exact hentry kind spec.type spec.library
    · exact Throwing.keeps_pure ()
  unfold loadDynamicPlugins at h
  rcases leaves_bind.mp h with h | ⟨r, s, hget, h⟩
  · exact (Throwing.throws_get.mp h).elim
  obtain ⟨rfl, rfl⟩ := Throwing.returns_get.mp hget
  split_ifs at h with hcalled
  · rcases h with ⟨⟨⟩, h⟩ | h
    · exact (Throwing.returns_throw.mp h).elim
    · exact .inl ⟨hcalled, (Throwing.throws_throw.mp h).symm⟩
  · refine .inr ⟨Bool.eq_false_iff.mpr hcalled, ?_⟩
    rcases leaves_bind.mp h with h | ⟨⟨⟩, s, hmark, hloops⟩
    · exact (Throwing.throws_modify.mp h).elim
    obtain rfl := Throwing.returns_modify.mp hmark
    refine Keeps.bind ?_ (fun _ => Keeps.bind ?_ fun _ => Keeps.bind ?_ fun _ => ?_) _ _ hmarked
      hloops
    · exact Keeps.forM _ fun device _ => hentry .driver device.driver.type device.driver.library
    · exact Keeps.forM _ fun spec _ => hspec .processor spec
    · exact Keeps.forM _ fun spec _ => hspec .eventPublisher spec
    · exact Keeps.forM _ fun spec _ => hspec .deviceControlSource spec

theorem loadDynamicPlugins_leaves {config : ApplicationConfig} (hsound : registry.Sound platform)
    (h : Leaves (loadDynamicPlugins platform config) registry registry') :
    registry'.Sound platform ∧ registry'.Extends registry ∧
      registry'.dynamicLoadingCalled = true ∧
      (registry.dynamicLoadingCalled = true → registry' = registry) := by
  have hmarked : Loading.Kept platform registry
      { registry with dynamicLoadingCalled := true } := by
    refine ⟨{ hsound with idle := fun h => Bool.noConfusion h }, ?_, rfl⟩
    exact { PluginRegistry.Extends.refl registry with called := fun _ => rfl }
  rcases loadDynamicPlugins_cases hmarked (loadLibrary_keeps registry) h with
    ⟨hcalled, rfl⟩ | ⟨hcalled, hsound', hextends, hset⟩
  · exact ⟨hsound, .refl _, hcalled, fun _ => rfl⟩
  · refine ⟨hsound', hextends, hset, fun hcalled' => ?_⟩
    rw [hcalled] at hcalled'
    cases hcalled'

/-- A call of one of the functions that change a registry. -/
inductive RegistryCall (Plugin : PluginKind → Type)
  /-- `register_driver` and the three like it. -/
  | register (kind : PluginKind) (type : ByteString) (factory : Option (Factory (Plugin kind)))
  | load (config : ApplicationConfig)

/-- What the call does. -/
def RegistryCall.perform (platform : Platform Raw Plugin) :
    RegistryCall Plugin → Loading Raw Plugin Unit
  | .register kind type factory => registerFactory kind type factory
  | .load config => loadDynamicPlugins platform config

/-- The registry after these calls, of which any may have thrown. -/
def PluginRegistry.after (platform : Platform Raw Plugin) (registry : PluginRegistry Raw Plugin)
    (calls : List (RegistryCall Plugin)) : PluginRegistry Raw Plugin :=
  calls.foldl (fun registry call => Throwing.final (call.perform platform) registry) registry

/-- The call is a `load_dynamic_plugins`. -/
def RegistryCall.isLoad : RegistryCall Plugin → Bool
  | .register _ _ _ => false
  | .load _ => true

/-- One call. -/
theorem perform_leaves {call : RegistryCall Plugin} (hsound : registry.Sound platform)
    (h : Leaves (call.perform platform) registry registry') :
    registry'.Sound platform ∧ registry'.Extends registry ∧
      registry'.dynamicLoadingCalled = (registry.dynamicLoadingCalled || call.isLoad) ∧
      (registry.dynamicLoadingCalled = true → registry'.SameLibraries registry) := by
  cases call with
  | load config =>
    obtain ⟨hsound', hextends, hset, honce⟩ := loadDynamicPlugins_leaves hsound h
    refine ⟨hsound', hextends, hset.trans (Bool.or_true _).symm, fun hcalled => ?_⟩
    rw [honce hcalled]
    exact .refl registry
  | register kind type factory =>
    rcases h with ⟨⟨⟩, h⟩ | h
    · cases factory with
      | none => exact (Throwing.returns_throw.mp h).elim
      | some factory =>
        have hnone : registry.factories kind type = none := registerFactory_none h
        obtain rfl := registerFactory_returns h
        exact ⟨hsound.addFactory hnone, .addFactory hnone, (Bool.or_false _).symm,
          fun _ => ⟨rfl, rfl, rfl⟩⟩
    · obtain rfl := registerFactory_throws h
      exact ⟨hsound, .refl _, (Bool.or_false _).symm, fun _ => .refl _⟩

/-- A new registry. -/
theorem sound_registered (platform : Platform Raw Plugin)
    (factories : ∀ kind, ByteString → Option (Factory (Plugin kind))) :
    (PluginRegistry.registered factories : PluginRegistry Raw Plugin).Sound platform where
  distinct := List.nodup_nil
  opened _ hin := absurd hin List.not_mem_nil
  claimed _ hin := absurd hin List.not_mem_nil
  owner key path hsource := by cases hsource
  served kind type path hsource := by cases hsource
  idle _ := rfl

theorem after_kept (calls : List (RegistryCall Plugin)) (hsound : registry.Sound platform) :
    (registry.after platform calls).Sound platform ∧
      (registry.after platform calls).Extends registry ∧
      (registry.after platform calls).dynamicLoadingCalled =
        (registry.dynamicLoadingCalled || calls.any RegistryCall.isLoad) ∧
      (registry.dynamicLoadingCalled = true →
        (registry.after platform calls).SameLibraries registry) := by
  induction calls generalizing registry with
  | nil => exact ⟨hsound, .refl registry, (Bool.or_false _).symm, fun _ => .refl registry⟩
  | cons call calls ih =>
    obtain ⟨hsound₁, hextends₁, hset₁, hsame₁⟩ := perform_leaves hsound
      (Throwing.leaves_final (call.perform platform) registry)
    obtain ⟨hsound₂, hextends₂, hset₂, hsame₂⟩ := ih hsound₁
    refine ⟨hsound₂, hextends₁.trans hextends₂, ?_, fun hcalled => ?_⟩
    · rw [hset₁, Bool.or_assoc] at hset₂
      exact hset₂
    · exact (hsame₁ hcalled).trans (hsame₂ (hextends₁.called hcalled))

/-- **What is registered stays registered.**  Whatever is called on a new registry and whichever of
the calls throw, the tables about libraries agree, no later call takes out or replaces a factory, a
library or a claim, and the libraries are final once `load_dynamic_plugins` has been called, also
when it has thrown. -/
theorem registrations_stay (platform : Platform Raw Plugin)
    (earlier later : List (RegistryCall Plugin)) :
    let registry := (PluginRegistry.registered fun _ _ => none).after platform earlier
    let registry' := (PluginRegistry.registered fun _ _ => none).after platform (earlier ++ later)
    registry.Sound platform ∧ registry'.Extends registry ∧
      (registry.dynamicLoadingCalled = true ↔ ∃ config, RegistryCall.load config ∈ earlier) ∧
      (registry.dynamicLoadingCalled = true → registry'.SameLibraries registry) := by
  intro registry registry'
  obtain ⟨hsound, -, hset, -⟩ := after_kept earlier (sound_registered platform fun _ _ => none)
  have hafter : registry' = registry.after platform later := List.foldl_append ..
  obtain ⟨-, hextends, -, hsame⟩ := after_kept later hsound
  rw [hafter]
  refine ⟨hsound, hextends, ?_, hsame⟩
  -- the flag is set by the loads among the earlier calls, and by nothing else
  rw [hset, PluginRegistry.registered, Bool.false_or, List.any_eq_true]
  constructor
  · rintro ⟨call, hin, hload⟩
    cases call with
    | register => cases hload
    | load config => exact ⟨config, hin⟩
  · rintro ⟨config, hin⟩
    exact ⟨_, hin, rfl⟩

end MiniGateway
