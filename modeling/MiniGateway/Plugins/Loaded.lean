/-
  What `load_dynamic_plugins` leaves behind.

  `LoadEffect` says once what a loading routine does when it returns; `Loaded` is the invariant of
  the four loops, relative to the entries seen so far.  Every key of a dynamically loaded type leads
  to the path of its library and every path back to its key, each path has one loader, and every
  entry seen has a factory.
-/
import MiniGateway.Plugins.Registry

namespace MiniGateway

variable {Raw : Type} {Plugin : PluginKind → Type}

/-! ### Keys -/

/-- A key names one category and one type. -/
theorem sourceKey_inj {kind kind' : PluginKind} {type type' : ByteString}
    (h : sourceKey kind type = sourceKey kind' type') : kind = kind' ∧ type = type' := by
  have hcolon : ∀ kind : PluginKind, ∀ c ∈ kind.keyCategory, (c != 58) = true := by
    intro kind
    cases kind <;> decide +kernel
  -- the category ends at the first colon
  have htake : ∀ kind type, (sourceKey kind type).takeWhile (· != 58) = kind.keyCategory := by
    intro kind type
    unfold sourceKey
    rw [List.append_assoc, List.takeWhile_append_of_pos (hcolon kind)]
    show _ ++ List.takeWhile _ (58 :: type) = _
    simp
  have hcategory : kind.keyCategory = kind'.keyCategory := by
    rw [← htake kind type, h, htake]
  have hkind : kind = kind' := by
    revert hcategory
    cases kind <;> cases kind' <;> decide +kernel
  subst hkind
  exact ⟨rfl, List.append_cancel_left h⟩

/-! ### One entry -/

/-- An entry whose plugin is to be available: a driver, or an enabled entry of a list. -/
structure LoadRequest where
  kind : PluginKind
  type : ByteString
  library : ByteString

/-- The key of the entry. -/
def LoadRequest.key (request : LoadRequest) : ByteString := sourceKey request.kind request.type

/-- The registry after a library has been claimed, opened and registered. -/
def PluginRegistry.withLibrary (registry : PluginRegistry Raw Plugin)
    (platform : Platform Raw Plugin) (request : LoadRequest)
    (loaders : List (DynamicPluginLoader Raw)) (loader : DynamicPluginLoader Raw)
    (create : ByteString → CreateOutcome Raw) : PluginRegistry Raw Plugin :=
  { factories := Function.update registry.factories request.kind
      (Function.update (registry.factories request.kind) request.type
        (some (dynamicFactory platform request.kind loader create request.type)))
    dynamicPlugins := loaders
    dynamicPluginSources :=
      Function.update registry.dynamicPluginSources request.key (some request.library)
    dynamicLibraryOwners :=
      Function.update registry.dynamicLibraryOwners (pathName request.library) (some request.key)
    dynamicLoadingCalled := registry.dynamicLoadingCalled }

/-- The loader that `find_or_open` finds or adds. -/
inductive OpenEffect (platform : Platform Raw Plugin) (path : ByteString)
    (loaders : List (DynamicPluginLoader Raw)) :
    DynamicPluginLoader Raw → List (DynamicPluginLoader Raw) → Prop
  | found {loader : DynamicPluginLoader Raw} (mem : loader ∈ loaders)
      (same : pathName loader.path = pathName path) : OpenEffect platform path loaders loader loaders
  | opened {library : PluginExports Raw} (opened : platform.load path = .ok library)
      (fresh : ∀ loaded ∈ loaders, pathName loaded.path ≠ pathName path) :
      OpenEffect platform path loaders ⟨path, library⟩ (loaders ++ [⟨path, library⟩])

/-- What a loading routine does when it returns. -/
inductive LoadEffect (platform : Platform Raw Plugin) (registry : PluginRegistry Raw Plugin)
    (request : LoadRequest) : PluginRegistry Raw Plugin → Prop
  | registered (library : request.library = [])
      (factory : (registry.factories request.kind request.type).isSome = true) :
      LoadEffect platform registry request registry
  | again {path : ByteString} (library : request.library ≠ [])
      (previous : registry.dynamicPluginSources request.key = some path)
      (same : pathName path = pathName request.library) :
      LoadEffect platform registry request registry
  | loaded {loader : DynamicPluginLoader Raw} {loaders : List (DynamicPluginLoader Raw)}
      {create : ByteString → CreateOutcome Raw} (library : request.library ≠ [])
      (previous : registry.dynamicPluginSources request.key = none)
      (factory : registry.factories request.kind request.type = none)
      (owner : ∀ key, registry.dynamicLibraryOwners (pathName request.library) = some key →
        key = request.key)
      (opened : OpenEffect platform request.library registry.dynamicPlugins loader loaders)
      (exported : loader.library.createPlugin = some create) :
      LoadEffect platform registry request
        (registry.withLibrary platform request loaders loader create)

open Throwing (Returns returns_bind)

theorem claimLibrary_returns {path key : ByteString} {registry registry' : PluginRegistry Raw Plugin}
    (h : Returns (claimLibrary path key) registry () registry') :
    (∀ owner, registry.dynamicLibraryOwners (pathName path) = some owner → owner = key) ∧
      registry' = { registry with
        dynamicLibraryOwners :=
          Function.update registry.dynamicLibraryOwners (pathName path) (some key) } := by
  unfold claimLibrary at h
  obtain ⟨r, s, hget, h⟩ := returns_bind.mp h
  obtain ⟨rfl, rfl⟩ := Throwing.returns_get.mp hget
  split at h
  · rename_i owner howner
    split_ifs at h with hkey
    · exact absurd h (by simp)
    · obtain ⟨-, rfl⟩ := Throwing.returns_pure.mp h
      obtain rfl : owner = key := not_not.mp hkey
      refine ⟨fun owner' howner' => ?_, ?_⟩
      · rw [howner] at howner'
        exact (Option.some.inj howner').symm
      · rw [← howner, Function.update_eq_self]
  · rename_i hnone
    obtain rfl := Throwing.returns_modify.mp h
    refine ⟨fun owner howner => ?_, rfl⟩
    rw [hnone] at howner
    cases howner

theorem findOrOpen_returns {platform : Platform Raw Plugin} {path type : ByteString}
    {loader : DynamicPluginLoader Raw} {registry registry' : PluginRegistry Raw Plugin}
    (h : Returns (findOrOpen platform path type) registry loader registry') :
    ∃ loaders, OpenEffect platform path registry.dynamicPlugins loader loaders ∧
      registry' = { registry with dynamicPlugins := loaders } := by
  unfold findOrOpen at h
  obtain ⟨⟨⟩, r₁, hvalid, h⟩ := returns_bind.mp h
  obtain rfl : registry = r₁ := by
    unfold validateLibraryFilename at hvalid
    split_ifs at hvalid
    · exact absurd hvalid (by simp)
    · exact absurd hvalid (by simp)
    · exact (Throwing.returns_pure.mp hvalid).2
  obtain ⟨r, s, hget, h⟩ := returns_bind.mp h
  obtain ⟨rfl, rfl⟩ := Throwing.returns_get.mp hget
  split at h
  · rename_i loaded hfind
    obtain ⟨rfl, rfl⟩ := Throwing.returns_pure.mp h
    have hsame := List.find?_some hfind
    exact ⟨_, .found (List.mem_of_find?_eq_some hfind) (by simpa using hsame), rfl⟩
  · rename_i hfind
    split at h
    · exact absurd h (by simp)
    · rename_i library hopened
      obtain ⟨⟨⟩, s, hmodify, h⟩ := returns_bind.mp h
      obtain rfl := Throwing.returns_modify.mp hmodify
      obtain ⟨rfl, rfl⟩ := Throwing.returns_pure.mp h
      refine ⟨_, .opened hopened ?_, rfl⟩
      intro loaded hin hsame
      have hnot := List.find?_eq_none.mp hfind loaded hin
      exact hnot (by simpa using hsame)

theorem functionSymbol_returns {α : Type} {symbol : Option α} {loader : DynamicPluginLoader Raw}
    {name type : ByteString} {a : α} {registry registry' : PluginRegistry Raw Plugin}
    (h : Returns (functionSymbol symbol loader name type) registry a registry') :
    symbol = some a ∧ registry' = registry := by
  unfold functionSymbol at h
  split at h
  · exact absurd h (by simp)
  · obtain ⟨rfl, rfl⟩ := Throwing.returns_pure.mp h
    exact ⟨rfl, rfl⟩

theorem registerFactory_returns {kind : PluginKind} {type : ByteString}
    {factory : Factory (Plugin kind)} {registry registry' : PluginRegistry Raw Plugin}
    (h : Returns (registerFactory kind type (some factory)) registry () registry') :
    registry' = registry.addFactory kind type factory := by
  unfold registerFactory at h
  simp only at h
  split_ifs at h
  · exact absurd h (by simp)
  · obtain ⟨r, s, hget, h⟩ := returns_bind.mp h
    obtain ⟨rfl, rfl⟩ := Throwing.returns_get.mp hget
    split_ifs at h
    · exact absurd h (by simp)
    · exact (Throwing.returns_modify.mp h).symm

/-- **Inversion of the loading routines.** -/
theorem loadLibrary_returns {platform : Platform Raw Plugin} {request : LoadRequest}
    {registry registry' : PluginRegistry Raw Plugin}
    (h : Returns (loadLibrary platform request.kind request.type request.library) registry ()
      registry') : LoadEffect platform registry request registry' := by
  unfold loadLibrary at h
  obtain ⟨r, s, hget, h⟩ := returns_bind.mp h
  obtain ⟨rfl, rfl⟩ := Throwing.returns_get.mp hget
  by_cases hlibrary : request.library = []
  · rw [if_pos hlibrary] at h
    split_ifs at h with hfactory
    · exact absurd h (by simp)
    · obtain ⟨-, rfl⟩ := Throwing.returns_pure.mp h
      exact .registered hlibrary (by simpa [Option.isSome_iff_ne_none] using hfactory)
  · rw [if_neg hlibrary] at h
    split at h
    · rename_i previous hprevious
      split_ifs at h with hsame
      · exact absurd h (by simp)
      · obtain ⟨-, rfl⟩ := Throwing.returns_pure.mp h
        exact .again hlibrary hprevious (not_not.mp hsame)
    · rename_i hprevious
      split_ifs at h with hfactory
      · exact absurd h (by simp)
      · obtain ⟨⟨⟩, s₁, hclaim, h⟩ := returns_bind.mp h
        obtain ⟨loader, s₂, hopen, h⟩ := returns_bind.mp h
        obtain ⟨create, s₃, hcreate, h⟩ := returns_bind.mp h
        obtain ⟨⟨⟩, s₄, hdestroy, h⟩ := returns_bind.mp h
        obtain ⟨⟨⟩, s₅, hregister, h⟩ := returns_bind.mp h
        obtain ⟨howner, rfl⟩ := claimLibrary_returns hclaim
        obtain ⟨loaders, hopened, rfl⟩ := findOrOpen_returns hopen
        obtain ⟨hexported, rfl⟩ := functionSymbol_returns hcreate
        obtain ⟨-, rfl⟩ := functionSymbol_returns hdestroy
        obtain rfl := registerFactory_returns hregister
        obtain rfl := Throwing.returns_modify.mp h
        exact .loaded hlibrary hprevious (by simpa using hfactory) howner hopened hexported

/-! ### All entries -/

section withLibrary

variable (registry : PluginRegistry Raw Plugin) (platform : Platform Raw Plugin)
  (request : LoadRequest) (loaders : List (DynamicPluginLoader Raw))
  (loader : DynamicPluginLoader Raw) (create : ByteString → CreateOutcome Raw)

@[simp] theorem withLibrary_factories_self :
    (registry.withLibrary platform request loaders loader create).factories request.kind
      request.type = some (dynamicFactory platform request.kind loader create request.type) := by
  simp [PluginRegistry.withLibrary]

theorem withLibrary_factories_of_ne {kind : PluginKind} {type : ByteString}
    (h : sourceKey kind type ≠ request.key) :
    (registry.withLibrary platform request loaders loader create).factories kind type =
      registry.factories kind type := by
  by_cases hkind : kind = request.kind
  · subst hkind
    have htype : type ≠ request.type := by
      rintro rfl
      exact h rfl
    simp [PluginRegistry.withLibrary, Function.update_of_ne htype]
  · simp [PluginRegistry.withLibrary, Function.update_of_ne hkind]

@[simp] theorem withLibrary_sources_self :
    (registry.withLibrary platform request loaders loader create).dynamicPluginSources request.key =
      some request.library :=
  Function.update_self ..

theorem withLibrary_sources_of_ne {key : ByteString} (h : key ≠ request.key) :
    (registry.withLibrary platform request loaders loader create).dynamicPluginSources key =
      registry.dynamicPluginSources key :=
  Function.update_of_ne h ..

@[simp] theorem withLibrary_owners_self :
    (registry.withLibrary platform request loaders loader create).dynamicLibraryOwners
      (pathName request.library) = some request.key :=
  Function.update_self ..

theorem withLibrary_owners_of_ne {name : PathName} (h : name ≠ pathName request.library) :
    (registry.withLibrary platform request loaders loader create).dynamicLibraryOwners name =
      registry.dynamicLibraryOwners name :=
  Function.update_of_ne h ..

@[simp] theorem withLibrary_dynamicPlugins :
    (registry.withLibrary platform request loaders loader create).dynamicPlugins = loaders := rfl

end withLibrary

/-- The registry after the entries `done`, started from `initial`. -/
structure Loaded (platform : Platform Raw Plugin) (initial : PluginRegistry Raw Plugin)
    (done : List LoadRequest) (registry : PluginRegistry Raw Plugin) : Prop where
  /-- The pre-registered factories are still there. -/
  kept : ∀ kind type factory, initial.factories kind type = some factory →
    registry.factories kind type = some factory
  available : ∀ request ∈ done, (registry.factories request.kind request.type).isSome = true
  source : ∀ request ∈ done, request.library ≠ [] →
    ∃ path, registry.dynamicPluginSources request.key = some path ∧
      pathName path = pathName request.library
  requested : ∀ key path, registry.dynamicPluginSources key = some path →
    ∃ request ∈ done, request.key = key ∧ request.library = path ∧ request.library ≠ []
  /-- From a key to its path and back. -/
  owner : ∀ key path, registry.dynamicPluginSources key = some path →
    registry.dynamicLibraryOwners (pathName path) = some key
  /-- From a path to its key and back. -/
  owned : ∀ name key, registry.dynamicLibraryOwners name = some key →
    ∃ path, registry.dynamicPluginSources key = some path ∧ pathName path = name
  distinct : (registry.dynamicPlugins.map fun loader => pathName loader.path).Nodup
  loader : ∀ loader ∈ registry.dynamicPlugins,
    ∃ key, registry.dynamicPluginSources key = some loader.path
  /-- A dynamically loaded type is served by the library of its path. -/
  served : ∀ kind type path, registry.dynamicPluginSources (sourceKey kind type) = some path →
    ∃ loader ∈ registry.dynamicPlugins, ∃ create, loader.path = path ∧
      loader.library.createPlugin = some create ∧
      registry.factories kind type = some (dynamicFactory platform kind loader create type)

/-- Nothing has been loaded yet. -/
structure PluginRegistry.Fresh (registry : PluginRegistry Raw Plugin) : Prop where
  dynamicPlugins : registry.dynamicPlugins = []
  sources : ∀ key, registry.dynamicPluginSources key = none
  owners : ∀ name, registry.dynamicLibraryOwners name = none

theorem Loaded.nil {platform : Platform Raw Plugin} {initial registry : PluginRegistry Raw Plugin}
    (h : registry.Fresh) (hfactories : registry.factories = initial.factories) :
    Loaded platform initial [] registry where
  kept kind type factory hfactory := by rw [hfactories]; exact hfactory
  available request hin := absurd hin List.not_mem_nil
  source request hin := absurd hin List.not_mem_nil
  requested key path hsource := by rw [h.sources] at hsource; cases hsource
  owner key path hsource := by rw [h.sources] at hsource; cases hsource
  owned name key howner := by rw [h.owners] at howner; cases howner
  distinct := by rw [h.dynamicPlugins]; exact List.nodup_nil
  loader loader hin := by rw [h.dynamicPlugins] at hin; exact absurd hin List.not_mem_nil
  served kind type path hsource := by rw [h.sources] at hsource; cases hsource

section Step

variable {platform : Platform Raw Plugin} {initial registry registry' : PluginRegistry Raw Plugin}
  {done : List LoadRequest} {request : LoadRequest}

/-- A registry that an entry leaves as it is. -/
private theorem Loaded.same (h : Loaded platform initial done registry)
    (havailable : (registry.factories request.kind request.type).isSome = true)
    (hsource : request.library ≠ [] → ∃ path,
      registry.dynamicPluginSources request.key = some path ∧
        pathName path = pathName request.library) :
    Loaded platform initial (done ++ [request]) registry :=
  { h with
    available := by
      intro request' hin
      rcases List.mem_append.mp hin with hold | hnew
      · exact h.available request' hold
      · obtain rfl := List.mem_singleton.mp hnew
        exact havailable
    source := by
      intro request' hin
      rcases List.mem_append.mp hin with hold | hnew
      · exact h.source request' hold
      · obtain rfl := List.mem_singleton.mp hnew
        exact hsource
    requested := by
      intro key path hkey
      obtain ⟨request', hin, hrest⟩ := h.requested key path hkey
      exact ⟨request', List.mem_append_left _ hin, hrest⟩ }

/-- The library of a key that has none yet is new. -/
private theorem Loaded.fresh (h : Loaded platform initial done registry)
    (hprevious : registry.dynamicPluginSources request.key = none)
    (howner : ∀ key, registry.dynamicLibraryOwners (pathName request.library) = some key →
      key = request.key) :
    (∀ key path, registry.dynamicPluginSources key = some path →
      pathName path ≠ pathName request.library) ∧
    ∀ loader ∈ registry.dynamicPlugins, pathName loader.path ≠ pathName request.library := by
  have hsources : ∀ key path, registry.dynamicPluginSources key = some path →
      pathName path ≠ pathName request.library := by
    intro key path hkey hsame
    -- whoever had claimed this path would be this key
    have hclaimed := h.owner key path hkey
    rw [hsame] at hclaimed
    rw [howner key hclaimed, hprevious] at hkey
    cases hkey
  refine ⟨hsources, ?_⟩
  intro loader hin
  obtain ⟨key, hkey⟩ := h.loader loader hin
  exact hsources key loader.path hkey

private theorem Loaded.loaded (h : Loaded platform initial done registry)
    {loader : DynamicPluginLoader Raw} {loaders : List (DynamicPluginLoader Raw)}
    {create : ByteString → CreateOutcome Raw} (hlibrary : request.library ≠ [])
    (hprevious : registry.dynamicPluginSources request.key = none)
    (hfactory : registry.factories request.kind request.type = none)
    (howner : ∀ key, registry.dynamicLibraryOwners (pathName request.library) = some key →
      key = request.key)
    (hopened : OpenEffect platform request.library registry.dynamicPlugins loader loaders)
    (hexported : loader.library.createPlugin = some create) :
    Loaded platform initial (done ++ [request])
      (registry.withLibrary platform request loaders loader create) := by
  obtain ⟨hsources, hloaders⟩ := h.fresh hprevious howner
  cases hopened with
  | found hin hsame => exact absurd hsame (hloaders _ hin)
  | @opened library hopen hnone =>
    refine {
      kept := ?_
      available := ?_
      source := ?_
      requested := ?_
      owner := ?_
      owned := ?_
      distinct := ?_
      loader := ?_
      served := ?_ }
    · intro kind type factory hinitial
      have hold := h.kept kind type factory hinitial
      rw [withLibrary_factories_of_ne]
      · exact hold
      · intro hkey
        obtain ⟨rfl, rfl⟩ := sourceKey_inj hkey
        rw [hfactory] at hold
        cases hold
    · intro request' hin
      by_cases hkey : request'.key = request.key
      · obtain ⟨hkind, htype⟩ := sourceKey_inj hkey
        rw [htype]
        obtain ⟨kind', type', library'⟩ := request'
        obtain rfl : kind' = request.kind := hkind
        simp
      · rw [withLibrary_factories_of_ne _ _ _ _ _ _ hkey]
        rcases List.mem_append.mp hin with hold | hnew
        · exact h.available request' hold
        · obtain rfl := List.mem_singleton.mp hnew
          exact absurd rfl hkey
    · intro request' hin hlibrary'
      rcases List.mem_append.mp hin with hold | hnew
      · obtain ⟨path, hpath, hsame⟩ := h.source request' hold hlibrary'
        refine ⟨path, ?_, hsame⟩
        rw [withLibrary_sources_of_ne]
        · exact hpath
        · intro hkey
          rw [hkey, hprevious] at hpath
          cases hpath
      · obtain rfl := List.mem_singleton.mp hnew
        exact ⟨request'.library, withLibrary_sources_self .., rfl⟩
    · intro key path hpath
      by_cases hkey : key = request.key
      · subst hkey
        rw [withLibrary_sources_self] at hpath
        obtain rfl := Option.some.inj hpath
        exact ⟨request, by simp, rfl, rfl, hlibrary⟩
      · rw [withLibrary_sources_of_ne _ _ _ _ _ _ hkey] at hpath
        obtain ⟨request', hin, hrest⟩ := h.requested key path hpath
        exact ⟨request', List.mem_append_left _ hin, hrest⟩
    · intro key path hpath
      by_cases hkey : key = request.key
      · subst hkey
        rw [withLibrary_sources_self] at hpath
        obtain rfl := Option.some.inj hpath
        exact withLibrary_owners_self ..
      · rw [withLibrary_sources_of_ne _ _ _ _ _ _ hkey] at hpath
        rw [withLibrary_owners_of_ne _ _ _ _ _ _ (hsources key path hpath)]
        exact h.owner key path hpath
    · intro name key hname
      by_cases hsame : name = pathName request.library
      · subst hsame
        rw [withLibrary_owners_self] at hname
        obtain rfl := Option.some.inj hname
        exact ⟨request.library, withLibrary_sources_self .., rfl⟩
      · rw [withLibrary_owners_of_ne _ _ _ _ _ _ hsame] at hname
        obtain ⟨path, hpath, hrest⟩ := h.owned name key hname
        refine ⟨path, ?_, hrest⟩
        rw [withLibrary_sources_of_ne]
        · exact hpath
        · rintro rfl
          rw [hprevious] at hpath
          cases hpath
    · rw [withLibrary_dynamicPlugins, List.map_append, List.nodup_append]
      refine ⟨h.distinct, List.nodup_singleton _, ?_⟩
      intro name hin name' hin' hsame
      obtain ⟨loader', hloader, rfl⟩ := List.mem_map.mp hin
      obtain rfl : name' = pathName request.library := by simpa using hin'
      exact hloaders loader' hloader hsame
    · intro loader' hin
      rw [withLibrary_dynamicPlugins] at hin
      rcases List.mem_append.mp hin with hold | hnew
      · obtain ⟨key, hkey⟩ := h.loader loader' hold
        refine ⟨key, ?_⟩
        rw [withLibrary_sources_of_ne]
        · exact hkey
        · rintro rfl
          rw [hprevious] at hkey
          cases hkey
      · obtain rfl := List.mem_singleton.mp hnew
        exact ⟨request.key, withLibrary_sources_self ..⟩
    · intro kind type path hpath
      by_cases hkey : sourceKey kind type = request.key
      · obtain ⟨rfl, rfl⟩ := sourceKey_inj hkey
        have hself := withLibrary_sources_self registry platform request
          (registry.dynamicPlugins ++ [⟨request.library, library⟩]) ⟨request.library, library⟩ create
        rw [show sourceKey request.kind request.type = request.key from rfl, hself] at hpath
        obtain rfl := Option.some.inj hpath
        exact ⟨⟨request.library, library⟩, by simp, create, rfl, hexported,
          withLibrary_factories_self ..⟩
      · rw [withLibrary_sources_of_ne _ _ _ _ _ _ hkey] at hpath
        obtain ⟨loader', hin, create', hrest⟩ := h.served kind type path hpath
        refine ⟨loader', List.mem_append_left _ hin, create', ?_⟩
        rw [withLibrary_factories_of_ne _ _ _ _ _ _ hkey]
        exact hrest

/-- One entry. -/
theorem Loaded.step (h : Loaded platform initial done registry)
    (he : LoadEffect platform registry request registry') :
    Loaded platform initial (done ++ [request]) registry' := by
  cases he with
  | registered hlibrary hfactory =>
    exact h.same hfactory fun hne => absurd hlibrary hne
  | again hlibrary hprevious hsame =>
    -- a key with a source has a factory
    obtain ⟨loader, -, create, -, -, hfactory⟩ := h.served request.kind request.type _ hprevious
    exact h.same (by rw [hfactory]; rfl) fun _ => ⟨_, hprevious, hsame⟩
  | loaded hlibrary hprevious hfactory howner hopened hexported =>
    exact h.loaded hlibrary hprevious hfactory howner hopened hexported

end Step

end MiniGateway
