/-
  No library is called after it has been closed, and none is left open.

  `Owned` is the invariant of the host.  It keeps two logs in order, that of the libraries and that
  of the objects: a library is held by the registry or by an object, an object by whoever has been
  given it.  `pending` are the libraries whose last owner may just have gone; closing them restores
  `pending = []`.
-/
import MiniGateway.Plugins.Lifetime

namespace MiniGateway

/-! ### The two logs -/

/-- What the call is to its library. -/
def LibraryCall.libraryAct : LibraryCall → PathName × Lease.Act Unit
  | .openLibrary library => (library, .acquire ())
  | .createFailed library | .createPlugin library _ | .callPlugin library _
  | .destroyPlugin library _ => (library, .use ())
  | .closeLibrary library => (library, .release ())

/-- What the call is to its object. -/
def LibraryCall.objectAct : LibraryCall → Option (ℕ × Lease.Act Unit)
  | .createPlugin _ object => some (object, .acquire ())
  | .callPlugin _ object => some (object, .use ())
  | .destroyPlugin _ object => some (object, .release ())
  | .openLibrary _ | .createFailed _ | .closeLibrary _ => none

def libraryLog (log : List LibraryCall) : List (PathName × Lease.Act Unit) :=
  log.map LibraryCall.libraryAct

def objectLog (log : List LibraryCall) : List (ℕ × Lease.Act Unit) :=
  log.filterMap LibraryCall.objectAct

@[simp] theorem libraryLog_append (log log' : List LibraryCall) :
    libraryLog (log ++ log') = libraryLog log ++ libraryLog log' :=
  List.map_append ..

@[simp] theorem objectLog_append (log log' : List LibraryCall) :
    objectLog (log ++ log') = objectLog log ++ objectLog log' :=
  List.filterMap_append ..

section InOrder

variable {library : PathName} {log : List LibraryCall}
  {opens opens' : List PathName} {alive alive' : List ℕ} {id : ℕ}

/-- The libraries in the order in which they are opened. -/
def openedLibraries (log : List LibraryCall) : List PathName :=
  Lease.acquisitions (libraryLog log)

/-- The objects in the order in which the libraries make them. -/
def createdObjects (log : List LibraryCall) : List ℕ :=
  Lease.acquisitions (objectLog log)

@[simp] theorem openedLibraries_append (log log' : List LibraryCall) :
    openedLibraries (log ++ log') = openedLibraries log ++ openedLibraries log' := by
  rw [openedLibraries, libraryLog_append, Lease.acquisitions_append]
  rfl

@[simp] theorem createdObjects_append (log log' : List LibraryCall) :
    createdObjects (log ++ log') = createdObjects log ++ createdObjects log' := by
  rw [createdObjects, objectLog_append, Lease.acquisitions_append]
  rfl

theorem libraryLog_openLibrary (names : List PathName) :
    libraryLog (names.map .openLibrary) = names.map fun name => (name, .acquire ()) :=
  List.map_map

theorem libraryLog_closeLibrary (names : List PathName) :
    libraryLog (names.map .closeLibrary) = names.map fun name => (name, .release ()) :=
  List.map_map

@[simp] theorem openedLibraries_openLibrary (names : List PathName) :
    openedLibraries (names.map .openLibrary) = names := by
  rw [openedLibraries, libraryLog_openLibrary, Lease.acquisitions, List.filterMap_map]
  exact List.filterMap_some

@[simp] theorem openedLibraries_closeLibrary (names : List PathName) :
    openedLibraries (names.map .closeLibrary) = [] := by
  rw [openedLibraries, libraryLog_closeLibrary, Lease.acquisitions, List.filterMap_map]
  exact List.filterMap_eq_nil_iff.mpr fun _ _ => rfl

theorem objectLog_of_libraries {calls : List LibraryCall}
    (h : ∀ call ∈ calls, call.objectAct = none) : objectLog calls = [] :=
  List.filterMap_eq_nil_iff.mpr h

@[simp] theorem objectLog_openLibrary (names : List PathName) :
    objectLog (names.map .openLibrary) = [] := by
  refine objectLog_of_libraries fun call hin => ?_
  obtain ⟨name, -, rfl⟩ := List.mem_map.mp hin
  rfl

@[simp] theorem objectLog_closeLibrary (names : List PathName) :
    objectLog (names.map .closeLibrary) = [] := by
  refine objectLog_of_libraries fun call hin => ?_
  obtain ⟨name, -, rfl⟩ := List.mem_map.mp hin
  rfl

/-- Both logs are in order; these libraries are open and these objects are alive. -/
structure InOrder (log : List LibraryCall) (opens : List PathName) (alive : List ℕ) : Prop where
  libraries : Lease.Holding (libraryLog log) opens
  objects : Lease.Holding (objectLog log) alive
  /-- No library is opened twice, and no object is created twice. -/
  opened : (openedLibraries log).Nodup
  created : (createdObjects log).Nodup

theorem InOrder.congr (h : InOrder log opens alive)
    (hopens : ∀ name, name ∈ opens ↔ name ∈ opens') (halive : ∀ id, id ∈ alive ↔ id ∈ alive') :
    InOrder log opens' alive' :=
  { h with
    libraries := h.libraries.congr hopens
    objects := h.objects.congr halive }

/-- A call that goes into a library and leaves the objects alone. -/
theorem InOrder.createFailed (h : InOrder log opens alive) (hin : library ∈ opens) :
    InOrder (log ++ [.createFailed library]) opens alive where
  libraries := (libraryLog_append ..) ▸ h.libraries.use hin
  objects := by
    rw [objectLog_append]
    exact (List.append_nil _).symm ▸ h.objects
  opened := by
    rw [openedLibraries_append]
    exact (List.append_nil _).symm ▸ h.opened
  created := by
    rw [createdObjects_append]
    exact (List.append_nil _).symm ▸ h.created

/-- A call that makes an object. -/
theorem InOrder.createPlugin (h : InOrder log opens alive) (hin : library ∈ opens)
    (hnew : id ∉ alive) (hunborn : id ∉ createdObjects log) :
    InOrder (log ++ [.createPlugin library id]) opens (alive ++ [id]) where
  libraries := (libraryLog_append ..) ▸ h.libraries.use hin
  objects := by
    rw [objectLog_append]
    exact h.objects.acquire (List.nodup_singleton id) (by simpa using hnew)
  opened := by
    rw [openedLibraries_append]
    exact (List.append_nil _).symm ▸ h.opened
  created := by
    rw [createdObjects_append]
    refine List.nodup_append.mpr ⟨h.created, List.nodup_singleton id, ?_⟩
    intro other hother id' hid' hsame
    obtain rfl : id' = id := List.mem_singleton.mp hid'
    exact hunborn (hsame ▸ hother)

/-- A call on an object. -/
theorem InOrder.callPlugin (h : InOrder log opens alive) (hin : library ∈ opens)
    (hid : id ∈ alive) : InOrder (log ++ [.callPlugin library id]) opens alive where
  libraries := (libraryLog_append ..) ▸ h.libraries.use hin
  objects := (objectLog_append ..) ▸ h.objects.use hid
  opened := by
    rw [openedLibraries_append]
    exact (List.append_nil _).symm ▸ h.opened
  created := by
    rw [createdObjects_append]
    exact (List.append_nil _).symm ▸ h.created

/-- The destruction of an object. -/
theorem InOrder.destroyPlugin (h : InOrder log opens alive) (hin : library ∈ opens)
    (hid : id ∈ alive) (halive : ∀ other, other ∈ alive' ↔ other ∈ alive ∧ other ≠ id) :
    InOrder (log ++ [.destroyPlugin library id]) opens alive' where
  libraries := (libraryLog_append ..) ▸ h.libraries.use hin
  objects := by
    rw [objectLog_append]
    exact h.objects.release (List.nodup_singleton id) (by simpa using hid) (by simpa using halive)
  opened := by
    rw [openedLibraries_append]
    exact (List.append_nil _).symm ▸ h.opened
  created := by
    rw [createdObjects_append]
    exact (List.append_nil _).symm ▸ h.created

/-- Libraries that have not been open before. -/
theorem InOrder.openLibraries {names : List PathName} (h : InOrder log opens alive)
    (hnew : ∀ name ∈ names, name ∉ opens) (honce : (openedLibraries log ++ names).Nodup) :
    InOrder (log ++ names.map .openLibrary) (opens ++ names) alive where
  libraries := by
    rw [libraryLog_append, libraryLog_openLibrary]
    exact h.libraries.acquire (List.nodup_append.mp honce).2.1 hnew
  objects := by simpa using h.objects
  opened := by simpa using honce
  created := by
    rw [createdObjects, objectLog_append, objectLog_openLibrary, List.append_nil]
    exact h.created

/-- Libraries that are open. -/
theorem InOrder.closeLibraries {names : List PathName} (h : InOrder log opens alive)
    (hnodup : names.Nodup) (hin : ∀ name ∈ names, name ∈ opens)
    (hopens : ∀ name, name ∈ opens' ↔ name ∈ opens ∧ name ∉ names) :
    InOrder (log ++ names.map .closeLibrary) opens' alive where
  libraries := by
    rw [libraryLog_append, libraryLog_closeLibrary]
    exact h.libraries.release hnodup hin hopens
  objects := by simpa using h.objects
  opened := by simpa using h.opened
  created := by
    rw [createdObjects, objectLog_append, objectLog_closeLibrary, List.append_nil]
    exact h.created

end InOrder

/-! ### The invariant -/

variable {Raw : Type} {load : ByteString → Except ByteString (PluginExports Raw)}
  {host host' : PluginHost Raw} {registry registry' : ObjectRegistry Raw}
  {pending : List PathName} {plugin : PluginObject Raw} {library : PathName} {id : ℕ}

/-- The objects of libraries that somebody owns. -/
def PluginHost.owned (host : PluginHost Raw) : List ℕ :=
  host.instances.filterMap fun made => made.plugin.library?.map fun _ => made.id

/-- The objects of the registry's factories come from the libraries that it has open. -/
def PluginRegistry.MakesOwn (registry : ObjectRegistry Raw) : Prop :=
  ∀ kind type factory, registry.factories kind type = some factory →
    ∀ settings plugin, factory settings = .ok (some plugin) →
      ∀ library, plugin.library? = some library → library ∈ registry.libraries

structure Owned (load : ByteString → Except ByteString (PluginExports Raw))
    (pending : List PathName) (host : PluginHost Raw) : Prop where
  sound : ∀ registry, host.registry = some registry → registry.Sound (objectPlatform load)
  makesOwn : ∀ registry, host.registry = some registry → registry.MakesOwn
  /-- While the registry is there, it holds every library. -/
  inside : ∀ registry, host.registry = some registry → ∀ made ∈ host.instances,
    ∀ library, made.plugin.library? = some library → library ∈ registry.libraries
  ids : (host.instances.map (·.id)).Nodup
  fresh : ∀ made ∈ host.instances, made.id < host.created
  inOrder : InOrder host.log (host.held ++ pending) host.owned
  openedBy : ∀ registry, host.registry = some registry →
    openedLibraries host.log = registry.libraries
  createdBefore : ∀ id ∈ createdObjects host.log, id < host.created

theorem mem_owned : id ∈ host.owned ↔
    ∃ made ∈ host.instances, made.plugin.library?.isSome = true ∧ made.id = id := by
  simp only [PluginHost.owned, List.mem_filterMap, Option.map_eq_some_iff,
    Option.isSome_iff_exists]
  constructor
  · rintro ⟨made, hin, library, hlibrary, hid⟩
    exact ⟨made, hin, ⟨library, hlibrary⟩, hid⟩
  · rintro ⟨made, hin, ⟨library, hlibrary⟩, hid⟩
    exact ⟨made, hin, library, hlibrary, hid⟩

theorem mem_held : library ∈ host.held ↔
    (∃ registry, host.registry = some registry ∧ library ∈ registry.libraries) ∨
      ∃ made ∈ host.instances, made.plugin.library? = some library := by
  cases hregistry : host.registry with
  | none => simp [PluginHost.held, hregistry]
  | some registry => simp [PluginHost.held, hregistry]

/-- A number that is still to be given out belongs to no object. -/
theorem Owned.not_owned (h : Owned load pending host) : host.created ∉ host.owned := by
  intro hin
  obtain ⟨made, hmade, -, hid⟩ := mem_owned.mp hin
  have hlt := h.fresh made hmade
  omega

theorem Owned.not_created (h : Owned load pending host) :
    host.created ∉ createdObjects host.log :=
  fun hin => absurd (h.createdBefore _ hin) (lt_irrefl _)

/-! ### Making an object -/

/-- A call of `create_plugin` that fails. -/
theorem Owned.createFailed (h : Owned load [] host) (hregistry : host.registry = some registry)
    (hlibrary : library ∈ registry.libraries) :
    Owned load [] (host.record [.createFailed library]) where
  sound := h.sound
  makesOwn := h.makesOwn
  inside := h.inside
  ids := h.ids
  fresh := h.fresh
  inOrder := h.inOrder.createFailed
    (List.mem_append_left _ (mem_held.mpr (.inl ⟨registry, hregistry, hlibrary⟩)))
  openedBy registry' hregistry' := by
    show openedLibraries (_ ++ _) = _
    rw [openedLibraries_append]
    exact (List.append_nil _).trans (h.openedBy registry' hregistry')
  createdBefore id hin := by
    refine h.createdBefore id ?_
    have hcreated : createdObjects (host.log ++ [.createFailed library]) =
        createdObjects host.log := (createdObjects_append ..).trans (List.append_nil _)
    rwa [PluginHost.record, hcreated] at hin

/-- An object without a library leaves no trace; otherwise there is one call. -/
theorem calls_cases (plugin : PluginObject Raw) :
    plugin.library? = none ∧ (∀ call, plugin.calls call = []) ∨
      ∃ library, plugin.library? = some library ∧ ∀ call, plugin.calls call = [call library] := by
  cases plugin with
  | direct => exact .inl ⟨rfl, fun _ => rfl⟩
  | loaded loader raw => exact .inr ⟨pathName loader.path, rfl, fun _ => rfl⟩

theorem openedLibraries_calls (plugin : PluginObject Raw) {call : PathName → LibraryCall}
    (hcall : ∀ library, openedLibraries [call library] = []) :
    openedLibraries (plugin.calls call) = [] := by
  rcases calls_cases plugin with ⟨-, hcalls⟩ | ⟨library, -, hcalls⟩
  · exact hcalls call ▸ rfl
  · exact hcalls call ▸ hcall library

theorem createdObjects_calls (plugin : PluginObject Raw) {call : PathName → LibraryCall}
    (hcall : ∀ library, createdObjects [call library] = []) :
    createdObjects (plugin.calls call) = [] := by
  rcases calls_cases plugin with ⟨-, hcalls⟩ | ⟨library, -, hcalls⟩
  · exact hcalls call ▸ rfl
  · exact hcalls call ▸ hcall library

/-- The members of an object that has just been made. -/
theorem Owned.ids_append (h : Owned load pending host) (kind : PluginKind) :
    ((host.add kind plugin).instances.map (·.id)).Nodup := by
  rw [show (host.add kind plugin).instances =
    host.instances ++ [⟨host.created, kind, plugin⟩] from rfl, List.map_append, List.nodup_append]
  refine ⟨h.ids, List.nodup_singleton host.created, ?_⟩
  intro id hid id' hid' hsame
  obtain ⟨made, hmade, rfl⟩ := List.mem_map.mp hid
  obtain rfl : id' = host.created := List.mem_singleton.mp hid'
  exact absurd (h.fresh made hmade) (by omega)

private theorem mem_created_succ {calls : List LibraryCall} (h : Owned load pending host)
    (hcalls : ∀ id ∈ createdObjects calls, id = host.created) :
    ∀ id ∈ createdObjects (host.log ++ calls), id < host.created + 1 := by
  intro id hin
  rw [createdObjects_append] at hin
  rcases List.mem_append.mp hin with hold | hnew
  · exact Nat.lt_succ_of_lt (h.createdBefore id hold)
  · exact hcalls id hnew ▸ Nat.lt_succ_self _

/-- The libraries that are held stay so when an object of one of them is added. -/
theorem held_add (hregistry : host.registry = some registry) (kind : PluginKind)
    (hplugin : ∀ library, plugin.library? = some library → library ∈ registry.libraries) :
    library ∈ (host.add kind plugin).held ↔ library ∈ host.held := by
  rw [mem_held, mem_held]
  constructor
  · rintro (hin | ⟨made, hmade, hlibrary⟩)
    · exact .inl hin
    · rcases List.mem_append.mp hmade with hold | hnew
      · exact .inr ⟨made, hold, hlibrary⟩
      · obtain rfl := List.mem_singleton.mp hnew
        exact .inl ⟨registry, hregistry, hplugin library hlibrary⟩
  · rintro (hin | ⟨made, hmade, hlibrary⟩)
    · exact .inl hin
    · exact .inr ⟨made, List.mem_append_left _ hmade, hlibrary⟩

theorem owned_add (host : PluginHost Raw) (kind : PluginKind) (plugin : PluginObject Raw) :
    (host.add kind plugin).owned =
      host.owned ++ (plugin.library?.map fun _ => host.created).toList := by
  show List.filterMap _ (_ ++ [_]) = _
  rw [List.filterMap_append]
  congr 1

theorem Owned.add (h : Owned load [] host) (hregistry : host.registry = some registry)
    (kind : PluginKind)
    (hplugin : ∀ library, plugin.library? = some library → library ∈ registry.libraries) :
    Owned load [] (host.add kind plugin) where
  sound := h.sound
  makesOwn := h.makesOwn
  inside := by
    intro registry' hregistry' made hmade library hlibrary
    rcases List.mem_append.mp hmade with hold | hnew
    · exact h.inside registry' hregistry' made hold library hlibrary
    · obtain rfl := List.mem_singleton.mp hnew
      obtain rfl : registry = registry' := Option.some.inj (hregistry.symm.trans hregistry')
      exact hplugin library hlibrary
  ids := h.ids_append kind
  fresh := by
    intro made hmade
    rcases List.mem_append.mp hmade with hold | hnew
    · exact Nat.lt_succ_of_lt (h.fresh made hold)
    · obtain rfl := List.mem_singleton.mp hnew
      exact Nat.lt_succ_self host.created
  inOrder := by
    rw [owned_add, List.append_nil]
    have horder := h.inOrder
    rw [List.append_nil] at horder
    refine InOrder.congr ?_ (fun library => (held_add hregistry kind hplugin).symm) fun _ => .rfl
    show InOrder (host.log ++ plugin.calls _) _ _
    rcases calls_cases plugin with ⟨hnone, hcalls⟩ | ⟨library, hlibrary, hcalls⟩
    · rw [hcalls, hnone, List.append_nil]
      exact (List.append_nil _).symm ▸ horder
    · rw [hcalls, hlibrary]
      refine horder.createPlugin ?_ h.not_owned h.not_created
      exact mem_held.mpr (.inl ⟨registry, hregistry, hplugin library hlibrary⟩)
  openedBy registry' hregistry' := by
    show openedLibraries (host.log ++ plugin.calls _) = _
    rw [openedLibraries_append, openedLibraries_calls _ fun _ => rfl, List.append_nil]
    exact h.openedBy registry' hregistry'
  createdBefore := by
    refine mem_created_succ h fun id hin => ?_
    rcases calls_cases plugin with ⟨-, hcalls⟩ | ⟨library, -, hcalls⟩
    · rw [hcalls] at hin
      exact absurd hin List.not_mem_nil
    · rw [hcalls] at hin
      exact List.mem_singleton.mp hin

theorem Owned.discard (h : Owned load [] host) (hregistry : host.registry = some registry)
    (hplugin : ∀ library, plugin.library? = some library → library ∈ registry.libraries) :
    Owned load [] (host.discard plugin) where
  sound := h.sound
  makesOwn := h.makesOwn
  inside := h.inside
  ids := h.ids
  fresh made hmade := Nat.lt_succ_of_lt (h.fresh made hmade)
  inOrder := by
    have horder := h.inOrder
    show InOrder (host.log ++ plugin.calls _ ++ plugin.calls _) (host.held ++ []) host.owned
    rcases calls_cases plugin with ⟨hnone, hcalls⟩ | ⟨library, hlibrary, hcalls⟩
    · rw [hcalls, hcalls, List.append_nil, List.append_nil]
      exact horder
    · rw [hcalls, hcalls]
      have hheld : library ∈ host.held ++ [] :=
        List.mem_append_left _
          (mem_held.mpr (.inl ⟨registry, hregistry, hplugin library hlibrary⟩))
      have hmade := horder.createPlugin hheld h.not_owned h.not_created
      refine hmade.destroyPlugin hheld (by simp) fun other => ?_
      constructor
      · intro hin
        exact ⟨List.mem_append_left _ hin, fun hsame => h.not_owned (hsame ▸ hin)⟩
      · rintro ⟨hin, hne⟩
        rcases List.mem_append.mp hin with hold | hnew
        · exact hold
        · exact absurd (List.mem_singleton.mp hnew) hne
  openedBy registry' hregistry' := by
    show openedLibraries (host.log ++ plugin.calls _ ++ plugin.calls _) = _
    rw [openedLibraries_append, openedLibraries_append, openedLibraries_calls _ fun _ => rfl,
      openedLibraries_calls _ fun _ => rfl, List.append_nil, List.append_nil]
    exact h.openedBy registry' hregistry'
  createdBefore := by
    show ∀ id ∈ createdObjects (host.log ++ plugin.calls _ ++ plugin.calls _), _
    rw [List.append_assoc]
    refine mem_created_succ h fun id hin => ?_
    rcases calls_cases plugin with ⟨-, hcalls⟩ | ⟨library, -, hcalls⟩
    · rw [hcalls, hcalls] at hin
      exact absurd hin List.not_mem_nil
    · rw [hcalls, hcalls] at hin
      exact List.mem_singleton.mp hin

/-! ### The destructors -/

/-- **Closing what nobody holds any more.** -/
theorem Owned.close (h : Owned load pending host) (hnodup : pending.Nodup) :
    Owned load [] (host.close pending) where
  sound := h.sound
  makesOwn := h.makesOwn
  inside := h.inside
  ids := h.ids
  fresh := h.fresh
  inOrder := by
    refine h.inOrder.closeLibraries (hnodup.filter _) ?_ fun name => ?_
    · intro name hin
      exact List.mem_append_right _ (List.mem_of_mem_filter hin)
    · show name ∈ host.held ++ [] ↔ _
      simp only [List.append_nil, List.mem_append, List.mem_filter, decide_not, Bool.not_eq_true',
        decide_eq_false_iff_not]
      tauto
  openedBy registry hregistry := by
    show openedLibraries (host.log ++ _) = _
    rw [openedLibraries_append, openedLibraries_closeLibrary, List.append_nil]
    exact h.openedBy registry hregistry
  createdBefore := by
    show ∀ id ∈ createdObjects (host.log ++ _), _
    rw [createdObjects, objectLog_append, objectLog_closeLibrary, List.append_nil]
    exact h.createdBefore

theorem Owned.destroyRegistry (h : Owned load [] host) (hregistry : host.registry = some registry) :
    Owned load [] (host.destroyRegistry registry) := by
  refine Owned.close ?_ (h.sound registry hregistry).distinct
  exact {
    sound := fun registry' hnone => by cases hnone
    makesOwn := fun registry' hnone => by cases hnone
    inside := fun registry' hnone => by cases hnone
    ids := h.ids
    fresh := h.fresh
    inOrder := by
      refine h.inOrder.congr (fun library => ?_) fun _ => .rfl
      simp only [PluginHost.held, hregistry, Option.map_some, Option.getD_some, Option.map_none,
        Option.getD_none, List.append_nil, List.nil_append, List.mem_append]
      exact or_comm
    openedBy := fun registry' hnone => by cases hnone
    createdBefore := h.createdBefore }

theorem mem_remove_instances {made other : PluginInstance Raw} :
    other ∈ (host.remove made id).instances ↔ other ∈ host.instances ∧ other.id ≠ id := by
  simp [PluginHost.remove]

theorem Owned.remove (h : Owned load [] host) {made : PluginInstance Raw}
    (hmade : made ∈ host.instances) (hid : made.id = id) :
    Owned load made.plugin.library?.toList (host.remove made id) := by
  -- no other object has the number
  have hunique : ∀ other ∈ host.instances, other.id = id → other = made := by
    intro other hother hsame
    exact List.inj_on_of_nodup_map h.ids hother hmade (hsame.trans hid.symm)
  have hheld : ∀ name, name ∈ host.held ↔
      name ∈ (host.remove made id).held ++ made.plugin.library?.toList := by
    intro name
    rw [List.mem_append, mem_held, mem_held]
    constructor
    · rintro (hin | ⟨other, hother, hlibrary⟩)
      · exact .inl (.inl hin)
      · by_cases hsame : other.id = id
        · obtain rfl := hunique other hother hsame
          exact .inr (by simp [hlibrary])
        · exact .inl (.inr ⟨other, mem_remove_instances.mpr ⟨hother, hsame⟩, hlibrary⟩)
    · rintro ((hin | ⟨other, hother, hlibrary⟩) | hlast)
      · exact .inl hin
      · exact .inr ⟨other, (mem_remove_instances.mp hother).1, hlibrary⟩
      · exact .inr ⟨made, hmade, by simpa using hlast⟩
  have howned : ∀ other, other ∈ (host.remove made id).owned ↔ other ∈ host.owned ∧ other ≠ id := by
    intro other
    rw [mem_owned, mem_owned]
    constructor
    · rintro ⟨object, hobject, hlibrary, rfl⟩
      obtain ⟨hin, hne⟩ := mem_remove_instances.mp hobject
      exact ⟨⟨object, hin, hlibrary, rfl⟩, hne⟩
    · rintro ⟨⟨object, hin, hlibrary, rfl⟩, hne⟩
      exact ⟨object, mem_remove_instances.mpr ⟨hin, hne⟩, hlibrary, rfl⟩
  exact {
    sound := h.sound
    makesOwn := h.makesOwn
    inside := fun registry hregistry other hother =>
      h.inside registry hregistry other (mem_remove_instances.mp hother).1
    ids := h.ids.sublist (List.filter_sublist.map _)
    fresh := fun other hother => h.fresh other (mem_remove_instances.mp hother).1
    inOrder := by
      have horder := h.inOrder
      rw [List.append_nil] at horder
      refine InOrder.congr ?_ hheld fun _ => .rfl
      show InOrder (host.log ++ made.plugin.calls _) _ _
      rcases calls_cases made.plugin with ⟨hnone, hcalls⟩ | ⟨library, hlibrary, hcalls⟩
      · rw [hcalls, List.append_nil]
        refine horder.congr (fun _ => .rfl) fun other => ?_
        rw [howned, and_iff_left_of_imp]
        rintro hin rfl
        obtain ⟨object, hobject, hsome, hsame⟩ := mem_owned.mp hin
        obtain rfl := hunique object hobject hsame
        rw [hnone] at hsome
        cases hsome
      · rw [hcalls]
        refine horder.destroyPlugin ?_ ?_ howned
        · exact mem_held.mpr (.inr ⟨made, hmade, hlibrary⟩)
        · exact mem_owned.mpr ⟨made, hmade, by rw [hlibrary]; rfl, hid⟩
    openedBy := fun registry hregistry => by
      show openedLibraries (host.log ++ _) = _
      rw [openedLibraries_append, openedLibraries_calls _ fun _ => rfl, List.append_nil]
      exact h.openedBy registry hregistry
    createdBefore := by
      show ∀ id ∈ createdObjects (host.log ++ _), _
      rw [createdObjects_append, createdObjects_calls _ fun _ => rfl, List.append_nil]
      exact h.createdBefore }

theorem Owned.destroy (h : Owned load [] host) (id : ℕ) : Owned load [] (host.destroy id) := by
  unfold PluginHost.destroy
  split
  · exact h
  · rename_i made hfind
    have hid : made.id = id := by simpa using List.find?_some hfind
    refine (h.remove (List.mem_of_find?_eq_some hfind) hid).close ?_
    cases made.plugin.library? <;> simp

theorem Owned.unwind (h : Owned load [] host) (first : ℕ) : Owned load [] (host.unwind first) := by
  unfold PluginHost.unwind
  generalize (PluginHost.unwinding.flatMap fun kind =>
    (host.instances.filter fun made => made.kind = kind ∧ first ≤ made.id).map (·.id)) = ids
  induction ids generalizing host with
  | nil => exact h
  | cons id ids ih => exact ih (h.destroy id)

/-- A member function of an object. -/
theorem Owned.call (h : Owned load [] host) {made : PluginInstance Raw}
    (hmade : made ∈ host.instances) (hid : made.id = id) :
    Owned load [] (host.record (made.plugin.calls (.callPlugin · id))) where
  sound := h.sound
  makesOwn := h.makesOwn
  inside := h.inside
  ids := h.ids
  fresh := h.fresh
  inOrder := by
    show InOrder (host.log ++ made.plugin.calls _) (host.held ++ []) host.owned
    rcases calls_cases made.plugin with ⟨-, hcalls⟩ | ⟨library, hlibrary, hcalls⟩
    · rw [hcalls, List.append_nil]
      exact h.inOrder
    · rw [hcalls]
      refine h.inOrder.callPlugin (List.mem_append_left _ ?_) ?_
      · exact mem_held.mpr (.inr ⟨made, hmade, hlibrary⟩)
      · exact mem_owned.mpr ⟨made, hmade, by rw [hlibrary]; rfl, hid⟩
  openedBy registry hregistry := by
    show openedLibraries (host.log ++ _) = _
    rw [openedLibraries_append, openedLibraries_calls _ fun _ => rfl, List.append_nil]
    exact h.openedBy registry hregistry
  createdBefore := by
    show ∀ id ∈ createdObjects (host.log ++ _), _
    rw [createdObjects_append, createdObjects_calls _ fun _ => rfl, List.append_nil]
    exact h.createdBefore

end MiniGateway
