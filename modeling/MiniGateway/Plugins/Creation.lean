/-
  `create` makes the objects of every entry or of none.

  The four loops of `create` go through the entries in one order (`entries`).  An entry that throws
  is the last one that is tried, and the objects of the entries before it go down with the
  `PluginInstances` that they are in.
-/
import MiniGateway.Plugins.Unloading

namespace MiniGateway

open Throwing (Returns Throws returns_bind throws_bind bind_eq_ok bind_eq_error)

variable {Raw : Type} {load : ByteString → Except ByteString (PluginExports Raw)}
  {host host' : PluginHost Raw} {registry : ObjectRegistry Raw} {allocates : ℕ → Bool}
  {config : ApplicationConfig}

/-! ### The entries -/

/-- An entry for which `create` makes an object. -/
structure CreateEntry where
  kind : PluginKind
  type : ByteString
  settings : ByteString

/-- The entry of a list. -/
def createEntry (kind : PluginKind) (spec : PluginConfig) : CreateEntry :=
  ⟨kind, spec.type, spec.settingsJson⟩

/-- The entries in the order of the loops of `create`. -/
def entries (config : ApplicationConfig) : List CreateEntry :=
  (config.gateway.devices.map fun device =>
      ⟨.driver, device.driver.type, device.driver.settingsJson⟩) ++
    ((config.processors.filter (·.enabled)).map (createEntry .processor) ++
      ((config.eventPublishers.filter (·.enabled)).map (createEntry .eventPublisher) ++
        (config.deviceControlSources.filter (·.enabled)).map (createEntry .deviceControlSource)))

/-- What the factory of the entry returns. -/
def CreateEntry.instantiate (entry : CreateEntry) (registry : ObjectRegistry Raw) :
    Except CreateError (PluginObject Raw) :=
  registry.instantiate entry.kind entry.type entry.settings

/-- The entry in the loops. -/
def CreateEntry.make (entry : CreateEntry) (registry : ObjectRegistry Raw) (allocates : ℕ → Bool) :
    Throwing CreateError (PluginHost Raw) Unit :=
  PluginHost.make registry allocates entry.kind entry.type entry.settings

theorem makeAll_eq : PluginHost.makeAll registry allocates config =
    (entries config).forM fun entry => entry.make registry allocates := by
  simp only [entries, List.forM_eq_forM, List.forM_append, List.forM_map]
  rfl

/-- The object is the one that the entry's factory returns. -/
def CreateEntry.Makes (registry : ObjectRegistry Raw) (entry : CreateEntry)
    (object : PluginKind × PluginObject Raw) : Prop :=
  object.1 = entry.kind ∧ entry.instantiate registry = .ok object.2

/-- The objects in the order of the entries. -/
def PluginInstances.objects (instances : PluginInstances fun _ => PluginObject Raw) :
    List (PluginKind × PluginObject Raw) :=
  (instances.drivers.map fun driver => (.driver, driver.2)) ++
    ((instances.processors.map fun processor => (.processor, processor)) ++
      ((instances.eventPublishers.map fun publisher => (.eventPublisher, publisher.2)) ++
        instances.sources.map fun source => (.deviceControlSource, source)))

theorem create_makes {instances : PluginInstances fun _ => PluginObject Raw}
    (h : registry.create config = .ok instances) :
    List.Forall₂ (CreateEntry.Makes registry) (entries config) instances.objects := by
  simp only [PluginRegistry.create, bind_eq_ok] at h
  obtain ⟨drivers, hdrivers, processors, hprocessors, publishers, hpublishers, sources, hsources,
    hinstances⟩ := h
  obtain rfl := Except.ok.inj hinstances
  have hlist : ∀ (kind : PluginKind) (specs : List PluginConfig)
      (plugins : List (PluginObject Raw)),
      (specs.mapM fun spec => registry.instantiate kind spec.type spec.settingsJson) =
        .ok plugins → List.Forall₂ (CreateEntry.Makes registry) (specs.map (createEntry kind))
          (plugins.map fun plugin => (kind, plugin)) := by
    intro kind specs plugins hplugins
    rw [List.forall₂_map_left_iff, List.forall₂_map_right_iff]
    exact Throwing.forall₂_of_mapM hplugins fun spec _ plugin hplugin => ⟨rfl, hplugin⟩
  refine List.rel_append ?_ (List.rel_append (hlist .processor _ _ hprocessors)
    (List.rel_append ?_ (hlist .deviceControlSource _ _ hsources)))
  · rw [List.forall₂_map_left_iff, List.forall₂_map_right_iff]
    refine Throwing.forall₂_of_mapM hdrivers fun device _ driver hdriver => ?_
    obtain ⟨plugin, hplugin, hpair⟩ := bind_eq_ok.mp hdriver
    obtain rfl := Except.ok.inj hpair
    exact ⟨rfl, hplugin⟩
  · rw [List.forall₂_map_left_iff, List.forall₂_map_right_iff]
    refine Throwing.forall₂_of_mapM hpublishers fun spec _ publisher hpublisher => ?_
    obtain ⟨plugin, hplugin, hpair⟩ := bind_eq_ok.mp hpublisher
    obtain rfl := Except.ok.inj hpair
    exact ⟨rfl, hplugin⟩

theorem create_fails {e : CreateError} (h : registry.create config = .error e) :
    ∃ entry ∈ entries config, ∃ e', entry.instantiate registry = .error e' := by
  simp only [PluginRegistry.create, bind_eq_error] at h
  have hlist : ∀ (kind : PluginKind) (specs : List PluginConfig),
      (∃ spec ∈ specs, registry.instantiate kind spec.type spec.settingsJson = .error e) →
        ∃ entry ∈ specs.map (createEntry kind), ∃ e', entry.instantiate registry = .error e' := by
    rintro kind specs ⟨spec, hin, hspec⟩
    exact ⟨createEntry kind spec, List.mem_map_of_mem hin, e, hspec⟩
  simp only [entries, List.mem_append]
  rcases h with hdrivers | ⟨_, -, hprocessors | ⟨_, -, hpublishers | ⟨_, -, hsources |
    ⟨_, -, hend⟩⟩⟩⟩
  · obtain ⟨device, hin, hdriver⟩ := Throwing.error_of_mapM hdrivers
    rcases bind_eq_error.mp hdriver with hdriver | ⟨_, -, hend⟩
    · exact ⟨_, .inl (List.mem_map_of_mem hin), e, hdriver⟩
    · cases hend
  · obtain ⟨entry, hentry, he⟩ := hlist .processor _ (Throwing.error_of_mapM hprocessors)
    exact ⟨entry, .inr (.inl hentry), he⟩
  · obtain ⟨spec, hin, hspec⟩ := Throwing.error_of_mapM hpublishers
    rcases bind_eq_error.mp hspec with hspec | ⟨_, -, hend⟩
    · obtain ⟨entry, hentry, he⟩ := hlist .eventPublisher _ ⟨spec, hin, hspec⟩
      exact ⟨entry, .inr (.inr (.inl hentry)), he⟩
    · cases hend
  · obtain ⟨entry, hentry, he⟩ := hlist .deviceControlSource _ (Throwing.error_of_mapM hsources)
    exact ⟨entry, .inr (.inr (.inr hentry)), he⟩
  · cases hend

/-! ### The loop -/

/-- The kind of an instance, and its object. -/
def PluginInstance.object (made : PluginInstance Raw) : PluginKind × PluginObject Raw :=
  (made.kind, made.plugin)

theorem forM_make_returns {items : List CreateEntry}
    (h : Returns (items.forM fun entry => entry.make registry allocates) host () host') :
    ∃ new, host'.instances = host.instances ++ new ∧
      List.Forall₂ (fun entry made => entry.Makes registry made.object) items new ∧
      ∀ i < items.length, allocates (host.created + i) = true := by
  induction items generalizing host with
  | nil =>
    obtain ⟨-, rfl⟩ := Throwing.returns_pure.mp h
    exact ⟨[], (List.append_nil _).symm, .nil, fun i hi => absurd hi (Nat.not_lt_zero i)⟩
  | cons entry items ih =>
    obtain ⟨⟨⟩, host₁, hmake, hrest⟩ := returns_bind.mp h
    obtain ⟨plugin, hplugin, hallocates, rfl⟩ := make_returns hmake
    obtain ⟨new, hnew, hmakes, hall⟩ := ih hrest
    refine ⟨⟨host.created, entry.kind, plugin⟩ :: new, ?_, .cons ⟨rfl, hplugin⟩ hmakes, ?_⟩
    · rw [hnew]
      exact List.append_assoc ..
    · intro i hi
      cases i with
      | zero => exact hallocates
      | succ i =>
        have hi' := hall i (Nat.lt_of_succ_lt_succ hi)
        rwa [show (host.add entry.kind plugin).created = host.created + 1 from rfl,
          Nat.add_assoc, Nat.add_comm 1 i] at hi'

theorem forM_make_throws {items : List CreateEntry}
    (h : Throws (items.forM fun entry => entry.make registry allocates) host host') :
    (∃ new, host'.instances = host.instances ++ new ∧ ∀ made ∈ new, host.created ≤ made.id) ∧
      ((∃ entry ∈ items, ∃ e, entry.instantiate registry = .error e) ∨
        ∃ i < items.length, allocates (host.created + i) = false) := by
  induction items generalizing host with
  | nil => exact (Throwing.throws_pure.mp h).elim
  | cons entry items ih =>
    rcases throws_bind.mp h with hmake | ⟨⟨⟩, host₁, hmake, hrest⟩
    · refine ⟨⟨[], ?_, fun made hmade => absurd hmade List.not_mem_nil⟩, ?_⟩
      · rcases make_throws hmake with ⟨e, -, rfl⟩ | ⟨plugin, -, -, rfl⟩
        · exact (List.append_nil _).symm
        · exact (List.append_nil _).symm
      · rcases make_throws hmake with ⟨e, he, -⟩ | ⟨plugin, -, hallocates, -⟩
        · exact .inl ⟨entry, List.mem_cons_self, e, he⟩
        · exact .inr ⟨0, Nat.succ_pos _, hallocates⟩
    · obtain ⟨plugin, hplugin, -, rfl⟩ := make_returns hmake
      obtain ⟨⟨new, hnew, hlater⟩, hcause⟩ := ih hrest
      refine ⟨⟨⟨host.created, entry.kind, plugin⟩ :: new, ?_, ?_⟩, ?_⟩
      · rw [hnew]
        exact List.append_assoc ..
      · intro made hmade
        rcases List.mem_cons.mp hmade with rfl | hmade
        · exact le_rfl
        · exact (Nat.le_succ _).trans (hlater made hmade)
      · rcases hcause with ⟨entry', hin, he⟩ | ⟨i, hi, hallocates⟩
        · exact .inl ⟨entry', List.mem_cons_of_mem _ hin, he⟩
        · refine .inr ⟨i + 1, Nat.succ_lt_succ hi, ?_⟩
          rwa [show (host.add entry.kind plugin).created = host.created + 1 from rfl,
            Nat.add_assoc, Nat.add_comm 1 i] at hallocates

/-! ### Unwinding -/

theorem destroy_instances (host : PluginHost Raw) (id : ℕ) :
    (host.destroy id).instances = host.instances.filter (·.id ≠ id) := by
  unfold PluginHost.destroy
  split
  · rename_i hnone
    symm
    rw [List.filter_eq_self]
    intro made hmade
    simpa using List.find?_eq_none.mp hnone made hmade
  · rfl

theorem unwind_instances (host : PluginHost Raw) (first : ℕ) :
    (host.unwind first).instances = host.instances.filter (·.id < first) := by
  have hfold : ∀ (ids : List ℕ) (host : PluginHost Raw),
      (ids.foldl PluginHost.destroy host).instances = host.instances.filter (·.id ∉ ids) := by
    intro ids
    induction ids with
    | nil => simp
    | cons id ids ih =>
      intro host
      rw [List.foldl_cons, ih, destroy_instances, List.filter_filter]
      simp [Bool.and_comm]
  have hkind : ∀ kind : PluginKind, kind ∈ PluginHost.unwinding := by
    intro kind
    cases kind <;> decide
  rw [PluginHost.unwind, hfold]
  refine List.filter_congr fun made hmade => ?_
  have hids : made.id ∈ PluginHost.unwinding.flatMap (fun kind =>
      (host.instances.filter fun made => made.kind = kind ∧ first ≤ made.id).map (·.id)) ↔
        first ≤ made.id := by
    simp only [List.mem_flatMap, List.mem_map, List.mem_filter, decide_eq_true_eq]
    constructor
    · rintro ⟨kind, -, other, ⟨-, -, hfirst⟩, hid⟩
      exact hid ▸ hfirst
    · intro hfirst
      exact ⟨made.kind, hkind made.kind, made, ⟨hmade, rfl, hfirst⟩, rfl⟩
  rw [decide_eq_decide, hids, not_le]

/-! ### `create` -/

theorem makes_rightUnique : Relator.RightUnique (CreateEntry.Makes registry) := by
  rintro entry ⟨kind, plugin⟩ ⟨kind', plugin'⟩ ⟨hkind, hplugin⟩ ⟨hkind', hplugin'⟩
  obtain rfl : kind = kind' := hkind.trans hkind'.symm
  rw [hplugin] at hplugin'
  obtain rfl : plugin = plugin' := Except.ok.inj hplugin'
  rfl

/-- Where every entry has its object, none fails. -/
theorem not_error_of_makes {items : List CreateEntry}
    {objects : List (PluginKind × PluginObject Raw)}
    (h : List.Forall₂ (CreateEntry.Makes registry) items objects) :
    ¬ ∃ entry ∈ items, ∃ e, entry.instantiate registry = .error e := by
  induction h with
  | nil =>
    rintro ⟨entry, hin, -⟩
    exact List.not_mem_nil hin
  | cons hmakes _ ih =>
    rintro ⟨entry, hin, e, he⟩
    rcases List.mem_cons.mp hin with rfl | hin
    · rw [hmakes.2] at he
      cases he
    · exact ih ⟨entry, hin, e, he⟩

/-- What a call of `create` leaves. -/
inductive Creation (registry : ObjectRegistry Raw) (allocates : ℕ → Bool)
    (config : ApplicationConfig) (host host' : PluginHost Raw) : Prop
  /-- The objects that `PluginRegistry.create` returns, in its order. -/
  | all (instances : PluginInstances fun _ => PluginObject Raw) (new : List (PluginInstance Raw))
      (created : registry.create config = .ok instances)
      (memory : ∀ i < (entries config).length, allocates (host.created + i) = true)
      (added : host'.instances = host.instances ++ new)
      (objects : new.map PluginInstance.object = instances.objects)
  | nothing (cause : (∃ e, registry.create config = .error e) ∨
        ∃ i < (entries config).length, allocates (host.created + i) = false)
      (same : host'.instances = host.instances)

/-- **`create` makes what `PluginRegistry.create` returns, or leaves no object behind.** -/
theorem create_all_or_nothing (h : (hostSystem load).Reachable host)
    (hstep : (hostSystem load).step host (.create config allocates) = some host') :
    ∃ registry, host.registry = some registry ∧ Creation registry allocates config host host' := by
  have hhost := owned_of_reachable h
  obtain ⟨registry, hregistry, rfl⟩ := Option.map_eq_some_iff.mp hstep
  refine ⟨registry, hregistry, ?_⟩
  unfold PluginHost.create
  split
  · rename_i host' hrun
    have hreturns : Returns (PluginHost.makeAll registry allocates config) host () host' := hrun
    rw [makeAll_eq] at hreturns
    obtain ⟨new, hnew, hmakes, hallocates⟩ := forM_make_returns hreturns
    rw [← List.forall₂_map_right_iff] at hmakes
    cases hcreate : registry.create config with
    | error e => exact absurd (create_fails hcreate) (not_error_of_makes hmakes)
    | ok instances =>
      exact .all instances new hcreate hallocates hnew
        (makes_rightUnique.forall₂ hmakes (create_makes hcreate))
  · rename_i e host' hrun
    have hthrows : Throws (PluginHost.makeAll registry allocates config) host host' := ⟨e, hrun⟩
    rw [makeAll_eq] at hthrows
    obtain ⟨⟨new, hnew, hlater⟩, hcause⟩ := forM_make_throws hthrows
    refine .nothing ?_ ?_
    · rcases hcause with herror | hmemory
      · cases hcreate : registry.create config with
        | error e => exact .inl ⟨e, rfl⟩
        | ok instances => exact absurd herror (not_error_of_makes (create_makes hcreate))
      · exact .inr hmemory
    · -- the objects of this call are those numbered from `host.created` on
      have hold : host.instances.filter (·.id < host.created) = host.instances := by
        rw [List.filter_eq_self]
        exact fun made hmade => decide_eq_true (hhost.fresh made hmade)
      have hgone : new.filter (·.id < host.created) = [] := by
        rw [List.filter_eq_nil_iff]
        exact fun made hmade => by simpa using hlater made hmade
      rw [unwind_instances, hnew, List.filter_append, hold, hgone, List.append_nil]

/-- There is memory for the driver and not for the processor. -/
theorem create_all_or_nothing_bad_alloc : ∃ host host' : PluginHost Unit,
    host'.log.length = host.log.length + 4 ∧ ∃ registry, host.registry = some registry ∧
      Creation registry (fun id => id == 0)
        (librariesConfig (lit "plugins/a.so") (lit "plugins/b.so")) host host' := by
  have hload : ((hostSystem openingPlatform.load).run
      { registry := some (.registered fun _ _ => none) }
      [.load (librariesConfig (lit "plugins/a.so") (lit "plugins/b.so"))]).any (fun host =>
        ((hostSystem openingPlatform.load).step host
          (.create (librariesConfig (lit "plugins/a.so") (lit "plugins/b.so"))
            fun id => id == 0)).any
          fun host' => host'.log.length = host.log.length + 4) = true := by
    decide +kernel
  obtain ⟨host, hreach, hcreate⟩ := TransitionSystem.exists_reachable_of_run rfl hload
  obtain ⟨host', hstep, hlog⟩ := (Option.any_eq_true _ _).mp hcreate
  exact ⟨host, host', by simpa using hlog, create_all_or_nothing hreach hstep⟩

end MiniGateway
