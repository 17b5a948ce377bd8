/-
  The calls of `GatewayRuntime::start`, of its rollback and of `GatewayRuntime::stop`, in their
  order.

  Each of the three is a straight-line program once its loops are written out.  The two shutdown
  sequences have one shape (`shutdownProgram`) and differ in the lists they walk: `stop` walks every
  plugin, the rollback only those that `start` had counted.  In both, a plugin is stopped as often
  as it was started (`Shutdown.count_stop`).
-/
import MiniGateway.Runtime.Parts
import MiniGateway.StraightLine

namespace MiniGateway

open StraightLine (Execution)

/-- A plugin with a lifetime, by its list and its position there. -/
inductive Plugin
  | publisher (index : ℕ)
  | driver (index : ℕ)
  | source (index : ℕ)
  deriving DecidableEq

/-- One call of the lifecycle functions. -/
inductive Instr
  | startPlugin (plugin : Plugin)
  /-- `control_dispatcher_->start()`. -/
  | startDispatcher
  /-- `processing_worker_ = std::jthread(…)`. -/
  | launchProcessing
  /-- `accepting_controls_.store(true)`. -/
  | openControls
  /-- The policy and the engine are built and `scheduler_->start()` is called. -/
  | launchScheduler
  | requestStopSource (index : ℕ)
  /-- `scheduler_->request_stop()`, if there is an engine. -/
  | requestStopScheduler
  /-- `scheduler_->join()`, if there is an engine. -/
  | joinScheduler
  | requestStopDispatcher
  | joinDispatcher
  | stopPlugin (plugin : Plugin)
  | closeRawQueue
  /-- `processing_worker_.join()`, if it is joinable. -/
  | joinProcessing
  deriving DecidableEq

namespace Instr

/-- The call may throw out of `start`. -/
def mayThrow : Instr → Bool
  | startPlugin _ | startDispatcher | launchProcessing | launchScheduler => true
  | _ => false

/-- The position of the publisher that the call starts. -/
def startedPublisher : Instr → Option ℕ
  | startPlugin (.publisher index) => some index
  | _ => none

/-- The position of the driver that the call starts. -/
def startedDriver : Instr → Option ℕ
  | startPlugin (.driver index) => some index
  | _ => none

/-- The position of the control source that the call starts. -/
def startedSource : Instr → Option ℕ
  | startPlugin (.source index) => some index
  | _ => none

end Instr

/-! ### The programs -/

/-- A loop that starts plugins. -/
def startPlugins (kind : ℕ → Plugin) (indices : List ℕ) : List Instr :=
  indices.map fun index => .startPlugin (kind index)

/-- A loop that stops plugins. -/
def stopPlugins (kind : ℕ → Plugin) (indices : List ℕ) : List Instr :=
  indices.map fun index => .stopPlugin (kind index)

/-- The `try` block of `start`. -/
def startProgram (parts : RuntimeParts) : List Instr :=
  startPlugins Plugin.publisher (List.range parts.eventPublishers.length) ++
  startPlugins Plugin.driver (List.range parts.drivers.length) ++
  [Instr.startDispatcher, Instr.launchProcessing, Instr.openControls] ++
  startPlugins Plugin.source (List.range parts.deviceControlSources.length) ++ [Instr.launchScheduler]

/-- The calls before anything is stopped: no new requests, then no scheduler, then no control
worker. -/
def stopWorkers (sources : List ℕ) (dispatcher : Bool) : List Instr :=
  sources.map Instr.requestStopSource ++ [Instr.requestStopScheduler, Instr.joinScheduler] ++
  (if dispatcher then [Instr.requestStopDispatcher, Instr.joinDispatcher] else [])

/-- The shape of both shutdown sequences. -/
def shutdownProgram (sources : List ℕ) (dispatcher : Bool) (drivers publishers : List ℕ) :
    List Instr :=
  stopWorkers sources dispatcher ++ stopPlugins Plugin.source sources ++
  stopPlugins Plugin.driver drivers ++ [Instr.closeRawQueue, Instr.joinProcessing] ++
  stopPlugins Plugin.publisher publishers

/-- The drivers whose entry in `driver_modes_` is `mode`, in instance order. -/
def RuntimeParts.driversWithMode (parts : RuntimeParts) (mode : AcquisitionMode) : List ℕ :=
  (List.range parts.drivers.length).filter fun index =>
    (parts.drivers[index]?.bind fun item =>
      (driverModes parts.drivers).lookup item.deviceId) == some mode

/-- The body of `stop`. -/
def stopProgram (parts : RuntimeParts) : List Instr :=
  shutdownProgram (List.range parts.deviceControlSources.length).reverse true
    (parts.driversWithMode .push ++ parts.driversWithMode .poll)
    (List.range parts.eventPublishers.length).reverse

/-- The local variables of `start`. -/
structure StartLocals where
  startedDrivers : ℕ := 0
  startedPublishers : ℕ := 0
  startedSources : ℕ := 0
  dispatcherStarted : Bool := false
  deriving DecidableEq

namespace StartLocals

/-- The counter that `start` moves just before a call. -/
def beforeCall (locals : StartLocals) : Instr → StartLocals
  | .startPlugin (.publisher _) =>
    { locals with startedPublishers := locals.startedPublishers + 1 }
  | .startPlugin (.driver _) => { locals with startedDrivers := locals.startedDrivers + 1 }
  | .startPlugin (.source _) => { locals with startedSources := locals.startedSources + 1 }
  | _ => locals

/-- The flag that `start` sets just after a call. -/
def afterCall (locals : StartLocals) : Instr → StartLocals
  | .startDispatcher => { locals with dispatcherStarted := true }
  | _ => locals

end StartLocals

/-- The `catch` block of `start`. -/
def rollbackProgram (locals : StartLocals) : List Instr :=
  shutdownProgram (List.range locals.startedSources).reverse locals.dispatcherStarted
    (List.range locals.startedDrivers).reverse (List.range locals.startedPublishers).reverse

/-! ### What a start has counted -/

/-- The local variables after the calls in `begun` have begun and those in `returned` have
returned. -/
def localsOf (begun returned : List Instr) : StartLocals where
  startedDrivers := (begun.filterMap Instr.startedDriver).length
  startedPublishers := (begun.filterMap Instr.startedPublisher).length
  startedSources := (begun.filterMap Instr.startedSource).length
  dispatcherStarted := decide (.startDispatcher ∈ returned)

theorem localsOf_begin (begun returned : List Instr) (instr : Instr) :
    localsOf (begun ++ [instr]) returned = (localsOf begun returned).beforeCall instr := by
  have hlength : ∀ f : Instr → Option ℕ, ((begun ++ [instr]).filterMap f).length =
      (begun.filterMap f).length + (f instr).toList.length := by
    intro f
    rw [List.filterMap_append, List.length_append]
    cases h : f instr <;> simp [h]
  unfold localsOf
  rw [hlength, hlength, hlength]
  rcases instr with (_ | _ | _) | _ <;> rfl

theorem localsOf_return (begun returned : List Instr) (instr : Instr) :
    localsOf begun (returned ++ [instr]) = (localsOf begun returned).afterCall instr := by
  cases instr <;> simp [localsOf, StartLocals.afterCall]

section StartProgram

variable (parts : RuntimeParts)

theorem startedPublisher_startProgram : (startProgram parts).filterMap Instr.startedPublisher =
    List.range parts.eventPublishers.length := by
  unfold startProgram startPlugins
  simp only [List.filterMap_append, List.filterMap_map]
  show (List.range _).filterMap some ++ (List.range _).filterMap (fun _ => none) ++ [] ++
    (List.range _).filterMap (fun _ => none) ++ [] = _
  simp

theorem startedDriver_startProgram : (startProgram parts).filterMap Instr.startedDriver =
    List.range parts.drivers.length := by
  unfold startProgram startPlugins
  simp only [List.filterMap_append, List.filterMap_map]
  show (List.range _).filterMap (fun _ => none) ++ (List.range _).filterMap some ++ [] ++
    (List.range _).filterMap (fun _ => none) ++ [] = _
  simp

theorem startedSource_startProgram : (startProgram parts).filterMap Instr.startedSource =
    List.range parts.deviceControlSources.length := by
  unfold startProgram startPlugins
  simp only [List.filterMap_append, List.filterMap_map]
  show (List.range _).filterMap (fun _ => none) ++ (List.range _).filterMap (fun _ => none) ++ [] ++
    (List.range _).filterMap some ++ [] = _
  simp

end StartProgram

theorem count_startPublisher (begun : List Instr) (index : ℕ) :
    (begun.filterMap Instr.startedPublisher).count index =
      begun.count (.startPlugin (.publisher index)) :=
  StraightLine.count_filterMap (Instr.startPlugin ∘ Plugin.publisher)
    (fun instr _ => by rcases instr with (_ | _ | _) | _ <;> simp [Instr.startedPublisher]) _ _

theorem count_startDriver (begun : List Instr) (index : ℕ) :
    (begun.filterMap Instr.startedDriver).count index =
      begun.count (.startPlugin (.driver index)) :=
  StraightLine.count_filterMap (Instr.startPlugin ∘ Plugin.driver)
    (fun instr _ => by rcases instr with (_ | _ | _) | _ <;> simp [Instr.startedDriver]) _ _

theorem count_startSource (begun : List Instr) (index : ℕ) :
    (begun.filterMap Instr.startedSource).count index =
      begun.count (.startPlugin (.source index)) :=
  StraightLine.count_filterMap (Instr.startPlugin ∘ Plugin.source)
    (fun instr _ => by rcases instr with (_ | _ | _) | _ <;> simp [Instr.startedSource]) _ _

/-! ### Shutdown sequences -/

section Shutdown

variable {sources drivers publishers : List ℕ} {dispatcher : Bool} {begun returned : List Instr}

theorem stopPlugin_mem_stopPlugins {kind : ℕ → Plugin} {plugin : Plugin} {indices : List ℕ} :
    .stopPlugin plugin ∈ stopPlugins kind indices ↔ ∃ index ∈ indices, kind index = plugin := by
  simp [stopPlugins]

theorem not_mem_stopPlugins {kind : ℕ → Plugin} {instr : Instr} {indices : List ℕ}
    (h : ∀ plugin, instr ≠ .stopPlugin plugin) : instr ∉ stopPlugins kind indices := by
  intro hmem
  obtain ⟨index, -, rfl⟩ := List.mem_map.mp hmem
  exact h _ rfl

theorem stopPlugin_not_mem_stopWorkers (sources : List ℕ) (dispatcher : Bool) (plugin : Plugin) :
    .stopPlugin plugin ∉ stopWorkers sources dispatcher := by
  cases dispatcher <;> simp [stopWorkers]

theorem count_stopPlugins {kind : ℕ → Plugin} (hkind : Function.Injective kind)
    (indices : List ℕ) (index : ℕ) :
    (stopPlugins kind indices).count (.stopPlugin (kind index)) = indices.count index :=
  List.count_map_of_injective indices _ (fun _ _ h => hkind (Instr.stopPlugin.inj h)) index

theorem count_stopPlugins_of_ne {kind : ℕ → Plugin} {plugin : Plugin}
    (h : ∀ index, kind index ≠ plugin) (indices : List ℕ) :
    (stopPlugins kind indices).count (.stopPlugin plugin) = 0 := by
  rw [List.count_eq_zero, stopPlugin_mem_stopPlugins]
  simp [h]

/-- Stops of a plugin are counted by its position in the list that is walked. -/
theorem count_stopPlugin (sources drivers publishers : List ℕ) (dispatcher : Bool)
    (plugin : Plugin) :
    (shutdownProgram sources dispatcher drivers publishers).count (.stopPlugin plugin) =
      match plugin with
      | .publisher index => publishers.count index
      | .driver index => drivers.count index
      | .source index => sources.count index := by
  have hrest : [Instr.closeRawQueue, .joinProcessing].count (.stopPlugin plugin) = 0 :=
    List.count_eq_zero.mpr (by simp)
  unfold shutdownProgram
  rw [List.count_append, List.count_append, List.count_append, List.count_append,
    List.count_eq_zero.mpr (stopPlugin_not_mem_stopWorkers sources dispatcher plugin),
    hrest]
  rcases plugin with index | index | index
  · rw [count_stopPlugins (fun _ _ => Plugin.publisher.inj),
      count_stopPlugins_of_ne (by simp), count_stopPlugins_of_ne (by simp)]
    simp
  · rw [count_stopPlugins (fun _ _ => Plugin.driver.inj),
      count_stopPlugins_of_ne (by simp), count_stopPlugins_of_ne (by simp)]
    simp
  · rw [count_stopPlugins (fun _ _ => Plugin.source.inj),
      count_stopPlugins_of_ne (by simp), count_stopPlugins_of_ne (by simp)]
    simp

/-- The workers are stopped first. -/
theorem shutdownProgram_split (sources drivers publishers : List ℕ) (dispatcher : Bool) :
    shutdownProgram sources dispatcher drivers publishers =
      stopWorkers sources dispatcher ++ (stopPlugins Plugin.source sources ++
        stopPlugins Plugin.driver drivers ++ [Instr.closeRawQueue, Instr.joinProcessing] ++
        stopPlugins Plugin.publisher publishers) := by
  simp only [shutdownProgram, List.append_assoc]

/-- **Sources and drivers are stopped last of what the workers use**: the scheduler and the
dispatcher have been joined. -/
theorem stopWorkers_returned
    (h : Execution (shutdownProgram sources dispatcher drivers publishers) begun returned)
    {plugin : Plugin} (hplugin : .stopPlugin plugin ∈ begun) :
    ∀ instr ∈ stopWorkers sources dispatcher, instr ∈ returned := by
  exact h.returned_before (shutdownProgram_split ..) hplugin (stopPlugin_not_mem_stopWorkers _ _ _)

/-- Publishers are stopped after the processing worker has been joined. -/
theorem joinProcessing_returned
    (h : Execution (shutdownProgram sources dispatcher drivers publishers) begun returned)
    {index : ℕ} (hplugin : .stopPlugin (.publisher index) ∈ begun) :
    .joinProcessing ∈ returned := by
  refine h.returned_before rfl hplugin ?_ _ (by simp)
  simp [stopPlugin_not_mem_stopWorkers, stopPlugin_mem_stopPlugins]

/-- The scheduler is joined after it has been asked to stop. -/
theorem requestStopScheduler_returned
    (h : Execution (shutdownProgram sources dispatcher drivers publishers) begun returned)
    (hjoin : .joinScheduler ∈ begun) : .requestStopScheduler ∈ returned := by
  have hsplit : shutdownProgram sources dispatcher drivers publishers =
      (sources.map Instr.requestStopSource ++ [Instr.requestStopScheduler]) ++ (Instr.joinScheduler ::
        ((if dispatcher then [Instr.requestStopDispatcher, Instr.joinDispatcher] else []) ++
        stopPlugins Plugin.source sources ++ stopPlugins Plugin.driver drivers ++
        [Instr.closeRawQueue, Instr.joinProcessing] ++ stopPlugins Plugin.publisher publishers)) := by
    simp [shutdownProgram, stopWorkers]
  exact h.returned_before hsplit hjoin (by simp) _ (by simp)

/-- The queue of the data path is closed after the scheduler has been joined. -/
theorem joinScheduler_returned
    (h : Execution (shutdownProgram sources dispatcher drivers publishers) begun returned)
    (hclose : .closeRawQueue ∈ begun) : .joinScheduler ∈ returned := by
  refine h.returned_before (shutdownProgram_split ..) hclose ?_ _ (by simp [stopWorkers])
  cases dispatcher <;> simp [stopWorkers]

/-- The dispatcher is joined after the scheduler, and after it has been asked to stop. -/
theorem beforeJoinDispatcher_returned
    (h : Execution (shutdownProgram sources dispatcher drivers publishers) begun returned)
    (hjoin : .joinDispatcher ∈ begun) :
    .joinScheduler ∈ returned ∧ .requestStopDispatcher ∈ returned := by
  have hmem := h.mem_program hjoin
  cases dispatcher with
  | false => simp [shutdownProgram, stopWorkers, stopPlugins] at hmem
  | true =>
    have hsplit : shutdownProgram sources true drivers publishers =
        (sources.map Instr.requestStopSource ++ [Instr.requestStopScheduler, Instr.joinScheduler,
          Instr.requestStopDispatcher]) ++ (Instr.joinDispatcher ::
        (stopPlugins Plugin.source sources ++ stopPlugins Plugin.driver drivers ++
        [Instr.closeRawQueue, Instr.joinProcessing] ++ stopPlugins Plugin.publisher publishers)) := by
      simp [shutdownProgram, stopWorkers]
    have hbefore := h.returned_before hsplit hjoin (by simp)
    exact ⟨hbefore _ (by simp), hbefore _ (by simp)⟩

/-- The processing worker is joined after its queue has been closed. -/
theorem closeRawQueue_returned
    (h : Execution (shutdownProgram sources dispatcher drivers publishers) begun returned)
    (hjoin : .joinProcessing ∈ begun) : .closeRawQueue ∈ returned := by
  have hsplit : shutdownProgram sources dispatcher drivers publishers =
      (stopWorkers sources dispatcher ++ stopPlugins Plugin.source sources ++
        stopPlugins Plugin.driver drivers ++ [Instr.closeRawQueue]) ++
      (Instr.joinProcessing :: stopPlugins Plugin.publisher publishers) := by
    simp [shutdownProgram]
  refine h.returned_before hsplit hjoin ?_ _ (by simp)
  cases dispatcher <;> simp [stopWorkers, not_mem_stopPlugins]

end Shutdown

/-- What is shut down, given what `start` has called: everything after a whole start, what was
counted after a start that failed at its last call. -/
inductive Shutdown (parts : RuntimeParts) (startBegun startReturned program : List Instr) : Prop
  | stop (hbegun : startBegun = startProgram parts) (hreturned : startReturned = startProgram parts)
      (hprogram : program = stopProgram parts)
  | rollback (failed : Instr) (hbegun : startBegun = startReturned ++ [failed])
      (hinitial : startBegun <+: startProgram parts) (hthrow : failed.mayThrow = true)
      (hprogram : program = rollbackProgram (localsOf startBegun startReturned))

namespace Shutdown

variable {parts : RuntimeParts} {startBegun startReturned program : List Instr}

/-- Both sequences have the shape of `shutdownProgram`, and stop the dispatcher exactly when its
start has returned. -/
theorem shape (h : Shutdown parts startBegun startReturned program) :
    ∃ sources dispatcher drivers publishers,
      program = shutdownProgram sources dispatcher drivers publishers ∧
      (.startDispatcher ∈ startReturned → dispatcher = true) := by
  cases h with
  | stop _ _ hprogram => exact ⟨_, _, _, _, hprogram, fun _ => rfl⟩
  | rollback _ _ _ _ hprogram =>
    exact ⟨_, _, _, _, hprogram, fun hmem => by simpa [localsOf] using hmem⟩

/-- The two passes of `stop` over the drivers visit each driver once. -/
theorem driversWithMode_perm (parts : RuntimeParts) :
    (parts.driversWithMode .push ++ parts.driversWithMode .poll).Perm
      (List.range parts.drivers.length) := by
  have hpoll : parts.driversWithMode .poll = (List.range parts.drivers.length).filter
      fun index => !((parts.drivers[index]?.bind fun item =>
        (driverModes parts.drivers).lookup item.deviceId) == some .push) := by
    refine List.filter_congr fun index hindex => ?_
    have hlt := List.mem_range.mp hindex
    rw [List.getElem?_eq_getElem hlt, Option.bind_some,
      driverModes_lookup parts.drivers_nodup (List.getElem_mem hlt)
        (parts.driver_isSome (List.getElem_mem hlt))]
    obtain ⟨mode, hmode⟩ := Option.isSome_iff_exists.mp
      (parts.driver_isSome (List.getElem_mem hlt))
    rw [hmode]
    cases mode <;> rfl
  rw [hpoll]
  exact List.filter_append_perm _ _

/-- **Pairing.**  Both sequences stop each plugin as often as `start` has called its start. -/
theorem count_stop (h : Shutdown parts startBegun startReturned program) (plugin : Plugin) :
    program.count (.stopPlugin plugin) = startBegun.count (.startPlugin plugin) := by
  cases h with
  | stop hbegun _ hprogram =>
    subst hbegun hprogram
    unfold stopProgram
    rw [count_stopPlugin]
    rcases plugin with index | index | index
    · rw [← count_startPublisher, startedPublisher_startProgram]
      exact List.count_reverse
    · rw [← count_startDriver, startedDriver_startProgram]
      exact (driversWithMode_perm parts).count_eq index
    · rw [← count_startSource, startedSource_startProgram]
      exact List.count_reverse
  | rollback _ _ hinitial _ hprogram =>
    subst hprogram
    unfold rollbackProgram localsOf
    rw [count_stopPlugin]
    -- the counters say how many of a kind have begun, and these are the first ones
    rcases plugin with index | index | index
    · rw [← count_startPublisher, StraightLine.filterMap_eq_range hinitial
        (startedPublisher_startProgram parts)]
      simp
    · rw [← count_startDriver, StraightLine.filterMap_eq_range hinitial
        (startedDriver_startProgram parts)]
      simp
    · rw [← count_startSource, StraightLine.filterMap_eq_range hinitial
        (startedSource_startProgram parts)]
      simp

/-- No plugin is started, and so none is stopped, more than once. -/
theorem count_start_le_one (hinitial : startBegun <+: startProgram parts) (plugin : Plugin) :
    startBegun.count (.startPlugin plugin) ≤ 1 := by
  refine (hinitial.sublist.count_le _).trans ?_
  rcases plugin with index | index | index
  · rw [← count_startPublisher, startedPublisher_startProgram]
    exact List.nodup_iff_count_le_one.mp List.nodup_range index
  · rw [← count_startDriver, startedDriver_startProgram]
    exact List.nodup_iff_count_le_one.mp List.nodup_range index
  · rw [← count_startSource, startedSource_startProgram]
    exact List.nodup_iff_count_le_one.mp List.nodup_range index

end Shutdown

end MiniGateway
