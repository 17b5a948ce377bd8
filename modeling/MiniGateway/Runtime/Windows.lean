/-
  Plugins are used inside their lifetime only.

  Each worker uses plugins of one kind, is launched after these have been started and is joined
  before they are stopped.  So while a worker is inside a call of a plugin, the `start` of that
  plugin has returned and its `stop` has not begun (`lifetime_windows`); and when a control source
  is stopped, the completions of everything that was accepted have returned.
-/
import MiniGateway.Runtime.Shutdown

namespace MiniGateway.Runtime

open StraightLine (Execution)

variable {parts : RuntimeParts} {s : Runtime}

/-- The plugin's `start` has returned and its `stop` has not begun. -/
structure InWindow (s : Runtime) (plugin : Plugin) : Prop where
  started : .startPlugin plugin ∈ s.lifecycle.history.startReturned
  running : .stopPlugin plugin ∉ s.lifecycle.history.stopBegun

/-- What the calls in progress say about the plugins they are in. -/
structure LifetimeWindows (parts : RuntimeParts) (s : Runtime) : Prop where
  polled : ∀ driver, s.poll.driver? = some driver → InWindow s (.driver driver)
  controlled : ∀ driver, controlDriver? parts s = some driver → InWindow s (.driver driver)
  published : ∀ event index, s.data.worker = .publishing event index →
    InWindow s (.publisher index)
  /-- When a source is stopped, every accepted request has been completed. -/
  completed : ∀ index, .stopPlugin (.source index) ∈ s.lifecycle.history.stopBegun →
    Dispatcher.Barrier s.dispatcher

/-- A driver that a lookup has found is one of the runtime's. -/
theorem findDriverPtr_lt {drivers : List DriverInstance} {deviceId : ByteString} {index : ℕ}
    (h : findDriverPtr drivers deviceId = some index) : index < drivers.length := by
  obtain ⟨item, hitem, -⟩ := findDriverPtr_some h
  exact (List.getElem?_eq_some_iff.mp hitem).1

/-! ### What has been joined when a plugin is stopped -/

section Stopping

variable {plugin : Plugin} (h : (runtimeSystem parts).Reachable s)
  (hstop : .stopPlugin plugin ∈ s.lifecycle.history.stopBegun)
include h hstop

/-- The scheduler has been joined. -/
theorem joinScheduler_of_stopPlugin : .joinScheduler ∈ s.calls.returned := by
  obtain ⟨sources, dispatcher, drivers, publishers, hexecution, -⟩ :=
    (lifecycle_invariant h).shutdown_execution hstop
  exact List.mem_append_right _ (stopWorkers_returned hexecution hstop _ (by simp [stopWorkers]))

/-- The dispatcher has been joined, if its start has returned. -/
theorem joinDispatcher_of_stopPlugin
    (hstarted : .startDispatcher ∈ s.lifecycle.history.startReturned) :
    .joinDispatcher ∈ s.calls.returned := by
  obtain ⟨sources, dispatcher, drivers, publishers, hexecution, hdispatcher⟩ :=
    (lifecycle_invariant h).shutdown_execution hstop
  refine List.mem_append_right _ (stopWorkers_returned hexecution hstop _ ?_)
  simp [stopWorkers, hdispatcher hstarted]

/-- No call of `start` is in progress. -/
theorem current_of_stopPlugin {instr : Instr} (hstart : instr.isStart = true) :
    s.calls.current ≠ some instr := by
  intro hcurrent
  have hbegun : .stopPlugin plugin ∈ s.calls.begun := List.mem_append_right _ hstop
  have hno := (lifecycle_invariant h).begun_isStart hcurrent hstart _ hbegun
  cases hno

end Stopping

/-- The processing worker has been joined when a publisher is stopped. -/
theorem joinProcessing_of_stopPlugin (h : (runtimeSystem parts).Reachable s) {index : ℕ}
    (hstop : .stopPlugin (.publisher index) ∈ s.lifecycle.history.stopBegun) :
    .joinProcessing ∈ s.calls.returned := by
  obtain ⟨sources, dispatcher, drivers, publishers, hexecution, -⟩ :=
    (lifecycle_invariant h).shutdown_execution hstop
  exact List.mem_append_right _ (joinProcessing_returned hexecution hstop)

/-! ### The workers -/

theorem polled_inWindow (h : (runtimeSystem parts).Reachable s) {driver : ℕ}
    (hpoll : s.poll.driver? = some driver) : InWindow s (.driver driver) := by
  have hl := lifecycle_invariant h
  have huse := scheduler_use h
  have hbusy : s.poll ≠ .idle := by
    intro hidle
    rw [hidle] at hpoll
    cases hpoll
  have hthere : s.scheduler ≠ none := by
    intro hnone
    refine hbusy (huse.polling.mpr fun engine hengine => ?_)
    rw [hnone] at hengine
    cases hengine
  have hlt : driver < parts.drivers.length := by
    have hresolved := (gate_use h).resolved
    unfold PollPc.driver? at hpoll
    split at hpoll
    · rename_i hpc
      rw [hpc] at hresolved
      obtain rfl := Option.some.inj hpoll
      exact findDriverPtr_lt hresolved.1
    · cases hpoll
  have hlaunched := (huse.launched hthere).1
  refine ⟨(hl.started_before hlaunched (.inr (.inr rfl))).2 driver hlt, fun hstop => ?_⟩
  -- a scheduler that has been joined polls nothing
  exact hbusy (poll_idle_of_joined h (joinScheduler_of_stopPlugin h hstop))

/-- The dispatcher that has been joined has nothing left to do. -/
theorem barrier_of_stopPlugin (h : (externalSystem parts).Reachable s) {plugin : Plugin}
    (hstop : .stopPlugin plugin ∈ s.lifecycle.history.stopBegun)
    (hstarted : .startDispatcher ∈ s.lifecycle.history.startReturned) :
    Dispatcher.Barrier s.dispatcher := by
  have hr := h.of_restrict
  have hdispatcher : s.dispatcher.started = true :=
    (control_use hr).returned (List.mem_append_left _ hstarted)
  have hjoined := (control_joined h).joined (joinDispatcher_of_stopPlugin hr hstop hstarted)
    hdispatcher
  obtain ⟨hworker, hcomplete⟩ :=
    (Dispatcher.joining ((dispatcher_projection parts).reachable hr)).joined hjoined
  exact (dispatcher_invariant hr).barrier hworker hcomplete

theorem controlled_inWindow (h : (externalSystem parts).Reachable s) {driver : ℕ}
    (hcontrol : controlDriver? parts s = some driver) : InWindow s (.driver driver) := by
  have hr := h.of_restrict
  have hl := lifecycle_invariant hr
  have huse := control_use hr
  obtain ⟨deviceId, hdevice, hdriver⟩ := Option.bind_eq_some_iff.mp hcontrol
  have hthere : s.dispatcher.worker ≠ .absent ∧ s.dispatcher.worker ≠ .exited := by
    refine ⟨fun hw => ?_, fun hw => ?_⟩
    · rw [hw] at hdevice
      cases hdevice
    · rw [hw] at hdevice
      cases hdevice
  have hstarted : s.dispatcher.started = true := by
    by_contra hno
    exact hthere.1 ((dispatcher_invariant hr).stopping.absent.mpr (by simpa using hno))
  have hbegun : .startDispatcher ∈ s.calls.begun := by
    rcases huse.started hstarted with hreturned | hcurrent
    · exact hl.mem_begun hreturned
    · exact hl.current_begun hcurrent
  refine ⟨(hl.started_before hbegun (.inl rfl)).2 driver (findDriverPtr_lt hdriver),
    fun hstop => ?_⟩
  have hreturned : .startDispatcher ∈ s.calls.returned :=
    (huse.started hstarted).resolve_right (current_of_stopPlugin hr hstop rfl)
  have hbarrier := barrier_of_stopPlugin h hstop ((hl.mem_startReturned rfl).mp hreturned)
  exact hthere.2 hbarrier.worker

theorem published_inWindow (h : (runtimeSystem parts).Reachable s) {event : Event} {index : ℕ}
    (hpublish : s.data.worker = .publishing event index) : InWindow s (.publisher index) := by
  have hl := lifecycle_invariant h
  have hdata := data_use h
  have hlaunched : .launchProcessing ∈ s.calls.begun :=
    hl.mem_begun (hdata.launched.mpr (by simp [hpublish]))
  have hlt := (data_flow h).publishing event index hpublish
  refine ⟨(hl.started_before hlaunched (.inr (.inl rfl))).1 index hlt, fun hstop => ?_⟩
  rcases hdata.unjoinable (hdata.joined (joinProcessing_of_stopPlugin h hstop)) with hw | hw
  · rw [hpublish] at hw
    cases hw
  · rw [hpublish] at hw
    cases hw

/-- A control source is started after the dispatcher, so the dispatcher had been started when the
source is stopped. -/
theorem startDispatcher_of_stopSource (h : (runtimeSystem parts).Reachable s) {index : ℕ}
    (hstop : .stopPlugin (.source index) ∈ s.lifecycle.history.stopBegun) :
    .startDispatcher ∈ s.lifecycle.history.startReturned := by
  have hl := lifecycle_invariant h
  have hstart : .startPlugin (.source index) ∈ s.lifecycle.history.startBegun := by
    have hpos := List.count_pos_iff.mpr (hl.stop_execution.mem_program hstop)
    rw [(hl.shutdown hstop).count_stop] at hpos
    exact List.count_pos_iff.mp hpos
  have hsplit : startProgram parts =
      (startPlugins Plugin.publisher (List.range parts.eventPublishers.length) ++
        startPlugins Plugin.driver (List.range parts.drivers.length) ++
        [Instr.startDispatcher, Instr.launchProcessing, Instr.openControls]) ++
      (startPlugins Plugin.source (List.range parts.deviceControlSources.length) ++
        [Instr.launchScheduler]) := by
    simp only [startProgram, List.append_assoc]
  exact hl.start_execution.returned_before hsplit hstart (by simp [startPlugins]) _ (by simp)

/-- **Plugins are only used inside their lifetime**, while `start` and `stop` are called from
outside. -/
theorem lifetime_windows (h : (externalSystem parts).Reachable s) : LifetimeWindows parts s where
  polled _ hpoll := polled_inWindow h.of_restrict hpoll
  controlled _ hcontrol := controlled_inWindow h hcontrol
  published _ _ hpublish := published_inWindow h.of_restrict hpublish
  completed _ hstop :=
    barrier_of_stopPlugin h hstop (startDispatcher_of_stopSource h.of_restrict hstop)

/-- The driver is being polled while a batch is being published. -/
theorem lifetime_windows_oneDevice : ∃ s : Runtime,
    (s.poll.driver? = some 0 ∧ s.data.worker.publishCalls = 1) ∧ LifetimeWindows oneDevice s := by
  obtain ⟨s, hr, hs⟩ := TransitionSystem.exists_reachable_of_run
    (M := externalSystem oneDevice) (s := create oneDevice)
    (w := startRun ++ [.push ⟨lit "d", [], []⟩] ++ deliverRun.take 5 ++ pollRun)
    (p := fun s => s.poll.driver? = some 0 ∧ s.data.worker.publishCalls = 1)
    rfl (by decide +kernel)
  exact ⟨s, by simpa using hs, lifetime_windows hr⟩

end MiniGateway.Runtime
