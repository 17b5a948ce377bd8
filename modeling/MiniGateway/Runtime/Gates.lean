/-
  At most one I/O operation per device at a time.

  A gate has two possible holders, the poll and the control path, and each of them holds a gate
  exactly between the place where it takes one and the place where it gives it back (`GateUse`).
  Both paths find gate and driver by the device id, and the two lookups end at one driver instance
  (`findIoGate_eq`), so a driver in use by one path is behind a gate that the other cannot take.
-/
import MiniGateway.Runtime.Polling

namespace MiniGateway

open Throwing (bind_eq_ok)

/-- Whether `gate_lock` owns the gate, at the stages where it exists. -/
def Stage.gated? : Stage → Option Bool
  | .recheck gated | .call gated | .driver gated | .unlock gated _ => some gated
  | _ => none

/-- The device of the request whose gate the control worker owns. -/
def Worker.gatedDevice : Worker → Option ByteString
  | .executing op _ stage => if stage.gated? = some true then some op.request.deviceId else none
  | _ => none

@[simp] theorem Worker.gatedDevice_executing (op : ControlOperation) (es : TimePoint)
    (stage : Stage) : (Worker.executing op es stage).gatedDevice =
      if stage.gated? = some true then some op.request.deviceId else none := rfl

/-- The device of the request that the control worker is inside `driver->control` for. -/
def Worker.controlledDevice : Worker → Option ByteString
  | .executing op _ (.driver _) => some op.request.deviceId
  | _ => none

namespace Runtime

variable {parts : RuntimeParts} {s s' : Runtime}

/-- The gate that the control worker owns. -/
def controlGate? (parts : RuntimeParts) (s : Runtime) : Option ℕ :=
  s.dispatcher.worker.gatedDevice.bind (findIoGate parts.drivers)

/-- The driver whose `control` is in progress. -/
def controlDriver? (parts : RuntimeParts) (s : Runtime) : Option ℕ :=
  s.dispatcher.worker.controlledDevice.bind (findDriverPtr parts.drivers)

/-! ### The control worker and its gate -/

/-- Where the control worker has a gate lock, the lock owns the gate, and there is a gate. -/
def Worked (parts : RuntimeParts) (w : Worker) : Prop :=
  ∀ op es stage gated, w = .executing op es stage → stage.gated? = some gated →
    gated = true ∧ (findIoGate parts.drivers op.request.deviceId).isSome = true

theorem worked_of_not_executing {w : Worker} (h : ∀ op es stage, w ≠ .executing op es stage) :
    Worked parts w := by
  intro op es stage gated hw
  exact absurd hw (h op es stage)

/-- Apart from taking and releasing it, a step of the worker does not change which gate it owns. -/
theorem worked_plain {e : WorkerEvent} {d d' : Dispatcher} (hw : Worked parts d.worker)
    (hlock : e ≠ .lockGate true)
    (hunlock : ∀ op es result, d.worker = .executing op es (.unlock true result) → e ≠ .unlock)
    (h : Dispatcher.WorkerEffect true d e d') :
    Worked parts d'.worker ∧ d'.worker.gatedDevice = d.worker.gatedDevice := by
  cases h with
  | pop hwait _ =>
    refine ⟨?_, by rw [hwait]; rfl⟩
    rintro _ _ _ _ ⟨⟩ ⟨⟩
  | exit hwait _ => exact ⟨worked_of_not_executing (by simp), by rw [hwait]; rfl⟩
  | @call op es gated hcall =>
    refine ⟨?_, by rw [hcall]; rfl⟩
    rintro _ _ _ gated' ⟨⟩ heq
    exact hw op es (.call gated) gated' hcall heq
  | countSkip hcount _ =>
    exact ⟨worked_of_not_executing (by simp [Dispatcher.executed]), by rw [hcount]; rfl⟩
  | count hcount _ =>
    refine ⟨?_, by rw [hcount]; rfl⟩
    rintro _ _ _ _ ⟨⟩ ⟨⟩
  | invoke hinvoke =>
    refine ⟨?_, by rw [hinvoke]; rfl⟩
    rintro _ _ _ _ ⟨⟩ ⟨⟩
  | callbackReturn hcallback =>
    exact ⟨worked_of_not_executing (by simp [Dispatcher.executed]), by rw [hcallback]; rfl⟩
  | @move op es stage stage' _ stats hstage hmove _ =>
    have hkeep : stage'.gated? = stage.gated? ∨ stage'.gated? = none ∧ stage.gated? ≠ some true := by
      cases hmove with
      | gateLocked => exact absurd rfl hlock
      | inTimeNoGates _ hg => cases hg
      | @unlock gated result =>
        cases gated with
        | true => exact absurd rfl (hunlock op es result hstage)
        | false => exact Or.inr ⟨rfl, by simp [Stage.gated?]⟩
      | _ => exact Or.inl rfl
    have hdevice : (Worker.executing op es stage').gatedDevice =
        (Worker.executing op es stage).gatedDevice := by
      rw [Worker.gatedDevice_executing, Worker.gatedDevice_executing]
      rcases hkeep with heq | ⟨hnone, hne⟩
      · rw [heq]
      · rw [hnone, if_neg (by simp), if_neg hne]
    refine ⟨?_, by rw [hstage]; exact hdevice⟩
    rintro _ _ _ gated ⟨⟩ heq
    rcases hkeep with hsame | ⟨hnone, -⟩
    · exact hw op es stage gated hstage (hsame ▸ heq)
    · rw [hnone] at heq
      cases heq

/-! ### The invariant -/

/-- Where `poll_group` has resolved a group, it has the driver and the gate of the group's device. -/
def Resolved (parts : RuntimeParts) : PollPc → Prop
  | .locking group driver gate _ | .polling group driver gate _ =>
    findDriverPtr parts.drivers group.deviceId = some driver ∧
      findIoGate parts.drivers group.deviceId = some gate
  | _ => True

/-- Who holds which gate. -/
structure GateUse (parts : RuntimeParts) (s : Runtime) : Prop where
  poll : ∀ gate, s.gates gate = some .poll ↔ s.poll.gate? = some gate
  control : ∀ gate, s.gates gate = some .control ↔ controlGate? parts s = some gate
  resolved : Resolved parts s.poll
  worked : Worked parts s.dispatcher.worker

theorem resolvePoll_resolved {groupId : ByteString} {now : TimePoint} {pc : PollPc}
    (h : resolvePoll parts groupId now = .ok pc) :
    ∃ group driver gate deadline, pc = .locking group driver gate deadline ∧
      Resolved parts pc := by
  obtain ⟨group, -, h⟩ := bind_eq_ok.mp h
  obtain ⟨driver, hdriver, h⟩ := bind_eq_ok.mp h
  unfold findDriver at hdriver
  split at hdriver
  · rename_i index hindex
    obtain rfl := Except.ok.inj hdriver
    split at h
    · cases h
    · rename_i gate hgate
      obtain rfl := Except.ok.inj h
      exact ⟨group, _, gate, _, rfl, hindex, hgate⟩
  · cases hdriver

/-- One holder takes a free gate. -/
private theorem holds_acquire {gates : ℕ → Option IoUser} {user : IoUser} {owned : Option ℕ}
    (hold : ∀ gate, gates gate = some user ↔ owned = some gate) (hnone : owned = none) (gate : ℕ) :
    ∀ other, Function.update gates gate (some user) other = some user ↔
      some gate = some other := by
  intro other
  by_cases heq : other = gate
  · subst heq
    simp
  · rw [Function.update_of_ne heq, hold other, hnone]
    simp [Ne.symm heq]

/-- One holder gives its gate back. -/
private theorem holds_release {gates : ℕ → Option IoUser} {user : IoUser} {owned : Option ℕ}
    (hold : ∀ gate, gates gate = some user ↔ owned = some gate) {gate : ℕ}
    (howned : owned = some gate) :
    ∀ other, Function.update gates gate none other = some user ↔
      (none : Option ℕ) = some other := by
  intro other
  by_cases heq : other = gate
  · subst heq
    simp
  · rw [Function.update_of_ne heq, hold other, howned]
    simp [Ne.symm heq]

/-- What one holder does with a gate that the other does not hold is nothing to the other. -/
private theorem holds_other {gates : ℕ → Option IoUser} {user : IoUser} {owned : Option ℕ}
    (hold : ∀ gate, gates gate = some user ↔ owned = some gate) {gate : ℕ} {value : Option IoUser}
    (hgate : gates gate ≠ some user) (hvalue : value ≠ some user) :
    ∀ other, Function.update gates gate value other = some user ↔ owned = some other := by
  intro other
  by_cases heq : other = gate
  · subst heq
    rw [Function.update_self, ← hold other]
    exact iff_of_false hvalue hgate
  · rw [Function.update_of_ne heq, hold other]

/-- A step in `poll_group` that moves no gate. -/
private theorem GateUse.pollMove (h : GateUse parts s) (pc : PollPc)
    (hgate : pc.gate? = s.poll.gate?) (hresolved : Resolved parts pc) :
    GateUse parts { s with poll := pc } where
  poll gate := (h.poll gate).trans (by rw [hgate])
  control := h.control
  resolved := hresolved
  worked := h.worked

/-- `poll_group` gives its gate back: the `unique_lock` goes out of scope. -/
private theorem GateUse.pollRelease (h : GateUse parts s) {gate : ℕ}
    (howned : s.poll.gate? = some gate) (pc : PollPc) (hgate : pc.gate? = none)
    (hresolved : Resolved parts pc) :
    GateUse parts { s with gates := Function.update s.gates gate none, poll := pc } where
  poll := by
    rw [hgate]
    exact holds_release h.poll howned
  control := by
    have hheld : s.gates gate = some .poll := (h.poll gate).mpr howned
    exact holds_other h.control (by rw [hheld]; simp) (by simp)
  resolved := hresolved
  worked := h.worked

private theorem GateUse.pollStep (h : GateUse parts s) {e : PollEvent}
    (he : PollEffect parts s e s') : GateUse parts s' := by
  cases he with
  | resolve hpc hresolve =>
    obtain ⟨group, driver, gate, deadline, rfl, hresolved⟩ := resolvePoll_resolved hresolve
    exact h.pollMove _ (by rw [hpc]; rfl) hresolved
  | unresolved hpc => exact h.pollMove _ (by rw [hpc]; rfl) trivial
  | @lock group driver gate deadline hpc hfree =>
    have hresolved := h.resolved
    rw [hpc] at hresolved
    exact {
      poll := holds_acquire h.poll (by rw [hpc]; rfl) gate
      control := holds_other h.control (by rw [hfree]; simp) (by simp)
      resolved := hresolved
      worked := h.worked }
  | timeout hpc =>
    exact { h.pollMove (.done false) (by rw [hpc]; rfl) trivial with }
  | @driverReturn _ _ gate _ _ batch _ hpc =>
    exact { h.pollMove (.pushing gate batch) (by rw [hpc]; rfl) trivial with }
  | @driverThrow _ _ gate _ hpc => exact h.pollMove _ (by rw [hpc]; rfl) trivial
  | @push gate _ _ hpc =>
    exact { h.pollMove (.leaving gate) (by rw [hpc]; rfl) trivial with }
  | leave hpc => exact { h.pollRelease (by rw [hpc]; rfl) (.done false) rfl trivial with }
  | unwind hpc => exact h.pollRelease (by rw [hpc]; rfl) .failing rfl trivial
  | fail hpc => exact { h.pollMove (.done true) (by rw [hpc]; rfl) trivial with }

private theorem GateUse.controlStep (h : GateUse parts s) {e : WorkerEvent}
    (he : ControlEffect parts s e s') : GateUse parts s' := by
  cases he with
  | @lock op es stage gate d hw hgate hfree hd =>
    have hstage : stage = .lockGate ∧ d.worker = .executing op es (.recheck true) := by
      cases Dispatcher.stepWorker_effect hd with
      | move hw' hmove _ =>
        rw [hw] at hw'
        cases hw'
        cases hmove
        exact ⟨rfl, rfl⟩
    obtain ⟨rfl, hworker⟩ := hstage
    refine ⟨holds_other h.poll (by rw [hfree]; simp) (by simp), ?_, h.resolved, ?_⟩
    · intro other
      rw [holds_acquire h.control (by simp [controlGate?, hw, Worker.gatedDevice, Stage.gated?])
        gate other]
      simp [controlGate?, hworker, Worker.gatedDevice, Stage.gated?, hgate]
    · intro op' es' stage' gated hw' heq
      obtain ⟨rfl, rfl, rfl⟩ : op = op' ∧ es = es' ∧ Stage.recheck true = stage' := by
        simpa [hworker] using hw'
      obtain rfl := Option.some.inj heq
      exact ⟨rfl, by rw [hgate]; rfl⟩
  | @unlock op es result gate d hw hgate hd =>
    have hworker : d.worker = .executing op es (.finish result) := by
      cases Dispatcher.stepWorker_effect hd with
      | move hw' hmove _ =>
        rw [hw] at hw'
        cases hw'
        cases hmove
        rfl
    have howned : controlGate? parts s = some gate := by
      simp [controlGate?, hw, Worker.gatedDevice, Stage.gated?, hgate]
    have hheld := (h.control gate).mpr howned
    refine ⟨holds_other h.poll (by rw [hheld]; simp) (by simp), ?_, h.resolved, ?_⟩
    · intro other
      rw [holds_release h.control howned other]
      simp [controlGate?, hworker, Worker.gatedDevice, Stage.gated?]
    · intro op' es' stage' gated hw' heq
      obtain ⟨rfl, rfl, rfl⟩ : op = op' ∧ es = es' ∧ Stage.finish result = stage' := by
        simpa [hworker] using hw'
      cases heq
  | plain hlock hunlock _ _ hd =>
    obtain ⟨hworked, hdevice⟩ := worked_plain h.worked hlock hunlock
      (Dispatcher.stepWorker_effect hd)
    refine ⟨h.poll, fun gate => (h.control gate).trans ?_, h.resolved, hworked⟩
    unfold controlGate?
    rw [hdevice]

/-- A step of the dispatcher's other threads. -/
private theorem GateUse.callerStep (h : GateUse parts s) {t : ThreadId} {e : CallerEvent}
    {d : Dispatcher} (hs : Dispatcher.Stopping s.dispatcher)
    (hd : s.dispatcher.step true (.caller t e) = some d) :
    GateUse parts { s with dispatcher := d } := by
  have hsame : Worked parts d.worker ∧ d.worker.gatedDevice = s.dispatcher.worker.gatedDevice := by
    rcases (Dispatcher.stepCaller_effect hd).worker with hw | ⟨hstarted, hw⟩
    · rw [hw]
      exact ⟨h.worked, rfl⟩
    · rw [hw, hs.absent.mpr hstarted]
      exact ⟨worked_of_not_executing (by simp), rfl⟩
  refine ⟨h.poll, fun gate => (h.control gate).trans ?_, h.resolved, hsame.1⟩
  unfold controlGate?
  rw [hsame.2]

/-- `GateUse` holds of every reachable state. -/
theorem gate_use (h : (runtimeSystem parts).Reachable s) : GateUse parts s := by
  refine h.invariant ?_ ?_
  · rintro s rfl
    exact ⟨fun _ => ⟨nofun, nofun⟩, fun _ => ⟨nofun, nofun⟩, trivial,
      worked_of_not_executing (by simp [create, Dispatcher.create])⟩
  · intro s e s' hr hi hstep
    have hstopping := (dispatcher_invariant hr).stopping
    cases step_effect hstep with
    | begin _ _ hd =>
      cases hd with
      | startDispatcher hd => exact { hi.callerStep hstopping hd with }
      | requestStopDispatcher hd => exact { hi.callerStep hstopping hd with }
      | joinDispatcher hd => exact { hi.callerStep hstopping hd with }
      | other _ => exact { hi with }
    | dispatch _ _ _ hd => exact hi.callerStep hstopping hd
    | submitControl hd => exact hi.callerStep hstopping hd
    | submit _ hd => exact hi.callerStep hstopping hd
    | control h => exact hi.controlStep h
    | schedule h =>
      cases h with
      | @select engine engine' now startedAt hengine hl =>
        -- nothing was being polled, so a poll that begins leaves no gate behind
        have hidle : s.poll = .idle := (scheduler_use hr).idle_of_select hengine hl
        refine { hi with poll := fun gate => (hi.poll gate).trans ?_, resolved := ?_ }
        · rw [hidle]
          cases engine'.polledGroup <;> rfl
        · rw [hidle]
          cases engine'.polledGroup <;> trivial
      | pollReturn hengine hpc hl =>
        have hgate : s.poll.gate? = none := by rw [hpc]; rfl
        exact { hi with
          poll := fun gate => (hi.poll gate).trans (by rw [hgate]; rfl)
          resolved := trivial }
      | other hengine _ hl => exact { hi with }
    | poll h => exact hi.pollStep h
    | refused => exact hi
    | _ => exact { hi with }

/-! ### One device, one operation -/

/-- The driver and the gate are those of the device, under one driver instance. -/
def OnDevice (parts : RuntimeParts) (deviceId : ByteString) (driver gate : ℕ) : Prop :=
  findDriverPtr parts.drivers deviceId = some driver ∧
    findIoGate parts.drivers deviceId = some gate ∧ gate = driver ∧
    ∃ item, parts.drivers[driver]? = some item ∧ item.deviceId = deviceId

theorem onDevice_of_lookups {deviceId : ByteString} {driver gate : ℕ}
    (hdriver : findDriverPtr parts.drivers deviceId = some driver)
    (hgate : findIoGate parts.drivers deviceId = some gate) : OnDevice parts deviceId driver gate := by
  have heq : gate = driver := by
    rw [findIoGate_eq, hdriver] at hgate
    exact (Option.some.inj hgate).symm
  exact ⟨hdriver, hgate, heq, findDriverPtr_some hdriver⟩

/-- What a device may rely on. -/
structure DeviceExclusive (parts : RuntimeParts) (s : Runtime) : Prop where
  /-- No driver has a `poll` and a `control` in progress. -/
  exclusive : ∀ driver, s.poll.driver? = some driver → controlDriver? parts s ≠ some driver
  /-- A `poll` in progress is behind the gate of its device. -/
  polled : ∀ group driver gate deadline, s.poll = .polling group driver gate deadline →
    OnDevice parts group.deviceId driver gate ∧ s.gates gate = some .poll
  /-- A `control` in progress is behind the gate of its device. -/
  controlled : ∀ deviceId, s.dispatcher.worker.controlledDevice = some deviceId →
    ∃ driver gate, OnDevice parts deviceId driver gate ∧ s.gates gate = some .control
  /-- The poll path holds the gate it has taken and no other. -/
  pollHolds : ∀ gate, s.gates gate = some .poll ↔ s.poll.gate? = some gate
  /-- The control path holds the gate it has taken and no other. -/
  controlHolds : ∀ gate, s.gates gate = some .control ↔ controlGate? parts s = some gate
  /-- Where both paths have ended, or have not come to their gates, every gate is free. -/
  released : s.poll.gate? = none → s.dispatcher.worker.gatedDevice = none →
    ∀ gate, s.gates gate = none

/-- **At most one I/O operation per device at a time**, in every reachable state. -/
theorem device_exclusive (h : (runtimeSystem parts).Reachable s) : DeviceExclusive parts s := by
  have hi := gate_use h
  have hpolled : ∀ group driver gate deadline, s.poll = .polling group driver gate deadline →
      OnDevice parts group.deviceId driver gate ∧ s.gates gate = some .poll := by
    intro group driver gate deadline hpc
    have hresolved := hi.resolved
    rw [hpc] at hresolved
    exact ⟨onDevice_of_lookups hresolved.1 hresolved.2, (hi.poll gate).mpr (by rw [hpc]; rfl)⟩
  have hcontrolled : ∀ deviceId, s.dispatcher.worker.controlledDevice = some deviceId →
      ∃ driver gate, OnDevice parts deviceId driver gate ∧ s.gates gate = some .control := by
    intro deviceId hdevice
    unfold Worker.controlledDevice at hdevice
    split at hdevice
    · rename_i op es gated hw
      obtain rfl := Option.some.inj hdevice
      obtain ⟨rfl, hsome⟩ := hi.worked op es (.driver gated) gated hw rfl
      obtain ⟨gate, hgate⟩ := Option.isSome_iff_exists.mp hsome
      have hdriver := hgate
      rw [findIoGate_eq] at hdriver
      refine ⟨gate, gate, onDevice_of_lookups hdriver hgate, (hi.control gate).mpr ?_⟩
      simp [controlGate?, hw, Stage.gated?, hgate]
    · cases hdevice
  refine ⟨?_, hpolled, hcontrolled, hi.poll, hi.control, ?_⟩
  · intro driver hpoll hcontrol
    obtain ⟨deviceId, hdevice, hdriver⟩ := Option.bind_eq_some_iff.mp hcontrol
    obtain ⟨driver₁, gate₁, ⟨hdriver₁, -, hgate₁, -⟩, hheld₁⟩ := hcontrolled deviceId hdevice
    obtain rfl := Option.some.inj (hdriver.symm.trans hdriver₁)
    unfold PollPc.driver? at hpoll
    split at hpoll
    · rename_i group driver₂ gate₂ deadline hpc
      obtain rfl := Option.some.inj hpoll
      obtain ⟨⟨-, -, hgate₂, -⟩, hheld₂⟩ := hpolled group driver₂ gate₂ deadline hpc
      -- one gate, two holders
      rw [hgate₂] at hheld₂
      rw [hgate₁, hheld₂] at hheld₁
      cases hheld₁
    · cases hpoll
  · intro hpoll hcontrol gate
    cases hheld : s.gates gate with
    | none => rfl
    | some user =>
      cases user with
      | poll =>
        have := (hi.poll gate).mp hheld
        rw [hpoll] at this
        cases this
      | control =>
        have := (hi.control gate).mp hheld
        rw [controlGate?, hcontrol] at this
        cases this

/-! ### A run on one device -/

/-- A runtime with one polled device, one publisher and one control source. -/
def oneDevice : RuntimeParts where
  config := {
    rawQueueCapacity := 4
    controlQueueCapacity := 4
    devices := [{
      id := lit "d"
      driver := { type := lit "t", settingsJson := [], library := [] }
      connection := []
      points := [] }]
    groups := [{ id := lit "g", deviceId := lit "d", interval := 1, timeout := 1, points := [] }] }
  drivers := [{ deviceId := lit "d", driver := some .poll }]
  processors := []
  eventPublishers := [{ id := lit "p", publisher := .plugin }]
  deviceControlSources := [.plugin]
  accepted := by rfl

/-- Calls of `a` that begin and return. -/
def returningCalls (a : Actor) (count : ℕ) : List RuntimeEvent :=
  (List.replicate count [.lifecycle (.begin a), .lifecycle (.finish a true 0)]).flatten

/-- Thread `0` starts the runtime `oneDevice`. -/
def startRun : List RuntimeEvent :=
  ([.lifecycle (.call (.thread 0) .start), .lifecycle (.lock (.thread 0))] : List RuntimeEvent) ++
  returningCalls (.thread 0) 2 ++
  ([.lifecycle (.begin (.thread 0)), .dispatch (.thread 0) (.start true),
    .lifecycle (.finish (.thread 0) true 0)] : List RuntimeEvent) ++
  returningCalls (.thread 0) 4 ++ ([.lifecycle (.complete (.thread 0))] : List RuntimeEvent)

/-- Thread `t` submits a request for the device, which is accepted. -/
def submitRun (t : ThreadId) : List RuntimeEvent :=
  .submitControl t { requestId := lit "r", deviceId := lit "d", command := lit "c" } (some t) ::
    ([.submitCount, .submitCheck, .submitLock, .submitResolve true, .submitPush 0,
      .submitRecord] : List CallerEvent).map (.submit t)

/-- The scheduler worker selects the group and takes the gate of its device. -/
def pollRun : List RuntimeEvent :=
  [.schedule (.select 1000000 1000000), .poll (.resolve 1000000), .poll (.lock true)]

/-- A device that is being polled while a control request waits for its gate. -/
theorem device_exclusive_oneDevice :
    ∃ s, (s.poll.driver? = some 0 ∧ s.dispatcher.worker.inHand.length = 1) ∧
      DeviceExclusive oneDevice s := by
  obtain ⟨s, hr, hs⟩ := TransitionSystem.exists_reachable_of_run
    (M := runtimeSystem oneDevice) (s := create oneDevice)
    (w := startRun ++ submitRun 0 ++ ([.pop 0, .countWait, .resolve true, .deadline 0,
      .gate true] : List WorkerEvent).map .control ++ pollRun)
    (p := fun s => s.poll.driver? = some 0 ∧ s.dispatcher.worker.inHand.length = 1)
    rfl (by decide +kernel)
  exact ⟨s, by simpa using hs, device_exclusive hr⟩

end Runtime

end MiniGateway
