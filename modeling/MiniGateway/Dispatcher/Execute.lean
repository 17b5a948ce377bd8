/-
  `DeviceControlDispatcher::execute` and `complete` (`control.cpp`) as one piece of sequential code.

  `Dispatcher.stepExecute` cuts `execute` at its accesses to shared data and leaves to its events
  what the resolvers, the gate and the driver do.  Here these are functions (`ExecuteEnvironment`),
  the clock is the sequence of its readings, and the state records what has been called and with
  what (`ExecuteState`).  `execute_contract` says what comes of it on every path, and
  `reaches_execute` that the worker goes through the same execution in the steps of the dispatcher.
-/
import MiniGateway.Dispatcher.Step

namespace MiniGateway

/-! ### What `execute` calls -/

/-- What a resolver does: it returns a pointer, which may be null, or throws. -/
inductive Lookup (α : Type)
  | found (value : α)
  | null
  | threw

/-- The pointer that is left by `try { p = resolver(id); } catch (...) { p = nullptr; }`. -/
def Lookup.pointer {α : Type} : Lookup α → Option α
  | .found value => some value
  | .null | .threw => none

@[simp] theorem Lookup.pointer_eq_some {α : Type} {lookup : Lookup α} {value : α} :
    lookup.pointer = some value ↔ lookup = .found value := by
  cases lookup <;> simp [pointer]

/-- How `try_lock_until` ends. -/
inductive TimedLock
  | obtained
  | timedOut
  | threw
  deriving DecidableEq

/-- How `driver->control` ends; `what` is `none` for what is not a `std::exception`. -/
inductive DriverOutcome
  | returned (result : DeviceControlResult)
  | threw (what : Option ByteString)

/-- Everything outside that one call of `execute` depends on. -/
structure ExecuteEnvironment (Driver Gate : Type) where
  driverResolver : ByteString → Lookup Driver
  /-- `none` when no gate resolver is configured. -/
  gateResolver : Option (ByteString → Lookup Gate)
  /-- Whether `lock` returns with the gate; it throws otherwise. -/
  lock : Gate → Bool
  tryLockUntil : Gate → TimePoint → TimedLock
  control : Driver → DeviceControlRequest → DriverOutcome
  /-- The successive readings of `ControlClock::now()`. -/
  clock : ℕ → TimePoint

/-- One call of `driver->control`, with what was the case when it began. -/
structure DriverCall (Driver Gate : Type) where
  driver : Driver
  request : DeviceControlRequest
  /-- The gate that `gate_lock` owned. -/
  held : Option Gate
  /-- The clock readings before the call. -/
  readings : List TimePoint
  deriving DecidableEq

/-- The variables of `execute` that outlive a statement, and a record of what it did. -/
structure ExecuteState (Driver Gate : Type) where
  stats : ControlStats
  /-- The gate that `gate_lock` owns. -/
  held : Option Gate := none
  /-- The clock readings so far. -/
  readings : List TimePoint := []
  /-- The calls of `driver->control`. -/
  calls : List (DriverCall Driver Gate) := []
  /-- The results that `complete` was called with. -/
  completed : List DeviceControlResult := []
  /-- The calls of the completion. -/
  invoked : List (CompletionId × DeviceControlResult) := []

namespace ControlStats.SameCounts

variable {a b c : ControlStats}

theorem trans (hab : a.SameCounts b) (hbc : b.SameCounts c) : a.SameCounts c := by
  unfold SameCounts at hab hbc ⊢
  rw [hab, hbc]

theorem addExecuted (h : a.SameCounts b) :
    ({ a with executed := a.executed + 1 } : ControlStats).SameCounts
      { b with executed := b.executed + 1 } := by
  unfold SameCounts at h ⊢
  rw [h]

theorem countOutcome (h : a.SameCounts b) (status : DeviceControlStatus) :
    (a.countOutcome status).SameCounts (b.countOutcome status) := by
  unfold SameCounts at h ⊢
  rw [h]
  cases status <;> rfl

end ControlStats.SameCounts

/-! ### The code -/

namespace ExecuteEnvironment

variable {Driver Gate : Type} (env : ExecuteEnvironment Driver Gate)

/-- `ControlClock::now()`. -/
def now (s : ExecuteState Driver Gate) : TimePoint × ExecuteState Driver Gate :=
  let reading := env.clock s.readings.length
  (reading, { s with readings := s.readings ++ [reading] })

/-- `complete`.  What the completion throws is caught there. -/
def complete (op : ControlOperation) (result : DeviceControlResult)
    (s : ExecuteState Driver Gate) : ExecuteState Driver Gate :=
  { s with
    stats := s.stats.countOutcome result.status
    completed := s.completed ++ [result]
    invoked := match op.completion with
      | none => s.invoked
      | some completion => s.invoked ++ [(completion, result)] }

/-- The lambda `finish` of `execute`. -/
def finish (op : ControlOperation) (executionStarted : TimePoint) (result : DeviceControlResult)
    (s : ExecuteState Driver Gate) : ExecuteState Driver Gate :=
  let (reading, s) := env.now s
  complete op result { s with stats := s.stats.addExecution (reading - executionStarted) }

/-- `locked`: a deadline of `time_point::max()` waits without a limit. -/
def locked (deadline : TimePoint) (gate : Gate) : Bool :=
  if deadline = timePointMax then env.lock gate
  else env.tryLockUntil gate deadline = .obtained

/-- The block `if (gate_resolver_)`: `gate_lock` owns the gate afterwards, or the result is there
to finish with. -/
def takeGate (request : DeviceControlRequest) (s : ExecuteState Driver Gate) :
    Except DeviceControlResult (ExecuteState Driver Gate) :=
  match env.gateResolver with
  | none => .ok s
  | some gateResolver =>
    match (gateResolver request.deviceId).pointer with
    | none => .error (executeResult request .failed (lit "device I/O gate is unavailable"))
    | some gate =>
      if env.locked request.deadline gate then .ok { s with held := some gate }
      else .error (executeResult request .timeout (lit "timed out waiting for device I/O"))

/-- `if (gate_lock.owns_lock()) gate_lock.unlock();` -/
def releaseGate (s : ExecuteState Driver Gate) : ExecuteState Driver Gate := { s with held := none }

/-- The check right before the driver call.  The clock is not read for an unbounded deadline. -/
def expired (deadline : TimePoint) (s : ExecuteState Driver Gate) :
    Bool × ExecuteState Driver Gate :=
  if deadline = timePointMax then (false, s)
  else
    let (reading, s) := env.now s
    (reading ≥ deadline, s)

/-- From `++stats_.executed` to the end of the `try` around `driver->control`. -/
def callDriver (driver : Driver) (request : DeviceControlRequest)
    (s : ExecuteState Driver Gate) : DeviceControlResult × ExecuteState Driver Gate :=
  let s := { s with
    stats := { s.stats with executed := s.stats.executed + 1 }
    calls := s.calls ++ [⟨driver, request, s.held, s.readings⟩] }
  match env.control driver request with
  | .returned result =>
    let (reading, s) := env.now s
    (driverResult request result reading, s)
  | .threw what => (driverFailure request what, s)

/-- `execute` from the second deadline check on. -/
def afterGate (op : ControlOperation) (executionStarted : TimePoint) (driver : Driver)
    (s : ExecuteState Driver Gate) : ExecuteState Driver Gate :=
  let (late, s) := env.expired op.request.deadline s
  if late then
    env.finish op executionStarted (executeResult op.request .timeout
      (lit "control request deadline expired before driver call")) (releaseGate s)
  else
    let (result, s) := env.callDriver driver op.request s
    env.finish op executionStarted result (releaseGate s)

/-- `execute` from the gate on. -/
def afterDeadline (op : ControlOperation) (executionStarted : TimePoint) (driver : Driver)
    (s : ExecuteState Driver Gate) : ExecuteState Driver Gate :=
  match env.takeGate op.request s with
  | .error result => env.finish op executionStarted result s
  | .ok s => env.afterGate op executionStarted driver s

/-- `execute` once the waiting time is counted. -/
def afterEntry (op : ControlOperation) (executionStarted : TimePoint)
    (s : ExecuteState Driver Gate) : ExecuteState Driver Gate :=
  match (env.driverResolver op.request.deviceId).pointer with
  | none =>
    env.finish op executionStarted
      (executeResult op.request .failed (lit "device is no longer available")) s
  | some driver =>
    let (reading, s) := env.now s
    if op.request.deadline ≤ reading then
      env.finish op executionStarted (executeResult op.request .timeout
        (lit "control request deadline expired before execution")) s
    else env.afterDeadline op executionStarted driver s

/-- `execute`. -/
def execute (op : ControlOperation) (s : ExecuteState Driver Gate) : ExecuteState Driver Gate :=
  let (executionStarted, s) := env.now s
  env.afterEntry op executionStarted
    { s with stats := s.stats.addQueueWait (executionStarted - op.enqueuedAt) }

/-! ### What is promised -/

/-- The last of these clock readings is earlier than the deadline. -/
def InTime (deadline : TimePoint) (readings : List TimePoint) : Prop :=
  ∃ n, readings = (List.range (n + 1)).map env.clock ∧ env.clock n < deadline

/-- A driver call that `execute` may make for this request. -/
structure Proper (request : DeviceControlRequest) (call : DriverCall Driver Gate) : Prop where
  driver : env.driverResolver request.deviceId = .found call.driver
  sameRequest : call.request = request
  /-- With gates configured, the device's gate is owned. -/
  gate : ∀ gateResolver, env.gateResolver = some gateResolver →
    ∃ gate, gateResolver request.deviceId = .found gate ∧ call.held = some gate
  inTime : env.InTime request.deadline call.readings

/-- The driver returned this from one of the calls. -/
def Returned (calls : List (DriverCall Driver Gate)) (call : DriverCall Driver Gate)
    (result : DeviceControlResult) : Prop :=
  call ∈ calls ∧ env.control call.driver call.request = .returned result

/-- `lock` throws on the gate of the device. -/
def LockThrows (deviceId : ByteString) : Prop :=
  ∃ gateResolver gate, env.gateResolver = some gateResolver ∧
    gateResolver deviceId = .found gate ∧ env.lock gate = false

/-- What may be delivered after the calls and readings in `s`. -/
structure Permitted (request : DeviceControlRequest) (result : DeviceControlResult)
    (s : ExecuteState Driver Gate) : Prop where
  readings : s.readings = (List.range s.readings.length).map env.clock
  requestId : result.requestId = request.requestId
  atMostOneCall : s.calls.length ≤ 1
  proper : ∀ call ∈ s.calls, env.Proper request call
  /-- Success comes from the driver, and the clock read after its return is not past the
  deadline. -/
  succeeded : result.status = .succeeded → ∃ call returned, env.Returned s.calls call returned ∧
    returned.status = .succeeded ∧ call.readings.length < s.readings.length ∧
      env.clock call.readings.length ≤ request.deadline
  /-- Without a deadline a timeout comes from the driver, or from a gate that cannot be locked. -/
  timeout : request.deadline = timePointMax → result.status = .timeout →
    (∃ call returned, env.Returned s.calls call returned ∧ returned.status = .timeout) ∨
      env.LockThrows request.deviceId

/-- `execute` has delivered `result`, from a state with the counters `stats`. -/
structure Delivered (op : ControlOperation) (stats : ControlStats) (result : DeviceControlResult)
    (s : ExecuteState Driver Gate) : Prop where
  permitted : env.Permitted op.request result s
  completed : s.completed = [result]
  invoked : s.invoked = op.completion.toList.map fun completion => (completion, result)
  /-- One outcome is counted, and each driver call is. -/
  counted : s.stats.SameCounts
    (({ stats with executed := stats.executed + s.calls.length } : ControlStats).countOutcome
      result.status)
  released : s.held = none

/-! ### Before the outcome -/

/-- `execute` has not come to its outcome yet. -/
structure InProgress (stats : ControlStats) (s : ExecuteState Driver Gate) : Prop where
  readings : s.readings = (List.range s.readings.length).map env.clock
  counted : s.stats.SameCounts { stats with executed := stats.executed + s.calls.length }
  completed : s.completed = []
  invoked : s.invoked = []

theorem InProgress.start (stats : ControlStats) : env.InProgress stats { stats := stats } :=
  ⟨rfl, .refl stats, rfl, rfl⟩

variable {env} {stats : ControlStats} {s : ExecuteState Driver Gate} {op : ControlOperation}
  {result : DeviceControlResult} {request : DeviceControlRequest}

/-- Reading the clock gives the next of its readings and changes nothing else. -/
theorem now_readings (h : s.readings = (List.range s.readings.length).map env.clock) :
    (env.now s).2.readings = (List.range (s.readings.length + 1)).map env.clock := by
  show s.readings ++ [env.clock s.readings.length] = _
  rw [List.range_succ, List.map_append, ← h]
  rfl

theorem InProgress.now (h : env.InProgress stats s) : env.InProgress stats (env.now s).2 := by
  have hreadings := now_readings h.readings
  have hlength : (env.now s).2.readings.length = s.readings.length + 1 := by
    rw [hreadings, List.length_map, List.length_range]
  exact { h with readings := by rw [hlength]; exact hreadings }

theorem InProgress.addQueueWait (h : env.InProgress stats s) (duration : ℤ) :
    env.InProgress stats { s with stats := s.stats.addQueueWait duration } :=
  ⟨h.readings, .trans (.addQueueWait _ _) h.counted, h.completed, h.invoked⟩

theorem InProgress.hold (h : env.InProgress stats s) (held : Option Gate) :
    env.InProgress stats { s with held := held } :=
  { h with }

/-- One more call is one more in `executed`. -/
theorem InProgress.call (h : env.InProgress stats s) (call : DriverCall Driver Gate) :
    env.InProgress stats { s with
      stats := { s.stats with executed := s.stats.executed + 1 }
      calls := s.calls ++ [call] } := by
  refine ⟨h.readings, ?_, h.completed, h.invoked⟩
  have hlength : (s.calls ++ [call]).length = s.calls.length + 1 := List.length_append
  show ControlStats.SameCounts _
    { stats with executed := stats.executed + (s.calls ++ [call]).length }
  rw [hlength]
  exact h.counted.addExecuted

/-- What may be delivered may also be delivered after more readings. -/
theorem Permitted.now (h : env.Permitted request result s) :
    env.Permitted request result (env.now s).2 := by
  have hreadings := now_readings h.readings
  have hlength : (env.now s).2.readings.length = s.readings.length + 1 := by
    rw [hreadings, List.length_map, List.length_range]
  refine { h with
    readings := by rw [hlength]; exact hreadings
    succeeded := fun hstatus => ?_ }
  obtain ⟨call, returned, hreturned, hsucceeded, hread, hdeadline⟩ := h.succeeded hstatus
  exact ⟨call, returned, hreturned, hsucceeded, by omega, hdeadline⟩

theorem finish_invoked (env : ExecuteEnvironment Driver Gate) (op : ControlOperation)
    (executionStarted : TimePoint) (result : DeviceControlResult) (s : ExecuteState Driver Gate) :
    (env.finish op executionStarted result s).invoked =
      s.invoked ++ op.completion.toList.map fun completion => (completion, result) := by
  show (match op.completion with
    | none => s.invoked
    | some completion => s.invoked ++ [(completion, result)]) = _
  cases op.completion with
  | none => exact (List.append_nil _).symm
  | some completion => rfl

/-- **`finish` delivers once**: with the gate released and a permitted result. -/
theorem finish_delivered (h : env.InProgress stats s)
    (hpermitted : env.Permitted op.request result s) (hreleased : s.held = none)
    (executionStarted : TimePoint) :
    env.Delivered op stats result (env.finish op executionStarted result s) := by
  have hnow := hpermitted.now
  refine ⟨{ hnow with }, ?_, ?_, ?_, hreleased⟩
  · show s.completed ++ [result] = [result]
    rw [h.completed]
    rfl
  · rw [finish_invoked, h.invoked, List.nil_append]
  · show ((s.stats.addExecution _).countOutcome result.status).SameCounts _
    exact (ControlStats.SameCounts.trans (.addExecution _ _) h.counted).countOutcome _

/-- Without a driver call, anything but a success may be delivered, and a timeout only under a
deadline or when the gate cannot be locked. -/
theorem InProgress.permitted_of_no_call (h : env.InProgress stats s) (hcalls : s.calls = [])
    (status : DeviceControlStatus) (message : ByteString) (hstatus : status ≠ .succeeded)
    (htimeout : request.deadline = timePointMax → status = .timeout →
      env.LockThrows request.deviceId) :
    env.Permitted request (executeResult request status message) s where
  readings := h.readings
  requestId := rfl
  atMostOneCall := by
    rw [hcalls]
    exact Nat.zero_le 1
  proper call hcall := by
    rw [hcalls] at hcall
    cases hcall
  succeeded hsucceeded := absurd hsucceeded hstatus
  timeout hdeadline ht := Or.inr (htimeout hdeadline ht)

/-! ### The parts of `execute` -/

/-- After the gate block only `held` has changed, and with gates configured it is the device's
gate. -/
theorem takeGate_ok {s' : ExecuteState Driver Gate} (h : env.takeGate request s = .ok s') :
    (∃ held, s' = { s with held := held }) ∧
      ∀ gateResolver, env.gateResolver = some gateResolver →
        ∃ gate, gateResolver request.deviceId = .found gate ∧ s'.held = some gate := by
  unfold takeGate at h
  cases hresolver : env.gateResolver with
  | none =>
    rw [hresolver] at h
    obtain rfl := Except.ok.inj h
    exact ⟨⟨s.held, rfl⟩, nofun⟩
  | some gateResolver =>
    rw [hresolver] at h
    dsimp only at h
    cases hpointer : (gateResolver request.deviceId).pointer with
    | none =>
      rw [hpointer] at h
      cases h
    | some gate =>
      rw [hpointer] at h
      dsimp only at h
      split_ifs at h
      obtain rfl := Except.ok.inj h
      refine ⟨⟨some gate, rfl⟩, fun resolver hr => ?_⟩
      obtain rfl := Option.some.inj hr
      exact ⟨gate, Lookup.pointer_eq_some.mp hpointer, rfl⟩

/-- The gate block fails with a status other than success; under an unbounded deadline it times
out only if `lock` throws. -/
theorem takeGate_error (h : env.takeGate request s = .error result) :
    ∃ status message, result = executeResult request status message ∧ status ≠ .succeeded ∧
      (request.deadline = timePointMax → status = .timeout → env.LockThrows request.deviceId) := by
  unfold takeGate at h
  cases hresolver : env.gateResolver with
  | none =>
    rw [hresolver] at h
    cases h
  | some gateResolver =>
    rw [hresolver] at h
    dsimp only at h
    cases hpointer : (gateResolver request.deviceId).pointer with
    | none =>
      rw [hpointer] at h
      obtain rfl := Except.error.inj h
      exact ⟨.failed, _, rfl, by decide, nofun⟩
    | some gate =>
      rw [hpointer] at h
      dsimp only at h
      split_ifs at h with hlocked
      obtain rfl := Except.error.inj h
      refine ⟨.timeout, _, rfl, by decide, fun hdeadline _ => ?_⟩
      -- With an unbounded deadline `locked` is what `lock` gives.
      unfold locked at hlocked
      rw [if_pos hdeadline, Bool.not_eq_true] at hlocked
      exact ⟨gateResolver, gate, hresolver, Lookup.pointer_eq_some.mp hpointer, hlocked⟩

/-- The second check reads the clock at most once. -/
theorem expired_state (deadline : TimePoint) (s : ExecuteState Driver Gate) :
    (env.expired deadline s).2 = s ∨ (env.expired deadline s).2 = (env.now s).2 := by
  unfold expired
  split_ifs
  · exact Or.inl rfl
  · exact Or.inr rfl

@[simp] theorem expired_calls (deadline : TimePoint) (s : ExecuteState Driver Gate) :
    (env.expired deadline s).2.calls = s.calls := by
  rcases expired_state deadline s with heq | heq <;> rw [heq]
  rfl

@[simp] theorem expired_held (deadline : TimePoint) (s : ExecuteState Driver Gate) :
    (env.expired deadline s).2.held = s.held := by
  rcases expired_state deadline s with heq | heq <;> rw [heq]
  rfl

theorem InProgress.expired (h : env.InProgress stats s) (deadline : TimePoint) :
    env.InProgress stats (env.expired deadline s).2 := by
  rcases expired_state deadline s with heq | heq
  · rw [heq]
    exact h
  · rw [heq]
    exact h.now

/-- After the second check has passed, the last reading is still in time. -/
theorem expired_inTime {deadline : TimePoint}
    (hreadings : s.readings = (List.range s.readings.length).map env.clock)
    (htime : env.InTime deadline s.readings) (h : (env.expired deadline s).1 = false) :
    env.InTime deadline (env.expired deadline s).2.readings := by
  unfold expired at h ⊢
  split_ifs at h ⊢ with hdeadline
  · exact htime
  · have hlt : env.clock s.readings.length < deadline := not_le.mp (of_decide_eq_false h)
    exact ⟨s.readings.length, now_readings hreadings, hlt⟩

/-- A timeout finds the deadline bounded. -/
theorem expired_bounded {deadline : TimePoint} (h : (env.expired deadline s).1 = true) :
    deadline ≠ timePointMax := by
  unfold expired at h
  split_ifs at h with hdeadline
  exact hdeadline

theorem InProgress.callDriver (h : env.InProgress stats s) (driver : Driver)
    (request : DeviceControlRequest) :
    env.InProgress stats (env.callDriver driver request s).2 := by
  have hcall := h.call ⟨driver, request, s.held, s.readings⟩
  unfold ExecuteEnvironment.callDriver
  cases env.control driver request with
  | returned result => exact hcall.now
  | threw what => exact hcall

theorem callDriver_calls (driver : Driver) (request : DeviceControlRequest)
    (s : ExecuteState Driver Gate) : (env.callDriver driver request s).2.calls =
      s.calls ++ [⟨driver, request, s.held, s.readings⟩] := by
  unfold callDriver
  cases env.control driver request with
  | returned result => rfl
  | threw what => rfl

theorem driverResult_requestId (request : DeviceControlRequest) (result : DeviceControlResult)
    (now : TimePoint) : (driverResult request result now).requestId = request.requestId := by
  unfold driverResult
  split_ifs <;> rfl

/-- Past the deadline there is no success. -/
theorem driverResult_succeeded {now : TimePoint}
    (h : (driverResult request result now).status = .succeeded) :
    result.status = .succeeded ∧ now ≤ request.deadline := by
  unfold driverResult at h
  split_ifs at h with hlate
  exact ⟨h, not_lt.mp hlate⟩

/-- Up to the deadline the driver's status is the one delivered. -/
theorem driverResult_status {now : TimePoint} (hnow : now ≤ request.deadline) :
    (driverResult request result now).status = result.status := by
  unfold driverResult
  rw [if_neg (not_lt.mpr hnow)]

/-- **The driver call**: after it, what the driver did may be delivered. -/
theorem callDriver_permitted (hclock : ∀ i, env.clock i < timePointMax)
    (h : env.InProgress stats s) (hcalls : s.calls = []) {driver : Driver}
    (hproper : env.Proper request ⟨driver, request, s.held, s.readings⟩) :
    env.Permitted request (env.callDriver driver request s).1
      (env.callDriver driver request s).2 := by
  have hreadings := (h.callDriver driver request).readings
  have hone : (env.callDriver driver request s).2.calls =
      [⟨driver, request, s.held, s.readings⟩] := by
    rw [callDriver_calls, hcalls, List.nil_append]
  have hatMost : (env.callDriver driver request s).2.calls.length ≤ 1 := by
    rw [hone]
    exact le_refl 1
  have hall : ∀ call ∈ (env.callDriver driver request s).2.calls, env.Proper request call := by
    intro call hcall
    rw [hone] at hcall
    obtain rfl := List.mem_singleton.mp hcall
    exact hproper
  unfold callDriver at hreadings hatMost hall ⊢
  cases hcontrol : env.control driver request with
  | threw what =>
    rw [hcontrol] at hreadings hatMost hall
    exact ⟨hreadings, rfl, hatMost, hall, nofun, nofun⟩
  | returned returned =>
    rw [hcontrol] at hreadings hatMost hall
    have hreturned : env.Returned (s.calls ++ [⟨driver, request, s.held, s.readings⟩])
        ⟨driver, request, s.held, s.readings⟩ returned :=
      ⟨List.mem_append_right _ List.mem_cons_self, hcontrol⟩
    have hread : s.readings.length < (s.readings ++ [env.clock s.readings.length]).length := by
      rw [List.length_append]
      exact Nat.lt_succ_self _
    refine ⟨hreadings, driverResult_requestId _ _ _, hatMost, hall, ?_, ?_⟩
    · intro hstatus
      obtain ⟨hsucceeded, hdeadline⟩ := driverResult_succeeded hstatus
      exact ⟨_, returned, hreturned, hsucceeded, hread, hdeadline⟩
    · intro hdeadline hstatus
      -- no reading is past an unbounded deadline
      have hle : env.clock s.readings.length ≤ request.deadline := by
        rw [hdeadline]
        exact (hclock _).le
      exact Or.inl ⟨_, returned, hreturned, (driverResult_status hle).symm.trans hstatus⟩

theorem releaseGate_permitted (h : env.Permitted request result s) :
    env.Permitted request result (releaseGate s) :=
  { h with }

/-- From the second deadline check on. -/
theorem afterGate_delivered (hclock : ∀ i, env.clock i < timePointMax)
    (h : env.InProgress stats s) (hcalls : s.calls = [])
    (htime : env.InTime op.request.deadline s.readings) {driver : Driver}
    (hdriver : env.driverResolver op.request.deviceId = .found driver)
    (howned : ∀ gateResolver, env.gateResolver = some gateResolver →
      ∃ gate, gateResolver op.request.deviceId = .found gate ∧ s.held = some gate)
    (executionStarted : TimePoint) :
    ∃ result, env.Delivered op stats result (env.afterGate op executionStarted driver s) := by
  have h₁ := h.expired op.request.deadline
  have hcalls₁ : (env.expired op.request.deadline s).2.calls = [] :=
    (expired_calls _ s).trans hcalls
  unfold afterGate
  dsimp only
  split_ifs with hlate
  · have hbounded : op.request.deadline = timePointMax →
        DeviceControlStatus.timeout = .timeout → env.LockThrows op.request.deviceId :=
      fun hdeadline => absurd hdeadline (expired_bounded hlate)
    refine ⟨_, finish_delivered (h₁.hold none) (releaseGate_permitted ?_) rfl _⟩
    exact h₁.permitted_of_no_call hcalls₁ .timeout _ (by decide) hbounded
  · have htime₁ := expired_inTime h.readings htime (Bool.not_eq_true _ ▸ hlate)
    have hproper : env.Proper op.request ⟨driver, op.request,
        (env.expired op.request.deadline s).2.held,
        (env.expired op.request.deadline s).2.readings⟩ := by
      refine ⟨hdriver, rfl, fun gateResolver hresolver => ?_, htime₁⟩
      obtain ⟨gate, hfound, hheld⟩ := howned gateResolver hresolver
      exact ⟨gate, hfound, (expired_held _ _).trans hheld⟩
    have h₂ := h₁.callDriver driver op.request
    have hpermitted := callDriver_permitted hclock h₁ hcalls₁ hproper
    exact ⟨_, finish_delivered (h₂.hold none) (releaseGate_permitted hpermitted) rfl _⟩

/-- From the gate on. -/
theorem afterDeadline_delivered (hclock : ∀ i, env.clock i < timePointMax)
    (h : env.InProgress stats s) (hcalls : s.calls = []) (hheld : s.held = none)
    (htime : env.InTime op.request.deadline s.readings) {driver : Driver}
    (hdriver : env.driverResolver op.request.deviceId = .found driver)
    (executionStarted : TimePoint) :
    ∃ result, env.Delivered op stats result
      (env.afterDeadline op executionStarted driver s) := by
  unfold afterDeadline
  cases hgate : env.takeGate op.request s with
  | error result =>
    obtain ⟨status, message, rfl, hstatus, htimeout⟩ := takeGate_error hgate
    refine ⟨_, finish_delivered h ?_ hheld _⟩
    exact h.permitted_of_no_call hcalls status message hstatus htimeout
  | ok s₁ =>
    obtain ⟨⟨held, hs₁⟩, howned⟩ := takeGate_ok hgate
    have h₁ : env.InProgress stats s₁ := hs₁ ▸ h.hold held
    have hcalls₁ : s₁.calls = [] := hs₁ ▸ hcalls
    have htime₁ : env.InTime op.request.deadline s₁.readings := hs₁ ▸ htime
    exact afterGate_delivered hclock h₁ hcalls₁ htime₁ hdriver howned executionStarted

/-- From the driver resolver on, the clock having been read once. -/
theorem afterEntry_delivered (hclock : ∀ i, env.clock i < timePointMax)
    (h : env.InProgress stats s) (hcalls : s.calls = []) (hheld : s.held = none)
    (executionStarted : TimePoint) :
    ∃ result, env.Delivered op stats result (env.afterEntry op executionStarted s) := by
  unfold afterEntry
  cases hdriver : (env.driverResolver op.request.deviceId).pointer with
  | none =>
    refine ⟨_, finish_delivered h ?_ hheld _⟩
    exact h.permitted_of_no_call hcalls .failed _ (by decide) nofun
  | some driver =>
    dsimp only
    split_ifs with hexpired
    · -- An unbounded deadline is later than every reading.
      have hbounded : op.request.deadline = timePointMax →
          DeviceControlStatus.timeout = .timeout → env.LockThrows op.request.deviceId := by
        intro hdeadline
        have hlt : (env.now s).1 < op.request.deadline := hdeadline ▸ hclock _
        exact absurd hexpired (not_le.mpr hlt)
      refine ⟨_, finish_delivered h.now ?_ hheld _⟩
      exact h.now.permitted_of_no_call hcalls .timeout _ (by decide) hbounded
    · refine afterDeadline_delivered hclock h.now hcalls hheld ?_
        (Lookup.pointer_eq_some.mp hdriver) _
      exact ⟨s.readings.length, now_readings h.readings, not_le.mp hexpired⟩

/-- **The contract of `execute`**: whatever the clock, the resolvers, the gate and the driver do,
one result is delivered, and it is one that the calls permit. -/
theorem execute_contract (env : ExecuteEnvironment Driver Gate)
    (hclock : ∀ i, env.clock i < timePointMax) (op : ControlOperation) (stats : ControlStats) :
    ∃ result, env.Delivered op stats result (env.execute op { stats := stats }) := by
  have h := (InProgress.start env stats).now.addQueueWait (env.clock 0 - op.enqueuedAt)
  exact afterEntry_delivered hclock h rfl rfl _

/-- One device with a gate, whose driver succeeds, and a clock that advances by two for a while. -/
def oneDevice : ExecuteEnvironment Unit ℕ where
  driverResolver deviceId := if deviceId = lit "boiler" then .found () else .null
  gateResolver := some fun deviceId => if deviceId = lit "boiler" then .found 7 else .null
  lock _ := true
  tryLockUntil _ _ := .obtained
  control _ request := .returned { requestId := request.command, status := .succeeded }
  clock i := min (2 * i) 100

/-- A request to that device which must be done at 5, and asks for an answer. -/
def urgentOperation : ControlOperation where
  ticket := 0
  request := { requestId := lit "r1", deviceId := lit "boiler", command := lit "on", deadline := 5 }
  completion := some 3

theorem execute_contract_urgentOperation :
    ∃ result, oneDevice.Delivered urgentOperation {} result
      (oneDevice.execute urgentOperation { stats := {} }) := by
  refine execute_contract oneDevice (fun i => ?_) urgentOperation {}
  show min (2 * (i : ℤ)) 100 < 2 ^ 63 - 1
  omega

/-- The driver is called at 4, with the gate, and is done at 6: too late. -/
example : (oneDevice.execute urgentOperation { stats := {} }).calls =
      [⟨(), urgentOperation.request, some 7, [0, 2, 4]⟩] ∧
    (oneDevice.execute urgentOperation { stats := {} }).completed =
      [executeResult urgentOperation.request .timeout
        (lit "control request completed after its deadline")] := by
  decide

end ExecuteEnvironment

/-! ### The same execution in the steps of the dispatcher -/

namespace Dispatcher

variable {Driver Gate : Type} {env : ExecuteEnvironment Driver Gate} {capacity : ℕ}

/-- The dispatcher while its worker, at `stage`, has come to `e` in `execute`. -/
def inExecute (s : Dispatcher) (op : ControlOperation) (executionStarted : TimePoint)
    (e : ExecuteState Driver Gate) (stage : Stage) : Dispatcher :=
  { s.advance op executionStarted stage with
    stats := e.stats
    history := { s.history with controlled := s.history.controlled ++ e.calls.map fun _ => op } }

/-- The dispatcher after an execution that ended in `e`. -/
def afterExecute (s : Dispatcher) (op : ControlOperation) (e : ExecuteState Driver Gate) :
    Dispatcher :=
  { s with
    worker := .waiting
    stats := e.stats
    history := { s.history with
      controlled := s.history.controlled ++ e.calls.map fun _ => op
      executedCalls := s.history.executedCalls ++ e.invoked.map fun call => ⟨op, call.2⟩
      executedDone := s.history.executedDone ++ [op] } }

section Reaches

variable {s : Dispatcher} {stats : ControlStats} {op : ControlOperation}
  {executionStarted : TimePoint} {e : ExecuteState Driver Gate} {result : DeviceControlResult}

/-- The worker can take this step of `execute`. -/
private theorem reaches_worker {gates : Bool} {s' : Dispatcher} {stage : Stage} {l : WorkerEvent}
    (h : (s.inExecute op executionStarted e stage).stepExecute gates op executionStarted stage l =
      some s') :
    (dispatcherSystem capacity gates).Reaches (s.inExecute op executionStarted e stage) s' :=
  .single (l := .worker l) h

theorem reaches_finish (gates : Bool) (hinvoked : e.invoked = []) :
    (dispatcherSystem capacity gates).Reaches
      (s.inExecute op executionStarted e (.finish result))
      (s.afterExecute op (env.finish op executionStarted result e)) := by
  have hfinish : (dispatcherSystem capacity gates).Reaches
      (s.inExecute op executionStarted e (.finish result))
      (s.inExecute op executionStarted
        { e with stats := e.stats.addExecution ((env.now e).1 - executionStarted) }
        (.count result)) :=
    reaches_worker (l := .finish (env.now e).1) rfl
  refine hfinish.trans ?_
  cases hcompletion : op.completion with
  | none =>
    refine reaches_worker (l := .count) ?_
    have hnone : (env.finish op executionStarted result e).invoked = [] := by
      rw [ExecuteEnvironment.finish_invoked, hinvoked, hcompletion]
      rfl
    show some (if op.completion.isSome then _ else _) = _
    unfold afterExecute
    rw [hnone, List.map_nil, List.append_nil, hcompletion]
    rfl
  | some completion =>
    have hcount : (dispatcherSystem capacity gates).Reaches
        (s.inExecute op executionStarted
          { e with stats := e.stats.addExecution ((env.now e).1 - executionStarted) }
          (.count result))
        (s.inExecute op executionStarted (env.finish op executionStarted result e)
          (.invoke result)) := by
      refine reaches_worker (l := .count) ?_
      show some (if op.completion.isSome then _ else _) = _
      rw [hcompletion]
      rfl
    have hone : (env.finish op executionStarted result e).invoked = [(completion, result)] := by
      rw [ExecuteEnvironment.finish_invoked, hinvoked, hcompletion]
      rfl
    refine (hcount.step (l := .worker .invoke) rfl).step (l := .worker .callbackReturn) ?_
    unfold afterExecute
    rw [hone]
    rfl

/-- The call of the driver, up to `finish`. -/
theorem reaches_callDriver (env : ExecuteEnvironment Driver Gate) (gates gated : Bool)
    (driver : Driver) :
    (dispatcherSystem capacity gates).Reaches
      (s.inExecute op executionStarted e (.call gated))
      (s.inExecute op executionStarted (env.callDriver driver op.request e).2
        (.finish (env.callDriver driver op.request e).1)) := by
  have hcall : (dispatcherSystem capacity gates).Reaches
      (s.inExecute op executionStarted e (.call gated))
      (s.inExecute op executionStarted { e with
        stats := { e.stats with executed := e.stats.executed + 1 }
        calls := e.calls ++ [⟨driver, op.request, e.held, e.readings⟩] } (.driver gated)) := by
    refine reaches_worker (l := .call) ?_
    unfold inExecute
    rw [List.map_append, ← List.append_assoc]
    rfl
  unfold ExecuteEnvironment.callDriver
  cases env.control driver op.request with
  | returned result =>
    exact (hcall.step (l := .worker (.driverReturn result (env.clock e.readings.length))) rfl).step
      (l := .worker .unlock) rfl
  | threw what =>
    exact (hcall.step (l := .worker (.driverThrow what)) rfl).step (l := .worker .unlock) rfl

/-- From the second deadline check on. -/
theorem reaches_afterGate (gates gated : Bool) {driver : Driver} (h : env.InProgress stats e) :
    (dispatcherSystem capacity gates).Reaches
      (s.inExecute op executionStarted e (.recheck gated))
      (s.afterExecute op (env.afterGate op executionStarted driver e)) := by
  have hcheck : (dispatcherSystem capacity gates).Reaches
      (s.inExecute op executionStarted e (.recheck gated))
      (s.inExecute op executionStarted (env.expired op.request.deadline e).2
        (if (env.expired op.request.deadline e).1 then
          .unlock gated (executeResult op.request .timeout
            (lit "control request deadline expired before driver call"))
        else .call gated)) := by
    refine reaches_worker (l := .recheck (env.now e).1) ?_
    unfold ExecuteEnvironment.expired
    by_cases hdeadline : op.request.deadline = timePointMax
    · rw [if_pos hdeadline]
      show some (Dispatcher.advance _ op executionStarted (if _ then _ else _)) = _
      rw [if_neg fun h => h.1 hdeadline]
      rfl
    · rw [if_neg hdeadline]
      show some (Dispatcher.advance _ op executionStarted (if _ then _ else _)) = _
      by_cases hlate : op.request.deadline ≤ (env.now e).1
      · rw [if_pos ⟨hdeadline, hlate⟩]
        simp only [ge_iff_le, hlate, decide_true, if_true]
        rfl
      · rw [if_neg fun h => hlate h.2]
        simp only [ge_iff_le, hlate, decide_false]
        rfl
  have h₁ := h.expired op.request.deadline
  refine hcheck.trans ?_
  unfold ExecuteEnvironment.afterGate
  dsimp only
  split_ifs with hlate
  · have hunlock : (dispatcherSystem capacity gates).Reaches
        (s.inExecute op executionStarted (env.expired op.request.deadline e).2
          (.unlock gated (executeResult op.request .timeout
            (lit "control request deadline expired before driver call"))))
        (s.inExecute op executionStarted
          (ExecuteEnvironment.releaseGate (env.expired op.request.deadline e).2)
          (.finish (executeResult op.request .timeout
            (lit "control request deadline expired before driver call")))) :=
      reaches_worker (l := .unlock) rfl
    exact hunlock.trans (reaches_finish gates h₁.invoked)
  · refine (reaches_callDriver env gates gated driver).trans ?_
    exact reaches_finish gates (h₁.callDriver driver op.request).invoked

/-- From the gate on. -/
theorem reaches_afterDeadline {driver : Driver} (h : env.InProgress stats e) :
    (dispatcherSystem capacity env.gateResolver.isSome).Reaches
      (s.inExecute op executionStarted e
        (if env.gateResolver.isSome then .gate else .recheck false))
      (s.afterExecute op (env.afterDeadline op executionStarted driver e)) := by
  unfold ExecuteEnvironment.afterDeadline ExecuteEnvironment.takeGate
  cases hresolver : env.gateResolver with
  | none => exact reaches_afterGate false false h
  | some gateResolver =>
    dsimp only
    cases hpointer : (gateResolver op.request.deviceId).pointer with
    | none =>
      have hgate : (dispatcherSystem capacity true).Reaches
          (s.inExecute op executionStarted e .gate)
          (s.inExecute op executionStarted e
            (.finish (executeResult op.request .failed (lit "device I/O gate is unavailable")))) :=
        reaches_worker (l := .gate false) rfl
      exact hgate.trans (reaches_finish true h.invoked)
    | some gate =>
      have hgate : (dispatcherSystem capacity true).Reaches
          (s.inExecute op executionStarted e .gate)
          (s.inExecute op executionStarted e .lockGate) :=
        reaches_worker (l := .gate true) rfl
      refine hgate.trans ?_
      dsimp only
      split_ifs with hlocked
      · have hlock : (dispatcherSystem capacity true).Reaches
            (s.inExecute op executionStarted e .lockGate)
            (s.inExecute op executionStarted { e with held := some gate } (.recheck true)) :=
          reaches_worker (l := .lockGate true) rfl
        exact hlock.trans (reaches_afterGate true true (h.hold (some gate)))
      · have hlock : (dispatcherSystem capacity true).Reaches
            (s.inExecute op executionStarted e .lockGate)
            (s.inExecute op executionStarted e
              (.finish (executeResult op.request .timeout
                (lit "timed out waiting for device I/O")))) :=
          reaches_worker (l := .lockGate false) rfl
        exact hlock.trans (reaches_finish true h.invoked)

/-- From the driver resolver on. -/
theorem reaches_afterEntry (h : env.InProgress stats e) :
    (dispatcherSystem capacity env.gateResolver.isSome).Reaches
      (s.inExecute op executionStarted e .resolve)
      (s.afterExecute op (env.afterEntry op executionStarted e)) := by
  unfold ExecuteEnvironment.afterEntry
  cases hdriver : (env.driverResolver op.request.deviceId).pointer with
  | none =>
    have hresolve : (dispatcherSystem capacity env.gateResolver.isSome).Reaches
        (s.inExecute op executionStarted e .resolve)
        (s.inExecute op executionStarted e
          (.finish (executeResult op.request .failed (lit "device is no longer available")))) :=
      reaches_worker (l := .resolve false) rfl
    exact hresolve.trans (reaches_finish _ h.invoked)
  | some driver =>
    have hresolve : (dispatcherSystem capacity env.gateResolver.isSome).Reaches
        (s.inExecute op executionStarted e .resolve)
        (s.inExecute op executionStarted e .deadline) :=
      reaches_worker (l := .resolve true) rfl
    have hcheck : (dispatcherSystem capacity env.gateResolver.isSome).Reaches
        (s.inExecute op executionStarted e .deadline)
        (s.inExecute op executionStarted (env.now e).2
          (if op.request.deadline ≤ (env.now e).1 then
            .finish (executeResult op.request .timeout
              (lit "control request deadline expired before execution"))
          else if env.gateResolver.isSome then .gate else .recheck false)) :=
      reaches_worker (l := .deadline (env.now e).1) rfl
    refine hresolve.trans (hcheck.trans ?_)
    dsimp only
    by_cases hexpired : op.request.deadline ≤ (env.now e).1
    · rw [if_pos hexpired, if_pos hexpired]
      exact reaches_finish _ h.now.invoked
    · rw [if_neg hexpired, if_neg hexpired]
      exact reaches_afterDeadline h.now

/-- **The worker's execution**: `execute` in one piece is a run of the worker's steps, from taking
the operation to `wait_pop` again. -/
theorem reaches_execute (env : ExecuteEnvironment Driver Gate)
    (hworker : s.worker = .executing op (env.clock 0) .entry) :
    (dispatcherSystem capacity env.gateResolver.isSome).Reaches s
      (s.afterExecute op (env.execute op { stats := s.stats })) := by
  have h := (ExecuteEnvironment.InProgress.start env s.stats).now.addQueueWait
    (env.clock 0 - op.enqueuedAt)
  have hentry : s = s.inExecute op (env.clock 0)
      (env.now ({ stats := s.stats } : ExecuteState Driver Gate)).2 .entry := by
    show s = { s with
      worker := .executing op (env.clock 0) .entry
      history := { s.history with controlled := s.history.controlled ++ [] } }
    rw [List.append_nil, ← hworker]
  have hwait : (dispatcherSystem capacity env.gateResolver.isSome).Reaches s
      (s.inExecute op (env.clock 0) { (env.now { stats := s.stats }).2 with
        stats := s.stats.addQueueWait (env.clock 0 - op.enqueuedAt) } .resolve) := by
    nth_rewrite 1 [hentry]
    exact reaches_worker (l := .countWait) rfl
  exact hwait.trans (reaches_afterEntry h)

end Reaches

end Dispatcher

end MiniGateway
