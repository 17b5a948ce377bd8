/-
  `GatewayRuntime` (`runtime.cpp`): its members, its threads and one step of any of them.

  The runtime is its components run side by side: the callers of `start` and `stop`
  (`Lifecycle`), the control dispatcher, the scheduler engine, the data path, and here what joins
  them: `poll_group` with the I/O gates, `submit_control`, and what each call of a lifecycle
  sequence does to a component.  Where a component alone leaves a choice to its environment (which
  lookup succeeds, whether a gate can be taken, whether a join returns), the step fixes it.

  In the dispatcher the sequences of calls appear as thread `0` and a caller of `submit_control`
  as thread `t + 1`.
-/
import MiniGateway.Dispatcher.Completion
import MiniGateway.Scheduler.Engine
import MiniGateway.Delivery
import MiniGateway.Runtime.Phase

namespace MiniGateway

/-- `AcquisitionStats`. -/
structure AcquisitionStats where
  polls : ℕ := 0
  errors : ℕ := 0
  deadlineMisses : ℕ := 0
  queueFull : ℕ := 0
  deriving DecidableEq

/-- Who can hold the gate of a device. -/
inductive IoUser
  | poll
  | control
  deriving DecidableEq

/-- Where the scheduler worker is in `poll_group`. -/
inductive PollPc
  /-- Outside `poll_group`. -/
  | idle
  /-- About to look up the group, its driver and its gate. -/
  | entered (groupId : ByteString)
  /-- In `try_lock_until`. -/
  | locking (group : CollectionGroup) (driver gate : ℕ) (deadline : TimePoint)
  /-- Inside `driver.poll`. -/
  | polling (group : CollectionGroup) (driver gate : ℕ) (deadline : TimePoint)
  /-- About to push the batch. -/
  | pushing (gate : ℕ) (batch : RawBatch)
  /-- About to count the poll and leave the `try` block, which unlocks the gate. -/
  | leaving (gate : ℕ)
  /-- An exception leaves the scope of `io_lock`. -/
  | unwinding (gate : ℕ)
  /-- In the `catch` block. -/
  | failing
  /-- `poll_group` has returned or thrown. -/
  | done (failed : Bool)

/-- The gate that `io_lock` owns. -/
def PollPc.gate? : PollPc → Option ℕ
  | polling _ _ gate _ | pushing gate _ | leaving gate | unwinding gate => some gate
  | _ => none

/-- The driver whose `poll` is in progress. -/
def PollPc.driver? : PollPc → Option ℕ
  | polling _ driver _ _ => some driver
  | _ => none

inductive PollEvent
  /-- The lookups; the clock reads `now`. -/
  | resolve (now : TimePoint)
  /-- `try_lock_until` returns. -/
  | lock (locked : Bool)
  /-- `driver.poll` returns; the clock reads `now` after it. -/
  | driverReturn (batch : RawBatch) (now : TimePoint)
  | driverThrow
  | push
  | leave
  | unwind
  | fail

/-- The members of `GatewayRuntime`, with the position of the scheduler worker in `poll_group`. -/
structure Runtime where
  lifecycle : Lifecycle := {}
  dispatcher : Dispatcher
  scheduler : Option SchedulerEngine := none
  poll : PollPc := .idle
  /-- Who holds the mutex of `io_gates_` with this number. -/
  gates : ℕ → Option IoUser := fun _ => none
  data : DataPath
  acquisition : AcquisitionStats := {}

inductive RuntimeEvent
  /-- A caller of `start` or `stop`. -/
  | lifecycle (e : LifecycleEvent)
  /-- A caller of `start` or `stop` inside the dispatcher. -/
  | dispatch (a : Actor) (e : CallerEvent)
  /-- `submit_control` up to the call of `submit`. -/
  | submitControl (t : ThreadId) (request : DeviceControlRequest)
      (completion : Option CompletionId)
  /-- A thread inside `submit`. -/
  | submit (t : ThreadId) (e : CallerEvent)
  /-- The control worker. -/
  | control (e : WorkerEvent)
  /-- The scheduler worker, outside `poll_group`. -/
  | schedule (e : SchedulerEvent)
  /-- The scheduler worker in `poll_group`. -/
  | poll (e : PollEvent)
  /-- A push driver calls its `SampleSink`. -/
  | push (batch : RawBatch)
  /-- The processing worker. -/
  | process (e : ProcessingEvent)

/-! ### Positions of a caller -/

/-- The call that `a` makes next. -/
def Lifecycle.nextCall (s : Lifecycle) (a : Actor) : Option Instr :=
  match s.frames a with
  | .sequence (.starting _ none (instr :: _)) => some instr
  | .sequence (.stopping _ none (instr :: _)) => some instr
  | _ => none

/-- The call that `a` is in. -/
def Lifecycle.inCall (s : Lifecycle) (a : Actor) : Option Instr :=
  match s.frames a with
  | .sequence (.starting _ (some instr) _) => some instr
  | .sequence (.stopping _ (some instr) _) => some instr
  | _ => none

/-- The call is one of the dispatcher's. -/
def Instr.isDispatcher : Instr → Bool
  | startDispatcher | requestStopDispatcher | joinDispatcher => true
  | _ => false

/-- The group whose poll the engine has begun. -/
def SchedulerEngine.polledGroup (e : SchedulerEngine) : Option ByteString :=
  match e.worker with
  | .polling i _ _ => e.policy.tasks[i]?.map ScheduleTask.groupId
  | _ => none

namespace Runtime

variable (parts : RuntimeParts)

/-- The constructor. -/
def create : Runtime where
  dispatcher := Dispatcher.create parts.config.controlQueueCapacity
  data := DataPath.create parts.config.rawQueueCapacity parts.normalizer

/-! ### Calls of the lifecycle sequences -/

/-- The thread of a caller is the control worker. -/
def onControlWorker (s : Runtime) : Actor → Bool
  | .thread _ => false
  | .executed => true
  | .cancelled => (s.lifecycle.frames .executed).isExecuting

/-- The dispatcher makes the step `e`. -/
def stepDispatcher (s : Runtime) (e : DispatcherEvent) : Option Runtime :=
  (s.dispatcher.step true e).map fun dispatcher => { s with dispatcher }

/-- The engine makes the step `e`, if there is one. -/
def stepScheduler (s : Runtime) (e : SchedulerEvent) : Option Runtime :=
  match s.scheduler with
  | none => some s
  | some engine => (engine.step e).map fun engine => { s with scheduler := some engine }

/-- The data path makes the step `e`. -/
def stepData (s : Runtime) (e : DataEvent) : Option Runtime :=
  (s.data.step parts.processors.length parts.eventPublishers.length e).map fun data =>
    { s with data }

/-- What the beginning of a call does. -/
def beginCall (s : Runtime) : Instr → Option Runtime
  | .startDispatcher => s.stepDispatcher (.caller 0 (.call .start))
  | .requestStopDispatcher => s.stepDispatcher (.caller 0 (.call .requestStop))
  | .joinDispatcher => s.stepDispatcher (.caller 0 (.call .join))
  | _ => some s

/-- What the end of a call does, and when it can end. -/
def finishCall (s : Runtime) (ok : Bool) (now : TimePoint) : Instr → Option Runtime
  | .startDispatcher =>
    if s.dispatcher.callers 0 = .idle ∧ ok = s.dispatcher.started then some s else none
  | .launchProcessing => if ok then s.stepData parts .launch else some s
  | .launchScheduler =>
    let engine : SchedulerEngine := { policy := parts.schedulePolicy now, clock := now }
    some { s with scheduler := some (engine.start ok) }
  | .requestStopScheduler => s.stepScheduler .requestStop
  | .joinScheduler => s.stepScheduler .join
  | .requestStopDispatcher => if s.dispatcher.callers 0 = .idle then some s else none
  | .joinDispatcher => if s.dispatcher.callers 0 = .idle then some s else none
  | .closeRawQueue => s.stepData parts .close
  | .joinProcessing => s.stepData parts .join
  | _ => some s

/-- What a step of a caller does to the components.  A completion callback calls `stop` only while
it runs. -/
def stepCalls (s : Runtime) : LifecycleEvent → Option Runtime
  | .call (.thread _) _ => some s
  | .call .executed .stop => if s.dispatcher.worker.inCallback.isSome then some s else none
  | .call .cancelled .stop => if (s.dispatcher.callers 0).inCallback.isSome then some s else none
  | .call _ .start => none
  | .begin a => (s.lifecycle.nextCall a).bind s.beginCall
  | .finish a ok now => (s.lifecycle.inCall a).bind (s.finishCall parts ok now)
  | _ => some s

/-- A step of a caller. -/
def stepLifecycle (s : Runtime) (e : LifecycleEvent) : Option Runtime := do
  let lifecycle ← s.lifecycle.step parts e
  let s ← s.stepCalls parts e
  some { s with lifecycle }

/-! ### The dispatcher's threads -/

/-- What the rest of the runtime lets the dispatcher's caller `a` do: a completion returns when it
is no longer in `stop`, and `worker_.join()` throws on the worker's own thread. -/
def allowsDispatch (s : Runtime) (a : Actor) : CallerEvent → Bool
  | .call _ => false
  | .stopCallbackReturn => s.lifecycle.frames .cancelled = .idle
  | .joinWorker ok => ok = !s.onControlWorker a
  | _ => true

/-- What it lets a thread in `submit` do: the driver is found if the device has one. -/
def allowsSubmit (s : Runtime) (t : ThreadId) : CallerEvent → Bool
  | .call _ => false
  | .submitResolve found =>
    match s.dispatcher.callers (t + 1) with
    | .submit submission _ =>
      found = (findDriverPtr parts.drivers submission.request.deviceId).isSome
    | _ => false
  | _ => true

/-- The control worker.  It takes the gate of the request's device when the gate is free, gives up
only when there is a deadline, and releases the gate it has taken. -/
def stepControl (s : Runtime) (e : WorkerEvent) : Option Runtime :=
  match s.dispatcher.worker, e with
  | .executing op _ _, .resolve found =>
    if found = (findDriverPtr parts.drivers op.request.deviceId).isSome then
      s.stepDispatcher (.worker e)
    else none
  | .executing op _ _, .gate found =>
    if found = (findIoGate parts.drivers op.request.deviceId).isSome then
      s.stepDispatcher (.worker e)
    else none
  | .executing op _ _, .lockGate true =>
    match findIoGate parts.drivers op.request.deviceId with
    | some gate =>
      if s.gates gate = none then
        (s.stepDispatcher (.worker e)).map fun s =>
          { s with gates := Function.update s.gates gate (some .control) }
      else none
    | none => none
  | .executing op _ _, .lockGate false =>
    if op.request.deadline ≠ timePointMax then s.stepDispatcher (.worker e) else none
  | .executing op _ (.unlock true _), .unlock =>
    match findIoGate parts.drivers op.request.deviceId with
    | some gate =>
      (s.stepDispatcher (.worker e)).map fun s =>
        { s with gates := Function.update s.gates gate none }
    | none => none
  | _, .callbackReturn =>
    if s.lifecycle.frames .executed = .idle then s.stepDispatcher (.worker e) else none
  | _, _ => s.stepDispatcher (.worker e)

/-! ### The scheduler worker -/

/-- The scheduler worker outside `poll_group`: a poll that begins enters it, and the poll callback
returns as `poll_group` has ended. -/
def stepSchedule (s : Runtime) (e : SchedulerEvent) : Option Runtime :=
  match s.scheduler, e with
  | some engine, .select now startedAt =>
    (engine.step (.select now startedAt)).map fun engine =>
      { s with
        scheduler := some engine
        poll := match engine.polledGroup with
          | some groupId => .entered groupId
          | none => s.poll }
  | some engine, .pollReturn failed finishedAt =>
    match s.poll with
    | .done failed' =>
      if failed = failed' then
        (engine.step (.pollReturn failed finishedAt)).map fun engine =>
          { s with scheduler := some engine, poll := .idle }
      else none
    | _ => none
  | some _, .wake now => s.stepScheduler (.wake now)
  | some _, .complete => s.stepScheduler .complete
  | some _, .exit => s.stepScheduler .exit
  | _, _ => none

/-- The lookups of `poll_group`, which throw when one fails. -/
def resolvePoll (groupId : ByteString) (now : TimePoint) : Except ByteString PollPc := do
  let group ← findGroup parts.config.groups groupId
  let driver ← findDriver parts.drivers group.deviceId
  let deadline := now + group.timeout * nanosecondsPerMillisecond
  match findIoGate parts.drivers group.deviceId with
  | none => .error (lit "device does not have an I/O gate: " ++ group.deviceId)
  | some gate => .ok (.locking group driver gate deadline)

/-- `poll_group`. -/
def stepPoll (s : Runtime) (e : PollEvent) : Option Runtime :=
  match s.poll, e with
  | .entered groupId, .resolve now =>
    some { s with poll := match resolvePoll parts groupId now with
      | .ok pc => pc
      | .error _ => .failing }
  | .locking group driver gate deadline, .lock true =>
    if s.gates gate = none then
      some { s with
        poll := .polling group driver gate deadline
        gates := Function.update s.gates gate (some .poll) }
    else none
  | .locking _ _ _ _, .lock false =>
    some { s with
      poll := .done false
      acquisition := { s.acquisition with
        deadlineMisses := s.acquisition.deadlineMisses + 1 } }
  | .polling _ _ gate deadline, .driverReturn batch now =>
    some { s with
      poll := .pushing gate batch
      acquisition := if now > deadline then
          { s.acquisition with deadlineMisses := s.acquisition.deadlineMisses + 1 }
        else s.acquisition }
  | .polling _ _ gate _, .driverThrow => some { s with poll := .unwinding gate }
  | .pushing gate batch, .push =>
    let pushed := s.data.push batch
    some { s with
      poll := .leaving gate
      data := pushed.2
      acquisition := if pushed.1 = .full then
          { s.acquisition with queueFull := s.acquisition.queueFull + 1 }
        else s.acquisition }
  | .leaving gate, .leave =>
    some { s with
      poll := .done false
      gates := Function.update s.gates gate none
      acquisition := { s.acquisition with polls := s.acquisition.polls + 1 } }
  | .unwinding gate, .unwind =>
    some { s with poll := .failing, gates := Function.update s.gates gate none }
  | .failing, .fail =>
    some { s with
      poll := .done true
      acquisition := { s.acquisition with errors := s.acquisition.errors + 1 } }
  | _, _ => none

/-! ### One step -/

/-- One step of the runtime. -/
def step (s : Runtime) : RuntimeEvent → Option Runtime
  | .lifecycle e => s.stepLifecycle parts e
  | .dispatch a e =>
    if (s.lifecycle.inCall a).any Instr.isDispatcher ∧ s.allowsDispatch a e then
      s.stepDispatcher (.caller 0 e)
    else none
  | .submitControl t request completion =>
    if s.lifecycle.accepting then
      s.stepDispatcher (.caller (t + 1) (.call (.submit request completion)))
    else some s
  | .submit t e =>
    if s.allowsSubmit parts t e then s.stepDispatcher (.caller (t + 1) e) else none
  | .control e => s.stepControl parts e
  | .schedule e => s.stepSchedule e
  | .poll e => s.stepPoll parts e
  | .push batch => s.stepData parts (.push batch)
  | .process e => s.stepData parts (.worker e)

end Runtime

/-- All runs of a runtime made of `parts`. -/
def runtimeSystem (parts : RuntimeParts) : TransitionSystem Runtime RuntimeEvent where
  Init s := s = Runtime.create parts
  step := Runtime.step parts

/-- The event is not a completion callback calling `stop`. -/
def RuntimeEvent.isExternal : RuntimeEvent → Bool
  | .lifecycle (.call .executed _) | .lifecycle (.call .cancelled _) => false
  | _ => true

/-- The runs in which `start` and `stop` are only called by threads outside the runtime. -/
def externalSystem (parts : RuntimeParts) : TransitionSystem Runtime RuntimeEvent :=
  (runtimeSystem parts).restrict fun _ e => e.isExternal = true

end MiniGateway
