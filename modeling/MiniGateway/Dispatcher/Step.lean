/-
  The steps of `DeviceControlDispatcher` (`control.cpp`): any number of threads in its public
  functions and the one worker, interleaved at every access to shared data.

  An `Event` names the thread, the access it makes and what the environment decides there: a clock
  reading, whether the driver resolver found a driver, whether an allocation or a thread start
  succeeded, how a timed lock ended, what the driver returned.  `Dispatcher.step` is `none` when
  the thread is not at that access or is blocked there.
-/
import MiniGateway.Dispatcher.State
import MiniGateway.TransitionSystem
import Mathlib.Logic.Function.Basic

namespace MiniGateway

/-! ### Pure parts of `control.cpp` -/

/-- `valid_request`. -/
def validRequest (request : DeviceControlRequest) : Bool :=
  !request.deviceId.isEmpty && !request.command.isEmpty

/-- `cancelled_result`. -/
def cancelledResult (request : DeviceControlRequest) : DeviceControlResult where
  requestId := request.requestId
  status := .cancelled
  message := lit "control request cancelled during shutdown"

/-- The results that `execute` builds itself: `result` with its initial fields, a status and a
message. -/
def executeResult (request : DeviceControlRequest) (status : DeviceControlStatus)
    (message : ByteString) : DeviceControlResult where
  requestId := request.requestId
  status := status
  message := message

/-- What `execute` makes of the driver's result, `now` being the clock after the call. -/
def driverResult (request : DeviceControlRequest) (result : DeviceControlResult)
    (now : TimePoint) : DeviceControlResult :=
  let result := { result with requestId := request.requestId }
  if now > request.deadline then
    { result with
      status := .timeout
      message := if result.message.isEmpty then
          lit "control request completed after its deadline"
        else result.message }
  else result

/-- What `execute` makes of an exception from the driver; `what` is `none` when it is not a
`std::exception`. -/
def driverFailure (request : DeviceControlRequest) (what : Option ByteString) :
    DeviceControlResult :=
  executeResult request .failed
    (what.getD (lit "driver control failed with an unknown exception"))

/-! ### Events -/

/-- The public functions. -/
inductive Call
  | start
  | submit (request : DeviceControlRequest) (completion : Option CompletionId)
  | requestStop
  | join
  | stop

/-- The accesses of the worker thread. -/
inductive WorkerEvent
  /-- `wait_pop` returns an operation; `now` is `execution_started`. -/
  | pop (now : TimePoint)
  /-- `wait_pop` returns false and `run` ends. -/
  | exit
  /-- `queue_wait_ns` is updated. -/
  | countWait
  /-- `driver_resolver_` returns a driver, or null, or throws. -/
  | resolve (found : Bool)
  /-- The deadline is compared with the clock. -/
  | deadline (now : TimePoint)
  /-- `gate_resolver_` returns a gate, or null, or throws. -/
  | gate (found : Bool)
  /-- `lock` or `try_lock_until` ends; `locked` says whether it owns the gate. -/
  | lockGate (locked : Bool)
  /-- The deadline is compared with the clock again. -/
  | recheck (now : TimePoint)
  /-- `executed` is counted and `driver->control` begins. -/
  | call
  /-- `driver->control` returns; `now` is the clock after it. -/
  | driverReturn (result : DeviceControlResult) (now : TimePoint)
  /-- `driver->control` throws. -/
  | driverThrow (what : Option ByteString)
  /-- The gate is released, if it is owned. -/
  | unlock
  /-- `execution_ns` is updated. -/
  | finish (now : TimePoint)
  /-- The outcome is counted. -/
  | count
  /-- The completion is called. -/
  | invoke
  /-- The completion returns or throws. -/
  | callbackReturn

/-- The accesses of a thread in a public function. -/
inductive CallerEvent
  | call (c : Call)
  /-- `start` up to its return; `launched` says whether the thread could be created. -/
  | start (launched : Bool)
  | submitCount
  | submitCheck
  | submitLock
  | submitResolve (found : Bool)
  | submitPush (now : TimePoint)
  | submitRecord
  | stopLock
  | stopClose
  | stopCancel (allocated : Bool)
  | stopDeliver
  | stopInvoke
  | stopCallbackReturn
  | stopFinish
  | joinLock
  | joinWait
  /-- `worker_.join()` returns, or throws. -/
  | joinWorker (ok : Bool)
  | joinFinish

/-- One step of the dispatcher. -/
inductive DispatcherEvent
  | caller (t : ThreadId) (e : CallerEvent)
  | worker (e : WorkerEvent)

/-! ### Steps -/

namespace Dispatcher

/-- Thread `t` moves to the position `c`. -/
def goto (s : Dispatcher) (t : ThreadId) (c : Caller) : Dispatcher :=
  { s with callers := Function.update s.callers t c }

section goto

variable (s : Dispatcher) (t : ThreadId) (c : Caller)

@[simp] theorem goto_queue : (s.goto t c).queue = s.queue := rfl
@[simp] theorem goto_lifecycleMutex : (s.goto t c).lifecycleMutex = s.lifecycleMutex := rfl
@[simp] theorem goto_started : (s.goto t c).started = s.started := rfl
@[simp] theorem goto_stopping : (s.goto t c).stopping = s.stopping := rfl
@[simp] theorem goto_stopRequestComplete :
    (s.goto t c).stopRequestComplete = s.stopRequestComplete := rfl
@[simp] theorem goto_stats : (s.goto t c).stats = s.stats := rfl
@[simp] theorem goto_worker : (s.goto t c).worker = s.worker := rfl
@[simp] theorem goto_history : (s.goto t c).history = s.history := rfl
@[simp] theorem goto_callers : (s.goto t c).callers = Function.update s.callers t c := rfl

end goto

/-- `submit` returns `result`. -/
def returned (s : Dispatcher) (submission : Submission) (result : ControlSubmitResult) :
    Dispatcher :=
  { s with history := { s.history with returns := s.history.returns ++ [(submission, result)] } }

/-- A thread outside the dispatcher calls one of its functions. -/
def enter (s : Dispatcher) (t : ThreadId) : Call → Dispatcher
  | .start => s.goto t .start
  | .submit request completion =>
    { s.goto t (.submit ⟨s.history.submissions, request, completion⟩ .entry) with
      history := { s.history with submissions := s.history.submissions + 1 } }
  | .requestStop => s.goto t (.requestStop false .lock)
  | .join => s.goto t (.join false .lock)
  | .stop => s.goto t (.requestStop true .lock)

/-- `start`, which holds the lifecycle mutex throughout. -/
def stepStart (s : Dispatcher) (t : ThreadId) (launched : Bool) : Dispatcher :=
  if s.started || s.stopping || !launched then s.goto t .idle
  else { s.goto t .idle with started := true, worker := .waiting }

/-- The steps of `submit`. -/
def stepSubmit (s : Dispatcher) (t : ThreadId) (submission : Submission) :
    SubmitPc → CallerEvent → Option Dispatcher
  | .entry, .submitCount =>
    some { s.goto t (.submit submission .check) with
      stats := { s.stats with submitted := s.stats.submitted + 1 } }
  | .check, .submitCheck =>
    some (if validRequest submission.request then s.goto t (.submit submission .lock)
      else { (s.goto t .idle).returned submission .invalidRequest with
        stats := s.stats.countSubmit .invalidRequest })
  | .lock, .submitLock =>
    if s.lifecycleMutex = none then
      some { s.goto t (.submit submission
            (if !s.started || s.stopping then .record .stopping else .resolve)) with
          lifecycleMutex := some t }
    else none
  | .resolve, .submitResolve found =>
    some (s.goto t (.submit submission (if found then .push else .record .unknownDevice)))
  | .push, .submitPush now =>
    let op := submission.operation now
    let pushed := s.queue.tryPush op
    some { s.goto t (.submit submission (.record pushed.1)) with
      queue := pushed.2
      history := { s.history with
        accepted := if pushed.1 = .accepted then s.history.accepted ++ [op]
          else s.history.accepted } }
  | .record result, .submitRecord =>
    some { (s.goto t .idle).returned submission result with
      stats := s.stats.countSubmit result
      lifecycleMutex := none }
  | _, _ => none

/-- `request_stop` returns: inside `stop` the thread goes on to `join`. -/
def afterRequestStop (inStop : Bool) : Caller := if inStop then .join true .lock else .idle

/-- The steps of `request_stop`. -/
def stepRequestStop (s : Dispatcher) (t : ThreadId) (inStop : Bool) :
    RequestStopPc → CallerEvent → Option Dispatcher
  | .lock, .stopLock =>
    if s.lifecycleMutex = none then
      some (if s.stopping then s.goto t (afterRequestStop inStop)
        else { s.goto t (.requestStop inStop .close) with
          lifecycleMutex := some t
          stopping := true
          history := { s.history with stopper := some t } })
    else none
  | .close, .stopClose =>
    some { s.goto t (.requestStop inStop .cancel) with queue := s.queue.close }
  | .cancel, .stopCancel allocated =>
    let removed := s.queue.cancelPending allocated
    some { s.goto t (.requestStop inStop (.deliver removed.1)) with
      queue := removed.2
      lifecycleMutex := none
      history := { s.history with cancelled := s.history.cancelled ++ removed.1 } }
  | .deliver [], .stopDeliver => some (s.goto t (.requestStop inStop .finish))
  | .deliver (op :: pending), .stopDeliver =>
    let counted := { s with stats := s.stats.countOutcome (cancelledResult op.request).status }
    some (if op.completion.isSome then counted.goto t (.requestStop inStop (.invoke op pending))
      else { counted.goto t (.requestStop inStop (.deliver pending)) with
        history := { s.history with cancelledDone := s.history.cancelledDone ++ [op] } })
  | .invoke op pending, .stopInvoke =>
    some { s.goto t (.requestStop inStop (.callback op pending)) with
      history := { s.history with
        cancelledCalls := s.history.cancelledCalls ++ [⟨op, cancelledResult op.request⟩] } }
  | .callback op pending, .stopCallbackReturn =>
    some { s.goto t (.requestStop inStop (.deliver pending)) with
      history := { s.history with cancelledDone := s.history.cancelledDone ++ [op] } }
  | .finish, .stopFinish =>
    if s.lifecycleMutex = none then
      some { s.goto t (afterRequestStop inStop) with
        stopRequestComplete := true
        history := { s.history with stopper := none } }
    else none
  | _, _ => none

/-- The steps of `join`.  Both waits on `lifecycle_cv_` end under the mutex with their predicates
true; `stop_request_complete_` is never reset, so the two are one guard. -/
def stepJoin (s : Dispatcher) (t : ThreadId) (inStop : Bool) :
    JoinPc → CallerEvent → Option Dispatcher
  | .lock, .joinLock =>
    if s.lifecycleMutex = none then
      some (s.goto t (if s.started then .join inStop .wait else .idle))
    else none
  | .wait, .joinWait =>
    if s.lifecycleMutex = none ∧ s.stopRequestComplete ∧ (s.joined ∨ ¬s.joinInProgress) then
      some (if s.joined then s.goto t .idle
        else { s.goto t (.join inStop .worker) with joinInProgress := true })
    else none
  | .worker, .joinWorker ok =>
    if ok = true → s.worker = .exited then some (s.goto t (.join inStop (.finish ok))) else none
  | .finish ok, .joinFinish =>
    if s.lifecycleMutex = none then
      some { s.goto t .idle with joinInProgress := false, joined := s.joined || ok }
    else none
  | _, _ => none

/-- The steps of a thread in a public function. -/
def stepCaller (s : Dispatcher) (t : ThreadId) (e : CallerEvent) : Option Dispatcher :=
  match s.callers t, e with
  | .idle, .call c => some (s.enter t c)
  | .start, .start launched =>
    if s.lifecycleMutex = none then some (s.stepStart t launched) else none
  | .submit submission pc, e => s.stepSubmit t submission pc e
  | .requestStop inStop pc, e => s.stepRequestStop t inStop pc e
  | .join inStop pc, e => s.stepJoin t inStop pc e
  | _, _ => none

/-- The worker has moved on inside `execute`. -/
def advance (s : Dispatcher) (op : ControlOperation) (executionStarted : TimePoint)
    (stage : Stage) : Dispatcher :=
  { s with worker := .executing op executionStarted stage }

/-- `execute` returns and the worker goes back to `wait_pop`. -/
def executed (s : Dispatcher) (op : ControlOperation) : Dispatcher :=
  { s with
    worker := .waiting
    history := { s.history with executedDone := s.history.executedDone ++ [op] } }

/-- The steps of `execute`; `gated` says whether a gate resolver is configured. -/
def stepExecute (gates : Bool) (s : Dispatcher) (op : ControlOperation)
    (executionStarted : TimePoint) : Stage → WorkerEvent → Option Dispatcher
  | .entry, .countWait =>
    some { s.advance op executionStarted .resolve with
      stats := s.stats.addQueueWait (executionStarted - op.enqueuedAt) }
  | .resolve, .resolve found =>
    some (s.advance op executionStarted (if found then .deadline
      else .finish (executeResult op.request .failed (lit "device is no longer available"))))
  | .deadline, .deadline now =>
    some (s.advance op executionStarted (if op.request.deadline ≤ now then
        .finish (executeResult op.request .timeout
          (lit "control request deadline expired before execution"))
      else if gates then .gate else .recheck false))
  | .gate, .gate found =>
    some (s.advance op executionStarted (if found then .lockGate
      else .finish (executeResult op.request .failed (lit "device I/O gate is unavailable"))))
  | .lockGate, .lockGate locked =>
    some (s.advance op executionStarted (if locked then .recheck true
      else .finish (executeResult op.request .timeout (lit "timed out waiting for device I/O"))))
  | .recheck gated, .recheck now =>
    some (s.advance op executionStarted
      (if op.request.deadline ≠ timePointMax ∧ op.request.deadline ≤ now then
        .unlock gated (executeResult op.request .timeout
          (lit "control request deadline expired before driver call"))
      else .call gated))
  | .call gated, .call =>
    some { s.advance op executionStarted (.driver gated) with
      stats := { s.stats with executed := s.stats.executed + 1 }
      history := { s.history with controlled := s.history.controlled ++ [op] } }
  | .driver gated, .driverReturn result now =>
    some (s.advance op executionStarted (.unlock gated (driverResult op.request result now)))
  | .driver gated, .driverThrow what =>
    some (s.advance op executionStarted (.unlock gated (driverFailure op.request what)))
  | .unlock _ result, .unlock => some (s.advance op executionStarted (.finish result))
  | .finish result, .finish now =>
    some { s.advance op executionStarted (.count result) with
      stats := s.stats.addExecution (now - executionStarted) }
  | .count result, .count =>
    let counted := { s with stats := s.stats.countOutcome result.status }
    some (if op.completion.isSome then counted.advance op executionStarted (.invoke result)
      else counted.executed op)
  | .invoke result, .invoke =>
    some { s.advance op executionStarted (.callback result) with
      history := { s.history with executedCalls := s.history.executedCalls ++ [⟨op, result⟩] } }
  | .callback _, .callbackReturn => some (s.executed op)
  | _, _ => none

/-- The steps of the worker: `run`, and `execute` inside it. -/
def stepWorker (gates : Bool) (s : Dispatcher) (e : WorkerEvent) : Option Dispatcher :=
  match s.worker, e with
  | .waiting, .pop now =>
    match s.queue.waitPop with
    | some (.operation op rest) =>
      some { s.advance op now .entry with
        queue := rest
        history := { s.history with taken := s.history.taken ++ [op] } }
    | _ => none
  | .waiting, .exit =>
    match s.queue.waitPop with
    | some .finished => some { s with worker := .exited }
    | _ => none
  | .executing op executionStarted stage, e => s.stepExecute gates op executionStarted stage e
  | _, _ => none

/-- One step of the dispatcher. -/
def step (gates : Bool) (s : Dispatcher) : DispatcherEvent → Option Dispatcher
  | .caller t e => s.stepCaller t e
  | .worker e => s.stepWorker gates e

/-- The dispatcher that the constructor makes. -/
def create (capacity : ℕ) : Dispatcher where
  queue := { capacity := capacity }

end Dispatcher

/-- All runs of a dispatcher: `capacity` is positive, and `gates` says whether a gate resolver is
configured. -/
def dispatcherSystem (capacity : ℕ) (gates : Bool) : TransitionSystem Dispatcher DispatcherEvent where
  Init s := 0 < capacity ∧ s = Dispatcher.create capacity
  step := Dispatcher.step gates

end MiniGateway
