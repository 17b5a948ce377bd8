/-
  The state of `DeviceControlDispatcher` (`control_internal.hpp`): its fields, where each thread
  stands in `start`, `submit`, `request_stop`, `join` and `stop`, where the worker stands in `run`
  and `execute`, and the history that the correctness statements read.

  A position names the next access to shared data.  Code that runs under the lifecycle mutex but
  also takes the queue mutex or the statistics mutex is cut at each of these accesses, since the
  worker interleaves there; the lifecycle mutex itself is a field that says who holds it.
-/
import MiniGateway.ControlQueue

namespace MiniGateway

/-! ### Counters -/

/-- `ControlStats`. -/
structure ControlStats where
  submitted : ℕ := 0
  accepted : ℕ := 0
  queueFull : ℕ := 0
  unknownDevice : ℕ := 0
  invalidRequests : ℕ := 0
  stopping : ℕ := 0
  executed : ℕ := 0
  succeeded : ℕ := 0
  unsupported : ℕ := 0
  invalidArgument : ℕ := 0
  timeouts : ℕ := 0
  cancelled : ℕ := 0
  failed : ℕ := 0
  queueWaitNs : ℕ := 0
  executionNs : ℕ := 0
  deriving DecidableEq

/-- The `switch (result)` at the end of `submit`. -/
def ControlStats.countSubmit (s : ControlStats) : ControlSubmitResult → ControlStats
  | .accepted => { s with accepted := s.accepted + 1 }
  | .queueFull => { s with queueFull := s.queueFull + 1 }
  | .unknownDevice => { s with unknownDevice := s.unknownDevice + 1 }
  | .invalidRequest => { s with invalidRequests := s.invalidRequests + 1 }
  | .stopping => { s with stopping := s.stopping + 1 }

/-- The `switch (result.status)` of `complete`. -/
def ControlStats.countOutcome (s : ControlStats) : DeviceControlStatus → ControlStats
  | .succeeded => { s with succeeded := s.succeeded + 1 }
  | .unsupported => { s with unsupported := s.unsupported + 1 }
  | .invalidArgument => { s with invalidArgument := s.invalidArgument + 1 }
  | .timeout => { s with timeouts := s.timeouts + 1 }
  | .cancelled => { s with cancelled := s.cancelled + 1 }
  | .failed => { s with failed := s.failed + 1 }

/-- The waiting time that `execute` adds. -/
def ControlStats.addQueueWait (s : ControlStats) (duration : ℤ) : ControlStats :=
  { s with queueWaitNs := saturatingAdd s.queueWaitNs (nonnegativeNanoseconds duration) }

/-- The execution time that `finish` adds. -/
def ControlStats.addExecution (s : ControlStats) (duration : ℤ) : ControlStats :=
  { s with executionNs := saturatingAdd s.executionNs (nonnegativeNanoseconds duration) }

/-- The two records differ at most in their time sums. -/
def ControlStats.SameCounts (a b : ControlStats) : Prop :=
  a = { b with queueWaitNs := a.queueWaitNs, executionNs := a.executionNs }

theorem ControlStats.SameCounts.refl (s : ControlStats) : s.SameCounts s := rfl

theorem ControlStats.SameCounts.addQueueWait (s : ControlStats) (duration : ℤ) :
    (s.addQueueWait duration).SameCounts s := rfl

theorem ControlStats.SameCounts.addExecution (s : ControlStats) (duration : ℤ) :
    (s.addExecution duration).SameCounts s := rfl

/-! ### Where the threads are -/

/-- The arguments of one `submit` call. -/
structure Submission where
  ticket : ℕ
  request : DeviceControlRequest
  completion : Option CompletionId
  deriving DecidableEq

/-- The operation `try_push` builds from a submission. -/
def Submission.operation (s : Submission) (now : TimePoint) : ControlOperation where
  ticket := s.ticket
  request := s.request
  completion := s.completion
  enqueuedAt := now

/-- The operation was built from this submission. -/
def Submission.IsOf (s : Submission) (op : ControlOperation) : Prop :=
  op.ticket = s.ticket ∧ op.request = s.request ∧ op.completion = s.completion

theorem Submission.isOf_operation (s : Submission) (now : TimePoint) : s.IsOf (s.operation now) :=
  ⟨rfl, rfl, rfl⟩

/-- Where a thread is in `submit`. -/
inductive SubmitPc
  /-- About to count the call in `submitted`. -/
  | entry
  /-- About to check `valid_request`. -/
  | check
  /-- About to lock `lifecycle_mutex_`. -/
  | lock
  /-- Holds the mutex; about to resolve the driver. -/
  | resolve
  /-- Holds the mutex; about to push. -/
  | push
  /-- Holds the mutex; about to count `result`, unlock and return it. -/
  | record (result : ControlSubmitResult)
  deriving DecidableEq

/-- Where a thread is in `request_stop`. -/
inductive RequestStopPc
  /-- About to lock `lifecycle_mutex_`. -/
  | lock
  /-- Holds the mutex, `stopping_` is set; about to close the queue. -/
  | close
  /-- Holds the mutex; about to call `cancel_pending`. -/
  | cancel
  /-- At the head of the loop over the cancelled operations. -/
  | deliver (pending : List ControlOperation)
  /-- In `complete`, the outcome counted; about to call the completion. -/
  | invoke (op : ControlOperation) (pending : List ControlOperation)
  /-- Inside the completion. -/
  | callback (op : ControlOperation) (pending : List ControlOperation)
  /-- About to set `stop_request_complete_`. -/
  | finish
  deriving DecidableEq

/-- Where a thread is in `join`. -/
inductive JoinPc
  /-- About to lock `lifecycle_mutex_`. -/
  | lock
  /-- In the waits on `lifecycle_cv_`, which release the mutex. -/
  | wait
  /-- In `worker_.join()`, `join_in_progress_` set and the mutex released. -/
  | worker
  /-- About to lock `lifecycle_mutex_` again; `ok` says whether `worker_.join()` returned. -/
  | finish (ok : Bool)
  deriving DecidableEq

/-- Where a thread is in the public functions; `inStop` marks the two calls made by `stop`. -/
inductive Caller
  | idle
  | start
  | submit (submission : Submission) (pc : SubmitPc)
  | requestStop (inStop : Bool) (pc : RequestStopPc)
  | join (inStop : Bool) (pc : JoinPc)
  deriving DecidableEq

/-- The thread holds `lifecycle_mutex_`. -/
def Caller.holdsLifecycle : Caller → Bool
  | .submit _ .resolve | .submit _ .push | .submit _ (.record _) => true
  | .requestStop _ .close | .requestStop _ .cancel => true
  | _ => false

/-- The thread is in the `request_stop` call that set `stopping_`. -/
def Caller.isStopping : Caller → Bool
  | .requestStop _ .lock => false
  | .requestStop _ _ => true
  | _ => false

/-- The cancelled operations this thread is not done with. -/
def Caller.inHand : Caller → List ControlOperation
  | .requestStop _ (.deliver pending) => pending
  | .requestStop _ (.invoke op pending) => op :: pending
  | .requestStop _ (.callback op pending) => op :: pending
  | _ => []

/-- The thread is inside the completion of this cancelled operation. -/
def Caller.inCallback : Caller → Option ControlOperation
  | .requestStop _ (.callback op _) => some op
  | _ => none

/-- How far `execute` has come with one operation. -/
inductive Stage
  /-- About to add to `queue_wait_ns`. -/
  | entry
  /-- About to resolve the driver. -/
  | resolve
  /-- About to compare the deadline with the clock. -/
  | deadline
  /-- About to resolve the gate. -/
  | gate
  /-- Acquiring the gate. -/
  | lockGate
  /-- About to compare the deadline again; `gated` says whether `gate_lock` owns the gate. -/
  | recheck (gated : Bool)
  /-- About to count `executed` and call the driver. -/
  | call (gated : Bool)
  /-- Inside `driver->control`. -/
  | driver (gated : Bool)
  /-- About to release the gate, if owned. -/
  | unlock (gated : Bool) (result : DeviceControlResult)
  /-- In `finish`: about to add to `execution_ns`. -/
  | finish (result : DeviceControlResult)
  /-- In `complete`: about to count the outcome. -/
  | count (result : DeviceControlResult)
  /-- In `complete`: about to call the completion. -/
  | invoke (result : DeviceControlResult)
  /-- Inside the completion. -/
  | callback (result : DeviceControlResult)
  deriving DecidableEq

/-- The result `execute` is about to deliver, once it is known. -/
def Stage.result? : Stage → Option DeviceControlResult
  | .unlock _ r | .finish r | .count r | .invoke r | .callback r => some r
  | _ => none

/-- The worker thread, in `run`. -/
inductive Worker
  /-- Not started. -/
  | absent
  /-- In `wait_pop`. -/
  | waiting
  /-- In `execute`. -/
  | executing (op : ControlOperation) (executionStarted : TimePoint) (stage : Stage)
  /-- `run` has returned. -/
  | exited
  deriving DecidableEq

/-- The operation the worker has taken and is not done with. -/
def Worker.inHand : Worker → List ControlOperation
  | .executing op _ _ => [op]
  | _ => []

/-- The worker is inside the completion of this operation. -/
def Worker.inCallback : Worker → Option ControlOperation
  | .executing op _ (.callback _) => some op
  | _ => none

/-! ### History -/

/-- One call of a completion. -/
structure Invocation where
  operation : ControlOperation
  result : DeviceControlResult
  deriving DecidableEq

/-- What has happened so far; no code reads it. -/
structure History where
  /-- How many `submit` calls have begun; the next call gets this number. -/
  submissions : ℕ := 0
  /-- What `submit` returned. -/
  returns : List (Submission × ControlSubmitResult) := []
  /-- The accepted operations, in acceptance order. -/
  accepted : List ControlOperation := []
  /-- The operations `wait_pop` gave to the worker. -/
  taken : List ControlOperation := []
  /-- The operations `cancel_pending` removed. -/
  cancelled : List ControlOperation := []
  /-- The operations handed to a driver's `control`. -/
  controlled : List ControlOperation := []
  /-- The completions called by the worker. -/
  executedCalls : List Invocation := []
  /-- The completions called by `request_stop`. -/
  cancelledCalls : List Invocation := []
  /-- The operations whose completion the worker is done with: returned, or absent. -/
  executedDone : List ControlOperation := []
  /-- The operations whose completion `request_stop` is done with. -/
  cancelledDone : List ControlOperation := []
  /-- The thread inside the `request_stop` call that set `stopping_`. -/
  stopper : Option ThreadId := none

/-- The fields of `DeviceControlDispatcher` and its threads. -/
structure Dispatcher where
  queue : ControlQueue
  /-- Who holds `lifecycle_mutex_`. -/
  lifecycleMutex : Option ThreadId := none
  started : Bool := false
  stopping : Bool := false
  stopRequestComplete : Bool := false
  joinInProgress : Bool := false
  joined : Bool := false
  stats : ControlStats := {}
  worker : Worker := .absent
  callers : ThreadId → Caller := fun _ => .idle
  history : History := {}

/-- How often the completion of the operation with this ticket has been called. -/
def Dispatcher.invocations (s : Dispatcher) (ticket : ℕ) : ℕ :=
  (s.history.executedCalls ++ s.history.cancelledCalls).countP
    fun call => call.operation.ticket == ticket

end MiniGateway
