/-
  What one step of the dispatcher can do, said once.

  `Dispatcher.Effect gates s e s'` has one constructor for each access to shared data and each way
  it can go, with the condition under which it happens and the state after it.  Every invariant of
  the dispatcher is proved by cases on it (`step_effect`), never by unfolding `step`.
-/
import MiniGateway.Dispatcher.Step

namespace MiniGateway.Dispatcher

variable {gates : Bool} {s s' : Dispatcher} {e : DispatcherEvent}

/-- The effect of one access by a thread `t` in a public function. -/
inductive CallerEffect (s : Dispatcher) (t : ThreadId) : CallerEvent → Dispatcher → Prop
  | callStart (hpc : s.callers t = .idle) : CallerEffect s t (.call .start) (s.goto t .start)
  | callSubmit {request : DeviceControlRequest} {completion : Option CompletionId}
      (hpc : s.callers t = .idle) :
      CallerEffect s t (.call (.submit request completion))
        { s.goto t (.submit ⟨s.history.submissions, request, completion⟩ .entry) with
          history := { s.history with submissions := s.history.submissions + 1 } }
  | callRequestStop (hpc : s.callers t = .idle) :
      CallerEffect s t (.call .requestStop) (s.goto t (.requestStop false .lock))
  | callJoin (hpc : s.callers t = .idle) :
      CallerEffect s t (.call .join) (s.goto t (.join false .lock))
  | callStop (hpc : s.callers t = .idle) :
      CallerEffect s t (.call .stop) (s.goto t (.requestStop true .lock))
  | startRefused {launched : Bool} (hpc : s.callers t = .start) (hm : s.lifecycleMutex = none)
      (href : (s.started || s.stopping || !launched) = true) :
      CallerEffect s t (.start launched) (s.goto t .idle)
  | started {launched : Bool} (hpc : s.callers t = .start) (hm : s.lifecycleMutex = none)
      (hstarted : s.started = false) (hstopping : s.stopping = false) :
      CallerEffect s t (.start launched) { s.goto t .idle with started := true, worker := .waiting }
  | submitCount {sub : Submission} (hpc : s.callers t = .submit sub .entry) :
      CallerEffect s t .submitCount { s.goto t (.submit sub .check) with
        stats := { s.stats with submitted := s.stats.submitted + 1 } }
  | submitValid {sub : Submission} (hpc : s.callers t = .submit sub .check)
      (hv : validRequest sub.request = true) :
      CallerEffect s t .submitCheck (s.goto t (.submit sub .lock))
  | submitInvalid {sub : Submission} (hpc : s.callers t = .submit sub .check)
      (hv : validRequest sub.request = false) :
      CallerEffect s t .submitCheck { (s.goto t .idle).returned sub .invalidRequest with
        stats := s.stats.countSubmit .invalidRequest }
  | submitRefused {sub : Submission} (hpc : s.callers t = .submit sub .lock)
      (hm : s.lifecycleMutex = none) (href : (!s.started || s.stopping) = true) :
      CallerEffect s t .submitLock { s.goto t (.submit sub (.record .stopping)) with
        lifecycleMutex := some t }
  | submitLock {sub : Submission} (hpc : s.callers t = .submit sub .lock)
      (hm : s.lifecycleMutex = none) (hstarted : s.started = true)
      (hstopping : s.stopping = false) :
      CallerEffect s t .submitLock { s.goto t (.submit sub .resolve) with
        lifecycleMutex := some t }
  | submitResolved {sub : Submission} (hpc : s.callers t = .submit sub .resolve) :
      CallerEffect s t (.submitResolve true) (s.goto t (.submit sub .push))
  | submitUnresolved {sub : Submission} (hpc : s.callers t = .submit sub .resolve) :
      CallerEffect s t (.submitResolve false) (s.goto t (.submit sub (.record .unknownDevice)))
  | submitAccepted {sub : Submission} {now : TimePoint} (hpc : s.callers t = .submit sub .push)
      (hpush : (s.queue.tryPush (sub.operation now)).1 = .accepted) :
      CallerEffect s t (.submitPush now) { s.goto t (.submit sub (.record .accepted)) with
        queue := (s.queue.tryPush (sub.operation now)).2
        history := { s.history with accepted := s.history.accepted ++ [sub.operation now] } }
  | submitRejected {sub : Submission} {now : TimePoint} (hpc : s.callers t = .submit sub .push)
      (hpush : (s.queue.tryPush (sub.operation now)).1 ≠ .accepted) :
      CallerEffect s t (.submitPush now)
        { s.goto t (.submit sub (.record (s.queue.tryPush (sub.operation now)).1)) with
          queue := (s.queue.tryPush (sub.operation now)).2 }
  | submitRecord {sub : Submission} {result : ControlSubmitResult}
      (hpc : s.callers t = .submit sub (.record result)) :
      CallerEffect s t .submitRecord { (s.goto t .idle).returned sub result with
        stats := s.stats.countSubmit result
        lifecycleMutex := none }
  | stopAgain {inStop : Bool} (hpc : s.callers t = .requestStop inStop .lock)
      (hm : s.lifecycleMutex = none) (hstopping : s.stopping = true) :
      CallerEffect s t .stopLock (s.goto t (afterRequestStop inStop))
  | stopFirst {inStop : Bool} (hpc : s.callers t = .requestStop inStop .lock)
      (hm : s.lifecycleMutex = none) (hstopping : s.stopping = false) :
      CallerEffect s t .stopLock { s.goto t (.requestStop inStop .close) with
        lifecycleMutex := some t
        stopping := true
        history := { s.history with stopper := some t } }
  | stopClose {inStop : Bool} (hpc : s.callers t = .requestStop inStop .close) :
      CallerEffect s t .stopClose { s.goto t (.requestStop inStop .cancel) with
        queue := s.queue.close }
  | stopCancel {inStop allocated : Bool} (hpc : s.callers t = .requestStop inStop .cancel) :
      CallerEffect s t (.stopCancel allocated)
        { s.goto t (.requestStop inStop (.deliver (s.queue.cancelPending allocated).1)) with
          queue := (s.queue.cancelPending allocated).2
          lifecycleMutex := none
          history := { s.history with
            cancelled := s.history.cancelled ++ (s.queue.cancelPending allocated).1 } }
  | stopDelivered {inStop : Bool} (hpc : s.callers t = .requestStop inStop (.deliver [])) :
      CallerEffect s t .stopDeliver (s.goto t (.requestStop inStop .finish))
  | stopSkip {inStop : Bool} {op : ControlOperation} {pending : List ControlOperation}
      (hpc : s.callers t = .requestStop inStop (.deliver (op :: pending)))
      (hc : op.completion = none) :
      CallerEffect s t .stopDeliver { s.goto t (.requestStop inStop (.deliver pending)) with
        stats := s.stats.countOutcome (cancelledResult op.request).status
        history := { s.history with cancelledDone := s.history.cancelledDone ++ [op] } }
  | stopCount {inStop : Bool} {op : ControlOperation} {pending : List ControlOperation}
      (hpc : s.callers t = .requestStop inStop (.deliver (op :: pending)))
      (hc : op.completion.isSome = true) :
      CallerEffect s t .stopDeliver { s.goto t (.requestStop inStop (.invoke op pending)) with
        stats := s.stats.countOutcome (cancelledResult op.request).status }
  | stopInvoke {inStop : Bool} {op : ControlOperation} {pending : List ControlOperation}
      (hpc : s.callers t = .requestStop inStop (.invoke op pending)) :
      CallerEffect s t .stopInvoke { s.goto t (.requestStop inStop (.callback op pending)) with
        history := { s.history with
          cancelledCalls := s.history.cancelledCalls ++ [⟨op, cancelledResult op.request⟩] } }
  | stopCallbackReturn {inStop : Bool} {op : ControlOperation} {pending : List ControlOperation}
      (hpc : s.callers t = .requestStop inStop (.callback op pending)) :
      CallerEffect s t .stopCallbackReturn
        { s.goto t (.requestStop inStop (.deliver pending)) with
          history := { s.history with cancelledDone := s.history.cancelledDone ++ [op] } }
  | stopFinish {inStop : Bool} (hpc : s.callers t = .requestStop inStop .finish)
      (hm : s.lifecycleMutex = none) :
      CallerEffect s t .stopFinish { s.goto t (afterRequestStop inStop) with
        stopRequestComplete := true
        history := { s.history with stopper := none } }
  | joinUnstarted {inStop : Bool} (hpc : s.callers t = .join inStop .lock)
      (hm : s.lifecycleMutex = none) (hstarted : s.started = false) :
      CallerEffect s t .joinLock (s.goto t .idle)
  | joinLock {inStop : Bool} (hpc : s.callers t = .join inStop .lock)
      (hm : s.lifecycleMutex = none) (hstarted : s.started = true) :
      CallerEffect s t .joinLock (s.goto t (.join inStop .wait))
  | joinAlready {inStop : Bool} (hpc : s.callers t = .join inStop .wait)
      (hm : s.lifecycleMutex = none) (hc : s.stopRequestComplete = true) (hj : s.joined = true) :
      CallerEffect s t .joinWait (s.goto t .idle)
  | joinFirst {inStop : Bool} (hpc : s.callers t = .join inStop .wait)
      (hm : s.lifecycleMutex = none) (hc : s.stopRequestComplete = true) (hj : s.joined = false)
      (hp : s.joinInProgress = false) :
      CallerEffect s t .joinWait { s.goto t (.join inStop .worker) with joinInProgress := true }
  | joinWorker {inStop ok : Bool} (hpc : s.callers t = .join inStop .worker)
      (hw : ok = true → s.worker = .exited) :
      CallerEffect s t (.joinWorker ok) (s.goto t (.join inStop (.finish ok)))
  | joinFinish {inStop ok : Bool} (hpc : s.callers t = .join inStop (.finish ok))
      (hm : s.lifecycleMutex = none) :
      CallerEffect s t .joinFinish { s.goto t .idle with
        joinInProgress := false
        joined := s.joined || ok }

theorem stepCaller_effect {t : ThreadId} {e : CallerEvent} (h : s.stepCaller t e = some s') :
    CallerEffect s t e s' := by
  unfold stepCaller at h
  split at h
  · -- a call
    rename_i c hpc
    obtain rfl := Option.some.inj h
    cases c with
    | start => exact .callStart hpc
    | submit request completion => exact .callSubmit hpc
    | requestStop => exact .callRequestStop hpc
    | join => exact .callJoin hpc
    | stop => exact .callStop hpc
  · -- `start`
    rename_i launched hpc
    split_ifs at h with hm
    obtain rfl := Option.some.inj h
    unfold stepStart
    split_ifs with href
    · exact .startRefused hpc hm href
    · simp only [Bool.or_eq_true, not_or, Bool.not_eq_true] at href
      exact .started hpc hm href.1.1 href.1.2
  · -- `submit`
    rename_i sub pc hpc
    unfold stepSubmit at h
    split at h
    · obtain rfl := Option.some.inj h
      exact .submitCount hpc
    · obtain rfl := Option.some.inj h
      split_ifs with hv
      · exact .submitValid hpc hv
      · exact .submitInvalid hpc (by simpa using hv)
    · split_ifs at h with hm href
      all_goals obtain rfl := Option.some.inj h
      · exact .submitRefused hpc hm href
      · simp only [Bool.or_eq_true, Bool.not_eq_true', not_or, Bool.not_eq_false,
          Bool.not_eq_true] at href
        exact .submitLock hpc hm href.1 href.2
    · rename_i found
      obtain rfl := Option.some.inj h
      cases found
      · exact .submitUnresolved hpc
      · exact .submitResolved hpc
    · rename_i now
      obtain rfl := Option.some.inj h
      by_cases hpush : (s.queue.tryPush (sub.operation now)).1 = .accepted
      · simp only [hpush, if_true]
        exact .submitAccepted hpc hpush
      · simp only [hpush, if_false]
        exact .submitRejected hpc hpush
    · obtain rfl := Option.some.inj h
      exact .submitRecord hpc
    · cases h
  · -- `request_stop`
    rename_i inStop pc hpc
    unfold stepRequestStop at h
    split at h
    · split_ifs at h with hm hstopping
      all_goals obtain rfl := Option.some.inj h
      · exact .stopAgain hpc hm hstopping
      · exact .stopFirst hpc hm (by simpa using hstopping)
    · obtain rfl := Option.some.inj h
      exact .stopClose hpc
    · obtain rfl := Option.some.inj h
      exact .stopCancel hpc
    · obtain rfl := Option.some.inj h
      exact .stopDelivered hpc
    · obtain rfl := Option.some.inj h
      split_ifs with hc
      · exact .stopCount hpc hc
      · exact .stopSkip hpc (by simpa using hc)
    · obtain rfl := Option.some.inj h
      exact .stopInvoke hpc
    · obtain rfl := Option.some.inj h
      exact .stopCallbackReturn hpc
    · split_ifs at h with hm
      obtain rfl := Option.some.inj h
      exact .stopFinish hpc hm
    · cases h
  · -- `join`
    rename_i inStop pc hpc
    unfold stepJoin at h
    split at h
    · split_ifs at h with hm hstarted
      all_goals obtain rfl := Option.some.inj h
      · exact .joinLock hpc hm hstarted
      · exact .joinUnstarted hpc hm (by simpa using hstarted)
    · split_ifs at h with hg hj
      all_goals obtain rfl := Option.some.inj h
      · exact .joinAlready hpc hg.1 hg.2.1 hj
      · simp only [hj, Bool.false_eq_true, false_or, Bool.not_eq_true] at hg
        exact .joinFirst hpc hg.1 hg.2.1 (by simpa using hj) hg.2.2
    · split_ifs at h with hw
      obtain rfl := Option.some.inj h
      exact .joinWorker hpc hw
    · split_ifs at h with hm
      obtain rfl := Option.some.inj h
      exact .joinFinish hpc hm
    · cases h
  · cases h

/-- A step inside `execute` that calls nobody and ends nothing: the stage moves on and only the
statistics change.  A result that appears carries the request's own id. -/
inductive StageMove (gates : Bool) (op : ControlOperation) :
    Stage → WorkerEvent → Stage → Prop
  | countWait : StageMove gates op .entry .countWait .resolve
  | resolved : StageMove gates op .resolve (.resolve true) .deadline
  | unresolved : StageMove gates op .resolve (.resolve false)
      (.finish (executeResult op.request .failed (lit "device is no longer available")))
  | expired {now : TimePoint} (hd : op.request.deadline ≤ now) :
      StageMove gates op .deadline (.deadline now)
        (.finish (executeResult op.request .timeout
          (lit "control request deadline expired before execution")))
  | inTime {now : TimePoint} (hd : now < op.request.deadline) (hg : gates = true) :
      StageMove gates op .deadline (.deadline now) .gate
  | inTimeNoGates {now : TimePoint} (hd : now < op.request.deadline) (hg : gates = false) :
      StageMove gates op .deadline (.deadline now) (.recheck false)
  | gateFound : StageMove gates op .gate (.gate true) .lockGate
  | gateMissing : StageMove gates op .gate (.gate false)
      (.finish (executeResult op.request .failed (lit "device I/O gate is unavailable")))
  | gateLocked : StageMove gates op .lockGate (.lockGate true) (.recheck true)
  | gateTimeout : StageMove gates op .lockGate (.lockGate false)
      (.finish (executeResult op.request .timeout (lit "timed out waiting for device I/O")))
  | recheckExpired {gated : Bool} {now : TimePoint}
      (hd : op.request.deadline ≠ timePointMax ∧ op.request.deadline ≤ now) :
      StageMove gates op (.recheck gated) (.recheck now)
        (.unlock gated (executeResult op.request .timeout
          (lit "control request deadline expired before driver call")))
  | recheckInTime {gated : Bool} {now : TimePoint}
      (hd : ¬(op.request.deadline ≠ timePointMax ∧ op.request.deadline ≤ now)) :
      StageMove gates op (.recheck gated) (.recheck now) (.call gated)
  | driverReturn {gated : Bool} {result : DeviceControlResult} {now : TimePoint} :
      StageMove gates op (.driver gated) (.driverReturn result now)
        (.unlock gated (driverResult op.request result now))
  | driverThrow {gated : Bool} {what : Option ByteString} :
      StageMove gates op (.driver gated) (.driverThrow what)
        (.unlock gated (driverFailure op.request what))
  | unlock {gated : Bool} {result : DeviceControlResult} :
      StageMove gates op (.unlock gated result) .unlock (.finish result)
  | finish {result : DeviceControlResult} {now : TimePoint} :
      StageMove gates op (.finish result) (.finish now) (.count result)

/-- The effect of one access by the worker. -/
inductive WorkerEffect (gates : Bool) (s : Dispatcher) : WorkerEvent → Dispatcher → Prop
  | pop {op : ControlOperation} {rest : ControlQueue} {now : TimePoint}
      (hw : s.worker = .waiting) (hq : s.queue.waitPop = some (.operation op rest)) :
      WorkerEffect gates s (.pop now) { s.advance op now .entry with
        queue := rest
        history := { s.history with taken := s.history.taken ++ [op] } }
  | exit (hw : s.worker = .waiting) (hq : s.queue.waitPop = some .finished) :
      WorkerEffect gates s .exit { s with worker := .exited }
  | move {op : ControlOperation} {es : TimePoint} {stage stage' : Stage} {e : WorkerEvent}
      {stats : ControlStats} (hw : s.worker = .executing op es stage)
      (hmove : StageMove gates op stage e stage')
      (hstats : stats.SameCounts s.stats) :
      WorkerEffect gates s e { s.advance op es stage' with stats := stats }
  | call {op : ControlOperation} {es : TimePoint} {gated : Bool}
      (hw : s.worker = .executing op es (.call gated)) :
      WorkerEffect gates s .call { s.advance op es (.driver gated) with
        stats := { s.stats with executed := s.stats.executed + 1 }
        history := { s.history with controlled := s.history.controlled ++ [op] } }
  | countSkip {op : ControlOperation} {es : TimePoint} {result : DeviceControlResult}
      (hw : s.worker = .executing op es (.count result)) (hc : op.completion = none) :
      WorkerEffect gates s .count { s.executed op with
        stats := s.stats.countOutcome result.status }
  | count {op : ControlOperation} {es : TimePoint} {result : DeviceControlResult}
      (hw : s.worker = .executing op es (.count result)) (hc : op.completion.isSome = true) :
      WorkerEffect gates s .count { s.advance op es (.invoke result) with
        stats := s.stats.countOutcome result.status }
  | invoke {op : ControlOperation} {es : TimePoint} {result : DeviceControlResult}
      (hw : s.worker = .executing op es (.invoke result)) :
      WorkerEffect gates s .invoke { s.advance op es (.callback result) with
        history := { s.history with executedCalls := s.history.executedCalls ++ [⟨op, result⟩] } }
  | callbackReturn {op : ControlOperation} {es : TimePoint} {result : DeviceControlResult}
      (hw : s.worker = .executing op es (.callback result)) :
      WorkerEffect gates s .callbackReturn (s.executed op)

theorem stepExecute_effect {op : ControlOperation} {es : TimePoint} {stage : Stage}
    {e : WorkerEvent} (hw : s.worker = .executing op es stage)
    (h : s.stepExecute gates op es stage e = some s') : WorkerEffect gates s e s' := by
  unfold stepExecute at h
  split at h <;> (try cases h; done)
  all_goals obtain rfl := Option.some.inj h
  · exact .move hw .countWait (.addQueueWait _ _)
  · rename_i found
    cases found
    · exact .move hw .unresolved (.refl _)
    · exact .move hw .resolved (.refl _)
  · split_ifs with hd hg
    · exact .move hw (.expired hd) (.refl _)
    · exact .move hw (.inTime (not_le.mp hd) hg) (.refl _)
    · exact .move hw (.inTimeNoGates (not_le.mp hd) (by simpa using hg)) (.refl _)
  · rename_i found
    cases found
    · exact .move hw .gateMissing (.refl _)
    · exact .move hw .gateFound (.refl _)
  · rename_i locked
    cases locked
    · exact .move hw .gateTimeout (.refl _)
    · exact .move hw .gateLocked (.refl _)
  · split_ifs with hd
    · exact .move hw (.recheckExpired hd) (.refl _)
    · exact .move hw (.recheckInTime hd) (.refl _)
  · exact .call hw
  · exact .move hw .driverReturn (.refl _)
  · exact .move hw .driverThrow (.refl _)
  · exact .move hw .unlock (.refl _)
  · exact .move hw .finish (.addExecution _ _)
  · split_ifs with hc
    · exact .count hw hc
    · exact .countSkip hw (by simpa using hc)
  · exact .invoke hw
  · exact .callbackReturn hw

theorem stepWorker_effect {e : WorkerEvent} (h : s.stepWorker gates e = some s') :
    WorkerEffect gates s e s' := by
  unfold stepWorker at h
  split at h
  · rename_i now hw
    split at h
    · rename_i op rest hq
      obtain rfl := Option.some.inj h
      exact .pop hw hq
    · cases h
  · rename_i hw
    split at h
    · rename_i hq
      obtain rfl := Option.some.inj h
      exact .exit hw hq
    · cases h
  · rename_i hw
    exact stepExecute_effect hw h
  · cases h

/-- The effect of one step. -/
inductive Effect (gates : Bool) (s : Dispatcher) : DispatcherEvent → Dispatcher → Prop
  | caller {t : ThreadId} {e : CallerEvent} {s' : Dispatcher} :
      CallerEffect s t e s' → Effect gates s (.caller t e) s'
  | worker {e : WorkerEvent} {s' : Dispatcher} :
      WorkerEffect gates s e s' → Effect gates s (.worker e) s'

/-- **Inversion of `step`.** -/
theorem step_effect (h : step gates s e = some s') : Effect gates s e s' := by
  cases e with
  | caller t e => exact .caller (stepCaller_effect h)
  | worker e => exact .worker (stepWorker_effect h)

end MiniGateway.Dispatcher
