/-
  What the counters of the dispatcher tell.

  `Balanced` reads the equations of `Accounting` where no `submit` call is in progress, and
  `accepted_eq_finished` at the end, after `stop`.  The end is only reached if the `join` inside
  `stop` does not throw, or throws in a completion: a `stop` that the worker's own thread calls
  inside `driver->control` returns while that request has no outcome (`stopInControl`).  A snapshot
  taken in between may run ahead by one: `submit` counts a request as accepted only after it is in
  the queue, where the worker may already take and finish it.
-/
import MiniGateway.Dispatcher.Accounting

namespace MiniGateway

/-- The thread is in `submit`. -/
def Caller.isSubmitting : Caller → Bool
  | .submit _ _ => true
  | _ => false

/-- The thread has been through `cancel_pending`, in `request_stop`. -/
def Caller.isDelivering : Caller → Bool
  | .requestStop _ .lock | .requestStop _ .close | .requestStop _ .cancel => false
  | .requestStop _ _ => true
  | _ => false

namespace Dispatcher

variable {gates : Bool} {s s' : Dispatcher}

/-! ### Nobody in `submit` -/

/-- The counters while no `submit` call is in progress. -/
structure AtRest (s : Dispatcher) : Prop where
  submitted : s.stats.submitted = s.stats.accepted + s.stats.queueFull + s.stats.unknownDevice +
    s.stats.invalidRequests + s.stats.stopping
  accepted : s.stats.accepted = s.queue.accepted
  queueFull : s.stats.queueFull = s.queue.rejectedFull
  /-- What has no outcome yet is queued, in the worker's hand, or removed by `request_stop`. -/
  finished : s.stats.accepted = s.stats.finished +
    (s.queue.queue.length + s.worker.uncounted + s.stopCaller.uncounted)

/-- The counters in any state. -/
structure Balanced (s : Dispatcher) : Prop where
  queue : s.queue.accepted = s.history.taken.length + s.queue.cancelled + s.queue.queue.length
  bounded : s.queue.queue.length ≤ s.queue.maxSize ∧ s.queue.maxSize ≤ s.queue.capacity
  atRest : (∀ t, (s.callers t).isSubmitting = false) → AtRest s

/-- Only the thread that set `stopping_` has removed anything. -/
theorem OutcomeBalance.stopCaller (h : OutcomeBalance s) (hl : Locking s) :
    s.queue.accepted = s.stats.finished + s.queue.queue.length + s.worker.uncounted +
      s.stopCaller.uncounted := by
  obtain ⟨n, htally, heq⟩ := h
  have hout : ∀ c : Caller, c.isStopping = false → c.uncounted = 0 := by
    rintro (_ | _ | _ | ⟨inStop, pc⟩ | _) hc
    case requestStop => cases pc <;> first | rfl | cases hc
    all_goals rfl
  have hn := htally.eq_of_guarded hl.stopper hout
  have hstop : s.stopCaller.uncounted = n := by
    rw [hn]
    unfold Dispatcher.stopCaller
    cases s.history.stopper <;> rfl
  rw [hstop]
  exact heq

/-- Outside `submit` a thread leaves no call unresolved and no result to record. -/
theorem Caller.weightless {c : Caller} (h : c.isSubmitting = false) (result : ControlSubmitResult) :
    c.unresolved = 0 ∧ c.records result = 0 := by
  cases c with
  | submit submission pc => cases h
  | _ => exact ⟨rfl, rfl⟩

/-- The gap between two counts of one result is open only while somebody is in `submit`. -/
private theorem PushBalance.eq {result : ControlSubmitResult} {queued counted : ℕ}
    (h : PushBalance result queued counted s) (hnone : ∀ t, (s.callers t).isSubmitting = false) :
    queued = counted := by
  obtain ⟨n, htally, heq⟩ := h
  have hzero : n = 0 := htally.eq_zero fun t => (Caller.weightless (hnone t) result).2
  omega

private theorem SubmitBalance.eq (h : SubmitBalance s)
    (hnone : ∀ t, (s.callers t).isSubmitting = false) : s.stats.submitted = s.stats.resolved := by
  obtain ⟨n, htally, heq⟩ := h
  have hzero : n = 0 := htally.eq_zero fun t => (Caller.weightless (hnone t) .accepted).1
  omega

theorem balanced {capacity : ℕ} (hr : (dispatcherSystem capacity gates).Reachable s) :
    Balanced s := by
  have h := accounting hr
  refine ⟨h.popped, h.bounded, fun hnone => ?_⟩
  have haccepted := h.accepted.eq hnone
  have houtcome := h.finished.stopCaller (invariant hr).locking
  exact ⟨h.submitted.eq hnone, haccepted.symm, (h.queueFull.eq hnone).symm, by omega⟩

/-! ### After `stop` -/

/-- The steps in which allocations succeed, and `worker_.join()` throws only while the worker is
inside a completion.  It throws in the worker's own thread, which may also be in `driver->control`:
that is not sound. -/
def sound (s : Dispatcher) : DispatcherEvent → Bool
  | .caller _ (.stopCancel allocated) => allocated
  | .caller _ (.joinWorker ok) => ok || s.worker.inCallback.isSome
  | _ => true

/-- The runs of such steps. -/
def soundSystem (capacity : ℕ) (gates : Bool) : TransitionSystem Dispatcher DispatcherEvent :=
  (dispatcherSystem capacity gates).restrict fun s e => sound s e = true

/-- Nothing is queued and nothing will be, and whatever the worker holds has been counted. -/
structure Quiet (s : Dispatcher) : Prop where
  empty : s.queue.queue = []
  closed : s.queue.closed = true
  worker : s.worker.uncounted = 0
  complete : s.stopRequestComplete = true

/-- A closed, empty queue stays so. -/
theorem empty_step {e : DispatcherEvent} (he : Effect gates s e s')
    (hempty : s.queue.queue = []) (hclosed : s.queue.closed = true) :
    s'.queue.queue = [] ∧ s'.queue.closed = true := by
  cases he with
  | caller he =>
    cases he with
    | @submitAccepted sub now _ hpush =>
      obtain ⟨-, hopen, -⟩ | ⟨hne, -⟩ := s.queue.tryPush_cases (sub.operation now)
      · rw [hclosed] at hopen
        cases hopen
      · exact absurd hpush hne
    | @submitRejected sub now _ hpush =>
      obtain ⟨heq, -⟩ | ⟨-, hqueue, hclosed'⟩ := s.queue.tryPush_cases (sub.operation now)
      · exact absurd heq hpush
      · exact ⟨hqueue.trans hempty, hclosed'.trans hclosed⟩
    | stopClose _ => exact ⟨hempty, rfl⟩
    | @stopCancel inStop allocated _ =>
      have hsplit := (s.queue.cancelPending_split allocated).1
      rw [hempty] at hsplit
      exact ⟨(List.append_eq_nil_iff.mp hsplit).2,
        (s.queue.cancelPending_closed allocated).trans hclosed⟩
    | _ => exact ⟨hempty, hclosed⟩
  | worker he =>
    cases he with
    | pop _ hq =>
      have hqueue := (ControlQueue.waitPop_operation hq).1
      rw [hempty] at hqueue
      cases hqueue
    | _ => exact ⟨hempty, hclosed⟩

theorem Quiet.step {e : DispatcherEvent} (h : Quiet s) (he : Effect gates s e s') : Quiet s' := by
  obtain ⟨hempty, hclosed⟩ := empty_step he h.empty h.closed
  refine ⟨hempty, hclosed, ?_, ?_⟩
  · cases he with
    | caller he =>
      rcases he.worker with heq | ⟨-, heq⟩
      · rw [heq]
        exact h.worker
      · rw [heq]
        rfl
    | worker he =>
      cases he with
      | pop _ hq =>
        have hqueue := (ControlQueue.waitPop_operation hq).1
        rw [h.empty] at hqueue
        cases hqueue
      | @move op es stage stage' e stats hw hmove _ =>
        -- a stage before `complete` is not counted
        have hworker := h.worker
        rw [hw, (StageMove.uncounted es hmove).1] at hworker
        cases hworker
      | call hw =>
        have hworker := h.worker
        rw [hw] at hworker
        cases hworker
      | _ => rfl
  · cases he with
    | caller he =>
      cases he with
      | stopFinish _ _ => rfl
      | _ => exact h.complete
    | worker he =>
      rw [he.frame.2.2.2.2.1]
      exact h.complete

/-- What holds while nothing fails: once `cancel_pending` has been called the queue is empty, and a
thread whose `worker_.join()` threw leaves a quiet dispatcher behind. -/
structure Settling (s : Dispatcher) : Prop where
  delivering : ∀ t, (s.callers t).isDelivering = true → s.queue.queue = []
  complete : s.stopRequestComplete = true → s.queue.queue = []
  failed : ∀ t inStop, s.callers t = .join inStop (.finish false) → Quiet s

private theorem Settling.create (capacity : ℕ) : Settling (Dispatcher.create capacity) where
  delivering t h := by cases h
  complete h := by cases h
  failed t inStop h := by cases h

/-- A thread delivers cancellations from its `cancel_pending` on. -/
private theorem CallerEffect.isDelivering {t : ThreadId} {e : CallerEvent}
    (he : CallerEffect s t e s') (h : (s'.callers t).isDelivering = true) :
    (s.callers t).isDelivering = true ∨ ∃ allocated, e = .stopCancel allocated := by
  cases he with
  | stopCancel _ => exact Or.inr ⟨_, rfl⟩
  | @stopAgain inStop => cases inStop <;> simp [afterRequestStop, Caller.isDelivering] at h
  | @stopFinish inStop => cases inStop <;> simp [afterRequestStop, Caller.isDelivering] at h
  | _ hpc => first
    | exact Or.inl (by rw [hpc]; rfl)
    | simp [returned, Caller.isDelivering] at h

/-- Whoever delivers cancellations has closed the queue before. -/
private theorem Stopping.closed_of_isDelivering {t : ThreadId} (h : Stopping s)
    (ht : (s.callers t).isDelivering = true) : s.queue.closed = true := by
  cases hpc : s.callers t with
  | requestStop inStop pc =>
    rw [hpc] at ht
    apply h.passed t inStop pc hpc
    · rintro rfl
      cases ht
    · rintro rfl
      cases ht
  | _ =>
    rw [hpc] at ht
    cases ht

/-- A thread comes to the end of a failed join only by that failure. -/
private theorem CallerEffect.failed {t : ThreadId} {e : CallerEvent} {inStop : Bool}
    (he : CallerEffect s t e s') (h : s'.callers t = .join inStop (.finish false)) :
    e = .joinWorker false ∧ s.callers t = .join inStop .worker := by
  cases he with
  | @joinWorker inStop' ok hpc hw =>
    simp only [goto_callers, Function.update_self, Caller.join.injEq, JoinPc.finish.injEq] at h
    obtain ⟨rfl, rfl⟩ := h
    exact ⟨rfl, hpc⟩
  | @stopAgain inStop' => cases inStop' <;> simp [afterRequestStop] at h
  | @stopFinish inStop' => cases inStop' <;> simp [afterRequestStop] at h
  | _ hpc => simp [returned] at h

private theorem CallerEffect.other {t u : ThreadId} {e : CallerEvent} (he : CallerEffect s t e s')
    (hu : u ≠ t) : s'.callers u = s.callers u := by
  cases he <;> exact Function.update_of_ne hu _ _

private theorem Settling.caller {t : ThreadId} {e : CallerEvent} (hinv : Invariant s)
    (hj : Joining s) (h : Settling s) (hsound : sound s (.caller t e) = true)
    (he : CallerEffect s t e s') : Settling s' := by
  -- an empty queue stays empty, since the thread that emptied it had closed it
  have heffect : Effect false s (.caller t e) s' := .caller he
  have hstay : ∀ hempty : s.queue.queue = [], s.queue.closed = true → s'.queue.queue = [] :=
    fun hempty hclosed => (empty_step heffect hempty hclosed).1
  refine ⟨?_, ?_, ?_⟩
  · intro u hu
    by_cases hut : u = t
    · subst hut
      rcases he.isDelivering hu with hold | ⟨allocated, rfl⟩
      · exact hstay (h.delivering u hold) (hinv.stopping.closed_of_isDelivering hold)
      · obtain rfl : allocated = true := hsound
        cases he with
        | stopCancel _ => rfl
    · rw [he.other hut] at hu
      exact hstay (h.delivering u hu) (hinv.stopping.closed_of_isDelivering hu)
  · intro hcomplete
    cases he with
    | stopFinish hpc _ => exact h.delivering t (by rw [hpc]; rfl)
    | _ =>
      exact hstay (h.complete hcomplete) (hinv.stopping.complete hcomplete).2
  · intro u inStop hu
    by_cases hut : u = t
    · subst hut
      obtain ⟨rfl, hpc⟩ := he.failed hu
      have hcomplete := (hj.joining u (by rw [hpc]; rfl)).1
      -- the worker's own thread: it is inside a completion
      have hcallback : s.worker.inCallback.isSome = true := hsound
      refine Quiet.step ⟨h.complete hcomplete, (hinv.stopping.complete hcomplete).2, ?_,
        hcomplete⟩ heffect
      cases hw : s.worker with
      | executing op es stage =>
        rw [hw] at hcallback
        cases stage with
        | callback result => rfl
        | _ => cases hcallback
      | _ => rfl
    · rw [he.other hut] at hu
      exact (h.failed u inStop hu).step heffect

private theorem Settling.worker {e : WorkerEvent} (hinv : Invariant s) (h : Settling s)
    (he : WorkerEffect gates s e s') : Settling s' := by
  obtain ⟨hcallers, -, -, -, hcomplete, -, -⟩ := he.frame
  refine ⟨?_, ?_, ?_⟩
  · rw [hcallers]
    intro t ht
    have hclosed := hinv.stopping.closed_of_isDelivering ht
    exact (empty_step (.worker he) (h.delivering t ht) hclosed).1
  · rw [hcomplete]
    intro hc
    exact (empty_step (.worker he) (h.complete hc) (hinv.stopping.complete hc).2).1
  · rw [hcallers]
    intro t inStop ht
    exact (h.failed t inStop ht).step (.worker he)

theorem settling {capacity : ℕ} (h : (soundSystem capacity gates).Reachable s) : Settling s := by
  refine h.invariant ?_ ?_
  · rintro s ⟨-, rfl⟩
    exact .create capacity
  · intro s e s' hr hi hstep
    obtain ⟨hsound, hstep⟩ := TransitionSystem.restrict_step.mp hstep
    have hr := hr.of_restrict
    cases step_effect hstep with
    | caller he => exact hi.caller (invariant hr) (joining hr) hsound he
    | worker he => exact hi.worker (invariant hr) he

/-- A `stop` call returns by the step from `s` to `s'`, whatever became of the join inside it. -/
def StopReturns (s s' : Dispatcher) (t : ThreadId) : Prop :=
  ∃ pc, s.callers t = .join true pc ∧ s'.callers t = .idle

theorem Invariant.quiet (h : Invariant s) (hw : s.worker = .exited)
    (hc : s.stopRequestComplete = true) : Quiet s := by
  have hbarrier := h.barrier hw hc
  exact ⟨hbarrier.empty, hbarrier.closed, by rw [hw]; rfl, hc⟩

theorem JoinReturns.quiet {capacity : ℕ} {t : ThreadId} {e : CallerEvent}
    (hr : (dispatcherSystem capacity gates).Reachable s) (hstarted : s.started = true)
    (hstep : s.stepCaller t e = some s') (h : JoinReturns s s' t) : Quiet s' := by
  obtain ⟨hbarrier, hjoined⟩ := h.barrier hr hstarted hstep
  have hr' : (dispatcherSystem capacity gates).Reachable s' := hr.step (l := .caller t e) hstep
  exact (invariant hr').quiet hbarrier.worker ((joining hr').joined hjoined).2

theorem StopReturns.quiet {capacity : ℕ} {t : ThreadId} {e : CallerEvent}
    (hr : (soundSystem capacity gates).Reachable s) (hstarted : s.started = true)
    (hstep : s.stepCaller t e = some s') (h : StopReturns s s' t) : Quiet s' := by
  have hr₀ : (dispatcherSystem capacity gates).Reachable s := hr.of_restrict
  obtain ⟨pc, hpc, hidle⟩ := h
  by_cases hfailed : pc = .finish false
  · subst hfailed
    have heffect : Effect gates s (.caller t e) s' := .caller (stepCaller_effect hstep)
    exact ((settling hr).failed t true hpc).step heffect
  · -- the join inside returned
    exact JoinReturns.quiet hr₀ hstarted hstep ⟨true, pc, hpc, hfailed, hidle⟩

theorem Quiet.accepted_eq_finished {capacity : ℕ} (h : Quiet s)
    (hr : (dispatcherSystem capacity gates).Reachable s)
    (hnone : ∀ t, (s.callers t).isSubmitting = false) : s.stats.accepted = s.stats.finished := by
  have hfinished := ((balanced hr).atRest hnone).finished
  have hstop : s.stopCaller = .idle := by
    have hstopper := (invariant hr).stopping.stopper
    unfold Dispatcher.stopCaller
    cases howner : s.history.stopper with
    | none => rfl
    | some t =>
      have hcomplete := h.complete
      rw [(hstopper (by rw [howner]; simp)).2] at hcomplete
      cases hcomplete
  rw [h.empty, h.worker, hstop] at hfinished
  exact hfinished

/-- Once a call has returned on a started dispatcher, in every later state without a `submit` call
the accepted requests are those with an outcome. -/
def Settles (capacity : ℕ) (gates : Bool) (returns : Dispatcher → Dispatcher → ThreadId → Prop)
    (s : Dispatcher) : Prop :=
  ∀ t e s', (dispatcherSystem capacity gates).step s (.caller t e) = some s' → s.started = true →
    returns s s' t → ∀ s'', (dispatcherSystem capacity gates).Reaches s' s'' →
    (∀ u, (s''.callers u).isSubmitting = false) → s''.stats.accepted = s''.stats.finished

/-- A quiet dispatcher stays so. -/
theorem settles_of_quiet {capacity : ℕ} {returns : Dispatcher → Dispatcher → ThreadId → Prop}
    (hr : (dispatcherSystem capacity gates).Reachable s)
    (hquiet : ∀ t e s', s.stepCaller t e = some s' → s.started = true → returns s s' t → Quiet s') :
    Settles capacity gates returns s := by
  intro t e s' hstep hstarted hret s'' hreach hnone
  obtain ⟨hr'', hquiet''⟩ := hreach.relation (R := Quiet)
    (fun s₁ e₁ s₂ _ hq hstep₁ => hq.step (step_effect hstep₁)) (hr.step hstep)
    (hquiet t e s' hstep hstarted hret)
  exact hquiet''.accepted_eq_finished hr'' hnone

/-- **Control accounting balances**: in every state, and completely after a `join`, or a `stop`
whose inner `join` did not throw.  As long as `worker_.join()` throws only inside completions, it
does so after every `stop`. -/
theorem accounting_contract (capacity : ℕ) (gates : Bool) :
    (∀ s, (dispatcherSystem capacity gates).Reachable s →
      Balanced s ∧ Settles capacity gates JoinReturns s) ∧
      ∀ s, (soundSystem capacity gates).Reachable s → Settles capacity gates StopReturns s := by
  refine ⟨fun s hr => ⟨balanced hr, ?_⟩, fun s hr => ?_⟩
  · exact settles_of_quiet hr fun t e s' hstep hstarted hret => hret.quiet hr hstarted hstep
  · exact settles_of_quiet hr.of_restrict fun t e s' hstep hstarted hret =>
      hret.quiet hr hstarted hstep

/-- The contract just before a `stop` returns, with one executed and one cancelled request. -/
theorem accounting_contract_stopWhileExecuting :
    ∃ s, (s.callers 0 = .join true (.finish true) ∧ s.lifecycleMutex = none ∧ s.started = true ∧
      s.stats.succeeded = 1 ∧ s.stats.cancelled = 1 ∧ s.stats.accepted = 2) ∧
      Balanced s ∧ Settles 2 false JoinReturns s ∧ Settles 2 false StopReturns s := by
  obtain ⟨s, hr, hs⟩ := TransitionSystem.exists_reachable_of_run (M := soundSystem 2 false)
    (s := create 2) (w := stopWhileExecuting.dropLast)
    (p := fun s => s.callers 0 = .join true (.finish true) ∧ s.lifecycleMutex = none ∧
      s.started = true ∧ s.stats.succeeded = 1 ∧ s.stats.cancelled = 1 ∧ s.stats.accepted = 2)
    ⟨by decide, rfl⟩ (by decide +kernel)
  obtain ⟨hall, hsound⟩ := accounting_contract 2 false
  exact ⟨s, by simpa using hs, (hall s hr.of_restrict).1, (hall s hr.of_restrict).2, hsound s hr⟩

/-- The steps in which allocations succeed. -/
def allocates : DispatcherEvent → Bool
  | .caller _ (.stopCancel allocated) => allocated
  | _ => true

/-- A run in which `driver->control` calls `stop`, up to the step by which `stop` returns: thread
`1` is the worker's own, and cannot join itself. -/
def stopInControl : List DispatcherEvent :=
  let request : DeviceControlRequest :=
    { requestId := lit "r", deviceId := lit "d", command := lit "c" }
  ([.call .start, .start true, .call (.submit request none), .submitCount, .submitCheck,
    .submitLock, .submitResolve true, .submitPush 0, .submitRecord] :
    List CallerEvent).map (.caller 0) ++
  ([.pop 1, .countWait, .resolve true, .deadline 1, .recheck 2, .call] :
    List WorkerEvent).map .worker ++
  ([.call .stop, .stopLock, .stopClose, .stopCancel true, .stopDeliver, .stopFinish, .joinLock,
    .joinWait, .joinWorker false] : List CallerEvent).map (.caller 1)

/-- The event is a step of thread `u`. -/
def isStepOf (u : ThreadId) : DispatcherEvent → Bool
  | .caller t _ => t == u
  | .worker _ => false

/-- A thread that takes no step stays where it is. -/
theorem callers_of_run {M : TransitionSystem Dispatcher DispatcherEvent}
    (hM : ∀ s e s', M.step s e = some s' → s.step gates e = some s') {u : ThreadId}
    {w : List DispatcherEvent} (hw : M.run s w = some s') (hu : ∀ e ∈ w, isStepOf u e = false) :
    s'.callers u = s.callers u := by
  induction w generalizing s with
  | nil =>
    obtain rfl := Option.some.inj hw
    rfl
  | cons e w ih =>
    obtain ⟨s₁, hstep, hrest⟩ := Option.bind_eq_some_iff.mp hw
    rw [ih hrest fun e' he' => hu e' (List.mem_cons_of_mem _ he')]
    cases step_effect (hM _ _ _ hstep) with
    | caller he =>
      exact he.other (Ne.symm (beq_eq_false_iff_ne.mp (hu _ List.mem_cons_self)))
    | worker he => rw [he.frame.1]

/-- That `stop` returns with one request accepted and none finished. -/
theorem accepted_ne_finished_stopInControl : ¬∀ capacity gates s,
    ((dispatcherSystem capacity gates).restrict fun _ e => allocates e = true).Reachable s →
      ∀ t e s', (dispatcherSystem capacity gates).step s (.caller t e) = some s' →
        s.started = true → StopReturns s s' t → (∀ u, (s'.callers u).isSubmitting = false) →
        s'.stats.accepted = s'.stats.finished := by
  intro h
  let M := (dispatcherSystem 1 false).restrict fun _ e => allocates e = true
  obtain ⟨s, hrun⟩ := Option.isSome_iff_exists.mp
    (show (M.run (create 1) stopInControl).isSome = true by decide +kernel)
  have hreach : M.Reachable s := TransitionSystem.reachable_of_run ⟨by decide, rfl⟩ hrun
  have htest : (M.run (create 1) stopInControl).any (fun s =>
      s.callers 0 = .idle ∧ s.callers 1 = .join true (.finish false) ∧ s.lifecycleMutex = none ∧
      s.started = true ∧ s.stats.accepted = 1 ∧ s.stats.finished = 0) = true := by decide +kernel
  rw [hrun] at htest
  obtain ⟨hfirst, hpc, hm, hstarted, haccepted, hfinished⟩ : s.callers 0 = .idle ∧
    s.callers 1 = .join true (.finish false) ∧ s.lifecycleMutex = none ∧ s.started = true ∧
    s.stats.accepted = 1 ∧ s.stats.finished = 0 := by simpa using htest
  -- nobody is in `submit`: the first two threads are idle and no other has taken a step
  have hnone : ∀ u, (Function.update s.callers 1 .idle u).isSubmitting = false := by
    intro u
    by_cases hself : u = 1
    · rw [hself, Function.update_self]
      rfl
    rw [Function.update_of_ne hself]
    by_cases hzero : u = 0
    · rw [hzero, hfirst]
      rfl
    · have hM : ∀ s e s', M.step s e = some s' → s.step false e = some s' :=
        fun _ _ _ hstep => (TransitionSystem.restrict_step.mp hstep).2
      have hother : ∀ e ∈ stopInControl, isStepOf u e = false := by
        simp [stopInControl, isStepOf, Ne.symm hself, Ne.symm hzero]
      rw [callers_of_run hM hrun hother]
      rfl
  have heq : s.stats.accepted = s.stats.finished := h 1 false s hreach 1 .joinFinish
    { s.goto 1 .idle with joinInProgress := false, joined := s.joined || false }
    (by simp [dispatcherSystem, step, stepCaller, hpc, stepJoin, hm]) hstarted
    ⟨_, hpc, by simp⟩ hnone
  omega

/-! ### Snapshots -/

/-- What every result of `stats` satisfies. -/
structure Snapshot (s : Dispatcher) : Prop where
  submitted : s.stats.accepted ≤ s.stats.submitted
  /-- One finished request may not be counted as accepted yet: that of the `submit` call which has
  put it into the queue and is about to count it. -/
  finished : s.stats.finished ≤ s.stats.accepted ∨
    (s.stats.finished = s.stats.accepted + 1 ∧ ∃ t sub, s.callers t = .submit sub (.record .accepted))

/-- Only the holder of the lifecycle mutex is about to count an acceptance, so no more than one
request is in between. -/
theorem snapshot {capacity : ℕ} (hr : (dispatcherSystem capacity gates).Reachable s) :
    Snapshot s := by
  have h := accounting hr
  refine ⟨?_, ?_⟩
  · obtain ⟨n, -, heq⟩ := h.submitted
    unfold ControlStats.resolved at heq
    omega
  · obtain ⟨n, htally, heq⟩ := h.accepted
    obtain ⟨m, -, hfinished⟩ := h.finished
    have hout : ∀ c : Caller, c.holdsLifecycle = false → c.records .accepted = 0 := by
      rintro (_ | _ | ⟨sub, pc⟩ | _ | _) hc
      case submit => cases pc <;> first | rfl | cases hc
      all_goals rfl
    have hn := htally.eq_of_guarded (invariant hr).locking.mutex hout
    cases howner : s.lifecycleMutex with
    | none =>
      rw [howner] at hn
      have hzero : n = 0 := hn
      left
      omega
    | some t =>
      rw [howner] at hn
      have hweight : n = (s.callers t).records .accepted := hn
      by_cases hrec : ∃ sub, s.callers t = .submit sub (.record .accepted)
      · obtain ⟨sub, hpc⟩ := hrec
        rw [hpc] at hweight
        have hone : n = 1 := hweight
        by_cases hle : s.stats.finished ≤ s.stats.accepted
        · exact Or.inl hle
        · exact Or.inr ⟨by omega, t, sub, hpc⟩
      · have hzero : (s.callers t).records .accepted = 0 := by
          cases hpc : s.callers t with
          | submit sub pc =>
            cases pc with
            | record result =>
              show (if result = .accepted then 1 else 0) = 0
              rw [if_neg]
              rintro rfl
              exact hrec ⟨sub, hpc⟩
            | _ => rfl
          | _ => rfl
        left
        omega

/-- A run in which the worker finishes a request before `submit` has counted it as accepted. -/
def finishedFirst : List DispatcherEvent :=
  let request : DeviceControlRequest :=
    { requestId := lit "r", deviceId := lit "d", command := lit "c" }
  ([.call .start, .start true, .call (.submit request none), .submitCount, .submitCheck,
    .submitLock, .submitResolve true, .submitPush 0] : List CallerEvent).map (.caller 0) ++
  ([.pop 1, .countWait, .resolve true, .deadline 1, .recheck 2, .call,
    .driverReturn { requestId := [], status := .succeeded } 3, .unlock, .finish 4, .count] :
    List WorkerEvent).map .worker

/-- In that run a snapshot has one finished request and none accepted. -/
theorem finished_not_le_accepted :
    ¬∀ capacity gates s, (dispatcherSystem capacity gates).Reachable s →
      s.stats.finished ≤ s.stats.accepted ∧ s.stats.accepted ≤ s.stats.submitted := by
  intro h
  obtain ⟨s, hr, hs⟩ := TransitionSystem.exists_reachable_of_run
    (M := dispatcherSystem 1 false) (s := create 1) (w := finishedFirst)
    (p := fun s => s.stats.finished = 1 ∧ s.stats.accepted = 0) ⟨by decide, rfl⟩
    (by decide +kernel)
  obtain ⟨hfinished, haccepted⟩ : s.stats.finished = 1 ∧ s.stats.accepted = 0 := by simpa using hs
  have hle := (h 1 false s hr).1
  omega

/-- The bound holds there, with the request in between. -/
theorem snapshot_finishedFirst :
    ∃ s, s.stats.finished = s.stats.accepted + 1 ∧ Snapshot s := by
  obtain ⟨s, hr, hs⟩ := TransitionSystem.exists_reachable_of_run
    (M := dispatcherSystem 1 false) (s := create 1) (w := finishedFirst)
    (p := fun s => s.stats.finished = s.stats.accepted + 1) ⟨by decide, rfl⟩ (by decide +kernel)
  exact ⟨s, by simpa using hs, snapshot hr⟩

end Dispatcher

end MiniGateway
