/-
  The counters of the dispatcher balance.

  `ControlStats` and the queue's own counters are raised under different mutexes, so between two of
  them lies whatever a thread has done under the first and not yet under the second.  Each equation
  of `Accounting` names what lies between as a tally over the threads; where no thread is at such a
  place the tally is zero and the counters agree.
-/
import MiniGateway.Dispatcher.Joining
import MiniGateway.Tally

namespace MiniGateway

namespace ControlStats

/-- The `submit` calls whose result has been counted. -/
def resolved (s : ControlStats) : ℕ :=
  s.accepted + s.queueFull + s.unknownDevice + s.invalidRequests + s.stopping

/-- The requests whose outcome has been counted. -/
def finished (s : ControlStats) : ℕ :=
  s.succeeded + s.unsupported + s.invalidArgument + s.timeouts + s.cancelled + s.failed

/-- `submit` counts each result once, under the counter of that result. -/
theorem countSubmit_spec (s : ControlStats) (result : ControlSubmitResult) :
    (s.countSubmit result).resolved = s.resolved + 1 ∧
      (s.countSubmit result).finished = s.finished ∧
      (s.countSubmit result).submitted = s.submitted ∧
      (s.countSubmit result).accepted = s.accepted + (if result = .accepted then 1 else 0) ∧
      (s.countSubmit result).queueFull =
        s.queueFull + (if result = .queueFull then 1 else 0) := by
  cases result <;> refine ⟨?_, rfl, rfl, rfl, rfl⟩ <;> simp only [resolved, countSubmit] <;> omega

/-- `complete` counts each outcome once. -/
theorem countOutcome_spec (s : ControlStats) (status : DeviceControlStatus) :
    (s.countOutcome status).finished = s.finished + 1 ∧
      (s.countOutcome status).resolved = s.resolved ∧
      (s.countOutcome status).submitted = s.submitted ∧
      (s.countOutcome status).accepted = s.accepted ∧
      (s.countOutcome status).queueFull = s.queueFull := by
  cases status <;> refine ⟨?_, rfl, rfl, rfl, rfl⟩ <;> simp only [finished, countOutcome] <;> omega

theorem countOutcome_accepted (s : ControlStats) (status : DeviceControlStatus) :
    (s.countOutcome status).accepted = s.accepted := (s.countOutcome_spec status).2.2.2.1

theorem countOutcome_queueFull (s : ControlStats) (status : DeviceControlStatus) :
    (s.countOutcome status).queueFull = s.queueFull := (s.countOutcome_spec status).2.2.2.2

/-- Counting an outcome takes one away from what is still to be counted. -/
theorem countOutcome_balance {s : ControlStats} {accepted queued held held' n n' : ℕ}
    (status : DeviceControlStatus) (h : accepted = s.finished + queued + held + n)
    (hone : held + n = held' + n' + 1) :
    accepted = (s.countOutcome status).finished + queued + held' + n' := by
  have hfinished := (s.countOutcome_spec status).1
  omega

theorem SameCounts.spec {a b : ControlStats} (h : a.SameCounts b) :
    a.finished = b.finished ∧ a.resolved = b.resolved ∧ a.submitted = b.submitted ∧
      a.accepted = b.accepted ∧ a.queueFull = b.queueFull := by
  rw [h]
  exact ⟨rfl, rfl, rfl, rfl, rfl⟩

end ControlStats

namespace Caller

/-- The thread is in a `submit` call that has been counted and whose result has not. -/
def unresolved : Caller → ℕ
  | .submit _ .entry => 0
  | .submit _ _ => 1
  | _ => 0

/-- The thread is about to count this result. -/
def records (result : ControlSubmitResult) : Caller → ℕ
  | .submit _ (.record result') => if result' = result then 1 else 0
  | _ => 0

/-- The operations this thread has removed in `request_stop` and not yet counted. -/
def uncounted : Caller → ℕ
  | .requestStop _ (.deliver pending) => pending.length
  | .requestStop _ (.invoke _ pending) => pending.length
  | .requestStop _ (.callback _ pending) => pending.length
  | _ => 0

end Caller

/-- The operation the worker holds and has not yet counted. -/
def Worker.uncounted : Worker → ℕ
  | .executing _ _ (.invoke _) | .executing _ _ (.callback _) => 0
  | .executing _ _ _ => 1
  | _ => 0

namespace Dispatcher

variable {gates : Bool} {s s' : Dispatcher}

/-! ### The equations -/

/-- Between `submitted` and the results: the calls that have no result yet. -/
def SubmitBalance (s : Dispatcher) : Prop :=
  ∃ n, Tally Caller.unresolved s.callers n ∧ s.stats.submitted = s.stats.resolved + n

/-- Between the queue's count of a result and that of `submit`: the call that has just pushed. -/
def PushBalance (result : ControlSubmitResult) (queued counted : ℕ) (s : Dispatcher) : Prop :=
  ∃ n, Tally (Caller.records result) s.callers n ∧ queued = counted + n

/-- Between the accepted requests and the outcomes: what is queued, what the worker holds, and what
`request_stop` has removed. -/
def OutcomeBalance (s : Dispatcher) : Prop :=
  ∃ n, Tally Caller.uncounted s.callers n ∧
    s.queue.accepted = s.stats.finished + s.queue.queue.length + s.worker.uncounted + n

/-- The counters of the dispatcher. -/
structure Accounting (s : Dispatcher) : Prop where
  submitted : SubmitBalance s
  accepted : PushBalance .accepted s.queue.accepted s.stats.accepted s
  queueFull : PushBalance .queueFull s.queue.rejectedFull s.stats.queueFull s
  finished : OutcomeBalance s
  popped : s.queue.accepted =
    s.history.taken.length + s.queue.cancelled + s.queue.queue.length
  bounded : s.queue.Bounded

theorem Accounting.create (capacity : ℕ) : Accounting (Dispatcher.create capacity) where
  submitted := ⟨0, .zero fun _ => rfl, rfl⟩
  accepted := ⟨0, .zero fun _ => rfl, rfl⟩
  queueFull := ⟨0, .zero fun _ => rfl, rfl⟩
  finished := ⟨0, .zero fun _ => rfl, rfl⟩
  popped := rfl
  bounded := ⟨le_rfl, Nat.zero_le _⟩

private theorem submitBalance_caller {t : ThreadId} {e : CallerEvent} (h : SubmitBalance s)
    (he : CallerEffect s t e s') : SubmitBalance s' := by
  obtain ⟨n, htally, heq⟩ := h
  cases he with
  | submitCount hpc =>
    refine ⟨n + 1, htally.enter (by rw [hpc]; rfl), ?_⟩
    show s.stats.submitted + 1 = s.stats.resolved + (n + 1)
    omega
  | @submitInvalid sub hpc hv =>
    obtain ⟨m, rfl, hleft⟩ := htally.leave (t := t) (p := .idle) (by rw [hpc]; rfl)
    obtain ⟨hresolved, -, hsubmitted, -⟩ := s.stats.countSubmit_spec .invalidRequest
    refine ⟨m, hleft, ?_⟩
    show (s.stats.countSubmit _).submitted = (s.stats.countSubmit _).resolved + m
    omega
  | @submitRecord sub result hpc =>
    obtain ⟨m, rfl, hleft⟩ := htally.leave (t := t) (p := .idle) (by rw [hpc]; rfl)
    obtain ⟨hresolved, -, hsubmitted, -⟩ := s.stats.countSubmit_spec result
    refine ⟨m, hleft, ?_⟩
    show (s.stats.countSubmit _).submitted = (s.stats.countSubmit _).resolved + m
    omega
  | @stopSkip inStop op pending hpc hc =>
    obtain ⟨-, hresolved, hsubmitted, -⟩ :=
      s.stats.countOutcome_spec (cancelledResult op.request).status
    exact ⟨n, htally.move (by rw [hpc]; rfl), (hsubmitted.trans heq).trans (by rw [hresolved])⟩
  | @stopCount inStop op pending hpc hc =>
    obtain ⟨-, hresolved, hsubmitted, -⟩ :=
      s.stats.countOutcome_spec (cancelledResult op.request).status
    exact ⟨n, htally.move (by rw [hpc]; rfl), (hsubmitted.trans heq).trans (by rw [hresolved])⟩
  | @stopAgain inStop hpc _ _ => exact ⟨n, htally.move (by rw [hpc]; cases inStop <;> rfl), heq⟩
  | @stopFinish inStop hpc _ => exact ⟨n, htally.move (by rw [hpc]; cases inStop <;> rfl), heq⟩
  | _ hpc => exact ⟨n, htally.move (by rw [hpc]; rfl), heq⟩

/-- A step that touches neither of the two counters nor brings a thread to its record of the
result. -/
private theorem PushBalance.move {result : ControlSubmitResult} {queued counted : ℕ}
    {t : ThreadId} {c : Caller} (h : PushBalance result queued counted s)
    (hcallers : s'.callers = Function.update s.callers t c)
    (hc : c.records result = (s.callers t).records result) : PushBalance result queued counted s' := by
  obtain ⟨n, htally, heq⟩ := h
  exact ⟨n, by rw [hcallers]; exact htally.move hc, heq⟩

/-- The queue counts the result of the push. -/
private theorem PushBalance.enter {result : ControlSubmitResult} {queued counted : ℕ}
    {t : ThreadId} {c : Caller} (h : PushBalance result queued counted s)
    (hcallers : s'.callers = Function.update s.callers t c)
    (hc : c.records result = (s.callers t).records result + 1) :
    PushBalance result (queued + 1) counted s' := by
  obtain ⟨n, htally, heq⟩ := h
  exact ⟨n + 1, by rw [hcallers]; exact htally.enter hc, by omega⟩

/-- `submit` counts the result that it returns. -/
private theorem PushBalance.record {result result' : ControlSubmitResult} {queued counted : ℕ}
    {t : ThreadId} {sub : Submission} (h : PushBalance result queued counted s)
    (hcallers : s'.callers = Function.update s.callers t .idle)
    (hpc : s.callers t = .submit sub (.record result')) :
    PushBalance result queued (counted + if result' = result then 1 else 0) s' := by
  obtain ⟨n, htally, heq⟩ := h
  by_cases hresult : result' = result
  · obtain ⟨m, rfl, hleft⟩ := htally.leave (t := t) (p := .idle)
      (by rw [hpc]; simp [Caller.records, hresult])
    refine ⟨m, by rw [hcallers]; exact hleft, ?_⟩
    rw [if_pos hresult]
    omega
  · refine ⟨n, ?_, by rw [if_neg hresult]; exact heq⟩
    rw [hcallers]
    exact htally.move (by rw [hpc]; simp [Caller.records, hresult])

private theorem pushBalance_caller {t : ThreadId} {e : CallerEvent}
    (haccepted : PushBalance .accepted s.queue.accepted s.stats.accepted s)
    (hfull : PushBalance .queueFull s.queue.rejectedFull s.stats.queueFull s)
    (he : CallerEffect s t e s') :
    PushBalance .accepted s'.queue.accepted s'.stats.accepted s' ∧
      PushBalance .queueFull s'.queue.rejectedFull s'.stats.queueFull s' := by
  cases he with
  | @submitAccepted sub now hpc hpush =>
    obtain ⟨-, hacc, hrej⟩ | ⟨hres, -⟩ | ⟨hres, -⟩ := s.queue.tryPush_counts (sub.operation now)
    · rw [hacc, hrej]
      exact ⟨haccepted.enter rfl (by rw [hpc]; rfl), hfull.move rfl (by rw [hpc]; rfl)⟩
    · rw [hpush] at hres
      cases hres
    · rw [hpush] at hres
      cases hres
  | @submitRejected sub now hpc hpush =>
    obtain ⟨hres, -⟩ | ⟨hres, hacc, hrej⟩ | ⟨hres, hacc, hrej⟩ :=
      s.queue.tryPush_counts (sub.operation now)
    · exact absurd hres hpush
    · rw [hacc, hrej, hres]
      exact ⟨haccepted.move rfl (by rw [hpc]; rfl), hfull.enter rfl (by rw [hpc]; rfl)⟩
    · rw [hacc, hrej, hres]
      exact ⟨haccepted.move rfl (by rw [hpc]; rfl), hfull.move rfl (by rw [hpc]; rfl)⟩
  | @submitRecord sub result hpc =>
    obtain ⟨-, -, -, hacc, hqueue⟩ := s.stats.countSubmit_spec result
    rw [show (s.stats.countSubmit result).accepted = _ from hacc,
      show (s.stats.countSubmit result).queueFull = _ from hqueue]
    exact ⟨haccepted.record rfl hpc, hfull.record rfl hpc⟩
  | submitInvalid hpc _ =>
    exact ⟨haccepted.move rfl (by rw [hpc]; rfl), hfull.move rfl (by rw [hpc]; rfl)⟩
  | @stopCancel inStop allocated hpc =>
    obtain ⟨-, hacc, hrej, -⟩ := s.queue.cancelPending_counts allocated
    rw [show (s.queue.cancelPending allocated).2.accepted = _ from hacc,
      show (s.queue.cancelPending allocated).2.rejectedFull = _ from hrej]
    exact ⟨haccepted.move rfl (by rw [hpc]; rfl), hfull.move rfl (by rw [hpc]; rfl)⟩
  | @stopSkip inStop op pending hpc hc =>
    rw [ControlStats.countOutcome_accepted, ControlStats.countOutcome_queueFull]
    exact ⟨haccepted.move rfl (by rw [hpc]; rfl), hfull.move rfl (by rw [hpc]; rfl)⟩
  | @stopCount inStop op pending hpc hc =>
    rw [ControlStats.countOutcome_accepted, ControlStats.countOutcome_queueFull]
    exact ⟨haccepted.move rfl (by rw [hpc]; rfl), hfull.move rfl (by rw [hpc]; rfl)⟩
  | @stopAgain inStop hpc _ _ =>
    exact ⟨haccepted.move rfl (by rw [hpc]; cases inStop <;> rfl),
      hfull.move rfl (by rw [hpc]; cases inStop <;> rfl)⟩
  | @stopFinish inStop hpc _ =>
    exact ⟨haccepted.move rfl (by rw [hpc]; cases inStop <;> rfl),
      hfull.move rfl (by rw [hpc]; cases inStop <;> rfl)⟩
  | _ hpc => exact ⟨haccepted.move rfl (by rw [hpc]; rfl), hfull.move rfl (by rw [hpc]; rfl)⟩

private theorem outcomeBalance_caller {t : ThreadId} {e : CallerEvent} (hs : Stopping s)
    (h : OutcomeBalance s) (he : CallerEffect s t e s') : OutcomeBalance s' := by
  obtain ⟨n, htally, heq⟩ := h
  cases he with
  | started hpc _ hstarted _ =>
    -- no worker yet, so nothing in its hand
    have hworker : s.worker.uncounted = 0 := by
      rw [hs.absent.mpr hstarted]
      rfl
    refine ⟨n, htally.move (by rw [hpc]; rfl), ?_⟩
    show s.queue.accepted = s.stats.finished + s.queue.queue.length + 0 + n
    omega
  | @submitInvalid sub hpc _ =>
    have hfinished := (s.stats.countSubmit_spec .invalidRequest).2.1
    refine ⟨n, htally.move (by rw [hpc]; rfl), ?_⟩
    show s.queue.accepted =
      (s.stats.countSubmit _).finished + s.queue.queue.length + s.worker.uncounted + n
    omega
  | @submitRecord sub result hpc =>
    have hfinished := (s.stats.countSubmit_spec result).2.1
    refine ⟨n, htally.move (by rw [hpc]; rfl), ?_⟩
    show s.queue.accepted =
      (s.stats.countSubmit _).finished + s.queue.queue.length + s.worker.uncounted + n
    omega
  | @submitAccepted sub now hpc hpush =>
    obtain ⟨-, -, -, hqueue, -⟩ | ⟨hne, -⟩ := s.queue.tryPush_cases (sub.operation now)
    · obtain ⟨-, hacc, -⟩ | ⟨hres, -⟩ | ⟨hres, -⟩ := s.queue.tryPush_counts (sub.operation now)
      · have hlength : (s.queue.tryPush (sub.operation now)).2.queue.length =
            s.queue.queue.length + 1 := by
          rw [hqueue, List.length_append]
          rfl
        refine ⟨n, htally.move (by rw [hpc]; rfl), ?_⟩
        show (s.queue.tryPush _).2.accepted = s.stats.finished +
          (s.queue.tryPush _).2.queue.length + s.worker.uncounted + n
        omega
      · rw [hpush] at hres
        cases hres
      · rw [hpush] at hres
        cases hres
    · exact absurd hpush hne
  | @submitRejected sub now hpc hpush =>
    obtain ⟨heq', -⟩ | ⟨-, hqueue, -⟩ := s.queue.tryPush_cases (sub.operation now)
    · exact absurd heq' hpush
    · have hacc : (s.queue.tryPush (sub.operation now)).2.accepted = s.queue.accepted := by
        obtain ⟨hres, -⟩ | ⟨-, hacc, -⟩ | ⟨-, hacc, -⟩ :=
          s.queue.tryPush_counts (sub.operation now)
        · exact absurd hres hpush
        · exact hacc
        · exact hacc
      refine ⟨n, htally.move (by rw [hpc]; rfl), ?_⟩
      show (s.queue.tryPush _).2.accepted = s.stats.finished +
        (s.queue.tryPush _).2.queue.length + s.worker.uncounted + n
      rw [hqueue]
      omega
  | @stopCancel inStop allocated hpc =>
    -- what leaves the queue is now in the hand of this thread
    have hsplit := congrArg List.length (s.queue.cancelPending_split allocated).1
    rw [List.length_append] at hsplit
    have hacc := (s.queue.cancelPending_counts allocated).2.1
    refine ⟨n + (s.queue.cancelPending allocated).1.length,
      htally.update (by rw [hpc]; rfl), ?_⟩
    show (s.queue.cancelPending allocated).2.accepted = s.stats.finished +
      (s.queue.cancelPending allocated).2.queue.length + s.worker.uncounted + _
    omega
  | @stopSkip inStop op pending hpc _ =>
    obtain ⟨m, rfl, hleft⟩ := htally.leave (t := t) (p := .requestStop inStop (.deliver pending))
      (by rw [hpc]; rfl)
    exact ⟨m, hleft, ControlStats.countOutcome_balance _ heq rfl⟩
  | @stopCount inStop op pending hpc _ =>
    obtain ⟨m, rfl, hleft⟩ := htally.leave (t := t) (p := .requestStop inStop (.invoke op pending))
      (by rw [hpc]; rfl)
    exact ⟨m, hleft, ControlStats.countOutcome_balance _ heq rfl⟩
  | @stopAgain inStop hpc _ _ => exact ⟨n, htally.move (by rw [hpc]; cases inStop <;> rfl), heq⟩
  | @stopFinish inStop hpc _ => exact ⟨n, htally.move (by rw [hpc]; cases inStop <;> rfl), heq⟩
  | _ hpc => exact ⟨n, htally.move (by rw [hpc]; rfl), heq⟩

private theorem Accounting.caller {t : ThreadId} {e : CallerEvent} (hs : Stopping s)
    (h : Accounting s) (he : CallerEffect s t e s') : Accounting s' := by
  obtain ⟨haccepted, hfull⟩ := pushBalance_caller h.accepted h.queueFull he
  have hpopped := h.popped
  refine {
    submitted := submitBalance_caller h.submitted he
    accepted := haccepted
    queueFull := hfull
    finished := outcomeBalance_caller hs h.finished he
    popped := ?_
    bounded := ?_ }
  · cases he with
    | @submitAccepted sub now hpc hpush =>
      have hcancelled := s.queue.tryPush_cancelled (sub.operation now)
      obtain ⟨-, -, -, hqueue, -⟩ | ⟨hne, -⟩ := s.queue.tryPush_cases (sub.operation now)
      · obtain ⟨-, hacc, -⟩ | ⟨hres, -⟩ | ⟨hres, -⟩ := s.queue.tryPush_counts (sub.operation now)
        · show (s.queue.tryPush _).2.accepted = s.history.taken.length +
            (s.queue.tryPush _).2.cancelled + (s.queue.tryPush _).2.queue.length
          rw [hqueue, List.length_append, List.length_singleton, hacc, hcancelled]
          omega
        · rw [hpush] at hres
          cases hres
        · rw [hpush] at hres
          cases hres
      · exact absurd hpush hne
    | @submitRejected sub now hpc hpush =>
      have hcancelled := s.queue.tryPush_cancelled (sub.operation now)
      obtain ⟨heq', -⟩ | ⟨-, hqueue, -⟩ := s.queue.tryPush_cases (sub.operation now)
      · exact absurd heq' hpush
      · show (s.queue.tryPush _).2.accepted = s.history.taken.length +
          (s.queue.tryPush _).2.cancelled + (s.queue.tryPush _).2.queue.length
        obtain ⟨hres, -⟩ | ⟨-, hacc, -⟩ | ⟨-, hacc, -⟩ :=
          s.queue.tryPush_counts (sub.operation now)
        · exact absurd hres hpush
        · rw [hqueue, hacc, hcancelled, hpopped]
        · rw [hqueue, hacc, hcancelled, hpopped]
    | @stopCancel inStop allocated hpc =>
      have hsplit := congrArg List.length (s.queue.cancelPending_split allocated).1
      rw [List.length_append] at hsplit
      obtain ⟨hcancelled, hacc, -⟩ := s.queue.cancelPending_counts allocated
      show (s.queue.cancelPending allocated).2.accepted = s.history.taken.length +
        (s.queue.cancelPending allocated).2.cancelled +
        (s.queue.cancelPending allocated).2.queue.length
      omega
    | _ => exact hpopped
  · cases he with
    | submitAccepted _ _ => exact h.bounded.tryPush _
    | submitRejected _ _ => exact h.bounded.tryPush _
    | stopClose _ => exact h.bounded.close
    | stopCancel _ => exact h.bounded.cancelPending _
    | _ => exact h.bounded

/-- Inside `execute` the operation stays uncounted until `complete`. -/
theorem StageMove.uncounted {op : ControlOperation} (es : TimePoint) {stage stage' : Stage}
    {e : WorkerEvent} (h : StageMove gates op stage e stage') :
    (Worker.executing op es stage).uncounted = 1 ∧
      (Worker.executing op es stage').uncounted = 1 := by
  cases h <;> exact ⟨rfl, rfl⟩

private theorem outcomeBalance_worker {e : WorkerEvent} (h : OutcomeBalance s)
    (he : WorkerEffect gates s e s') : OutcomeBalance s' := by
  obtain ⟨n, htally, heq⟩ := h
  rw [← he.frame.1] at htally
  refine ⟨n, htally, ?_⟩
  cases he with
  | @pop op rest now hw hq =>
    have hqueue := congrArg List.length (ControlQueue.waitPop_operation hq).1
    rw [List.length_cons] at hqueue
    rw [hw] at heq
    rw [ControlQueue.waitPop_counts hq]
    show s.queue.accepted = s.stats.finished + rest.queue.length + 1 + n
    simp only [Worker.uncounted] at heq
    omega
  | exit hw _ =>
    rw [hw] at heq
    exact heq
  | @move op es stage stage' e stats hw hmove hstats =>
    obtain ⟨hold, hnew⟩ := StageMove.uncounted es hmove
    rw [hw, hold] at heq
    show s.queue.accepted = stats.finished + s.queue.queue.length +
      (Worker.executing op es stage').uncounted + n
    rw [hnew, hstats.spec.1]
    exact heq
  | call hw =>
    rw [hw] at heq
    exact heq
  | @countSkip op es result hw _ =>
    rw [hw] at heq
    exact ControlStats.countOutcome_balance _ heq (show 1 + n = 0 + n + 1 by omega)
  | @count op es result hw _ =>
    rw [hw] at heq
    exact ControlStats.countOutcome_balance _ heq (show 1 + n = 0 + n + 1 by omega)
  | invoke hw =>
    rw [hw] at heq
    exact heq
  | callbackReturn hw =>
    rw [hw] at heq
    exact heq

/-- What the worker leaves alone among the counters. -/
private theorem WorkerEffect.counts {e : WorkerEvent} (he : WorkerEffect gates s e s') :
    s'.stats.submitted = s.stats.submitted ∧ s'.stats.resolved = s.stats.resolved ∧
      s'.stats.accepted = s.stats.accepted ∧ s'.stats.queueFull = s.stats.queueFull ∧
      s'.queue.accepted = s.queue.accepted ∧ s'.queue.rejectedFull = s.queue.rejectedFull := by
  cases he with
  | pop hw hq =>
    rw [ControlQueue.waitPop_counts hq]
    exact ⟨rfl, rfl, rfl, rfl, rfl, rfl⟩
  | move hw hmove hstats =>
    obtain ⟨-, hresolved, hsubmitted, haccepted, hfull⟩ := hstats.spec
    exact ⟨hsubmitted, hresolved, haccepted, hfull, rfl, rfl⟩
  | @countSkip op es result hw _ =>
    obtain ⟨-, hresolved, hsubmitted, haccepted, hfull⟩ := s.stats.countOutcome_spec result.status
    exact ⟨hsubmitted, hresolved, haccepted, hfull, rfl, rfl⟩
  | @count op es result hw _ =>
    obtain ⟨-, hresolved, hsubmitted, haccepted, hfull⟩ := s.stats.countOutcome_spec result.status
    exact ⟨hsubmitted, hresolved, haccepted, hfull, rfl, rfl⟩
  | _ => exact ⟨rfl, rfl, rfl, rfl, rfl, rfl⟩

private theorem Accounting.worker {e : WorkerEvent} (h : Accounting s)
    (he : WorkerEffect gates s e s') : Accounting s' := by
  obtain ⟨hsubmitted, hresolved, haccepted, hfull, hqaccepted, hqfull⟩ := he.counts
  have hcallers := he.frame.1
  have hpopped := h.popped
  refine {
    submitted := ?_
    accepted := ?_
    queueFull := ?_
    finished := outcomeBalance_worker h.finished he
    popped := ?_
    bounded := ?_ }
  · unfold SubmitBalance
    rw [hcallers, hsubmitted, hresolved]
    exact h.submitted
  · unfold PushBalance
    rw [hcallers, haccepted, hqaccepted]
    exact h.accepted
  · unfold PushBalance
    rw [hcallers, hfull, hqfull]
    exact h.queueFull
  · cases he with
    | @pop op rest now hw hq =>
      have hqueue := congrArg List.length (ControlQueue.waitPop_operation hq).1
      rw [List.length_cons] at hqueue
      rw [ControlQueue.waitPop_counts hq]
      show s.queue.accepted =
        (s.history.taken ++ [op]).length + s.queue.cancelled + rest.queue.length
      rw [List.length_append, List.length_singleton]
      omega
    | _ => exact hpopped
  · cases he with
    | pop hw hq => exact h.bounded.waitPop hq
    | _ => exact h.bounded

/-- **The counters balance** in every reachable state. -/
theorem accounting {capacity : ℕ} (h : (dispatcherSystem capacity gates).Reachable s) :
    Accounting s := by
  apply invariant_of_effects (.create capacity) _ _ h
  · intro s t e s' hinv hi he
    exact hi.caller hinv.stopping he
  · intro s e s' _ hi he
    exact hi.worker he

end Dispatcher

end MiniGateway
