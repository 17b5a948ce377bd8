/-
  The stop barrier of the dispatcher.

  `join_in_progress_` is the right to call `worker_.join()`, held by at most one thread
  (`Joining.owner`); whoever returns from `join` has either used it with success or has seen
  `joined_`, and in both cases the worker has exited and `request_stop` is over.  Then nothing that
  was accepted is still on its way (`Barrier`).
-/
import MiniGateway.Dispatcher.Completion

namespace MiniGateway

/-- The thread has taken the right to call `worker_.join()` and not given it back. -/
def Caller.isJoining : Caller → Bool
  | .join _ .worker | .join _ (.finish _) => true
  | _ => false

/-- The event is a successful `worker_.join()`. -/
def DispatcherEvent.isJoined : DispatcherEvent → Bool
  | caller _ (.joinWorker ok) => ok
  | _ => false

namespace Dispatcher

variable {gates : Bool} {s s' : Dispatcher}

/-! ### Nothing is left behind -/

/-- Every accepted operation has been dealt with once the worker has exited and `request_stop` is
over. -/
theorem Invariant.all_done (h : Invariant s) (hw : s.worker = .exited)
    (hc : s.stopRequestComplete = true) :
    s.history.accepted = s.history.executedDone ++ s.history.cancelledDone := by
  have hnone : s.history.stopper = none := by
    by_contra hne
    rw [(h.stopping.stopper hne).2] at hc
    cases hc
  have hidle : s.stopCaller = .idle := by simp [stopCaller, hnone]
  have htaken := h.worker.taken
  have hcancelled := h.stop.cancelled
  rw [hw] at htaken
  rw [hidle] at hcancelled
  simp only [Worker.inHand, Caller.inHand, List.append_nil] at htaken hcancelled
  rw [h.fifo.order, (h.stopping.exited hw).1, List.append_nil, htaken, hcancelled]

/-- What a caller of `join` or `stop` finds when the call returns. -/
structure Barrier (s : Dispatcher) : Prop where
  worker : s.worker = .exited
  /-- The completion of every accepted request has returned, or there was none to call. -/
  completed : ∀ op ∈ s.history.accepted,
    op ∈ s.history.executedDone ∨ op ∈ s.history.cancelledDone
  empty : s.queue.queue = []
  closed : s.queue.closed = true

theorem Invariant.barrier (h : Invariant s) (hw : s.worker = .exited)
    (hc : s.stopRequestComplete = true) : Barrier s where
  worker := hw
  completed op hop := by
    rw [h.all_done hw hc] at hop
    exact List.mem_append.mp hop
  empty := (h.stopping.exited hw).1
  closed := (h.stopping.exited hw).2

/-! ### The right to join -/

/-- Who may join, and what those who have joined know. -/
structure Joining (s : Dispatcher) : Prop where
  owner : ∃ owner, Token.Guarded Caller.isJoining owner s.callers ∧
    s.joinInProgress = owner.isSome
  /-- A thread that waits in `join` has found `started_` set. -/
  started : ∀ t inStop pc, s.callers t = .join inStop pc → pc ≠ .lock → s.started = true
  joining : ∀ t, (s.callers t).isJoining = true →
    s.stopRequestComplete = true ∧ s.joined = false
  succeeded : ∀ t inStop, s.callers t = .join inStop (.finish true) → s.worker = .exited
  joined : s.joined = true → s.worker = .exited ∧ s.stopRequestComplete = true

theorem Joining.create (capacity : ℕ) : Joining (Dispatcher.create capacity) where
  owner := ⟨none, Token.guarded_none fun _ => rfl, rfl⟩
  started _ _ _ h := by cases h
  joining _ h := by cases h
  succeeded _ _ h := by cases h
  joined h := by cases h

/-- A thread outside `worker_.join()` moves, not into it. -/
private theorem Joining.move (h : Joining s) {t : ThreadId} {c : Caller}
    (hcallers : s'.callers = Function.update s.callers t c)
    (hout : (s.callers t).isJoining = false) (hc : c.isJoining = false)
    (hwait : ∀ inStop pc, c = .join inStop pc → pc ≠ .lock → s.started = true)
    (hprogress : s'.joinInProgress = s.joinInProgress) (hjoined : s'.joined = s.joined)
    (hstarted : s.started = true → s'.started = true)
    (hcomplete : s.stopRequestComplete = true → s'.stopRequestComplete = true)
    (hworker : s.worker = .exited → s'.worker = .exited) : Joining s' := by
  -- whoever was in `worker_.join()` still is, and nobody else
  have hsame : ∀ u, (s'.callers u).isJoining = true → s'.callers u = s.callers u := by
    intro u hu
    rw [hcallers] at hu ⊢
    by_cases hut : u = t
    · subst hut
      rw [Function.update_self, hc] at hu
      cases hu
    · exact Function.update_of_ne hut _ _
  refine ⟨?_, ?_, ?_, ?_, ?_⟩
  · obtain ⟨owner, hguard, hsome⟩ := h.owner
    refine ⟨owner, ?_, hprogress.trans hsome⟩
    rw [hcallers]
    exact hguard.move (hc.trans hout.symm)
  · intro u inStop pc hu hpc
    rw [hcallers] at hu
    by_cases hut : u = t
    · subst hut
      rw [Function.update_self] at hu
      exact hstarted (hwait inStop pc hu hpc)
    · rw [Function.update_of_ne hut] at hu
      exact hstarted (h.started u inStop pc hu hpc)
  · intro u hu
    rw [hsame u hu] at hu
    obtain ⟨hc', hj⟩ := h.joining u hu
    exact ⟨hcomplete hc', hjoined.trans hj⟩
  · intro u inStop hu
    rw [hsame u (by rw [hu]; rfl)] at hu
    exact hworker (h.succeeded u inStop hu)
  · intro hj
    rw [hjoined] at hj
    exact ⟨hworker (h.joined hj).1, hcomplete (h.joined hj).2⟩

private theorem Joining.caller {t : ThreadId} {e : CallerEvent} (hs : Stopping s) (h : Joining s)
    (he : CallerEffect s t e s') : Joining s' := by
  cases he with
  | started hpc _ hstarted _ =>
    -- nobody has joined a worker that has not been launched
    have hw := hs.absent.mpr hstarted
    exact h.move rfl (by rw [hpc]; rfl) rfl nofun rfl rfl (fun _ => rfl) id
      (fun hexited => by rw [hw] at hexited; cases hexited)
  | @stopAgain inStop hpc _ _ =>
    refine h.move rfl (by rw [hpc]; rfl) (by cases inStop <;> rfl) ?_ rfl rfl id id id
    rintro inStop' pc heq hne
    cases inStop <;> cases heq
    exact absurd rfl hne
  | @stopFinish inStop hpc _ =>
    refine h.move rfl (by rw [hpc]; rfl) (by cases inStop <;> rfl) ?_ rfl rfl id (fun _ => rfl) id
    rintro inStop' pc heq hne
    cases inStop <;> cases heq
    exact absurd rfl hne
  | joinLock hpc _ hstarted =>
    exact h.move rfl (by rw [hpc]; rfl) rfl (fun _ _ _ _ => hstarted) rfl rfl id id id
  | callJoin hpc =>
    refine h.move rfl (by rw [hpc]; rfl) rfl ?_ rfl rfl id id id
    rintro inStop pc ⟨⟩ hne
    exact absurd rfl hne
  | @joinFirst inStop hpc hm hcomplete hj hp =>
    obtain ⟨owner, hguard, hsome⟩ := h.owner
    have hnone : owner = none := by
      rw [hp] at hsome
      exact Option.isNone_iff_eq_none.mp (by simpa using hsome.symm)
    subst hnone
    refine ⟨⟨some t, hguard.acquire rfl, rfl⟩, ?_, fun u _ => ⟨hcomplete, hj⟩, ?_, h.joined⟩
    · intro u inStop' pc hu hpc'
      by_cases hut : u = t
      · subst hut
        exact h.started u inStop .wait hpc (by simp)
      · exact h.started u inStop' pc (by simpa [Function.update_of_ne hut] using hu) hpc'
    · intro u inStop' hu
      by_cases hut : u = t
      · subst hut
        simp at hu
      · exact h.succeeded u inStop' (by simpa [Function.update_of_ne hut] using hu)
  | @joinWorker inStop ok hpc hw =>
    obtain ⟨owner, hguard, hsome⟩ := h.owner
    have hin := h.joining t (by rw [hpc]; rfl)
    refine ⟨⟨owner, hguard.move (by rw [hpc]; rfl), hsome⟩, ?_, fun u _ => hin, ?_, h.joined⟩
    · intro u inStop' pc hu hpc'
      by_cases hut : u = t
      · subst hut
        exact h.started u inStop .worker hpc (by simp)
      · exact h.started u inStop' pc (by simpa [Function.update_of_ne hut] using hu) hpc'
    · intro u inStop' hu
      by_cases hut : u = t
      · subst hut
        simp only [goto_callers, Function.update_self, Caller.join.injEq, JoinPc.finish.injEq]
          at hu
        exact hw hu.2
      · exact h.succeeded u inStop' (by simpa [Function.update_of_ne hut] using hu)
  | @joinFinish inStop ok hpc hm =>
    obtain ⟨owner, hguard, hsome⟩ := h.owner
    have hin := h.joining t (by rw [hpc]; rfl)
    have hout : ∀ u, (Function.update s.callers t .idle u).isJoining = false := by
      intro u
      have := (hguard.release (t := t) (by rw [hpc]; rfl) (p := Caller.idle) rfl).outside u
      exact this
    refine ⟨⟨none, Token.guarded_none hout, rfl⟩, ?_, ?_, ?_, ?_⟩
    · intro u inStop' pc hu hpc'
      by_cases hut : u = t
      · subst hut
        simp at hu
      · exact h.started u inStop' pc (by simpa [Function.update_of_ne hut] using hu) hpc'
    · intro u hu
      rw [show ({ s.goto t .idle with joinInProgress := false, joined := s.joined || ok }
        : Dispatcher).callers u = Function.update s.callers t .idle u from rfl, hout u] at hu
      cases hu
    · intro u inStop' hu
      have := hout u
      rw [show Function.update s.callers t .idle u = .join inStop' (.finish true) from hu] at this
      cases this
    · intro hj
      rcases Bool.or_eq_true_iff.mp hj with hj | rfl
      · exact h.joined hj
      · exact ⟨h.succeeded t inStop hpc, hin.1⟩
  | _ hpc => exact h.move rfl (by rw [hpc]; rfl) rfl nofun rfl rfl id id id

private theorem Joining.worker {e : WorkerEvent} (h : Joining s) (he : WorkerEffect gates s e s') :
    Joining s' := by
  -- an exited worker takes no steps
  have hrunning : s.worker ≠ .exited := by cases he <;> simp [*]
  have hjoined : s.joined = false := by
    by_contra hj
    exact hrunning (h.joined (by simpa using hj)).1
  have hframe : s'.joinInProgress = s.joinInProgress ∧ s'.joined = s.joined := by
    cases he <;> exact ⟨rfl, rfl⟩
  obtain ⟨hcallers, -, hstarted, -, hcomplete, -, -⟩ := he.frame
  refine ⟨?_, ?_, ?_, ?_, ?_⟩
  · rw [hcallers, hframe.1]
    exact h.owner
  · rw [hcallers, hstarted]
    exact h.started
  · rw [hcallers, hcomplete, hframe.2]
    exact h.joining
  · rw [hcallers]
    intro t inStop ht
    exact absurd (h.succeeded t inStop ht) hrunning
  · rw [hframe.2, hjoined]
    nofun

/-- `Joining` holds of every reachable state. -/
theorem joining {capacity : ℕ} (h : (dispatcherSystem capacity gates).Reachable s) : Joining s := by
  apply invariant_of_effects (.create capacity) _ _ h
  · intro s t e s' hinv hi he
    exact hi.caller hinv.stopping he
  · intro s e s' _ hi he
    exact hi.worker he

/-! ### What `join` and `stop` promise -/

/-- A `join` call, or the one inside `stop`, returns without an exception by the step from `s` to
`s'`. -/
def JoinReturns (s s' : Dispatcher) (t : ThreadId) : Prop :=
  ∃ inStop pc, s.callers t = .join inStop pc ∧ pc ≠ .finish false ∧ s'.callers t = .idle

theorem JoinReturns.barrier {capacity : ℕ} {t : ThreadId} {e : CallerEvent}
    (hr : (dispatcherSystem capacity gates).Reachable s) (hstarted : s.started = true)
    (hstep : s.stepCaller t e = some s') (h : JoinReturns s s' t) : Barrier s' ∧
      (s'.joined = true) := by
  have hr' : (dispatcherSystem capacity gates).Reachable s' := hr.step (l := .caller t e) hstep
  have hinv := invariant hr'
  suffices hj : s'.joined = true by
    obtain ⟨hw, hc⟩ := (joining hr').joined hj
    exact ⟨hinv.barrier hw hc, hj⟩
  obtain ⟨inStop, pc, hpc, hne, hidle⟩ := h
  cases stepCaller_effect hstep with
  | joinUnstarted _ _ hunstarted =>
    rw [hstarted] at hunstarted
    cases hunstarted
  | joinAlready _ _ _ hj => exact hj
  | @joinFinish _ ok hpc' hm =>
    rw [hpc] at hpc'
    cases hpc'
    cases ok with
    | true => simp
    | false => exact absurd rfl hne
  | joinLock _ _ _ => simp at hidle
  | joinFirst _ _ _ _ _ => simp at hidle
  | joinWorker _ _ => simp at hidle
  | _ hpc' => rw [hpc] at hpc'; cases hpc'

/-- How often `worker_.join()` has succeeded, by what the threads and `joined_` say. -/
def JoinedOnce (w : List DispatcherEvent) (s : Dispatcher) : Prop :=
  (w.countP DispatcherEvent.isJoined = 0 ∧ s.joined = false ∧
    ∀ t inStop, s.callers t ≠ .join inStop (.finish true)) ∨
  (w.countP DispatcherEvent.isJoined = 1 ∧
    (s.joined = true ∨ ∃ t inStop, s.callers t = .join inStop (.finish true)))

/-- A step that neither enters nor leaves the end of a successful `worker_.join()`. -/
private theorem JoinedOnce.other {w : List DispatcherEvent} {e : DispatcherEvent}
    (h : JoinedOnce w s) (he : e.isJoined = false) (hjoined : s'.joined = s.joined)
    (hcallers : ∀ t inStop, s'.callers t = .join inStop (.finish true) ↔
      s.callers t = .join inStop (.finish true)) : JoinedOnce (w ++ [e]) s' := by
  unfold JoinedOnce
  rw [List.countP_append, List.countP_singleton, he, hjoined]
  simp only [Bool.false_eq_true, if_false, add_zero, ne_eq, hcallers]
  exact h

private theorem JoinedOnce.caller {w : List DispatcherEvent} {t : ThreadId} {e : CallerEvent}
    (hi : Joining s) (h : JoinedOnce w s) (he : CallerEffect s t e s') :
    JoinedOnce (w ++ [.caller t e]) s' := by
  have hother : ∀ c : Caller, (∀ inStop, c ≠ .join inStop (.finish true)) →
      (∀ inStop, s.callers t ≠ .join inStop (.finish true)) → ∀ u inStop,
      Function.update s.callers t c u = .join inStop (.finish true) ↔
        s.callers u = .join inStop (.finish true) := by
    intro c hc ht u inStop
    by_cases hut : u = t
    · subst hut
      rw [Function.update_self]
      exact iff_of_false (hc inStop) (ht inStop)
    · rw [Function.update_of_ne hut]
  cases he with
  | @stopAgain inStop hpc _ _ =>
    exact h.other rfl rfl (hother _ (by cases inStop <;> simp [afterRequestStop]) (by simp [hpc]))
  | @stopFinish inStop hpc _ =>
    exact h.other rfl rfl (hother _ (by cases inStop <;> simp [afterRequestStop]) (by simp [hpc]))
  | @joinWorker inStop ok hpc hw =>
    cases ok with
    | false => exact h.other rfl rfl (hother _ (by simp) (by simp [hpc]))
    | true =>
      -- this thread has the right to join, so no other has used it with success
      have hjoining := hi.joining t (by rw [hpc]; rfl)
      rcases h with ⟨hcount, -, -⟩ | ⟨-, hj | ⟨u, inStop', hu⟩⟩
      · refine Or.inr ⟨?_, Or.inr ⟨t, inStop, by simp⟩⟩
        rw [List.countP_append, hcount]
        rfl
      · rw [hjoining.2] at hj
        cases hj
      · obtain ⟨owner, hguard, -⟩ := hi.owner
        obtain rfl := hguard.unique (t := u) (u := t) (by rw [hu]; rfl) (by rw [hpc]; rfl)
        rw [hpc] at hu
        cases hu
  | @joinFinish inStop ok hpc hm =>
    cases ok with
    | false => exact h.other rfl (by simp) (hother _ (by simp) (by simp [hpc]))
    | true =>
      rcases h with ⟨-, -, hnone⟩ | ⟨hcount, -⟩
      · exact absurd hpc (hnone t inStop)
      · refine Or.inr ⟨?_, Or.inl (by simp)⟩
        rw [List.countP_append, hcount]
        rfl
  | _ hpc => exact h.other rfl rfl (hother _ (by simp) (by simp [hpc]))

theorem joinedOnce {capacity : ℕ} {w : List DispatcherEvent} (hcapacity : 0 < capacity)
    (hw : (dispatcherSystem capacity gates).run (create capacity) w = some s) :
    JoinedOnce w s := by
  have hinit : (dispatcherSystem capacity gates).Init (create capacity) := ⟨hcapacity, rfl⟩
  refine TransitionSystem.run_induction (P := JoinedOnce) ?_ ?_ hw
  · exact Or.inl ⟨rfl, rfl, fun t inStop h => by cases h⟩
  · intro w s e s' hw hi hstep
    have hr := TransitionSystem.reachable_of_run hinit hw
    cases step_effect hstep with
    | caller he => exact hi.caller (joining hr) he
    | worker he =>
      have hcallers := he.frame.1
      refine hi.other rfl (by cases he <;> rfl) fun t inStop => by rw [hcallers]

/-- What the callers of `join` and `stop` may rely on, after the events `w`. -/
structure BarrierContract (capacity : ℕ) (gates : Bool) (w : List DispatcherEvent)
    (s : Dispatcher) : Prop where
  /-- Whoever returns from `join` finds everything done, and `worker_.join()` has succeeded
  exactly once. -/
  returned : ∀ t e s', s.stepCaller t e = some s' → s.started = true → JoinReturns s s' t →
    Barrier s' ∧ (w ++ [DispatcherEvent.caller t e]).countP DispatcherEvent.isJoined = 1
  /-- At most one thread at a time is in `worker_.join()`. -/
  exclusive : ∀ t u inStop inStop', s.callers t = .join inStop .worker →
    s.callers u = .join inStop' .worker → t = u
  atMostOnce : w.countP DispatcherEvent.isJoined ≤ 1
  /-- After a `worker_.join()` that failed, a thread that waits in `join` can call it. -/
  retry : ∀ t inStop s', s.callers t = .join inStop (.finish false) →
    s.stepCaller t .joinFinish = some s' → ∀ u inStop', s.callers u = .join inStop' .wait →
    ∃ s'', s'.stepCaller u .joinWait = some s'' ∧ s''.callers u = .join inStop' .worker
  /-- So can a thread that calls `join` later. -/
  retryLater : ∀ t inStop s', s.callers t = .join inStop (.finish false) →
    s.stepCaller t .joinFinish = some s' → ∀ u, s'.callers u = .idle →
    ∃ s'', (dispatcherSystem capacity gates).run s' [.caller u (.call .join),
      .caller u .joinLock, .caller u .joinWait] = some s'' ∧ s''.callers u = .join false .worker

/-- **`stop` is a completion barrier for every caller**, after every run. -/
theorem barrier_contract {capacity : ℕ} {w : List DispatcherEvent} (hcapacity : 0 < capacity)
    (hw : (dispatcherSystem capacity gates).run (create capacity) w = some s) :
    BarrierContract capacity gates w s := by
  have hinit : (dispatcherSystem capacity gates).Init (create capacity) := ⟨hcapacity, rfl⟩
  have hr := TransitionSystem.reachable_of_run hinit hw
  have hj := joining hr
  -- after a failed `worker_.join()` the mutex is free and nobody has the right to join
  have hfailed : ∀ t inStop s', s.callers t = .join inStop (.finish false) →
      s.stepCaller t .joinFinish = some s' → s'.lifecycleMutex = none ∧ s'.started = true ∧
        s'.stopRequestComplete = true ∧ s'.joined = false ∧ s'.joinInProgress = false ∧
        s'.callers = Function.update s.callers t .idle := by
    intro t inStop s' hpc hstep
    obtain ⟨hcomplete, hjoined⟩ := hj.joining t (by rw [hpc]; rfl)
    have hstarted := hj.started t inStop _ hpc (by simp)
    cases stepCaller_effect hstep with
    | joinFinish hpc' hm =>
      rw [hpc] at hpc'
      cases hpc'
      exact ⟨hm, hstarted, hcomplete, by simpa using hjoined, rfl, rfl⟩
  refine {
    returned := ?_
    exclusive := ?_
    atMostOnce := ?_
    retry := ?_
    retryLater := ?_ }
  · intro t e s' hstep hstarted hret
    obtain ⟨hbarrier, hjoined⟩ := hret.barrier hr hstarted hstep
    refine ⟨hbarrier, ?_⟩
    have hw' : (dispatcherSystem capacity gates).run (create capacity) (w ++ [.caller t e]) =
        some s' := by
      rw [TransitionSystem.run_append, hw]
      show (s.stepCaller t e).bind _ = some s'
      rw [hstep]
      rfl
    rcases joinedOnce hcapacity hw' with ⟨-, hnot, -⟩ | ⟨hcount, -⟩
    · rw [hjoined] at hnot
      cases hnot
    · exact hcount
  · intro t u inStop inStop' ht hu
    obtain ⟨owner, hguard, -⟩ := hj.owner
    exact hguard.unique (by rw [ht]; rfl) (by rw [hu]; rfl)
  · rcases joinedOnce hcapacity hw with ⟨hcount, -⟩ | ⟨hcount, -⟩ <;> rw [hcount]
    exact Nat.zero_le 1
  · intro t inStop s' hpc hstep u inStop' hu
    obtain ⟨hm, -, hcomplete, hjoined, hprogress, hcallers⟩ := hfailed t inStop s' hpc hstep
    have hut : u ≠ t := by
      rintro rfl
      rw [hpc] at hu
      cases hu
    have hu' : s'.callers u = .join inStop' .wait := by rw [hcallers, Function.update_of_ne hut, hu]
    refine ⟨{ s'.goto u (.join inStop' .worker) with joinInProgress := true }, ?_, by simp⟩
    simp [stepCaller, hu', stepJoin, hm, hcomplete, hjoined, hprogress]
  · intro t inStop s' hpc hstep u hu
    obtain ⟨hm, hstarted, hcomplete, hjoined, hprogress, -⟩ := hfailed t inStop s' hpc hstep
    simp [TransitionSystem.run, dispatcherSystem, Dispatcher.step, stepCaller, hu, enter, goto,
      stepJoin, hm, hstarted, hcomplete, hjoined, hprogress]

/-- A run in which `worker_.join()` fails in one thread and succeeds in another. -/
def failedJoin : List DispatcherEvent :=
  let stop (t : ThreadId) : List DispatcherEvent :=
    ([.call .stop, .stopLock] : List CallerEvent).map (.caller t)
  ([.caller 0 (.call .start), .caller 0 (.start true)] : List DispatcherEvent) ++ stop 1 ++
  ([.stopClose, .stopCancel true, .stopDeliver, .stopFinish, .joinLock, .joinWait] :
    List CallerEvent).map (.caller 1) ++
  stop 2 ++ ([.caller 2 .joinLock, .caller 1 (.joinWorker false), .worker .exit,
    .caller 1 .joinFinish, .caller 2 .joinWait, .caller 2 (.joinWorker true)] :
    List DispatcherEvent)

/-- In that run the second thread returns from a barrier. -/
theorem barrier_contract_failedJoin :
    ∃ s, ((dispatcherSystem 1 false).run (create 1) failedJoin = some s ∧
      s.callers 2 = .join true (.finish true)) ∧ BarrierContract 1 false failedJoin s := by
  obtain ⟨s, hs⟩ := Option.isSome_iff_exists.mp
    (show ((dispatcherSystem 1 false).run (create 1) failedJoin).isSome = true by decide +kernel)
  have hpc : ((dispatcherSystem 1 false).run (create 1) failedJoin).any
      (fun s => s.callers 2 = .join true (.finish true)) = true := by decide +kernel
  rw [hs] at hpc
  exact ⟨s, ⟨hs, by simpa using hpc⟩, barrier_contract (by decide) hs⟩

end Dispatcher

end MiniGateway
