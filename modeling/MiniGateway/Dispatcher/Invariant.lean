/-
  The invariants of the dispatcher, one structure for each concern, each preserved by every step.

  * `Locking`: the lifecycle mutex is held by exactly the thread that is inside it, the
    `request_stop` call that set `stopping_` is run by exactly the `stopper`, and nobody is past the
    checks of `submit` while `stopping_` is set.
  * `Stopping`: how `stopping_`, `stop_request_complete_`, the queue's `closed_` and the worker's end
    follow each other.
  * `Ledger`: where every accepted operation is, and which completions have been called.
  * `Tickets`: every `submit` call has its own number, and an operation is in the accepted list
    exactly when its call has returned `Accepted` or is about to.
-/
import MiniGateway.Dispatcher.Cases
import MiniGateway.Token

namespace MiniGateway.Dispatcher

variable {gates : Bool} {s s' : Dispatcher} {e : DispatcherEvent}

/-! ### Frames -/

/-- The worker touches neither the lifecycle fields nor the other threads. -/
theorem WorkerEffect.frame {e : WorkerEvent} (h : WorkerEffect gates s e s') :
    s'.callers = s.callers ∧ s'.lifecycleMutex = s.lifecycleMutex ∧ s'.started = s.started ∧
      s'.stopping = s.stopping ∧ s'.stopRequestComplete = s.stopRequestComplete ∧
      s'.history.stopper = s.history.stopper ∧ s'.queue.closed = s.queue.closed := by
  cases h with
  | pop hw hq => exact ⟨rfl, rfl, rfl, rfl, rfl, rfl, (ControlQueue.waitPop_operation hq).2⟩
  | _ => exact ⟨rfl, rfl, rfl, rfl, rfl, rfl, rfl⟩

/-- A call changes the worker only by launching it. -/
theorem CallerEffect.worker {t : ThreadId} {e : CallerEvent} (h : CallerEffect s t e s') :
    s'.worker = s.worker ∨ (s.started = false ∧ s'.worker = .waiting) := by
  cases h with
  | started _ _ hstarted _ => exact Or.inr ⟨hstarted, rfl⟩
  | _ => exact Or.inl rfl

/-! ### Locks -/

/-- Who holds the lifecycle mutex, who runs the stopping call, and what holding the mutex in
`submit` promises. -/
structure Locking (s : Dispatcher) : Prop where
  mutex : Token.Guarded Caller.holdsLifecycle s.lifecycleMutex s.callers
  stopper : Token.Guarded Caller.isStopping s.history.stopper s.callers
  submitting : ∀ t sub pc, s.callers t = .submit sub pc → pc = .resolve ∨ pc = .push →
    s.started = true ∧ s.stopping = false

theorem Locking.create (capacity : ℕ) : Locking (Dispatcher.create capacity) where
  mutex := Token.guarded_none fun _ => rfl
  stopper := Token.guarded_none fun _ => rfl
  submitting t sub pc h := by cases h

private theorem mutex_caller {t : ThreadId} {e : CallerEvent}
    (hi : Token.Guarded Caller.holdsLifecycle s.lifecycleMutex s.callers)
    (he : CallerEffect s t e s') :
    Token.Guarded Caller.holdsLifecycle s'.lifecycleMutex s'.callers := by
  cases he with
  | submitRefused hpc hm _ => exact (hm ▸ hi).acquire rfl
  | submitLock hpc hm _ _ => exact (hm ▸ hi).acquire rfl
  | stopFirst hpc hm _ => exact (hm ▸ hi).acquire rfl
  | submitRecord hpc => exact hi.release (by rw [hpc]; rfl) rfl
  | stopCancel hpc => exact hi.release (by rw [hpc]; rfl) rfl
  | @stopAgain inStop hpc _ _ => exact hi.move (by rw [hpc]; cases inStop <;> rfl)
  | @stopFinish inStop hpc _ => exact hi.move (by rw [hpc]; cases inStop <;> rfl)
  | _ hpc => exact hi.move (by rw [hpc]; rfl)

private theorem stopper_caller {t : ThreadId} {e : CallerEvent} (hi : Locking s)
    (hs : s.stopping = false → s.history.stopper = none) (he : CallerEffect s t e s') :
    Token.Guarded Caller.isStopping s'.history.stopper s'.callers := by
  cases he with
  | stopFirst hpc _ hstopping => exact (hs hstopping ▸ hi.stopper).acquire rfl
  | @stopFinish inStop hpc _ =>
    exact hi.stopper.release (by rw [hpc]; rfl) (by cases inStop <;> rfl)
  | @stopAgain inStop hpc _ _ => exact hi.stopper.move (by rw [hpc]; cases inStop <;> rfl)
  | _ hpc => exact hi.stopper.move (by rw [hpc]; rfl)

/-- Only the holder of the lifecycle mutex sets `started_` or `stopping_`, so a thread that passed
the checks of `submit` is still right about them. -/
private theorem submitting_caller {t : ThreadId} {e : CallerEvent} (hi : Locking s)
    (he : CallerEffect s t e s') :
    ∀ u sub pc, s'.callers u = .submit sub pc → pc = .resolve ∨ pc = .push →
      s'.started = true ∧ s'.stopping = false := by
  intro u sub pc hu hpc'
  by_cases hut : u = t
  · subst hut
    cases he with
    | submitLock _ _ hstarted hstopping => exact ⟨hstarted, hstopping⟩
    | submitResolved hpc => exact hi.submitting u _ _ hpc (Or.inl rfl)
    | @stopAgain inStop => cases inStop <;> simp [goto, afterRequestStop] at hu
    | @stopFinish inStop => cases inStop <;> simp [goto, afterRequestStop] at hu
    | _ =>
      simp only [goto, returned, Function.update_self, Caller.submit.injEq, reduceCtorEq] at hu
      try (obtain ⟨-, rfl⟩ := hu; simp at hpc')
  · have hsame : s.callers u = .submit sub pc := by
      cases he <;> simpa [goto, returned, Function.update_of_ne hut] using hu
    have hold := hi.submitting u sub pc hsame hpc'
    have howner := hi.mutex.owner_eq (t := u) (by
      rw [hsame]; rcases hpc' with rfl | rfl <;> rfl)
    cases he with
    | started _ hm _ _ => rw [hm] at howner; cases howner
    | stopFirst _ hm _ => rw [hm] at howner; cases howner
    | _ => exact hold

/-! ### Flags -/

/-- How the stop flags, the queue's `closed_` and the worker's life follow each other. -/
structure Stopping (s : Dispatcher) : Prop where
  stopper : s.history.stopper ≠ none → s.stopping = true ∧ s.stopRequestComplete = false
  complete : s.stopRequestComplete = true → s.stopping = true ∧ s.queue.closed = true
  finished : s.stopping = true → s.history.stopper = none → s.stopRequestComplete = true
  closed : s.queue.closed = true → s.stopping = true
  passed : ∀ t inStop pc, s.callers t = .requestStop inStop pc → pc ≠ .lock → pc ≠ .close →
    s.queue.closed = true
  absent : s.worker = .absent ↔ s.started = false
  exited : s.worker = .exited → s.queue.queue = [] ∧ s.queue.closed = true

theorem Stopping.create (capacity : ℕ) : Stopping (Dispatcher.create capacity) where
  stopper h := absurd rfl h
  complete h := by cases h
  finished h := by cases h
  closed h := by cases h
  passed t inStop pc h := by cases h
  absent := ⟨fun _ => rfl, fun _ => rfl⟩
  exited h := by cases h

theorem Stopping.stopper_eq_none (h : Stopping s) (hs : s.stopping = false) :
    s.history.stopper = none := by
  by_contra hne
  rw [(h.stopper hne).1] at hs
  cases hs

/-- A thread that only moves, outside the stopping call, keeps the flags in step. -/
private theorem Stopping.goto (h : Stopping s) {t : ThreadId} {c : Caller}
    (hc : ∀ inStop pc, c = .requestStop inStop pc → pc ≠ .lock → pc ≠ .close →
      s.queue.closed = true) : Stopping (s.goto t c) where
  stopper := h.stopper
  complete := h.complete
  finished := h.finished
  closed := h.closed
  passed u inStop pc hu := by
    by_cases hut : u = t
    · subst hut
      exact hc inStop pc (by simpa [Dispatcher.goto] using hu)
    · exact h.passed u inStop pc (by simpa [Dispatcher.goto, Function.update_of_ne hut] using hu)
  absent := h.absent
  exited := h.exited

/-- Statistics, the lifecycle mutex, the join flags and the rest of the history are not read by
`Stopping`. -/
private theorem Stopping.congr (h : Stopping s) (hq : s'.queue = s.queue)
    (hstarted : s'.started = s.started) (hstopping : s'.stopping = s.stopping)
    (hcomplete : s'.stopRequestComplete = s.stopRequestComplete) (hw : s'.worker = s.worker)
    (hcallers : s'.callers = s.callers) (hstopper : s'.history.stopper = s.history.stopper) :
    Stopping s' where
  stopper := by rw [hstopper, hstopping, hcomplete]; exact h.stopper
  complete := by rw [hcomplete, hstopping, hq]; exact h.complete
  finished := by rw [hcomplete, hstopping, hstopper]; exact h.finished
  closed := by rw [hstopping, hq]; exact h.closed
  passed := by rw [hcallers, hq]; exact h.passed
  absent := by rw [hw, hstarted]; exact h.absent
  exited := by rw [hw, hq]; exact h.exited

private theorem Stopping.caller {t : ThreadId} {e : CallerEvent} (hl : Locking s) (h : Stopping s)
    (he : CallerEffect s t e s') : Stopping s' := by
  have hmove : ∀ c : Caller, (∀ inStop pc, c = .requestStop inStop pc → pc ≠ .lock →
      pc ≠ .close → s.queue.closed = true) → Stopping (s.goto t c) := fun c hc => h.goto hc
  cases he with
  | started hpc hm hstarted hstopping =>
    have := hmove .idle (by simp)
    exact { this with
      absent := by simp
      exited := by simp }
  | submitAccepted hpc hpush =>
    rename_i sub now
    obtain ⟨-, hopen, -, hqueue, hopen'⟩ | ⟨hne, -⟩ := s.queue.tryPush_cases (sub.operation now)
    · have := hmove (.submit sub (.record .accepted)) (by simp)
      refine { this with complete := ?_, closed := ?_, passed := ?_, exited := ?_ }
      · intro hc
        rw [(h.complete hc).2] at hopen
        cases hopen
      · intro hc
        rw [show (s.queue.tryPush (sub.operation now)).2.closed = false from hopen'] at hc
        cases hc
      · intro u inStop pc hu h1 h2
        have := this.passed u inStop pc hu h1 h2
        rw [show (s.goto t (.submit sub (.record .accepted))).queue.closed = false from hopen]
          at this
        cases this
      · intro hw
        have := (h.exited hw).2
        rw [hopen] at this
        cases this
    · exact absurd hpush hne
  | submitRejected hpc hpush =>
    rename_i sub now
    obtain ⟨heq, -⟩ | ⟨-, hqueue, hclosed⟩ := s.queue.tryPush_cases (sub.operation now)
    · exact absurd heq hpush
    · have := hmove (.submit sub (.record (s.queue.tryPush (sub.operation now)).1)) (by simp)
      exact { this with
        complete := fun hc => by rw [hclosed]; exact h.complete hc
        closed := fun hc => h.closed (by rw [← hclosed]; exact hc)
        passed := fun u inStop pc hu h1 h2 => by
          rw [hclosed]; exact this.passed u inStop pc hu h1 h2
        exited := fun hw => by rw [hclosed, hqueue]; exact h.exited hw }
  | stopFirst hpc hm hstopping =>
    rename_i inStop
    have := hmove (.requestStop inStop .close) (by rintro _ _ ⟨⟩ - hne; exact absurd rfl hne)
    refine { this with stopper := ?_, complete := ?_, finished := ?_, closed := fun _ => rfl }
    · refine fun _ => ⟨rfl, Bool.eq_false_iff.mpr fun hc => ?_⟩
      rw [(h.complete hc).1] at hstopping
      cases hstopping
    · exact fun hc => ⟨rfl, (h.complete hc).2⟩
    · intro _ hnone
      cases hnone
  | stopClose hpc =>
    rename_i inStop
    have hs := h.stopper (by rw [hl.stopper.owner_eq (t := t) (by rw [hpc]; rfl)]; simp)
    exact {
      stopper := h.stopper
      complete := fun hc => ⟨hs.1, rfl⟩
      finished := h.finished
      closed := fun _ => hs.1
      passed := fun _ _ _ _ _ _ => rfl
      absent := h.absent
      exited := fun hw => ⟨(h.exited hw).1, rfl⟩ }
  | stopCancel hpc =>
    rename_i inStop allocated
    have hclosed := h.passed t inStop .cancel hpc (by simp) (by simp)
    have := hmove (.requestStop inStop (.deliver (s.queue.cancelPending allocated).1))
      (fun _ _ _ _ _ => hclosed)
    exact { this with
      complete := fun hc => ⟨(h.complete hc).1, by simpa using hclosed⟩
      closed := fun _ => h.closed hclosed
      passed := fun _ _ _ _ _ _ => by simpa using hclosed
      exited := fun hw => by
        refine ⟨?_, by simpa using hclosed⟩
        have hsplit := (s.queue.cancelPending_split allocated).1
        rw [(h.exited hw).1] at hsplit
        exact (List.append_eq_nil_iff.mp hsplit).2 }
  | stopFinish hpc hm =>
    rename_i inStop
    have hclosed := h.passed t inStop .finish hpc (by simp) (by simp)
    have := hmove (afterRequestStop inStop) (by cases inStop <;> simp [afterRequestStop])
    exact { this with
      stopper := fun hne => absurd rfl hne
      complete := fun _ => ⟨h.closed hclosed, hclosed⟩
      finished := fun _ _ => rfl }
  | stopAgain hpc hm hstopping =>
    rename_i inStop
    exact hmove _ (by cases inStop <;> simp [afterRequestStop])
  | stopDelivered hpc => exact hmove _ (fun _ _ _ _ _ => h.passed _ _ _ hpc (by simp) (by simp))
  | stopSkip hpc hc =>
    exact (hmove _ (fun _ _ _ _ _ => h.passed _ _ _ hpc (by simp) (by simp))).congr
      rfl rfl rfl rfl rfl rfl rfl
  | stopCount hpc hc =>
    exact (hmove _ (fun _ _ _ _ _ => h.passed _ _ _ hpc (by simp) (by simp))).congr
      rfl rfl rfl rfl rfl rfl rfl
  | stopInvoke hpc =>
    exact (hmove _ (fun _ _ _ _ _ => h.passed _ _ _ hpc (by simp) (by simp))).congr
      rfl rfl rfl rfl rfl rfl rfl
  | stopCallbackReturn hpc =>
    exact (hmove _ (fun _ _ _ _ _ => h.passed _ _ _ hpc (by simp) (by simp))).congr
      rfl rfl rfl rfl rfl rfl rfl
  | callRequestStop hpc => exact hmove _ (by rintro _ _ ⟨⟩ hne; exact absurd rfl hne)
  | callStop hpc => exact hmove _ (by rintro _ _ ⟨⟩ hne; exact absurd rfl hne)
  | _ hpc =>
    exact (hmove _ (by intro _ _ hc; cases hc)).congr rfl rfl rfl rfl rfl rfl rfl

private theorem Stopping.worker {e : WorkerEvent} (h : Stopping s)
    (he : WorkerEffect gates s e s') : Stopping s' := by
  obtain ⟨hcallers, -, hstarted, hstopping, hcomplete, hstopper, hclosed⟩ := he.frame
  refine {
    stopper := by rw [hstopper, hstopping, hcomplete]; exact h.stopper
    complete := by rw [hcomplete, hstopping, hclosed]; exact h.complete
    finished := by rw [hcomplete, hstopping, hstopper]; exact h.finished
    closed := by rw [hstopping, hclosed]; exact h.closed
    passed := by rw [hcallers, hclosed]; exact h.passed
    absent := ?_
    exited := ?_ }
  · -- the worker is there before the step and after it
    have hthere : s.worker ≠ .absent := by cases he <;> simp [*]
    have hthere' : s'.worker ≠ .absent := by cases he <;> simp [advance, executed]
    rw [hstarted]
    exact ⟨fun hw => absurd hw hthere', fun hs => absurd (h.absent.mpr hs) hthere⟩
  · intro hw
    cases he with
    | exit _ hq => exact ControlQueue.waitPop_finished hq
    | _ => simp [advance, executed] at hw

/-! ### The two together -/

/-- `Locking` and `Stopping` hold of every reachable state. -/
theorem locking_stopping {capacity : ℕ} (h : (dispatcherSystem capacity gates).Reachable s) :
    Locking s ∧ Stopping s := by
  refine h.invariant (I := fun s => Locking s ∧ Stopping s) ?_ ?_
  · rintro s ⟨-, rfl⟩
    exact ⟨.create capacity, .create capacity⟩
  · rintro s e s' - ⟨hl, hs⟩ hstep
    cases step_effect hstep with
    | caller he =>
      exact ⟨⟨mutex_caller hl.mutex he, stopper_caller hl hs.stopper_eq_none he,
        submitting_caller hl he⟩, hs.caller hl he⟩
    | worker he =>
      obtain ⟨hcallers, hmutex, hstarted, hstopping, -, hstopper, -⟩ := he.frame
      refine ⟨⟨?_, ?_, ?_⟩, hs.worker he⟩
      · rw [hcallers, hmutex]; exact hl.mutex
      · rw [hcallers, hstopper]; exact hl.stopper
      · rw [hcallers, hstarted, hstopping]; exact hl.submitting

end MiniGateway.Dispatcher
