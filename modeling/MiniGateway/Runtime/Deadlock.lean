/-
  Who can wait for whom for ever.

  A set of threads is deadlocked when each of them is inside `start`, `stop` or a callback and none
  of them ever takes a step again.  A callback of the control worker that waits in `stop`, while the
  thread that runs the shutdown waits in `worker_.join()`, is such a set (`Stuck.deadlocked`), and
  the runtime can get there (`deadlock_reachable`).  While no callback is in `stop` during the
  shutdown of another thread, there is no other way into a deadlock (`deadlock_free`).
-/
import MiniGateway.Runtime.Returns
import MiniGateway.Runtime.Shutdown

namespace MiniGateway

/-- A thread that can be inside `start`, `stop` or a completion callback. -/
inductive Waiter
  /-- A thread outside the runtime. -/
  | outside (t : ThreadId)
  | controlWorker
  deriving DecidableEq

namespace Runtime

/-- The thread that a caller runs on.  The callback of a cancelled request runs on the thread of the
shutdown. -/
def waiterOf (s : Runtime) : Actor → Option Waiter
  | .thread t => some (.outside t)
  | .executed => some .controlWorker
  | .cancelled => match s.lifecycle.history.executor with
    | some (.thread t) => some (.outside t)
    | some .executed => some .controlWorker
    | _ => none

/-- The thread that makes the step, if it is one of these. -/
def stepper (s : Runtime) : RuntimeEvent → Option Waiter
  | .lifecycle e => s.waiterOf e.actor
  | .dispatch a _ => s.waiterOf a
  | .control _ => some .controlWorker
  | _ => none

/-- The thread is inside `start` or `stop`, or in a completion callback. -/
def inside (s : Runtime) : Waiter → Bool
  | .outside t => s.lifecycle.frames (.thread t) ≠ .idle
  | .controlWorker => s.dispatcher.worker.inCallback.isSome

/-- Threads inside `start`, `stop` or a callback none of which ever takes a step again in a run of
`M`. -/
structure Deadlocked (M : TransitionSystem Runtime RuntimeEvent) (threads : Set Waiter)
    (s : Runtime) : Prop where
  nonempty : threads.Nonempty
  inside : ∀ waiter ∈ threads, s.inside waiter = true
  never : M.Never (fun s e => ∃ waiter ∈ threads, s.stepper e = some waiter) s

variable {parts : RuntimeParts} {s s' : Runtime} {t : ThreadId}

/-! ### A callback that waits for its own end -/

/-- Thread `t` runs the shutdown and waits for the control worker, whose callback waits for the end
of the shutdown. -/
structure Stuck (t : ThreadId) (s : Runtime) : Prop where
  joining : s.lifecycle.inCall (.thread t) = some .joinDispatcher
  caller : s.dispatcher.callers 0 = .join false .worker
  callback : s.dispatcher.worker.inCallback.isSome = true
  waiting : s.lifecycle.frames .executed = .stopWait
  flags : s.lifecycle.flags = (true, true, false)

namespace Stuck

/-- Thread `t` is the one inside a sequence. -/
theorem executing (h : Stuck t s) : (s.lifecycle.frames (.thread t)).isExecuting = true := by
  rcases Lifecycle.inCall_eq h.joining with ⟨locals, rest, hpc⟩ | ⟨rollback, rest, hpc⟩
  · rw [hpc]
    rfl
  · rw [hpc]
    rfl

theorem executor (hr : (runtimeSystem parts).Reachable s) (h : Stuck t s) :
    s.lifecycle.history.executor = some (.thread t) :=
  (lifecycle_invariant hr).locking.executor.owner_eq h.executing

/-- No callback of a cancelled request runs. -/
theorem cancelled (hr : (runtimeSystem parts).Reachable s) (h : Stuck t s) :
    s.lifecycle.frames .cancelled = .idle := by
  by_contra hne
  have hcallback := (callback_use hr).cancelled hne
  rw [h.caller] at hcallback
  cases hcallback

/-- A caller that neither runs the shutdown nor is a callback leaves things as they are. -/
theorem other (h : Stuck t s) {e : LifecycleEvent} {l : Lifecycle} {u : ThreadId}
    (he : Lifecycle.Effect parts s.lifecycle e l) (hactor : e.actor = .thread u) (hne : u ≠ t)
    (hflags : l.flags = s.lifecycle.flags) : Stuck t { s with lifecycle := l } where
  joining := by
    have hsame : l.frames (.thread t) = s.lifecycle.frames (.thread t) :=
      he.frames_of_ne (by rw [hactor]; simpa using hne.symm)
    show l.inCall (.thread t) = _
    unfold Lifecycle.inCall
    rw [hsame]
    exact h.joining
  caller := h.caller
  callback := h.callback
  waiting := by
    show l.frames .executed = _
    rw [he.frames_of_ne (by rw [hactor]; simp)]
    exact h.waiting
  flags := hflags.trans h.flags

/-- Nobody moves in the lifecycle but other threads. -/
theorem lifecycle (hr : (runtimeSystem parts).Reachable s) (h : Stuck t s) {e : LifecycleEvent}
    (hstep : s.step parts (.lifecycle e) = some s') :
    Stuck t s' ∧ ∃ u, e.actor = .thread u ∧ u ≠ t := by
  have hlocking := (lifecycle_invariant hr).locking
  have hflags := h.flags
  simp only [Lifecycle.flags, Prod.mk.injEq] at hflags
  obtain ⟨hstarted, hstopping, hstopped⟩ := hflags
  -- whoever is inside a sequence is thread `t`, in its call
  have hinside : ∀ {a : Actor} {position : Sequence}, s.lifecycle.frames a = .sequence position →
      a = .thread t ∧ position.call? = some .joinDispatcher := by
    intro a position hpc
    obtain rfl : a = .thread t :=
      hlocking.executor.unique (by rw [hpc]; rfl) h.executing
    have hcurrent := hlocking.current_inCall h.joining
    simpa [Lifecycle.calls, hlocking.current_eq hpc] using hcurrent
  -- whoever waits for the mutex is another thread
  have houtside : ∀ {a : Actor}, (s.lifecycle.frames a).isExecuting = false →
      s.lifecycle.frames a ≠ .idle → s.lifecycle.frames a ≠ .stopWait →
      ∃ u, a = .thread u ∧ u ≠ t := by
    intro a hout hidle hwait
    cases a with
    | thread u =>
      refine ⟨u, rfl, ?_⟩
      rintro rfl
      rw [h.executing] at hout
      cases hout
    | executed => exact absurd h.waiting hwait
    | cancelled => exact absurd (h.cancelled hr) hidle
  have hcall : ∀ {a : Actor} {instr : Instr}, s.lifecycle.inCall a = some instr →
      instr = .joinDispatcher := by
    intro a instr hin
    have hcurrent := hlocking.current_inCall hin
    rw [hlocking.current_inCall h.joining] at hcurrent
    exact (Option.some.inj hcurrent).symm
  cases step_effect hstep with
  | quiet hl hbegin hfinish =>
    have heffect := Lifecycle.step_effect hl
    cases Lifecycle.step_effect hl with
    | @call a c hpc =>
      cases a with
      | thread u =>
        have hne : u ≠ t := by
          rintro rfl
          have hexecuting := h.executing
          rw [hpc] at hexecuting
          cases hexecuting
        exact ⟨h.other heffect rfl hne rfl, u, rfl, hne⟩
      | executed =>
        rw [h.waiting] at hpc
        cases hpc
      | cancelled =>
        have hcallback := ((stepCalls_call hstep).2 rfl).2
        rw [h.caller] at hcallback
        cases hcallback
    | startRefused hpc _ _ =>
      obtain ⟨u, rfl, hne⟩ := houtside (by rw [hpc]; rfl) (by simp [hpc]) (by simp [hpc])
      exact ⟨h.other heffect rfl hne rfl, u, rfl, hne⟩
    | stopWait hpc _ _ _ _ =>
      obtain ⟨u, rfl, hne⟩ := houtside (by rw [hpc]; rfl) (by simp [hpc]) (by simp [hpc])
      exact ⟨h.other heffect rfl hne rfl, u, rfl, hne⟩
    | startFirst _ _ hno => simp [hstarted] at hno
    | stopUnstarted _ _ hno => simp [hstarted] at hno
    | stopStopped _ _ hno => simp [hstopped] at hno
    | stopFirst _ _ _ _ hno => simp [hstopping] at hno
    | wake _ _ hno => simp [hstopped] at hno
    | rollback hpc => cases (hinside hpc).2
    | completeStart hpc => cases (hinside hpc).2
    | completeStop hpc _ _ => cases (hinside hpc).2
    | beginStart _ => exact absurd rfl (hbegin _)
    | beginStop _ => exact absurd rfl (hbegin _)
    | returnStart _ => exact absurd rfl (hfinish _ _ _)
    | throwStart _ _ => exact absurd rfl (hfinish _ _ _)
    | returnStop _ => exact absurd rfl (hfinish _ _ _)
  | begin _ hnext _ =>
    rcases Lifecycle.nextCall_eq hnext with ⟨locals, rest, hpc⟩ | ⟨rollback, rest, hpc⟩
    · cases (hinside hpc).2
    · cases (hinside hpc).2
  | finish _ hin hplain =>
    obtain rfl := hcall hin
    cases hplain with
    | joinDispatcher hidle =>
      rw [h.caller] at hidle
      cases hidle
  | finishData _ hin hon _ =>
    obtain rfl := hcall hin
    cases hon
  | launchScheduler _ hin => cases hcall hin
  | finishScheduler _ hin hon _ _ =>
    obtain rfl := hcall hin
    cases hon

/-- The worker that thread `t` joins is the control worker, which has not exited. -/
theorem not_dispatch (hr : (runtimeSystem parts).Reachable s) (h : Stuck t s) {a : Actor}
    {e : CallerEvent} : s.step parts (.dispatch a e) ≠ some s' := by
  intro hstep
  cases step_effect hstep with
  | dispatch hin hinstr hallow hd =>
    have hlocking := (lifecycle_invariant hr).locking
    have hexecuting : (s.lifecycle.frames a).isExecuting = true := by
      rcases Lifecycle.inCall_eq hin with ⟨locals, rest, hpc⟩ | ⟨rollback, rest, hpc⟩
      · rw [hpc]
        rfl
      · rw [hpc]
        rfl
    obtain rfl := hlocking.executor.unique hexecuting h.executing
    have hcallback := h.callback
    cases Dispatcher.stepCaller_effect hd with
    | @joinWorker inStop ok hpc hok =>
      have hexited : s.dispatcher.worker = .exited := hok (of_decide_eq_true hallow)
      rw [hexited] at hcallback
      cases hcallback
    | _ hpc =>
      rw [h.caller] at hpc
      cases hpc

/-- A thread in `submit` leaves things as they are. -/
theorem submitter (hr : (runtimeSystem parts).Reachable s) (h : Stuck t s) {u : ThreadId}
    {e : CallerEvent} {d : Dispatcher}
    (hd : s.dispatcher.step true (.caller (u + 1) e) = some d) :
    Stuck t { s with dispatcher := d } where
  joining := h.joining
  caller := ((Dispatcher.stepCaller_effect hd).others 0 (by simp)).trans h.caller
  callback := by
    have hsame := inCallback_caller (dispatcher_invariant hr).stopping
      (Dispatcher.stepCaller_effect hd) h.callback
    show d.worker.inCallback.isSome = true
    rw [hsame]
    exact h.callback
  waiting := h.waiting
  flags := h.flags

/-- The control worker does not leave its callback. -/
theorem not_control (h : Stuck t s) {e : WorkerEvent} :
    s.step parts (.control e) ≠ some s' := by
  intro hstep
  cases step_effect hstep with
  | control hcontrol =>
    obtain ⟨-, -, -, -, hd⟩ := hcontrol.frame
    obtain rfl := eq_callbackReturn (Dispatcher.stepWorker_effect hd) h.callback
    have hidle := idle_of_callbackReturn hstep
    rw [h.waiting] at hidle
    cases hidle

/-- **Neither of the two ever moves again.** -/
theorem step (hr : (runtimeSystem parts).Reachable s) (h : Stuck t s) {e : RuntimeEvent}
    (hstep : s.step parts e = some s') :
    Stuck t s' ∧ s.stepper e ≠ some (.outside t) ∧ s.stepper e ≠ some .controlWorker := by
  cases e with
  | lifecycle e =>
    obtain ⟨hstuck, u, hactor, hne⟩ := h.lifecycle hr hstep
    refine ⟨hstuck, ?_, ?_⟩
    · simp [stepper, hactor, waiterOf, hne]
    · simp [stepper, hactor, waiterOf]
  | dispatch a e => exact absurd hstep (h.not_dispatch hr)
  | control e => exact absurd hstep h.not_control
  | submitControl u request completion =>
    refine ⟨?_, nofun, nofun⟩
    cases step_effect hstep with
    | refused => exact h
    | submitControl hd => exact h.submitter hr hd
  | submit u e =>
    refine ⟨?_, nofun, nofun⟩
    cases step_effect hstep with
    | submit _ hd => exact h.submitter hr hd
  | schedule e =>
    refine ⟨?_, nofun, nofun⟩
    cases step_effect hstep with
    | schedule hs => cases hs <;> exact { h with }
  | poll e =>
    refine ⟨?_, nofun, nofun⟩
    cases step_effect hstep with
    | poll hp => cases hp <;> exact { h with }
  | push batch =>
    refine ⟨?_, nofun, nofun⟩
    cases step_effect hstep with
    | push => exact { h with }
  | process e =>
    refine ⟨?_, nofun, nofun⟩
    cases step_effect hstep with
    | process _ => exact { h with }

/-- Thread `t` and the control worker are deadlocked. -/
theorem deadlocked (hr : (runtimeSystem parts).Reachable s) (h : Stuck t s) :
    Deadlocked (runtimeSystem parts) {.outside t, .controlWorker} s where
  nonempty := ⟨.controlWorker, by simp⟩
  inside := by
    have hjoining := h.executing
    intro waiter hin
    rcases hin with rfl | rfl
    · show decide (s.lifecycle.frames (.thread t) ≠ .idle) = true
      refine decide_eq_true fun hidle => ?_
      rw [hidle] at hjoining
      cases hjoining
    · exact h.callback
  never := by
    intro s₁ e s₂ hreaches hstep
    obtain ⟨hr₁, hstuck⟩ := hreaches.relation (R := Stuck t)
      (fun _ _ _ hr hs hl => (hs.step hr hl).1) hr h
    obtain ⟨-, houter, hcontrol⟩ := hstuck.step hr₁ hstep
    rintro ⟨waiter, rfl | rfl, heq⟩
    · exact houter heq
    · exact hcontrol heq

end Stuck

/-- The control worker takes a request and comes to its completion callback. -/
def callbackRun : List RuntimeEvent :=
  ([.pop 0, .countWait, .resolve true, .deadline 0, .gate true, .lockGate true, .recheck 0, .call,
    .driverThrow none, .unlock, .finish 0, .count, .invoke] : List WorkerEvent).map .control

/-- Thread `1` stops the runtime `oneDevice` and comes to `worker_.join()`. -/
def joinRun : List RuntimeEvent :=
  ([.lifecycle (.call (.thread 1) .stop), .lifecycle (.lock (.thread 1))] : List RuntimeEvent) ++
  returningCalls (.thread 1) 2 ++ ([.schedule .exit] : List RuntimeEvent) ++
  returningCalls (.thread 1) 1 ++ ([.lifecycle (.begin (.thread 1))] : List RuntimeEvent) ++
  ([.stopLock, .stopClose, .stopCancel true, .stopDeliver, .stopFinish] : List CallerEvent).map
    (.dispatch (.thread 1)) ++
  ([.lifecycle (.finish (.thread 1) true 0), .lifecycle (.begin (.thread 1)),
    .dispatch (.thread 1) .joinLock, .dispatch (.thread 1) .joinWait] : List RuntimeEvent)

/-- **A callback that calls `stop` during a shutdown deadlocks it.** -/
theorem deadlock_reachable : ¬∀ (parts : RuntimeParts) (s : Runtime),
    (runtimeSystem parts).Reachable s → ∀ threads, ¬Deadlocked (runtimeSystem parts) threads s := by
  intro hfree
  obtain ⟨s, hr, hs⟩ := TransitionSystem.exists_reachable_of_run
    (M := runtimeSystem oneDevice) (s := create oneDevice)
    (w := startRun ++ submitRun 0 ++ callbackRun ++ joinRun ++
      [.lifecycle (.call .executed .stop), .lifecycle (.lock .executed)])
    (p := fun s => s.lifecycle.inCall (.thread 1) = some .joinDispatcher ∧
      s.dispatcher.callers 0 = .join false .worker ∧
      s.dispatcher.worker.inCallback.isSome = true ∧
      s.lifecycle.frames .executed = .stopWait ∧ s.lifecycle.flags = (true, true, false))
    rfl (by decide +kernel)
  obtain ⟨hjoining, hcaller, hcallback, hwaiting, hflags⟩ := of_decide_eq_true hs
  have hstuck : Stuck 1 s := ⟨hjoining, hcaller, hcallback, hwaiting, hflags⟩
  exact hfree oneDevice s hr _ (hstuck.deadlocked hr)

/-! ### No other deadlock -/

/-- Only its own steps move a caller. -/
theorem stepper_of_frames {e : RuntimeEvent} (hstep : s.step parts e = some s') {a : Actor}
    (hmoved : s'.lifecycle.frames a ≠ s.lifecycle.frames a) :
    ∃ e', e = .lifecycle e' ∧ e'.actor = a := by
  have hlife : ∀ {e' : LifecycleEvent} {l : Lifecycle}, s.lifecycle.step parts e' = some l →
      l.frames a ≠ s.lifecycle.frames a → e'.actor = a := by
    intro e' l hl hne
    by_contra hactor
    exact hne ((Lifecycle.step_effect hl).frames_of_ne (Ne.symm hactor))
  cases step_effect hstep with
  | quiet hl _ _ => exact ⟨_, rfl, hlife hl hmoved⟩
  | begin hl _ _ => exact ⟨_, rfl, hlife hl hmoved⟩
  | finish hl _ _ => exact ⟨_, rfl, hlife hl hmoved⟩
  | finishData hl _ _ _ => exact ⟨_, rfl, hlife hl hmoved⟩
  | launchScheduler hl _ => exact ⟨_, rfl, hlife hl hmoved⟩
  | finishScheduler hl _ _ _ _ => exact ⟨_, rfl, hlife hl hmoved⟩
  | control h => exact absurd (by rw [h.frame.1]) hmoved
  | schedule h => cases h <;> exact absurd rfl hmoved
  | poll h => cases h <;> exact absurd rfl hmoved
  | _ => exact absurd rfl hmoved

/-- Only its own steps take the control worker out of a callback. -/
theorem stepper_of_callback (hr : (runtimeSystem parts).Reachable s) {e : RuntimeEvent}
    (hstep : s.step parts e = some s') (hin : s.dispatcher.worker.inCallback.isSome = true)
    (hout : s'.dispatcher.worker.inCallback.isSome = false) : ∃ e', e = .control e' := by
  have hstopping := (dispatcher_invariant hr).stopping
  have hsame : s'.dispatcher.worker ≠ s.dispatcher.worker := by
    intro heq
    rw [heq, hin] at hout
    cases hout
  have hcaller : ∀ {t : ThreadId} {e' : CallerEvent} {d : Dispatcher},
      s.dispatcher.step true (.caller t e') = some d → d.worker = s.dispatcher.worker :=
    fun hd => inCallback_caller hstopping (Dispatcher.stepCaller_effect hd) hin
  cases step_effect hstep with
  | control _ => exact ⟨_, rfl⟩
  | begin _ _ hd =>
    cases hd with
    | other _ => exact absurd rfl hsame
    | _ hd => exact absurd (hcaller hd) hsame
  | dispatch _ _ _ hd => exact absurd (hcaller hd) hsame
  | submitControl hd => exact absurd (hcaller hd) hsame
  | submit _ hd => exact absurd (hcaller hd) hsame
  | schedule h => cases h <;> exact absurd rfl hsame
  | poll h => cases h <;> exact absurd rfl hsame
  | _ => exact absurd rfl hsame

/-- **No deadlock**, while no callback is in `stop` during the shutdown of another thread. -/
theorem deadlock_free (h : (callbackSystem parts).Reachable s) (threads : Set Waiter) :
    ¬Deadlocked (callbackSystem parts) threads s := by
  rintro ⟨⟨waiter, hwaiter⟩, hinside, hnever⟩
  have hin := hinside waiter hwaiter
  cases waiter with
  | outside t =>
    -- its call can return, which takes a step of its own
    have hbusy : s.lifecycle.frames (.thread t) ≠ .idle := by simpa [Runtime.inside] using hin
    obtain ⟨s', hreaches, hidle⟩ := caller_returns h t
    refine hnever.invariant (I := fun s => s.lifecycle.frames (.thread t) ≠ .idle) h hbusy ?_
      hreaches hidle
    intro s₁ e s₂ _ hbusy hother hstep hidle₂
    obtain ⟨e', rfl, hactor⟩ := stepper_of_frames (callbackSystem_step.mp hstep).1
      (a := .thread t) (by rw [hidle₂]; exact hbusy.symm)
    exact hother ⟨_, hwaiter, by simp [stepper, hactor, waiterOf]⟩
  | controlWorker =>
    obtain ⟨s', hreaches, hreturned⟩ := callback_returns h
    have hstill : s'.dispatcher.worker.inCallback.isSome = true := by
      refine hnever.invariant (I := fun s => s.dispatcher.worker.inCallback.isSome = true) h hin ?_
        hreaches
      intro s₁ e s₂ hr₁ hcallback hother hstep
      by_contra hno
      obtain ⟨e', rfl⟩ := stepper_of_callback hr₁.of_restrict (callbackSystem_step.mp hstep).1
        hcallback (by simpa using hno)
      exact hother ⟨_, hwaiter, rfl⟩
    rw [hreturned] at hstill
    cases hstill

/-- A callback runs the shutdown, and thread `1` waits for its end. -/
theorem deadlock_free_oneDevice : ∃ s : Runtime,
    ((s.lifecycle.frames .executed).isExecuting = true ∧
      s.lifecycle.frames (.thread 1) = .stopWait) ∧
    ¬Deadlocked (callbackSystem oneDevice) {.outside 1, .controlWorker} s := by
  obtain ⟨s, hr, hs⟩ := TransitionSystem.exists_reachable_of_run
    (M := callbackSystem oneDevice) (s := create oneDevice)
    (w := startRun ++ submitRun 0 ++ callbackRun ++
      [.lifecycle (.call .executed .stop), .lifecycle (.lock .executed),
        .lifecycle (.call (.thread 1) .stop), .lifecycle (.lock (.thread 1))])
    (p := fun s => (s.lifecycle.frames .executed).isExecuting = true ∧
      s.lifecycle.frames (.thread 1) = .stopWait)
    rfl (by decide +kernel)
  exact ⟨s, by simpa using hs, deadlock_free hr _⟩

end Runtime

end MiniGateway
