/-
  Completion callbacks that call `stop`.

  A completion callback runs on the control worker, or inside the `request_stop` of a shutdown, and
  a call of `stop` that it makes is over before it returns (`CallbackUse`).  A shutdown waits for
  the callbacks in progress, so a callback that waits in `stop` for the end of that shutdown waits
  for itself.  `callbackSystem` has the runs in which this does not happen: during a shutdown no
  callback is in `stop`, except one that runs the shutdown.
-/
import MiniGateway.Runtime.Control
import MiniGateway.Runtime.Gates

namespace MiniGateway

/-- The caller is in `start` or in its rollback. -/
def Frame.isStart : Frame → Bool
  | startLock | sequence (.starting _ _ _) | sequence (.catching _) => true
  | _ => false

/-- The caller that makes the step. -/
def LifecycleEvent.actor : LifecycleEvent → Actor
  | call a _ | lock a | wake a | begin a | finish a _ _ | rollback a | complete a => a

namespace Lifecycle

variable {parts : RuntimeParts} {s s' : Lifecycle} {e : LifecycleEvent} {a : Actor}

/-! ### Callers that stay where they are -/

/-- A caller moves alone. -/
theorem Effect.frames_of_ne (h : Effect parts s e s') (ha : a ≠ e.actor) :
    s'.frames a = s.frames a := by
  cases h <;> exact Function.update_of_ne ha _ _

/-- A caller that is nowhere begins with a call. -/
theorem Effect.frames_of_idle (h : Effect parts s e s') (hidle : s.frames a = .idle)
    (hcall : ∀ c, e ≠ .call a c) : s'.frames a = .idle := by
  by_cases ha : a = e.actor
  · subst ha
    cases h with
    | call _ => exact absurd rfl (hcall _)
    | _ hpc => exact absurd (hidle.symm.trans hpc) (by simp)
  · rw [h.frames_of_ne ha, hidle]

/-- Where a step takes its caller. -/
theorem Effect.frames_actor (h : Effect parts s e s') :
    (s'.frames e.actor = .stopWait → s.stopping = true) ∧
      ((s'.frames e.actor).isStart = true →
        (s.frames e.actor).isStart = true ∨ e = .call e.actor .start) := by
  cases h with
  | @call a c hpc => cases c <;> simp [LifecycleEvent.actor, goto, Frame.isStart]
  | startFirst hpc _ _ => simp [LifecycleEvent.actor, enterStart, goto, hpc, Frame.isStart]
  | stopWait hpc _ _ _ hstopping => simp [LifecycleEvent.actor, goto, hstopping, Frame.isStart]
  | _ hpc =>
    simp [LifecycleEvent.actor, goto, leave, enterShutdown, hpc, Frame.isStart]

/-- A caller outside `start` stays outside unless it calls it. -/
theorem Effect.frames_isStart (h : Effect parts s e s') (hout : (s.frames a).isStart = false)
    (hcall : e ≠ .call a .start) : (s'.frames a).isStart = false := by
  by_cases ha : a = e.actor
  · subst ha
    rw [Bool.eq_false_iff]
    intro hin
    rcases h.frames_actor.2 hin with hold | hstart
    · rw [hout] at hold
      cases hold
    · exact hcall hstart
  · rw [h.frames_of_ne ha]
    exact hout

/-- Whoever waits in `stop` waits for a shutdown that is under way or over. -/
theorem waiting (h : (lifecycleSystem parts).Reachable s) :
    ∀ a, s.frames a = .stopWait → s.stopping = true ∨ s.stopped = true := by
  refine h.invariant (I := fun s => ∀ a, s.frames a = .stopWait →
    s.stopping = true ∨ s.stopped = true) ?_ ?_
  · rintro s rfl a ha
    cases ha
  · intro s e s' hr hi hstep b hb
    have he := step_effect hstep
    -- the end of a shutdown lowers `stopping_`, but it sets `stopped_`
    have hflags : s.stopping = true ∨ s.stopped = true →
        s'.stopping = true ∨ s'.stopped = true := by
      cases he with
      | stopFirst _ _ _ _ _ => exact fun _ => .inl rfl
      | rollback _ => exact fun _ => .inl rfl
      | completeStop _ _ _ => exact fun _ => .inr rfl
      | _ => exact id
    by_cases hbe : b = e.actor
    · subst hbe
      exact hflags (.inl (he.frames_actor.1 hb))
    · rw [he.frames_of_ne hbe] at hb
      exact hflags (hi b hb)

end Lifecycle

namespace Runtime

variable {parts : RuntimeParts} {s s' : Runtime}

/-! ### Callbacks in `stop` -/

/-- A completion callback is in `stop` only while it runs, and never in `start`. -/
structure CallbackUse (s : Runtime) : Prop where
  executed : s.lifecycle.frames .executed ≠ .idle → s.dispatcher.worker.inCallback.isSome = true
  cancelled : s.lifecycle.frames .cancelled ≠ .idle →
    (s.dispatcher.callers 0).inCallback.isSome = true
  start : (s.lifecycle.frames .executed).isStart = false ∧
    (s.lifecycle.frames .cancelled).isStart = false

/-- What a callback needs to call one of the two functions. -/
theorem stepCalls_call {a : Actor} {c : LifecycleCall}
    (h : s.step parts (.lifecycle (.call a c)) = some s') :
    (a = .executed → c = .stop ∧ s.dispatcher.worker.inCallback.isSome = true) ∧
      (a = .cancelled → c = .stop ∧ (s.dispatcher.callers 0).inCallback.isSome = true) := by
  obtain ⟨l, -, h⟩ := Option.bind_eq_some_iff.mp h
  obtain ⟨s₁, hcalls, -⟩ := Option.bind_eq_some_iff.mp h
  constructor
  · rintro rfl
    cases c with
    | start => cases hcalls
    | stop =>
      simp only [stepCalls] at hcalls
      split_ifs at hcalls with hin
      exact ⟨rfl, hin⟩
  · rintro rfl
    cases c with
    | start => cases hcalls
    | stop =>
      simp only [stepCalls] at hcalls
      split_ifs at hcalls with hin
      exact ⟨rfl, hin⟩

/-- A callback returns only when it is no longer in `stop`. -/
theorem idle_of_callbackReturn (h : s.stepControl parts .callbackReturn = some s') :
    s.lifecycle.frames .executed = .idle := by
  by_contra hne
  unfold stepControl at h
  split at h
  case h_6 => simp [hne] at h
  all_goals simp_all

/-- A step of the callers keeps `CallbackUse`. -/
private theorem CallbackUse.lifecycle (h : CallbackUse s) {e : LifecycleEvent}
    (hstep : s.step parts (.lifecycle e) = some s')
    (hl : s.lifecycle.step parts e = some s'.lifecycle)
    (hworker : s.dispatcher.worker.inCallback.isSome = true →
      s'.dispatcher.worker.inCallback.isSome = true)
    (hcaller : (s.dispatcher.callers 0).inCallback.isSome = true →
      (s'.dispatcher.callers 0).inCallback.isSome = true) : CallbackUse s' := by
  have he := Lifecycle.step_effect hl
  refine ⟨fun hin => hworker ?_, fun hin => hcaller ?_, ?_, ?_⟩
  · by_cases hidle : s.lifecycle.frames .executed = .idle
    · -- it has just called
      by_contra hno
      refine hin (he.frames_of_idle hidle ?_)
      rintro c rfl
      exact hno ((stepCalls_call hstep).1 rfl).2
    · exact h.executed hidle
  · by_cases hidle : s.lifecycle.frames .cancelled = .idle
    · by_contra hno
      refine hin (he.frames_of_idle hidle ?_)
      rintro c rfl
      exact hno ((stepCalls_call hstep).2 rfl).2
    · exact h.cancelled hidle
  · refine he.frames_isStart h.start.1 ?_
    rintro rfl
    cases ((stepCalls_call hstep).1 rfl).1
  · refine he.frames_isStart h.start.2 ?_
    rintro rfl
    cases ((stepCalls_call hstep).2 rfl).1

/-- A thread of the dispatcher launches the worker, or leaves it alone. -/
theorem inCallback_caller {d d' : Dispatcher} {t : ThreadId} {e : CallerEvent}
    (hs : Dispatcher.Stopping d) (h : Dispatcher.CallerEffect d t e d')
    (hin : d.worker.inCallback.isSome = true) : d'.worker = d.worker := by
  rcases h.worker with hw | ⟨hstarted, -⟩
  · exact hw
  · rw [hs.absent.mpr hstarted] at hin
    cases hin

/-- The worker leaves a callback by its return. -/
theorem eq_callbackReturn {d d' : Dispatcher} {e : WorkerEvent}
    (h : Dispatcher.WorkerEffect true d e d') (hin : d.worker.inCallback.isSome = true) :
    e = .callbackReturn := by
  cases h with
  | callbackReturn _ => rfl
  | move hw hmove _ =>
    rw [hw] at hin
    cases hmove <;> cases hin
  | _ hw =>
    rw [hw] at hin
    cases hin

/-- `CallbackUse` holds of every reachable state. -/
theorem callback_use (h : (runtimeSystem parts).Reachable s) : CallbackUse s := by
  refine h.invariant ?_ ?_
  · rintro s rfl
    exact ⟨fun hne => absurd rfl hne, fun hne => absurd rfl hne, rfl, rfl⟩
  · intro s e s' hr hi hstep
    have hstopping := (dispatcher_invariant hr).stopping
    -- a step of another thread of the dispatcher
    have hsubmit : ∀ {t : ThreadId} {e : CallerEvent} {d : Dispatcher},
        s.dispatcher.step true (.caller (t + 1) e) = some d →
        CallbackUse { s with dispatcher := d } := by
      intro t e d hd
      have he := Dispatcher.stepCaller_effect hd
      refine ⟨fun hin => ?_, fun hin => ?_, hi.start⟩
      · have hcallback := hi.executed hin
        show d.worker.inCallback.isSome = true
        rw [inCallback_caller hstopping he hcallback]
        exact hcallback
      · show (d.callers 0).inCallback.isSome = true
        rw [he.others 0 (by simp)]
        exact hi.cancelled hin
    cases step_effect hstep with
    | quiet hl _ _ => exact hi.lifecycle hstep hl id id
    | begin hl _ hd =>
      refine hi.lifecycle hstep hl (fun hin => ?_) (fun hin => ?_)
      · cases hd with
        | other _ => exact hin
        | _ hd =>
          rw [show _ = s.dispatcher.worker from
            inCallback_caller hstopping (Dispatcher.stepCaller_effect hd) hin]
          exact hin
      · -- nobody begins a call from inside a callback
        have hbusy : s.dispatcher.callers 0 ≠ .idle := by
          intro hidle
          rw [hidle] at hin
          cases hin
        cases hd with
        | other _ => exact hin
        | startDispatcher hd =>
          cases Dispatcher.stepCaller_effect hd with
          | callStart hidle => exact absurd hidle hbusy
        | requestStopDispatcher hd =>
          cases Dispatcher.stepCaller_effect hd with
          | callRequestStop hidle => exact absurd hidle hbusy
        | joinDispatcher hd =>
          cases Dispatcher.stepCaller_effect hd with
          | callJoin hidle => exact absurd hidle hbusy
    | finish hl _ _ => exact hi.lifecycle hstep hl id id
    | finishData hl _ _ _ => exact hi.lifecycle hstep hl id id
    | launchScheduler hl _ => exact hi.lifecycle hstep hl id id
    | finishScheduler hl _ _ _ _ => exact hi.lifecycle hstep hl id id
    | dispatch hin hinstr hallow hd =>
      have he := Dispatcher.stepCaller_effect hd
      refine ⟨fun hne => ?_, fun hne => ?_, hi.start⟩
      · have hcallback := hi.executed hne
        show Option.isSome (Worker.inCallback _) = true
        rw [inCallback_caller hstopping he hcallback]
        exact hcallback
      · -- the callback would have to return first
        have hcallback := hi.cancelled hne
        cases he with
        | stopCallbackReturn hpc => exact absurd (of_decide_eq_true hallow) hne
        | _ hpc =>
          rw [hpc] at hcallback
          cases hcallback
    | submitControl hd => exact hsubmit hd
    | submit _ hd => exact hsubmit hd
    | control h =>
      obtain ⟨hlife, -, -, -, hd⟩ := h.frame
      have he := Dispatcher.stepWorker_effect hd
      refine ⟨fun hne => ?_, fun hne => ?_, ?_⟩
      · rw [hlife] at hne
        obtain rfl := eq_callbackReturn he (hi.executed hne)
        exact absurd (idle_of_callbackReturn hstep) hne
      · rw [hlife] at hne
        rw [he.frame.1]
        exact hi.cancelled hne
      · rw [hlife]
        exact hi.start
    | schedule h => cases h <;> exact { hi with }
    | poll h => cases h <;> exact { hi with }
    | refused => exact hi
    | _ => exact { hi with }

end Runtime

/-! ### Runs in which no shutdown waits for its own end -/

namespace Lifecycle

/-- A shutdown is under way: `start` has failed, or `stopping_` is set. -/
def unwinding (s : Lifecycle) : Bool :=
  match s.current with
  | some (.catching _) | some (.stopping _ _ _) => true
  | _ => false

/-- No completion callback is in `stop`, except one that runs the shutdown. -/
def callbacksOutside (s : Lifecycle) : Bool :=
  s.frames .cancelled = .idle && (s.frames .executed = .idle || (s.frames .executed).isExecuting)

end Lifecycle

/-- The runs in which, during a shutdown, no completion callback is in `stop`, except one that runs
the shutdown. -/
def callbackSystem (parts : RuntimeParts) : TransitionSystem Runtime RuntimeEvent :=
  (runtimeSystem parts).restrict fun s e =>
    (s.step parts e).all (fun s' => !s'.lifecycle.unwinding || s'.lifecycle.callbacksOutside) = true

namespace Runtime

variable {parts : RuntimeParts} {s s' : Runtime} {e : RuntimeEvent}

theorem callbackSystem_step : (callbackSystem parts).step s e = some s' ↔
    s.step parts e = some s' ∧
      (s'.lifecycle.unwinding = true → s'.lifecycle.callbacksOutside = true) := by
  have hor : ∀ a b : Bool, (!a || b) = true ↔ (a = true → b = true) := by decide
  rw [← hor]
  constructor
  · intro h
    obtain ⟨hall, hstep⟩ := TransitionSystem.restrict_step.mp h
    have hstep : s.step parts e = some s' := hstep
    rw [hstep] at hall
    exact ⟨hstep, hall⟩
  · rintro ⟨hstep, hall⟩
    refine TransitionSystem.restrict_step.mpr ⟨?_, hstep⟩
    rw [hstep]
    exact hall

theorem outside_of_unwinding (h : (callbackSystem parts).Reachable s)
    (hunwinding : s.lifecycle.unwinding = true) : s.lifecycle.callbacksOutside = true := by
  cases h with
  | init hs =>
    obtain rfl := hs
    cases hunwinding
  | step _ hstep => exact (callbackSystem_step.mp hstep).2 hunwinding

/-- A step that leaves the callers alone is always allowed. -/
theorem callbackSystem_step_of_eq (h : (callbackSystem parts).Reachable s)
    (hstep : s.step parts e = some s') (hl : s'.lifecycle = s.lifecycle) :
    (callbackSystem parts).step s e = some s' := by
  refine callbackSystem_step.mpr ⟨hstep, ?_⟩
  rw [hl]
  exact outside_of_unwinding h

end Runtime

end MiniGateway
