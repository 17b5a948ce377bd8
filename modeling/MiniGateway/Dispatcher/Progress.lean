/-
  What can still happen in the dispatcher.

  A thread in `start`, `request_stop` or `join` has a step to take unless it waits for the
  lifecycle mutex, for `request_stop` to be over, or for the worker (`caller_progress`).  Each step
  lowers a measure of what lies before it; so does each step of a thread in `submit` that holds the
  mutex (`holder_progress`), and each step of a worker whose queue is closed (`Worker.ahead`).
-/
import MiniGateway.Dispatcher.Joining
import Mathlib.Data.Prod.Lex

namespace MiniGateway

/-! ### Measures -/

/-- How many positions a thread still has before it in `start`, `request_stop` or `join`.  The loop
over the cancelled operations counts as one. -/
def Caller.ahead : Caller → ℕ
  | .start => 1
  -- inside `stop`, what lies before a thread includes `join`
  | .requestStop _ .lock => 9
  | .requestStop _ .close => 8
  | .requestStop _ .cancel => 7
  | .requestStop _ (.deliver _) | .requestStop _ (.invoke _ _) | .requestStop _ (.callback _ _) => 6
  | .requestStop _ .finish => 5
  | .join _ .lock => 4
  | .join _ .wait => 3
  | .join _ .worker => 2
  | .join _ (.finish _) => 1
  | _ => 0

/-- How many steps that loop still takes. -/
def Caller.deliveries : Caller → ℕ
  | .requestStop _ (.deliver pending) => 3 * pending.length
  | .requestStop _ (.invoke _ pending) => 3 * pending.length + 2
  | .requestStop _ (.callback _ pending) => 3 * pending.length + 1
  | _ => 0

/-- How many steps a thread in `submit` takes before it releases the mutex. -/
def Caller.holding : Caller → ℕ
  | .submit _ .resolve => 3
  | .submit _ .push => 2
  | .submit _ (.record _) => 1
  | _ => 0

/-- How many stages of `execute` are left. -/
def Stage.ahead : Stage → ℕ
  | .entry => 13
  | .resolve => 12
  | .deadline => 11
  | .gate => 10
  | .lockGate => 9
  | .recheck _ => 8
  | .call _ => 7
  | .driver _ => 6
  | .unlock _ _ => 5
  | .finish _ => 4
  | .count _ => 3
  | .invoke _ => 2
  | .callback _ => 1

/-- How many steps the worker takes to be done with the operation it has taken and to leave `run`. -/
def Worker.ahead : Worker → ℕ
  | .absent | .exited => 0
  | .waiting => 1
  | .executing _ _ stage => stage.ahead + 1

namespace Dispatcher

variable {d d' : Dispatcher} {t : ThreadId}

/-- How many steps the worker takes to empty a closed queue and to leave `run`. -/
def workerAhead (d : Dispatcher) : ℕ := 15 * d.queue.queue.length + d.worker.ahead

/-- How many steps it takes until the lifecycle mutex is free, if a thread in `submit` holds it. -/
def mutexAhead (d : Dispatcher) : ℕ :=
  match d.lifecycleMutex with
  | some t => (d.callers t).holding
  | none => 0

/-- How many steps lie before thread `0` at its position: those of the worker that it joins, or its
own. -/
def turnsAhead (d : Dispatcher) : ℕ :=
  match d.callers 0 with
  | .join _ .worker => d.workerAhead
  | caller => caller.deliveries

/-- What lies before thread `0`: its positions first, then what keeps it at its position. -/
def callAhead (d : Dispatcher) : ℕ ×ₗ ℕ ×ₗ ℕ :=
  toLex ((d.callers 0).ahead, toLex (d.turnsAhead, d.mutexAhead))

theorem turnsAhead_of_ne (h : ∀ inStop, d.callers 0 ≠ .join inStop .worker) :
    d.turnsAhead = (d.callers 0).deliveries := by
  unfold turnsAhead
  split
  · rename_i hpc
    exact absurd hpc (h _)
  · rfl

/-! ### One step -/

/-- Every step of the worker brings it nearer to its end, if nothing is pushed any more. -/
theorem WorkerEffect.ahead_lt {gates : Bool} {e : WorkerEvent} (h : WorkerEffect gates d e d') :
    d'.workerAhead < d.workerAhead := by
  unfold workerAhead
  cases h with
  | pop hw hq =>
    have hlength := congrArg List.length (ControlQueue.waitPop_operation hq).1
    rw [List.length_cons] at hlength
    simp [hw, hlength, Worker.ahead, Stage.ahead, advance]
    omega
  | exit hw hq => simp [hw, Worker.ahead]
  | move hw hmove _ => cases hmove <;> simp [hw, Worker.ahead, Stage.ahead, advance]
  | call hw => simp [hw, Worker.ahead, Stage.ahead, advance]
  | countSkip hw _ => simp [hw, Worker.ahead, Stage.ahead, executed]
  | count hw _ => simp [hw, Worker.ahead, Stage.ahead, advance]
  | invoke hw => simp [hw, Worker.ahead, Stage.ahead, advance]
  | callbackReturn hw => simp [hw, Worker.ahead, Stage.ahead, executed]

/-- A thread in `submit` that holds the mutex moves on. -/
theorem holder_progress (hpc : (d.callers t).holding ≠ 0) (hm : d.lifecycleMutex = some t)
    (found : Bool) :
    ∃ e d', d.stepCaller t e = some d' ∧ (∀ c, e ≠ .call c) ∧
      (∀ f, e = .submitResolve f → f = found) ∧ (∀ u, u ≠ t → d'.callers u = d.callers u) ∧
      d'.mutexAhead < d.mutexAhead := by
  have hbefore : d.mutexAhead = (d.callers t).holding := by simp [mutexAhead, hm]
  rw [hbefore]
  have hothers : ∀ (c : Caller) u, u ≠ t → Function.update d.callers t c u = d.callers u :=
    fun c u hu => Function.update_of_ne hu _ _
  cases hcaller : d.callers t with
  | submit submission pc =>
    cases pc with
    | resolve =>
      refine ⟨.submitResolve found, _, by simp [stepCaller, stepSubmit, hcaller]; rfl, by simp,
        fun f hf => by cases hf; rfl, hothers _, ?_⟩
      cases found <;> simp [mutexAhead, hm, Caller.holding]
    | push =>
      refine ⟨.submitPush 0, _, by simp [stepCaller, stepSubmit, hcaller]; rfl, by simp, by simp,
        hothers _, ?_⟩
      simp [mutexAhead, hm, Caller.holding]
    | record result =>
      refine ⟨.submitRecord, _, by simp [stepCaller, stepSubmit, hcaller]; rfl, by simp, by simp,
        hothers _, ?_⟩
      simp [mutexAhead, Caller.holding]
    | _ => simp [hcaller, Caller.holding] at hpc
  | _ => simp [hcaller, Caller.holding] at hpc

/-- A thread in `start`, `request_stop` or `join` moves on, if it has the mutex where it needs it
and what it waits for has happened; `ok` says how `worker_.join()` ends. -/
theorem caller_progress (hpc : (d.callers t).ahead ≠ 0) (ok : Bool)
    (hmutex : (d.callers t).holdsLifecycle = false →
      (∀ inStop, d.callers t ≠ .join inStop .worker) → d.lifecycleMutex = none)
    (hwait : ∀ inStop, d.callers t = .join inStop .wait →
      d.stopRequestComplete = true ∧ d.joinInProgress = false)
    (hworker : ∀ inStop, d.callers t = .join inStop .worker → ok = true → d.worker = .exited) :
    ∃ e d', d.stepCaller t e = some d' ∧ (∀ c, e ≠ .call c) ∧
      (∀ ok', e = .joinWorker ok' → ok' = ok) ∧
      ((d'.callers t).ahead < (d.callers t).ahead ∨ (d'.callers t).ahead = (d.callers t).ahead ∧
        (d'.callers t).deliveries < (d.callers t).deliveries) := by
  cases hcaller : d.callers t with
  | idle => simp [hcaller, Caller.ahead] at hpc
  | submit submission pc => simp [hcaller, Caller.ahead] at hpc
  | start =>
    have hm := hmutex (by rw [hcaller]; rfl) (by simp [hcaller])
    refine ⟨.start true, _, by simp [stepCaller, hcaller, hm]; rfl, by simp, by simp, .inl ?_⟩
    unfold stepStart
    split_ifs <;> simp [Caller.ahead]
  | requestStop inStop pc =>
    cases pc with
    | lock =>
      have hm := hmutex (by rw [hcaller]; rfl) (by simp [hcaller])
      refine ⟨.stopLock, _, by simp [stepCaller, stepRequestStop, hcaller, hm]; rfl, by simp, by simp,
        .inl ?_⟩
      split_ifs
      · cases inStop <;> simp [afterRequestStop, Caller.ahead]
      · simp [Caller.ahead]
    | close =>
      refine ⟨.stopClose, _, by simp [stepCaller, stepRequestStop, hcaller]; rfl, by simp, by simp,
        .inl ?_⟩
      simp [Caller.ahead]
    | cancel =>
      refine ⟨.stopCancel true, _, by simp [stepCaller, stepRequestStop, hcaller]; rfl, by simp,
        by simp, .inl ?_⟩
      simp [Caller.ahead]
    | deliver pending =>
      cases pending with
      | nil =>
        refine ⟨.stopDeliver, _, by simp [stepCaller, stepRequestStop, hcaller]; rfl, by simp, by simp,
          .inl ?_⟩
        simp [Caller.ahead]
      | cons op pending =>
        refine ⟨.stopDeliver, _, by simp [stepCaller, stepRequestStop, hcaller]; rfl, by simp, by simp,
          .inr ?_⟩
        split_ifs
        · simp [Caller.ahead, Caller.deliveries]
          omega
        · simp [Caller.ahead, Caller.deliveries]
    | invoke op pending =>
      refine ⟨.stopInvoke, _, by simp [stepCaller, stepRequestStop, hcaller]; rfl, by simp, by simp,
        .inr ?_⟩
      simp [Caller.ahead, Caller.deliveries]
    | callback op pending =>
      refine ⟨.stopCallbackReturn, _, by simp [stepCaller, stepRequestStop, hcaller]; rfl, by simp,
        by simp, .inr ?_⟩
      simp [Caller.ahead, Caller.deliveries]
    | finish =>
      have hm := hmutex (by rw [hcaller]; rfl) (by simp [hcaller])
      refine ⟨.stopFinish, _, by simp [stepCaller, stepRequestStop, hcaller, hm]; rfl, by simp,
        by simp, .inl ?_⟩
      cases inStop <;> simp [afterRequestStop, Caller.ahead]
  | join inStop pc =>
    cases pc with
    | lock =>
      have hm := hmutex (by rw [hcaller]; rfl) (by simp [hcaller])
      refine ⟨.joinLock, _, by simp [stepCaller, stepJoin, hcaller, hm]; rfl, by simp, by simp,
        .inl ?_⟩
      split_ifs <;> simp [Caller.ahead]
    | wait =>
      have hm := hmutex (by rw [hcaller]; rfl) (by simp [hcaller])
      obtain ⟨hcomplete, hprogress⟩ := hwait inStop hcaller
      refine ⟨.joinWait, _, by simp [stepCaller, stepJoin, hcaller, hm, hcomplete, hprogress]; rfl,
        by simp, by simp, .inl ?_⟩
      split_ifs <;> simp [Caller.ahead]
    | worker =>
      have hstep : d.stepCaller t (.joinWorker ok) = some (d.goto t (.join inStop (.finish ok))) := by
        simp only [stepCaller, hcaller, stepJoin]
        exact if_pos (hworker inStop hcaller)
      refine ⟨.joinWorker ok, _, hstep, by simp, fun ok' h => by cases h; rfl, .inl ?_⟩
      simp [Caller.ahead]
    | finish ok' =>
      have hm := hmutex (by rw [hcaller]; rfl) (by simp [hcaller])
      refine ⟨.joinFinish, _, by simp [stepCaller, stepJoin, hcaller, hm]; rfl, by simp, by simp,
        .inl ?_⟩
      simp [Caller.ahead]

/-! ### Thread `0` -/

/-- A step of thread `0` brings it nearer to the end of its call. -/
theorem callAhead_lt_of_caller (h : (d'.callers 0).ahead < (d.callers 0).ahead ∨
    (d'.callers 0).ahead = (d.callers 0).ahead ∧
      (d'.callers 0).deliveries < (d.callers 0).deliveries) : d'.callAhead < d.callAhead := by
  refine Prod.Lex.toLex_lt_toLex.mpr ?_
  rcases h with hlt | ⟨heq, hlt⟩
  · exact .inl hlt
  · -- it is in the loop over the cancelled operations, before and after
    have hloop : ∀ c : Caller, c.deliveries ≠ 0 → c.ahead = 6 := by
      intro c hc
      unfold Caller.deliveries at hc
      split at hc
      · rfl
      · rfl
      · rfl
      · exact absurd rfl hc
    have hsix := hloop (d.callers 0) (by omega)
    have hout : ∀ c : Caller, c.ahead = 6 → ∀ inStop, c ≠ .join inStop .worker := by
      rintro c hc inStop rfl
      cases hc
    refine .inr ⟨heq, Prod.Lex.toLex_lt_toLex.mpr (.inl ?_)⟩
    show d'.turnsAhead < d.turnsAhead
    rw [turnsAhead_of_ne (hout _ (heq.trans hsix)), turnsAhead_of_ne (hout _ hsix)]
    exact hlt

/-- A step of the worker that it joins does, too. -/
theorem callAhead_lt_of_worker {gates : Bool} {e : WorkerEvent} {inStop : Bool}
    (h : WorkerEffect gates d e d') (hpc : d.callers 0 = .join inStop .worker) :
    d'.callAhead < d.callAhead := by
  have hcallers : d'.callers 0 = d.callers 0 := by rw [h.frame.1]
  refine Prod.Lex.toLex_lt_toLex.mpr (.inr ⟨by rw [hcallers], Prod.Lex.toLex_lt_toLex.mpr (.inl ?_)⟩)
  have hlt := h.ahead_lt
  simpa [turnsAhead, hcallers, hpc] using hlt

/-- And so does a step of a thread that holds the mutex. -/
theorem callAhead_lt_of_holder (hsame : d'.callers 0 = d.callers 0)
    (hout : ∀ inStop, d.callers 0 ≠ .join inStop .worker) (hlt : d'.mutexAhead < d.mutexAhead) :
    d'.callAhead < d.callAhead := by
  refine Prod.Lex.toLex_lt_toLex.mpr (.inr ⟨by rw [hsame], Prod.Lex.toLex_lt_toLex.mpr (.inr ?_)⟩)
  refine ⟨?_, hlt⟩
  show d'.turnsAhead = d.turnsAhead
  rw [turnsAhead_of_ne hout, turnsAhead_of_ne (by rwa [hsame]), hsame]

end Dispatcher

end MiniGateway
