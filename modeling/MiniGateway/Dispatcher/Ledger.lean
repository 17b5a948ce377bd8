/-
  Where every accepted operation is, and which completions have been called.

  * `Fifo`: the accepted operations are those taken by the worker, then those removed by
    `cancel_pending`, then those still queued.
  * `WorkerLedger`: the worker is done with all it has taken except the operation in hand, and it
    has called exactly the completions of those it is done with and of the one it is inside.
  * `StopLedger`: the same for `request_stop` and the operations it removed.
  * `Tickets`: the numbers that tell `submit` calls apart.
-/
import MiniGateway.Dispatcher.Invariant

namespace MiniGateway.Dispatcher

variable {gates : Bool} {s s' : Dispatcher} {e : DispatcherEvent}

/-! ### The queue -/

/-- **Acceptance order.** -/
structure Fifo (s : Dispatcher) : Prop where
  order : s.history.accepted = s.history.taken ++ s.history.cancelled ++ s.queue.queue
  drained : s.history.cancelled ≠ [] → s.queue.queue = [] ∧ s.queue.closed = true
  controlled : ∀ op ∈ s.history.controlled, op ∈ s.history.taken

private theorem Fifo.caller {t : ThreadId} {e : CallerEvent} (hs : Stopping s) (h : Fifo s)
    (he : CallerEffect s t e s') : Fifo s' := by
  cases he with
  | @submitAccepted sub now _ hpush =>
    obtain ⟨-, hopen, -, hqueue, -⟩ | ⟨hne, -⟩ := s.queue.tryPush_cases (sub.operation now)
    · refine ⟨?_, fun hne => ?_, h.controlled⟩
      · show s.history.accepted ++ _ = _ ++ (s.queue.tryPush _).2.queue
        rw [hqueue, h.order, List.append_assoc]
      · rw [(h.drained hne).2] at hopen
        cases hopen
    · exact absurd hpush hne
  | @submitRejected sub now _ hpush =>
    obtain ⟨heq, -⟩ | ⟨-, hqueue, hclosed⟩ := s.queue.tryPush_cases (sub.operation now)
    · exact absurd heq hpush
    · refine ⟨?_, ?_, h.controlled⟩
      · show s.history.accepted = s.history.taken ++ s.history.cancelled ++ _
        rw [hqueue, h.order]
      · intro hne
        rw [hqueue, hclosed]
        exact h.drained hne
  | stopClose _ => exact ⟨h.order, fun hne => ⟨(h.drained hne).1, rfl⟩, h.controlled⟩
  | @stopCancel inStop allocated hpc =>
    have hclosed := hs.passed t inStop .cancel hpc (by simp) (by simp)
    obtain ⟨hsplit, hempty⟩ := s.queue.cancelPending_split allocated
    refine ⟨?_, fun hne => ⟨?_, by simpa using hclosed⟩, h.controlled⟩
    · show s.history.accepted = s.history.taken ++ (s.history.cancelled ++ _) ++ _
      rw [h.order, ← List.append_assoc, List.append_assoc (_ ++ _), hsplit]
    · by_cases hold : s.history.cancelled = []
      · exact hempty fun hnil => hne (by simp [hold, hnil])
      · rw [(h.drained hold).1] at hsplit
        exact (List.append_eq_nil_iff.mp hsplit).2
  | _ => exact ⟨h.order, h.drained, h.controlled⟩

private theorem Fifo.worker {e : WorkerEvent} (h : Fifo s) (he : WorkerEffect gates s e s')
    (hhand : ∀ op ∈ s.worker.inHand, op ∈ s.history.taken) : Fifo s' := by
  cases he with
  | @pop op rest now hw hq =>
    obtain ⟨hqueue, hclosed⟩ := ControlQueue.waitPop_operation hq
    -- what is popped was queued, so nothing has been cancelled yet
    have hnone : s.history.cancelled = [] := by
      by_contra hne
      rw [(h.drained hne).1] at hqueue
      cases hqueue
    refine ⟨?_, fun hne => absurd hnone hne, fun op' hop' => ?_⟩
    · show s.history.accepted = (s.history.taken ++ [op]) ++ s.history.cancelled ++ rest.queue
      rw [h.order, hnone, hqueue]
      simp
    · exact List.mem_append_left _ (h.controlled op' hop')
  | @call op es gated hw =>
    refine ⟨h.order, h.drained, fun op' hop' => ?_⟩
    rcases List.mem_append.mp hop' with hold | hnew
    · exact h.controlled op' hold
    · exact hhand op' (by rw [hw]; exact hnew)
  | _ => exact ⟨h.order, h.drained, h.controlled⟩

/-! ### The worker's side -/

/-- What the worker has done with the operations it took. -/
structure WorkerLedger (s : Dispatcher) : Prop where
  taken : s.history.taken = s.history.executedDone ++ s.worker.inHand
  calls : s.history.executedCalls.map Invocation.operation =
    (s.history.executedDone ++ s.worker.inCallback.toList).filter (·.completion.isSome)
  invoke : ∀ op es result, s.worker = .executing op es (.invoke result) →
    op.completion.isSome = true
  result : ∀ op es stage result, s.worker = .executing op es stage →
    stage.result? = some result → result.requestId = op.request.requestId
  ids : ∀ call ∈ s.history.executedCalls,
    call.result.requestId = call.operation.request.requestId

/-- Only the worker writes what `WorkerLedger` reads, apart from its start. -/
private theorem WorkerLedger.caller {t : ThreadId} {e : CallerEvent} (hs : Stopping s)
    (h : WorkerLedger s) (he : CallerEffect s t e s') : WorkerLedger s' := by
  cases he with
  | started _ _ hstarted _ =>
    have hw := hs.absent.mpr hstarted
    exact {
      taken := by simpa [hw, Worker.inHand] using h.taken
      calls := by simpa [hw, Worker.inCallback] using h.calls
      invoke := by intro _ _ _ hw'; cases hw'
      result := by intro _ _ _ _ hw'; cases hw'
      ids := h.ids }
  | _ => exact ⟨h.taken, h.calls, h.invoke, h.result, h.ids⟩

/-- `driver->control` cannot replace the request id, and `execute` fills it in everywhere else. -/
private theorem StageMove.result {op : ControlOperation} {stage stage' : Stage} {e : WorkerEvent}
    (h : StageMove gates op stage e stage')
    (hold : ∀ result, stage.result? = some result → result.requestId = op.request.requestId) :
    ∀ result, stage'.result? = some result → result.requestId = op.request.requestId := by
  intro result hr
  cases h with
  | unlock => exact hold _ hr
  | finish => exact hold _ hr
  | driverReturn =>
    obtain rfl := Option.some.inj hr
    unfold driverResult
    split_ifs <;> rfl
  | _ =>
    first
      | (obtain rfl := Option.some.inj hr; rfl)
      | cases hr

private theorem StageMove.target {op : ControlOperation} {stage stage' : Stage} {e : WorkerEvent}
    (h : StageMove gates op stage e stage') :
    (∀ result, stage' ≠ .invoke result) ∧ (∀ result, stage' ≠ .callback result) ∧
      (∀ result, stage ≠ .callback result) := by
  cases h <;> simp

private theorem Worker.inCallback_eq_none {op : ControlOperation} {es : TimePoint} {stage : Stage}
    (h : ∀ result, stage ≠ .callback result) :
    (Worker.executing op es stage).inCallback = none := by
  cases stage <;> simp_all [Worker.inCallback]

private theorem WorkerLedger.worker {e : WorkerEvent} (h : WorkerLedger s)
    (he : WorkerEffect gates s e s') : WorkerLedger s' := by
  have htaken := h.taken
  have hcalls := h.calls
  cases he with
  | @pop op rest now hw hq =>
    rw [hw] at htaken hcalls
    exact {
      taken := by simpa [advance, Worker.inHand] using htaken
      calls := by simpa [advance, Worker.inCallback] using hcalls
      invoke := by intro _ _ _ hw'; cases hw'
      result := by intro _ _ _ _ hw' hr; cases hw'; cases hr
      ids := h.ids }
  | exit hw hq =>
    rw [hw] at htaken hcalls
    exact {
      taken := htaken
      calls := hcalls
      invoke := by intro _ _ _ hw'; cases hw'
      result := by intro _ _ _ _ hw'; cases hw'
      ids := h.ids }
  | @move op es stage stage' _ _ hw hmove _ =>
    obtain ⟨hninvoke, hncallback, hncallback'⟩ := hmove.target
    rw [hw] at htaken hcalls
    rw [Worker.inCallback_eq_none hncallback'] at hcalls
    exact {
      taken := htaken
      calls := by
        show _ = (_ ++ (Worker.executing op es stage').inCallback.toList).filter _
        rw [Worker.inCallback_eq_none hncallback]
        exact hcalls
      invoke := by
        intro _ _ r hw'
        cases hw'
        exact absurd rfl (hninvoke r)
      result := by
        intro _ _ _ r hw' hr
        cases hw'
        exact hmove.result (fun r hr => h.result op es stage r hw hr) r hr
      ids := h.ids }
  | @call op es gated hw =>
    rw [hw] at htaken hcalls
    exact {
      taken := htaken
      calls := hcalls
      invoke := by intro _ _ _ hw'; cases hw'
      result := by intro _ _ _ _ hw' hr; cases hw'; cases hr
      ids := h.ids }
  | @countSkip op es result hw hc =>
    rw [hw] at htaken hcalls
    exact {
      taken := by simpa [executed, Worker.inHand] using htaken
      calls := by simpa [executed, Worker.inCallback, hc] using hcalls
      invoke := by intro _ _ _ hw'; cases hw'
      result := by intro _ _ _ _ hw'; cases hw'
      ids := h.ids }
  | @count op es result hw hc =>
    have hid := h.result op es _ result hw rfl
    rw [hw] at htaken hcalls
    exact {
      taken := htaken
      calls := hcalls
      invoke := by intro _ _ _ hw'; cases hw'; exact hc
      result := by intro _ _ _ _ hw' hr; cases hw'; cases hr; exact hid
      ids := h.ids }
  | @invoke op es result hw =>
    have hc := h.invoke op es result hw
    have hid := h.result op es _ result hw rfl
    rw [hw] at htaken hcalls
    exact {
      taken := htaken
      calls := by
        simp only [Worker.inCallback, Option.toList_none, List.append_nil] at hcalls
        simp [advance, Worker.inCallback, hcalls, hc]
      invoke := by intro _ _ _ hw'; cases hw'
      result := by intro _ _ _ _ hw' hr; cases hw'; cases hr; exact hid
      ids := by
        intro call hcall
        rcases List.mem_append.mp hcall with hold | hnew
        · exact h.ids call hold
        · obtain rfl := List.mem_singleton.mp hnew
          exact hid }
  | @callbackReturn op es result hw =>
    rw [hw] at htaken hcalls
    exact {
      taken := by simpa [executed, Worker.inHand] using htaken
      calls := by simpa [executed, Worker.inCallback] using hcalls
      invoke := by intro _ _ _ hw'; cases hw'
      result := by intro _ _ _ _ hw'; cases hw'
      ids := h.ids }

/-! ### The side of `request_stop` -/

/-- Where the thread in the stopping call stands. -/
def stopCaller (s : Dispatcher) : Caller :=
  match s.history.stopper with
  | some t => s.callers t
  | none => .idle

theorem stopCaller_of_isStopping (hl : Locking s) {t : ThreadId}
    (ht : (s.callers t).isStopping = true) : s.stopCaller = s.callers t := by
  unfold stopCaller
  rw [hl.stopper.owner_eq ht]

theorem stopCaller_congr (hcallers : s'.callers = s.callers)
    (hstopper : s'.history.stopper = s.history.stopper) : s'.stopCaller = s.stopCaller := by
  unfold stopCaller
  rw [hcallers, hstopper]

/-- A step of a thread outside the stopping call. -/
theorem stopCaller_of_not_isStopping (hl : Locking s) {t : ThreadId} {c : Caller}
    (ht : (s.callers t).isStopping = false) (hcallers : s'.callers = Function.update s.callers t c)
    (hstopper : s'.history.stopper = s.history.stopper) : s'.stopCaller = s.stopCaller := by
  unfold stopCaller
  rw [hstopper, hcallers]
  cases hown : s.history.stopper with
  | none => rfl
  | some u =>
    have hne : u ≠ t := by
      rintro rfl
      rw [(hl.stopper u).mpr hown] at ht
      cases ht
    exact Function.update_of_ne hne _ _

/-- A step of the stopping thread that stays in the stopping call. -/
theorem stopCaller_step (hl : Locking s) {t : ThreadId} {c : Caller}
    (ht : (s.callers t).isStopping = true) (hcallers : s'.callers = Function.update s.callers t c)
    (hstopper : s'.history.stopper = s.history.stopper) : s'.stopCaller = c := by
  unfold stopCaller
  rw [hstopper, hl.stopper.owner_eq ht, hcallers]
  exact Function.update_self ..

/-- What `request_stop` has done with the operations it removed. -/
structure StopLedger (s : Dispatcher) : Prop where
  cancelled : s.history.cancelled = s.history.cancelledDone ++ s.stopCaller.inHand
  calls : s.history.cancelledCalls.map Invocation.operation =
    (s.history.cancelledDone ++ s.stopCaller.inCallback.toList).filter (·.completion.isSome)
  invoke : ∀ t inStop op pending, s.callers t = .requestStop inStop (.invoke op pending) →
    op.completion.isSome = true
  ids : ∀ call ∈ s.history.cancelledCalls,
    call.result.requestId = call.operation.request.requestId

private theorem invoke_update {t : ThreadId} {c : Caller}
    (hold : ∀ t inStop op pending, s.callers t = .requestStop inStop (.invoke op pending) →
      op.completion.isSome = true)
    (hc : ∀ inStop op pending, c = .requestStop inStop (.invoke op pending) →
      op.completion.isSome = true) :
    ∀ u inStop op pending, Function.update s.callers t c u =
      .requestStop inStop (.invoke op pending) → op.completion.isSome = true := by
  intro u inStop op pending hu
  by_cases hut : u = t
  · subst hut
    exact hc inStop op pending (by simpa using hu)
  · exact hold u inStop op pending (by simpa [Function.update_of_ne hut] using hu)

/-- A step of a thread outside the stopping call, which writes nothing that the ledger reads. -/
private theorem StopLedger.other (hl : Locking s) (h : StopLedger s) {t : ThreadId} {c : Caller}
    (ht : (s.callers t).isStopping = false) (hcallers : s'.callers = Function.update s.callers t c)
    (hstopper : s'.history.stopper = s.history.stopper)
    (hcancelled : s'.history.cancelled = s.history.cancelled)
    (hdone : s'.history.cancelledDone = s.history.cancelledDone)
    (hcalls : s'.history.cancelledCalls = s.history.cancelledCalls)
    (hc : ∀ inStop op pending, c ≠ .requestStop inStop (.invoke op pending)) : StopLedger s' := by
  have hsame := stopCaller_of_not_isStopping hl ht hcallers hstopper
  refine ⟨?_, ?_, ?_, ?_⟩
  · rw [hcancelled, hdone, hsame]; exact h.cancelled
  · rw [hcalls, hdone, hsame]; exact h.calls
  · rw [hcallers]; exact invoke_update h.invoke fun _ _ _ heq => absurd heq (hc _ _ _)
  · rw [hcalls]; exact h.ids

private theorem StopLedger.caller {t : ThreadId} {e : CallerEvent} (hl : Locking s)
    (hs : Stopping s) (h : StopLedger s) (he : CallerEffect s t e s') : StopLedger s' := by
  have hcancelled := h.cancelled
  have hcalls := h.calls
  -- a step of the stopping thread: rewrite the ledger at its old and its new position
  have hstopping : ∀ {c : Caller}, (s.callers t).isStopping = true →
      s'.callers = Function.update s.callers t c → s'.history.stopper = s.history.stopper →
      s.stopCaller = s.callers t ∧ s'.stopCaller = c := fun ht hc hst =>
    ⟨stopCaller_of_isStopping hl ht, stopCaller_step hl ht hc hst⟩
  cases he with
  | stopFirst hpc hm hns =>
    have hnone := hs.stopper_eq_none hns
    have hold : s.stopCaller = .idle := by simp [stopCaller, hnone]
    rw [hold] at hcancelled hcalls
    refine ⟨?_, ?_, invoke_update h.invoke (by simp), h.ids⟩
    · simpa [stopCaller, Caller.inHand] using hcancelled
    · simpa [stopCaller, Caller.inCallback] using hcalls
  | @stopClose inStop hpc =>
    obtain ⟨hold, hnew⟩ := hstopping (by rw [hpc]; rfl) rfl rfl
    rw [hold, hpc] at hcancelled hcalls
    exact ⟨by rw [hnew]; exact hcancelled, by rw [hnew]; exact hcalls,
      invoke_update h.invoke (by simp), h.ids⟩
  | @stopCancel inStop allocated hpc =>
    obtain ⟨hold, hnew⟩ := hstopping (by rw [hpc]; rfl) rfl rfl
    rw [hold, hpc] at hcancelled hcalls
    refine ⟨?_, by rw [hnew]; exact hcalls, invoke_update h.invoke (by simp), h.ids⟩
    rw [hnew]
    simpa [Caller.inHand] using hcancelled
  | @stopDelivered inStop hpc =>
    obtain ⟨hold, hnew⟩ := hstopping (by rw [hpc]; rfl) rfl rfl
    rw [hold, hpc] at hcancelled hcalls
    exact ⟨by rw [hnew]; exact hcancelled, by rw [hnew]; exact hcalls,
      invoke_update h.invoke (by simp), h.ids⟩
  | @stopSkip inStop op pending hpc hc =>
    obtain ⟨hold, hnew⟩ := hstopping (by rw [hpc]; rfl) rfl rfl
    rw [hold, hpc] at hcancelled hcalls
    refine ⟨?_, ?_, invoke_update h.invoke (by simp), h.ids⟩
    · rw [hnew]; simpa [Caller.inHand] using hcancelled
    · rw [hnew]; simpa [Caller.inCallback, hc] using hcalls
  | @stopCount inStop op pending hpc hc =>
    obtain ⟨hold, hnew⟩ := hstopping (by rw [hpc]; rfl) rfl rfl
    rw [hold, hpc] at hcancelled hcalls
    refine ⟨by rw [hnew]; exact hcancelled, by rw [hnew]; exact hcalls,
      invoke_update h.invoke ?_, h.ids⟩
    rintro _ _ _ ⟨⟩
    exact hc
  | @stopInvoke inStop op pending hpc =>
    obtain ⟨hold, hnew⟩ := hstopping (by rw [hpc]; rfl) rfl rfl
    have hc := h.invoke t inStop op pending hpc
    rw [hold, hpc] at hcancelled hcalls
    refine ⟨by rw [hnew]; exact hcancelled, ?_, invoke_update h.invoke (by simp), ?_⟩
    · simp only [Caller.inCallback, Option.toList_none, List.append_nil] at hcalls
      rw [hnew]
      simp [Caller.inCallback, hcalls, hc]
    · intro call hcall
      rcases List.mem_append.mp hcall with hold | hnew
      · exact h.ids call hold
      · obtain rfl := List.mem_singleton.mp hnew
        rfl
  | @stopCallbackReturn inStop op pending hpc =>
    obtain ⟨hold, hnew⟩ := hstopping (by rw [hpc]; rfl) rfl rfl
    rw [hold, hpc] at hcancelled hcalls
    refine ⟨?_, ?_, invoke_update h.invoke (by simp), h.ids⟩
    · rw [hnew]; simpa [Caller.inHand] using hcancelled
    · rw [hnew]; simpa [Caller.inCallback] using hcalls
  | @stopFinish inStop hpc hm =>
    rw [stopCaller_of_isStopping hl (by rw [hpc]; rfl), hpc] at hcancelled hcalls
    refine ⟨?_, ?_, invoke_update h.invoke (by cases inStop <;> simp [afterRequestStop]), h.ids⟩
    · simpa [stopCaller, Caller.inHand] using hcancelled
    · simpa [stopCaller, Caller.inCallback] using hcalls
  | @stopAgain inStop hpc hm hst =>
    exact h.other hl (by rw [hpc]; rfl) rfl rfl rfl rfl rfl
      (by cases inStop <;> simp [afterRequestStop])
  | _ hpc => exact h.other hl (by rw [hpc]; rfl) rfl rfl rfl rfl rfl (by simp)

/-! ### Tickets -/

/-- Every `submit` call has its own ticket, and the accepted operations are those of the calls
that have returned `Accepted` or are about to. -/
structure Tickets (s : Dispatcher) : Prop where
  running : ∀ t sub pc, s.callers t = .submit sub pc →
    sub.ticket < s.history.submissions ∧ ∀ r ∈ s.history.returns, r.1.ticket ≠ sub.ticket
  distinct : ∀ t u sub sub' pc pc', s.callers t = .submit sub pc → s.callers u = .submit sub' pc' →
    sub.ticket = sub'.ticket → t = u
  returned : ∀ r ∈ s.history.returns, r.1.ticket < s.history.submissions
  returns : (s.history.returns.map (·.1.ticket)).Nodup
  accepted : ∀ op ∈ s.history.accepted,
    (∃ t sub, s.callers t = .submit sub (.record .accepted) ∧ sub.IsOf op) ∨
      ∃ sub, (sub, .accepted) ∈ s.history.returns ∧ sub.IsOf op
  nodup : (s.history.accepted.map ControlOperation.ticket).Nodup
  recording : ∀ t sub, s.callers t = .submit sub (.record .accepted) →
    ∃ op ∈ s.history.accepted, sub.IsOf op
  recorded : ∀ sub, (sub, .accepted) ∈ s.history.returns → ∃ op ∈ s.history.accepted, sub.IsOf op

theorem Tickets.create (capacity : ℕ) : Tickets (Dispatcher.create capacity) where
  running t sub pc h := by cases h
  distinct t u sub sub' pc pc' h := by cases h
  returned r h := by cases h
  returns := List.nodup_nil
  accepted op h := by cases h
  nodup := List.nodup_nil
  recording t sub h := by cases h
  recorded sub h := by cases h

theorem Tickets.accepted_lt (h : Tickets s) {op : ControlOperation}
    (hop : op ∈ s.history.accepted) : op.ticket < s.history.submissions := by
  rcases h.accepted op hop with ⟨t, sub, hpc, hof⟩ | ⟨sub, hret, hof⟩
  · rw [hof.1]; exact (h.running t sub _ hpc).1
  · rw [hof.1]; exact h.returned _ hret

/-- A call that has not pushed yet, or whose push was refused, has no accepted operation. -/
theorem Tickets.not_accepted (h : Tickets s) {t : ThreadId} {sub : Submission} {pc : SubmitPc}
    (hpc : s.callers t = .submit sub pc) (hne : pc ≠ .record .accepted) {op : ControlOperation}
    (hop : op ∈ s.history.accepted) : op.ticket ≠ sub.ticket := by
  intro heq
  rcases h.accepted op hop with ⟨u, sub', hpc', hof⟩ | ⟨sub', hret, hof⟩
  · obtain rfl := h.distinct t u sub sub' pc _ hpc hpc' (heq.symm.trans hof.1)
    rw [hpc] at hpc'
    cases hpc'
    exact hne rfl
  · exact (h.running t sub pc hpc).2 _ hret (hof.1.symm.trans heq)

/-- A thread moves, without an accepted push and without a return. -/
private theorem Tickets.move (h : Tickets s) {t : ThreadId} {c : Caller}
    (hcallers : s'.callers = Function.update s.callers t c)
    (hsub : s'.history.submissions = s.history.submissions)
    (hret : s'.history.returns = s.history.returns)
    (hacc : s'.history.accepted = s.history.accepted)
    (hc : ∀ sub pc, c = .submit sub pc →
      pc ≠ .record .accepted ∧ ∃ pc', s.callers t = .submit sub pc')
    (hold : ∀ sub, s.callers t ≠ .submit sub (.record .accepted)) : Tickets s' := by
  -- every submission still running was running before, in the same thread
  have hback : ∀ u sub pc, s'.callers u = .submit sub pc → ∃ pc', s.callers u = .submit sub pc' := by
    intro u sub pc hu
    rw [hcallers] at hu
    by_cases hut : u = t
    · subst hut
      exact (hc sub pc (by simpa using hu)).2
    · exact ⟨pc, by simpa [Function.update_of_ne hut] using hu⟩
  have hrec : ∀ u sub, s'.callers u = .submit sub (.record .accepted) ↔
      s.callers u = .submit sub (.record .accepted) := by
    intro u sub
    rw [hcallers]
    by_cases hut : u = t
    · subst hut
      rw [Function.update_self]
      exact ⟨fun hu => absurd rfl (hc sub _ hu).1, fun hu => absurd hu (hold sub)⟩
    · rw [Function.update_of_ne hut]
  refine ⟨?_, ?_, ?_, ?_, ?_, ?_, ?_, ?_⟩
  · intro u sub pc hu
    obtain ⟨pc', hu'⟩ := hback u sub pc hu
    rw [hsub, hret]
    exact h.running u sub pc' hu'
  · intro u v sub sub' pc pc' hu hv
    obtain ⟨_, hu'⟩ := hback u sub pc hu
    obtain ⟨_, hv'⟩ := hback v sub' pc' hv
    exact h.distinct u v sub sub' _ _ hu' hv'
  · rw [hret, hsub]; exact h.returned
  · rw [hret]; exact h.returns
  · rw [hret, hacc]
    simp only [hrec]
    exact h.accepted
  · rw [hacc]; exact h.nodup
  · rw [hacc]
    simp only [hrec]
    exact h.recording
  · rw [hret, hacc]; exact h.recorded

/-- A `submit` call returns. -/
private theorem Tickets.submitReturn (h : Tickets s) {t : ThreadId} {sub : Submission}
    {pc : SubmitPc} {result : ControlSubmitResult} (hpc : s.callers t = .submit sub pc)
    (hcallers : s'.callers = Function.update s.callers t .idle)
    (hsub : s'.history.submissions = s.history.submissions)
    (hret : s'.history.returns = s.history.returns ++ [(sub, result)])
    (hacc : s'.history.accepted = s.history.accepted)
    (hresult : result = .accepted ↔ pc = .record .accepted) : Tickets s' := by
  have hback : ∀ u sub' pc', s'.callers u = .submit sub' pc' →
      u ≠ t ∧ s.callers u = .submit sub' pc' := by
    intro u sub' pc' hu
    rw [hcallers] at hu
    by_cases hut : u = t
    · subst hut
      simp at hu
    · exact ⟨hut, by simpa [Function.update_of_ne hut] using hu⟩
  obtain ⟨hlt, hfresh⟩ := h.running t sub pc hpc
  refine ⟨?_, ?_, ?_, ?_, ?_, ?_, ?_, ?_⟩
  · intro u sub' pc' hu
    obtain ⟨hut, hu'⟩ := hback u sub' pc' hu
    rw [hsub, hret]
    refine ⟨(h.running u sub' pc' hu').1, fun r hr => ?_⟩
    rcases List.mem_append.mp hr with hold | hnew
    · exact (h.running u sub' pc' hu').2 r hold
    · obtain rfl := List.mem_singleton.mp hnew
      exact fun heq => hut (h.distinct u t sub' sub pc' pc hu' hpc heq.symm)
  · intro u v sub₁ sub₂ pc₁ pc₂ hu hv
    exact h.distinct u v sub₁ sub₂ _ _ (hback _ _ _ hu).2 (hback _ _ _ hv).2
  · intro r hr
    rw [hret] at hr
    rw [hsub]
    rcases List.mem_append.mp hr with hold | hnew
    · exact h.returned r hold
    · obtain rfl := List.mem_singleton.mp hnew
      exact hlt
  · rw [hret, List.map_append, List.nodup_append]
    refine ⟨h.returns, by simp, ?_⟩
    intro a ha b hb heq
    obtain ⟨r, hr, rfl⟩ := List.mem_map.mp ha
    obtain rfl : b = sub.ticket := by simpa using hb
    exact hfresh r hr heq
  · intro op hop
    rw [hacc] at hop
    rw [hret]
    rcases h.accepted op hop with ⟨u, sub', hu, hof⟩ | ⟨sub', hr, hof⟩
    · by_cases hut : u = t
      · subst hut
        rw [hpc] at hu
        cases hu
        refine Or.inr ⟨sub, ?_, hof⟩
        simp [hresult.mpr rfl]
      · exact Or.inl ⟨u, sub', by rw [hcallers, Function.update_of_ne hut]; exact hu, hof⟩
    · exact Or.inr ⟨sub', List.mem_append_left _ hr, hof⟩
  · rw [hacc]; exact h.nodup
  · intro u sub' hu
    rw [hacc]
    exact h.recording u sub' (hback u sub' _ hu).2
  · intro sub' hr
    rw [hret] at hr
    rw [hacc]
    rcases List.mem_append.mp hr with hold | hnew
    · exact h.recorded sub' hold
    · obtain ⟨rfl, heq⟩ : sub' = sub ∧ ControlSubmitResult.accepted = result := by
        simpa using hnew
      exact h.recording t sub' (hresult.mp heq.symm ▸ hpc)

/-- A `submit` call begins, with the next ticket. -/
private theorem Tickets.submitCall (h : Tickets s) {t : ThreadId} {sub : Submission}
    (hidle : s.callers t = .idle) (hticket : sub.ticket = s.history.submissions)
    (hcallers : s'.callers = Function.update s.callers t (.submit sub .entry))
    (hsub : s'.history.submissions = s.history.submissions + 1)
    (hret : s'.history.returns = s.history.returns)
    (hacc : s'.history.accepted = s.history.accepted) : Tickets s' := by
  have hother : ∀ u, u ≠ t → s'.callers u = s.callers u := fun u hut => by
    rw [hcallers, Function.update_of_ne hut]
  have hself : s'.callers t = .submit sub .entry := by rw [hcallers, Function.update_self]
  refine ⟨?_, ?_, ?_, ?_, ?_, ?_, ?_, ?_⟩
  · intro u sub' pc hu
    rw [hsub, hret]
    by_cases hut : u = t
    · subst hut
      rw [hself] at hu
      cases hu
      exact ⟨by omega, fun r hr => by have := h.returned r hr; omega⟩
    · rw [hother u hut] at hu
      have := h.running u sub' pc hu
      exact ⟨by omega, this.2⟩
  · -- the new ticket is larger than every other one
    intro u v sub₁ sub₂ pc₁ pc₂ hu hv heq
    by_cases hut : u = t <;> by_cases hvt : v = t
    · exact hut.trans hvt.symm
    · subst hut
      rw [hself] at hu
      rw [hother v hvt] at hv
      cases hu
      have := (h.running v sub₂ pc₂ hv).1
      omega
    · subst hvt
      rw [hself] at hv
      rw [hother u hut] at hu
      cases hv
      have := (h.running u sub₁ pc₁ hu).1
      omega
    · rw [hother u hut] at hu
      rw [hother v hvt] at hv
      exact h.distinct u v sub₁ sub₂ pc₁ pc₂ hu hv heq
  · intro r hr
    rw [hret] at hr
    rw [hsub]
    exact Nat.lt_succ_of_lt (h.returned r hr)
  · rw [hret]; exact h.returns
  · intro op hop
    rw [hacc] at hop
    rw [hret]
    refine (h.accepted op hop).imp_left ?_
    rintro ⟨u, sub', hu, hof⟩
    have hut : u ≠ t := by rintro rfl; rw [hidle] at hu; cases hu
    exact ⟨u, sub', by rw [hother u hut]; exact hu, hof⟩
  · rw [hacc]; exact h.nodup
  · intro u sub' hu
    rw [hacc]
    by_cases hut : u = t
    · subst hut
      rw [hself] at hu
      cases hu
    · exact h.recording u sub' (by rw [← hother u hut]; exact hu)
  · rw [hret, hacc]; exact h.recorded

/-- A push is accepted. -/
private theorem Tickets.push (h : Tickets s) {t : ThreadId} {sub : Submission} {now : TimePoint}
    (hpc : s.callers t = .submit sub .push)
    (hcallers : s'.callers = Function.update s.callers t (.submit sub (.record .accepted)))
    (hsub : s'.history.submissions = s.history.submissions)
    (hret : s'.history.returns = s.history.returns)
    (hacc : s'.history.accepted = s.history.accepted ++ [sub.operation now]) : Tickets s' := by
  have hother : ∀ u, u ≠ t → s'.callers u = s.callers u := fun u hut => by
    rw [hcallers, Function.update_of_ne hut]
  have hself : s'.callers t = .submit sub (.record .accepted) := by
    rw [hcallers, Function.update_self]
  have hback : ∀ u sub' pc', s'.callers u = .submit sub' pc' →
      ∃ pc, s.callers u = .submit sub' pc := by
    intro u sub' pc' hu
    by_cases hut : u = t
    · subst hut
      rw [hself] at hu
      cases hu
      exact ⟨.push, hpc⟩
    · exact ⟨pc', by rw [← hother u hut]; exact hu⟩
  refine ⟨?_, ?_, ?_, ?_, ?_, ?_, ?_, ?_⟩
  · intro u sub' pc' hu
    obtain ⟨pc, hu'⟩ := hback u sub' pc' hu
    rw [hsub, hret]
    exact h.running u sub' pc hu'
  · intro u v sub₁ sub₂ pc₁ pc₂ hu hv
    obtain ⟨_, hu'⟩ := hback u sub₁ pc₁ hu
    obtain ⟨_, hv'⟩ := hback v sub₂ pc₂ hv
    exact h.distinct u v sub₁ sub₂ _ _ hu' hv'
  · rw [hret, hsub]; exact h.returned
  · rw [hret]; exact h.returns
  · intro op hop
    rw [hacc] at hop
    rw [hret]
    rcases List.mem_append.mp hop with hold | hnew
    · refine (h.accepted op hold).imp_left ?_
      rintro ⟨u, sub', hu, hof⟩
      have hut : u ≠ t := by rintro rfl; rw [hpc] at hu; cases hu
      exact ⟨u, sub', by rw [hother u hut]; exact hu, hof⟩
    · obtain rfl := List.mem_singleton.mp hnew
      exact Or.inl ⟨t, sub, hself, sub.isOf_operation now⟩
  · rw [hacc, List.map_append, List.nodup_append]
    refine ⟨h.nodup, by simp, ?_⟩
    intro a ha b hb heq
    obtain ⟨op, hop, rfl⟩ := List.mem_map.mp ha
    obtain rfl : b = sub.ticket := by simpa [Submission.operation] using hb
    exact h.not_accepted hpc (by simp) hop heq
  · intro u sub' hu
    rw [hacc]
    by_cases hut : u = t
    · subst hut
      rw [hself] at hu
      cases hu
      exact ⟨sub.operation now, by simp, sub.isOf_operation now⟩
    · obtain ⟨op, hop, hof⟩ := h.recording u sub' (by rw [← hother u hut]; exact hu)
      exact ⟨op, List.mem_append_left _ hop, hof⟩
  · intro sub' hr
    rw [hret] at hr
    rw [hacc]
    obtain ⟨op, hop, hof⟩ := h.recorded sub' hr
    exact ⟨op, List.mem_append_left _ hop, hof⟩

private theorem Tickets.caller {t : ThreadId} {e : CallerEvent} (h : Tickets s)
    (he : CallerEffect s t e s') : Tickets s' := by
  cases he with
  | callSubmit hpc => exact h.submitCall hpc rfl rfl rfl rfl rfl
  | submitAccepted hpc hpush => exact h.push hpc rfl rfl rfl rfl
  | submitInvalid hpc hv => exact h.submitReturn hpc rfl rfl rfl rfl (by simp)
  | submitRecord hpc => exact h.submitReturn hpc rfl rfl rfl rfl (by simp)
  | submitRejected hpc hpush =>
    refine h.move rfl rfl rfl rfl ?_ (by rw [hpc]; simp)
    rintro sub pc ⟨⟩
    exact ⟨by simpa using hpush, _, hpc⟩
  | @stopAgain inStop hpc hm hst =>
    exact h.move rfl rfl rfl rfl (by cases inStop <;> simp [afterRequestStop])
      (by rw [hpc]; simp)
  | @stopFinish inStop hpc hm =>
    exact h.move rfl rfl rfl rfl (by cases inStop <;> simp [afterRequestStop])
      (by rw [hpc]; simp)
  | _ hpc =>
    refine h.move rfl rfl rfl rfl ?_ (by rw [hpc]; simp)
    first
      | (intro sub pc heq; cases heq; done)
      | (rintro sub pc ⟨⟩; exact ⟨by simp, _, hpc⟩)

private theorem Tickets.worker {e : WorkerEvent} (h : Tickets s) (he : WorkerEffect gates s e s') :
    Tickets s' := by
  cases he <;>
    exact ⟨h.running, h.distinct, h.returned, h.returns, h.accepted, h.nodup, h.recording,
      h.recorded⟩

/-! ### All of it -/

/-- The invariant of the dispatcher. -/
structure Invariant (s : Dispatcher) : Prop where
  locking : Locking s
  stopping : Stopping s
  fifo : Fifo s
  worker : WorkerLedger s
  stop : StopLedger s
  tickets : Tickets s

private theorem Invariant.step (h : Invariant s) (hls : Locking s' ∧ Stopping s')
    (he : Effect gates s e s') : Invariant s' := by
  obtain ⟨hl, hs⟩ := hls
  cases he with
  | caller he =>
    exact ⟨hl, hs, h.fifo.caller h.stopping he, h.worker.caller h.stopping he,
      h.stop.caller h.locking h.stopping he, h.tickets.caller he⟩
  | worker he =>
    have hhand : ∀ op ∈ s.worker.inHand, op ∈ s.history.taken := fun op hop => by
      rw [h.worker.taken]
      exact List.mem_append_right _ hop
    obtain ⟨hcallers, -, -, -, -, hstopper, -⟩ := he.frame
    have hsame := stopCaller_congr hcallers hstopper
    refine ⟨hl, hs, h.fifo.worker he hhand, h.worker.worker he, ?_, h.tickets.worker he⟩
    refine ⟨?_, ?_, by rw [hcallers]; exact h.stop.invoke, ?_⟩
    · rw [hsame]; cases he <;> exact h.stop.cancelled
    · rw [hsame]; cases he <;> exact h.stop.calls
    · cases he <;> exact h.stop.ids

/-- **The invariant holds of every reachable state.** -/
theorem invariant {capacity : ℕ} (h : (dispatcherSystem capacity gates).Reachable s) :
    Invariant s := by
  refine h.invariant ?_ ?_
  · rintro s ⟨-, rfl⟩
    exact {
      locking := .create capacity
      stopping := .create capacity
      fifo := ⟨rfl, fun hne => absurd rfl hne, by simp [create]⟩
      worker := ⟨rfl, rfl, by simp [create], by simp [create], by simp [create]⟩
      stop := ⟨rfl, rfl, by simp [create], by simp [create]⟩
      tickets := .create capacity }
  · intro s e s' hr hi hstep
    exact hi.step (locking_stopping (hr.step hstep)) (step_effect hstep)

/-- What the constructor establishes, and the callers and the worker keep, holds of every reachable
state. -/
theorem invariant_of_effects {capacity : ℕ} {I : Dispatcher → Prop} (hcreate : I (create capacity))
    (hcaller : ∀ s t e s', Invariant s → I s → CallerEffect s t e s' → I s')
    (hworker : ∀ s e s', Invariant s → I s → WorkerEffect gates s e s' → I s')
    (h : (dispatcherSystem capacity gates).Reachable s) : I s := by
  refine h.invariant ?_ ?_
  · rintro s ⟨-, rfl⟩
    exact hcreate
  · intro s e s' hr hi hstep
    cases step_effect hstep with
    | caller he => exact hcaller _ _ _ _ (invariant hr) hi he
    | worker he => exact hworker _ _ _ (invariant hr) hi he

end MiniGateway.Dispatcher
