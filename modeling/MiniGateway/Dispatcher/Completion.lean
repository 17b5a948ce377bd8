/-
  Exactly-once, in-order completion.

  `Contract s` says what the users of `submit` rely on; `contract` proves it of every reachable
  state.  A completion is called at most once because the calls made so far are a sublist of the
  accepted operations, whose tickets are distinct; it is called at least once in the end because
  a worker that has exited and a `request_stop` that is over hold no operation, and the queue of
  an exited worker is empty.
-/
import MiniGateway.Dispatcher.Ledger
import Mathlib.Data.List.Nodup

namespace MiniGateway.Dispatcher

variable {gates : Bool} {s s' : Dispatcher}

/-! ### Calls and accepted operations -/

/-- The operations whose completion has been called. -/
def called (s : Dispatcher) : List ControlOperation :=
  (s.history.executedCalls ++ s.history.cancelledCalls).map Invocation.operation

theorem invocations_eq_count (s : Dispatcher) (ticket : ℕ) :
    s.invocations ticket = (s.called.map ControlOperation.ticket).count ticket := by
  unfold invocations called
  rw [List.map_map, List.count, List.countP_map]
  rfl

theorem inCallback_sublist_inHand (w : Worker) : w.inCallback.toList.Sublist w.inHand := by
  rcases w with _ | _ | ⟨op, es, stage⟩ | _
  case executing => cases stage <;> simp [Worker.inCallback, Worker.inHand]
  all_goals simp [Worker.inCallback]

theorem Caller.inCallback_sublist_inHand (c : Caller) : c.inCallback.toList.Sublist c.inHand := by
  rcases c with _ | _ | _ | ⟨inStop, pc⟩ | _
  case requestStop => cases pc <;> simp [MiniGateway.Caller.inCallback, MiniGateway.Caller.inHand]
  all_goals simp [MiniGateway.Caller.inCallback]

/-- What has been called is, in order, part of what has been taken and cancelled. -/
theorem Invariant.called_sublist (h : Invariant s) : s.called.Sublist s.history.accepted := by
  unfold called
  rw [List.map_append, h.worker.calls, h.stop.calls, h.fifo.order, h.worker.taken,
    h.stop.cancelled]
  refine List.Sublist.trans ?_ (List.sublist_append_left _ _)
  refine List.Sublist.append ?_ ?_
  · exact List.filter_sublist.trans
      ((List.Sublist.refl _).append (inCallback_sublist_inHand s.worker))
  · exact List.filter_sublist.trans
      ((List.Sublist.refl _).append (Caller.inCallback_sublist_inHand s.stopCaller))

theorem Invariant.invocations_le_one (h : Invariant s) (ticket : ℕ) : s.invocations ticket ≤ 1 := by
  rw [invocations_eq_count]
  have hnodup := h.tickets.nodup.sublist (h.called_sublist.map ControlOperation.ticket)
  exact List.nodup_iff_count_le_one.mp hnodup ticket

/-- Every accepted operation with a completion has been called, once nobody holds one. -/
theorem Invariant.called_of_finished (h : Invariant s) (hw : s.worker = .exited)
    (hstop : ∀ t, (s.callers t).isStopping = false) {op : ControlOperation}
    (hop : op ∈ s.history.accepted) (hc : op.completion.isSome = true) : op ∈ s.called := by
  have hnone : s.history.stopper = none := by
    by_contra hne
    obtain ⟨t, ht⟩ := Option.ne_none_iff_exists'.mp hne
    have := (h.locking.stopper t).mpr ht
    rw [hstop t] at this
    cases this
  have hidle : s.stopCaller = .idle := by simp [stopCaller, hnone]
  have htaken := h.worker.taken
  have hcalls := h.worker.calls
  have hcancelled := h.stop.cancelled
  have hcancels := h.stop.calls
  rw [hw] at htaken hcalls
  rw [hidle] at hcancelled hcancels
  simp only [Worker.inHand, Worker.inCallback, Caller.inHand, Caller.inCallback,
    Option.toList_none, List.append_nil] at htaken hcalls hcancelled hcancels
  rw [h.fifo.order, (h.stopping.exited hw).1, List.append_nil, htaken, hcancelled] at hop
  unfold called
  rw [List.map_append, hcalls, hcancels, ← List.filter_append, List.mem_filter]
  exact ⟨hop, hc⟩

/-- Nothing is accepted once `stopping_` is set. -/
theorem accepted_of_stopping {capacity : ℕ} (hr : (dispatcherSystem capacity gates).Reachable s)
    (hs : s.stopping = true) (hrun : (dispatcherSystem capacity gates).Reaches s s') :
    s'.history.accepted = s.history.accepted := by
  suffices h : s'.stopping = true ∧ s'.history.accepted = s.history.accepted from h.2
  refine (hrun.relation (R := fun s' => s'.stopping = true ∧
    s'.history.accepted = s.history.accepted) ?_ hr ⟨hs, rfl⟩).2
  rintro s₁ e s₂ hr₁ ⟨hs₁, hacc⟩ hstep
  cases step_effect hstep with
  | worker he =>
    have hframe := he.frame
    refine ⟨by rw [hframe.2.2.2.1]; exact hs₁, ?_⟩
    rw [← hacc]
    cases he <;> rfl
  | caller he =>
    cases he with
    | submitAccepted hpc _ =>
      have := ((invariant hr₁).locking.submitting _ _ _ hpc (Or.inr rfl)).2
      rw [hs₁] at this
      cases this
    | stopFirst _ _ hns => exact ⟨rfl, hacc⟩
    | _ => exact ⟨hs₁, hacc⟩

/-! ### The contract of `submit` -/

/-- What `submit` promises, in a state `s` of a run. -/
structure Contract (gates : Bool) (capacity : ℕ) (s : Dispatcher) : Prop where
  /-- A request for which `submit` returned `Accepted` is an accepted operation. -/
  returnedAccepted : ∀ sub, (sub, .accepted) ∈ s.history.returns →
    ∃ op ∈ s.history.accepted, sub.IsOf op
  /-- The completion of an accepted request is called at most once. -/
  atMostOnce : ∀ op ∈ s.history.accepted, s.invocations op.ticket ≤ 1
  /-- It is called exactly once when the worker has exited and `request_stop` is over. -/
  exactlyOnce : s.worker = .exited → (∀ t, (s.callers t).isStopping = false) →
    ∀ op ∈ s.history.accepted, op.completion.isSome = true → s.invocations op.ticket = 1
  /-- A request for which `submit` returned anything else never has its completion called. -/
  refused : ∀ sub result, (sub, result) ∈ s.history.returns → result ≠ .accepted →
    s.invocations sub.ticket = 0
  /-- What is called is the completion of an accepted request, with that request's id. -/
  ownRequest : ∀ call ∈ s.history.executedCalls ++ s.history.cancelledCalls,
    call.operation ∈ s.history.accepted ∧ call.operation.completion.isSome = true ∧
      call.result.requestId = call.operation.request.requestId
  /-- Acceptance order: taken by the worker, then cancelled, then still queued. -/
  order : s.history.accepted = s.history.taken ++ s.history.cancelled ++ s.queue.queue
  /-- No cancelled request reaches a driver's `control`. -/
  cancelledNotControlled : ∀ op ∈ s.history.cancelled, ∀ op' ∈ s.history.controlled,
    op'.ticket ≠ op.ticket
  /-- No `submit` call that begins after `stopping_` was set is ever accepted. -/
  noLateAccept : s.stopping = true → ∀ s', (dispatcherSystem capacity gates).Reaches s s' →
    ∀ op ∈ s'.history.accepted, op.ticket < s.history.submissions

/-- **Exactly-once, in-order control completion**, in every reachable state. -/
theorem contract {capacity : ℕ} (hr : (dispatcherSystem capacity gates).Reachable s) :
    Contract gates capacity s := by
  have h := invariant hr
  refine {
    returnedAccepted := h.tickets.recorded
    atMostOnce := fun op _ => h.invocations_le_one op.ticket
    exactlyOnce := ?_
    refused := ?_
    ownRequest := ?_
    order := h.fifo.order
    cancelledNotControlled := ?_
    noLateAccept := ?_ }
  · intro hw hstop op hop hc
    refine le_antisymm (h.invocations_le_one op.ticket) ?_
    rw [invocations_eq_count, Nat.one_le_iff_ne_zero, Nat.ne_zero_iff_zero_lt, List.count_pos_iff]
    exact List.mem_map_of_mem (h.called_of_finished hw hstop hop hc)
  · intro sub result hret hne
    rw [invocations_eq_count, List.count_eq_zero]
    intro hmem
    obtain ⟨op, hop, hticket⟩ := List.mem_map.mp hmem
    rcases h.tickets.accepted op (h.called_sublist.subset hop) with
      ⟨t, sub', hpc, hof⟩ | ⟨sub', hret', hof⟩
    · exact (h.tickets.running t sub' _ hpc).2 _ hret (hticket.symm.trans hof.1)
    · -- two returns with one ticket are one return
      have := List.inj_on_of_nodup_map h.tickets.returns hret hret' (hticket.symm.trans hof.1)
      exact hne (Prod.mk.inj this).2
  · intro call hcall
    have hop : call.operation ∈ s.called := List.mem_map_of_mem hcall
    refine ⟨h.called_sublist.subset hop, ?_, ?_⟩
    · unfold called at hop
      rw [List.map_append, h.worker.calls, h.stop.calls, ← List.filter_append,
        List.mem_filter] at hop
      exact hop.2
    · exact (List.mem_append.mp hcall).elim (h.worker.ids call) (h.stop.ids call)
  · intro op hop op' hop' heq
    have hnodup := h.tickets.nodup
    rw [h.fifo.order, List.append_assoc, List.map_append, List.nodup_append] at hnodup
    refine hnodup.2.2 _ (List.mem_map_of_mem (h.fifo.controlled op' hop')) _
      (List.mem_map_of_mem (List.mem_append_left _ hop)) heq
  · intro hs s' hrun op hop
    rw [accepted_of_stopping hr hs hrun] at hop
    exact h.tickets.accepted_lt hop

/-- A run with one executed and one cancelled request, and a `stop` that waits for both. -/
def stopWhileExecuting : List DispatcherEvent :=
  let request : DeviceControlRequest :=
    { requestId := lit "r", deviceId := lit "d", command := lit "c" }
  let start : List CallerEvent := [.call .start, .start true]
  let submit (t : ThreadId) : List CallerEvent :=
    [.call (.submit request (some t)), .submitCount, .submitCheck, .submitLock,
      .submitResolve true, .submitPush 0, .submitRecord]
  let take : List WorkerEvent :=
    [.pop 0, .countWait, .resolve true, .deadline 1, .recheck 2, .call]
  let stop : List CallerEvent :=
    [.call .stop, .stopLock, .stopClose, .stopCancel true, .stopDeliver, .stopInvoke,
      .stopCallbackReturn, .stopDeliver, .stopFinish]
  let finish : List WorkerEvent :=
    [.driverReturn { requestId := [], status := .succeeded } 3, .unlock, .finish 4, .count,
      .invoke, .callbackReturn, .exit]
  let join : List CallerEvent := [.joinLock, .joinWait, .joinWorker true, .joinFinish]
  [start.map (.caller 0), (submit 1).map (.caller 1), take.map .worker, (submit 2).map (.caller 2),
    stop.map (.caller 0), finish.map .worker, join.map (.caller 0)].flatten

/-- In that run both completions are called exactly once. -/
theorem contract_stopWhileExecuting :
    ∃ s, (s.worker = .exited ∧ s.joined = true ∧ s.invocations 0 = 1 ∧ s.invocations 1 = 1 ∧
      s.history.cancelled.length = 1) ∧ Contract false 2 s := by
  obtain ⟨s, hr, hs⟩ := TransitionSystem.exists_reachable_of_run
    (M := dispatcherSystem 2 false) (s := create 2) (w := stopWhileExecuting)
    (p := fun s => s.worker = .exited ∧ s.joined = true ∧ s.invocations 0 = 1 ∧
      s.invocations 1 = 1 ∧ s.history.cancelled.length = 1) ⟨by decide, rfl⟩ (by decide +kernel)
  exact ⟨s, by simpa using hs, contract hr⟩

end MiniGateway.Dispatcher
