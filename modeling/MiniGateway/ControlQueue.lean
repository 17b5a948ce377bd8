/-
  `ControlQueue` (`control_internal.hpp`, `control.cpp`): the bounded queue of accepted control
  requests.

  Every operation holds the queue mutex from its first to its last access, so each is one function
  on the queue's fields.  `waitPop` is `none` while the condition variable's predicate is false:
  the caller stays blocked.
-/
import MiniGateway.Model

namespace MiniGateway

/-- `ControlOperation`, with the number of the `submit` call that created it. -/
structure ControlOperation where
  ticket : ℕ
  request : DeviceControlRequest
  completion : Option CompletionId
  enqueuedAt : TimePoint := 0
  deriving DecidableEq

/-- The fields of `ControlQueue`. -/
structure ControlQueue where
  capacity : ℕ
  queue : List ControlOperation := []
  closed : Bool := false
  maxSize : ℕ := 0
  accepted : ℕ := 0
  rejectedFull : ℕ := 0
  cancelled : ℕ := 0
  deriving DecidableEq

namespace ControlQueue

/-- `try_push`. -/
def tryPush (q : ControlQueue) (op : ControlOperation) : ControlSubmitResult × ControlQueue :=
  if q.closed then (.stopping, q)
  else if q.capacity ≤ q.queue.length then
    (.queueFull, { q with rejectedFull := q.rejectedFull + 1 })
  else
    (.accepted, { q with
      queue := q.queue ++ [op]
      maxSize := max q.maxSize (q.queue.length + 1)
      accepted := q.accepted + 1 })

/-- What `wait_pop` returns once it stops waiting. -/
inductive Popped
  | operation (op : ControlOperation) (rest : ControlQueue)
  | finished

/-- `wait_pop`; `none` while the queue is open and empty. -/
def waitPop (q : ControlQueue) : Option Popped :=
  match q.queue with
  | op :: rest => some (.operation op { q with queue := rest })
  | [] => if q.closed then some .finished else none

/-- `close`. -/
def close (q : ControlQueue) : ControlQueue := { q with closed := true }

/-- `cancel_pending`: everything queued, oldest first.  `allocated = false` is the call whose
`reserve` throws, before anything is removed. -/
def cancelPending (q : ControlQueue) (allocated : Bool) : List ControlOperation × ControlQueue :=
  if allocated then
    (q.queue, { q with queue := [], cancelled := q.cancelled + q.queue.length })
  else ([], q)

/-! ### What each operation does to the contents -/

/-- A push is accepted exactly on an open queue with room, and then appends; otherwise the
contents stay. -/
theorem tryPush_cases (q : ControlQueue) (op : ControlOperation) :
    ((q.tryPush op).1 = .accepted ∧ q.closed = false ∧ q.queue.length < q.capacity ∧
      (q.tryPush op).2.queue = q.queue ++ [op] ∧ (q.tryPush op).2.closed = false) ∨
    ((q.tryPush op).1 ≠ .accepted ∧ (q.tryPush op).2.queue = q.queue ∧
      (q.tryPush op).2.closed = q.closed) := by
  unfold tryPush
  split_ifs with hclosed hfull
  · exact Or.inr ⟨by simp, rfl, rfl⟩
  · exact Or.inr ⟨by simp, rfl, rfl⟩
  · simp only [Bool.not_eq_true] at hclosed
    exact Or.inl ⟨rfl, hclosed, by omega, rfl, hclosed⟩

/-- Each result of a push has its own counter, or none. -/
theorem tryPush_counts (q : ControlQueue) (op : ControlOperation) :
    ((q.tryPush op).1 = .accepted ∧ (q.tryPush op).2.accepted = q.accepted + 1 ∧
      (q.tryPush op).2.rejectedFull = q.rejectedFull) ∨
    ((q.tryPush op).1 = .queueFull ∧ (q.tryPush op).2.accepted = q.accepted ∧
      (q.tryPush op).2.rejectedFull = q.rejectedFull + 1) ∨
    ((q.tryPush op).1 = .stopping ∧ (q.tryPush op).2.accepted = q.accepted ∧
      (q.tryPush op).2.rejectedFull = q.rejectedFull) := by
  unfold tryPush
  split_ifs
  · exact Or.inr (Or.inr ⟨rfl, rfl, rfl⟩)
  · exact Or.inr (Or.inl ⟨rfl, rfl, rfl⟩)
  · exact Or.inl ⟨rfl, rfl, rfl⟩

theorem tryPush_cancelled (q : ControlQueue) (op : ControlOperation) :
    (q.tryPush op).2.cancelled = q.cancelled := by
  unfold tryPush
  split_ifs <;> rfl

/-- The size never exceeds its recorded maximum, nor that the capacity. -/
def Bounded (q : ControlQueue) : Prop := q.queue.length ≤ q.maxSize ∧ q.maxSize ≤ q.capacity

theorem Bounded.tryPush {q : ControlQueue} (h : q.Bounded) (op : ControlOperation) :
    (q.tryPush op).2.Bounded := by
  unfold ControlQueue.tryPush
  split_ifs with hclosed hfull
  · exact h
  · exact h
  · have hroom : q.queue.length + 1 ≤ q.capacity := by omega
    refine ⟨?_, max_le h.2 hroom⟩
    simp only [List.length_append, List.length_singleton]
    exact le_max_right _ _

theorem waitPop_counts {q rest : ControlQueue} {op : ControlOperation}
    (h : q.waitPop = some (.operation op rest)) : rest = { q with queue := rest.queue } := by
  unfold waitPop at h
  split at h
  · rename_i op' ops hq
    obtain ⟨rfl, rfl⟩ : op' = op ∧ { q with queue := ops } = rest := by simpa using h
    rfl
  · split at h <;> simp at h

theorem waitPop_operation {q rest : ControlQueue} {op : ControlOperation}
    (h : q.waitPop = some (.operation op rest)) :
    q.queue = op :: rest.queue ∧ rest.closed = q.closed := by
  unfold waitPop at h
  split at h
  · rename_i op' ops hq
    obtain ⟨rfl, rfl⟩ : op' = op ∧ { q with queue := ops } = rest := by simpa using h
    exact ⟨hq, rfl⟩
  · split at h <;> simp at h

/-- The worker's loop ends only on a closed queue with nothing left. -/
theorem waitPop_finished {q : ControlQueue} (h : q.waitPop = some .finished) :
    q.queue = [] ∧ q.closed = true := by
  unfold waitPop at h
  split at h
  · simp at h
  · rename_i hq
    refine ⟨hq, ?_⟩
    by_contra hc
    simp [hc] at h

@[simp] theorem close_queue (q : ControlQueue) : q.close.queue = q.queue := rfl

@[simp] theorem close_closed (q : ControlQueue) : q.close.closed = true := rfl

@[simp] theorem cancelPending_closed (q : ControlQueue) (allocated : Bool) :
    (q.cancelPending allocated).2.closed = q.closed := by
  unfold cancelPending
  split_ifs <;> rfl

/-- What is removed is counted. -/
theorem cancelPending_counts (q : ControlQueue) (allocated : Bool) :
    (q.cancelPending allocated).2.cancelled =
        q.cancelled + (q.cancelPending allocated).1.length ∧
      (q.cancelPending allocated).2.accepted = q.accepted ∧
      (q.cancelPending allocated).2.rejectedFull = q.rejectedFull ∧
      (q.cancelPending allocated).2.maxSize = q.maxSize ∧
      (q.cancelPending allocated).2.capacity = q.capacity := by
  unfold cancelPending
  split_ifs <;> exact ⟨rfl, rfl, rfl, rfl, rfl⟩

theorem Bounded.close {q : ControlQueue} (h : q.Bounded) : q.close.Bounded := h

theorem Bounded.cancelPending {q : ControlQueue} (h : q.Bounded) (allocated : Bool) :
    (q.cancelPending allocated).2.Bounded := by
  unfold ControlQueue.cancelPending
  split_ifs
  · exact ⟨Nat.zero_le _, h.2⟩
  · exact h

theorem Bounded.waitPop {q rest : ControlQueue} {op : ControlOperation} (h : q.Bounded)
    (hq : q.waitPop = some (.operation op rest)) : rest.Bounded := by
  have hlength := congrArg List.length (waitPop_operation hq).1
  rw [List.length_cons] at hlength
  rw [waitPop_counts hq]
  refine ⟨?_, h.2⟩
  have hsize := h.1
  show rest.queue.length ≤ q.maxSize
  omega

/-- What is removed followed by what is kept is what was queued; if anything was removed, nothing
is kept. -/
theorem cancelPending_split (q : ControlQueue) (allocated : Bool) :
    (q.cancelPending allocated).1 ++ (q.cancelPending allocated).2.queue = q.queue ∧
    ((q.cancelPending allocated).1 ≠ [] → (q.cancelPending allocated).2.queue = []) := by
  unfold cancelPending
  split_ifs <;> simp

end ControlQueue

end MiniGateway
