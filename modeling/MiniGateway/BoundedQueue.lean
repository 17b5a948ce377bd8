/-
  `BoundedQueue` (`gateway/bounded_queue.hpp`), for any type of elements.

  As in `ControlQueue`, every operation holds the mutex throughout, and `waitPop` is `none` while
  the caller stays blocked.
-/
import MiniGateway.Model

namespace MiniGateway

inductive EnqueueResult
  | accepted
  | full
  | stopping
  deriving DecidableEq, Repr

/-- The fields of `BoundedQueue`. -/
structure BoundedQueue (α : Type*) where
  capacity : ℕ
  queue : List α := []
  closed : Bool := false
  accepted : ℕ := 0
  rejectedFull : ℕ := 0

namespace BoundedQueue

variable {α : Type*}

/-- `try_push`. -/
def tryPush (q : BoundedQueue α) (value : α) : EnqueueResult × BoundedQueue α :=
  if q.closed then (.stopping, q)
  else if q.capacity ≤ q.queue.length then
    (.full, { q with rejectedFull := q.rejectedFull + 1 })
  else (.accepted, { q with queue := q.queue ++ [value], accepted := q.accepted + 1 })

/-- What `wait_pop` returns once it stops waiting. -/
inductive Popped (α : Type*)
  | value (value : α) (rest : BoundedQueue α)
  | finished

/-- `wait_pop`; `none` while the queue is open and empty. -/
def waitPop (q : BoundedQueue α) : Option (Popped α) :=
  match q.queue with
  | value :: rest => some (.value value { q with queue := rest })
  | [] => if q.closed then some .finished else none

/-- `close`. -/
def close (q : BoundedQueue α) : BoundedQueue α := { q with closed := true }

@[simp] theorem close_queue (q : BoundedQueue α) : q.close.queue = q.queue := rfl

@[simp] theorem close_closed (q : BoundedQueue α) : q.close.closed = true := rfl

@[simp] theorem close_accepted (q : BoundedQueue α) : q.close.accepted = q.accepted := rfl

/-- A push is accepted exactly on an open queue with room, and then appends and counts; otherwise
contents and count stay. -/
theorem tryPush_cases (q : BoundedQueue α) (value : α) :
    ((q.tryPush value).1 = .accepted ∧ q.closed = false ∧
      (q.tryPush value).2 = { q with queue := q.queue ++ [value], accepted := q.accepted + 1 }) ∨
    ((q.tryPush value).1 ≠ .accepted ∧ (q.tryPush value).2.queue = q.queue ∧
      (q.tryPush value).2.closed = q.closed ∧ (q.tryPush value).2.accepted = q.accepted) := by
  unfold tryPush
  split_ifs with hclosed hfull
  · exact Or.inr ⟨by simp, rfl, rfl, rfl⟩
  · exact Or.inr ⟨by simp, rfl, rfl, rfl⟩
  · exact Or.inl ⟨rfl, by simpa using hclosed, rfl⟩

/-- What an accepted push found and did. -/
theorem tryPush_accepted {q : BoundedQueue α} {value : α} (h : (q.tryPush value).1 = .accepted) :
    q.closed = false ∧ q.queue.length < q.capacity ∧
      (q.tryPush value).2 = { q with queue := q.queue ++ [value], accepted := q.accepted + 1 } := by
  unfold tryPush at h ⊢
  split_ifs at h ⊢ with hclosed hfull
  exact ⟨by simpa using hclosed, not_le.mp hfull, rfl⟩

/-- A push that is not accepted leaves all but the counter of refusals. -/
theorem tryPush_refused {q : BoundedQueue α} {value : α} (h : (q.tryPush value).1 ≠ .accepted) :
    (q.tryPush value).2.queue = q.queue ∧ (q.tryPush value).2.closed = q.closed ∧
      (q.tryPush value).2.accepted = q.accepted ∧
      (q.tryPush value).2.capacity = q.capacity := by
  unfold tryPush at h ⊢
  split_ifs at h ⊢ with hclosed hfull
  · exact ⟨rfl, rfl, rfl, rfl⟩
  · exact ⟨rfl, rfl, rfl, rfl⟩
  · exact absurd rfl h

/-- A closed queue takes nothing and keeps everything. -/
theorem tryPush_closed {q : BoundedQueue α} (h : q.closed = true) (value : α) :
    q.tryPush value = (.stopping, q) := by
  simp [tryPush, h]

/-- An open queue never says that it is stopping. -/
theorem tryPush_open {q : BoundedQueue α} (h : q.closed = false) (value : α) :
    (q.tryPush value).1 = .accepted ∨ (q.tryPush value).1 = .full := by
  unfold tryPush
  rw [h]
  by_cases hfull : q.capacity ≤ q.queue.length
  · right
    simp [hfull]
  · left
    simp [hfull]

@[simp] theorem tryPush_snd_closed (q : BoundedQueue α) (value : α) :
    (q.tryPush value).2.closed = q.closed := by
  rcases q.tryPush_cases value with ⟨-, -, heq⟩ | ⟨-, -, hclosed, -⟩
  · rw [heq]
  · exact hclosed

theorem waitPop_value {q rest : BoundedQueue α} {value : α}
    (h : q.waitPop = some (.value value rest)) :
    q.queue = value :: rest.queue ∧ rest.closed = q.closed ∧ rest.accepted = q.accepted := by
  unfold waitPop at h
  split at h
  · rename_i value' values hq
    obtain ⟨rfl, rfl⟩ : value' = value ∧ { q with queue := values } = rest := by simpa using h
    exact ⟨hq, rfl, rfl⟩
  · split at h <;> simp at h

theorem waitPop_capacity {q rest : BoundedQueue α} {value : α}
    (h : q.waitPop = some (.value value rest)) : rest.capacity = q.capacity := by
  unfold waitPop at h
  split at h
  · rename_i value' values hq
    obtain ⟨-, rfl⟩ : value' = value ∧ { q with queue := values } = rest := by simpa using h
    rfl
  · split at h <;> simp at h

/-- A consumer blocks only on an open queue with nothing in it. -/
theorem waitPop_none {q : BoundedQueue α} (h : q.waitPop = none) :
    q.queue = [] ∧ q.closed = false := by
  unfold waitPop at h
  split at h
  · simp at h
  · rename_i hq
    refine ⟨hq, ?_⟩
    by_contra hc
    simp [hc] at h

/-- The consumer's loop ends only on a closed queue with nothing left. -/
theorem waitPop_finished {q : BoundedQueue α} (h : q.waitPop = some .finished) :
    q.queue = [] ∧ q.closed = true := by
  unfold waitPop at h
  split at h
  · simp at h
  · rename_i hq
    refine ⟨hq, ?_⟩
    by_contra hc
    simp [hc] at h

end BoundedQueue

end MiniGateway
