/-
  `BoundedQueue` between threads: who waits in `wait_pop`, and who has been woken.

  `try_push`, the check of the predicate in `wait_pop` and the assignment in `close` each hold the
  mutex throughout, so each is one step.  A thread whose check fails joins the wait set of
  `not_empty_` in the same step, since `wait` gives the mutex up and blocks at once.  It leaves the
  wait set when `notify_one` picks it, when `notify_all` is called, or for no reason, and then
  checks again.  `close` calls `notify_all` after the mutex has been given up, so other threads can
  come between its two steps.

  `notify_one` is called for each value pushed, and a thread that is about to block has just seen
  an empty queue.  That is the whole argument why no wake-up is lost (`Sound.wakeups`).
-/
import MiniGateway.BoundedQueue
import MiniGateway.TransitionSystem

namespace MiniGateway

/-- A queue and the threads that are inside one of its operations. -/
structure QueueThreads (α : Type*) where
  queue : BoundedQueue α
  /-- The wait set of `not_empty_`: blocked in `wait_pop` and not notified. -/
  blocked : List ThreadId := []
  /-- Notified, and still to check the queue again. -/
  notified : List ThreadId := []
  /-- Woken for no reason, and still to check the queue again. -/
  awake : List ThreadId := []
  /-- In `close`, before `notify_all`. -/
  closing : List ThreadId := []
  /-- How many calls of `close` have returned. -/
  closeReturned : ℕ := 0
  /-- How many calls of `wait_pop` have returned false. -/
  finished : ℕ := 0
  /-- The values that `try_push` accepted; no code reads it. -/
  acceptedValues : List α := []
  /-- The values that `wait_pop` returned; no code reads it. -/
  poppedValues : List α := []

inductive QueueEvent (α : Type*)
  /-- `try_push`; `woken` is the thread that `notify_one` picks. -/
  | tryPush (t : ThreadId) (value : α) (woken : Option ThreadId)
  /-- `wait_pop` begins with its first check. -/
  | waitPop (t : ThreadId)
  /-- A thread leaves the wait set for no reason. -/
  | wake (t : ThreadId)
  /-- A woken thread checks again. -/
  | recheck (t : ThreadId)
  /-- `close` sets `closed_`. -/
  | close (t : ThreadId)
  /-- `close` calls `notify_all` and returns. -/
  | notifyAll (t : ThreadId)

namespace QueueThreads

variable {α : Type*}

/-- The thread is in none of the operations. -/
def Idle (s : QueueThreads α) (t : ThreadId) : Prop :=
  t ∉ s.blocked ∧ t ∉ s.notified ∧ t ∉ s.awake ∧ t ∉ s.closing

instance (s : QueueThreads α) (t : ThreadId) : Decidable (s.Idle t) :=
  inferInstanceAs (Decidable (_ ∧ _ ∧ _ ∧ _))

/-- `not_empty_.notify_one()`: one of the wait set is picked, if there is anyone. -/
def notifyOne (s : QueueThreads α) : Option ThreadId → Option (QueueThreads α)
  | none => if s.blocked = [] then some s else none
  | some u =>
    if u ∈ s.blocked then
      some { s with blocked := s.blocked.erase u, notified := s.notified ++ [u] }
    else none

/-- The check of the predicate by `t`, and what follows it: a value or false is returned, or the
thread blocks. -/
def check (s : QueueThreads α) (t : ThreadId) : QueueThreads α :=
  match s.queue.waitPop with
  | some (.value value rest) =>
    { s with queue := rest, poppedValues := s.poppedValues ++ [value] }
  | some .finished => { s with finished := s.finished + 1 }
  | none => { s with blocked := s.blocked ++ [t] }

/-- One step of one thread. -/
def step (s : QueueThreads α) : QueueEvent α → Option (QueueThreads α)
  | .tryPush t value woken =>
    if s.Idle t then
      let pushed := s.queue.tryPush value
      if pushed.1 = .accepted then
        notifyOne { s with
          queue := pushed.2
          acceptedValues := s.acceptedValues ++ [value] } woken
      else some { s with queue := pushed.2 }
    else none
  | .waitPop t => if s.Idle t then some (s.check t) else none
  | .wake t =>
    if t ∈ s.blocked then
      some { s with blocked := s.blocked.erase t, awake := s.awake ++ [t] }
    else none
  | .recheck t =>
    if t ∈ s.notified then some (check { s with notified := s.notified.erase t } t)
    else if t ∈ s.awake then some (check { s with awake := s.awake.erase t } t)
    else none
  | .close t =>
    if s.Idle t then
      some { s with queue := s.queue.close, closing := s.closing ++ [t] }
    else none
  | .notifyAll t =>
    if t ∈ s.closing then
      some { s with
        blocked := []
        notified := s.notified ++ s.blocked
        closing := s.closing.erase t
        closeReturned := s.closeReturned + 1 }
    else none

end QueueThreads

namespace QueueThreads

variable {α : Type*} {s s' : QueueThreads α}

/-! ### The invariant -/

/-- The contents are the accepted values that have not been popped, and wake-ups cover what is
queued as long as anyone is blocked; `slack` wake-ups may be missing. -/
structure SoundUpTo (slack : ℕ) (s : QueueThreads α) : Prop where
  contents : s.poppedValues ++ s.queue.queue = s.acceptedValues
  counted : s.queue.accepted = s.acceptedValues.length
  bounded : s.queue.queue.length ≤ s.queue.capacity
  /-- While anyone is blocked, somebody notified is still to come for each queued value. -/
  wakeups : s.blocked ≠ [] → s.queue.queue.length ≤ s.notified.length + slack
  /-- Whoever is in the second half of `close` has set the flag. -/
  closing : s.closing ≠ [] → s.queue.closed = true
  closed : 0 < s.closeReturned → s.queue.closed = true ∧ s.blocked = []

/-- The invariant between steps. -/
def Sound (s : QueueThreads α) : Prop := s.SoundUpTo 0

/-- **A check** makes up for one missing wake-up: it takes a value, or there is none. -/
theorem SoundUpTo.check (hs : s.SoundUpTo 1) (t : ThreadId) : (s.check t).Sound := by
  unfold QueueThreads.check
  cases hpop : s.queue.waitPop with
  | none =>
    obtain ⟨hempty, hopen⟩ := BoundedQueue.waitPop_none hpop
    exact { hs with
      wakeups := fun _ => by
        show s.queue.queue.length ≤ _
        rw [hempty]
        exact Nat.zero_le _
      closed := fun hreturned => by
        -- a queue whose `close` has returned is not open
        have hclosed := (hs.closed hreturned).1
        rw [hopen] at hclosed
        cases hclosed }
  | some popped =>
    cases popped with
    | finished =>
      obtain ⟨hempty, -⟩ := BoundedQueue.waitPop_finished hpop
      exact { hs with
        wakeups := fun _ => by
          show s.queue.queue.length ≤ _
          rw [hempty]
          exact Nat.zero_le _ }
    | value value rest =>
      obtain ⟨hqueue, hclosed, haccepted⟩ := BoundedQueue.waitPop_value hpop
      have hlength : s.queue.queue.length = rest.queue.length + 1 := by
        rw [hqueue, List.length_cons]
      have hcapacity := BoundedQueue.waitPop_capacity hpop
      constructor
      · show (s.poppedValues ++ [value]) ++ rest.queue = s.acceptedValues
        rw [List.append_assoc, List.singleton_append, ← hqueue]
        exact hs.contents
      · exact haccepted.trans hs.counted
      · have hbounded := hs.bounded
        show rest.queue.length ≤ rest.capacity
        omega
      · intro hblocked
        have hwakeups := hs.wakeups hblocked
        show rest.queue.length ≤ s.notified.length + 0
        omega
      · intro hclosing
        exact hclosed.trans (hs.closing hclosing)
      · intro hreturned
        exact ⟨hclosed.trans (hs.closed hreturned).1, (hs.closed hreturned).2⟩

theorem Sound.slack (hs : s.Sound) : s.SoundUpTo 1 :=
  { hs with wakeups := fun hblocked => (hs.wakeups hblocked).trans (Nat.le_succ _) }

/-- **`try_push`** pairs every value with a wake-up, unless nobody waits for one. -/
theorem Sound.tryPush (hs : s.Sound) {value : α} {woken : Option ThreadId}
    (hopen : s.queue.closed = false) (hroom : s.queue.queue.length < s.queue.capacity)
    (h : notifyOne { s with
      queue := { s.queue with
        queue := s.queue.queue ++ [value]
        accepted := s.queue.accepted + 1 }
      acceptedValues := s.acceptedValues ++ [value] } woken = some s') : s'.Sound := by
  have hcontents : s.poppedValues ++ (s.queue.queue ++ [value]) = s.acceptedValues ++ [value] := by
    rw [← List.append_assoc, hs.contents]
  have hcounted : s.queue.accepted + 1 = (s.acceptedValues ++ [value]).length := by
    rw [hs.counted, List.length_append, List.length_singleton]
  have hbounded : (s.queue.queue ++ [value]).length ≤ s.queue.capacity := by
    rw [List.length_append, List.length_singleton]
    omega
  have hnever : ¬0 < s.closeReturned := by
    intro hreturned
    have hclosed := (hs.closed hreturned).1
    rw [hopen] at hclosed
    cases hclosed
  cases woken with
  | none =>
    simp only [notifyOne] at h
    split_ifs at h with hnobody
    obtain rfl := Option.some.inj h
    exact ⟨hcontents, hcounted, hbounded, fun hblocked => absurd hnobody hblocked, hs.closing,
      fun hreturned => absurd hreturned hnever⟩
  | some u =>
    simp only [notifyOne] at h
    split_ifs at h with hblocked
    obtain rfl := Option.some.inj h
    refine ⟨hcontents, hcounted, hbounded, fun _ => ?_, hs.closing,
      fun hreturned => absurd hreturned hnever⟩
    have hwakeups := hs.wakeups (List.ne_nil_of_mem hblocked)
    simp only [List.length_append, List.length_singleton]
    omega

/-- **One step** of any thread keeps the invariant. -/
theorem Sound.step (hs : s.Sound) {e : QueueEvent α} (h : s.step e = some s') : s'.Sound := by
  cases e with
  | tryPush t value woken =>
    simp only [QueueThreads.step] at h
    split_ifs at h with hidle haccepted
    · obtain ⟨hopen, hroom, hpushed⟩ := BoundedQueue.tryPush_accepted haccepted
      rw [hpushed] at h
      exact hs.tryPush hopen hroom h
    · -- Full counts the refusal, Stopping does nothing
      obtain rfl := Option.some.inj h
      obtain ⟨hqueue, hclosed, hcount, hcapacity⟩ := BoundedQueue.tryPush_refused haccepted
      refine ⟨?_, ?_, ?_, ?_, ?_, ?_⟩
      · show s.poppedValues ++ (s.queue.tryPush value).2.queue = s.acceptedValues
        rw [hqueue]
        exact hs.contents
      · exact hcount.trans hs.counted
      · show (s.queue.tryPush value).2.queue.length ≤ (s.queue.tryPush value).2.capacity
        rw [hqueue, hcapacity]
        exact hs.bounded
      · intro hblocked
        show (s.queue.tryPush value).2.queue.length ≤ s.notified.length + 0
        rw [hqueue]
        exact hs.wakeups hblocked
      · intro hclosing
        exact hclosed.trans (hs.closing hclosing)
      · intro hreturned
        exact ⟨hclosed.trans (hs.closed hreturned).1, (hs.closed hreturned).2⟩
  | waitPop t =>
    simp only [QueueThreads.step] at h
    split_ifs at h with hidle
    obtain rfl := Option.some.inj h
    exact hs.slack.check t
  | wake t =>
    simp only [QueueThreads.step] at h
    split_ifs at h with hblocked
    obtain rfl := Option.some.inj h
    exact { hs with
      wakeups := fun _ => hs.wakeups (List.ne_nil_of_mem hblocked)
      closed := fun hreturned => by
        have hnone := (hs.closed hreturned).2
        rw [hnone] at hblocked
        exact absurd hblocked List.not_mem_nil }
  | recheck t =>
    simp only [QueueThreads.step] at h
    split_ifs at h with hnotified hawake
    · -- the wake-up of `t` is used up by its check
      obtain rfl := Option.some.inj h
      have hless : SoundUpTo 1 { s with notified := s.notified.erase t } :=
        { hs with
          wakeups := fun hblocked => by
            have hwakeups := hs.wakeups hblocked
            have hlength := List.length_erase_add_one hnotified
            show s.queue.queue.length ≤ (s.notified.erase t).length + 1
            omega }
      exact hless.check t
    · obtain rfl := Option.some.inj h
      have hless : SoundUpTo 1 { s with awake := s.awake.erase t } := { hs.slack with }
      exact hless.check t
  | close t =>
    simp only [QueueThreads.step] at h
    split_ifs at h with hidle
    obtain rfl := Option.some.inj h
    exact ⟨hs.contents, hs.counted, hs.bounded, hs.wakeups, fun _ => rfl,
      fun hreturned => ⟨rfl, (hs.closed hreturned).2⟩⟩
  | notifyAll t =>
    simp only [QueueThreads.step] at h
    split_ifs at h with hclosing
    obtain rfl := Option.some.inj h
    have hclosed : s.queue.closed = true := hs.closing (List.ne_nil_of_mem hclosing)
    exact ⟨hs.contents, hs.counted, hs.bounded, fun hblocked => absurd rfl hblocked,
      fun _ => hclosed, fun _ => ⟨hclosed, rfl⟩⟩

/-- What the queue promises in every state. -/
structure Contract (s : QueueThreads α) : Prop where
  fifo : s.poppedValues <+: s.acceptedValues
  accepted : s.queue.accepted = s.poppedValues.length + s.queue.queue.length
  bounded : s.queue.queue.length ≤ s.queue.capacity
  full_iff : ∀ value, (s.queue.tryPush value).1 = .full ↔
    s.queue.closed = false ∧ s.queue.queue.length = s.queue.capacity
  full_keeps : ∀ value, (s.queue.tryPush value).1 = .full →
    (s.queue.tryPush value).2.queue = s.queue.queue
  stopping_iff : ∀ value, (s.queue.tryPush value).1 = .stopping ↔ s.queue.closed = true
  stopping_keeps : ∀ value, (s.queue.tryPush value).1 = .stopping →
    (s.queue.tryPush value).2 = s.queue
  /-- `wait_pop` returns false only when nothing will come any more. -/
  finished : s.queue.waitPop = some .finished →
    s.queue.closed = true ∧ s.poppedValues = s.acceptedValues
  /-- No wake-up is lost. -/
  wakeups : s.blocked ≠ [] → s.queue.queue.length ≤ s.notified.length
  closed : 0 < s.closeReturned → s.blocked = []

end QueueThreads

end MiniGateway
