/-
  Event ids under concurrent callers.

  `normalize` may be called by any number of threads at once.  Each call reads the wall clock,
  takes a number from the atomic `event_sequence_` and puts both into the id.  The clock may show
  anything; what keeps ids apart is the number, which is what follows the last character of the id
  that is no digit (`trailingNumber_eventId`).  Numbers come from a counter of 64 bits, so they are
  distinct as long as fewer than `2^64` batches have taken one (`Distinct`).
-/
import MiniGateway.Decimal
import MiniGateway.Normalizer
import MiniGateway.TransitionSystem

namespace MiniGateway

/-! ### The number in an id -/

/-- The number that the digits at the end of an id stand for. -/
def trailingNumber (id : ByteString) : ℕ :=
  JsonText.digitsValue (id.reverse.takeWhile JsonText.isDigit).reverse

/-- Whatever the clock shows, the number at the end of the id is the number of the batch. -/
theorem trailingNumber_eventId (devices : List DeviceConfig) (receivedAt : ℤ) (sequence : ℕ)
    (batch : RawBatch) :
    trailingNumber (normalizedEvent devices receivedAt sequence batch).eventId = sequence := by
  have hdigits : ∀ b ∈ (decimal sequence).reverse, JsonText.isDigit b = true := by
    intro b hb
    exact (digits_decimal sequence).1 b (List.mem_reverse.mp hb)
  -- read from its end, the id begins with the digits of the number and a hyphen
  have hreverse : (normalizedEvent devices receivedAt sequence batch).eventId.reverse =
      (decimal sequence).reverse ++ 45 :: (lit "event-" ++ decimalInt receivedAt).reverse := by
    simp [normalizedEvent, show lit "-" = [45] from rfl]
  rw [trailingNumber, hreverse, List.takeWhile_append_of_pos hdigits,
    List.takeWhile_cons_of_neg (by decide), List.append_nil, List.reverse_reverse]
  exact digitsValue_decimal sequence

/-! ### The calls -/

/-- Where a thread is in `normalize`. -/
inductive NormalizePc
  | idle
  /-- The clock has been read. -/
  | stamped (batch : RawBatch) (receivedAt : ℤ)
  /-- `fetch_add` has given a number. -/
  | numbered (batch : RawBatch) (receivedAt : ℤ) (sequence : ℕ)

/-- The number that a thread holds. -/
def NormalizePc.number : NormalizePc → Option ℕ
  | .numbered _ _ sequence => some sequence
  | _ => none

/-- The atomic counter, the threads and what they have returned. -/
structure NormalizeCalls where
  /-- `event_sequence_`, of 64 bits. -/
  eventSequence : ℕ := 0
  callers : ThreadId → NormalizePc := fun _ => .idle
  /-- The events returned so far. -/
  returned : List Event := []
  /-- How many batches have taken a number; no code reads it. -/
  handled : ℕ := 0

inductive NormalizeEvent
  /-- A call begins and reads the clock. -/
  | stamp (t : ThreadId) (batch : RawBatch) (receivedAt : ℤ)
  /-- `event_sequence_.fetch_add(1) + 1`. -/
  | number (t : ThreadId)
  /-- The call returns its event. -/
  | finish (t : ThreadId)

/-- One step of one thread. -/
def NormalizeCalls.step (devices : List DeviceConfig) (s : NormalizeCalls) :
    NormalizeEvent → Option NormalizeCalls
  | .stamp t batch receivedAt =>
    match s.callers t with
    | .idle => some { s with callers := Function.update s.callers t (.stamped batch receivedAt) }
    | _ => none
  | .number t =>
    match s.callers t with
    | .stamped batch receivedAt =>
      let sequence := (s.eventSequence + 1) % 2 ^ 64
      some { s with
        eventSequence := sequence
        callers := Function.update s.callers t (.numbered batch receivedAt sequence)
        handled := s.handled + 1 }
    | _ => none
  | .finish t =>
    match s.callers t with
    | .numbered batch receivedAt sequence =>
      some { s with
        callers := Function.update s.callers t .idle
        returned := s.returned ++ [normalizedEvent devices receivedAt sequence batch] }
    | _ => none

/-- All runs of the callers of a normaliser with these devices. -/
def normalizeSystem (devices : List DeviceConfig) :
    TransitionSystem NormalizeCalls NormalizeEvent where
  Init s := s = {}
  step := NormalizeCalls.step devices

/-! ### Distinct numbers -/

/-- The number of an event. -/
def Event.number (event : Event) : ℕ := trailingNumber event.eventId

/-- No number is in use twice, and none is beyond the counter. -/
structure NormalizeCalls.Distinct (s : NormalizeCalls) : Prop where
  counter : s.eventSequence = s.handled
  held_le : ∀ t sequence, (s.callers t).number = some sequence → sequence ≤ s.handled
  held_new : ∀ t sequence, (s.callers t).number = some sequence →
    sequence ∉ s.returned.map Event.number
  held_inj : ∀ t u sequence, (s.callers t).number = some sequence →
    (s.callers u).number = some sequence → t = u
  returned_le : ∀ sequence ∈ s.returned.map Event.number, sequence ≤ s.handled
  returned_nodup : (s.returned.map Event.number).Nodup

namespace NormalizeCalls

variable {devices : List DeviceConfig} {s s' : NormalizeCalls} {e : NormalizeEvent}

/-- Everything that one step can do. -/
theorem step_cases (h : s.step devices e = some s') :
    (∃ t batch receivedAt, s.callers t = .idle ∧
      s' = { s with callers := Function.update s.callers t (.stamped batch receivedAt) }) ∨
    (∃ t batch receivedAt, s.callers t = .stamped batch receivedAt ∧
      s' = { s with
        eventSequence := (s.eventSequence + 1) % 2 ^ 64
        callers := Function.update s.callers t
          (.numbered batch receivedAt ((s.eventSequence + 1) % 2 ^ 64))
        handled := s.handled + 1 }) ∨
    ∃ t batch receivedAt sequence, s.callers t = .numbered batch receivedAt sequence ∧
      s' = { s with
        callers := Function.update s.callers t .idle
        returned := s.returned ++ [normalizedEvent devices receivedAt sequence batch] } := by
  cases e with
  | stamp t batch receivedAt =>
    simp only [step] at h
    split at h
    · rename_i hidle
      exact Or.inl ⟨t, batch, receivedAt, hidle, (Option.some.inj h).symm⟩
    · simp at h
  | number t =>
    simp only [step] at h
    split at h
    · rename_i batch receivedAt hstamped
      exact Or.inr (Or.inl ⟨t, batch, receivedAt, hstamped, (Option.some.inj h).symm⟩)
    · simp at h
  | finish t =>
    simp only [step] at h
    split at h
    · rename_i batch receivedAt sequence hnumbered
      exact Or.inr (Or.inr ⟨t, batch, receivedAt, sequence, hnumbered,
        (Option.some.inj h).symm⟩)
    · simp at h

/-- Who holds a number after the thread `t` has moved to `pc`. -/
theorem number_update {t u : ThreadId} {pc : NormalizePc} {sequence : ℕ}
    (h : (Function.update s.callers t pc u).number = some sequence) :
    (u = t ∧ pc.number = some sequence) ∨ (u ≠ t ∧ (s.callers u).number = some sequence) := by
  by_cases hu : u = t
  · subst hu
    rw [Function.update_self] at h
    exact Or.inl ⟨rfl, h⟩
  · rw [Function.update_of_ne hu] at h
    exact Or.inr ⟨hu, h⟩

/-- **One step** keeps numbers apart while the counter has not come round. -/
theorem Distinct.step (hs : s.Distinct) (h : s.step devices e = some s')
    (hfew : s'.handled < 2 ^ 64) : s'.Distinct := by
  rcases step_cases h with ⟨t, batch, receivedAt, hpc, rfl⟩ | ⟨t, batch, receivedAt, hpc, rfl⟩ |
    ⟨t, batch, receivedAt, sequence, hpc, rfl⟩
  · -- nobody gains a number
    have hheld : ∀ u sequence, (Function.update s.callers t (.stamped batch receivedAt) u).number =
        some sequence → (s.callers u).number = some sequence := by
      intro u sequence hu
      rcases number_update hu with ⟨-, hnone⟩ | ⟨-, hold⟩
      · simp [NormalizePc.number] at hnone
      · exact hold
    exact {
      counter := hs.counter
      held_le := fun u q hu => hs.held_le u q (hheld u q hu)
      held_new := fun u q hu => hs.held_new u q (hheld u q hu)
      held_inj := fun u v q hu hv => hs.held_inj u v q (hheld u q hu) (hheld v q hv)
      returned_le := hs.returned_le
      returned_nodup := hs.returned_nodup }
  · -- the new number is one more than any in use
    have hnew : (s.eventSequence + 1) % 2 ^ 64 = s.handled + 1 := by
      rw [hs.counter]
      exact Nat.mod_eq_of_lt hfew
    have hheld : ∀ u q, (Function.update s.callers t (.numbered batch receivedAt
        ((s.eventSequence + 1) % 2 ^ 64)) u).number = some q →
        (u = t ∧ q = s.handled + 1) ∨ (u ≠ t ∧ (s.callers u).number = some q) := by
      intro u q hu
      rcases number_update hu with ⟨rfl, hq⟩ | hold
      · left
        rw [hnew] at hq
        exact ⟨rfl, (Option.some.inj hq).symm⟩
      · exact Or.inr hold
    constructor
    · exact hnew
    · intro u q hu
      show q ≤ s.handled + 1
      rcases hheld u q hu with ⟨-, rfl⟩ | ⟨-, hold⟩
      · exact le_rfl
      · have hle := hs.held_le u q hold
        omega
    · intro u q hu hmem
      rcases hheld u q hu with ⟨-, rfl⟩ | ⟨-, hold⟩
      · have hle := hs.returned_le _ hmem
        omega
      · exact hs.held_new u q hold hmem
    · intro u v q hu hv
      rcases hheld u q hu with ⟨rfl, rfl⟩ | ⟨hut, hold⟩
      · rcases hheld v _ hv with ⟨rfl, -⟩ | ⟨-, hold⟩
        · rfl
        · have hle := hs.held_le v _ hold
          omega
      · rcases hheld v q hv with ⟨rfl, rfl⟩ | ⟨-, hold'⟩
        · have hle := hs.held_le u _ hold
          omega
        · exact hs.held_inj u v q hold hold'
    · intro q hq
      have hle := hs.returned_le q hq
      show q ≤ s.handled + 1
      omega
    · exact hs.returned_nodup
  · -- the number passes from the thread to its event
    have hmine : (s.callers t).number = some sequence := by rw [hpc]; rfl
    have hheld : ∀ u q, (Function.update s.callers t .idle u).number = some q →
        u ≠ t ∧ (s.callers u).number = some q := by
      intro u q hu
      rcases number_update hu with ⟨-, hnone⟩ | hold
      · simp [NormalizePc.number] at hnone
      · exact hold
    have hreturned : (s.returned ++ [normalizedEvent devices receivedAt sequence batch]).map
        Event.number = s.returned.map Event.number ++ [sequence] := by
      rw [List.map_append, List.map_singleton, Event.number, trailingNumber_eventId]
    constructor
    · exact hs.counter
    · exact fun u q hu => hs.held_le u q (hheld u q hu).2
    · intro u q hu hmem
      obtain ⟨hut, hold⟩ := hheld u q hu
      rw [hreturned, List.mem_append, List.mem_singleton] at hmem
      rcases hmem with hmem | rfl
      · exact hs.held_new u q hold hmem
      · exact hut (hs.held_inj u t q hold hmine)
    · exact fun u v q hu hv => hs.held_inj u v q (hheld u q hu).2 (hheld v q hv).2
    · intro q hq
      rw [hreturned, List.mem_append, List.mem_singleton] at hq
      rcases hq with hq | rfl
      · exact hs.returned_le q hq
      · exact hs.held_le t q hmine
    · show ((s.returned ++ _).map Event.number).Nodup
      rw [hreturned, List.nodup_append_comm, List.singleton_append, List.nodup_cons]
      exact ⟨hs.held_new t sequence hmine, hs.returned_nodup⟩

/-- The number of batches handled never goes down. -/
theorem handled_le (h : s.step devices e = some s') : s.handled ≤ s'.handled := by
  rcases step_cases h with ⟨t, batch, receivedAt, -, rfl⟩ | ⟨t, batch, receivedAt, -, rfl⟩ |
    ⟨t, batch, receivedAt, sequence, -, rfl⟩
  · exact le_rfl
  · exact Nat.le_succ s.handled
  · exact le_rfl

theorem distinct_of_reachable (h : (normalizeSystem devices).Reachable s) :
    s.handled < 2 ^ 64 → s.Distinct := by
  refine h.invariant (I := fun s => s.handled < 2 ^ 64 → s.Distinct) ?_ ?_
  · rintro s rfl -
    exact ⟨rfl, by simp [NormalizePc.number], by simp [NormalizePc.number],
      by simp [NormalizePc.number], by simp, by simp⟩
  · intro s e s' _ hs hstep hfew
    exact (hs ((handled_le hstep).trans_lt hfew)).step hstep hfew

/-- **Event ids are unique** in every run that handles fewer than `2^64` batches. -/
theorem eventIds_unique (h : (normalizeSystem devices).Reachable s) (hfew : s.handled < 2 ^ 64) :
    s.returned.Pairwise fun first second => first.eventId ≠ second.eventId := by
  have hnodup := (distinct_of_reachable h hfew).returned_nodup
  rw [List.Nodup, List.pairwise_map] at hnodup
  refine hnodup.imp fun hne heq => hne ?_
  rw [Event.number, Event.number, heq]

/-- Two callers overtake each other while the clock goes backwards. -/
def overtakingCalls : List NormalizeEvent :=
  let batch : RawBatch := { deviceId := [], source := [], samples := [] }
  [.stamp 0 batch 5, .stamp 1 batch (-5), .number 1, .number 0, .finish 0, .finish 1]

theorem eventIds_unique_overtaking : ∃ s, (normalizeSystem []).Reachable s ∧
    s.returned.length = 2 ∧
    s.returned.Pairwise fun first second => first.eventId ≠ second.eventId := by
  obtain ⟨s, hreachable, htest⟩ := TransitionSystem.exists_reachable_of_run
    (M := normalizeSystem []) (w := overtakingCalls)
    (p := fun s => s.returned.length == 2 && s.handled == 2) rfl (by decide +kernel)
  obtain ⟨hlength, hhandled⟩ := Bool.and_eq_true_iff.mp htest
  have hfew : s.handled < 2 ^ 64 := by
    rw [beq_iff_eq.mp hhandled]
    norm_num
  exact ⟨s, hreachable, beq_iff_eq.mp hlength, eventIds_unique hreachable hfew⟩

end NormalizeCalls

end MiniGateway
