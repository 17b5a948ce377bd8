/-
  Straight-line programs: a thread that calls the instructions of a list one after the other.

  What has been called so far is recorded in two lists: the calls that have begun and those that
  have returned.  `Execution program begun returned` says that they come from executing `program`
  in order, at most one call being in progress.  So when a call has begun, everything that the
  program puts before it has returned (`Execution.returned_before`).
-/
import Mathlib.Data.List.Basic
import Mathlib.Data.List.Infix
import Mathlib.Data.List.Range

namespace StraightLine

variable {α β : Type*} {program begun returned l₁ l₂ : List α} {x : α}

/-- `begun` and `returned` are what an execution of `program` has called and finished so far. -/
structure Execution (program begun returned : List α) : Prop where
  begun_prefix : begun <+: program
  returned_prefix : returned <+: begun
  one_call : begun.length ≤ returned.length + 1

theorem Execution.nil (program : List α) : Execution program [] [] where
  begun_prefix := List.nil_prefix
  returned_prefix := List.nil_prefix
  one_call := Nat.zero_le _

/-- Nothing is in progress. -/
theorem Execution.of_idle {rest : List α} (h : program = returned ++ rest) :
    Execution program returned returned where
  begun_prefix := h ▸ List.prefix_append _ _
  returned_prefix := List.prefix_rfl
  one_call := Nat.le_succ _

/-- One call is in progress. -/
theorem Execution.of_busy {rest : List α} (h : program = returned ++ x :: rest) :
    Execution program (returned ++ [x]) returned where
  begun_prefix := by
    rw [h]
    exact ⟨rest, by simp⟩
  returned_prefix := List.prefix_append _ _
  one_call := by simp

theorem Execution.mem_begun (h : Execution program begun returned) (hx : x ∈ returned) :
    x ∈ begun :=
  h.returned_prefix.subset hx

theorem Execution.mem_program (h : Execution program begun returned) (hx : x ∈ begun) :
    x ∈ program :=
  h.begun_prefix.subset hx

/-- A prefix of `l₁ ++ l₂` with an element outside `l₁` contains all of `l₁` and more. -/
theorem length_lt_of_mem (h : begun <+: l₁ ++ l₂) (hx : x ∈ begun) (hn : x ∉ l₁) :
    l₁ <+: begun ∧ l₁.length < begun.length := by
  rcases List.prefix_or_prefix_of_prefix h (List.prefix_append l₁ l₂) with hpre | hpre
  · exact absurd (hpre.subset hx) hn
  · refine ⟨hpre, lt_of_le_of_ne hpre.length_le fun heq => hn ?_⟩
    rw [hpre.eq_of_length heq]
    exact hx

/-- **Order.**  A call that begins after `l₁` finds all of `l₁` returned. -/
theorem Execution.returned_before (h : Execution program begun returned)
    (hp : program = l₁ ++ l₂) (hx : x ∈ begun) (hn : x ∉ l₁) : ∀ y ∈ l₁, y ∈ returned := by
  obtain ⟨hpre, hlt⟩ := length_lt_of_mem (hp ▸ h.begun_prefix) hx hn
  have hle : l₁.length ≤ returned.length := by
    have := h.one_call
    omega
  exact fun y hy => (List.prefix_of_prefix_length_le hpre h.returned_prefix hle).subset hy

/-! ### Calls made by a counting loop -/

/-- A prefix of `0, …, n - 1` is `0, …, k - 1`. -/
theorem eq_range_of_prefix {l : List ℕ} {n : ℕ} (h : l <+: List.range n) :
    l = List.range l.length := by
  rw [List.prefix_iff_eq_take.mp h, List.take_range]
  simp [h.length_le.trans_eq (List.length_range (n := n))]

/-- The loop variables of the calls begun so far are `0, …, k - 1`, where `k` counts them, if the
loop variables of the whole program are `0, …, n - 1`. -/
theorem filterMap_eq_range {f : α → Option ℕ} {n : ℕ} (h : begun <+: program)
    (hf : program.filterMap f = List.range n) :
    begun.filterMap f = List.range (begun.filterMap f).length :=
  eq_range_of_prefix (hf ▸ h.filterMap f)

/-- Calls of one kind are counted by their loop variable. -/
theorem count_filterMap [DecidableEq α] [DecidableEq β] {f : α → Option β} (call : β → α)
    (hf : ∀ a b, f a = some b ↔ a = call b) (l : List α) (b : β) :
    (l.filterMap f).count b = l.count (call b) := by
  induction l with
  | nil => rfl
  | cons a l ih =>
    rw [List.count_cons]
    by_cases ha : a = call b
    · rw [List.filterMap_cons_some ((hf a b).mpr ha), List.count_cons, ih]
      simp [ha]
    · cases hfa : f a with
      | none =>
        rw [List.filterMap_cons_none hfa, ih]
        simp [ha]
      | some b' =>
        have hne : b' ≠ b := by
          rintro rfl
          exact ha ((hf a b').mp hfa)
        rw [List.filterMap_cons_some hfa, List.count_cons, ih]
        simp [ha, hne]

end StraightLine
