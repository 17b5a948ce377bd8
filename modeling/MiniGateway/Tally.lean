/-
  Tallies: how much the positions of all threads weigh together.

  A counter that one thread raises in two steps, first here and then there, lags behind by the
  number of threads in between.  There may be any number of threads, of which finitely many have
  left their first position, so the sum over all of them is a sum over a finite set outside which
  every position weighs nothing.  `Tally weight pos n` says that this sum is `n`; a step that moves
  one thread changes it by the difference of two weights (`Tally.update`).
-/
import Mathlib.Algebra.BigOperators.Group.Finset.Piecewise
import Mathlib.Algebra.Order.BigOperators.Group.Finset
import MiniGateway.Token

/-- The positions `pos` of all threads weigh `n` together. -/
def Tally {ι P : Type*} (weight : P → ℕ) (pos : ι → P) (n : ℕ) : Prop :=
  ∃ threads : Finset ι, (∀ t ∉ threads, weight (pos t) = 0) ∧
    ∑ t ∈ threads, weight (pos t) = n

namespace Tally

variable {ι P : Type*} {weight : P → ℕ} {pos : ι → P} {n m : ℕ}

/-- Nobody weighs anything. -/
theorem zero (h : ∀ t, weight (pos t) = 0) : Tally weight pos 0 :=
  ⟨∅, fun t _ => h t, rfl⟩

theorem eq_zero (h : Tally weight pos n) (hzero : ∀ t, weight (pos t) = 0) : n = 0 := by
  obtain ⟨threads, -, rfl⟩ := h
  exact Finset.sum_eq_zero fun t _ => hzero t

variable [DecidableEq ι]

/-- One thread moves. -/
theorem update (h : Tally weight pos n) {t : ι} {p : P} (hm : m + weight (pos t) = n + weight p) :
    Tally weight (Function.update pos t p) m := by
  obtain ⟨threads, houtside, rfl⟩ := h
  refine ⟨insert t threads, fun u hu => ?_, ?_⟩
  · rw [Finset.mem_insert, not_or] at hu
    rw [Function.update_of_ne hu.1]
    exact houtside u hu.2
  · -- both sums split off the thread that moves
    have hrest : ∑ u ∈ (insert t threads).erase t, weight (Function.update pos t p u) =
        ∑ u ∈ (insert t threads).erase t, weight (pos u) :=
      Finset.sum_congr rfl fun u hu => by
        rw [Function.update_of_ne (Finset.ne_of_mem_erase hu)]
    have hafter := Finset.sum_erase_add (insert t threads)
      (fun u => weight (Function.update pos t p u)) (Finset.mem_insert_self t threads)
    have hbefore := Finset.sum_erase_add (insert t threads) (fun u => weight (pos u))
      (Finset.mem_insert_self t threads)
    have hinsert : ∑ u ∈ insert t threads, weight (pos u) = ∑ u ∈ threads, weight (pos u) :=
      Finset.sum_insert_of_eq_zero_if_notMem (houtside t)
    simp only [Function.update_self] at hafter
    omega

/-- A thread moves between positions of one weight. -/
theorem move (h : Tally weight pos n) {t : ι} {p : P} (hp : weight p = weight (pos t)) :
    Tally weight (Function.update pos t p) n :=
  h.update (by rw [hp])

/-- A thread comes to a position that weighs one more. -/
theorem enter (h : Tally weight pos n) {t : ι} {p : P} (hp : weight p = weight (pos t) + 1) :
    Tally weight (Function.update pos t p) (n + 1) :=
  h.update (by omega)

omit [DecidableEq ι] in
theorem weight_le (h : Tally weight pos n) (t : ι) : weight (pos t) ≤ n := by
  obtain ⟨threads, houtside, rfl⟩ := h
  by_cases hin : t ∈ threads
  · exact Finset.single_le_sum (f := fun u => weight (pos u)) (fun _ _ => Nat.zero_le _) hin
  · rw [houtside t hin]
    exact Nat.zero_le _

/-- A thread comes to a position that weighs one less. -/
theorem leave (h : Tally weight pos n) {t : ι} {p : P} (hp : weight (pos t) = weight p + 1) :
    ∃ m, n = m + 1 ∧ Tally weight (Function.update pos t p) m := by
  have hle := h.weight_le t
  exact ⟨n - 1, by omega, h.update (by omega)⟩

omit [DecidableEq ι] in
/-- Where only the owner of a token weighs anything, the tally is what the owner weighs. -/
theorem eq_of_guarded {inside : P → Bool} {owner : Option ι} (h : Tally weight pos n)
    (hguard : Token.Guarded inside owner pos) (hout : ∀ p, inside p = false → weight p = 0) :
    n = owner.elim 0 (fun t => weight (pos t)) := by
  -- whoever is not the owner weighs nothing
  have hother : ∀ t, owner ≠ some t → weight (pos t) = 0 := by
    intro t ht
    apply hout
    rw [Bool.eq_false_iff]
    intro hin
    exact ht (hguard.owner_eq hin)
  obtain ⟨threads, houtside, rfl⟩ := h
  cases owner with
  | none => exact Finset.sum_eq_zero fun t _ => hother t (by simp)
  | some u =>
    show ∑ t ∈ threads, weight (pos t) = weight (pos u)
    apply Finset.sum_eq_single u
    · intro t _ htu
      exact hother t (by simpa using htu.symm)
    · exact houtside u

end Tally
