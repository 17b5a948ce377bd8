/-
  How late the earliest due task can be.

  Tasks with bounded service times are served one at a time, the earliest due first, and a task is
  next due after its service has ended.  What can still come before a task `i` is then one service
  of each task that is due no later (`ahead`), and this shrinks by as much as the clock moves on
  whenever one of them is served.  So the sum of the clock and of what is ahead of `i` never gets
  further past its deadline than one service of every other task (`OnTime`); nothing is assumed
  about how often the tasks are due.
-/
import Mathlib.Algebra.Order.BigOperators.Group.Finset

namespace EarliestDue

variable {ι α : Type*} [DecidableEq ι] [AddCommGroup α] [LinearOrder α] [IsOrderedAddMonoid α]
  {members : Finset ι} {cost due : ι → α} {slack time time' : α}

/-- One service of every other task. -/
def others (members : Finset ι) (cost : ι → α) (i : ι) : α := ∑ j ∈ members.erase i, cost j

/-- One service of every other task that is due no later than `i`. -/
def ahead (members : Finset ι) (cost due : ι → α) (i : ι) : α :=
  ∑ j ∈ (members.erase i).filter (fun j => due j ≤ due i), cost j

/-- At `time`, between two services, each task will be served no later than this allows. -/
def OnTime (members : Finset ι) (cost due : ι → α) (slack time : α) : Prop :=
  ∀ i ∈ members, time + ahead members cost due i ≤ due i + others members cost i + slack

theorem ahead_le_others (hcost : ∀ i, 0 ≤ cost i) (due : ι → α) (i : ι) :
    ahead members cost due i ≤ others members cost i :=
  Finset.sum_le_sum_of_subset_of_nonneg (Finset.filter_subset ..) fun j _ _ => hcost j

theorem ahead_nonneg (hcost : ∀ i, 0 ≤ cost i) (due : ι → α) (i : ι) :
    0 ≤ ahead members cost due i :=
  Finset.sum_nonneg fun j _ => hcost j

/-- Nobody is late before anything is due. -/
theorem OnTime.of_early (hcost : ∀ i, 0 ≤ cost i) (h : ∀ i ∈ members, time ≤ due i + slack) :
    OnTime members cost due slack time := by
  intro i hi
  calc time + ahead members cost due i
      ≤ due i + slack + others members cost i := add_le_add (h i hi) (ahead_le_others hcost due i)
    _ = due i + others members cost i + slack := add_right_comm ..

theorem OnTime.mono (h : OnTime members cost due slack time) (htime : time' ≤ time) :
    OnTime members cost due slack time' :=
  fun i hi => (add_le_add_left htime _).trans (h i hi)

/-- A task that is served now is no later than one service of every other task. -/
theorem OnTime.start (h : OnTime members cost due slack time) (hcost : ∀ i, 0 ≤ cost i) {i : ι}
    (hi : i ∈ members) : time ≤ due i + others members cost i + slack :=
  (le_add_of_nonneg_right (ahead_nonneg hcost due i)).trans (h i hi)

omit [IsOrderedAddMonoid α] in
/-- The task that is served leaves the way of every task that was due no earlier. -/
theorem ahead_update {i k : ι} (hk : k ∈ members) (hne : k ≠ i) (hbefore : due k ≤ due i) {next : α}
    (hnext : due i < next) :
    ahead members cost (Function.update due k next) i + cost k = ahead members cost due i := by
  have hfilter : (members.erase i).filter (fun j => due j ≤ due i) =
      insert k ((members.erase i).filter fun j =>
        Function.update due k next j ≤ Function.update due k next i) := by
    ext j
    rw [Finset.mem_filter, Finset.mem_insert, Finset.mem_filter,
      Function.update_of_ne (Ne.symm hne)]
    by_cases hj : j = k
    · subst hj
      simp [hk, hne, hbefore]
    · simp [hj]
  have hnotin : k ∉ (members.erase i).filter fun j =>
      Function.update due k next j ≤ Function.update due k next i := by
    rw [Finset.mem_filter, Function.update_self, Function.update_of_ne (Ne.symm hne)]
    exact fun hin => absurd hin.2 (not_le.mpr hnext)
  unfold ahead
  rw [hfilter, Finset.sum_insert hnotin, add_comm]

/-- **The earliest due task is served.**  Afterwards everybody is as punctual as before. -/
theorem OnTime.serve (h : OnTime members cost due slack time) (hcost : ∀ i, 0 ≤ cost i)
    (hslack : 0 ≤ slack) {k : ι} (hk : k ∈ members) (hfirst : ∀ j ∈ members, due k ≤ due j)
    (htime : time' ≤ time + cost k) {next : α} (hnext : time' < next) :
    OnTime members cost (Function.update due k next) slack time' := by
  intro i hi
  have hle : ahead members cost (Function.update due k next) i ≤ others members cost i :=
    ahead_le_others hcost _ i
  by_cases hlate : Function.update due k next i < next
  · -- the task that has been served is out of the way of `i`
    have hne : k ≠ i := by
      rintro rfl
      rw [Function.update_self] at hlate
      exact lt_irrefl _ hlate
    rw [Function.update_of_ne (Ne.symm hne)] at hlate ⊢
    calc time' + ahead members cost (Function.update due k next) i
        ≤ time + cost k + ahead members cost (Function.update due k next) i :=
          add_le_add_left htime _
      _ = time + ahead members cost due i := by
          rw [← ahead_update hk hne (hfirst i hi) hlate, add_assoc, add_comm (cost k)]
      _ ≤ due i + others members cost i + slack := h i hi
  · -- whatever is ahead of `i`, it is not due yet
    calc time' + ahead members cost (Function.update due k next) i
        ≤ Function.update due k next i + others members cost i :=
          add_le_add (hnext.le.trans (not_lt.mp hlate)) hle
      _ ≤ _ := le_add_of_nonneg_right hslack

end EarliestDue
