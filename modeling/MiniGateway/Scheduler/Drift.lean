/-
  Drift-free scheduling: a task's deadline is a function of how often it was executed and skipped.

  `Ledger` relates a reachable engine to the policy it was constructed with: each task has moved on
  by one period for every completed execution and every skipped cycle, and the engine's own
  counters are the sums over the tasks.  Every event but the recording of an execution leaves both
  sides alone; that one moves a single task (`onComplete_movedOn`), which bumps a single summand on
  either side (`sum_range_bump`).
-/
import MiniGateway.Scheduler.Engine
import Mathlib.Algebra.BigOperators.Group.Finset.Basic
import Mathlib.Algebra.Order.ToIntervalMod
import Mathlib.Data.Int.ConditionallyCompleteOrder

namespace MiniGateway

open Finset

/-- A sum over `range n` in which one summand grows by `d`. -/
theorem sum_range_bump {n i d : ℕ} {f g : ℕ → ℕ} (hi : i < n) (hne : ∀ j, j ≠ i → g j = f j)
    (heq : g i = f i + d) : ∑ j ∈ range n, g j = ∑ j ∈ range n, f j + d := by
  have hmem : i ∈ range n := mem_range.mpr hi
  have hrest : ∑ j ∈ (range n).erase i, g j = ∑ j ∈ (range n).erase i, f j :=
    sum_congr rfl fun j hj => hne j (ne_of_mem_erase hj)
  rw [← add_sum_erase _ g hmem, ← add_sum_erase _ f hmem, hrest, heq]
  omega

/-- As long as the result is below the limit, `saturating_add` adds. -/
theorem saturatingAdd_of_lt {target value : ℕ} (h : saturatingAdd target value < uint64Max) :
    saturatingAdd target value = target + value ∧ target < uint64Max := by
  unfold saturatingAdd at h ⊢
  split_ifs at h ⊢ <;> omega

namespace SchedulerEngine

/-- No 64-bit counter of skipped cycles has reached its limit. -/
def Unsaturated (e : SchedulerEngine) : Prop :=
  e.stats.skippedCycles < uint64Max ∧ ∀ task ∈ e.policy.tasks, task.skippedCycles < uint64Max

/-- The books of an engine constructed with `policy`. -/
structure Ledger (policy : FixedIntervalSequentialPolicy) (e : SchedulerEngine) : Prop where
  length : e.policy.tasks.length = policy.tasks.length
  begun : e.begun = e.completed ++ e.inProgress.toList
  known : ∀ i ∈ e.begun, i < policy.tasks.length
  task : ∀ (i : ℕ) (t₀ t : ScheduleTask), policy.tasks[i]? = some t₀ →
    e.policy.tasks[i]? = some t → ∃ skips, MovedOn t₀ t (e.completed.count i + skips) skips
  executed : e.stats.executed = ∑ i ∈ range policy.tasks.length, e.completed.count i
  skipped : e.Unsaturated → e.stats.skippedCycles =
    ∑ i ∈ range policy.tasks.length, (skippedAt e.policy i - skippedAt policy i)

theorem ledger_init (policy : FixedIntervalSequentialPolicy) (clock : TimePoint) :
    Ledger policy { policy := policy, clock := clock } where
  length := rfl
  begun := rfl
  known := by simp
  task i t₀ t h₀ h := by
    obtain rfl : t₀ = t := Option.some.inj (h₀.symm.trans h)
    exact ⟨0, by simpa using MovedOn.refl t₀⟩
  executed := by simp
  skipped _ := by simp

/-- The books do not depend on where the worker is outside the polls. -/
theorem Ledger.frame {policy : FixedIntervalSequentialPolicy} {e e' : SchedulerEngine}
    (h : Ledger policy e) (hpolicy : e'.policy = e.policy) (hcompleted : e'.completed = e.completed)
    (hstats : e'.stats = e.stats) (hbegun : e'.begun = e'.completed ++ e'.inProgress.toList)
    (hknown : ∀ i ∈ e'.begun, i < policy.tasks.length) : Ledger policy e' where
  length := hpolicy ▸ h.length
  begun := hbegun
  known := hknown
  task := by
    rw [hpolicy, hcompleted]
    exact h.task
  executed := by
    rw [hstats, hcompleted]
    exact h.executed
  skipped := by
    unfold Unsaturated
    rw [hstats, hpolicy]
    exact h.skipped

/-- The books after an execution of the task at `i` has been recorded. -/
theorem Ledger.complete {policy : FixedIntervalSequentialPolicy} {e : SchedulerEngine}
    (h : Ledger policy e) {i : ℕ} {scheduledAt startedAt finishedAt : ℤ} {failed : Bool}
    {policy' : FixedIntervalSequentialPolicy} (hin : e.inProgress = some i)
    (hp : e.policy.onComplete i finishedAt = some policy') :
    Ledger policy (e.recordPoll policy' i scheduledAt startedAt finishedAt failed) := by
  obtain ⟨task, task', hget, hrun, htasks⟩ := e.policy.onComplete_eq_some hp
  obtain ⟨skips, hmove, -, -⟩ := onComplete_movedOn hrun
  obtain ⟨hi, -⟩ := List.getElem?_eq_some_iff.mp hget
  have hget' : policy'.tasks[i]? = some task' := by
    rw [htasks, List.getElem?_set_self hi]
  have hother : ∀ j, j ≠ i → policy'.tasks[j]? = e.policy.tasks[j]? := fun j hj => by
    rw [htasks, List.getElem?_set_ne hj.symm]
  have hskippedOther : ∀ j, j ≠ i → skippedAt policy' j = skippedAt e.policy j := fun j hj => by
    unfold skippedAt
    rw [hother j hj]
  have hi₀ : i < policy.tasks.length := h.length ▸ hi
  have h₀ : policy.tasks[i]? = some policy.tasks[i] := List.getElem?_eq_getElem hi₀
  obtain ⟨skips₀, hmove₀⟩ := h.task i _ task h₀ hget
  refine ⟨?_, ?_, h.known, ?_, ?_, ?_⟩
  · simp [htasks, h.length]
  · simp [h.begun, hin]
  · intro j t₀ t ht₀ ht
    by_cases hj : j = i
    · subst hj
      obtain rfl : policy.tasks[j] = t₀ := Option.some.inj (h₀.symm.trans ht₀)
      obtain rfl : task' = t := Option.some.inj (hget'.symm.trans ht)
      refine ⟨skips₀ + skips, ?_⟩
      have hcount : (e.completed ++ [j]).count j + (skips₀ + skips) =
          e.completed.count j + skips₀ + (1 + skips) := by
        rw [List.count_append]
        simp
        omega
      simpa only [recordPoll_completed, hcount] using hmove₀.trans hmove
    · rw [recordPoll_policy, hother j hj] at ht
      obtain ⟨skips', hmove'⟩ := h.task j t₀ t ht₀ ht
      refine ⟨skips', ?_⟩
      simpa [List.count_append, Ne.symm hj] using hmove'
  · show e.stats.executed + 1 = _
    rw [h.executed]
    refine (sum_range_bump hi₀ (fun j hj => ?_) ?_).symm
    · simp [List.count_append, hj.symm]
    · simp [List.count_append]
  · rintro ⟨hstats, hall⟩
    obtain ⟨hsum, hlt⟩ := saturatingAdd_of_lt hstats
    have hunsat : e.Unsaturated := by
      refine ⟨hlt, fun t ht => ?_⟩
      obtain ⟨j, hj⟩ := List.getElem?_of_mem ht
      by_cases hji : j = i
      · subst hji
        obtain rfl : task = t := Option.some.inj (hget.symm.trans hj)
        exact hmove.grows.trans_lt (hall task' (List.mem_of_getElem? hget'))
      · exact hall t (List.mem_of_getElem? ((hother j hji).trans hj))
    show saturatingAdd e.stats.skippedCycles _ = _
    rw [hsum, h.skipped hunsat]
    refine (sum_range_bump hi₀ (fun j hj => ?_) ?_).symm
    · rw [recordPoll_policy, hskippedOther j hj]
    · rw [recordPoll_policy, skippedAt_of_get hget', skippedAt_of_get hget, skippedAt_of_get h₀]
      have h₁ := hmove.grows
      have h₂ := hmove₀.grows
      omega

/-- One event keeps the books. -/
theorem Ledger.step {policy : FixedIntervalSequentialPolicy} {e e' : SchedulerEngine}
    {l : SchedulerEvent} (h : Ledger policy e) (hplaced : e.Placed) (hl : e.step l = some e') :
    Ledger policy e' := by
  cases step_effect hplaced.started hl with
  | frame hpolicy hbegun hcompleted hstats _ _ hworker =>
    have hin : e'.inProgress = e.inProgress := by
      rcases hworker with ⟨hworker, -⟩ | ⟨hidle, hidle'⟩
      · simp [inProgress, hworker]
      · rw [hidle, hidle']
    refine h.frame hpolicy hcompleted hstats ?_ (hbegun ▸ h.known)
    rw [hbegun, hcompleted, hin]
    exact h.begun
  | poll i task now startedAt hidle _ hsel _ _ heq =>
    obtain ⟨hget, -, -⟩ := selectDue_some hsel
    obtain ⟨hi, -⟩ := List.getElem?_eq_some_iff.mp hget
    have hnone : e.inProgress = none := by simp [inProgress, hidle]
    subst heq
    refine h.frame rfl rfl rfl ?_ ?_
    · have hbegun : e.begun = e.completed := by simpa [hnone] using h.begun
      rw [inProgress_beginPoll]
      simp [beginPoll, hbegun]
    · simpa [beginPoll, or_imp, forall_and] using ⟨h.known, h.length ▸ hi⟩
  | pollReturn i scheduledAt startedAt failed finishedAt hw _ heq =>
    subst heq
    refine h.frame rfl rfl rfl ?_ h.known
    rw [h.begun]
    simp [inProgress, hw]
  | complete i scheduledAt startedAt failed finishedAt policy' hw hp heq =>
    subst heq
    exact h.complete (by simp [inProgress, hw]) hp

theorem ledger {policy : FixedIntervalSequentialPolicy} {e : SchedulerEngine}
    (h : (schedulerSystem policy).Reachable e) : Ledger policy e := by
  refine h.invariant ?_ fun _ _ _ hr hi hl => hi.step (placed hr) hl
  rintro e ⟨clock, rfl⟩
  exact ledger_init policy clock

/-! ### The deadlines -/

/-- Between iterations each execution begun has been recorded. -/
theorem Ledger.begun_eq {policy : FixedIntervalSequentialPolicy} {e : SchedulerEngine}
    (h : Ledger policy e) (hidle : e.inProgress = none) : e.begun = e.completed := by
  simpa [hidle] using h.begun

/-- Recording an execution always ends, and puts the task's deadline into
`(finishedAt, finishedAt + period]`. -/
theorem complete_enabled {policy : FixedIntervalSequentialPolicy} {e : SchedulerEngine}
    (hplaced : e.Placed) (h : Ledger policy e) {i : ℕ}
    {scheduledAt startedAt finishedAt : ℤ} {failed : Bool}
    (hw : e.worker = .returned i scheduledAt startedAt failed finishedAt) :
    ∃ e' t₀ t, e.step .complete = some e' ∧ policy.tasks[i]? = some t₀ ∧
      e'.policy.tasks[i]? = some t ∧ t.nextDue ∈ Set.Ioc finishedAt (finishedAt + t₀.period) ∧
      ∃ k : ℕ, t.nextDue = t₀.nextDue + t₀.period * k := by
  obtain ⟨task, hget, hdue, hle, hst, -⟩ :=
    hplaced.returned i scheduledAt startedAt failed finishedAt hw
  obtain ⟨policy', hp⟩ := Option.isSome_iff_exists.mp (e.policy.onComplete_isSome hget finishedAt)
  obtain ⟨hi, -⟩ := List.getElem?_eq_some_iff.mp hget
  have hi₀ : i < policy.tasks.length := h.length ▸ hi
  have h₀ : policy.tasks[i]? = some policy.tasks[i] := List.getElem?_eq_getElem hi₀
  obtain ⟨task₁, task', hget₁, hrun, htasks⟩ := e.policy.onComplete_eq_some hp
  obtain rfl : task = task₁ := Option.some.inj (hget.symm.trans hget₁)
  obtain ⟨skips, hmove, hafter, hbefore⟩ := onComplete_movedOn hrun
  obtain ⟨skips₀, hmove₀⟩ := h.task i _ task h₀ hget
  refine ⟨e.recordPoll policy' i scheduledAt startedAt finishedAt failed,
    policy.tasks[i], task', by simp [step, hw, hp], h₀, ?_, ?_, ?_⟩
  · rw [recordPoll_policy, htasks, List.getElem?_set_self hi]
  · rw [← hmove₀.period]
    exact ⟨hafter, hbefore (by omega)⟩
  · exact ⟨_, (hmove₀.trans hmove).nextDue⟩

/-- At most one instant of a grid lies in a half-open interval of one period. -/
theorem grid_unique {origin period finishedAt : ℤ} (hperiod : 0 < period) {k m : ℤ}
    (hk : origin + period * k ∈ Set.Ioc finishedAt (finishedAt + period))
    (hm : origin + period * m ∈ Set.Ioc finishedAt (finishedAt + period)) : k = m := by
  refine (existsUnique_add_zsmul_mem_Ioc hperiod origin finishedAt).unique ?_ ?_
  · simpa [mul_comm] using hk
  · simpa [mul_comm] using hm

/-- **Drift-free scheduling.**  In every reachable state of the engine

* between iterations, a task whose counter has not saturated is due at its first deadline plus its
  interval times the number of its executions and of its skipped cycles;
* between iterations, `stats_.executed` is the number of executions of all tasks, and
  `stats_.skipped_cycles`, when no counter has saturated, the number of cycles they skipped;
* when an execution finished at `finishedAt`, recording it ends, and the deadline it leaves is the
  one instant of the task's grid in `(finishedAt, finishedAt + interval]`. -/
theorem drift_free (policy : FixedIntervalSequentialPolicy) {e : SchedulerEngine}
    (h : (schedulerSystem policy).Reachable e) :
    (e.inProgress = none →
      (∀ (i : ℕ) (t₀ t : ScheduleTask), policy.tasks[i]? = some t₀ →
        e.policy.tasks[i]? = some t → t.skippedCycles < uint64Max →
        t.nextDue = t₀.nextDue +
          t₀.period * (e.begun.count i + (t.skippedCycles - t₀.skippedCycles))) ∧
      e.stats.executed = ∑ i ∈ range policy.tasks.length, e.begun.count i ∧
      (e.Unsaturated → e.stats.skippedCycles =
        ∑ i ∈ range policy.tasks.length, (skippedAt e.policy i - skippedAt policy i))) ∧
    (∀ i scheduledAt startedAt failed finishedAt,
      e.worker = .returned i scheduledAt startedAt failed finishedAt →
      ∃ e' t₀ t, e.step .complete = some e' ∧ policy.tasks[i]? = some t₀ ∧
        e'.policy.tasks[i]? = some t ∧ t.nextDue ∈ Set.Ioc finishedAt (finishedAt + t₀.period) ∧
        (∃ k : ℕ, t.nextDue = t₀.nextDue + t₀.period * k) ∧
        ∀ m : ℤ, t₀.nextDue + t₀.period * m ∈ Set.Ioc finishedAt (finishedAt + t₀.period) →
          t₀.nextDue + t₀.period * m = t.nextDue) := by
  have hledger := ledger h
  constructor
  · intro hidle
    rw [hledger.begun_eq hidle]
    refine ⟨fun i t₀ t h₀ ht hsat => ?_, hledger.executed, hledger.skipped⟩
    obtain ⟨skips, hmove⟩ := hledger.task i t₀ t h₀ ht
    rw [hmove.nextDue, hmove.skipped hsat]
    push_cast
    congr 2
    omega
  · intro i scheduledAt startedAt failed finishedAt hw
    obtain ⟨e', t₀, t, hstep, h₀, ht, hmem, k, hk⟩ := complete_enabled (placed h) hledger hw
    refine ⟨e', t₀, t, hstep, h₀, ht, hmem, ⟨k, hk⟩, fun m hm => ?_⟩
    have hperiod := ScheduleTask.period_pos (policy.interval_pos (List.mem_of_getElem? h₀))
    rw [grid_unique hperiod hm (hk ▸ hmem), hk]

/-- One task with a period of 100 ms. -/
def tenPerSecond : FixedIntervalSequentialPolicy where
  tasks := [{ groupId := lit "fast", interval := 100, nextDue := 100000000, stableOrder := 0 }]
  accepted := rfl

/-- A poll from 100 ms to 350 ms skips two cycles; the books agree. -/
theorem drift_free_overrun : ∃ e, (schedulerSystem tenPerSecond).Reachable e ∧
    e.begun = [0] ∧ e.stats.skippedCycles = 2 ∧
    e.policy.tasks.map ScheduleTask.nextDue = [100000000 + 100000000 * (1 + 2)] := by
  obtain ⟨e, hreach, htest⟩ := (schedulerSystem tenPerSecond).exists_reachable_of_run
    (s := { policy := tenPerSecond, clock := 0 })
    (w := [.start true, .select 100000000 100000000, .pollReturn false 350000000, .complete])
    (p := fun e => e.inProgress = none ∧ e.begun = [0] ∧ e.stats.skippedCycles = 2 ∧
      e.policy.tasks.map ScheduleTask.skippedCycles = [2]) ⟨0, rfl⟩ (by decide)
  obtain ⟨hidle, hbegun, hstats, hskipped⟩ := of_decide_eq_true htest
  refine ⟨e, hreach, hbegun, hstats, ?_⟩
  obtain ⟨t, ht⟩ : ∃ t, e.policy.tasks = [t] := by
    simpa using List.length_eq_one_iff.mp (by simpa using congrArg List.length hskipped)
  have hcount : t.skippedCycles = 2 := by simpa [ht] using hskipped
  have hdue := ((drift_free tenPerSecond hreach).1 hidle).1 0 _ t rfl (by simp [ht])
    (by rw [hcount]; decide)
  rw [hbegun, hcount] at hdue
  simp [ht, hdue, ScheduleTask.period, nanosecondsPerMillisecond]

end SchedulerEngine

end MiniGateway
