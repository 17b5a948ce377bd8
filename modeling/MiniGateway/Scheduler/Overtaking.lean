/-
  No starvation of a due group.

  The engine is an instance of serving the earliest due task: seen through its deadlines, its
  clock and the task it polls (`board`), every run of the engine is a run of that discipline
  (`projection`).  A selection begins a service of a task no other task is due before; the
  recording of an execution ends it and, by `onComplete_movedOn`, moves its deadline past the
  clock.  `no_starvation` is the bounded overtaking of the discipline read back in the engine.
-/
import MiniGateway.EarliestDue
import MiniGateway.Scheduler.Drift

namespace MiniGateway

open Finset EarliestDue

namespace SchedulerEngine

/-- The deadline of the task at `i`. -/
def dueAt (policy : FixedIntervalSequentialPolicy) (i : ℕ) : ℤ :=
  (policy.tasks[i]?.map ScheduleTask.nextDue).getD 0

theorem dueAt_of_get {policy : FixedIntervalSequentialPolicy} {i : ℕ} {task : ScheduleTask}
    (h : policy.tasks[i]? = some task) : dueAt policy i = task.nextDue := by
  simp [dueAt, h]

/-- The engine as a board of deadlines. -/
def board (e : SchedulerEngine) : Board ℕ ℤ where
  due := dueAt e.policy
  now := e.clock
  serving := e.inProgress
  served := e.begun

/-- A selection begins the service of the earliest due task. -/
theorem board_beginPoll {e : SchedulerEngine} {i : ℕ} {task : ScheduleTask} {now startedAt : ℤ}
    (hidle : e.inProgress = none) (hsel : selectDue e.policy.tasks now = some (i, task))
    (hclock : e.clock ≤ now) (hlater : now ≤ startedAt) :
    (EarliestDue.system (range e.policy.tasks.length)).step e.board (.begin i startedAt) =
      some (e.beginPoll i task startedAt).board := by
  obtain ⟨hget, hdue, hleast⟩ := selectDue_some hsel
  obtain ⟨hi, -⟩ := List.getElem?_eq_some_iff.mp hget
  refine if_pos ⟨hidle, mem_range.mpr hi, hclock.trans hlater, ?_, fun j hj => ?_⟩
  · show dueAt e.policy i ≤ startedAt
    rw [dueAt_of_get hget]
    exact hdue.trans hlater
  · have hj' := List.getElem?_eq_getElem (mem_range.mp hj)
    show dueAt e.policy i ≤ dueAt e.policy j
    rw [dueAt_of_get hget, dueAt_of_get hj']
    exact hleast _ (List.mem_of_getElem? hj')

/-- Recording an execution ends its service. -/
theorem board_recordPoll {members : Finset ℕ} {e : SchedulerEngine} {i : ℕ}
    {scheduledAt startedAt finishedAt : ℤ} {failed : Bool}
    {policy : FixedIntervalSequentialPolicy} (hplaced : e.Placed)
    (hw : e.worker = .returned i scheduledAt startedAt failed finishedAt)
    (hp : e.policy.onComplete i finishedAt = some policy) :
    ∃ next, (EarliestDue.system members).step e.board (.finish next finishedAt) =
      some (e.recordPoll policy i scheduledAt startedAt finishedAt failed).board := by
  obtain ⟨task, task', hget, hrun, htasks⟩ := e.policy.onComplete_eq_some hp
  obtain ⟨-, -, -, -, -, hclock⟩ := hplaced.returned i scheduledAt startedAt failed finishedAt hw
  obtain ⟨-, -, hafter, -⟩ := onComplete_movedOn hrun
  obtain ⟨hi, -⟩ := List.getElem?_eq_some_iff.mp hget
  have hserving : e.board.serving = some i := by simp [board, inProgress, hw]
  have hdue : Function.update (dueAt e.policy) i task'.nextDue = dueAt policy := by
    funext j
    by_cases hj : j = i
    · subst hj
      have hget' : policy.tasks[j]? = some task' := by rw [htasks, List.getElem?_set_self hi]
      rw [Function.update_self, dueAt_of_get hget']
    · rw [Function.update_of_ne hj, dueAt, dueAt, htasks, List.getElem?_set_ne (Ne.symm hj)]
  refine ⟨task'.nextDue, ?_⟩
  simp only [EarliestDue.system, Board.step, hserving]
  rw [if_pos ⟨hclock.ge, hafter⟩]
  simp only [board, hdue, recordPoll_policy, inProgress_recordPoll, recordPoll_begun, hclock]
  rfl

/-- Every run of the engine serves the earliest due task. -/
theorem projection (policy : FixedIntervalSequentialPolicy) :
    (schedulerSystem policy).Projection
      (EarliestDue.system (range policy.tasks.length)) board where
  init := by
    rintro e ⟨clock, rfl⟩
    rfl
  step e l e' hr hl := by
    have hplaced := placed hr
    have htick : ∀ t, e.clock ≤ t → e'.policy = e.policy → e'.inProgress = e.inProgress →
        e'.begun = e.begun → e'.clock = t →
        (EarliestDue.system (range policy.tasks.length)).step e.board (.tick t) =
          some e'.board := by
      rintro t ht hpolicy hin hbegun rfl
      simp [EarliestDue.system, Board.step, board, ht, hpolicy, hin, hbegun]
    cases step_effect hplaced.started hl with
    | frame hpolicy hbegun _ _ hclock _ hworker =>
      refine Or.inr ⟨.tick e'.clock, htick _ hclock hpolicy ?_ hbegun rfl⟩
      rcases hworker with ⟨hworker, -⟩ | ⟨hidle, hidle'⟩
      · simp [inProgress, hworker]
      · rw [hidle, hidle']
    | poll i task now startedAt hidle _ hsel hclock hlater heq =>
      subst heq
      rw [← (ledger hr).length]
      exact Or.inr ⟨_, board_beginPoll (by simp [inProgress, hidle]) hsel hclock hlater⟩
    | pollReturn i scheduledAt startedAt failed finishedAt hw hclock heq =>
      refine Or.inr ⟨.tick finishedAt, htick _ hclock ?_ ?_ ?_ ?_⟩ <;> simp [heq, inProgress, hw]
    | complete i scheduledAt startedAt failed finishedAt policy' hw hp heq =>
      subst heq
      obtain ⟨next, hnext⟩ := board_recordPoll hplaced hw hp
      exact Or.inr ⟨_, hnext⟩

/-! ### A due task among others -/

/-- A selection at an instant at which some task is due begins a poll. -/
theorem select_of_due {e e' : SchedulerEngine} {now startedAt : ℤ} {task : ScheduleTask}
    (hmem : task ∈ e.policy.tasks) (hdue : task.nextDue ≤ now)
    (h : e.step (.select now startedAt) = some e') :
    ∃ i first, selectDue e.policy.tasks now = some (i, first) ∧ e.inProgress = none ∧
      e.clock ≤ now ∧ now ≤ startedAt ∧ e' = e.beginPoll i first startedAt := by
  simp only [step] at h
  by_cases hg : e.worker = .iterating ∧ e.stopping = false ∧ e.clock ≤ now
  · rw [if_pos hg] at h
    split at h
    · rename_i hnone
      exact absurd hdue (not_le.mpr (selectDue_eq_none_iff.mp hnone task hmem))
    · rename_i i first hsel
      split_ifs at h with hlater
      exact ⟨i, first, hsel, by simp [inProgress, hg.1], hg.2.2, hlater, (Option.some.inj h).symm⟩
  · simp [if_neg hg] at h

/-- The worker goes to sleep only when no task is due. -/
theorem step_sleeping {e e' : SchedulerEngine} {l : SchedulerEvent} {wakeup : ℤ}
    (h : e.step l = some e') (hw : e'.worker = .sleeping wakeup) :
    e.worker = .sleeping wakeup ∨
      ∃ now, e.clock ≤ now ∧ ∀ task ∈ e.policy.tasks, now < task.nextDue := by
  cases l with
  | start launched =>
    obtain rfl := Option.some.inj h
    unfold start at hw
    split_ifs at hw
    · exact Or.inl hw
    · exact Or.inl hw
  | requestStop =>
    obtain rfl := Option.some.inj h
    exact Or.inl hw
  | join =>
    simp only [step] at h
    split_ifs at h <;> obtain rfl := Option.some.inj h <;> exact Or.inl hw
  | select now startedAt =>
    simp only [step] at h
    by_cases hg : e.worker = .iterating ∧ e.stopping = false ∧ e.clock ≤ now
    · rw [if_pos hg] at h
      split at h
      · rename_i hnone
        exact Or.inr ⟨now, hg.2.2, selectDue_eq_none_iff.mp hnone⟩
      · split_ifs at h
        obtain rfl := Option.some.inj h
        simp [beginPoll] at hw
    · simp [if_neg hg] at h
  | wake now =>
    simp only [step] at h
    split at h
    · split_ifs at h
      obtain rfl := Option.some.inj h
      simp at hw
    · simp at h
  | pollReturn failed finishedAt =>
    simp only [step] at h
    split at h
    · split_ifs at h
      obtain rfl := Option.some.inj h
      simp at hw
    · simp at h
  | complete =>
    simp only [step] at h
    split at h
    · obtain ⟨policy, -, rfl⟩ := Option.map_eq_some_iff.mp h
      simp [recordPoll] at hw
    · simp at h
  | exit =>
    simp only [step] at h
    split_ifs at h
    obtain rfl := Option.some.inj h
    simp at hw

/-- A call of `select_due(now)` in a reachable state at which the task at `B` is due. -/
structure DueCall (policy : FixedIntervalSequentialPolicy) (e e₁ : SchedulerEngine) (B : ℕ)
    (task : ScheduleTask) (now startedAt : ℤ) : Prop where
  reachable : (schedulerSystem policy).Reachable e
  called : e.step (.select now startedAt) = some e₁
  get : e.policy.tasks[B]? = some task
  due : task.nextDue ≤ now

namespace DueCall

variable {policy : FixedIntervalSequentialPolicy} {e e₁ e₂ : SchedulerEngine} {B : ℕ}
  {task : ScheduleTask} {now startedAt : ℤ}

theorem reachable_after (h : DueCall policy e e₁ B task now startedAt) :
    (schedulerSystem policy).Reachable e₁ :=
  h.reachable.step (l := .select now startedAt) h.called

theorem lt_length (h : DueCall policy e e₁ B task now startedAt) : B < policy.tasks.length := by
  rw [← (ledger h.reachable).length]
  exact (List.getElem?_eq_some_iff.mp h.get).1

/-- What the discipline of the board says about the executions begun since the call; until the
task is polled its deadline stands and the clock is past it. -/
theorem overtaken (h : DueCall policy e e₁ B task now startedAt)
    (hrun : (schedulerSystem policy).Reaches e₁ e₂) :
    ∃ ex, e₂.begun = e.begun ++ ex ∧ (∀ j ∈ ex, j ∈ range policy.tasks.length) ∧
      (ex.takeWhile (· ≠ B)).Nodup ∧
      (B ∉ ex → dueAt e₂.policy B ≤ e₂.clock) := by
  obtain ⟨i, first, hsel, hidle, hclock, hlater, rfl⟩ :=
    select_of_due (List.mem_of_getElem? h.get) h.due h.called
  -- the board on which the call finds `B` due
  have hbegin := board_beginPoll (e := { e with clock := now }) hidle hsel le_rfl hlater
  have hreach := (projection policy).reaches h.reachable_after hrun
  rw [(ledger h.reachable).length] at hbegin
  obtain ⟨ex, hbegun, hmem, hnodup, hwait⟩ := EarliestDue.overtaking (mem_range.mpr h.lt_length)
    (b := board { e with clock := now }) hidle
    (by simpa [board, dueAt_of_get h.get] using h.due) (TransitionSystem.Reaches.head hbegin hreach)
  refine ⟨ex, hbegun, hmem, hnodup, fun hB => ?_⟩
  have hw := hwait hB
  exact hw.due_eq.trans_le hw.due_le

/-- As long as the task has not been polled some task is due, so the worker does not sleep. -/
theorem awake (h : DueCall policy e e₁ B task now startedAt)
    (hrun : (schedulerSystem policy).Reaches e₁ e₂) :
    (∃ ex, e₂.begun = e.begun ++ ex ∧ B ∈ ex) ∨ ∀ wakeup, e₂.worker ≠ .sleeping wakeup := by
  induction hrun with
  | refl =>
    right
    obtain ⟨i, first, -, -, -, -, rfl⟩ :=
      select_of_due (List.mem_of_getElem? h.get) h.due h.called
    simp [beginPoll]
  | @step e₂ e₃ l hrun hl ih =>
    have hreach := hrun.reachable h.reachable_after
    have hlog : ∃ more, e₃.begun = e₂.begun ++ more := by
      cases step_effect (placed hreach).started hl with
      | frame _ hbegun _ _ _ _ _ => exact ⟨[], by simp [hbegun]⟩
      | poll i task now startedAt _ _ _ _ _ heq => exact ⟨[i], by simp [heq, beginPoll]⟩
      | pollReturn _ _ _ _ _ _ _ heq => exact ⟨[], by simp [heq]⟩
      | complete _ _ _ _ _ _ _ _ heq => exact ⟨[], by simp [heq]⟩
    obtain ⟨more, hmore⟩ := hlog
    obtain ⟨ex, hbegun, -, -, hdue⟩ := h.overtaken hrun
    by_cases hB : B ∈ ex
    · exact Or.inl ⟨ex ++ more, by simp [hmore, hbegun], by simp [hB]⟩
    · right
      intro wakeup hw
      rcases step_sleeping hl hw with hw' | ⟨now', hclock, hall⟩
      · rcases ih with ⟨ex', hbegun', hB'⟩ | hawake
        · exact hB (List.append_cancel_left (hbegun'.symm.trans hbegun) ▸ hB')
        · exact hawake wakeup hw'
      · have hlt : B < e₂.policy.tasks.length := (ledger hreach).length ▸ h.lt_length
        have hlate := hall _ (List.getElem_mem hlt)
        have hearly := hdue hB
        rw [dueAt_of_get (List.getElem?_eq_getElem hlt)] at hearly
        omega

end DueCall

/-- **No starvation of a due group.**  After a call `select_due(now)` at which the task at `B` is
due, every run polls each other task at most once before it polls the one at `B`, which is
therefore among the next polls, as many as there are tasks; until then the worker does not sleep,
and every further selection begins a poll. -/
theorem no_starvation {policy : FixedIntervalSequentialPolicy} {e e₁ e₂ : SchedulerEngine} {B : ℕ}
    {task : ScheduleTask} {now startedAt : ℤ} (h : DueCall policy e e₁ B task now startedAt)
    (hrun : (schedulerSystem policy).Reaches e₁ e₂) :
    ∃ ex, e₂.begun = e.begun ++ ex ∧
      (∀ j, j ≠ B → (ex.takeWhile (· ≠ B)).count j ≤ 1) ∧
      (policy.tasks.length ≤ ex.length → B ∈ ex.take policy.tasks.length) ∧
      (B ∉ ex → (∀ wakeup, e₂.worker ≠ .sleeping wakeup) ∧
        ∀ now' startedAt' e₃, e₂.step (.select now' startedAt') = some e₃ →
          e₃.begun.length = e₂.begun.length + 1) := by
  obtain ⟨ex, hbegun, hmem, hnodup, hdue⟩ := h.overtaken hrun
  refine ⟨ex, hbegun, fun j _ => List.nodup_iff_count_le_one.mp hnodup j, ?_, ?_⟩
  · intro hlength
    have := mem_take_card (mem_range.mpr h.lt_length) hmem hnodup (by simpa using hlength)
    simpa using this
  · intro hB
    refine ⟨?_, fun now' startedAt' e₃ hstep => ?_⟩
    · rcases h.awake hrun with ⟨ex', hbegun', hB'⟩ | hawake
      · exact absurd (List.append_cancel_left (hbegun'.symm.trans hbegun) ▸ hB') hB
      · exact hawake
    · have hlt : B < e₂.policy.tasks.length :=
        (ledger (hrun.reachable h.reachable_after)).length ▸ h.lt_length
      have hearly := hdue hB
      rw [dueAt_of_get (List.getElem?_eq_getElem hlt)] at hearly
      have hclock : e₂.clock ≤ now' := by
        simp only [step] at hstep
        by_contra hlate
        simp [hlate] at hstep
      obtain ⟨i, first, -, -, -, -, rfl⟩ :=
        select_of_due (List.getElem_mem hlt) (hearly.trans hclock) hstep
      simp [beginPoll]

/-- A fast and a slow task. -/
def fastAndSlow : FixedIntervalSequentialPolicy where
  tasks := [
    { groupId := lit "fast", interval := 1, nextDue := 0, stableOrder := 0 },
    { groupId := lit "slow", interval := 1000, nextDue := 0, stableOrder := 1 }]
  accepted := rfl

/-- The fast task is due again and again, but the slow one is polled second. -/
theorem no_starvation_slow : ∃ e₂, (schedulerSystem fastAndSlow).Reachable e₂ ∧
    1 ∈ e₂.begun.take 2 ∧ e₂.clock = 9000000 := by
  let e₀ : SchedulerEngine := { policy := fastAndSlow, clock := 0 }
  have hinit : (schedulerSystem fastAndSlow).Reachable e₀ := .init ⟨0, rfl⟩
  have hcall : DueCall fastAndSlow (e₀.start true)
      ((e₀.start true).beginPoll 0 fastAndSlow.tasks[0] 0) 1 fastAndSlow.tasks[1] 0 0 :=
    ⟨hinit.step (l := .start true) rfl, rfl, rfl, by decide⟩
  obtain ⟨e₂, hrun, htest⟩ := (schedulerSystem fastAndSlow).exists_reaches_of_run
    (s := (e₀.start true).beginPoll 0 fastAndSlow.tasks[0] 0)
    (w := [.pollReturn false 5000000, .complete, .select 6000000 6000000,
      .pollReturn false 9000000])
    (p := fun e => e.begun.length = 2 ∧ e.clock = 9000000) (by decide)
  obtain ⟨hlength, hclock⟩ := of_decide_eq_true htest
  obtain ⟨ex, hbegun, -, htake, -⟩ := no_starvation hcall hrun
  have hex : e₂.begun = ex := hbegun
  exact ⟨e₂, hrun.reachable hcall.reachable_after, hex ▸ htake (by rw [← hex, hlength]; decide),
    hclock⟩

end SchedulerEngine

end MiniGateway
