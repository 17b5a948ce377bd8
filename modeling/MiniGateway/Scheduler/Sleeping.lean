/-
  Selecting and sleeping.

  `select_due` and `next_wakeup` search the tasks for a minimum each in its own way: a loop that
  passes over the tasks that are not due, and `std::min_element`.  `agrees` says that they find the
  same deadline, whatever the list and the instant, and that `select_due` returns the foremost task
  in the order `rank`.

  So `run` goes to sleep only until an instant that has not come yet (`sleeping_early`), and it
  sleeps again only after it has polled (`polled_between`).
-/
import MiniGateway.Scheduler.Engine

namespace MiniGateway

/-! ### The foremost task -/

/-- The order in which tasks are served: by deadline, stable order and position in the list. -/
def ScheduleTask.rank (i : ℕ) (task : ScheduleTask) : ℤ ×ₗ ℕ ×ₗ ℕ :=
  toLex (task.nextDue, toLex (task.stableOrder, i))

namespace ScheduleTask

/-- The position decides between tasks that `select_due` does not tell apart. -/
theorem rank_lt_of_key {i j : ℕ} {task other : ScheduleTask}
    (h : task.key < other.key ∨ (task.key = other.key ∧ i < j)) : task.rank i < other.rank j := by
  simp only [rank, Prod.Lex.toLex_lt_toLex]
  rcases h with hlt | ⟨heq, hij⟩
  · rcases key_lt_iff.mp hlt with hdue | ⟨hdue, horder⟩
    · exact Or.inl hdue
    · exact Or.inr ⟨hdue, Or.inl horder⟩
  · obtain ⟨hdue, horder⟩ := Prod.mk.inj (toLex.injective heq)
    exact Or.inr ⟨hdue, Or.inr ⟨horder, hij⟩⟩

theorem nextDue_le_of_rank_lt {i j : ℕ} {task other : ScheduleTask}
    (h : task.rank i < other.rank j) : task.nextDue ≤ other.nextDue := by
  simp only [rank, Prod.Lex.toLex_lt_toLex] at h
  omega

end ScheduleTask

/-- The task at `i` precedes every other task of the list. -/
structure Foremost (tasks : List ScheduleTask) (i : ℕ) (task : ScheduleTask) : Prop where
  get : tasks[i]? = some task
  precedes : ∀ (j : ℕ) (other : ScheduleTask), tasks[j]? = some other → j ≠ i →
    task.rank i < other.rank j

/-- The task that `select_due` returns precedes also the tasks it has passed over. -/
theorem foremost_of_selectDue {tasks : List ScheduleTask} {now : ℤ} {i : ℕ} {task : ScheduleTask}
    (h : selectDue tasks now = some (i, task)) : Foremost tasks i task ∧ task.nextDue ≤ now := by
  have hspec := selectDue_spec tasks now
  rw [h] at hspec
  cases hspec with
  | some hget hdue hleast =>
    refine ⟨⟨hget, fun j other hj hne => ScheduleTask.rank_lt_of_key ?_⟩, hdue⟩
    by_cases hother : other.nextDue ≤ now
    · rcases hleast j other hj hother with hlt | ⟨heq, hij⟩
      · exact Or.inl hlt
      · exact Or.inr ⟨heq, lt_of_le_of_ne hij (Ne.symm hne)⟩
    · have hlater : task.nextDue < other.nextDue := by omega
      exact Or.inl (ScheduleTask.key_lt_iff.mpr (Or.inl hlater))

/-! ### The earliest deadline -/

/-- The loop invariant of `std::min_element`: what it returns is one of the elements, and no other
compares less. -/
theorem earliest_spec (best : ScheduleTask) (tasks : List ScheduleTask) :
    earliest best tasks ∈ best :: tasks ∧
      ∀ task ∈ best :: tasks, (earliest best tasks).key ≤ task.key := by
  induction tasks generalizing best with
  | nil => simp [earliest]
  | cons task rest ih =>
    have hbeats : (if task.nextDue ≠ best.nextDue then task.nextDue < best.nextDue
        else task.stableOrder < best.stableOrder) ↔ task.key < best.key := by
      rw [ScheduleTask.key_lt_iff]
      split_ifs <;> omega
    rw [earliest, if_congr hbeats rfl rfl]
    split_ifs with hlt
    · obtain ⟨hmem, hle⟩ := ih task
      refine ⟨List.mem_cons_of_mem _ hmem, fun other hother => ?_⟩
      rcases List.mem_cons.mp hother with rfl | hother
      · exact (hle task List.mem_cons_self).trans hlt.le
      · exact hle other hother
    · obtain ⟨hmem, hle⟩ := ih best
      refine ⟨?_, fun other hother => ?_⟩
      · rcases List.mem_cons.mp hmem with heq | hrest
        · rw [heq]
          exact List.mem_cons_self
        · exact List.mem_cons_of_mem _ (List.mem_cons_of_mem _ hrest)
      · rcases List.mem_cons.mp hother with rfl | hother
        · exact hle other List.mem_cons_self
        · rcases List.mem_cons.mp hother with rfl | hother
          · exact (hle best List.mem_cons_self).trans (not_lt.mp hlt)
          · exact hle other (List.mem_cons_of_mem _ hother)

/-- `next_wakeup` is the deadline of some task. -/
theorem nextWakeup_mem {tasks : List ScheduleTask} (h : tasks ≠ []) :
    ∃ task ∈ tasks, task.nextDue = nextWakeup tasks := by
  cases tasks with
  | nil => exact absurd rfl h
  | cons task rest => exact ⟨_, (earliest_spec task rest).1, rfl⟩

/-- No deadline comes before `next_wakeup`. -/
theorem nextWakeup_le {tasks : List ScheduleTask} {task : ScheduleTask} (h : task ∈ tasks) :
    nextWakeup tasks ≤ task.nextDue := by
  cases tasks with
  | nil => cases h
  | cons first rest =>
    exact ScheduleTask.nextDue_le_of_key_le ((earliest_spec first rest).2 task h)

theorem Foremost.nextDue_eq {tasks : List ScheduleTask} {i : ℕ} {task : ScheduleTask}
    (h : Foremost tasks i task) : task.nextDue = nextWakeup tasks := by
  have hmem : task ∈ tasks := List.mem_of_getElem? h.get
  obtain ⟨first, hfirst, heq⟩ := nextWakeup_mem (List.ne_nil_of_mem hmem)
  refine le_antisymm ?_ (nextWakeup_le hmem)
  rw [← heq]
  obtain ⟨j, hj⟩ := List.getElem?_of_mem hfirst
  by_cases hji : j = i
  · subst hji
    obtain rfl : first = task := Option.some.inj (hj.symm.trans h.get)
    exact le_rfl
  · exact ScheduleTask.nextDue_le_of_rank_lt (h.precedes j first hj hji)

/-- Nothing is due exactly while `next_wakeup` lies ahead. -/
theorem lt_nextWakeup_iff {tasks : List ScheduleTask} {now : ℤ} :
    (tasks = [] ∨ now < nextWakeup tasks) ↔ ∀ task ∈ tasks, now < task.nextDue := by
  constructor
  · rintro (rfl | hlt) task hmem
    · cases hmem
    · exact hlt.trans_le (nextWakeup_le hmem)
  · intro hall
    by_cases hempty : tasks = []
    · exact Or.inl hempty
    · obtain ⟨task, hmem, heq⟩ := nextWakeup_mem hempty
      exact Or.inr (heq ▸ hall task hmem)

/-- What `select_due` and `next_wakeup` say about one list at one instant. -/
structure Agrees (tasks : List ScheduleTask) (now : ℤ) : Prop where
  none_iff : selectDue tasks now = none ↔ tasks = [] ∨ now < nextWakeup tasks
  some : ∀ i task, selectDue tasks now = some (i, task) →
    Foremost tasks i task ∧ task.nextDue ≤ now ∧ task.nextDue = nextWakeup tasks

/-- The two searches agree. -/
theorem agrees (tasks : List ScheduleTask) (now : ℤ) : Agrees tasks now where
  none_iff := selectDue_eq_none_iff.trans lt_nextWakeup_iff.symm
  some _ _ h := by
    obtain ⟨hforemost, hdue⟩ := foremost_of_selectDue h
    exact ⟨hforemost, hdue, hforemost.nextDue_eq⟩

/-! ### The worker -/

namespace SchedulerEngine

variable {policy : FixedIntervalSequentialPolicy} {e e' e'' : SchedulerEngine}

/-- What one pass over the loop condition decides. -/
inductive Pass (e : SchedulerEngine) (now startedAt : ℤ) : SchedulerEngine → Prop
  /-- Nothing is due: the worker sleeps until `next_wakeup`. -/
  | sleep (early : e.policy.tasks = [] ∨ now < nextWakeup e.policy.tasks) :
      Pass e now startedAt
        { e with worker := .sleeping (nextWakeup e.policy.tasks), clock := now }
  /-- The foremost task is due at `next_wakeup`, which has come. -/
  | poll {i : ℕ} {task : ScheduleTask} (foremost : Foremost e.policy.tasks i task)
      (wakeup : task.nextDue = nextWakeup e.policy.tasks) (due : task.nextDue ≤ now) :
      Pass e now startedAt (e.beginPoll i task startedAt)

/-- A pass starts at the loop condition, with a reading of the clock. -/
theorem select_pass {now startedAt : ℤ} (h : e.step (.select now startedAt) = some e') :
    e.worker = .iterating ∧ e.stopping = false ∧ e.clock ≤ now ∧ Pass e now startedAt e' := by
  have hagrees := agrees e.policy.tasks now
  simp only [step] at h
  by_cases hg : e.worker = .iterating ∧ e.stopping = false ∧ e.clock ≤ now
  · rw [if_pos hg] at h
    refine ⟨hg.1, hg.2.1, hg.2.2, ?_⟩
    split at h
    · rename_i hnone
      obtain rfl := Option.some.inj h
      exact .sleep (hagrees.none_iff.mp hnone)
    · rename_i i task hsome
      obtain ⟨hforemost, hdue, hwakeup⟩ := hagrees.some i task hsome
      split_ifs at h
      obtain rfl := Option.some.inj h
      exact .poll hforemost hwakeup hdue
  · rw [if_neg hg] at h
    cases h

/-- A sleeping worker has read the clock before every deadline; it waits for the earliest one. -/
structure SleepingEarly (e : SchedulerEngine) (wakeup : ℤ) : Prop where
  earliest : wakeup = nextWakeup e.policy.tasks
  early : e.policy.tasks = [] ∨ e.clock < wakeup
  not_due : ∀ task ∈ e.policy.tasks, e.clock < task.nextDue

/-- The worker falls asleep in a pass and stays as it is until it wakes. -/
theorem sleeping_of_step {l : SchedulerEvent} {wakeup : ℤ}
    (h : e.step l = some e') (hw : e'.worker = .sleeping wakeup) :
    (e.worker = .sleeping wakeup ∧ e'.policy = e.policy ∧ e'.clock = e.clock) ∨
      ∃ now startedAt, l = .select now startedAt := by
  cases l with
  | select now startedAt => exact Or.inr ⟨now, startedAt, rfl⟩
  | start launched =>
    obtain rfl := Option.some.inj h
    left
    revert hw
    unfold start
    split_ifs with hstarted
    · exact fun hw => ⟨hw, rfl, rfl⟩
    · exact fun hw => by cases hw
    · exact fun hw => ⟨hw, rfl, rfl⟩
  | requestStop =>
    obtain rfl := Option.some.inj h
    exact Or.inl ⟨hw, rfl, rfl⟩
  | join =>
    simp only [step] at h
    split_ifs at h
    all_goals
      obtain rfl := Option.some.inj h
      exact Or.inl ⟨hw, rfl, rfl⟩
  | wake now =>
    simp only [step] at h
    split at h
    · split_ifs at h
      obtain rfl := Option.some.inj h
      cases hw
    · cases h
  | pollReturn failed finishedAt =>
    simp only [step] at h
    split at h
    · split_ifs at h
      obtain rfl := Option.some.inj h
      cases hw
    · cases h
  | complete =>
    simp only [step] at h
    split at h
    · obtain ⟨policy, -, rfl⟩ := Option.map_eq_some_iff.mp h
      cases hw
    · cases h
  | exit =>
    simp only [step] at h
    split_ifs at h
    obtain rfl := Option.some.inj h
    cases hw

theorem sleeping_early (h : (schedulerSystem policy).Reachable e) :
    ∀ wakeup, e.worker = .sleeping wakeup → SleepingEarly e wakeup := by
  refine h.invariant (I := fun e => ∀ wakeup, e.worker = .sleeping wakeup →
    SleepingEarly e wakeup) ?_ ?_
  · rintro e ⟨clock, rfl⟩ wakeup hw
    cases hw
  · intro e l e' _ hi hstep wakeup hw
    rcases sleeping_of_step hstep hw with ⟨hold, hpolicy, hclock⟩ | ⟨now, startedAt, rfl⟩
    · obtain ⟨hwakeup, hearly, hdue⟩ := hi wakeup hold
      refine ⟨?_, ?_, ?_⟩
      · rw [hpolicy]
        exact hwakeup
      · rw [hpolicy, hclock]
        exact hearly
      · rw [hpolicy, hclock]
        exact hdue
    · obtain ⟨-, -, -, hpass⟩ := select_pass hstep
      cases hpass with
      | sleep hearly =>
        obtain rfl := SchedulerPc.sleeping.inj hw
        exact ⟨rfl, hearly, lt_nextWakeup_iff.mp hearly⟩
      | poll _ _ _ => cases hw

/-! ### Between two sleeps -/

/-- No poll has begun since the worker slept until `wakeup`: it still sleeps, it is about to stop,
or it has woken because `wakeup` has come. -/
structure Unpolled (e : SchedulerEngine) (wakeup : ℤ) (e' : SchedulerEngine) : Prop where
  begun : e'.begun = e.begun
  policy : e'.policy = e.policy
  launched : e'.worker ≠ .absent
  idle : e'.inProgress = none
  phase : e'.worker = .sleeping wakeup ∨ e'.stopping = true ∨
    (e'.worker = .iterating ∧ wakeup ≠ timePointMax ∧ wakeup ≤ e'.clock)

/-- A pass of a worker that has slept until `wakeup` begins a poll. -/
theorem Unpolled.pass {wakeup now startedAt : ℤ} (h : Unpolled e wakeup e')
    (hsleep : SleepingEarly e wakeup) (hstep : e'.step (.select now startedAt) = some e'') :
    e''.isPolling = true ∧ e.begun.length < e''.begun.length := by
  obtain ⟨hiterating, hrunning, hclock, hpass⟩ := select_pass hstep
  obtain ⟨hlimit, hcome⟩ : wakeup ≠ timePointMax ∧ wakeup ≤ e'.clock := by
    rcases h.phase with hw | hstop | ⟨-, hlimit, hcome⟩
    · rw [hiterating] at hw
      cases hw
    · rw [hrunning] at hstop
      cases hstop
    · exact ⟨hlimit, hcome⟩
  cases hpass with
  | sleep hearly =>
    -- the same tasks, so the same `next_wakeup`, which is not ahead any more
    rw [h.policy] at hearly
    have hwakeup := hsleep.earliest
    rcases hearly with hempty | hlt
    · rw [hempty] at hwakeup
      exact absurd hwakeup hlimit
    · omega
  | poll _ _ _ => exact ⟨rfl, by simp [beginPoll, h.begun]⟩

/-- One event: either a poll begins or none has begun yet. -/
theorem Unpolled.step {wakeup : ℤ} {l : SchedulerEvent} (h : Unpolled e wakeup e')
    (hsleep : SleepingEarly e wakeup) (hplaced : e'.Placed) (hstep : e'.step l = some e'') :
    e.begun.length < e''.begun.length ∨ Unpolled e wakeup e'' := by
  cases l with
  | select now startedAt => exact Or.inl (h.pass hsleep hstep).2
  | start launched =>
    right
    have hstarted : e'.started = true := by
      by_contra hno
      exact h.launched (hplaced.started (by simpa using hno))
    obtain rfl := Option.some.inj hstep
    have hsame : e'.start launched = e' := by
      unfold start
      rw [if_pos hstarted]
    rw [hsame]
    exact h
  | requestStop =>
    obtain rfl := Option.some.inj hstep
    exact Or.inr ⟨h.begun, h.policy, h.launched, h.idle, Or.inr (Or.inl rfl)⟩
  | join =>
    right
    simp only [SchedulerEngine.step] at hstep
    split_ifs at hstep
    all_goals
      obtain rfl := Option.some.inj hstep
      exact ⟨h.begun, h.policy, h.launched, h.idle, h.phase⟩
  | wake now =>
    right
    simp only [SchedulerEngine.step] at hstep
    split at hstep
    · rename_i wakeup' hw
      split_ifs at hstep with hg
      obtain rfl := Option.some.inj hstep
      refine ⟨h.begun, h.policy, by simp, rfl, ?_⟩
      rcases h.phase with hsleeping | hstop | ⟨hiterating, -, -⟩
      · obtain rfl : wakeup' = wakeup := SchedulerPc.sleeping.inj (hw.symm.trans hsleeping)
        rcases hg.2 with hstop | ⟨hlimit, hcome⟩
        · exact Or.inr (Or.inl hstop)
        · exact Or.inr (Or.inr ⟨rfl, hlimit, hcome⟩)
      · exact Or.inr (Or.inl hstop)
      · rw [hiterating] at hw
        cases hw
    · cases hstep
  | pollReturn failed finishedAt =>
    simp only [SchedulerEngine.step] at hstep
    split at hstep
    · rename_i hw
      have hidle := h.idle
      simp [inProgress, hw] at hidle
    · cases hstep
  | complete =>
    simp only [SchedulerEngine.step] at hstep
    split at hstep
    · rename_i hw
      have hidle := h.idle
      simp [inProgress, hw] at hidle
    · cases hstep
  | exit =>
    right
    simp only [SchedulerEngine.step] at hstep
    split_ifs at hstep with hg
    obtain rfl := Option.some.inj hstep
    exact ⟨h.begun, h.policy, by simp, rfl, Or.inr (Or.inl hg.2)⟩

/-- Polls that have begun stay in the log. -/
theorem begun_length_le {l : SchedulerEvent} (hplaced : e.Placed) (h : e.step l = some e') :
    e.begun.length ≤ e'.begun.length := by
  cases step_effect hplaced.started h with
  | frame _ hbegun => rw [hbegun]
  | poll _ _ _ _ _ _ _ _ _ heq => simp [heq, beginPoll]
  | pollReturn _ _ _ _ _ _ _ heq => simp [heq]
  | complete _ _ _ _ _ _ _ _ heq => simp [heq]

/-- **The worker sleeps again only after it has polled.** -/
theorem polled_between (h : (schedulerSystem policy).Reachable e) {wakeup : ℤ}
    (hw : e.worker = .sleeping wakeup) (hreach : (schedulerSystem policy).Reaches e e')
    {now startedAt : ℤ} (hstep : e'.step (.select now startedAt) = some e'') :
    e.begun.length < e''.begun.length := by
  have hsleep := sleeping_early h wakeup hw
  obtain ⟨hr', hpolled | hunpolled⟩ := hreach.relation
    (R := fun e₁ => e.begun.length < e₁.begun.length ∨ Unpolled e wakeup e₁) (by
      rintro e₁ l e₂ hr₁ (hpolled | hunpolled) hstep₁
      · exact Or.inl (hpolled.trans_le (begun_length_le (placed hr₁) hstep₁))
      · exact hunpolled.step hsleep (placed hr₁) hstep₁) h
    (Or.inr ⟨rfl, rfl, by simp [hw], by simp [inProgress, hw], Or.inl hw⟩)
  · exact hpolled.trans_le (begun_length_le (placed hr') hstep)
  · exact (hunpolled.pass hsleep hstep).2

/-- What selecting and sleeping have to do with each other in a state of a run. -/
structure SleepsWhenIdle (policy : FixedIntervalSequentialPolicy) (e : SchedulerEngine) :
    Prop where
  agrees : ∀ now, Agrees e.policy.tasks now
  pass : ∀ now startedAt e', e.step (.select now startedAt) = some e' → Pass e now startedAt e'
  asleep : ∀ wakeup, e.worker = .sleeping wakeup → SleepingEarly e wakeup
  polled : ∀ wakeup, e.worker = .sleeping wakeup →
    ∀ e', (schedulerSystem policy).Reaches e e' →
    ∀ now startedAt e'', e'.step (.select now startedAt) = some e'' →
      e.begun.length < e''.begun.length

/-- **Selection and sleeping agree**, in every reachable state and at every instant: the worker
sleeps only while nothing is due, until an instant that has not come, and polls before it sleeps
again. -/
theorem sleeps_when_idle (h : (schedulerSystem policy).Reachable e) : SleepsWhenIdle policy e where
  agrees := MiniGateway.agrees e.policy.tasks
  pass _ _ _ hstep := (select_pass hstep).2.2.2
  asleep := sleeping_early h
  polled _ hw _ hreach _ _ _ hstep := polled_between h hw hreach hstep

/-- Two tasks with the same deadline, of which the second comes first by its stable order. -/
def twoGroups : FixedIntervalSequentialPolicy where
  tasks := [{ groupId := lit "group-b", interval := 10, nextDue := 100000000, stableOrder := 20 },
    { groupId := lit "group-a", interval := 10, nextDue := 100000000, stableOrder := 10 }]
  accepted := rfl

/-- Launched 1 ns before the deadline, the worker sleeps for that nanosecond. -/
theorem sleeps_when_idle_twoGroups : ∃ e, (schedulerSystem twoGroups).Reachable e ∧
    e.worker = .sleeping 100000000 ∧ SleepingEarly e 100000000 ∧
    SleepsWhenIdle twoGroups e := by
  obtain ⟨e, hreach, htest⟩ := (schedulerSystem twoGroups).exists_reachable_of_run
    (s := { policy := twoGroups, clock := 0 })
    (w := [.start true, .select 99999999 99999999])
    (p := fun e => e.worker = .sleeping 100000000) ⟨0, rfl⟩ (by decide)
  have hw : e.worker = .sleeping 100000000 := of_decide_eq_true htest
  have hsleeps := sleeps_when_idle hreach
  exact ⟨e, hreach, hw, hsleeps.asleep _ hw, hsleeps⟩

/-- At the deadline the second group is selected. -/
example : (selectDue twoGroups.tasks 100000000).map Prod.fst = some 1 := by decide

end SchedulerEngine

end MiniGateway
