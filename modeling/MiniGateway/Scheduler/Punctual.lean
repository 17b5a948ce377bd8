/-
  How late a poll can be, and when no cycle is skipped.

  The assumptions are about time alone (`SchedulerEvent.Timely`): a poll of the task at `i` takes at
  most `C i`, and the worker reads the clock at most `delay` after it could have done so, after a
  poll, after a wait and before a poll.  `Punctual` carries the response bound of serving the
  earliest due task (`EarliestDue.OnTime`) through the steps of the engine, a poll with the two
  readings around it being one service.  Between the deadline of a task and its poll then lies at
  most one poll of each other task, and a task whose interval exceeds that and its own poll is
  executed in every one of its cycles (`bounded_lateness`).
-/
import MiniGateway.EarliestDue.Response
import MiniGateway.Scheduler.Sleeping
import MiniGateway.Scheduler.Overtaking

namespace MiniGateway

open Finset EarliestDue

namespace SchedulerEngine

/-- When the wait is to end. -/
def wakeup? (e : SchedulerEngine) : Option ℤ :=
  match e.worker with
  | .sleeping wakeup => some wakeup
  | _ => none

/-- The task that is polled, or has just been, with the beginning of the poll. -/
def polled (e : SchedulerEngine) : Option (ℕ × ℤ) :=
  match e.worker with
  | .polling i _ startedAt | .returned i _ startedAt _ _ => some (i, startedAt)
  | _ => none

end SchedulerEngine

/-- The polls are no longer than `C`, and the clock is read within `delay`. -/
def SchedulerEvent.Timely (C : ℕ → ℤ) (delay : ℤ) (e : SchedulerEngine) : SchedulerEvent → Prop
  | .select now startedAt => now ≤ e.clock + delay ∧ startedAt ≤ now + delay
  | .wake now => e.stopping = true ∨ ∀ wakeup ∈ e.wakeup?, now ≤ wakeup + delay
  | .pollReturn _ finishedAt => ∀ poll ∈ e.polled, finishedAt ≤ poll.2 + C poll.1
  | .start _ | .requestStop | .join | .complete | .exit => True

instance (C : ℕ → ℤ) (delay : ℤ) (e : SchedulerEngine) (l : SchedulerEvent) :
    Decidable (l.Timely C delay e) :=
  match l with
  | .select _ _ => inferInstanceAs (Decidable (_ ∧ _))
  | .wake _ => inferInstanceAs (Decidable (_ ∨ _))
  | .pollReturn _ finishedAt =>
    inferInstanceAs (Decidable (∀ poll ∈ e.polled, finishedAt ≤ poll.2 + C poll.1))
  | .start _ | .requestStop | .join | .complete | .exit => inferInstanceAs (Decidable True)

/-- The runs whose polls and clock readings are timely. -/
def timelySystem (policy : FixedIntervalSequentialPolicy) (C : ℕ → ℤ) (delay : ℤ) :
    TransitionSystem SchedulerEngine SchedulerEvent :=
  (schedulerSystem policy).restrict fun e l => l.Timely C delay e

namespace SchedulerEngine

/-- A poll with the readings of the clock before it. -/
def serviceTime (C : ℕ → ℤ) (delay : ℤ) (i : ℕ) : ℤ := C i + 2 * delay

/-- The tasks of the engine. -/
def members (e : SchedulerEngine) : Finset ℕ := range e.policy.tasks.length

/-- The response bound at an instant. -/
def OnTimeAt (C : ℕ → ℤ) (delay : ℤ) (e : SchedulerEngine) (time : ℤ) : Prop :=
  OnTime e.members (serviceTime C delay) (dueAt e.policy) delay time

/-- The invariant of timely runs. -/
structure Punctual (C : ℕ → ℤ) (delay : ℤ) (e : SchedulerEngine) : Prop where
  waiting : e.started = false → ∀ i ∈ e.members, e.clock ≤ dueAt e.policy i
  iterating : e.worker = .iterating → e.stopping = false → OnTimeAt C delay e e.clock
  sleeping : ∀ wakeup, e.worker = .sleeping wakeup → ∀ i ∈ e.members, wakeup ≤ dueAt e.policy i
  /-- When the poll began, its task was the earliest due. -/
  busy : ∀ i startedAt, e.polled = some (i, startedAt) →
    OnTimeAt C delay e (startedAt - 2 * delay) ∧ ∀ j ∈ e.members, dueAt e.policy i ≤ dueAt e.policy j
  finished : ∀ i scheduledAt startedAt failed finishedAt,
    e.worker = .returned i scheduledAt startedAt failed finishedAt → finishedAt ≤ startedAt + C i

section Step

variable {C : ℕ → ℤ} {delay : ℤ} {e e' : SchedulerEngine}

theorem serviceTime_nonneg (hC : ∀ i, 0 ≤ C i) (hdelay : 0 ≤ delay) (i : ℕ) :
    0 ≤ serviceTime C delay i := by
  have := hC i
  unfold serviceTime
  omega

theorem dueAt_mem {i : ℕ} (h : i ∈ e.members) :
    ∃ task ∈ e.policy.tasks, e.policy.tasks[i]? = some task ∧ dueAt e.policy i = task.nextDue := by
  have hget := List.getElem?_eq_getElem (mem_range.mp h)
  exact ⟨_, List.mem_of_getElem? hget, hget, dueAt_of_get hget⟩

theorem Placed.started_of_worker (h : e.Placed) (hworker : e.worker ≠ .absent) :
    e.started = true := by
  by_contra hstarted
  exact hworker (h.started (by simpa using hstarted))

/-- The execution of the task at `i` moves its deadline alone, past the end of the poll. -/
theorem onComplete_dueAt (hplaced : e.Placed) {i : ℕ} {scheduledAt startedAt finishedAt : ℤ}
    {failed : Bool} {policy : FixedIntervalSequentialPolicy}
    (hw : e.worker = .returned i scheduledAt startedAt failed finishedAt)
    (hp : e.policy.onComplete i finishedAt = some policy) :
    ∃ next, dueAt policy = Function.update (dueAt e.policy) i next ∧ finishedAt < next := by
  obtain ⟨next, hnext⟩ : ∃ next,
      (EarliestDue.system e.members).step e.board (.finish next finishedAt) =
        some (e.recordPoll policy i scheduledAt startedAt finishedAt failed).board :=
    board_recordPoll hplaced hw hp
  have hserving : e.board.serving = some i := by simp [board, inProgress, hw]
  simp only [EarliestDue.system, Board.step, hserving] at hnext
  split_ifs at hnext with hg
  exact ⟨next, (congrArg Board.due (Option.some.inj hnext)).symm, hg.2⟩

/-- What holds before a poll holds of a worker that is elsewhere. -/
theorem Punctual.step {l : SchedulerEvent} (h : Punctual C delay e) (hplaced : e.Placed)
    (hC : ∀ i, 0 ≤ C i) (hdelay : 0 ≤ delay) (htimely : l.Timely C delay e)
    (hl : e.step l = some e') : Punctual C delay e' := by
  have hcost := serviceTime_nonneg hC hdelay
  cases l with
  | start launched =>
    obtain rfl := Option.some.inj hl
    unfold start
    split_ifs with hstarted hlaunched
    · exact h
    · have hwaiting := h.waiting (by simpa using hstarted)
      refine ⟨by simp, fun _ _ => ?_, by simp, by simp [polled], by simp⟩
      exact OnTime.of_early hcost fun i hi => (hwaiting i hi).trans (le_add_of_nonneg_right hdelay)
    · have hidle := hplaced.started (by simpa using hstarted)
      exact ⟨h.waiting, by simp [hidle], by simp [hidle], by simp [polled, hidle], by simp [hidle]⟩
  | requestStop =>
    obtain rfl := Option.some.inj hl
    exact ⟨h.waiting, by simp, h.sleeping, h.busy, h.finished⟩
  | join =>
    simp only [SchedulerEngine.step] at hl
    split_ifs at hl <;> obtain rfl := Option.some.inj hl
    · exact ⟨h.waiting, h.iterating, h.sleeping, h.busy, h.finished⟩
    · exact h
  | select now startedAt =>
    simp only [SchedulerEngine.step] at hl
    by_cases hg : e.worker = .iterating ∧ e.stopping = false ∧ e.clock ≤ now
    · rw [if_pos hg] at hl
      obtain ⟨hiter, hrunning, -⟩ := hg
      have hstarted := hplaced.started_of_worker (by simp [hiter])
      split at hl
      · rename_i hnone
        obtain rfl := Option.some.inj hl
        refine ⟨by simp [hstarted], by simp, ?_, by simp [polled], by simp⟩
        intro wakeup hw i hi
        obtain rfl : nextWakeup e.policy.tasks = wakeup := by simpa using hw
        obtain ⟨task, htask, -, hdue⟩ := dueAt_mem hi
        exact (nextWakeup_le htask).trans hdue.ge
      · rename_i i task hsel
        split_ifs at hl with hlater
        obtain rfl := Option.some.inj hl
        obtain ⟨hget, -, hfirst⟩ := selectDue_some hsel
        refine ⟨by simp [beginPoll, hstarted], by simp [beginPoll], by simp [beginPoll], ?_,
          by simp [beginPoll]⟩
        intro j st hpolled
        obtain ⟨rfl, rfl⟩ : i = j ∧ startedAt = st := by simpa [polled, beginPoll] using hpolled
        refine ⟨(h.iterating hiter hrunning).mono ?_, fun j hj => ?_⟩
        · have := htimely.1
          have := htimely.2
          omega
        · obtain ⟨other, hother, -, hdue⟩ := dueAt_mem hj
          rw [hdue]
          exact (dueAt_of_get hget).trans_le (hfirst other hother)
    · simp [if_neg hg] at hl
  | wake now =>
    simp only [SchedulerEngine.step] at hl
    split at hl
    · rename_i wakeup hw
      split_ifs at hl with hg
      obtain rfl := Option.some.inj hl
      have hstarted := hplaced.started_of_worker (by simp [hw])
      refine ⟨by simp [hstarted], fun _ hrunning => ?_, by simp, by simp [polled], by simp⟩
      have hwake : now ≤ wakeup + delay := by
        rcases htimely with hstopping | hwake
        · rw [show e.stopping = false from hrunning] at hstopping
          cases hstopping
        · exact hwake wakeup (by simp [wakeup?, hw])
      refine OnTime.of_early hcost fun i hi => hwake.trans ?_
      exact add_le_add_left (h.sleeping wakeup hw i hi) delay
    · cases hl
  | pollReturn failed finishedAt =>
    simp only [SchedulerEngine.step] at hl
    split at hl
    · rename_i i scheduledAt startedAt hw
      split_ifs at hl with hg
      obtain rfl := Option.some.inj hl
      have hpolled : e.polled = some (i, startedAt) := by simp [polled, hw]
      have hstarted := hplaced.started_of_worker (by simp [hw])
      refine ⟨by simp [hstarted], by simp, by simp, ?_, ?_⟩
      · intro j st hpolled'
        obtain ⟨rfl, rfl⟩ : i = j ∧ startedAt = st := by simpa [polled] using hpolled'
        exact h.busy i startedAt hpolled
      · intro j sch st f fin hw'
        obtain ⟨rfl, -, rfl, -, rfl⟩ : i = j ∧ scheduledAt = sch ∧ startedAt = st ∧ failed = f ∧
            finishedAt = fin := by simpa using hw'
        exact htimely (i, startedAt) hpolled
    · cases hl
  | complete =>
    simp only [SchedulerEngine.step] at hl
    split at hl
    · rename_i i scheduledAt startedAt failed finishedAt hw
      obtain ⟨policy, hp, rfl⟩ := Option.map_eq_some_iff.mp hl
      have hstarted := hplaced.started_of_worker (by simp [hw])
      obtain ⟨task, task', hget, -, htasks⟩ := e.policy.onComplete_eq_some hp
      obtain ⟨-, -, -, -, -, hclock⟩ := hplaced.returned i scheduledAt startedAt failed finishedAt hw
      obtain ⟨next, hdue, hnext⟩ := onComplete_dueAt hplaced hw hp
      obtain ⟨hontime, hfirst⟩ := h.busy i startedAt (by simp [polled, hw])
      have hfinished := h.finished i scheduledAt startedAt failed finishedAt hw
      have hmembers : (e.recordPoll policy i scheduledAt startedAt finishedAt failed).members =
          e.members := by
        simp [members, htasks]
      have hi : i ∈ e.members := mem_range.mpr (List.getElem?_eq_some_iff.mp hget).1
      refine ⟨by simp [recordPoll, hstarted], fun _ _ => ?_, by simp [recordPoll],
        by simp [polled, recordPoll], by simp [recordPoll]⟩
      show OnTime _ _ (dueAt policy) delay e.clock
      rw [hmembers, hdue, ← hclock]
      refine hontime.serve hcost hdelay hi hfirst ?_ hnext
      simp only [serviceTime]
      omega
    · cases hl
  | exit =>
    simp only [SchedulerEngine.step] at hl
    split_ifs at hl with hg
    obtain rfl := Option.some.inj hl
    have hstarted := hplaced.started_of_worker (by simp [hg.1])
    exact ⟨by simp [hstarted], by simp, by simp, by simp [polled], by simp⟩

end Step

/-! ### What the bound says -/

/-- How long after its deadline a poll may begin. -/
def latenessBound (policy : FixedIntervalSequentialPolicy) (C : ℕ → ℤ) (delay : ℤ) (i : ℕ) : ℤ :=
  others (range policy.tasks.length) (serviceTime C delay) i + 3 * delay

/-- An execution that ends before the next deadline skips no cycle. -/
theorem onComplete_of_early {task : ScheduleTask} {finishedAt : ℤ}
    (h : finishedAt < task.nextDue + task.period) :
    MiniGateway.onComplete task finishedAt = some task.advance := by
  have hlate : ¬ task.advance.nextDue ≤ finishedAt := not_le.mpr h
  simp [MiniGateway.onComplete, catchUp, hlate]

section Bound

variable {policy : FixedIntervalSequentialPolicy} {C : ℕ → ℤ} {delay clock : ℤ}
  {e e' : SchedulerEngine}

/-- The end of an execution, against the deadline of its task. -/
theorem Punctual.finish (h : Punctual C delay e) (hplaced : e.Placed) (hC : ∀ i, 0 ≤ C i)
    (hdelay : 0 ≤ delay) (hlength : e.policy.tasks.length = policy.tasks.length) {i : ℕ}
    {scheduledAt startedAt finishedAt : ℤ} {failed : Bool}
    (hw : e.worker = .returned i scheduledAt startedAt failed finishedAt) :
    startedAt ≤ scheduledAt + latenessBound policy C delay i ∧
      finishedAt ≤ scheduledAt + latenessBound policy C delay i + C i := by
  obtain ⟨task, hget, hdue, -⟩ := hplaced.returned i scheduledAt startedAt failed finishedAt hw
  obtain ⟨hontime, -⟩ := h.busy i startedAt (by simp [polled, hw])
  have hi : i ∈ e.members := mem_range.mpr (List.getElem?_eq_some_iff.mp hget).1
  have hstart := hontime.start (serviceTime_nonneg hC hdelay) hi
  rw [dueAt_of_get hget, hdue, members, hlength] at hstart
  have hfinished := h.finished i scheduledAt startedAt failed finishedAt hw
  unfold latenessBound
  constructor <;> omega

/-- What timely runs add to the books of the scheduler. -/
structure TimelyBooks (policy : FixedIntervalSequentialPolicy) (C : ℕ → ℤ) (delay : ℤ)
    (e : SchedulerEngine) : Prop where
  everyCycle : ∀ (i : ℕ) (t₀ t : ScheduleTask), policy.tasks[i]? = some t₀ →
    e.policy.tasks[i]? = some t → latenessBound policy C delay i + C i < t₀.period →
      t.skippedCycles = t₀.skippedCycles ∧ t.period = t₀.period ∧
        t.nextDue = t₀.nextDue + t₀.period * e.completed.count i
  lateness : (e.stats.latenessNs : ℤ) ≤
    ∑ i ∈ range policy.tasks.length, e.completed.count i * latenessBound policy C delay i
  duration : (e.stats.durationNs : ℤ) ≤
    ∑ i ∈ range policy.tasks.length, e.completed.count i * C i

/-- One execution more. -/
theorem sum_count_append {n i : ℕ} (hi : i < n) (completed : List ℕ) (b : ℕ → ℤ) :
    ∑ j ∈ range n, ((completed ++ [i]).count j : ℤ) * b j =
      ∑ j ∈ range n, (completed.count j : ℤ) * b j + b i := by
  have hterm : ∀ j, ((completed ++ [i]).count j : ℤ) * b j =
      completed.count j * b j + if j = i then b j else 0 := by
    intro j
    by_cases hj : j = i
    · subst hj
      simp [add_mul]
    · simp [hj, Ne.symm hj]
  simp only [hterm, sum_add_distrib, sum_ite_eq', mem_range, hi, if_true]

theorem saturatingAdd_le (target value : ℕ) : saturatingAdd target value ≤ target + value := by
  unfold saturatingAdd
  split_ifs <;> omega

/-- What an execution adds to a sum of times. -/
theorem saturatingAdd_nanoseconds_le {target : ℕ} {duration sum bound : ℤ}
    (htarget : (target : ℤ) ≤ sum) (hnonneg : 0 ≤ duration) (hduration : duration ≤ bound) :
    (saturatingAdd target (nonnegativeNanoseconds duration) : ℤ) ≤ sum + bound := by
  have hle := saturatingAdd_le target (nonnegativeNanoseconds duration)
  have hvalue : (nonnegativeNanoseconds duration : ℤ) = duration := by
    unfold nonnegativeNanoseconds
    omega
  omega

theorem TimelyBooks.complete (h : TimelyBooks policy C delay e) (hledger : Ledger policy e)
    (hpunctual : Punctual C delay e) (hplaced : e.Placed) (hC : ∀ i, 0 ≤ C i)
    (hdelay : 0 ≤ delay) {i : ℕ} {scheduledAt startedAt finishedAt : ℤ} {failed : Bool}
    {policy' : FixedIntervalSequentialPolicy}
    (hw : e.worker = .returned i scheduledAt startedAt failed finishedAt)
    (hp : e.policy.onComplete i finishedAt = some policy') :
    TimelyBooks policy C delay
      (e.recordPoll policy' i scheduledAt startedAt finishedAt failed) := by
  obtain ⟨task, task', hget, hrun, htasks⟩ := e.policy.onComplete_eq_some hp
  obtain ⟨task₁, hget₁, hdue, hstart, hlast, -⟩ :=
    hplaced.returned i scheduledAt startedAt failed finishedAt hw
  obtain rfl : task = task₁ := Option.some.inj (hget.symm.trans hget₁)
  obtain ⟨hi, -⟩ := List.getElem?_eq_some_iff.mp hget
  have hi₀ : i < policy.tasks.length := hledger.length ▸ hi
  obtain ⟨hlate, hend⟩ := hpunctual.finish hplaced hC hdelay hledger.length hw
  have hfinished := hpunctual.finished i scheduledAt startedAt failed finishedAt hw
  refine ⟨?_, ?_, ?_⟩
  · intro j t₀ t ht₀ ht hbound
    rw [recordPoll_policy, htasks] at ht
    by_cases hj : j = i
    · subst hj
      obtain ⟨hskipped, hperiod, hnext⟩ := h.everyCycle j t₀ task ht₀ hget hbound
      rw [List.getElem?_set_self hi] at ht
      obtain rfl := Option.some.inj ht
      rw [onComplete_of_early (by omega)] at hrun
      obtain rfl := Option.some.inj hrun
      refine ⟨hskipped, hperiod, ?_⟩
      show task.nextDue + task.period = _
      rw [hnext, hperiod, recordPoll_completed, List.count_append]
      simp [mul_add, add_assoc]
    · rw [List.getElem?_set_ne (Ne.symm hj)] at ht
      rw [recordPoll_completed, List.count_append]
      simpa [Ne.symm hj] using h.everyCycle j t₀ t ht₀ ht hbound
  · rw [recordPoll_completed, sum_count_append hi₀]
    exact saturatingAdd_nanoseconds_le h.lateness (by omega) (by omega)
  · rw [recordPoll_completed, sum_count_append hi₀]
    exact saturatingAdd_nanoseconds_le h.duration (by omega) (by omega)

/-- One step of a timely run. -/
theorem TimelyBooks.step {l : SchedulerEvent} (h : TimelyBooks policy C delay e)
    (hledger : Ledger policy e) (hpunctual : Punctual C delay e) (hplaced : e.Placed)
    (hC : ∀ i, 0 ≤ C i) (hdelay : 0 ≤ delay) (hl : e.step l = some e') :
    TimelyBooks policy C delay e' := by
  have hsame : e'.policy = e.policy → e'.completed = e.completed → e'.stats = e.stats →
      TimelyBooks policy C delay e' := by
    intro hpolicy hcompleted hstats
    refine ⟨?_, ?_, ?_⟩
    · rw [hpolicy, hcompleted]
      exact h.everyCycle
    · rw [hstats, hcompleted]
      exact h.lateness
    · rw [hstats, hcompleted]
      exact h.duration
  cases step_effect hplaced.started hl with
  | frame hpolicy _ hcompleted hstats => exact hsame hpolicy hcompleted hstats
  | poll _ _ _ _ _ _ _ _ _ heq => exact heq ▸ hsame (heq ▸ rfl) (heq ▸ rfl) (heq ▸ rfl)
  | pollReturn _ _ _ _ _ _ _ heq => exact heq ▸ hsame (heq ▸ rfl) (heq ▸ rfl) (heq ▸ rfl)
  | complete i scheduledAt startedAt failed finishedAt policy' hw hp heq =>
    subst heq
    exact h.complete hledger hpunctual hplaced hC hdelay hw hp

/-- The state of a timely run. -/
theorem timely_invariant (hC : ∀ i, 0 ≤ C i) (hdelay : 0 ≤ delay)
    (hclock : ∀ task ∈ policy.tasks, clock ≤ task.nextDue)
    (h : (timelySystem policy C delay).Reaches { policy := policy, clock := clock } e) :
    (schedulerSystem policy).Reachable e ∧ Punctual C delay e ∧ TimelyBooks policy C delay e := by
  refine h.invariant (I := fun e => (schedulerSystem policy).Reachable e ∧ Punctual C delay e ∧
    TimelyBooks policy C delay e) ?_ ⟨.init ⟨clock, rfl⟩, ?_, ?_⟩
  · rintro s l s' ⟨hreach, hpunctual, hbooks⟩ hstep
    obtain ⟨htimely, hstep⟩ := TransitionSystem.restrict_step.mp hstep
    exact ⟨hreach.step hstep, hpunctual.step (placed hreach) hC hdelay htimely hstep,
      hbooks.step (ledger hreach) hpunctual (placed hreach) hC hdelay hstep⟩
  · refine ⟨fun _ i hi => ?_, by simp, by simp, by simp [polled], by simp⟩
    obtain ⟨task, htask, -, hdue⟩ := dueAt_mem hi
    exact (hclock task htask).trans hdue.ge
  · refine ⟨fun i t₀ t ht₀ ht _ => ?_, by simp, by simp⟩
    obtain rfl : t₀ = t := Option.some.inj (ht₀.symm.trans ht)
    simp

/-- **Bounded lateness.**  In a timely run that starts no later than the first deadlines, a poll
begins at most one poll of every other task after its deadline; a task whose interval leaves room
for that and its own poll is executed in each of its cycles; and the summed times of the statistics
stay within the bounds of the executions. -/
theorem bounded_lateness (hC : ∀ i, 0 ≤ C i) (hdelay : 0 ≤ delay)
    (hclock : ∀ task ∈ policy.tasks, clock ≤ task.nextDue)
    (h : (timelySystem policy C delay).Reaches { policy := policy, clock := clock } e) :
    (∀ i scheduledAt startedAt, e.worker = .polling i scheduledAt startedAt →
      startedAt ≤ scheduledAt + latenessBound policy C delay i) ∧
    TimelyBooks policy C delay e := by
  obtain ⟨hreach, hpunctual, hbooks⟩ := timely_invariant hC hdelay hclock h
  refine ⟨fun i scheduledAt startedAt hw => ?_, hbooks⟩
  obtain ⟨task, hget, hdue, -⟩ := (placed hreach).polling i scheduledAt startedAt hw
  obtain ⟨hontime, -⟩ := hpunctual.busy i startedAt (by simp [polled, hw])
  have hi : i ∈ e.members := mem_range.mpr (List.getElem?_eq_some_iff.mp hget).1
  have hstart := hontime.start (serviceTime_nonneg hC hdelay) hi
  rw [dueAt_of_get hget, hdue, members, (ledger hreach).length] at hstart
  unfold latenessBound
  omega

end Bound

/-- Polls of 0.3 ms with readings within 0.01 ms: the slow task is polled 0.34 ms late. -/
theorem bounded_lateness_slow : ∃ e, e.worker = .polling 1 0 340000 ∧ e.completed = [0] ∧
    (340000 : ℤ) ≤ 0 + latenessBound fastAndSlow (fun _ => 300000) 10000 1 ∧
    TimelyBooks fastAndSlow (fun _ => 300000) 10000 e := by
  obtain ⟨e, hreach, htest⟩ := (timelySystem fastAndSlow (fun _ => 300000) 10000).exists_reaches_of_run
    (s := { policy := fastAndSlow, clock := 0 })
    (w := [.start true, .select 10000 20000, .pollReturn false 320000, .complete,
      .select 330000 340000])
    (p := fun e => e.worker = .polling 1 0 340000 ∧ e.completed = [0]) (by decide)
  obtain ⟨hworker, hcompleted⟩ := of_decide_eq_true htest
  obtain ⟨hlate, hbooks⟩ := bounded_lateness (fun _ => by decide) (by decide) (by decide) hreach
  exact ⟨e, hworker, hcompleted, hlate 1 0 340000 hworker, hbooks⟩

end SchedulerEngine

end MiniGateway
