/-
  `SchedulerEngine` (`scheduler.cpp`): the worker thread of `run` and the calls of `start`,
  `request_stop` and `join` that other threads make.

  The worker releases `mutex_` only while it sleeps and while the poll callback runs, so an
  iteration of `run` is cut there: `select` covers the test of `stopping_`, both clock readings and
  the selection, `complete` everything after the mutex has been taken again.  The clock is
  monotone; each event that reads it carries the reading.
-/
import MiniGateway.TransitionSystem
import MiniGateway.Scheduler.Policy

namespace MiniGateway

/-- `SchedulerStats`. -/
structure SchedulerStats where
  executed : ℕ := 0
  errors : ℕ := 0
  latenessNs : ℕ := 0
  durationNs : ℕ := 0
  skippedCycles : ℕ := 0
  deriving DecidableEq

/-- The statistics after one execution, `skipped` being what the policy added to the task's own
count. -/
def SchedulerStats.record (s : SchedulerStats) (scheduledAt startedAt finishedAt : ℤ)
    (failed : Bool) (skipped : ℕ) : SchedulerStats where
  executed := s.executed + 1
  errors := if failed then s.errors + 1 else s.errors
  latenessNs := saturatingAdd s.latenessNs (nonnegativeNanoseconds (startedAt - scheduledAt))
  durationNs := saturatingAdd s.durationNs (nonnegativeNanoseconds (finishedAt - startedAt))
  skippedCycles := saturatingAdd s.skippedCycles skipped

/-- Where the worker is in `run`. -/
inductive SchedulerPc
  /-- Not launched. -/
  | absent
  /-- At the loop condition. -/
  | iterating
  /-- Waiting on `cv_`; `time_point::max()` stands for the wait without a time limit. -/
  | sleeping (wakeup : ℤ)
  /-- Inside `poll_(*task)`, the mutex released. -/
  | polling (task : ℕ) (scheduledAt startedAt : ℤ)
  /-- The callback has returned or thrown; about to lock the mutex again. -/
  | returned (task : ℕ) (scheduledAt startedAt : ℤ) (failed : Bool) (finishedAt : ℤ)
  | exited
  deriving DecidableEq

/-- The fields of `SchedulerEngine`, its worker, the clock and the tasks whose poll has begun and
whose completion has been recorded, oldest first. -/
structure SchedulerEngine where
  policy : FixedIntervalSequentialPolicy
  started : Bool := false
  stopping : Bool := false
  stats : SchedulerStats := {}
  joinable : Bool := false
  worker : SchedulerPc := .absent
  clock : ℤ
  begun : List ℕ := []
  completed : List ℕ := []

inductive SchedulerEvent
  /-- `start`; `launched = false` is the `std::jthread` that cannot be created. -/
  | start (launched : Bool)
  | requestStop
  /-- `join` returns. -/
  | join
  /-- One pass over the loop condition up to the poll or the wait. -/
  | select (now startedAt : ℤ)
  /-- The wait ends, by the predicate or by the time limit. -/
  | wake (now : ℤ)
  /-- The poll callback returns or throws. -/
  | pollReturn (failed : Bool) (finishedAt : ℤ)
  /-- The rest of the iteration. -/
  | complete
  /-- The loop condition is false. -/
  | exit

namespace SchedulerEngine

/-- `task->skipped_cycles` of the task at `i`. -/
def skippedAt (policy : FixedIntervalSequentialPolicy) (i : ℕ) : ℕ :=
  (policy.tasks[i]?.map ScheduleTask.skippedCycles).getD 0

/-- `start`. -/
def start (e : SchedulerEngine) (launched : Bool) : SchedulerEngine :=
  if e.started then e
  else if launched then
    { e with stopping := false, worker := .iterating, joinable := true, started := true }
  else { e with stopping := false }

/-- The engine after a poll of the task at `i` begins. -/
def beginPoll (e : SchedulerEngine) (i : ℕ) (task : ScheduleTask) (startedAt : ℤ) :
    SchedulerEngine :=
  { e with
    worker := .polling i task.nextDue startedAt
    clock := startedAt
    begun := e.begun ++ [i] }

/-- The engine after the execution of the task at `i` has been recorded; `policy` is the policy
after `on_complete`. -/
def recordPoll (e : SchedulerEngine) (policy : FixedIntervalSequentialPolicy) (i : ℕ)
    (scheduledAt startedAt finishedAt : ℤ) (failed : Bool) : SchedulerEngine :=
  { e with
    policy := policy
    stats := e.stats.record scheduledAt startedAt finishedAt failed
      (skippedAt policy i - skippedAt e.policy i)
    worker := .iterating
    completed := e.completed ++ [i] }

/-- One event. -/
def step (e : SchedulerEngine) : SchedulerEvent → Option SchedulerEngine
  | .start launched => some (e.start launched)
  | .requestStop => some { e with stopping := true }
  | .join =>
    if e.joinable then
      if e.worker = .exited then some { e with joinable := false } else none
    else some e
  | .select now startedAt =>
    if e.worker = .iterating ∧ e.stopping = false ∧ e.clock ≤ now then
      match selectDue e.policy.tasks now with
      | none => some { e with worker := .sleeping (nextWakeup e.policy.tasks), clock := now }
      | some (i, task) =>
        if now ≤ startedAt then some (e.beginPoll i task startedAt) else none
    else none
  | .wake now =>
    match e.worker with
    | .sleeping wakeup =>
      if e.clock ≤ now ∧ (e.stopping = true ∨ (wakeup ≠ timePointMax ∧ wakeup ≤ now)) then
        some { e with worker := .iterating, clock := now }
      else none
    | _ => none
  | .pollReturn failed finishedAt =>
    match e.worker with
    | .polling i scheduledAt startedAt =>
      if e.clock ≤ finishedAt then
        some { e with
          worker := .returned i scheduledAt startedAt failed finishedAt
          clock := finishedAt }
      else none
    | _ => none
  | .complete =>
    match e.worker with
    | .returned i scheduledAt startedAt failed finishedAt =>
      (e.policy.onComplete i finishedAt).map fun policy =>
        e.recordPoll policy i scheduledAt startedAt finishedAt failed
    | _ => none
  | .exit =>
    if e.worker = .iterating ∧ e.stopping = true then some { e with worker := .exited } else none

end SchedulerEngine

/-- The runs of an engine constructed with `policy`. -/
def schedulerSystem (policy : FixedIntervalSequentialPolicy) :
    TransitionSystem SchedulerEngine SchedulerEvent where
  Init e := ∃ clock, e = { policy := policy, clock := clock }
  step := SchedulerEngine.step

namespace SchedulerEngine

/-- The task whose poll has begun and whose completion is not yet recorded. -/
def inProgress (e : SchedulerEngine) : Option ℕ :=
  match e.worker with
  | .polling i _ _ => some i
  | .returned i _ _ _ _ => some i
  | _ => none

@[simp] theorem skippedAt_of_get {policy : FixedIntervalSequentialPolicy} {i : ℕ}
    {task : ScheduleTask} (h : policy.tasks[i]? = some task) :
    skippedAt policy i = task.skippedCycles := by
  simp [skippedAt, h]

@[simp] theorem inProgress_beginPoll (e : SchedulerEngine) (i : ℕ) (task : ScheduleTask)
    (startedAt : ℤ) : (e.beginPoll i task startedAt).inProgress = some i := rfl

section RecordPoll

variable (e : SchedulerEngine) (policy : FixedIntervalSequentialPolicy) (i : ℕ)
  (scheduledAt startedAt finishedAt : ℤ) (failed : Bool)

@[simp] theorem inProgress_recordPoll :
    (e.recordPoll policy i scheduledAt startedAt finishedAt failed).inProgress = none := rfl

@[simp] theorem recordPoll_policy :
    (e.recordPoll policy i scheduledAt startedAt finishedAt failed).policy = policy := rfl

@[simp] theorem recordPoll_completed :
    (e.recordPoll policy i scheduledAt startedAt finishedAt failed).completed =
      e.completed ++ [i] := rfl

@[simp] theorem recordPoll_begun :
    (e.recordPoll policy i scheduledAt startedAt finishedAt failed).begun = e.begun := rfl

end RecordPoll

/-! ### Events of the worker -/

/-- The worker is inside the poll callback. -/
def isPolling (e : SchedulerEngine) : Bool :=
  match e.worker with
  | .polling _ _ _ => true
  | _ => false

/-- The worker has been launched and has not left `run`. -/
def isRunning (e : SchedulerEngine) : Bool :=
  match e.worker with
  | .absent | .exited => false
  | _ => true

theorem isPolling_of_not_running {e : SchedulerEngine} (h : e.isRunning = false) :
    e.isPolling = false := by
  unfold isPolling
  split
  · rename_i hw
    simp [isRunning, hw] at h
  · rfl

end SchedulerEngine

/-- The event is a step of the worker. -/
def SchedulerEvent.isWorker : SchedulerEvent → Bool
  | start _ | requestStop | join => false
  | _ => true

namespace SchedulerEngine

/-- What the worker leaves alone. -/
structure WorkerFrame (e e' : SchedulerEngine) : Prop where
  running : e.isRunning = true
  there : e'.worker ≠ .absent
  started : e'.started = e.started
  stopping : e'.stopping = e.stopping
  joinable : e'.joinable = e.joinable

/-- The worker takes its steps between its launch and its end, and writes none of the flags. -/
theorem worker_frame {e e' : SchedulerEngine} {l : SchedulerEvent} (hl : l.isWorker = true)
    (h : e.step l = some e') : WorkerFrame e e' := by
  cases l with
  | start launched => cases hl
  | requestStop => cases hl
  | join => cases hl
  | select now startedAt =>
    simp only [step] at h
    by_cases hg : e.worker = .iterating ∧ e.stopping = false ∧ e.clock ≤ now
    · rw [if_pos hg] at h
      have hrunning : e.isRunning = true := by simp [isRunning, hg.1]
      split at h
      · obtain rfl := Option.some.inj h
        exact ⟨hrunning, by simp, rfl, rfl, rfl⟩
      · split_ifs at h with hlater
        obtain rfl := Option.some.inj h
        exact ⟨hrunning, by simp [beginPoll], rfl, rfl, rfl⟩
    · simp [if_neg hg] at h
  | wake now =>
    simp only [step] at h
    split at h
    · rename_i wakeup hw
      split_ifs at h with hg
      obtain rfl := Option.some.inj h
      exact ⟨by simp [isRunning, hw], by simp, rfl, rfl, rfl⟩
    · cases h
  | pollReturn failed finishedAt =>
    simp only [step] at h
    split at h
    · rename_i i scheduledAt startedAt hw
      split_ifs at h with hg
      obtain rfl := Option.some.inj h
      exact ⟨by simp [isRunning, hw], by simp, rfl, rfl, rfl⟩
    · cases h
  | complete =>
    simp only [step] at h
    split at h
    · rename_i i scheduledAt startedAt failed finishedAt hw
      obtain ⟨policy, hp, rfl⟩ := Option.map_eq_some_iff.mp h
      exact ⟨by simp [isRunning, hw], by simp [recordPoll], rfl, rfl, rfl⟩
    · cases h
  | exit =>
    simp only [step] at h
    split_ifs at h with hg
    obtain rfl := Option.some.inj h
    exact ⟨by simp [isRunning, hg.1], by simp, rfl, rfl, rfl⟩

/-- A poll begins with a selection and ends with its return. -/
theorem isPolling_other {e e' : SchedulerEngine} {l : SchedulerEvent}
    (hl : (∃ now, l = .wake now) ∨ l = .complete ∨ l = .exit) (h : e.step l = some e') :
    l.isWorker = true ∧ e.isPolling = false ∧ e'.isPolling = false := by
  rcases hl with ⟨now, rfl⟩ | rfl | rfl
  · simp only [step] at h
    split at h
    · rename_i wakeup hw
      split_ifs at h with hg
      obtain rfl := Option.some.inj h
      exact ⟨rfl, by simp [isPolling, hw], rfl⟩
    · cases h
  · simp only [step] at h
    split at h
    · rename_i i scheduledAt startedAt failed finishedAt hw
      obtain ⟨policy, hp, rfl⟩ := Option.map_eq_some_iff.mp h
      exact ⟨rfl, by simp [isPolling, hw], rfl⟩
    · cases h
  · simp only [step] at h
    split_ifs at h with hg
    obtain rfl := Option.some.inj h
    exact ⟨rfl, by simp [isPolling, hg.1], rfl⟩

/-! ### What one event does -/

/-- The events, by what they do to the policy and the logs. -/
inductive Effect (e e' : SchedulerEngine) : Prop
  /-- Everything outside a poll. -/
  | frame (policy : e'.policy = e.policy) (begun : e'.begun = e.begun)
      (completed : e'.completed = e.completed) (stats : e'.stats = e.stats)
      (clock : e.clock ≤ e'.clock) (started : e'.started = false → e'.worker = .absent)
      (worker : (e'.worker = e.worker ∧ e'.clock = e.clock) ∨
        (e.inProgress = none ∧ e'.inProgress = none))
  /-- The poll of the selected task begins. -/
  | poll (i : ℕ) (task : ScheduleTask) (now startedAt : ℤ) (idle : e.worker = .iterating)
      (running : e.stopping = false) (selected : selectDue e.policy.tasks now = some (i, task))
      (clock : e.clock ≤ now) (later : now ≤ startedAt) (eq : e' = e.beginPoll i task startedAt)
  /-- The poll ends. -/
  | pollReturn (i : ℕ) (scheduledAt startedAt : ℤ) (failed : Bool) (finishedAt : ℤ)
      (polling : e.worker = .polling i scheduledAt startedAt) (clock : e.clock ≤ finishedAt)
      (eq : e' = { e with
        worker := .returned i scheduledAt startedAt failed finishedAt, clock := finishedAt })
  /-- The execution is recorded. -/
  | complete (i : ℕ) (scheduledAt startedAt : ℤ) (failed : Bool) (finishedAt : ℤ)
      (policy : FixedIntervalSequentialPolicy)
      (returned : e.worker = .returned i scheduledAt startedAt failed finishedAt)
      (completed : e.policy.onComplete i finishedAt = some policy)
      (eq : e' = e.recordPoll policy i scheduledAt startedAt finishedAt failed)

/-- **Inversion of a step.**  A worker exists only after `start` has set `started_`. -/
theorem step_effect {e e' : SchedulerEngine} {l : SchedulerEvent}
    (hstarted : e.started = false → e.worker = .absent) (h : e.step l = some e') :
    Effect e e' := by
  cases l with
  | start launched =>
    obtain rfl := Option.some.inj h
    unfold start
    split_ifs with hs
    · exact .frame rfl rfl rfl rfl le_rfl hstarted (Or.inl ⟨rfl, rfl⟩)
    · have hw : e.worker = .absent := hstarted (by simpa using hs)
      exact .frame rfl rfl rfl rfl le_rfl (by simp) (Or.inr ⟨by simp [inProgress, hw], rfl⟩)
    · exact .frame rfl rfl rfl rfl le_rfl hstarted (Or.inl ⟨rfl, rfl⟩)
  | requestStop =>
    obtain rfl := Option.some.inj h
    exact .frame rfl rfl rfl rfl le_rfl hstarted (Or.inl ⟨rfl, rfl⟩)
  | join =>
    simp only [step] at h
    split_ifs at h <;> obtain rfl := Option.some.inj h <;>
      exact .frame rfl rfl rfl rfl le_rfl hstarted (Or.inl ⟨rfl, rfl⟩)
  | select now startedAt =>
    simp only [step] at h
    by_cases hg : e.worker = .iterating ∧ e.stopping = false ∧ e.clock ≤ now
    · rw [if_pos hg] at h
      obtain ⟨hidle, hrun, hclock⟩ := hg
      split at h
      · obtain rfl := Option.some.inj h
        exact .frame rfl rfl rfl rfl hclock (fun hs => by simp [hstarted hs] at hidle)
          (Or.inr ⟨by simp [inProgress, hidle], rfl⟩)
      · rename_i i task hsel
        split_ifs at h with hlater
        exact .poll i task now startedAt hidle hrun hsel hclock hlater (Option.some.inj h).symm
    · simp [if_neg hg] at h
  | wake now =>
    simp only [step] at h
    split at h
    · rename_i wakeup hw
      split_ifs at h with hg
      obtain rfl := Option.some.inj h
      exact .frame rfl rfl rfl rfl hg.1 (fun hs => by simp [hstarted hs] at hw)
        (Or.inr ⟨by simp [inProgress, hw], rfl⟩)
    · simp at h
  | pollReturn failed finishedAt =>
    simp only [step] at h
    split at h
    · rename_i i scheduledAt startedAt hw
      split_ifs at h with hg
      exact .pollReturn i scheduledAt startedAt failed finishedAt hw hg (Option.some.inj h).symm
    · simp at h
  | complete =>
    simp only [step] at h
    split at h
    · rename_i i scheduledAt startedAt failed finishedAt hw
      obtain ⟨policy, hp, rfl⟩ := Option.map_eq_some_iff.mp h
      exact .complete i scheduledAt startedAt failed finishedAt policy hw hp rfl
    · simp at h
  | exit =>
    simp only [step] at h
    split_ifs at h with hg
    obtain rfl := Option.some.inj h
    exact .frame rfl rfl rfl rfl le_rfl (fun hs => by simp [hstarted hs] at hg)
      (Or.inr ⟨by simp [inProgress, hg.1], rfl⟩)

/-! ### Where the worker can be -/

/-- The worker has been launched only if `started_` is set, and the task it polls is the one it
selected, due when the poll began. -/
structure Placed (e : SchedulerEngine) : Prop where
  started : e.started = false → e.worker = .absent
  polling : ∀ i scheduledAt startedAt, e.worker = .polling i scheduledAt startedAt →
    ∃ task, e.policy.tasks[i]? = some task ∧ task.nextDue = scheduledAt ∧
      scheduledAt ≤ startedAt ∧ startedAt ≤ e.clock
  returned : ∀ i scheduledAt startedAt failed finishedAt,
    e.worker = .returned i scheduledAt startedAt failed finishedAt →
    ∃ task, e.policy.tasks[i]? = some task ∧ task.nextDue = scheduledAt ∧
      scheduledAt ≤ startedAt ∧ startedAt ≤ finishedAt ∧ finishedAt = e.clock

/-- One event keeps the worker in its place. -/
theorem Placed.step {e e' : SchedulerEngine} {l : SchedulerEvent} (h : e.Placed)
    (hl : e.step l = some e') : e'.Placed := by
  cases step_effect h.started hl with
  | frame hpolicy _ _ _ _ hstarted hworker =>
    rcases hworker with ⟨hworker, hclock⟩ | ⟨-, hidle⟩
    · refine ⟨hstarted, ?_, ?_⟩
      · rw [hworker, hpolicy, hclock]
        exact h.polling
      · rw [hworker, hpolicy, hclock]
        exact h.returned
    · refine ⟨hstarted, fun i _ _ hw => ?_, fun i _ _ _ _ hw => ?_⟩ <;>
        simp [inProgress, hw] at hidle
  | poll i task now startedAt hidle _ hsel hclock hlater heq =>
    obtain ⟨hget, hdue, -⟩ := selectDue_some hsel
    subst heq
    refine ⟨fun hs => ?_, fun j sch st hw => ?_, fun j _ _ _ _ hw => ?_⟩
    · simp [h.started hs] at hidle
    · obtain ⟨rfl, rfl, rfl⟩ : i = j ∧ task.nextDue = sch ∧ startedAt = st := by
        simpa [beginPoll] using hw
      exact ⟨task, hget, rfl, hdue.trans hlater, le_rfl⟩
    · simp [beginPoll] at hw
  | pollReturn i scheduledAt startedAt failed finishedAt hw hclock heq =>
    obtain ⟨task, hget, hdue, hle, hst⟩ := h.polling i scheduledAt startedAt hw
    subst heq
    refine ⟨fun hs => ?_, fun j _ _ hw' => by simp at hw', fun j sch st f fin hw' => ?_⟩
    · simp [h.started hs] at hw
    · obtain ⟨rfl, rfl, rfl, rfl, rfl⟩ : i = j ∧ scheduledAt = sch ∧ startedAt = st ∧
          failed = f ∧ finishedAt = fin := by simpa using hw'
      exact ⟨task, hget, hdue, hle, hst.trans hclock, rfl⟩
  | complete _ _ _ _ _ _ hw _ heq =>
    subst heq
    refine ⟨fun hs => ?_, by simp [recordPoll], by simp [recordPoll]⟩
    simp [h.started hs] at hw

theorem placed {policy : FixedIntervalSequentialPolicy} {e : SchedulerEngine}
    (h : (schedulerSystem policy).Reachable e) : e.Placed := by
  refine h.invariant ?_ fun _ _ _ _ hi hl => hi.step hl
  rintro e ⟨clock, rfl⟩
  exact ⟨fun _ => rfl, by simp, by simp⟩

end SchedulerEngine

end MiniGateway
