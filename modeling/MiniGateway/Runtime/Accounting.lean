/-
  What becomes of the polls.

  `poll_group` counts at each of its exits and the engine counts what comes back to it, so the two
  sets of counters differ by the poll that is on its way from one to the other (`PollLedger`).  No
  poll is on its way once the scheduler has been joined, and then they agree (`polls_accounted`).
  The queue is closed only after that join, so no polled batch meets a closed queue.
-/
import MiniGateway.Runtime.Shutdown

namespace MiniGateway

/-! ### The engine's count of what has come back -/

namespace SchedulerEngine

variable {e e' : SchedulerEngine} {l : SchedulerEvent}

/-- Polls that have come back to the engine, recorded or not. -/
def executions (e : SchedulerEngine) : ℕ :=
  e.stats.executed + match e.worker with
    | .returned _ _ _ _ _ => 1
    | _ => 0

/-- Those of them that threw. -/
def failures (e : SchedulerEngine) : ℕ :=
  e.stats.errors + match e.worker with
    | .returned _ _ _ failed _ => if failed then 1 else 0
    | _ => 0

/-- The end of a poll. -/
theorem counts_pollReturn {failed : Bool} {finishedAt : ℤ}
    (h : e.step (.pollReturn failed finishedAt) = some e') :
    e'.executions = e.executions + 1 ∧
      e'.failures = e.failures + if failed then 1 else 0 := by
  simp only [step] at h
  split at h
  · rename_i i scheduledAt startedAt hw
    split_ifs at h with hclock
    obtain rfl := Option.some.inj h
    simp [executions, failures, hw]
  · cases h

/-- Any other step of the worker, and the calls that end it.  Recording a poll moves it from the
worker to the statistics. -/
theorem counts_other (hstart : ∀ launched, l ≠ .start launched)
    (hreturn : ∀ failed finishedAt, l ≠ .pollReturn failed finishedAt) (h : e.step l = some e') :
    e'.executions = e.executions ∧ e'.failures = e.failures := by
  cases l with
  | start launched => exact absurd rfl (hstart launched)
  | pollReturn failed finishedAt => exact absurd rfl (hreturn failed finishedAt)
  | requestStop =>
    obtain rfl := Option.some.inj h
    exact ⟨rfl, rfl⟩
  | join =>
    simp only [step] at h
    split_ifs at h
    · obtain rfl := Option.some.inj h
      exact ⟨rfl, rfl⟩
    · obtain rfl := Option.some.inj h
      exact ⟨rfl, rfl⟩
  | select now startedAt =>
    simp only [step] at h
    by_cases hg : e.worker = .iterating ∧ e.stopping = false ∧ e.clock ≤ now
    · rw [if_pos hg] at h
      split at h
      · obtain rfl := Option.some.inj h
        simp [executions, failures, hg.1]
      · split_ifs at h with hlater
        obtain rfl := Option.some.inj h
        simp [executions, failures, beginPoll, hg.1]
    · simp [if_neg hg] at h
  | wake now =>
    simp only [step] at h
    split at h
    · rename_i wakeup hw
      split_ifs at h with hg
      obtain rfl := Option.some.inj h
      simp [executions, failures, hw]
    · cases h
  | complete =>
    simp only [step] at h
    split at h
    · rename_i i scheduledAt startedAt failed finishedAt hw
      obtain ⟨policy, -, rfl⟩ := Option.map_eq_some_iff.mp h
      constructor
      · simp [executions, recordPoll, SchedulerStats.record, hw]
      · simp only [failures, recordPoll, SchedulerStats.record, hw]
        split_ifs <;> rfl
    · cases h
  | exit =>
    simp only [step] at h
    split_ifs at h with hg
    obtain rfl := Option.some.inj h
    simp [executions, failures, hg.1]

/-- Without a worker, what has come back has been recorded. -/
theorem recorded_of_not_running (h : e.isRunning = false) :
    e.executions = e.stats.executed ∧ e.failures = e.stats.errors := by
  unfold isRunning at h
  split at h
  · rename_i hw
    simp [executions, failures, hw]
  · rename_i hw
    simp [executions, failures, hw]
  · cases h

end SchedulerEngine

namespace DataPath

variable {processors publishers : ℕ} {d d' : DataPath}

/-- The launch of the worker leaves the queue alone. -/
theorem launch_rawQueue (h : d.step processors publishers .launch = some d') :
    d'.rawQueue = d.rawQueue := by
  simp only [step] at h
  split_ifs at h
  obtain rfl := Option.some.inj h
  rfl

/-- So does its join. -/
theorem join_rawQueue (h : d.step processors publishers .join = some d') :
    d'.rawQueue = d.rawQueue := by
  simp only [step] at h
  split_ifs at h
  · obtain rfl := Option.some.inj h
    rfl
  · obtain rfl := Option.some.inj h
    rfl

end DataPath

namespace PollPc

/-- The batch that a poll has returned and not pushed yet. -/
def inHand : PollPc → ℕ
  | pushing _ _ => 1
  | _ => 0

/-- The poll that has ended and not come back to the engine yet. -/
def ended : PollPc → ℕ
  | done _ => 1
  | _ => 0

/-- The same, if it threw. -/
def threw : PollPc → ℕ
  | done failed => if failed then 1 else 0
  | _ => 0

end PollPc

namespace Runtime

variable {parts : RuntimeParts} {s s' : Runtime}

/-! ### The queue while something is polled -/

/-- The queue of the data path is closed by the shutdown sequence only. -/
theorem closeRawQueue_of_closed (h : (runtimeSystem parts).Reachable s)
    (hclosed : s.data.rawQueue.closed = true) : .closeRawQueue ∈ s.calls.begun := by
  revert hclosed
  refine h.invariant (I := fun s => s.data.rawQueue.closed = true →
    .closeRawQueue ∈ s.calls.begun) ?_ ?_
  · rintro s rfl hclosed
    cases hclosed
  · intro s e s' hr hi hstep
    have hl := lifecycle_invariant hr
    cases step_effect hstep with
    | quiet hq hb hf =>
      show _ → _ ∈ (Lifecycle.calls _).begun
      rw [hl.calls_quiet hq hb hf]
      exact hi
    | begin hb hnext _ =>
      show _ → _ ∈ (Lifecycle.calls _).begun
      rw [(hl.calls_begin hb hnext).eq]
      exact fun hclosed => (Calls.mem_begin_begun ..).mpr (.inl (hi hclosed))
    | finish hf hin _ =>
      show _ → _ ∈ (Lifecycle.calls _).begun
      rw [(hl.calls_finish hf hin).eq]
      exact hi
    | launchScheduler hf hin =>
      show _ → _ ∈ (Lifecycle.calls _).begun
      rw [(hl.calls_finish hf hin).eq]
      exact hi
    | finishScheduler hf hin _ _ _ =>
      show _ → _ ∈ (Lifecycle.calls _).begun
      rw [(hl.calls_finish hf hin).eq]
      exact hi
    | finishData hf hin hon hdata =>
      obtain ⟨hcurrent, -, heq⟩ := hl.calls_finish hf hin
      show _ → _ ∈ (Lifecycle.calls _).begun
      rw [heq]
      cases hon with
      | closeRawQueue => exact fun _ => hl.current_begun hcurrent
      | launchProcessing _ =>
        rw [DataPath.launch_rawQueue hdata]
        exact hi
      | joinProcessing =>
        rw [DataPath.join_rawQueue hdata]
        exact hi
    | control h =>
      obtain ⟨hlife, -, -, hdata, -⟩ := h.frame
      unfold calls
      rw [hlife, hdata]
      exact hi
    | schedule h => cases h <;> exact hi
    | poll h =>
      cases h with
      | push _ =>
        intro hclosed
        exact hi (by simpa [DataPath.push] using hclosed)
      | _ => exact hi
    | push =>
      intro hclosed
      exact hi (by simpa [DataPath.push] using hclosed)
    | process hdata =>
      obtain ⟨-, -, -, hsame, -⟩ := worker_frame hdata
      rw [hsame]
      exact hi
    | _ => exact hi

/-- **The queue is open while a batch is polled.** -/
theorem rawQueue_open (h : (runtimeSystem parts).Reachable s) (hpoll : s.poll ≠ .idle) :
    s.data.rawQueue.closed = false := by
  by_contra hno
  have hl := lifecycle_invariant h
  have hbegun := (hl.mem_stopBegun rfl).mp (closeRawQueue_of_closed h (by simpa using hno))
  obtain ⟨sources, dispatcher, drivers, publishers, hexecution, -⟩ := hl.shutdown_execution hbegun
  -- the close comes after the join of the scheduler
  have hjoin := joinScheduler_returned hexecution hbegun
  exact hpoll (poll_idle_of_joined h (List.mem_append_right _ hjoin))

/-! ### Counting the polls of a run -/

/-- A poll is abandoned, its gate not obtained in time. -/
def abandonsPoll (_ : Runtime) : RuntimeEvent → Bool
  | .poll (.lock locked) => !locked
  | _ => false

/-- `driver.poll` returns a batch. -/
def returnsBatch (_ : Runtime) : RuntimeEvent → Bool
  | .poll (.driverReturn _ _) => true
  | _ => false

/-- It returns the batch after the deadline. -/
def returnsLate (s : Runtime) : RuntimeEvent → Bool
  | .poll (.driverReturn _ now) =>
    match s.poll with
    | .polling _ _ _ deadline => deadline < now
    | _ => false
  | _ => false

/-- The queue accepts the batch of a poll. -/
def acceptsPolled (s : Runtime) : RuntimeEvent → Bool
  | .poll .push =>
    match s.poll with
    | .pushing _ batch => (s.data.push batch).1 = .accepted
    | _ => false
  | _ => false

/-- How often each of these has happened. -/
structure PollCounts where
  abandoned : ℕ := 0
  returned : ℕ := 0
  late : ℕ := 0
  accepted : ℕ := 0

/-- The counts after the event `e` in the state `s`. -/
def PollCounts.after (c : PollCounts) (s : Runtime) (e : RuntimeEvent) : PollCounts where
  abandoned := c.abandoned + if abandonsPoll s e then 1 else 0
  returned := c.returned + if returnsBatch s e then 1 else 0
  late := c.late + if returnsLate s e then 1 else 0
  accepted := c.accepted + if acceptsPolled s e then 1 else 0

/-- The counts of the run of the events `w`. -/
def pollCounts (parts : RuntimeParts) (w : List RuntimeEvent) : PollCounts where
  abandoned := (runtimeSystem parts).countSteps abandonsPoll (create parts) w
  returned := (runtimeSystem parts).countSteps returnsBatch (create parts) w
  late := (runtimeSystem parts).countSteps returnsLate (create parts) w
  accepted := (runtimeSystem parts).countSteps acceptsPolled (create parts) w

theorem pollCounts_append_singleton {w : List RuntimeEvent} {e : RuntimeEvent}
    (h : (runtimeSystem parts).run (create parts) w = some s) (hstep : s.step parts e = some s') :
    pollCounts parts (w ++ [e]) = (pollCounts parts w).after s e := by
  have hl : (runtimeSystem parts).step s e = some s' := hstep
  simp only [pollCounts, PollCounts.after, TransitionSystem.countSteps_append_singleton h hl]

/-! ### The ledger -/

/-- What the counters of `poll_group` and of the engine say after polls counted by `c`. -/
structure PollLedger (c : PollCounts) (a : AcquisitionStats) (poll : PollPc)
    (scheduler : Option SchedulerEngine) : Prop where
  deadlineMisses : a.deadlineMisses = c.abandoned + c.late
  batches : c.returned = c.accepted + a.queueFull + poll.inHand
  executions : a.polls + a.errors + c.abandoned =
    scheduler.elim 0 SchedulerEngine.executions + poll.ended
  failures : a.errors = scheduler.elim 0 SchedulerEngine.failures + poll.threw

/-- A step in `poll_group`. -/
theorem PollLedger.pollStep {c : PollCounts} {e : PollEvent}
    (h : PollLedger c s.acquisition s.poll s.scheduler)
    (hopen : s.poll ≠ .idle → s.data.rawQueue.closed = false)
    (hstep : s.stepPoll parts e = some s') :
    PollLedger (c.after s (.poll e)) s'.acquisition s'.poll s'.scheduler := by
  obtain ⟨hmisses, hbatches, hexecutions, hfailures⟩ := h
  unfold stepPoll at hstep
  split at hstep
  · rename_i groupId now hpc
    obtain rfl := Option.some.inj hstep
    rw [hpc] at hbatches hexecutions hfailures
    -- the lookups end in `locking` or in the `catch` block
    have hpoll : ∀ pc, resolvePoll parts groupId now = .ok pc →
        pc.inHand = 0 ∧ pc.ended = 0 ∧ pc.threw = 0 := by
      intro pc hresolve
      obtain ⟨group, driver, gate, deadline, rfl, -⟩ := resolvePoll_resolved hresolve
      exact ⟨rfl, rfl, rfl⟩
    split
    · rename_i pc hresolve
      obtain ⟨hinHand, hended, hthrew⟩ := hpoll pc hresolve
      exact ⟨hmisses, by rw [hinHand]; exact hbatches, by rw [hended]; exact hexecutions,
        by rw [hthrew]; exact hfailures⟩
    · exact ⟨hmisses, hbatches, hexecutions, hfailures⟩
  · rename_i hpc
    split_ifs at hstep with hfree
    obtain rfl := Option.some.inj hstep
    rw [hpc] at hbatches hexecutions hfailures
    exact ⟨hmisses, hbatches, hexecutions, hfailures⟩
  · rename_i hpc
    obtain rfl := Option.some.inj hstep
    rw [hpc] at hbatches hexecutions hfailures
    refine ⟨?_, hbatches, ?_, hfailures⟩
    · show s.acquisition.deadlineMisses + 1 = c.abandoned + 1 + c.late
      omega
    · show s.acquisition.polls + s.acquisition.errors + (c.abandoned + 1) = _ + 1
      rw [← add_assoc, hexecutions]
      rfl
  · rename_i group driver gate deadline batch now hpc
    obtain rfl := Option.some.inj hstep
    rw [hpc] at hbatches hexecutions hfailures
    have hlate : (if returnsLate s (.poll (.driverReturn batch now)) then 1 else 0) =
        if now > deadline then 1 else 0 := by
      simp [returnsLate, hpc]
    refine ⟨?_, ?_, ?_, ?_⟩
    · show _ = c.abandoned + 0 + (c.late + if returnsLate s _ then 1 else 0)
      rw [hlate]
      split_ifs
      · show s.acquisition.deadlineMisses + 1 = _
        omega
      · omega
    · show c.returned + 1 = c.accepted + 0 + _ + 1
      split_ifs <;> exact congrArg (· + 1) hbatches
    · split_ifs <;> exact hexecutions
    · split_ifs <;> exact hfailures
  · rename_i hpc
    obtain rfl := Option.some.inj hstep
    rw [hpc] at hbatches hexecutions hfailures
    exact ⟨hmisses, hbatches, hexecutions, hfailures⟩
  · rename_i gate batch hpc
    obtain rfl := Option.some.inj hstep
    have hopen := hopen (by simp [hpc])
    rw [hpc] at hbatches hexecutions hfailures
    have haccepted : (if acceptsPolled s (.poll .push) then 1 else 0) =
        if (s.data.push batch).1 = .accepted then 1 else 0 := by
      simp [acceptsPolled, hpc]
    refine ⟨?_, ?_, ?_, ?_⟩
    · show (if _ then _ else _ : AcquisitionStats).deadlineMisses = _
      split_ifs <;> exact hmisses
    · show c.returned + 0 = c.accepted + (if acceptsPolled s _ then 1 else 0) + _ + 0
      rw [haccepted, hbatches]
      rcases BoundedQueue.tryPush_open hopen batch with hresult | hresult
      · have hpushed : (s.data.push batch).1 = .accepted := hresult
        simp [hpushed, PollPc.inHand]
        omega
      · have hpushed : (s.data.push batch).1 = .full := hresult
        simp [hpushed, PollPc.inHand]
        omega
    · show (if _ then _ else _ : AcquisitionStats).polls + _ + _ = _
      split_ifs <;> exact hexecutions
    · show (if _ then _ else _ : AcquisitionStats).errors = _
      split_ifs <;> exact hfailures
  · rename_i hpc
    obtain rfl := Option.some.inj hstep
    rw [hpc] at hbatches hexecutions hfailures
    refine ⟨hmisses, hbatches, ?_, hfailures⟩
    show s.acquisition.polls + 1 + s.acquisition.errors + c.abandoned =
      s.scheduler.elim 0 SchedulerEngine.executions + 1
    rw [show PollPc.ended _ = 0 from rfl] at hexecutions
    omega
  · rename_i hpc
    obtain rfl := Option.some.inj hstep
    rw [hpc] at hbatches hexecutions hfailures
    exact ⟨hmisses, hbatches, hexecutions, hfailures⟩
  · rename_i hpc
    obtain rfl := Option.some.inj hstep
    rw [hpc] at hbatches hexecutions hfailures
    refine ⟨hmisses, hbatches, ?_, ?_⟩
    · show s.acquisition.polls + (s.acquisition.errors + 1) + c.abandoned =
        s.scheduler.elim 0 SchedulerEngine.executions + 1
      rw [show PollPc.ended _ = 0 from rfl] at hexecutions
      omega
    · show s.acquisition.errors + 1 = _ + 1
      exact congrArg (· + 1) hfailures
  · cases hstep

/-- `PollLedger` holds along every run. -/
theorem poll_ledger {w : List RuntimeEvent}
    (h : (runtimeSystem parts).run (create parts) w = some s) :
    PollLedger (pollCounts parts w) s.acquisition s.poll s.scheduler := by
  refine TransitionSystem.run_induction (P := fun w s =>
    PollLedger (pollCounts parts w) s.acquisition s.poll s.scheduler) ?_ ?_ h
  · exact ⟨rfl, rfl, rfl, rfl⟩
  · intro w s e s' hrun hi hstep
    have hr : (runtimeSystem parts).Reachable s := TransitionSystem.reachable_of_run rfl hrun
    have huse := scheduler_use hr
    rw [pollCounts_append_singleton hrun hstep]
    -- a step of the engine that neither launches it nor ends a poll
    have hother : ∀ {engine engine' : SchedulerEngine} {l : SchedulerEvent},
        s.scheduler = some engine → engine.step l = some engine' →
        (∀ launched, l ≠ .start launched) →
        (∀ failed finishedAt, l ≠ .pollReturn failed finishedAt) →
        ∀ poll : PollPc, poll.inHand = s.poll.inHand → poll.ended = s.poll.ended →
        poll.threw = s.poll.threw →
        PollLedger (pollCounts parts w) s.acquisition poll (some engine') := by
      intro engine engine' l hengine hl hstart hreturn poll hinHand hended hthrew
      obtain ⟨hexecutions, hfailures⟩ := SchedulerEngine.counts_other hstart hreturn hl
      have hold := hi.executions
      have hold' := hi.failures
      rw [hengine] at hold hold'
      refine ⟨hi.deadlineMisses, ?_, ?_, ?_⟩
      · rw [hinHand]
        exact hi.batches
      · rw [hended, Option.elim_some, hexecutions]
        exact hold
      · rw [hthrew, Option.elim_some, hfailures]
        exact hold'
    cases step_effect hstep with
    | poll _ => exact hi.pollStep (rawQueue_open hr) hstep
    | @launchScheduler _ ok _ _ hf hin =>
      show PollLedger (pollCounts parts w) _ _ _
      have hcurrent := ((lifecycle_invariant hr).calls_finish hf hin).1
      have hnone : s.scheduler = none := by
        by_contra hne
        exact (huse.launched hne).2 hcurrent
      have hexecutions := hi.executions
      have hfailures := hi.failures
      rw [hnone] at hexecutions hfailures
      cases ok with
      | true => exact ⟨hi.deadlineMisses, hi.batches, hexecutions, hfailures⟩
      | false => exact ⟨hi.deadlineMisses, hi.batches, hexecutions, hfailures⟩
    | finishScheduler _ _ hon hengine hl =>
      show PollLedger (pollCounts parts w) _ _ _
      cases hon with
      | requestStopScheduler => exact hother hengine hl nofun nofun _ rfl rfl rfl
      | joinScheduler => exact hother hengine hl nofun nofun _ rfl rfl rfl
    | schedule h =>
      show PollLedger (pollCounts parts w) _ _ _
      cases h with
      | @select engine engine' now startedAt hengine hl =>
        have hidle : s.poll = .idle := huse.idle_of_select hengine hl
        refine hother hengine hl nofun nofun _ ?_ ?_ ?_
        · rw [hidle]
          cases engine'.polledGroup <;> rfl
        · rw [hidle]
          cases engine'.polledGroup <;> rfl
        · rw [hidle]
          cases engine'.polledGroup <;> rfl
      | @pollReturn engine engine' failed finishedAt hengine hpc hl =>
        obtain ⟨hexecutions, hfailures⟩ := SchedulerEngine.counts_pollReturn hl
        have hbatches := hi.batches
        have hold := hi.executions
        have hold' := hi.failures
        rw [hpc] at hbatches
        rw [hengine, hpc] at hold hold'
        refine ⟨hi.deadlineMisses, hbatches, ?_, ?_⟩
        · rw [Option.elim_some, hexecutions]
          exact hold
        · rw [Option.elim_some, hfailures]
          exact hold'
      | other hengine he hl =>
        refine hother hengine hl ?_ ?_ _ rfl rfl rfl
        · rcases he with ⟨now, rfl⟩ | rfl | rfl <;> nofun
        · rcases he with ⟨now, rfl⟩ | rfl | rfl <;> nofun
    | control h =>
      show PollLedger (pollCounts parts w) _ _ _
      cases h <;> exact hi
    | _ =>
      show PollLedger (pollCounts parts w) _ _ _
      exact hi

/-! ### No batch disappears -/

/-- `stats().scheduler`. -/
def schedulerStats (s : Runtime) : SchedulerStats := s.scheduler.elim {} SchedulerEngine.stats

/-- What has become of the polls when the scheduler has been joined. -/
structure PollsSettled (c : PollCounts) (s : Runtime) : Prop where
  batches : c.returned = c.accepted + s.acquisition.queueFull
  executed : s.schedulerStats.executed =
    s.acquisition.polls + s.acquisition.errors + c.abandoned
  errors : s.schedulerStats.errors = s.acquisition.errors
  deadlineMisses : s.acquisition.deadlineMisses = c.abandoned + c.late

/-- What becomes of the polls of the run of the events `w`, which leads to `s`. -/
structure PollsAccounted (parts : RuntimeParts) (w : List RuntimeEvent) (s : Runtime) : Prop where
  /-- A batch that `poll` returns is the next one to be pushed. -/
  returned : ∀ batch now s', s.step parts (.poll (.driverReturn batch now)) = some s' →
    ∃ gate, s'.poll = .pushing gate batch
  /-- It stays so until it is pushed. -/
  kept : ∀ gate batch e s', s.poll = .pushing gate batch → s.step parts e = some s' →
    e = .poll .push ∨ s'.poll = .pushing gate batch
  /-- The queue is not closed for it. -/
  refused : ∀ gate batch, s.poll = .pushing gate batch → (s.data.push batch).1 ≠ .stopping
  /-- The push puts it into the queue, or counts it as one that found the queue full. -/
  pushed : ∀ gate batch s', s.poll = .pushing gate batch →
    s.step parts (.poll .push) = some s' →
    (s'.data.history.accepted = s.data.history.accepted ++ [batch] ∧
      s'.acquisition.queueFull = s.acquisition.queueFull) ∨
    (s'.data.history.accepted = s.data.history.accepted ∧
      s'.acquisition.queueFull = s.acquisition.queueFull + 1)
  /-- So every batch returned so far has been accepted or counted, but for the one in hand. -/
  batches : (pollCounts parts w).returned =
    (pollCounts parts w).accepted + s.acquisition.queueFull + s.poll.inHand
  settled : .joinScheduler ∈ s.calls.returned → PollsSettled (pollCounts parts w) s

theorem polls_settled {w : List RuntimeEvent}
    (h : (runtimeSystem parts).run (create parts) w = some s)
    (hjoined : .joinScheduler ∈ s.calls.returned) : PollsSettled (pollCounts parts w) s := by
  have hr : (runtimeSystem parts).Reachable s := TransitionSystem.reachable_of_run rfl h
  obtain ⟨hmisses, hbatches, hexecutions, hfailures⟩ := poll_ledger h
  rw [poll_idle_of_joined hr hjoined] at hbatches hexecutions hfailures
  have hrecorded : s.scheduler.elim 0 SchedulerEngine.executions = s.schedulerStats.executed ∧
      s.scheduler.elim 0 SchedulerEngine.failures = s.schedulerStats.errors := by
    unfold schedulerStats
    cases hengine : s.scheduler with
    | none => exact ⟨rfl, rfl⟩
    | some engine =>
      have huse := scheduler_use hr
      have hjoinable := huse.joined hjoined engine hengine
      exact SchedulerEngine.recorded_of_not_running (huse.unjoinable engine hengine hjoinable)
  rw [hrecorded.1] at hexecutions
  rw [hrecorded.2] at hfailures
  exact ⟨hbatches, hexecutions.symm, hfailures.symm, hmisses⟩

/-- While a batch is in hand, the worker is in `poll_group` and pushes it next. -/
theorem pushing_kept {gate : ℕ} {batch : RawBatch} {e : RuntimeEvent}
    (h : (runtimeSystem parts).Reachable s) (hpc : s.poll = .pushing gate batch)
    (hstep : s.step parts e = some s') : e = .poll .push ∨ s'.poll = .pushing gate batch := by
  cases step_effect hstep with
  | poll h =>
    left
    cases h with
    | push _ => rfl
    | _ hother =>
      rw [hpc] at hother
      cases hother
  | schedule hs =>
    right
    cases hs with
    | select hengine hl =>
      have hidle := (scheduler_use h).idle_of_select hengine hl
      rw [hpc] at hidle
      cases hidle
    | pollReturn _ hdone _ =>
      rw [hpc] at hdone
      cases hdone
    | other _ _ _ => exact hpc
  | control h =>
    right
    cases h <;> exact hpc
  | _ => exact Or.inr hpc

/-- **No polled batch disappears unaccounted**, in any run. -/
theorem polls_accounted {w : List RuntimeEvent}
    (h : (runtimeSystem parts).run (create parts) w = some s) : PollsAccounted parts w s := by
  have hr : (runtimeSystem parts).Reachable s := TransitionSystem.reachable_of_run rfl h
  have hopen : ∀ gate batch, s.poll = .pushing gate batch →
      (s.data.push batch).1 = .accepted ∨ (s.data.push batch).1 = .full := by
    intro gate batch hpc
    exact BoundedQueue.tryPush_open (rawQueue_open hr (by simp [hpc])) batch
  refine {
    returned := ?_
    kept := fun gate batch e s' => pushing_kept hr
    refused := ?_
    pushed := ?_
    batches := (poll_ledger h).batches
    settled := polls_settled h }
  · intro batch now s' hstep
    cases stepPoll_effect hstep with
    | @driverReturn _ _ gate _ _ _ _ _ => exact ⟨gate, rfl⟩
  · intro gate batch hpc
    rcases hopen gate batch hpc with hresult | hresult
    · rw [hresult]
      decide
    · rw [hresult]
      decide
  · intro gate batch s' hpc hstep
    have hstep : s.stepPoll parts .push = some s' := hstep
    simp only [stepPoll, hpc] at hstep
    obtain rfl := Option.some.inj hstep
    rcases hopen gate batch hpc with hresult | hresult
    · left
      have htry : (s.data.rawQueue.tryPush batch).1 = .accepted := hresult
      simp [DataPath.push, htry]
    · right
      have htry : (s.data.rawQueue.tryPush batch).1 = .full := hresult
      simp [DataPath.push, htry]

/-- One poll whose driver returns late, and one that does not obtain the gate. -/
def latePollRun : List RuntimeEvent :=
  pollRun ++ [.poll (.driverReturn ⟨lit "d", [], []⟩ 3000000), .poll .push, .poll .leave,
    .schedule (.pollReturn false 3000000), .schedule .complete, .schedule (.select 4000000 4000000),
    .poll (.resolve 4000000), .poll (.lock false), .schedule (.pollReturn false 5000000),
    .schedule .complete]

theorem polls_accounted_oneDevice : ∃ w s,
    (.joinScheduler ∈ s.calls.returned ∧ s.schedulerStats.executed = 2 ∧
      s.acquisition.deadlineMisses = 2) ∧ PollsAccounted oneDevice w s := by
  obtain ⟨s, hrun, hs⟩ : ∃ s, (runtimeSystem oneDevice).run (create oneDevice)
      (startRun ++ latePollRun ++ deliverRun ++ stopRun) = some s ∧
      (.joinScheduler ∈ s.calls.returned ∧ s.schedulerStats.executed = 2 ∧
        s.acquisition.deadlineMisses = 2) := by
    have htest : ((runtimeSystem oneDevice).run (create oneDevice)
        (startRun ++ latePollRun ++ deliverRun ++ stopRun)).any (fun s =>
          .joinScheduler ∈ s.calls.returned ∧ s.schedulerStats.executed = 2 ∧
            s.acquisition.deadlineMisses = 2) = true := by
      decide +kernel
    obtain ⟨s, hrun, hs⟩ := (Option.any_eq_true _ _).mp htest
    exact ⟨s, hrun, of_decide_eq_true hs⟩
  exact ⟨_, s, hs, polls_accounted hrun⟩

end Runtime

end MiniGateway
