/-
  The calls of `start` and `stop` can always return.

  While a call of a lifecycle sequence waits for a worker, that worker has a step to take, and each
  of its steps lowers a measure of what is left to it: the scheduler worker once it has been asked
  to stop, the control and the processing worker once their queues are closed.  So every call of a
  sequence returns, every sequence ends, and every caller returns (`caller_returns`), in the runs of
  `callbackSystem`.
-/
import MiniGateway.Dispatcher.Progress
import MiniGateway.Runtime.Callbacks

namespace MiniGateway

/-! ### The processing worker -/

namespace DataPath

variable {processors publishers : ℕ} {d : DataPath}

/-- How many steps the worker takes to be done with the batch it has taken and to leave the loop. -/
def batchAhead (processors publishers : ℕ) : ProcessingPc → ℕ
  | .absent | .exited => 0
  | .waiting => 1
  | .offering _ index => 2 + 2 * (publishers - index)
  | .publishing _ index => 3 + 2 * (publishers - (index + 1))
  | .delivering _ _ => 3 + 2 * publishers
  | .processing _ _ index => 4 + 2 * publishers + (processors - index)
  | .normalizing _ => 5 + 2 * publishers + processors

/-- How many steps it takes to empty a closed queue and to leave the loop. -/
def workerAhead (processors publishers : ℕ) (d : DataPath) : ℕ :=
  (5 + 2 * publishers + processors) * d.rawQueue.queue.length +
    batchAhead processors publishers d.worker

variable (processors publishers) in
/-- The worker has a step to take until its queue is closed and empty. -/
theorem worker_progress (hclosed : d.rawQueue.closed = true) (hthere : d.worker ≠ .absent)
    (hrunning : d.worker ≠ .exited) :
    ∃ e d', d.stepWorker processors publishers e = some d' ∧
      workerAhead processors publishers d' < workerAhead processors publishers d := by
  unfold workerAhead
  cases hw : d.worker with
  | absent => exact absurd hw hthere
  | exited => exact absurd hw hrunning
  | waiting =>
    cases hq : d.rawQueue.queue with
    | nil =>
      refine ⟨.exit, _, by simp [stepWorker, hw, BoundedQueue.waitPop, hq, hclosed]; rfl, ?_⟩
      simp [batchAhead, hq]
    | cons batch rest =>
      refine ⟨.pop, _, by simp [stepWorker, hw, BoundedQueue.waitPop, hq]; rfl, ?_⟩
      simp only [batchAhead, List.length_cons, mul_add]
      omega
  | normalizing batch =>
    refine ⟨.normalize 0, _, by simp [stepWorker, hw]; rfl, ?_⟩
    simp only [batchAhead]
    omega
  | processing batch event index =>
    by_cases hindex : index < processors
    · refine ⟨.process event false, _, by simp [stepWorker, hw, hindex]; rfl, ?_⟩
      simp only [batchAhead]
      omega
    · refine ⟨.processed, _, by simp [stepWorker, hw, hindex]; rfl, ?_⟩
      simp only [batchAhead]
      omega
  | delivering batch event =>
    refine ⟨.deliver, _, by simp [stepWorker, hw]; rfl, ?_⟩
    simp only [batchAhead]
    omega
  | offering event index =>
    by_cases hindex : index < publishers
    · refine ⟨.offer, _, by simp [stepWorker, hw, hindex]; rfl, ?_⟩
      simp only [batchAhead]
      omega
    · refine ⟨.offer, _, by simp [stepWorker, hw, hindex]; rfl, ?_⟩
      simp only [batchAhead]
      omega
  | publishing event index =>
    refine ⟨.publishReturn none, _, by simp [stepWorker, hw]; rfl, ?_⟩
    simp only [batchAhead]
    omega

/-- Only a worker that was launched can be joined. -/
theorem joinable_launched (h : (dataSystem processors publishers).Reachable d)
    (hjoinable : d.joinable = true) : d.worker ≠ .absent := by
  revert hjoinable
  refine h.invariant (I := fun d => d.joinable = true → d.worker ≠ .absent) ?_ ?_
  · rintro d ⟨capacity, normalizer, -, rfl⟩ hj
    cases hj
  · intro d e d' _ hi hstep hj
    cases e with
    | push batch =>
      obtain rfl := Option.some.inj hstep
      exact hi hj
    | close =>
      obtain rfl := Option.some.inj hstep
      exact hi hj
    | launch =>
      simp only [dataSystem, step] at hstep
      split_ifs at hstep with hw
      obtain rfl := Option.some.inj hstep
      simp
    | join =>
      simp only [dataSystem, step] at hstep
      split_ifs at hstep with hjoinable hw
      · obtain rfl := Option.some.inj hstep
        cases hj
      · obtain rfl := Option.some.inj hstep
        exact hi hj
    | worker e => exact (Runtime.worker_frame hstep).2.2.1

end DataPath

/-! ### The scheduler worker -/

/-- How many steps the worker takes to leave `poll_group`. -/
def PollPc.ahead : PollPc → ℕ
  | .idle => 0
  | .entered _ => 6
  | .locking _ _ _ _ => 5
  | .polling _ _ _ _ => 4
  | .pushing _ _ | .unwinding _ => 3
  | .leaving _ | .failing => 2
  | .done _ => 1

/-- How many steps it takes outside `poll_group` to leave `run`, once it has been asked to. -/
def SchedulerPc.ahead : SchedulerPc → ℕ
  | .absent | .exited => 0
  | .iterating => 1
  | .sleeping _ | .polling _ _ _ | .returned _ _ _ _ _ => 2

/-- Only a worker that was launched can be joined. -/
theorem SchedulerEngine.joinable_launched {policy : FixedIntervalSequentialPolicy}
    {engine : SchedulerEngine} (h : (schedulerSystem policy).Reachable engine)
    (hjoinable : engine.joinable = true) : engine.worker ≠ .absent := by
  revert hjoinable
  refine h.invariant (I := fun e => e.joinable = true → e.worker ≠ .absent) ?_ ?_
  · rintro e ⟨clock, rfl⟩ hj
    cases hj
  · intro e l e' _ hi hstep hj
    have hstep : e.step l = some e' := hstep
    cases hl : l.isWorker with
    | true => exact (worker_frame hl hstep).there
    | false =>
      cases l with
      | start launched =>
        obtain rfl := Option.some.inj hstep
        revert hj
        unfold SchedulerEngine.start
        split_ifs
        · exact hi
        · simp
        · exact hi
      | requestStop =>
        obtain rfl := Option.some.inj hstep
        exact hi hj
      | join =>
        simp only [SchedulerEngine.step] at hstep
        split_ifs at hstep with hjoinable hw
        · obtain rfl := Option.some.inj hstep
          cases hj
        · obtain rfl := Option.some.inj hstep
          exact hi hj
      | _ => cases hl

/-- Outside the poll callback, a worker that has been asked to stop has a step to take until it
leaves `run`. -/
theorem SchedulerEngine.worker_progress {engine : SchedulerEngine} (hplaced : engine.Placed)
    (hstopping : engine.stopping = true) (hpolling : engine.isPolling = false)
    (hrunning : engine.isRunning = true) :
    ∃ l engine', engine.step l = some engine' ∧
      ((∃ now, l = .wake now) ∨ l = .complete ∨ l = .exit) ∧
      engine'.worker.ahead < engine.worker.ahead := by
  cases hw : engine.worker with
  | absent => simp [isRunning, hw] at hrunning
  | exited => simp [isRunning, hw] at hrunning
  | polling i scheduledAt startedAt => simp [isPolling, hw] at hpolling
  | iterating =>
    refine ⟨.exit, { engine with worker := .exited }, ?_, .inr (.inr rfl), ?_⟩
    · simp [SchedulerEngine.step, hw, hstopping]
    · simp [SchedulerPc.ahead]
  | sleeping wakeup =>
    refine ⟨.wake engine.clock, { engine with worker := .iterating }, ?_, .inl ⟨_, rfl⟩, ?_⟩
    · simp [SchedulerEngine.step, hw, hstopping]
    · simp [SchedulerPc.ahead]
  | returned i scheduledAt startedAt failed finishedAt =>
    obtain ⟨task, htask, -⟩ := hplaced.returned i scheduledAt startedAt failed finishedAt hw
    obtain ⟨policy, hpolicy⟩ := Option.isSome_iff_exists.mp
      (engine.policy.onComplete_isSome htask finishedAt)
    refine ⟨.complete, engine.recordPoll policy i scheduledAt startedAt finishedAt failed, ?_,
      .inr (.inl rfl), ?_⟩
    · simp [SchedulerEngine.step, hw, hpolicy]
    · simp [SchedulerPc.ahead, SchedulerEngine.recordPoll]

namespace Runtime

variable {parts : RuntimeParts} {s s' : Runtime}

/-- How many steps the scheduler worker takes to leave `run`. -/
def schedulerAhead (s : Runtime) : ℕ :=
  s.scheduler.elim 0 (fun engine => engine.worker.ahead) + s.poll.ahead

/-- Every step in `poll_group` brings the worker nearer to its end. -/
theorem PollEffect.ahead_lt {e : PollEvent} (h : PollEffect parts s e s') :
    s'.poll.ahead < s.poll.ahead := by
  cases h with
  | @resolve groupId now pc hpc hresolve =>
    obtain ⟨group, driver, gate, deadline, rfl, -⟩ := resolvePoll_resolved hresolve
    simp [hpc, PollPc.ahead]
  | unresolved hpc => simp [hpc, PollPc.ahead]
  | lock hpc _ => simp [hpc, PollPc.ahead]
  | _ hpc => simp [hpc, PollPc.ahead]

variable (parts) in
/-- In `poll_group` the worker has a step to take; a gate that it does not get is given up. -/
theorem poll_progress (hpoll : s.poll ≠ .idle) (hdone : ∀ failed, s.poll ≠ .done failed) :
    ∃ e s', s.stepPoll parts e = some s' := by
  unfold stepPoll
  cases hpc : s.poll with
  | idle => exact absurd hpc hpoll
  | done failed => exact absurd hpc (hdone failed)
  | entered groupId => exact ⟨.resolve 0, _, rfl⟩
  | locking group driver gate deadline => exact ⟨.lock false, _, rfl⟩
  | polling group driver gate deadline => exact ⟨.driverReturn ⟨[], [], []⟩ 0, _, rfl⟩
  | pushing gate batch => exact ⟨.push, _, rfl⟩
  | leaving gate => exact ⟨.leave, _, rfl⟩
  | unwinding gate => exact ⟨.unwind, _, rfl⟩
  | failing => exact ⟨.fail, _, rfl⟩

/-- The scheduler worker that has been asked to stop has a step to take until it leaves `run`. -/
theorem scheduler_progress (h : (runtimeSystem parts).Reachable s) {engine : SchedulerEngine}
    (hengine : s.scheduler = some engine) (hstopping : engine.stopping = true)
    (hrunning : engine.isRunning = true) :
    ∃ e s', s.step parts e = some s' ∧ s'.lifecycle = s.lifecycle ∧
      s'.schedulerAhead < s.schedulerAhead := by
  obtain ⟨start, hr⟩ := scheduler_reachable h engine hengine
  have hpolls := (scheduler_use h).polling
  have hbefore : s.schedulerAhead = engine.worker.ahead + s.poll.ahead := by
    simp [schedulerAhead, hengine]
  cases hpolling : engine.isPolling with
  | false =>
    obtain ⟨l, engine', hl, hother, hlt⟩ :=
      SchedulerEngine.worker_progress (SchedulerEngine.placed hr) hstopping hpolling hrunning
    have hstep : s.step parts (.schedule l) = some { s with scheduler := some engine' } := by
      rcases hother with ⟨now, rfl⟩ | rfl | rfl <;>
        simp [step, stepSchedule, stepScheduler, hengine, hl]
    refine ⟨.schedule l, _, hstep, rfl, ?_⟩
    rw [hbefore]
    show engine'.worker.ahead + s.poll.ahead < _
    omega
  | true =>
    have hbusy : s.poll ≠ .idle := by
      intro hpoll
      have hno := hpolls.mp hpoll engine hengine
      rw [hpolling] at hno
      cases hno
    by_cases hdone : ∃ failed, s.poll = .done failed
    · -- the poll callback returns
      obtain ⟨failed, hpc⟩ := hdone
      obtain ⟨i, scheduledAt, startedAt, hw⟩ : ∃ i scheduledAt startedAt,
          engine.worker = .polling i scheduledAt startedAt := by
        unfold SchedulerEngine.isPolling at hpolling
        split at hpolling
        · exact ⟨_, _, _, ‹_›⟩
        · cases hpolling
      have hstep : s.step parts (.schedule (.pollReturn failed engine.clock)) = some { s with
          scheduler := some { engine with
            worker := .returned i scheduledAt startedAt failed engine.clock }
          poll := .idle } := by
        simp [step, stepSchedule, hengine, hpc, SchedulerEngine.step, hw]
      refine ⟨_, _, hstep, rfl, ?_⟩
      rw [hbefore, hw, hpc]
      show 2 + 0 < 2 + 1
      omega
    · obtain ⟨e, s', hstep⟩ := poll_progress parts hbusy
        fun failed hpc => hdone ⟨failed, hpc⟩
      have heffect := stepPoll_effect hstep
      obtain ⟨-, -, hsched, hlife⟩ := heffect.not_idle
      have hlt := heffect.ahead_lt
      have hafter : s'.schedulerAhead = engine.worker.ahead + s'.poll.ahead := by
        simp [schedulerAhead, hsched, hengine]
      refine ⟨.poll e, s', hstep, hlife, ?_⟩
      omega

/-! ### The control worker -/

/-- The worker waits for a gate only where the device has one. -/
theorem gate_found (h : (runtimeSystem parts).Reachable s) :
    ∀ op es, s.dispatcher.worker = .executing op es .lockGate →
      (findIoGate parts.drivers op.request.deviceId).isSome = true := by
  refine h.invariant (I := fun s => ∀ op es, s.dispatcher.worker = .executing op es .lockGate →
    (findIoGate parts.drivers op.request.deviceId).isSome = true) ?_ ?_
  · rintro s rfl op es hw
    cases hw
  · intro s e s' _ hi hstep
    -- the dispatcher's other threads do not move the worker to a gate
    have hcaller : ∀ {t : ThreadId} {e : CallerEvent} {d : Dispatcher},
        s.dispatcher.step true (.caller t e) = some d → ∀ op es,
        d.worker = .executing op es .lockGate →
          (findIoGate parts.drivers op.request.deviceId).isSome = true := by
      intro t e d hd op es hw
      rcases (Dispatcher.stepCaller_effect hd).worker with hsame | ⟨-, hwaiting⟩
      · rw [hsame] at hw
        exact hi op es hw
      · rw [hwaiting] at hw
        cases hw
    cases step_effect hstep with
    | begin _ _ hd =>
      cases hd with
      | other _ => exact hi
      | _ hd => exact hcaller hd
    | dispatch _ _ _ hd => exact hcaller hd
    | submitControl hd => exact hcaller hd
    | submit _ hd => exact hcaller hd
    | control h =>
      intro op es hw
      cases h with
      | lock hw' hgate _ hd =>
        cases Dispatcher.stepWorker_effect hd with
        | move hw'' hmove _ =>
          cases hmove
          cases hw
      | unlock hw' hgate hd =>
        cases Dispatcher.stepWorker_effect hd with
        | move hw'' hmove _ =>
          cases hmove
          cases hw
      | plain _ _ _ hgate hd =>
        cases Dispatcher.stepWorker_effect hd with
        | move hw'' hmove _ =>
          cases hmove with
          | gateFound =>
            cases hw
            exact (hgate _ _ _ _ hw'' rfl).symm
          | _ => cases hw
        | _ => cases hw
    | schedule h => cases h <;> exact hi
    | poll h => cases h <;> exact hi
    | _ => exact hi

/-- The event concerns the dispatcher alone: no lookup, no gate, no end of a callback. -/
def isPlain : WorkerEvent → Bool
  | .resolve _ | .gate _ | .lockGate _ | .unlock | .callbackReturn => false
  | _ => true

/-- A step of the control worker that concerns the dispatcher alone. -/
theorem stepControl_of_step {e : WorkerEvent} {d : Dispatcher}
    (hd : s.dispatcher.step true (.worker e) = some d) (he : isPlain e = true) :
    s.stepControl parts e = some { s with dispatcher := d } := by
  have hplain : s.stepDispatcher (.worker e) = some { s with dispatcher := d } := by
    simp [stepDispatcher, hd]
  unfold stepControl
  split
  · cases he
  · cases he
  · cases he
  · cases he
  · cases he
  · cases he
  · exact hplain

/-- The control worker has a step to take until its queue is closed and empty, while nothing is
polled and its callback, if it is in one, is not in `stop`. -/
theorem control_progress (h : (runtimeSystem parts).Reachable s)
    (hclosed : s.dispatcher.queue.closed = true) (hpoll : s.poll = .idle)
    (hframe : s.lifecycle.frames .executed = .idle) (hthere : s.dispatcher.worker ≠ .absent)
    (hrunning : s.dispatcher.worker ≠ .exited) :
    ∃ e s', s.stepControl parts e = some s' := by
  cases hw : s.dispatcher.worker with
  | absent => exact absurd hw hthere
  | exited => exact absurd hw hrunning
  | waiting =>
    cases hq : s.dispatcher.queue.queue with
    | nil =>
      have hpop : s.dispatcher.queue.waitPop = some .finished := by
        simp [ControlQueue.waitPop, hq, hclosed]
      have hd : s.dispatcher.step true (.worker .exit) =
          some { s.dispatcher with worker := .exited } := by
        simp [Dispatcher.step, Dispatcher.stepWorker, hw, hpop]
      exact ⟨_, _, stepControl_of_step hd rfl⟩
    | cons op rest =>
      obtain ⟨d, hd⟩ : ∃ d, s.dispatcher.step true (.worker (.pop 0)) = some d := by
        simp [Dispatcher.step, Dispatcher.stepWorker, hw, ControlQueue.waitPop, hq]
      exact ⟨_, _, stepControl_of_step hd rfl⟩
  | executing op es stage =>
    have hexecute : ∀ e d, s.dispatcher.stepExecute true op es stage e = some d →
        s.dispatcher.step true (.worker e) = some d := by
      intro e d hd
      show s.dispatcher.stepWorker true e = some d
      unfold Dispatcher.stepWorker
      rw [hw]
      exact hd
    cases stage with
    | entry => exact ⟨_, _, stepControl_of_step (hexecute .countWait _ rfl) rfl⟩
    | deadline => exact ⟨_, _, stepControl_of_step (hexecute (.deadline 0) _ rfl) rfl⟩
    | recheck gated => exact ⟨_, _, stepControl_of_step (hexecute (.recheck 0) _ rfl) rfl⟩
    | call gated => exact ⟨_, _, stepControl_of_step (hexecute .call _ rfl) rfl⟩
    | driver gated => exact ⟨_, _, stepControl_of_step (hexecute (.driverThrow none) _ rfl) rfl⟩
    | finish result => exact ⟨_, _, stepControl_of_step (hexecute (.finish 0) _ rfl) rfl⟩
    | count result => exact ⟨_, _, stepControl_of_step (hexecute .count _ rfl) rfl⟩
    | invoke result => exact ⟨_, _, stepControl_of_step (hexecute .invoke _ rfl) rfl⟩
    | resolve =>
      let found := (findDriverPtr parts.drivers op.request.deviceId).isSome
      obtain ⟨d, hd⟩ : ∃ d, s.dispatcher.step true (.worker (.resolve found)) = some d :=
        ⟨_, hexecute _ _ rfl⟩
      refine ⟨.resolve found, { s with dispatcher := d }, ?_⟩
      unfold stepControl
      rw [hw]
      simp [stepDispatcher, hd, found]
    | gate =>
      let found := (findIoGate parts.drivers op.request.deviceId).isSome
      obtain ⟨d, hd⟩ : ∃ d, s.dispatcher.step true (.worker (.gate found)) = some d :=
        ⟨_, hexecute _ _ rfl⟩
      refine ⟨.gate found, { s with dispatcher := d }, ?_⟩
      unfold stepControl
      rw [hw]
      simp [stepDispatcher, hd, found]
    | lockGate =>
      -- the gate is there, and neither path holds one
      obtain ⟨gate, hgate⟩ := Option.isSome_iff_exists.mp (gate_found h op es hw)
      have hfree : s.gates gate = none := (device_exclusive h).released (by rw [hpoll]; rfl)
        (by simp [hw, Stage.gated?]) gate
      obtain ⟨d, hd⟩ : ∃ d, s.dispatcher.step true (.worker (.lockGate true)) = some d :=
        ⟨_, hexecute _ _ rfl⟩
      refine ⟨.lockGate true, { s with
        dispatcher := d
        gates := Function.update s.gates gate (some .control) }, ?_⟩
      unfold stepControl
      rw [hw]
      simp [stepDispatcher, hd, hgate, hfree]
    | unlock gated result =>
      obtain ⟨rfl, hsome⟩ := (gate_use h).worked op es _ gated hw rfl
      obtain ⟨gate, hgate⟩ := Option.isSome_iff_exists.mp hsome
      obtain ⟨d, hd⟩ : ∃ d, s.dispatcher.step true (.worker .unlock) = some d :=
        ⟨_, hexecute _ _ rfl⟩
      refine ⟨.unlock, { s with
        dispatcher := d
        gates := Function.update s.gates gate none }, ?_⟩
      unfold stepControl
      rw [hw]
      simp [stepDispatcher, hd, hgate]
    | callback result =>
      obtain ⟨d, hd⟩ : ∃ d, s.dispatcher.step true (.worker .callbackReturn) = some d :=
        ⟨_, hexecute _ _ rfl⟩
      refine ⟨.callbackReturn, { s with dispatcher := d }, ?_⟩
      unfold stepControl
      rw [hw]
      simp [stepDispatcher, hd, hframe]

/-! ### Calls of a shutdown -/

/-- Only a shutdown makes the other calls. -/
theorem unwinding_of_inCall (h : (runtimeSystem parts).Reachable s) {a : Actor} {instr : Instr}
    (hin : s.lifecycle.inCall a = some instr) (hstop : instr.isStart = false) :
    s.lifecycle.unwinding = true := by
  have hl := lifecycle_invariant h
  rcases Lifecycle.inCall_eq hin with ⟨locals, rest, hpc⟩ | ⟨rollback, rest, hpc⟩
  · obtain ⟨-, hprogram, -⟩ := hl.phase.during hl.locking hpc
    have hmem : instr ∈ startProgram parts := by
      rw [hprogram]
      simp
    rw [Lifecycle.isStart_startProgram instr hmem] at hstop
    cases hstop
  · unfold Lifecycle.unwinding
    rw [hl.locking.current_eq hpc]

/-- During a shutdown no callback is in `stop`, unless it runs the shutdown. -/
theorem callbacks_idle (h : (callbackSystem parts).Reachable s)
    (hunwinding : s.lifecycle.unwinding = true) :
    s.lifecycle.frames .cancelled = .idle ∧
      ((s.lifecycle.frames .executed).isExecuting = false →
        s.lifecycle.frames .executed = .idle) := by
  have houtside := outside_of_unwinding h hunwinding
  unfold Lifecycle.callbacksOutside at houtside
  simp only [Bool.and_eq_true, Bool.or_eq_true, decide_eq_true_eq] at houtside
  refine ⟨houtside.1, fun hout => ?_⟩
  rcases houtside.2 with hidle | hin
  · exact hidle
  · rw [hout] at hin
    cases hin

/-- The calls of a shutdown come in their order. -/
theorem beforeJoinDispatcher (h : (runtimeSystem parts).Reachable s)
    (hcurrent : s.calls.current = some .joinDispatcher) :
    .joinScheduler ∈ s.calls.returned ∧ .requestStopDispatcher ∈ s.calls.returned := by
  have hl := lifecycle_invariant h
  have hbegun := (hl.mem_stopBegun rfl).mp (hl.current_begun hcurrent)
  obtain ⟨sources, dispatcher, drivers, publishers, hexecution, -⟩ := hl.shutdown_execution hbegun
  obtain ⟨hjoin, hstop⟩ := beforeJoinDispatcher_returned hexecution hbegun
  exact ⟨List.mem_append_right _ hjoin, List.mem_append_right _ hstop⟩

/-- The scheduler is asked to stop before it is joined. -/
theorem beforeJoinScheduler (h : (runtimeSystem parts).Reachable s)
    (hcurrent : s.calls.current = some .joinScheduler) :
    .requestStopScheduler ∈ s.calls.returned := by
  have hl := lifecycle_invariant h
  have hbegun := (hl.mem_stopBegun rfl).mp (hl.current_begun hcurrent)
  obtain ⟨sources, dispatcher, drivers, publishers, hexecution, -⟩ := hl.shutdown_execution hbegun
  exact List.mem_append_right _ (requestStopScheduler_returned hexecution hbegun)

/-- The queue of the data path is closed before its worker is joined. -/
theorem beforeJoinProcessing (h : (runtimeSystem parts).Reachable s)
    (hcurrent : s.calls.current = some .joinProcessing) : .closeRawQueue ∈ s.calls.returned := by
  have hl := lifecycle_invariant h
  have hbegun := (hl.mem_stopBegun rfl).mp (hl.current_begun hcurrent)
  obtain ⟨sources, dispatcher, drivers, publishers, hexecution, -⟩ := hl.shutdown_execution hbegun
  exact List.mem_append_right _ (closeRawQueue_returned hexecution hbegun)

/-! ### Calls of the dispatcher -/

/-- In one of the dispatcher's calls there is something left to do. -/
theorem ahead_ne_zero {caller : Caller} {instr : Instr} (h : caller.instr? = some instr) :
    caller.ahead ≠ 0 := by
  unfold Caller.instr? at h
  split at h
  · simp [Caller.ahead]
  · rename_i pc
    cases pc <;> simp [Caller.ahead]
  · rename_i pc
    cases pc <;> simp [Caller.ahead]
  · cases h

/-- Whoever holds the mutex in `submit` has something left to do before it releases it. -/
theorem holding_ne_zero {caller : Caller} (hin : caller.isSubmitter = true)
    (hholds : caller.holdsLifecycle = true) : caller.holding ≠ 0 := by
  cases caller with
  | submit submission pc => cases pc <;> simp_all [Caller.holding, Caller.holdsLifecycle]
  | _ => simp_all [Caller.isSubmitter, Caller.holdsLifecycle]

/-- What the invariants say while `a` is in one of the dispatcher's calls. -/
structure InDispatcher (parts : RuntimeParts) (s : Runtime) (a : Actor) (instr : Instr) : Prop where
  reachable : (callbackSystem parts).Reachable s
  inCall : s.lifecycle.inCall a = some instr
  isDispatcher : instr.isDispatcher = true
  caller : (s.dispatcher.callers 0).instr? = some instr

namespace InDispatcher

variable {a : Actor} {instr : Instr}

theorem current (h : InDispatcher parts s a instr) : s.calls.current = some instr :=
  (lifecycle_invariant h.reachable.of_restrict).locking.current_inCall h.inCall

theorem joining (h : InDispatcher parts s a instr) : Dispatcher.Joining s.dispatcher :=
  Dispatcher.joining ((dispatcher_projection parts).reachable h.reachable.of_restrict)

/-- The caller is in `join`. -/
theorem instr_eq_join (h : InDispatcher parts s a instr) {inStop : Bool} {pc : JoinPc}
    (hpc : s.dispatcher.callers 0 = .join inStop pc) : instr = .joinDispatcher := by
  have hcaller := h.caller
  rw [hpc] at hcaller
  cases inStop with
  | false => exact (Option.some.inj hcaller).symm
  | true => cases hcaller

/-- The caller is in `request_stop`. -/
theorem instr_eq_requestStop (h : InDispatcher parts s a instr) {inStop : Bool}
    {pc : RequestStopPc} (hpc : s.dispatcher.callers 0 = .requestStop inStop pc) :
    instr = .requestStopDispatcher := by
  have hcaller := h.caller
  rw [hpc] at hcaller
  cases inStop with
  | false => exact (Option.some.inj hcaller).symm
  | true => cases hcaller

/-- No callback of a cancelled request is in `stop`. -/
theorem cancelled_idle (h : InDispatcher parts s a instr) :
    s.lifecycle.frames .cancelled = .idle := by
  by_contra hne
  have hcallback := (callback_use h.reachable.of_restrict).cancelled hne
  cases hpc : s.dispatcher.callers 0 with
  | requestStop inStop pc =>
    obtain rfl := h.instr_eq_requestStop hpc
    have hunwinding := unwinding_of_inCall h.reachable.of_restrict h.inCall rfl
    exact hne (callbacks_idle h.reachable hunwinding).1
  | _ =>
    rw [hpc] at hcallback
    cases hcallback

/-- A step that the caller of the sequence makes in the dispatcher. -/
theorem step_caller (h : InDispatcher parts s a instr) {e : CallerEvent} {d : Dispatcher}
    (hd : s.dispatcher.stepCaller 0 e = some d) (hcall : ∀ c, e ≠ .call c)
    (hjoin : ∀ ok, e = .joinWorker ok → ok = !s.onControlWorker a) :
    (callbackSystem parts).step s (.dispatch a e) = some { s with dispatcher := d } := by
  have hallow : s.allowsDispatch a e = true := by
    unfold allowsDispatch
    split
    · exact absurd rfl (hcall _)
    · simpa using h.cancelled_idle
    · simpa using hjoin _ rfl
    · rfl
  have hstep : s.step parts (.dispatch a e) = some { s with dispatcher := d } := by
    simp only [step, h.inCall, Option.any_some, h.isDispatcher, hallow, and_self, if_true]
    simp [stepDispatcher, Dispatcher.step, hd]
  exact callbackSystem_step_of_eq h.reachable hstep rfl

/-- A step that a thread in `submit` makes. -/
theorem step_submitter (h : InDispatcher parts s a instr) {t : ThreadId} {e : CallerEvent}
    {d : Dispatcher} (hd : s.dispatcher.stepCaller (t + 1) e = some d) (hcall : ∀ c, e ≠ .call c)
    (hfound : ∀ submission pc found, s.dispatcher.callers (t + 1) = .submit submission pc →
      e = .submitResolve found →
      found = (findDriverPtr parts.drivers submission.request.deviceId).isSome) :
    (callbackSystem parts).step s (.submit t e) = some { s with dispatcher := d } := by
  have hallow : s.allowsSubmit parts t e = true := by
    unfold allowsSubmit
    split
    · exact absurd rfl (hcall _)
    · split
      · rename_i found _ submission pc hpc
        simpa using hfound submission pc found hpc rfl
      · rename_i found hno
        have hsubmitter := (control_use h.reachable.of_restrict).submitters t
        cases hpc : s.dispatcher.callers (t + 1) with
        | submit submission pc => exact absurd hpc (hno submission pc)
        | idle => simp [Dispatcher.stepCaller, hpc] at hd
        | _ =>
          rw [hpc] at hsubmitter
          cases hsubmitter
    · rfl
  have hstep : s.step parts (.submit t e) = some { s with dispatcher := d } := by
    simp only [step, hallow, if_true]
    simp [stepDispatcher, Dispatcher.step, hd]
  exact callbackSystem_step_of_eq h.reachable hstep rfl

/-- While the caller is in `worker_.join()`, the worker has a step to take. -/
theorem worker_progress (h : InDispatcher parts s a instr) {inStop : Bool}
    (hpc : s.dispatcher.callers 0 = .join inStop .worker) (houter : s.onControlWorker a = false)
    (hrunning : s.dispatcher.worker ≠ .exited) :
    ∃ e s', (callbackSystem parts).step s e = some s' ∧ s'.lifecycle = s.lifecycle ∧
      s'.dispatcher.callAhead < s.dispatcher.callAhead := by
  have hr := h.reachable.of_restrict
  have hl := lifecycle_invariant hr
  have hd := dispatcher_invariant hr
  obtain rfl := h.instr_eq_join hpc
  have hjoining := h.joining
  -- the scheduler has been joined, the queue is closed, and no callback is in `stop`
  have hpoll := poll_idle_of_joined hr (beforeJoinDispatcher hr h.current).1
  have hclosed : s.dispatcher.queue.closed = true :=
    (hd.stopping.complete (hjoining.joining 0 (by rw [hpc]; rfl)).1).2
  have hthere : s.dispatcher.worker ≠ .absent := by
    intro habsent
    have hstarted := hjoining.started 0 inStop .worker hpc (by simp)
    rw [hd.stopping.absent.mp habsent] at hstarted
    cases hstarted
  have hframe : s.lifecycle.frames .executed = .idle := by
    refine (callbacks_idle h.reachable (unwinding_of_inCall hr h.inCall rfl)).2 ?_
    rw [Bool.eq_false_iff]
    intro hexecuting
    have ha : (s.lifecycle.frames a).isExecuting = true := by
      rcases Lifecycle.inCall_eq h.inCall with ⟨locals, rest, hpc⟩ | ⟨rollback, rest, hpc⟩
      · rw [hpc]
        rfl
      · rw [hpc]
        rfl
    obtain rfl := hl.locking.executor.unique ha hexecuting
    cases houter
  obtain ⟨e, s', hstep⟩ := control_progress hr hclosed hpoll hframe hthere hrunning
  obtain ⟨hlife, -, -, -, hworker⟩ := (stepControl_effect hstep).frame
  refine ⟨.control e, s', callbackSystem_step_of_eq h.reachable hstep hlife, hlife, ?_⟩
  exact Dispatcher.callAhead_lt_of_worker (Dispatcher.stepWorker_effect hworker) hpc

/-- Whether the driver resolver finds the device of the request that this thread submits. -/
def finds (drivers : List DriverInstance) : Caller → Bool
  | .submit submission _ => (findDriverPtr drivers submission.request.deviceId).isSome
  | _ => false

/-- A thread in `submit` that holds the mutex has a step to take. -/
theorem holder_progress (h : InDispatcher parts s a instr) {t : ThreadId}
    (hout : ∀ inStop, s.dispatcher.callers 0 ≠ .join inStop .worker)
    (hm : s.dispatcher.lifecycleMutex = some (t + 1)) :
    ∃ e s', (callbackSystem parts).step s e = some s' ∧ s'.lifecycle = s.lifecycle ∧
      s'.dispatcher.callAhead < s.dispatcher.callAhead := by
  have hr := h.reachable.of_restrict
  have hholds := ((dispatcher_invariant hr).locking.mutex (t + 1)).mpr hm
  have hsubmitter := (control_use hr).submitters t
  let found := finds parts.drivers (s.dispatcher.callers (t + 1))
  obtain ⟨e, d, hd, hcall, hfound, hothers, hlt⟩ :=
    Dispatcher.holder_progress (holding_ne_zero hsubmitter hholds) hm found
  have hstep := h.step_submitter hd hcall (by
    intro submission pc f hpc he
    rw [hfound f he]
    simp only [found, finds, hpc])
  exact ⟨_, _, hstep, rfl,
    Dispatcher.callAhead_lt_of_holder (hothers 0 (by simp)) hout hlt⟩

/-- Only the caller joins. -/
theorem joinInProgress_eq_false (h : InDispatcher parts s a instr)
    (hout : (s.dispatcher.callers 0).isJoining = false) : s.dispatcher.joinInProgress = false := by
  obtain ⟨owner, hguard, hsome⟩ := h.joining.owner
  rw [hsome]
  cases owner with
  | none => rfl
  | some u =>
    have hin := (hguard u).mpr rfl
    cases u with
    | zero =>
      rw [hout] at hin
      cases hin
    | succ t =>
      have hsubmitter := (control_use h.reachable.of_restrict).submitters t
      cases hu : s.dispatcher.callers (t + 1) with
      | join inStop pc =>
        rw [hu] at hsubmitter
        cases hsubmitter
      | _ =>
        rw [hu] at hin
        cases hin

/-- The caller, or a thread that it waits for, has a step to take. -/
theorem progress (h : InDispatcher parts s a instr) :
    ∃ e s', (callbackSystem parts).step s e = some s' ∧ s'.lifecycle = s.lifecycle ∧
      s'.dispatcher.callAhead < s.dispatcher.callAhead := by
  have hr := h.reachable.of_restrict
  have hd := dispatcher_invariant hr
  by_cases hworker : ∃ inStop, s.dispatcher.callers 0 = .join inStop .worker ∧
      s.onControlWorker a = false ∧ s.dispatcher.worker ≠ .exited
  · obtain ⟨inStop, hpc, houter, hrunning⟩ := hworker
    exact h.worker_progress hpc houter hrunning
  by_cases hholder : (∀ inStop, s.dispatcher.callers 0 ≠ .join inStop .worker) ∧
      ∃ t, s.dispatcher.lifecycleMutex = some (t + 1)
  · obtain ⟨hout, t, hm⟩ := hholder
    exact h.holder_progress hout hm
  -- nothing holds the caller up
  have hmutex : (s.dispatcher.callers 0).holdsLifecycle = false →
      (∀ inStop, s.dispatcher.callers 0 ≠ .join inStop .worker) →
      s.dispatcher.lifecycleMutex = none := by
    intro hholds hout
    cases hm : s.dispatcher.lifecycleMutex with
    | none => rfl
    | some u =>
      cases u with
      | zero =>
        have hin := (hd.locking.mutex 0).mpr hm
        rw [hholds] at hin
        cases hin
      | succ t => exact absurd ⟨hout, t, hm⟩ hholder
  -- `request_stop` has returned, and nobody else joins
  have hwait : ∀ inStop, s.dispatcher.callers 0 = .join inStop .wait →
      s.dispatcher.stopRequestComplete = true ∧ s.dispatcher.joinInProgress = false := by
    intro inStop hpc
    obtain rfl := h.instr_eq_join hpc
    refine ⟨(control_use hr).stopped (beforeJoinDispatcher hr h.current).2, ?_⟩
    exact h.joinInProgress_eq_false (by rw [hpc]; rfl)
  have hexited : ∀ inStop, s.dispatcher.callers 0 = .join inStop .worker →
      (!s.onControlWorker a) = true → s.dispatcher.worker = .exited := by
    intro inStop hpc hok
    by_contra hrunning
    exact hworker ⟨inStop, hpc, by simpa using hok, hrunning⟩
  obtain ⟨e, d, hstep, hcall, hok, hlt⟩ :=
    Dispatcher.caller_progress (ahead_ne_zero h.caller) (!s.onControlWorker a) hmutex hwait hexited
  exact ⟨_, _, h.step_caller hstep hcall hok, rfl, Dispatcher.callAhead_lt_of_caller hlt⟩

end InDispatcher

/-- The dispatcher's part of a call comes to its end. -/
theorem dispatcher_returns (h : (callbackSystem parts).Reachable s) {a : Actor} {instr : Instr}
    (hin : s.lifecycle.inCall a = some instr) (hinstr : instr.isDispatcher = true) :
    ∃ s', (callbackSystem parts).Reaches s s' ∧ s'.lifecycle = s.lifecycle ∧
      s'.dispatcher.callers 0 = .idle := by
  by_cases hidle : s.dispatcher.callers 0 = .idle
  · exact ⟨s, .refl, rfl, hidle⟩
  let l := s.lifecycle
  refine h.reaches_of_rank (fun s => s.dispatcher.callAhead)
    (P := fun s => s.lifecycle = l ∧ s.dispatcher.callers 0 ≠ .idle)
    (Q := fun s => s.lifecycle = l ∧ s.dispatcher.callers 0 = .idle) ?_ ⟨rfl, hidle⟩
  rintro s₁ hr ⟨hsame, hbusy⟩
  have hin₁ : s₁.lifecycle.inCall a = some instr := by
    rw [hsame]
    exact hin
  obtain ⟨instr', hcaller, hcurrent⟩ := (control_use hr.of_restrict).position.resolve_left hbusy
  have hcurrent' := (lifecycle_invariant hr.of_restrict).locking.current_inCall hin₁
  obtain rfl : instr' = instr := Option.some.inj (hcurrent.symm.trans hcurrent')
  have hinside : InDispatcher parts s₁ a instr' := ⟨hr, hin₁, hinstr, hcaller⟩
  obtain ⟨e, s', hstep, hlife, hlt⟩ := hinside.progress
  refine ⟨s', .single hstep, ?_⟩
  by_cases hidle' : s'.dispatcher.callers 0 = .idle
  · exact .inl ⟨hlife.trans hsame, hidle'⟩
  · exact .inr ⟨⟨hlife.trans hsame, hidle'⟩, hlt⟩

end Runtime

end MiniGateway
