/-
  What one step of the runtime can do, said once.

  `Runtime.Effect parts s e s'` has one constructor for each way a step can touch the components;
  invariants of the runtime are proved by cases on it (`step_effect`).  A step of one component
  appears as that component's own step, whose effects its own module lists.
-/
import MiniGateway.Runtime.Step

namespace MiniGateway.Runtime

variable {parts : RuntimeParts} {s s' : Runtime}

/-- The step that the beginning of a call makes in the dispatcher. -/
inductive Began (d : Dispatcher) : Instr → Dispatcher → Prop
  | startDispatcher {d' : Dispatcher} (hd : d.step true (.caller 0 (.call .start)) = some d') :
      Began d .startDispatcher d'
  | requestStopDispatcher {d' : Dispatcher}
      (hd : d.step true (.caller 0 (.call .requestStop)) = some d') :
      Began d .requestStopDispatcher d'
  | joinDispatcher {d' : Dispatcher} (hd : d.step true (.caller 0 (.call .join)) = some d') :
      Began d .joinDispatcher d'
  | other {instr : Instr} (h : instr.isDispatcher = false) : Began d instr d

/-- The end of a call that leaves the components as they are. -/
inductive Plain (s : Runtime) (ok : Bool) : Instr → Prop
  | startPlugin (plugin : Plugin) : Plain s ok (.startPlugin plugin)
  | startDispatcher (hidle : s.dispatcher.callers 0 = .idle) (hok : ok = s.dispatcher.started) :
      Plain s ok .startDispatcher
  | launchProcessing (hok : ok = false) : Plain s ok .launchProcessing
  | openControls : Plain s ok .openControls
  | requestStopSource (index : ℕ) : Plain s ok (.requestStopSource index)
  | requestStopScheduler (hnone : s.scheduler = none) : Plain s ok .requestStopScheduler
  | joinScheduler (hnone : s.scheduler = none) : Plain s ok .joinScheduler
  | requestStopDispatcher (hidle : s.dispatcher.callers 0 = .idle) :
      Plain s ok .requestStopDispatcher
  | joinDispatcher (hidle : s.dispatcher.callers 0 = .idle) : Plain s ok .joinDispatcher
  | stopPlugin (plugin : Plugin) : Plain s ok (.stopPlugin plugin)

/-- The end of a call that makes a step in the data path. -/
inductive OnData (ok : Bool) : Instr → DataEvent → Prop
  | launchProcessing (hok : ok = true) : OnData ok .launchProcessing .launch
  | closeRawQueue : OnData ok .closeRawQueue .close
  | joinProcessing : OnData ok .joinProcessing .join

/-- The end of a call that makes a step in the engine. -/
inductive OnScheduler : Instr → SchedulerEvent → Prop
  | requestStopScheduler : OnScheduler .requestStopScheduler .requestStop
  | joinScheduler : OnScheduler .joinScheduler .join

/-- A step of the control worker, with what it does to the gates. -/
inductive ControlEffect (parts : RuntimeParts) (s : Runtime) : WorkerEvent → Runtime → Prop
  | lock {op : ControlOperation} {es : TimePoint} {stage : Stage} {gate : ℕ} {d : Dispatcher}
      (hw : s.dispatcher.worker = .executing op es stage)
      (hgate : findIoGate parts.drivers op.request.deviceId = some gate)
      (hfree : s.gates gate = none) (hd : s.dispatcher.step true (.worker (.lockGate true)) = some d) :
      ControlEffect parts s (.lockGate true) { s with
        dispatcher := d
        gates := Function.update s.gates gate (some .control) }
  | unlock {op : ControlOperation} {es : TimePoint} {result : DeviceControlResult} {gate : ℕ}
      {d : Dispatcher} (hw : s.dispatcher.worker = .executing op es (.unlock true result))
      (hgate : findIoGate parts.drivers op.request.deviceId = some gate)
      (hd : s.dispatcher.step true (.worker .unlock) = some d) :
      ControlEffect parts s .unlock { s with
        dispatcher := d
        gates := Function.update s.gates gate none }
  | plain {e : WorkerEvent} {d : Dispatcher} (hlock : e ≠ .lockGate true)
      (hunlock : ∀ op es result, s.dispatcher.worker = .executing op es (.unlock true result) →
        e ≠ .unlock)
      (hdriver : ∀ op es stage found, s.dispatcher.worker = .executing op es stage →
        e = .resolve found → found = (findDriverPtr parts.drivers op.request.deviceId).isSome)
      (hgate : ∀ op es stage found, s.dispatcher.worker = .executing op es stage →
        e = .gate found → found = (findIoGate parts.drivers op.request.deviceId).isSome)
      (hd : s.dispatcher.step true (.worker e) = some d) :
      ControlEffect parts s e { s with dispatcher := d }

/-- A step of `poll_group`. -/
inductive PollEffect (parts : RuntimeParts) (s : Runtime) : PollEvent → Runtime → Prop
  | resolve {groupId : ByteString} {now : TimePoint} {pc : PollPc} (hpc : s.poll = .entered groupId)
      (hresolve : resolvePoll parts groupId now = .ok pc) :
      PollEffect parts s (.resolve now) { s with poll := pc }
  | unresolved {groupId : ByteString} {now : TimePoint} (hpc : s.poll = .entered groupId) :
      PollEffect parts s (.resolve now) { s with poll := .failing }
  | lock {group : CollectionGroup} {driver gate : ℕ} {deadline : TimePoint}
      (hpc : s.poll = .locking group driver gate deadline) (hfree : s.gates gate = none) :
      PollEffect parts s (.lock true) { s with
        poll := .polling group driver gate deadline
        gates := Function.update s.gates gate (some .poll) }
  | timeout {group : CollectionGroup} {driver gate : ℕ} {deadline : TimePoint}
      {acquisition : AcquisitionStats} (hpc : s.poll = .locking group driver gate deadline) :
      PollEffect parts s (.lock false) { s with
        poll := .done false
        acquisition := acquisition }
  | driverReturn {group : CollectionGroup} {driver gate : ℕ} {deadline now : TimePoint}
      {batch : RawBatch} {acquisition : AcquisitionStats}
      (hpc : s.poll = .polling group driver gate deadline) :
      PollEffect parts s (.driverReturn batch now) { s with
        poll := .pushing gate batch
        acquisition := acquisition }
  | driverThrow {group : CollectionGroup} {driver gate : ℕ} {deadline : TimePoint}
      (hpc : s.poll = .polling group driver gate deadline) :
      PollEffect parts s .driverThrow { s with poll := .unwinding gate }
  | push {gate : ℕ} {batch : RawBatch} {acquisition : AcquisitionStats}
      (hpc : s.poll = .pushing gate batch) :
      PollEffect parts s .push { s with
        poll := .leaving gate
        data := (s.data.push batch).2
        acquisition := acquisition }
  | leave {gate : ℕ} {acquisition : AcquisitionStats} (hpc : s.poll = .leaving gate) :
      PollEffect parts s .leave { s with
        poll := .done false
        gates := Function.update s.gates gate none
        acquisition := acquisition }
  | unwind {gate : ℕ} (hpc : s.poll = .unwinding gate) :
      PollEffect parts s .unwind { s with
        poll := .failing
        gates := Function.update s.gates gate none }
  | fail {acquisition : AcquisitionStats} (hpc : s.poll = .failing) :
      PollEffect parts s .fail { s with
        poll := .done true
        acquisition := acquisition }

/-- A step of the scheduler worker outside `poll_group`. -/
inductive ScheduleEffect (s : Runtime) : SchedulerEvent → Runtime → Prop
  | select {engine engine' : SchedulerEngine} {now startedAt : ℤ} (hengine : s.scheduler = some engine)
      (hstep : engine.step (.select now startedAt) = some engine') :
      ScheduleEffect s (.select now startedAt) { s with
        scheduler := some engine'
        poll := match engine'.polledGroup with
          | some groupId => .entered groupId
          | none => s.poll }
  | pollReturn {engine engine' : SchedulerEngine} {failed : Bool} {finishedAt : ℤ}
      (hengine : s.scheduler = some engine) (hpc : s.poll = .done failed)
      (hstep : engine.step (.pollReturn failed finishedAt) = some engine') :
      ScheduleEffect s (.pollReturn failed finishedAt) { s with
        scheduler := some engine'
        poll := .idle }
  | other {engine engine' : SchedulerEngine} {e : SchedulerEvent}
      (hengine : s.scheduler = some engine)
      (he : (∃ now, e = .wake now) ∨ e = .complete ∨ e = .exit)
      (hstep : engine.step e = some engine') :
      ScheduleEffect s e { s with scheduler := some engine' }

/-- The effect of one step. -/
inductive Effect (parts : RuntimeParts) (s : Runtime) : RuntimeEvent → Runtime → Prop
  | quiet {e : LifecycleEvent} {l : Lifecycle} (hl : s.lifecycle.step parts e = some l)
      (hbegin : ∀ a, e ≠ .begin a) (hfinish : ∀ a ok now, e ≠ .finish a ok now) :
      Effect parts s (.lifecycle e) { s with lifecycle := l }
  | begin {a : Actor} {instr : Instr} {l : Lifecycle} {d : Dispatcher}
      (hl : s.lifecycle.step parts (.begin a) = some l)
      (hnext : s.lifecycle.nextCall a = some instr) (hd : Began s.dispatcher instr d) :
      Effect parts s (.lifecycle (.begin a)) { s with lifecycle := l, dispatcher := d }
  | finish {a : Actor} {ok : Bool} {now : TimePoint} {instr : Instr} {l : Lifecycle}
      (hl : s.lifecycle.step parts (.finish a ok now) = some l)
      (hin : s.lifecycle.inCall a = some instr) (hplain : Plain s ok instr) :
      Effect parts s (.lifecycle (.finish a ok now)) { s with lifecycle := l }
  | finishData {a : Actor} {ok : Bool} {now : TimePoint} {instr : Instr} {l : Lifecycle}
      {e : DataEvent} {data : DataPath} (hl : s.lifecycle.step parts (.finish a ok now) = some l)
      (hin : s.lifecycle.inCall a = some instr) (hon : OnData ok instr e)
      (hdata : s.data.step parts.processors.length parts.eventPublishers.length e = some data) :
      Effect parts s (.lifecycle (.finish a ok now)) { s with lifecycle := l, data := data }
  | launchScheduler {a : Actor} {ok : Bool} {now : TimePoint} {l : Lifecycle}
      (hl : s.lifecycle.step parts (.finish a ok now) = some l)
      (hin : s.lifecycle.inCall a = some .launchScheduler) :
      Effect parts s (.lifecycle (.finish a ok now)) { s with
        lifecycle := l
        scheduler := some
          (SchedulerEngine.start { policy := parts.schedulePolicy now, clock := now } ok) }
  | finishScheduler {a : Actor} {ok : Bool} {now : TimePoint} {instr : Instr} {l : Lifecycle}
      {e : SchedulerEvent} {engine engine' : SchedulerEngine}
      (hl : s.lifecycle.step parts (.finish a ok now) = some l)
      (hin : s.lifecycle.inCall a = some instr) (hon : OnScheduler instr e)
      (hengine : s.scheduler = some engine) (hstep : engine.step e = some engine') :
      Effect parts s (.lifecycle (.finish a ok now)) { s with
        lifecycle := l
        scheduler := some engine' }
  | dispatch {a : Actor} {e : CallerEvent} {instr : Instr} {d : Dispatcher}
      (hin : s.lifecycle.inCall a = some instr) (hinstr : instr.isDispatcher = true)
      (hallow : s.allowsDispatch a e = true)
      (hd : s.dispatcher.step true (.caller 0 e) = some d) :
      Effect parts s (.dispatch a e) { s with dispatcher := d }
  | refused {t : ThreadId} {request : DeviceControlRequest} {completion : Option CompletionId} :
      Effect parts s (.submitControl t request completion) s
  | submitControl {t : ThreadId} {request : DeviceControlRequest}
      {completion : Option CompletionId} {d : Dispatcher}
      (hd : s.dispatcher.step true (.caller (t + 1) (.call (.submit request completion))) = some d) :
      Effect parts s (.submitControl t request completion) { s with dispatcher := d }
  | submit {t : ThreadId} {e : CallerEvent} {d : Dispatcher} (hcall : ∀ c, e ≠ .call c)
      (hd : s.dispatcher.step true (.caller (t + 1) e) = some d) :
      Effect parts s (.submit t e) { s with dispatcher := d }
  | control {e : WorkerEvent} {s' : Runtime} (h : ControlEffect parts s e s') :
      Effect parts s (.control e) s'
  | schedule {e : SchedulerEvent} {s' : Runtime} (h : ScheduleEffect s e s') :
      Effect parts s (.schedule e) s'
  | poll {e : PollEvent} {s' : Runtime} (h : PollEffect parts s e s') : Effect parts s (.poll e) s'
  | push {batch : RawBatch} :
      Effect parts s (.push batch) { s with data := (s.data.push batch).2 }
  | process {e : ProcessingEvent} {data : DataPath}
      (hdata : s.data.step parts.processors.length parts.eventPublishers.length (.worker e) =
        some data) : Effect parts s (.process e) { s with data := data }

/-! ### Inversion -/

theorem stepDispatcher_eq {e : DispatcherEvent} (h : s.stepDispatcher e = some s') :
    ∃ d, s.dispatcher.step true e = some d ∧ s' = { s with dispatcher := d } := by
  obtain ⟨d, hd, rfl⟩ := Option.map_eq_some_iff.mp h
  exact ⟨d, hd, rfl⟩

theorem stepData_eq {e : DataEvent} (h : s.stepData parts e = some s') :
    ∃ data, s.data.step parts.processors.length parts.eventPublishers.length e = some data ∧
      s' = { s with data := data } := by
  obtain ⟨data, hdata, rfl⟩ := Option.map_eq_some_iff.mp h
  exact ⟨data, hdata, rfl⟩

theorem stepScheduler_eq {e : SchedulerEvent} (h : s.stepScheduler e = some s') :
    (s.scheduler = none ∧ s' = s) ∨ ∃ engine engine', s.scheduler = some engine ∧
      engine.step e = some engine' ∧ s' = { s with scheduler := some engine' } := by
  unfold stepScheduler at h
  split at h
  · rename_i hnone
    obtain rfl := Option.some.inj h
    exact Or.inl ⟨hnone, rfl⟩
  · rename_i engine hengine
    obtain ⟨engine', hstep, rfl⟩ := Option.map_eq_some_iff.mp h
    exact Or.inr ⟨engine, engine', hengine, hstep, rfl⟩

theorem beginCall_began {instr : Instr} (h : s.beginCall instr = some s') :
    ∃ d, Began s.dispatcher instr d ∧ s' = { s with dispatcher := d } := by
  cases instr with
  | startDispatcher =>
    obtain ⟨d, hd, rfl⟩ := stepDispatcher_eq h
    exact ⟨d, .startDispatcher hd, rfl⟩
  | requestStopDispatcher =>
    obtain ⟨d, hd, rfl⟩ := stepDispatcher_eq h
    exact ⟨d, .requestStopDispatcher hd, rfl⟩
  | joinDispatcher =>
    obtain ⟨d, hd, rfl⟩ := stepDispatcher_eq h
    exact ⟨d, .joinDispatcher hd, rfl⟩
  | _ =>
    obtain rfl := Option.some.inj h
    exact ⟨_, .other rfl, rfl⟩

theorem finishCall_effect {a : Actor} {ok : Bool} {now : TimePoint} {instr : Instr}
    {l : Lifecycle} {s₁ : Runtime} (hl : s.lifecycle.step parts (.finish a ok now) = some l)
    (hin : s.lifecycle.inCall a = some instr) (h : s.finishCall parts ok now instr = some s₁) :
    Effect parts s (.lifecycle (.finish a ok now)) { s₁ with lifecycle := l } := by
  cases instr with
  | startPlugin plugin =>
    obtain rfl := Option.some.inj h
    exact .finish hl hin (.startPlugin plugin)
  | startDispatcher =>
    simp only [finishCall] at h
    split_ifs at h with hg
    obtain rfl := Option.some.inj h
    exact .finish hl hin (.startDispatcher hg.1 hg.2)
  | launchProcessing =>
    simp only [finishCall] at h
    split_ifs at h with hok
    · obtain ⟨data, hdata, rfl⟩ := stepData_eq h
      exact .finishData hl hin (.launchProcessing hok) hdata
    · obtain rfl := Option.some.inj h
      exact .finish hl hin (.launchProcessing (by simpa using hok))
  | openControls =>
    obtain rfl := Option.some.inj h
    exact .finish hl hin .openControls
  | launchScheduler =>
    obtain rfl := Option.some.inj h
    exact .launchScheduler hl hin
  | requestStopSource index =>
    obtain rfl := Option.some.inj h
    exact .finish hl hin (.requestStopSource index)
  | requestStopScheduler =>
    obtain ⟨hnone, rfl⟩ | ⟨engine, engine', hengine, hstep, rfl⟩ := stepScheduler_eq h
    · exact .finish hl hin (.requestStopScheduler hnone)
    · exact .finishScheduler hl hin .requestStopScheduler hengine hstep
  | joinScheduler =>
    obtain ⟨hnone, rfl⟩ | ⟨engine, engine', hengine, hstep, rfl⟩ := stepScheduler_eq h
    · exact .finish hl hin (.joinScheduler hnone)
    · exact .finishScheduler hl hin .joinScheduler hengine hstep
  | requestStopDispatcher =>
    simp only [finishCall] at h
    split_ifs at h with hidle
    obtain rfl := Option.some.inj h
    exact .finish hl hin (.requestStopDispatcher hidle)
  | joinDispatcher =>
    simp only [finishCall] at h
    split_ifs at h with hidle
    obtain rfl := Option.some.inj h
    exact .finish hl hin (.joinDispatcher hidle)
  | stopPlugin plugin =>
    obtain rfl := Option.some.inj h
    exact .finish hl hin (.stopPlugin plugin)
  | closeRawQueue =>
    obtain ⟨data, hdata, rfl⟩ := stepData_eq h
    exact .finishData hl hin .closeRawQueue hdata
  | joinProcessing =>
    obtain ⟨data, hdata, rfl⟩ := stepData_eq h
    exact .finishData hl hin .joinProcessing hdata

theorem stepLifecycle_effect {e : LifecycleEvent} (h : s.stepLifecycle parts e = some s') :
    Effect parts s (.lifecycle e) s' := by
  obtain ⟨l, hl, h⟩ := Option.bind_eq_some_iff.mp h
  obtain ⟨s₁, hcalls, h⟩ := Option.bind_eq_some_iff.mp h
  obtain rfl := Option.some.inj h
  unfold stepCalls at hcalls
  split at hcalls
  · obtain rfl := Option.some.inj hcalls
    exact .quiet hl nofun nofun
  · split_ifs at hcalls
    obtain rfl := Option.some.inj hcalls
    exact .quiet hl nofun nofun
  · split_ifs at hcalls
    obtain rfl := Option.some.inj hcalls
    exact .quiet hl nofun nofun
  · cases hcalls
  · obtain ⟨instr, hnext, hbegin⟩ := Option.bind_eq_some_iff.mp hcalls
    obtain ⟨d, hd, rfl⟩ := beginCall_began hbegin
    exact .begin hl hnext hd
  · obtain ⟨instr, hin, hfinish⟩ := Option.bind_eq_some_iff.mp hcalls
    exact finishCall_effect hl hin hfinish
  · rename_i hbegin hfinish
    obtain rfl := Option.some.inj hcalls
    exact .quiet hl (fun a ha => hbegin a ha) (fun a ok now ha => hfinish a ok now ha)

theorem stepControl_effect {e : WorkerEvent} (h : s.stepControl parts e = some s') :
    ControlEffect parts s e s' := by
  unfold stepControl at h
  split at h
  · rename_i op es stage found hw
    split_ifs at h with hfound
    obtain ⟨d, hd, rfl⟩ := stepDispatcher_eq h
    refine .plain nofun (fun _ _ _ _ => nofun) (fun op' es' stage' found' hw' he => ?_)
      (fun _ _ _ _ _ => nofun) hd
    rw [hw] at hw'
    cases hw'
    cases he
    exact hfound
  · rename_i op es stage found hw
    split_ifs at h with hfound
    obtain ⟨d, hd, rfl⟩ := stepDispatcher_eq h
    refine .plain nofun (fun _ _ _ _ => nofun) (fun _ _ _ _ _ => nofun)
      (fun op' es' stage' found' hw' he => ?_) hd
    rw [hw] at hw'
    cases hw'
    cases he
    exact hfound
  · rename_i op es stage hw
    split at h
    · rename_i gate hgate
      split_ifs at h with hfree
      obtain ⟨s₁, hs₁, rfl⟩ := Option.map_eq_some_iff.mp h
      obtain ⟨d, hd, rfl⟩ := stepDispatcher_eq hs₁
      exact .lock hw hgate hfree hd
    · cases h
  · split_ifs at h with hdeadline
    obtain ⟨d, hd, rfl⟩ := stepDispatcher_eq h
    exact .plain (by simp) (fun _ _ _ _ => nofun) (fun _ _ _ _ _ => nofun)
      (fun _ _ _ _ _ => nofun) hd
  · rename_i op es result hw
    split at h
    · rename_i gate hgate
      obtain ⟨s₁, hs₁, rfl⟩ := Option.map_eq_some_iff.mp h
      obtain ⟨d, hd, rfl⟩ := stepDispatcher_eq hs₁
      exact .unlock hw hgate hd
    · cases h
  · split_ifs at h with hidle
    obtain ⟨d, hd, rfl⟩ := stepDispatcher_eq h
    exact .plain nofun (fun _ _ _ _ => nofun) (fun _ _ _ _ _ => nofun)
      (fun _ _ _ _ _ => nofun) hd
  · rename_i _ hresolve hgate hlock _ hunlock
    obtain ⟨d, hd, rfl⟩ := stepDispatcher_eq h
    refine .plain ?_ (fun op es result hw he => hunlock op es result hw he)
      (fun op es stage found hw he => (hresolve op es stage found hw he).elim)
      (fun op es stage found hw he => (hgate op es stage found hw he).elim) hd
    -- a worker outside `execute` does not take gates
    rintro rfl
    cases hw : s.dispatcher.worker with
    | executing op es stage => exact hlock op es stage hw rfl
    | _ => simp [Dispatcher.step, Dispatcher.stepWorker, hw] at hd

theorem stepPoll_effect {e : PollEvent} (h : s.stepPoll parts e = some s') :
    PollEffect parts s e s' := by
  unfold stepPoll at h
  split at h
  · rename_i groupId now hpc
    obtain rfl := Option.some.inj h
    split
    · rename_i pc hresolve
      exact .resolve hpc hresolve
    · exact .unresolved hpc
  · rename_i hpc
    split_ifs at h with hfree
    obtain rfl := Option.some.inj h
    exact .lock hpc hfree
  · rename_i hpc
    obtain rfl := Option.some.inj h
    exact .timeout hpc
  · rename_i hpc
    obtain rfl := Option.some.inj h
    exact .driverReturn hpc
  · rename_i hpc
    obtain rfl := Option.some.inj h
    exact .driverThrow hpc
  · rename_i hpc
    obtain rfl := Option.some.inj h
    exact .push hpc
  · rename_i hpc
    obtain rfl := Option.some.inj h
    exact .leave hpc
  · rename_i hpc
    obtain rfl := Option.some.inj h
    exact .unwind hpc
  · rename_i hpc
    obtain rfl := Option.some.inj h
    exact .fail hpc
  · cases h

theorem stepSchedule_effect {e : SchedulerEvent} (h : s.stepSchedule e = some s') :
    ScheduleEffect s e s' := by
  unfold stepSchedule at h
  split at h
  · rename_i engine now startedAt hengine
    obtain ⟨engine', hstep, rfl⟩ := Option.map_eq_some_iff.mp h
    exact .select hengine hstep
  · rename_i engine failed finishedAt hengine
    split at h
    · rename_i failed' hpc
      split_ifs at h with hfailed
      subst hfailed
      obtain ⟨engine', hstep, rfl⟩ := Option.map_eq_some_iff.mp h
      exact .pollReturn hengine hpc hstep
    · cases h
  · rename_i engine now hengine
    obtain ⟨hnone, -⟩ | ⟨engine₁, engine', hengine', hstep, rfl⟩ := stepScheduler_eq h
    · rw [hnone] at hengine
      cases hengine
    · exact .other hengine' (Or.inl ⟨now, rfl⟩) hstep
  · rename_i engine hengine
    obtain ⟨hnone, -⟩ | ⟨engine₁, engine', hengine', hstep, rfl⟩ := stepScheduler_eq h
    · rw [hnone] at hengine
      cases hengine
    · exact .other hengine' (Or.inr (Or.inl rfl)) hstep
  · rename_i engine hengine
    obtain ⟨hnone, -⟩ | ⟨engine₁, engine', hengine', hstep, rfl⟩ := stepScheduler_eq h
    · rw [hnone] at hengine
      cases hengine
    · exact .other hengine' (Or.inr (Or.inr rfl)) hstep
  · cases h

/-- **Inversion of `step`.** -/
theorem step_effect {e : RuntimeEvent} (h : s.step parts e = some s') : Effect parts s e s' := by
  cases e with
  | lifecycle e => exact stepLifecycle_effect h
  | dispatch a e =>
    simp only [step] at h
    split_ifs at h with hg
    obtain ⟨d, hd, rfl⟩ := stepDispatcher_eq h
    obtain ⟨instr, hin, hinstr⟩ := (Option.any_eq_true _ _).mp hg.1
    exact .dispatch hin hinstr hg.2 hd
  | submitControl t request completion =>
    simp only [step] at h
    split_ifs at h with haccepting
    · obtain ⟨d, hd, rfl⟩ := stepDispatcher_eq h
      exact .submitControl hd
    · obtain rfl := Option.some.inj h
      exact .refused
  | submit t e =>
    simp only [step] at h
    split_ifs at h with hallow
    obtain ⟨d, hd, rfl⟩ := stepDispatcher_eq h
    refine .submit ?_ hd
    rintro c rfl
    cases hallow
  | control e => exact .control (stepControl_effect h)
  | schedule e => exact .schedule (stepSchedule_effect h)
  | poll e => exact .poll (stepPoll_effect h)
  | push batch =>
    obtain rfl := Option.some.inj h
    exact .push
  | process e =>
    obtain ⟨data, hdata, rfl⟩ := stepData_eq h
    exact .process hdata

end MiniGateway.Runtime
