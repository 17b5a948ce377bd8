/-
  Every call of `start` and `stop` can return.

  A call of a sequence can end once what it waits for has happened (`call_ready`), and
  then the sequence goes on: `start` to its end or to its rollback, a shutdown to its last call
  (`executor_ends`).  With no sequence under way a caller finds the mutex free, so it returns or
  runs a shutdown itself (`caller_returns`), and a completion callback is free to
  return (`callback_returns`).  All of this is about the runs of `callbackSystem`.
-/
import MiniGateway.Runtime.Progress

namespace MiniGateway

/-! ### Sequences -/

/-- How much of a sequence is left: a start can end in a rollback, a rollback in nothing else. -/
def Sequence.ahead : Sequence → ℕ ×ₗ ℕ
  | .starting _ call rest => toLex (2, 2 * rest.length + call.toList.length)
  | .catching _ => toLex (1, 0)
  | .stopping _ call rest => toLex (0, 2 * rest.length + call.toList.length)

namespace Sequence

/-- The end of one kind of sequence, whatever follows it. -/
private theorem phase_lt {phase phase' left left' : ℕ} (h : phase' < phase) :
    (toLex (phase', left') : ℕ ×ₗ ℕ) < toLex (phase, left) :=
  Prod.Lex.toLex_lt_toLex.mpr (.inl h)

private theorem left_lt {phase left left' : ℕ} (h : left' < left) :
    (toLex (phase, left') : ℕ ×ₗ ℕ) < toLex (phase, left) :=
  Prod.Lex.toLex_lt_toLex.mpr (.inr ⟨rfl, h⟩)

theorem starting_begin_lt (locals locals' : StartLocals) (instr : Instr) (rest : List Instr) :
    (starting locals' (some instr) rest).ahead < (starting locals none (instr :: rest)).ahead := by
  apply left_lt
  show 2 * rest.length + 1 < 2 * (rest.length + 1) + 0
  omega

theorem starting_finish_lt (locals locals' : StartLocals) (instr : Instr) (rest : List Instr) :
    (starting locals' none rest).ahead < (starting locals (some instr) rest).ahead :=
  left_lt (Nat.lt_succ_self _)

theorem catching_lt (locals locals' : StartLocals) (call : Option Instr) (rest : List Instr) :
    (catching locals').ahead < (starting locals call rest).ahead :=
  phase_lt Nat.one_lt_two

theorem rollback_lt (rollback : Bool) (locals : StartLocals) (rest : List Instr) :
    (stopping rollback none rest).ahead < (catching locals).ahead :=
  phase_lt Nat.zero_lt_one

theorem stopping_begin_lt (rollback : Bool) (instr : Instr) (rest : List Instr) :
    (stopping rollback (some instr) rest).ahead <
      (stopping rollback none (instr :: rest)).ahead := by
  apply left_lt
  show 2 * rest.length + 1 < 2 * (rest.length + 1) + 0
  omega

theorem stopping_finish_lt (rollback : Bool) (instr : Instr) (rest : List Instr) :
    (stopping rollback none rest).ahead < (stopping rollback (some instr) rest).ahead :=
  left_lt (Nat.lt_succ_self _)

end Sequence

/-- How much of a sequence is left to a caller. -/
def Frame.ahead : Frame → ℕ ×ₗ ℕ
  | .sequence position => position.ahead
  | _ => toLex (0, 0)

/-- The sequence is a shutdown, or is about to become one. -/
def Sequence.isUnwinding : Sequence → Bool
  | .starting _ _ _ => false
  | .catching _ | .stopping _ _ _ => true

namespace Lifecycle

variable {parts : RuntimeParts} {s s' : Lifecycle} {e : LifecycleEvent} {a : Actor}

theorem Locking.unwinding_eq (hi : Locking s) {position : Sequence}
    (hpc : s.frames a = .sequence position) : s.unwinding = position.isUnwinding := by
  unfold unwinding
  rw [hi.current_eq hpc]
  cases position <;> rfl

theorem unwinding_of_resting (h : s.history.executor = none) : s.unwinding = false := by
  unfold unwinding
  rw [Locking.current_eq_none h]

/-- While a sequence is being run, the mutex belongs to whoever runs it, or to nobody. -/
theorem Locking.mutex_eq_none (hi : Locking s)
    (hout : ∀ b, s.history.executor = some b → (s.frames b).holdsMutex = false) :
    s.mutex = none := by
  by_contra hne
  obtain ⟨b, hb⟩ := Option.ne_none_iff_exists'.mp hne
  have hholds := (hi.mutex b).mpr hb
  cases hpc : s.frames b with
  | sequence position =>
    rw [hout b (hi.executor_eq hpc)] at hholds
    cases hholds
  | _ =>
    rw [hpc] at hholds
    cases hholds

/-- The processing worker is launched once. -/
theorem count_launchProcessing (parts : RuntimeParts) :
    (startProgram parts).count .launchProcessing = 1 := by
  have hplugins : ∀ (kind : ℕ → Plugin) (indices : List ℕ),
      (startPlugins kind indices).count .launchProcessing = 0 := fun kind indices =>
    List.count_eq_zero.mpr (by simp [startPlugins])
  simp [startProgram, List.count_append, hplugins]

/-- While the processing worker is being launched, it has not been. -/
theorem Invariant.launchProcessing_not_returned (h : Invariant parts s)
    (hin : s.inCall a = some .launchProcessing) : .launchProcessing ∉ s.calls.returned := by
  intro hmem
  have hmem := (h.mem_startReturned rfl).mp hmem
  rcases inCall_eq hin with ⟨locals, rest, hpc⟩ | ⟨rollback, rest, hpc⟩
  · obtain ⟨-, hprogram, -⟩ := h.phase.during h.locking hpc
    have hcount := count_launchProcessing parts
    rw [hprogram, List.count_append] at hcount
    have hpos := List.count_pos_iff.mpr hmem
    simp at hcount
    omega
  · obtain ⟨-, -, -, hbegun⟩ := h.phase.during h.locking hpc
    have hno : Instr.isStart .launchProcessing = false :=
      h.isStart_stopBegun (by rw [hbegun]; simp)
    cases hno

end Lifecycle

namespace Runtime

variable {parts : RuntimeParts} {s s' : Runtime} {a : Actor} {instr : Instr}

/-! ### Waiting for a worker -/

/-- The scheduler worker leaves `run`, once it has been asked to. -/
theorem scheduler_returns (h : (callbackSystem parts).Reachable s)
    (hcurrent : s.calls.current = some .joinScheduler) :
    ∃ s', (callbackSystem parts).Reaches s s' ∧ s'.lifecycle = s.lifecycle ∧
      ∀ engine, s'.scheduler = some engine → engine.isRunning = false := by
  by_cases hdone : ∀ engine, s.scheduler = some engine → engine.isRunning = false
  · exact ⟨s, .refl, rfl, hdone⟩
  let l := s.lifecycle
  refine h.reaches_of_rank schedulerAhead
    (P := fun s => s.lifecycle = l ∧
      ¬∀ engine, s.scheduler = some engine → engine.isRunning = false)
    (Q := fun s => s.lifecycle = l ∧
      ∀ engine, s.scheduler = some engine → engine.isRunning = false) ?_ ⟨rfl, hdone⟩
  rintro s₁ hr ⟨hsame, hrunning⟩
  have hcurrent₁ : s₁.calls.current = some .joinScheduler := by
    unfold calls
    rw [hsame]
    exact hcurrent
  obtain ⟨engine, hengine, hrunning⟩ : ∃ engine, s₁.scheduler = some engine ∧
      engine.isRunning = true := by
    by_contra hno
    refine hrunning fun engine hengine => ?_
    by_contra hrun
    exact hno ⟨engine, hengine, by simpa using hrun⟩
  have hstopping := (scheduler_use hr.of_restrict).stopping
    (beforeJoinScheduler hr.of_restrict hcurrent₁) engine hengine
  obtain ⟨e, s', hstep, hlife, hlt⟩ :=
    scheduler_progress hr.of_restrict hengine hstopping hrunning
  refine ⟨s', .single (callbackSystem_step_of_eq hr hstep hlife), ?_⟩
  by_cases hdone' : ∀ engine, s'.scheduler = some engine → engine.isRunning = false
  · exact .inl ⟨hlife.trans hsame, hdone'⟩
  · exact .inr ⟨⟨hlife.trans hsame, hdone'⟩, hlt⟩

/-- The processing worker leaves its loop, once its queue is closed. -/
theorem processing_returns (h : (callbackSystem parts).Reachable s)
    (hcurrent : s.calls.current = some .joinProcessing) :
    ∃ s', (callbackSystem parts).Reaches s s' ∧ s'.lifecycle = s.lifecycle ∧
      (s'.data.worker = .absent ∨ s'.data.worker = .exited) := by
  by_cases hdone : s.data.worker = .absent ∨ s.data.worker = .exited
  · exact ⟨s, .refl, rfl, hdone⟩
  let l := s.lifecycle
  refine h.reaches_of_rank
    (fun s => s.data.workerAhead parts.processors.length parts.eventPublishers.length)
    (P := fun s => s.lifecycle = l ∧ ¬(s.data.worker = .absent ∨ s.data.worker = .exited))
    (Q := fun s => s.lifecycle = l ∧ (s.data.worker = .absent ∨ s.data.worker = .exited))
    ?_ ⟨rfl, hdone⟩
  rintro s₁ hr ⟨hsame, hrunning⟩
  have hcurrent₁ : s₁.calls.current = some .joinProcessing := by
    unfold calls
    rw [hsame]
    exact hcurrent
  have hclosed := (data_use hr.of_restrict).closed (beforeJoinProcessing hr.of_restrict hcurrent₁)
  obtain ⟨e, d, hd, hlt⟩ := DataPath.worker_progress parts.processors.length
    parts.eventPublishers.length hclosed
    (fun habsent => hrunning (.inl habsent)) (fun hexited => hrunning (.inr hexited))
  have hstep : s₁.step parts (.process e) = some { s₁ with data := d } := by
    simp [step, stepData, DataPath.step, hd]
  refine ⟨_, .single (callbackSystem_step_of_eq hr hstep rfl), ?_⟩
  by_cases hdone' : d.worker = .absent ∨ d.worker = .exited
  · exact .inl ⟨hsame, hdone'⟩
  · exact .inr ⟨⟨hsame, hdone'⟩, hlt⟩

/-! ### The end of a call -/

/-- A worker that is not running can be joined. -/
theorem join_isSome {policy : FixedIntervalSequentialPolicy} {engine : SchedulerEngine}
    (h : (schedulerSystem policy).Reachable engine) (hrunning : engine.isRunning = false) :
    ∃ engine', engine.step .join = some engine' := by
  simp only [SchedulerEngine.step]
  by_cases hjoinable : engine.joinable = true
  · have hthere := SchedulerEngine.joinable_launched h hjoinable
    have hexited : engine.worker = .exited := by
      unfold SchedulerEngine.isRunning at hrunning
      split at hrunning
      · rename_i hw
        exact absurd hw hthere
      · assumption
      · cases hrunning
    simp [hjoinable, hexited]
  · simp [hjoinable]

/-- What a call waits for happens.  By then only the start of the dispatcher can have failed. -/
theorem call_ready (h : (callbackSystem parts).Reachable s)
    (hin : s.lifecycle.inCall a = some instr) :
    ∃ s' ok s₁, (callbackSystem parts).Reaches s s' ∧ s'.lifecycle = s.lifecycle ∧
      s'.finishCall parts ok 0 instr = some s₁ ∧
      (ok = false → instr = .startDispatcher ∧ s'.dispatcher.started = false ∧
        s'.dispatcher.callers 0 = .idle) := by
  have hl := lifecycle_invariant h.of_restrict
  have hcurrent : s.calls.current = some instr := hl.locking.current_inCall hin
  -- the calls that wait for nothing
  have hnow : ∀ s₁, s.finishCall parts true 0 instr = some s₁ →
      ∃ s' ok s₁, (callbackSystem parts).Reaches s s' ∧ s'.lifecycle = s.lifecycle ∧
        s'.finishCall parts ok 0 instr = some s₁ ∧
        (ok = false → instr = .startDispatcher ∧ s'.dispatcher.started = false ∧
          s'.dispatcher.callers 0 = .idle) :=
    fun s₁ hs₁ => ⟨s, true, s₁, .refl, rfl, hs₁, by simp⟩
  cases instr with
  | startPlugin plugin => exact hnow _ rfl
  | openControls => exact hnow _ rfl
  | launchScheduler => exact hnow _ rfl
  | requestStopSource index => exact hnow _ rfl
  | stopPlugin plugin => exact hnow _ rfl
  | closeRawQueue => exact hnow _ rfl
  | launchProcessing =>
    have habsent : s.data.worker = .absent := by
      by_contra hne
      exact hl.launchProcessing_not_returned hin ((data_use h.of_restrict).launched.mpr hne)
    obtain ⟨data, hdata⟩ : ∃ data, s.data.step parts.processors.length
        parts.eventPublishers.length .launch = some data := by
      simp [DataPath.step, habsent]
    exact hnow { s with data := data } (by simp [finishCall, stepData, hdata])
  | startDispatcher =>
    obtain ⟨s', hreaches, hlife, hidle⟩ := dispatcher_returns h hin rfl
    refine ⟨s', s'.dispatcher.started, s', hreaches, hlife, ?_, fun hok => ⟨rfl, hok, hidle⟩⟩
    simp [finishCall, hidle]
  | requestStopDispatcher =>
    obtain ⟨s', hreaches, hlife, hidle⟩ := dispatcher_returns h hin rfl
    exact ⟨s', true, s', hreaches, hlife, by simp [finishCall, hidle], by simp⟩
  | joinDispatcher =>
    obtain ⟨s', hreaches, hlife, hidle⟩ := dispatcher_returns h hin rfl
    exact ⟨s', true, s', hreaches, hlife, by simp [finishCall, hidle], by simp⟩
  | requestStopScheduler =>
    cases hengine : s.scheduler with
    | none => exact hnow s (by simp [finishCall, stepScheduler, hengine])
    | some engine =>
      refine hnow { s with scheduler := some { engine with stopping := true } } ?_
      simp [finishCall, stepScheduler, hengine, SchedulerEngine.step]
  | joinScheduler =>
    obtain ⟨s', hreaches, hlife, hdone⟩ := scheduler_returns h hcurrent
    cases hengine : s'.scheduler with
    | none =>
      exact ⟨s', true, s', hreaches, hlife, by simp [finishCall, stepScheduler, hengine], by simp⟩
    | some engine =>
      obtain ⟨start, hr⟩ := scheduler_reachable (hreaches.reachable h).of_restrict engine hengine
      obtain ⟨engine', hstep⟩ := join_isSome hr (hdone engine hengine)
      refine ⟨s', true, { s' with scheduler := some engine' }, hreaches, hlife, ?_, by simp⟩
      simp [finishCall, stepScheduler, hengine, hstep]
  | joinProcessing =>
    obtain ⟨s', hreaches, hlife, hdone⟩ := processing_returns h hcurrent
    have hr := (data_projection parts).reachable (hreaches.reachable h).of_restrict
    obtain ⟨data, hdata⟩ : ∃ data, s'.data.step parts.processors.length
        parts.eventPublishers.length .join = some data := by
      by_cases hjoinable : s'.data.joinable = true
      · have hthere := DataPath.joinable_launched hr hjoinable
        simp [DataPath.step, hjoinable, hdone.resolve_left hthere]
      · simp [DataPath.step, hjoinable]
    refine ⟨s', true, { s' with data := data }, hreaches, hlife, ?_, by simp⟩
    simp [finishCall, stepData, hdata]

/-! ### Steps of the caller that runs a sequence -/

theorem step_begin {l : Lifecycle} {s₁ : Runtime}
    (hl : s.lifecycle.step parts (.begin a) = some l) (hnext : s.lifecycle.nextCall a = some instr)
    (hbegin : s.beginCall instr = some s₁) :
    s.step parts (.lifecycle (.begin a)) = some { s₁ with lifecycle := l } := by
  simp [step, stepLifecycle, stepCalls, hl, hnext, hbegin]

theorem step_finish {l : Lifecycle} {s₁ : Runtime} {ok : Bool} {now : TimePoint}
    (hl : s.lifecycle.step parts (.finish a ok now) = some l)
    (hin : s.lifecycle.inCall a = some instr)
    (hfinish : s.finishCall parts ok now instr = some s₁) :
    s.step parts (.lifecycle (.finish a ok now)) = some { s₁ with lifecycle := l } := by
  simp [step, stepLifecycle, stepCalls, hl, hin, hfinish]

/-- A call can begin while none is in progress. -/
theorem beginCall_isSome (h : (runtimeSystem parts).Reachable s)
    (hcurrent : s.calls.current = none) (instr : Instr) : ∃ s₁, s.beginCall instr = some s₁ := by
  have hidle : s.dispatcher.callers 0 = .idle := (control_use h).idle (by simp [hcurrent])
  have hcall : ∀ c, ∃ s₁, s.stepDispatcher (.caller 0 (.call c)) = some s₁ := by
    intro c
    simp [stepDispatcher, Dispatcher.step, Dispatcher.stepCaller, hidle]
  cases instr with
  | startDispatcher => exact hcall .start
  | requestStopDispatcher => exact hcall .requestStop
  | joinDispatcher => exact hcall .join
  | _ => exact ⟨s, rfl⟩

/-- The caller that runs a shutdown keeps the callbacks outside. -/
theorem callbackSystem_step_of_executing (h : (callbackSystem parts).Reachable s)
    {e : LifecycleEvent} (hstep : s.step parts (.lifecycle e) = some s')
    (hl : s.lifecycle.step parts e = some s'.lifecycle)
    (hexecuting : (s.lifecycle.frames e.actor).isExecuting = true)
    (hafter : s'.lifecycle.unwinding = true → s.lifecycle.unwinding = true ∧
      (s'.lifecycle.frames e.actor).isExecuting = true) :
    (callbackSystem parts).step s (.lifecycle e) = some s' := by
  refine callbackSystem_step.mpr ⟨hstep, fun hunwinding' => ?_⟩
  obtain ⟨hunwinding, hexecuting'⟩ := hafter hunwinding'
  obtain ⟨hcancelled, hexecuted⟩ := callbacks_idle h hunwinding
  have heffect := Lifecycle.step_effect hl
  unfold Lifecycle.callbacksOutside
  simp only [Bool.and_eq_true, Bool.or_eq_true, decide_eq_true_eq]
  constructor
  · have hne : Actor.cancelled ≠ e.actor := by
      intro heq
      rw [← heq, hcancelled] at hexecuting
      cases hexecuting
    rw [heffect.frames_of_ne hne]
    exact hcancelled
  · by_cases heq : Actor.executed = e.actor
    · right
      rw [heq]
      exact hexecuting'
    · left
      rw [heffect.frames_of_ne heq]
      refine hexecuted ?_
      rw [Bool.eq_false_iff]
      intro hin
      have hlocking := (lifecycle_invariant h.of_restrict).locking
      exact heq (hlocking.executor.unique hin hexecuting)

/-! ### The end of a sequence -/

/-- The sequence of `a` is over. -/
def Ended (a : Actor) (s : Runtime) : Prop :=
  s.lifecycle.frames a = .idle ∧ s.lifecycle.history.executor = none

/-- The sequence of `a` is over, or there is less of it left than before. -/
def Nearer (a : Actor) (s s' : Runtime) : Prop :=
  Ended a s' ∨ (s'.lifecycle.frames a).isExecuting = true ∧
    (s'.lifecycle.frames a).ahead < (s.lifecycle.frames a).ahead

theorem nearer_of_sequence {position position' : Sequence}
    (hpc : s.lifecycle.frames a = .sequence position)
    (hframe : s'.lifecycle.frames a = .sequence position')
    (hlt : position'.ahead < position.ahead) : Nearer a s s' := by
  right
  rw [hframe, hpc]
  exact ⟨rfl, hlt⟩

/-- The steps in between may have left the lifecycle alone. -/
theorem Nearer.of_lifecycle_eq {s₁ : Runtime} (hlife : s₁.lifecycle = s.lifecycle)
    (h : Nearer a s₁ s') : Nearer a s s' := by
  unfold Nearer at h ⊢
  rwa [hlife] at h

theorem locking_of_step (h : (runtimeSystem parts).Reachable s) {e : RuntimeEvent}
    (hstep : s.step parts e = some s') : Lifecycle.Locking s'.lifecycle :=
  (lifecycle_invariant (TransitionSystem.Reachable.step (l := e) h hstep)).locking

/-- A step of `start` that does not throw. -/
theorem nearer_of_start (h : (callbackSystem parts).Reachable s) {e : LifecycleEvent}
    (hactor : e.actor = a) (hexecuting : (s.lifecycle.frames a).isExecuting = true)
    (hl : s.lifecycle.step parts e = some s'.lifecycle)
    (hstep : s.step parts (.lifecycle e) = some s') (hstart : s'.lifecycle.unwinding = false)
    (hnearer : Nearer a s s') :
    ∃ s', (callbackSystem parts).Reaches s s' ∧ Nearer a s s' := by
  subst hactor
  refine ⟨s', .single (callbackSystem_step_of_executing h hstep hl hexecuting ?_), hnearer⟩
  rw [hstart]
  simp

/-- A step of a shutdown. -/
theorem nearer_of_stop (h : (callbackSystem parts).Reachable s) {e : LifecycleEvent}
    (hactor : e.actor = a) (hexecuting : (s.lifecycle.frames a).isExecuting = true)
    (hl : s.lifecycle.step parts e = some s'.lifecycle)
    (hstep : s.step parts (.lifecycle e) = some s') (hunwinding : s.lifecycle.unwinding = true)
    (hnearer : Nearer a s s') :
    ∃ s', (callbackSystem parts).Reaches s s' ∧ Nearer a s s' := by
  subst hactor
  refine ⟨s', .single (callbackSystem_step_of_executing h hstep hl hexecuting ?_), hnearer⟩
  intro hunwinding'
  refine ⟨hunwinding, ?_⟩
  rcases hnearer with ⟨-, hnone⟩ | ⟨hexecuting', -⟩
  · rw [Lifecycle.unwinding_of_resting hnone] at hunwinding'
    cases hunwinding'
  · exact hexecuting'

/-- `start` goes on, to its end or to its rollback. -/
theorem start_progress (h : (callbackSystem parts).Reachable s) {locals : StartLocals}
    {call : Option Instr} {rest : List Instr}
    (hpc : s.lifecycle.frames a = .sequence (.starting locals call rest)) :
    ∃ s', (callbackSystem parts).Reaches s s' ∧ Nearer a s s' := by
  have hr := h.of_restrict
  have hlocking := (lifecycle_invariant hr).locking
  have hexecuting : (s.lifecycle.frames a).isExecuting = true := by
    rw [hpc]
    rfl
  cases call with
  | none =>
    have hcurrent : s.calls.current = none := by
      simp [calls, Lifecycle.calls, hlocking.current_eq hpc, Sequence.call?]
    cases rest with
    | nil =>
      -- `start` returns
      let l : Lifecycle := { s.lifecycle.leave a .startReturned with
        mutex := none
        history := { s.lifecycle.history with executor := none } }
      have hl : s.lifecycle.step parts (.complete a) = some l := by
        simp [Lifecycle.step, hpc, Frame.sequence?, Lifecycle.completeStep, l]
      have hstep : s.step parts (.lifecycle (.complete a)) = some { s with lifecycle := l } := by
        simp [step, stepLifecycle, stepCalls, hl]
      refine nearer_of_start h rfl hexecuting hl hstep (Lifecycle.unwinding_of_resting rfl) ?_
      exact .inl ⟨Function.update_self .., rfl⟩
    | cons instr rest =>
      -- a call begins
      obtain ⟨s₁, hbegin⟩ := beginCall_isSome hr hcurrent instr
      have hnext : s.lifecycle.nextCall a = some instr := by simp [Lifecycle.nextCall, hpc]
      let l : Lifecycle := { s.lifecycle.goto a
          (.sequence (.starting (locals.beforeCall instr) (some instr) rest)) with
        history := { s.lifecycle.history with
          startBegun := s.lifecycle.history.startBegun ++ [instr] } }
      have hl : s.lifecycle.step parts (.begin a) = some l := by
        simp [Lifecycle.step, hpc, Frame.sequence?, Lifecycle.beginStep, l]
      have hstep := step_begin hl hnext hbegin
      have hframe : l.frames a =
          .sequence (.starting (locals.beforeCall instr) (some instr) rest) :=
        Function.update_self ..
      have hlocking' := locking_of_step hr hstep
      refine nearer_of_start h rfl hexecuting hl hstep (hlocking'.unwinding_eq hframe) ?_
      exact nearer_of_sequence hpc hframe (Sequence.starting_begin_lt ..)
  | some instr =>
    have hin : s.lifecycle.inCall a = some instr := by simp [Lifecycle.inCall, hpc]
    obtain ⟨s₁, ok, s₂, hreaches, hlife, hfinish, hthrow⟩ := call_ready h hin
    have h₁ := hreaches.reachable h
    have hr₁ := h₁.of_restrict
    rw [← hlife] at hpc hin hexecuting
    cases ok with
    | true =>
      -- the call returns
      let l : Lifecycle := { s₁.lifecycle.goto a
          (.sequence (.starting (locals.afterCall instr) none rest)) with
        accepting := s₁.lifecycle.accepting || instr = .openControls
        history := { s₁.lifecycle.history with
          startReturned := s₁.lifecycle.history.startReturned ++ [instr] } }
      have hl : s₁.lifecycle.step parts (.finish a true 0) = some l := by
        simp [Lifecycle.step, hpc, Frame.sequence?, Lifecycle.finishStep, l]
      have hstep := step_finish hl hin hfinish
      have hframe : l.frames a = .sequence (.starting (locals.afterCall instr) none rest) :=
        Function.update_self ..
      have hlocking' := locking_of_step hr₁ hstep
      have hlt : Nearer a s₁ { s₂ with lifecycle := l } :=
        nearer_of_sequence hpc hframe (Sequence.starting_finish_lt ..)
      obtain ⟨s', hreaches', hnearer⟩ := nearer_of_start (e := .finish a true 0) h₁ rfl hexecuting
        hl hstep (hlocking'.unwinding_eq hframe) hlt
      exact ⟨s', hreaches.trans hreaches', hnearer.of_lifecycle_eq hlife⟩
    | false =>
      -- the dispatcher has not been started, so that no callback can be in `stop`
      obtain ⟨rfl, hstarted, hidle⟩ := hthrow rfl
      let l : Lifecycle := s₁.lifecycle.goto a (.sequence (.catching locals))
      have hl : s₁.lifecycle.step parts (.finish a false 0) = some l := by
        simp [Lifecycle.step, hpc, Frame.sequence?, Lifecycle.finishStep, l, Instr.mayThrow]
      have hstep := step_finish hl hin hfinish
      have huse := callback_use hr₁
      have hexecuted : s₁.lifecycle.frames .executed = .idle := by
        by_contra hne
        have hcallback := huse.executed hne
        rw [(dispatcher_invariant hr₁).stopping.absent.mpr hstarted] at hcallback
        cases hcallback
      have hcancelled : s₁.lifecycle.frames .cancelled = .idle := by
        by_contra hne
        have hcallback := huse.cancelled hne
        rw [hidle] at hcallback
        cases hcallback
      have hother : ∀ b, s₁.lifecycle.frames b = .idle → l.frames b = .idle := by
        intro b hb
        have hne : b ≠ a := by
          rintro rfl
          rw [hb] at hpc
          cases hpc
        show Function.update s₁.lifecycle.frames a _ b = .idle
        rw [Function.update_of_ne hne, hb]
      have hstep' : (callbackSystem parts).step s₁ (.lifecycle (.finish a false 0)) =
          some { s₂ with lifecycle := l } := by
        refine callbackSystem_step.mpr ⟨hstep, fun _ => ?_⟩
        simp [Lifecycle.callbacksOutside, hother _ hexecuted, hother _ hcancelled]
      have hlt : Nearer a s₁ { s₂ with lifecycle := l } :=
        nearer_of_sequence hpc (Function.update_self ..) (Sequence.catching_lt ..)
      exact ⟨_, hreaches.step hstep', hlt.of_lifecycle_eq hlife⟩

/-- A shutdown goes on, to its end. -/
theorem stop_progress (h : (callbackSystem parts).Reachable s) {rollback : Bool}
    {call : Option Instr} {rest : List Instr}
    (hpc : s.lifecycle.frames a = .sequence (.stopping rollback call rest)) :
    ∃ s', (callbackSystem parts).Reaches s s' ∧ Nearer a s s' := by
  have hr := h.of_restrict
  have hlocking := (lifecycle_invariant hr).locking
  have hunwinding : s.lifecycle.unwinding = true := hlocking.unwinding_eq hpc
  have hexecuting : (s.lifecycle.frames a).isExecuting = true := by
    rw [hpc]
    rfl
  cases call with
  | none =>
    have hcurrent : s.calls.current = none := by
      simp [calls, Lifecycle.calls, hlocking.current_eq hpc, Sequence.call?]
    cases rest with
    | nil =>
      -- the shutdown ends
      have hm : s.lifecycle.mutex = none := by
        refine hlocking.mutex_eq_none fun b hb => ?_
        obtain rfl : a = b := Option.some.inj ((hlocking.executor_eq hpc).symm.trans hb)
        rw [hpc]
        rfl
      let l : Lifecycle := { s.lifecycle.leave a (if rollback then .startThrew else .stopExecuted)
        with
        stopping := false
        stopped := true
        history := { s.lifecycle.history with executor := none } }
      have hl : s.lifecycle.step parts (.complete a) = some l := by
        simp [Lifecycle.step, hpc, Frame.sequence?, Lifecycle.completeStep, hm, l]
      have hstep : s.step parts (.lifecycle (.complete a)) = some { s with lifecycle := l } := by
        simp [step, stepLifecycle, stepCalls, hl]
      refine nearer_of_stop h rfl hexecuting hl hstep hunwinding ?_
      exact .inl ⟨Function.update_self .., rfl⟩
    | cons instr rest =>
      obtain ⟨s₁, hbegin⟩ := beginCall_isSome hr hcurrent instr
      have hnext : s.lifecycle.nextCall a = some instr := by simp [Lifecycle.nextCall, hpc]
      let l : Lifecycle := { s.lifecycle.goto a
          (.sequence (.stopping rollback (some instr) rest)) with
        history := { s.lifecycle.history with
          stopBegun := s.lifecycle.history.stopBegun ++ [instr] } }
      have hl : s.lifecycle.step parts (.begin a) = some l := by
        simp [Lifecycle.step, hpc, Frame.sequence?, Lifecycle.beginStep, l]
      have hstep := step_begin hl hnext hbegin
      refine nearer_of_stop h rfl hexecuting hl hstep hunwinding ?_
      exact nearer_of_sequence hpc (Function.update_self ..) (Sequence.stopping_begin_lt ..)
  | some instr =>
    have hin : s.lifecycle.inCall a = some instr := by simp [Lifecycle.inCall, hpc]
    have hstop : instr.isStart = false := by
      obtain ⟨-, -, -, hbegun⟩ := (lifecycle_invariant hr).phase.during hlocking hpc
      exact (lifecycle_invariant hr).isStart_stopBegun (by rw [hbegun]; simp)
    obtain ⟨s₁, ok, s₂, hreaches, hlife, hfinish, hthrow⟩ := call_ready h hin
    have hok : ok = true := by
      by_contra hno
      obtain ⟨rfl, -⟩ := hthrow (by simpa using hno)
      cases hstop
    subst hok
    have h₁ := hreaches.reachable h
    rw [← hlife] at hpc hin hexecuting hunwinding
    let l : Lifecycle := { s₁.lifecycle.goto a (.sequence (.stopping rollback none rest)) with
      history := { s₁.lifecycle.history with
        stopReturned := s₁.lifecycle.history.stopReturned ++ [instr] } }
    have hl : s₁.lifecycle.step parts (.finish a true 0) = some l := by
      simp [Lifecycle.step, hpc, Frame.sequence?, Lifecycle.finishStep, l]
    have hstep := step_finish hl hin hfinish
    have hlt : Nearer a s₁ { s₂ with lifecycle := l } :=
      nearer_of_sequence hpc (Function.update_self ..) (Sequence.stopping_finish_lt ..)
    obtain ⟨s', hreaches', hnearer⟩ := nearer_of_stop (e := .finish a true 0) h₁ rfl hexecuting
      hl hstep hunwinding hlt
    exact ⟨s', hreaches.trans hreaches', hnearer.of_lifecycle_eq hlife⟩

/-- A `start` that has failed goes on with its rollback. -/
theorem catch_progress (h : (callbackSystem parts).Reachable s) {locals : StartLocals}
    (hpc : s.lifecycle.frames a = .sequence (.catching locals)) :
    ∃ s', (callbackSystem parts).Reaches s s' ∧ Nearer a s s' := by
  have hunwinding : s.lifecycle.unwinding = true :=
    (lifecycle_invariant h.of_restrict).locking.unwinding_eq hpc
  have hexecuting : (s.lifecycle.frames a).isExecuting = true := by
    rw [hpc]
    rfl
  let l := s.lifecycle.enterShutdown a true (rollbackProgram locals)
  have hl : s.lifecycle.step parts (.rollback a) = some l := by
    simp [Lifecycle.step, hpc, l]
  have hstep : s.step parts (.lifecycle (.rollback a)) = some { s with lifecycle := l } := by
    simp [step, stepLifecycle, stepCalls, hl]
  refine nearer_of_stop h rfl hexecuting hl hstep hunwinding ?_
  exact nearer_of_sequence hpc (Function.update_self ..) (Sequence.rollback_lt ..)

/-- **Every sequence can end.** -/
theorem executor_ends (h : (callbackSystem parts).Reachable s)
    (hexecuting : (s.lifecycle.frames a).isExecuting = true) :
    ∃ s', (callbackSystem parts).Reaches s s' ∧ Ended a s' := by
  refine h.reaches_of_rank (fun s => (s.lifecycle.frames a).ahead)
    (P := fun s => (s.lifecycle.frames a).isExecuting = true) ?_ hexecuting
  intro s hr hin
  cases hpc : s.lifecycle.frames a with
  | sequence position =>
    rw [← hpc]
    cases position with
    | starting locals call rest => exact start_progress hr hpc
    | catching locals => exact catch_progress hr hpc
    | stopping rollback call rest => exact stop_progress hr hpc
  | _ =>
    rw [hpc] at hin
    cases hin

/-! ### The end of every call -/

/-- What holds while no sequence is under way. -/
theorem resting_idle (h : (runtimeSystem parts).Reachable s)
    (hnone : s.lifecycle.history.executor = none) :
    s.lifecycle.mutex = none ∧ s.lifecycle.stopping = false ∧
      s.lifecycle.frames .cancelled = .idle := by
  have hl := lifecycle_invariant h
  refine ⟨hl.locking.mutex_eq_none (by simp [hnone]), ?_, ?_⟩
  · have hresting := hl.phase.resting hnone
    cases hresting with
    | fresh hflags _ _ _ => exact congrArg (·.2.1) hflags
    | running hflags _ _ _ => exact congrArg (·.2.1) hflags
    | stopped hflags _ _ _ => exact congrArg (·.2.1) hflags
  · -- nobody is in `request_stop`
    by_contra hne
    have hcurrent : s.calls.current = none := by
      simp [calls, Lifecycle.calls, Lifecycle.Locking.current_eq_none hnone]
    have hcallback := (callback_use h).cancelled hne
    rw [(control_use h).idle (by simp [hcurrent])] at hcallback
    cases hcallback

/-- A step of a caller outside the sequences, after which none is under way. -/
theorem ended_of_step (hnone : s.lifecycle.history.executor = none)
    {e : LifecycleEvent} {l : Lifecycle} (hstep : s.step parts (.lifecycle e) =
      some { s with lifecycle := l }) (hidle : l.frames a = .idle)
    (hhistory : l.history = s.lifecycle.history) :
    ∃ s', (callbackSystem parts).Reaches s s' ∧ Ended a s' := by
  have hnone' : l.history.executor = none := by rw [hhistory, hnone]
  refine ⟨{ s with lifecycle := l }, .single (callbackSystem_step.mpr ⟨hstep, ?_⟩), hidle, hnone'⟩
  intro hunwinding
  rw [Lifecycle.unwinding_of_resting hnone'] at hunwinding
  cases hunwinding

/-- **A caller can return while no sequence is under way**, unless a callback is in `stop`; and so
can the callback. -/
theorem returns_of_resting (h : (callbackSystem parts).Reachable s)
    (hnone : s.lifecycle.history.executor = none) (ha : a ≠ .cancelled)
    (hexecuted : a = .executed ∨ s.lifecycle.frames .executed = .idle) :
    ∃ s', (callbackSystem parts).Reaches s s' ∧ Ended a s' := by
  have hr := h.of_restrict
  have hl := lifecycle_invariant hr
  obtain ⟨hm, hstopping, hcancelled⟩ := resting_idle hr hnone
  have hleft : ∀ outcome, (s.lifecycle.leave a outcome).frames a = .idle :=
    fun outcome => Function.update_self ..
  have hlock : ∀ l, s.lifecycle.lockStep parts a = some l →
      s.step parts (.lifecycle (.lock a)) = some { s with lifecycle := l } := by
    intro l hl
    simp [step, stepLifecycle, stepCalls, Lifecycle.step, hm, hl]
  -- a sequence that begins here can end
  have hends : ∀ (l : Lifecycle) (position : Sequence), l.frames a = .sequence position →
      (callbackSystem parts).step s (.lifecycle (.lock a)) = some { s with lifecycle := l } →
      ∃ s', (callbackSystem parts).Reaches s s' ∧ Ended a s' := by
    intro l position hframe hstep
    have hexecuting : (l.frames a).isExecuting = true := by
      rw [hframe]
      rfl
    obtain ⟨s', hreaches, hended⟩ := executor_ends (h.step hstep) hexecuting
    exact ⟨s', .head hstep hreaches, hended⟩
  cases hpc : s.lifecycle.frames a with
  | idle => exact ⟨s, .refl, hpc, hnone⟩
  | sequence position =>
    have hexec := hl.locking.executor_eq hpc
    rw [hnone] at hexec
    cases hexec
  | stopWait =>
    have hstopped : s.lifecycle.stopped = true := by
      have hwait := Lifecycle.waiting ((lifecycle_projection parts).reachable hr) a hpc
      rw [hstopping] at hwait
      simpa using hwait
    have hlife : s.lifecycle.step parts (.wake a) = some (s.lifecycle.leave a .stopWaited) := by
      simp [Lifecycle.step, hpc, hm, hstopped]
    have hstep : s.step parts (.lifecycle (.wake a)) =
        some { s with lifecycle := s.lifecycle.leave a .stopWaited } := by
      simp [step, stepLifecycle, stepCalls, hlife]
    exact ended_of_step hnone hstep (hleft _) rfl
  | stopLock =>
    by_cases hstarted : s.lifecycle.started = true
    · by_cases hstopped : s.lifecycle.stopped = true
      · have hlife : s.lifecycle.lockStep parts a = some (s.lifecycle.leave a .stopStopped) := by
          simp [Lifecycle.lockStep, hpc, hstarted, hstopped]
        exact ended_of_step hnone (hlock _ hlife) (hleft _) rfl
      · -- the caller runs the shutdown
        let l := s.lifecycle.enterShutdown a false (stopProgram parts)
        have hlife : s.lifecycle.lockStep parts a = some l := by
          simp [Lifecycle.lockStep, hpc, hstarted, hstopped, hstopping, l]
        have hframe : l.frames a = .sequence (.stopping false none (stopProgram parts)) :=
          Function.update_self ..
        have houtside : l.callbacksOutside = true := by
          unfold Lifecycle.callbacksOutside
          simp only [Bool.and_eq_true, Bool.or_eq_true, decide_eq_true_eq]
          constructor
          · rw [show l.frames .cancelled = s.lifecycle.frames .cancelled from
              Function.update_of_ne ha.symm _ _]
            exact hcancelled
          · by_cases heq : a = .executed
            · subst heq
              rw [hframe]
              exact .inr rfl
            · rw [show l.frames .executed = s.lifecycle.frames .executed from
                Function.update_of_ne (Ne.symm heq) _ _]
              exact .inl (hexecuted.resolve_left heq)
        have hstep : (callbackSystem parts).step s (.lifecycle (.lock a)) =
            some { s with lifecycle := l } :=
          callbackSystem_step.mpr ⟨hlock _ hlife, fun _ => houtside⟩
        exact hends l _ hframe hstep
    · have hlife : s.lifecycle.lockStep parts a = some (s.lifecycle.leave a .stopUnstarted) := by
        simp [Lifecycle.lockStep, hpc, hstarted]
      exact ended_of_step hnone (hlock _ hlife) (hleft _) rfl
  | startLock =>
    by_cases hstarted : s.lifecycle.started = true
    · have hlife : s.lifecycle.lockStep parts a = some (s.lifecycle.leave a .startRefused) := by
        simp [Lifecycle.lockStep, hpc, hstarted]
      exact ended_of_step hnone (hlock _ hlife) (hleft _) rfl
    · -- the caller starts the runtime
      let l := s.lifecycle.enterStart parts a
      have hlife : s.lifecycle.lockStep parts a = some l := by
        simp [Lifecycle.lockStep, hpc, hstarted, l]
      have hframe : l.frames a = .sequence (.starting {} none (startProgram parts)) :=
        Function.update_self ..
      have hstarting : l.unwinding = false :=
        (locking_of_step hr (hlock _ hlife)).unwinding_eq hframe
      have hstep : (callbackSystem parts).step s (.lifecycle (.lock a)) =
          some { s with lifecycle := l } := by
        refine callbackSystem_step.mpr ⟨hlock _ hlife, fun hunwinding => ?_⟩
        rw [show _ = l.unwinding from rfl, hstarting] at hunwinding
        cases hunwinding
      exact hends l _ hframe hstep

/-- A state can be reached in which no sequence is under way and no callback is in `stop`. -/
theorem settles (h : (callbackSystem parts).Reachable s) :
    ∃ s', (callbackSystem parts).Reaches s s' ∧ Ended .executed s' := by
  have hends : ∃ s', (callbackSystem parts).Reaches s s' ∧
      s'.lifecycle.history.executor = none := by
    cases hexec : s.lifecycle.history.executor with
    | none => exact ⟨s, .refl, hexec⟩
    | some b =>
      have hin := ((lifecycle_invariant h.of_restrict).locking.executor b).mpr hexec
      obtain ⟨s', hreaches, hended⟩ := executor_ends h hin
      exact ⟨s', hreaches, hended.2⟩
  obtain ⟨s₁, hreaches₁, hnone⟩ := hends
  obtain ⟨s₂, hreaches₂, hended⟩ :=
    returns_of_resting (a := .executed) (hreaches₁.reachable h) hnone (by simp) (.inl rfl)
  exact ⟨s₂, hreaches₁.trans hreaches₂, hended⟩

/-- **Every call of `start` and `stop` can return.** -/
theorem caller_returns (h : (callbackSystem parts).Reachable s) (t : ThreadId) :
    ∃ s', (callbackSystem parts).Reaches s s' ∧ s'.lifecycle.frames (.thread t) = .idle := by
  obtain ⟨s₁, hreaches₁, hidle, hnone⟩ := settles h
  obtain ⟨s₂, hreaches₂, hended⟩ :=
    returns_of_resting (a := .thread t) (hreaches₁.reachable h) hnone (by simp) (.inr hidle)
  exact ⟨s₂, hreaches₁.trans hreaches₂, hended.1⟩

/-- **Every completion callback can return.** -/
theorem callback_returns (h : (callbackSystem parts).Reachable s) :
    ∃ s', (callbackSystem parts).Reaches s s' ∧ s'.dispatcher.worker.inCallback = none := by
  obtain ⟨s₁, hreaches₁, hidle, hnone⟩ := settles h
  cases hcallback : s₁.dispatcher.worker.inCallback with
  | none => exact ⟨s₁, hreaches₁, hcallback⟩
  | some op =>
    obtain ⟨es, result, hw⟩ : ∃ es result,
        s₁.dispatcher.worker = .executing op es (.callback result) := by
      unfold Worker.inCallback at hcallback
      split at hcallback
      · rename_i hw
        obtain rfl := Option.some.inj hcallback
        exact ⟨_, _, hw⟩
      · cases hcallback
    obtain ⟨d, hd⟩ : ∃ d, s₁.dispatcher.step true (.worker .callbackReturn) = some d := by
      simp [Dispatcher.step, Dispatcher.stepWorker, hw, Dispatcher.stepExecute]
    have hstep : s₁.step parts (.control .callbackReturn) = some { s₁ with dispatcher := d } := by
      show s₁.stepControl parts .callbackReturn = _
      unfold stepControl
      rw [hw]
      simp [stepDispatcher, hd, hidle]
    have hnext := callbackSystem_step_of_eq (hreaches₁.reachable h) hstep rfl
    refine ⟨_, hreaches₁.step hnext, ?_⟩
    cases Dispatcher.stepWorker_effect hd with
    | callbackReturn _ => rfl
    | move hw' hmove _ => cases hmove

end Runtime

end MiniGateway
