/-
  What has been done when `start` has thrown or `stop` has returned.

  Such a call ends only with `stopped_` set, whoever has run the shutdown sequence, and then every
  call of the sequence has returned.  So each plugin has been stopped as often as it was started
  (`paired`), every worker that was launched has been joined (`workers_joined`), and what the queue
  had accepted has been delivered (`delivered`).
-/
import MiniGateway.Runtime.Control
import MiniGateway.Runtime.Gates

namespace MiniGateway

/-- The call was one of `stop`. -/
def Outcome.isStop : Outcome → Bool
  | stopUnstarted | stopStopped | stopWaited | stopExecuted => true
  | _ => false

/-- The call was one of `start`, and it was not refused. -/
def Outcome.isFirstStart : Outcome → Bool
  | startReturned | startThrew => true
  | _ => false

/-- The sequence is that of `start` or its rollback. -/
def Sequence.isStart : Sequence → Bool
  | starting _ _ _ | catching _ => true
  | stopping rollback _ _ => rollback

namespace Lifecycle

variable {parts : RuntimeParts} {s s' : Lifecycle} {e : LifecycleEvent}

/-! ### The ends of the calls -/

/-- A step ends at most one call, and no `stop` ends unstarted once `started_` is set. -/
theorem Effect.returns (h : Effect parts s e s') :
    (s.started = true → s'.started = true) ∧
      ∃ more, s'.returns = s.returns ++ more ∧
        (s.started = true → ∀ r ∈ more, r.2 ≠ .stopUnstarted) := by
  have hsame : s.returns = s.returns ++ [] ∧
      (s.started = true → ∀ r ∈ ([] : List (Actor × Outcome)), r.2 ≠ .stopUnstarted) :=
    ⟨(List.append_nil _).symm, nofun⟩
  have hone : ∀ (a : Actor) (outcome : Outcome), outcome ≠ .stopUnstarted →
      s.started = true → ∀ r ∈ [(a, outcome)], r.2 ≠ .stopUnstarted := by
    intro a outcome hne _ r hr
    rwa [List.mem_singleton.mp hr]
  cases h with
  | startFirst _ _ _ => exact ⟨fun _ => rfl, [], hsame⟩
  | startRefused _ _ _ => exact ⟨id, _, rfl, hone _ _ (by decide)⟩
  | stopUnstarted _ _ hno =>
    refine ⟨id, _, rfl, fun hstarted => ?_⟩
    rw [hno] at hstarted
    cases hstarted
  | stopStopped _ _ _ => exact ⟨id, _, rfl, hone _ _ (by decide)⟩
  | wake _ _ _ => exact ⟨id, _, rfl, hone _ _ (by decide)⟩
  | completeStart _ => exact ⟨id, _, rfl, hone _ _ (by decide)⟩
  | @completeStop a rollback outcome _ _ houtcome =>
    refine ⟨id, _, rfl, hone a outcome ?_⟩
    rw [houtcome]
    cases rollback <;> decide
  | _ => exact ⟨id, [], hsame⟩

/-- Along a run, `started_` stays set and calls that have ended stay recorded. -/
theorem Reaches.returns {s s' : Lifecycle} (h : (lifecycleSystem parts).Reaches s s')
    (hstarted : s.started = true) : s'.started = true ∧
      ∃ more, s'.returns = s.returns ++ more ∧ ∀ r ∈ more, r.2 ≠ .stopUnstarted := by
  induction h with
  | refl => exact ⟨hstarted, [], (List.append_nil _).symm, nofun⟩
  | step _ hl ih =>
    obtain ⟨hs, more, heq, hmore⟩ := ih
    obtain ⟨hkeep, last, heq', hlast⟩ := (step_effect hl).returns
    refine ⟨hkeep hs, more ++ last, by rw [heq', heq, List.append_assoc], ?_⟩
    intro r hr
    rcases List.mem_append.mp hr with hold | hnew
    · exact hmore r hold
    · exact hlast hs r hnew

/-! ### One start -/

/-- A caller is inside a `start` that was not refused. -/
def inStart (s : Lifecycle) : Bool := s.current.any Sequence.isStart

/-- The calls of `start` that were not refused: those that have ended, and the one in progress. -/
def firstStarts (s : Lifecycle) : ℕ :=
  s.returns.countP (·.2.isFirstStart) + if s.inStart then 1 else 0

/-- Only the first `start` is not refused. -/
structure StartsOnce (s : Lifecycle) : Prop where
  once : s.firstStarts ≤ 1
  unstarted : s.started = false → s.firstStarts = 0

private theorem firstStarts_leave {a : Actor} {outcome : Outcome} (hin : s'.inStart = s.inStart)
    (hreturns : s'.returns = s.returns ++ [(a, outcome)]) (houtcome : outcome.isFirstStart = false) :
    s'.firstStarts = s.firstStarts := by
  unfold firstStarts
  rw [hin, hreturns, List.countP_append]
  simp [houtcome]

/-- The call in progress ends. -/
private theorem firstStarts_complete {a : Actor} {outcome : Outcome}
    (hin : s.inStart = outcome.isFirstStart) (hout : s'.inStart = false)
    (hreturns : s'.returns = s.returns ++ [(a, outcome)]) : s'.firstStarts = s.firstStarts := by
  unfold firstStarts
  rw [hin, hout, hreturns, List.countP_append]
  cases houtcome : outcome.isFirstStart <;> simp [houtcome]

private theorem inStart_congr (h : s'.current = s.current) : s'.inStart = s.inStart := by
  unfold inStart
  rw [h]

private theorem StartsOnce.congr (h : StartsOnce s) (hcount : s'.firstStarts = s.firstStarts)
    (hstarted : s'.started = s.started) : StartsOnce s' := by
  refine ⟨?_, ?_⟩
  · rw [hcount]
    exact h.once
  · rw [hcount, hstarted]
    exact h.unstarted

private theorem StartsOnce.step (h : StartsOnce s) (hi : Invariant parts s)
    (hi' : Invariant parts s') (he : Effect parts s e s') : StartsOnce s' := by
  have hl := hi.locking
  have hcurrent' : ∀ {a : Actor} {position : Sequence}, s'.frames a = .sequence position →
      s'.current = some position := fun hpc => hi'.locking.current_eq hpc
  -- a caller that stays outside the sequences
  have houtside : ∀ {a : Actor} (frame : Frame), (s.frames a).isExecuting = false →
      (s.goto a frame).inStart = s.inStart := fun _ hpc => inStart_congr (hl.current_goto _ hpc)
  -- a caller that moves inside its sequence
  have hinside : ∀ {a : Actor} {position position' : Sequence}, s.frames a = .sequence position →
      s'.frames a = .sequence position' → s'.returns = s.returns → s'.started = s.started →
      position'.isStart = position.isStart → StartsOnce s' := by
    intro a position position' hpc hpc' hreturns hstarted hkind
    refine h.congr ?_ hstarted
    have hin : s'.inStart = s.inStart := by
      unfold inStart
      rw [hcurrent' hpc', hl.current_eq hpc]
      exact hkind
    unfold firstStarts
    rw [hin, hreturns]
  cases he with
  | call hpc => exact h.congr (by unfold firstStarts; rw [houtside _ (by rw [hpc]; rfl)]; rfl) rfl
  | startRefused hpc _ _ =>
    exact h.congr (firstStarts_leave (houtside .idle (by rw [hpc]; rfl)) rfl rfl) rfl
  | stopUnstarted hpc _ _ =>
    exact h.congr (firstStarts_leave (houtside .idle (by rw [hpc]; rfl)) rfl rfl) rfl
  | stopStopped hpc _ _ =>
    exact h.congr (firstStarts_leave (houtside .idle (by rw [hpc]; rfl)) rfl rfl) rfl
  | wake hpc _ _ =>
    exact h.congr (firstStarts_leave (houtside .idle (by rw [hpc]; rfl)) rfl rfl) rfl
  | stopWait hpc _ _ _ _ =>
    exact h.congr (by unfold firstStarts; rw [houtside _ (by rw [hpc]; rfl)]; rfl) rfl
  | @startFirst a hpc hm hstarted =>
    have hzero := h.unstarted hstarted
    refine ⟨?_, nofun⟩
    have hcount : s.returns.countP (·.2.isFirstStart) = 0 := by
      unfold firstStarts at hzero
      omega
    show s.returns.countP _ + _ ≤ 1
    rw [hcount]
    split <;> simp
  | @stopFirst a hpc hm hstarted hstopped hstopping =>
    have hnone := hi.phase.executor_eq_none hl hm (Or.inr hstopping)
    refine h.congr ?_ rfl
    unfold firstStarts inStart
    rw [hcurrent' (a := a) (Function.update_self ..), Locking.current_eq_none hnone]
    rfl
  | beginStart hpc => exact hinside hpc (Function.update_self ..) rfl rfl rfl
  | beginStop hpc => exact hinside hpc (Function.update_self ..) rfl rfl rfl
  | returnStart hpc => exact hinside hpc (Function.update_self ..) rfl rfl rfl
  | throwStart hpc _ => exact hinside hpc (Function.update_self ..) rfl rfl rfl
  | returnStop hpc => exact hinside hpc (Function.update_self ..) rfl rfl rfl
  | rollback hpc => exact hinside hpc (Function.update_self ..) rfl rfl rfl
  | completeStart hpc =>
    refine h.congr (firstStarts_complete ?_ ?_ rfl) rfl
    · unfold inStart
      rw [hl.current_eq hpc]
      rfl
    · unfold inStart
      rw [Locking.current_eq_none rfl]
      rfl
  | @completeStop a rollback outcome hpc hm houtcome =>
    refine h.congr (firstStarts_complete ?_ ?_ rfl) rfl
    · unfold inStart
      rw [hl.current_eq hpc, houtcome]
      cases rollback <;> rfl
    · unfold inStart
      rw [Locking.current_eq_none rfl]
      rfl

theorem startsOnce (h : (lifecycleSystem parts).Reachable s) : StartsOnce s := by
  refine h.invariant ?_ ?_
  · rintro s rfl
    exact ⟨by decide, fun _ => rfl⟩
  · intro s e s' hr hi hl
    exact hi.step (invariant hr) (invariant (hr.step hl)) (step_effect hl)

end Lifecycle

namespace Runtime

variable {parts : RuntimeParts} {s s' : Runtime}

/-! ### The calls of a shutdown that is over -/

/-- Every call of the shutdown sequence has returned. -/
theorem stopReturned_of_stopped (h : (runtimeSystem parts).Reachable s)
    (hs : s.lifecycle.stopped = true) :
    .requestStopScheduler ∈ s.calls.returned ∧ .joinScheduler ∈ s.calls.returned ∧
      .closeRawQueue ∈ s.calls.returned ∧ .joinProcessing ∈ s.calls.returned ∧
      (.startDispatcher ∈ s.lifecycle.history.startReturned →
        .joinDispatcher ∈ s.calls.returned) := by
  obtain ⟨hshutdown, -, hreturned⟩ := (lifecycle_invariant h).stopped hs
  obtain ⟨sources, dispatcher, drivers, publishers, hprogram, hdispatcher⟩ := hshutdown.shape
  have hin : ∀ instr, instr ∈ shutdownProgram sources dispatcher drivers publishers →
      instr ∈ s.calls.returned := by
    intro instr hmem
    refine List.mem_append_right _ ?_
    rw [hreturned, hprogram]
    exact hmem
  refine ⟨hin _ ?_, hin _ ?_, hin _ ?_, hin _ ?_, fun hstart => hin _ ?_⟩
  · simp [shutdownProgram, stopWorkers]
  · simp [shutdownProgram, stopWorkers]
  · simp [shutdownProgram]
  · simp [shutdownProgram]
  · simp [shutdownProgram, stopWorkers, hdispatcher hstart]

/-- A call that has returned from a shutdown finds `stopped_` set. -/
theorem stopped_of_settled (h : (runtimeSystem parts).Reachable s) {a : Actor} {outcome : Outcome}
    (hreturn : (a, outcome) ∈ s.lifecycle.returns) (hsettled : outcome.settled = true) :
    s.lifecycle.stopped = true :=
  (lifecycle_invariant h).returns.settled (a, outcome) hreturn hsettled

/-! ### Nothing accepted is lost -/

/-- `stop` finds the start it comes after. -/
theorem settled_of_returned (h : (runtimeSystem parts).Reachable s)
    (hrun : (runtimeSystem parts).Reaches s s') {b : Actor}
    (hstart : (b, .startReturned) ∈ s.lifecycle.returns) {more : List (Actor × Outcome)}
    (hmore : s'.lifecycle.returns = s.lifecycle.returns ++ more) {a : Actor} {outcome : Outcome}
    (hstop : (a, outcome) ∈ more) (hkind : outcome.isStop = true) : outcome.settled = true := by
  -- a start has returned, so `started_` is set
  have hl := lifecycle_invariant h
  have hstarted : s.lifecycle.started = true := by
    by_contra hno
    have hzero := (Lifecycle.startsOnce ((lifecycle_projection parts).reachable h)).unstarted
      (by simpa using hno)
    unfold Lifecycle.firstStarts at hzero
    have hcount : s.lifecycle.returns.countP (·.2.isFirstStart) = 0 := by omega
    exact absurd rfl (List.countP_eq_zero.mp hcount _ hstart)
  obtain ⟨-, more', heq, hnot⟩ :=
    Lifecycle.Reaches.returns ((lifecycle_projection parts).reaches h hrun) hstarted
  obtain rfl : more = more' := List.append_cancel_left (hmore.symm.trans heq)
  have hne := hnot _ hstop
  cases outcome with
  | stopUnstarted => exact absurd rfl hne
  | startReturned => cases hkind
  | startThrew => cases hkind
  | startRefused => cases hkind
  | _ => rfl

/-- **No accepted batch is lost, duplicated or reordered** on its way to the publishers: when a
`stop` returns after a `start` has returned, every one has been offered to every publisher. -/
theorem delivered (h : (runtimeSystem parts).Reachable s) {b : Actor}
    (hstart : (b, .startReturned) ∈ s.lifecycle.returns)
    (hrun : (runtimeSystem parts).Reaches s s') {more : List (Actor × Outcome)}
    (hmore : s'.lifecycle.returns = s.lifecycle.returns ++ more) {a : Actor} {outcome : Outcome}
    (hstop : (a, outcome) ∈ more) (hkind : outcome.isStop = true) :
    DataPath.Settled parts.eventPublishers.length s'.data := by
  have h' := hrun.reachable h
  have hl' := lifecycle_invariant h'
  have hsettled := settled_of_returned h hrun hstart hmore hstop hkind
  have hstop' : (a, outcome) ∈ s'.lifecycle.returns := by
    rw [hmore]
    exact List.mem_append_right _ hstop
  have hstart' : (b, .startReturned) ∈ s'.lifecycle.returns := by
    rw [hmore]
    exact List.mem_append_left _ hstart
  obtain ⟨-, -, -, hjoin, -⟩ := stopReturned_of_stopped h' (stopped_of_settled h' hstop' hsettled)
  have hdata := data_use h'
  have hlaunched : .launchProcessing ∈ s'.calls.returned := by
    refine List.mem_append_left _ ?_
    rw [hl'.returns.started _ hstart' rfl]
    simp [startProgram]
  refine (data_flow h').settled ?_
  rcases hdata.unjoinable (hdata.joined hjoin) with habsent | hexited
  · exact absurd habsent (hdata.launched.mp hlaunched)
  · exact hexited

/-- The processing worker delivers one batch. -/
def deliverRun : List RuntimeEvent :=
  ([.pop, .normalize 0, .processed, .deliver, .offer, .publishReturn (some .accepted),
    .offer] : List ProcessingEvent).map .process

/-- Thread `1` stops the runtime `oneDevice`. -/
def stopRun : List RuntimeEvent :=
  ([.lifecycle (.call (.thread 1) .stop), .lifecycle (.lock (.thread 1))] : List RuntimeEvent) ++
  returningCalls (.thread 1) 2 ++ ([.schedule .exit] : List RuntimeEvent) ++
  returningCalls (.thread 1) 1 ++ ([.lifecycle (.begin (.thread 1))] : List RuntimeEvent) ++
  ([.stopLock, .stopClose, .stopCancel true, .stopDeliver, .stopFinish] : List CallerEvent).map
    (.dispatch (.thread 1)) ++
  ([.lifecycle (.finish (.thread 1) true 0), .lifecycle (.begin (.thread 1)),
    .dispatch (.thread 1) .joinLock, .dispatch (.thread 1) .joinWait, .control .exit,
    .dispatch (.thread 1) (.joinWorker true), .dispatch (.thread 1) .joinFinish,
    .lifecycle (.finish (.thread 1) true 0)] : List RuntimeEvent) ++
  returningCalls (.thread 1) 3 ++ ([.process .exit] : List RuntimeEvent) ++
  returningCalls (.thread 1) 2 ++ ([.lifecycle (.complete (.thread 1))] : List RuntimeEvent)

/-- One batch is pushed and delivered between `start` and `stop`. -/
theorem delivered_oneDevice : ∃ s s' : Runtime, ∃ more,
    (Actor.thread 0, Outcome.startReturned) ∈ s.lifecycle.returns ∧
    s'.lifecycle.returns = s.lifecycle.returns ++ more ∧
    (Actor.thread 1, Outcome.stopExecuted) ∈ more ∧ s'.data.rawQueue.accepted = 1 ∧
    DataPath.Settled 1 s'.data := by
  obtain ⟨s, hr, hs⟩ := TransitionSystem.exists_reachable_of_run
    (M := runtimeSystem oneDevice) (s := create oneDevice) (w := startRun)
    (p := fun s => s.lifecycle.returns = [(.thread 0, .startReturned)] ∧
      ((runtimeSystem oneDevice).run s ([.push ⟨lit "d", [], []⟩] ++ deliverRun ++ stopRun)).any
        fun s' => s'.lifecycle.returns = [(.thread 0, .startReturned), (.thread 1, .stopExecuted)] ∧
          s'.data.rawQueue.accepted = 1) rfl (by decide +kernel)
  obtain ⟨hreturns, hrest⟩ := of_decide_eq_true hs
  obtain ⟨s', hrun, hs'⟩ := TransitionSystem.exists_reaches_of_run hrest
  obtain ⟨hreturns', hcount⟩ := of_decide_eq_true hs'
  have hstart : (Actor.thread 0, Outcome.startReturned) ∈ s.lifecycle.returns := by
    rw [hreturns]
    exact List.mem_singleton.mpr rfl
  have hmore : s'.lifecycle.returns =
      s.lifecycle.returns ++ [(Actor.thread 1, Outcome.stopExecuted)] := by
    rw [hreturns, hreturns']
    rfl
  have hstop : (Actor.thread 1, Outcome.stopExecuted) ∈
      [(Actor.thread 1, Outcome.stopExecuted)] := List.mem_singleton.mpr rfl
  exact ⟨s, s', _, hstart, hmore, hstop, hcount, delivered hr hstart hrun hmore hstop rfl⟩

/-! ### Starts and stops -/

/-- No worker is left. -/
structure WorkersJoined (s : Runtime) : Prop where
  scheduler : ∀ engine, s.scheduler = some engine →
    engine.joinable = false ∧ engine.isRunning = false
  control : s.dispatcher.started = true →
    s.dispatcher.joined = true ∧ s.dispatcher.worker = .exited
  processing : s.data.joinable = false ∧ (s.data.worker = .absent ∨ s.data.worker = .exited)

theorem workers_joined (h : (externalSystem parts).Reachable s)
    (hs : s.lifecycle.stopped = true) : WorkersJoined s := by
  have hr := h.of_restrict
  have hl := lifecycle_invariant hr
  obtain ⟨-, hscheduler, -, hprocessing, hcontrol⟩ := stopReturned_of_stopped hr hs
  have huse := scheduler_use hr
  have hdata := data_use hr
  refine ⟨?_, ?_, ?_⟩
  · intro engine hengine
    have hjoinable := huse.joined hscheduler engine hengine
    exact ⟨hjoinable, huse.unjoinable engine hengine hjoinable⟩
  · intro hstarted
    have hstart : .startDispatcher ∈ s.calls.returned := by
      rcases (control_use hr).started hstarted with hin | hcurrent
      · exact hin
      · -- the shutdown is over, so no call of `start` is in progress
        have hno := hl.begun_isStart hcurrent rfl _ (hl.mem_begun hscheduler)
        cases hno
    have hjoined := (control_joined h).joined
      (hcontrol ((hl.mem_startReturned rfl).mp hstart)) hstarted
    exact ⟨hjoined,
      ((Dispatcher.joining ((dispatcher_projection parts).reachable hr)).joined hjoined).1⟩
  · have hjoinable := hdata.joined hprocessing
    exact ⟨hjoinable, hdata.unjoinable hjoinable⟩

/-- How starts and stops go together. -/
structure Paired (parts : RuntimeParts) (s : Runtime) : Prop where
  /-- No plugin is stopped twice. -/
  once : ∀ plugin, s.lifecycle.history.stopBegun.count (.stopPlugin plugin) ≤ 1
  /-- No plugin is stopped that `start` has not called. -/
  startedOnly : ∀ plugin, .stopPlugin plugin ∈ s.lifecycle.history.stopBegun →
    .startPlugin plugin ∈ s.lifecycle.history.startBegun
  /-- When a `start` has thrown, or a `stop` has returned that found `started_` set, what was
  started has been stopped and every worker has been joined. -/
  settled : ∀ r ∈ s.lifecycle.returns, r.2.settled = true →
    (∀ plugin, .startPlugin plugin ∈ s.lifecycle.history.startBegun ↔
      .stopPlugin plugin ∈ s.lifecycle.history.stopReturned) ∧ WorkersJoined s
  /-- At most one `start` is not refused. -/
  startsOnce : s.lifecycle.returns.countP (·.2.isFirstStart) ≤ 1
  /-- A `start` that is refused throws and changes nothing but the position of its caller. -/
  refused : ∀ a s', s.lifecycle.started = true → s.lifecycle.frames a = .startLock →
    s.step parts (.lifecycle (.lock a)) = some s' →
    s' = { s with lifecycle := s.lifecycle.leave a .startRefused }

/-- **Start/stop pairing with rollback**, while `start` and `stop` are called from outside. -/
theorem paired (h : (externalSystem parts).Reachable s) : Paired parts s := by
  have hr := h.of_restrict
  have hl := lifecycle_invariant hr
  have hcount : ∀ plugin, s.lifecycle.history.stopBegun.count (.stopPlugin plugin) ≤
      s.lifecycle.history.startBegun.count (.startPlugin plugin) := by
    intro plugin
    by_cases hin : .stopPlugin plugin ∈ s.lifecycle.history.stopBegun
    · rw [← (hl.shutdown hin).count_stop plugin]
      exact hl.stop_execution.begun_prefix.sublist.count_le _
    · rw [List.count_eq_zero.mpr hin]
      exact Nat.zero_le _
  refine {
    once := ?_
    startedOnly := ?_
    settled := ?_
    startsOnce := ?_
    refused := ?_ }
  · intro plugin
    exact (hcount plugin).trans
      (Shutdown.count_start_le_one hl.start_execution.begun_prefix plugin)
  · intro plugin hin
    have hpos := (List.count_pos_iff.mpr hin).trans_le (hcount plugin)
    exact List.count_pos_iff.mp hpos
  · rintro ⟨a, outcome⟩ hreturn hsettled
    have hs := stopped_of_settled hr hreturn hsettled
    obtain ⟨hshutdown, -, hreturned⟩ := hl.stopped hs
    refine ⟨fun plugin => ?_, workers_joined h hs⟩
    rw [hreturned, ← List.count_pos_iff, ← List.count_pos_iff, hshutdown.count_stop plugin]
  · have honce := (Lifecycle.startsOnce ((lifecycle_projection parts).reachable hr)).once
    unfold Lifecycle.firstStarts at honce
    omega
  · intro a s' hstarted hpc hstep
    cases step_effect hstep with
    | quiet hq _ _ =>
      cases Lifecycle.step_effect hq with
      | startRefused _ _ _ => rfl
      | startFirst _ _ hno =>
        rw [hstarted] at hno
        cases hno
      | stopUnstarted hpc' _ _ => rw [hpc] at hpc'; cases hpc'
      | stopStopped hpc' _ _ => rw [hpc] at hpc'; cases hpc'
      | stopWait hpc' _ _ _ _ => rw [hpc] at hpc'; cases hpc'
      | stopFirst hpc' _ _ _ _ => rw [hpc] at hpc'; cases hpc'

/-- A whole life of `oneDevice`. -/
theorem paired_oneDevice : ∃ s : Runtime,
    (s.lifecycle.returns = [(.thread 0, .startReturned), (.thread 1, .stopExecuted)] ∧
      s.lifecycle.history.stopReturned.countP (fun instr => instr matches .stopPlugin _) = 3) ∧
    Paired oneDevice s := by
  obtain ⟨s, hr, hs⟩ := TransitionSystem.exists_reachable_of_run
    (M := externalSystem oneDevice) (s := create oneDevice) (w := startRun ++ stopRun)
    (p := fun s => s.lifecycle.returns =
        [(.thread 0, .startReturned), (.thread 1, .stopExecuted)] ∧
      s.lifecycle.history.stopReturned.countP (fun instr => instr matches .stopPlugin _) = 3)
    rfl (by decide +kernel)
  exact ⟨s, by simpa using hs, paired hr⟩

end Runtime

end MiniGateway
