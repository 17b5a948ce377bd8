/-
  Stop requests of the scheduler.

  `SchedulerUsers` puts threads around the engine: any number of them may call `start`,
  `request_stop`, `join` and `stop`, in any order.  The worker calls `poll_` only after it has
  released the mutex, so the call is an event of its own here: between the selection and the call a
  stop request can come in.

  `start` clears `stopping_` without looking at it, so a request made before `start` is lost
  (`lost_request`).  A request that the launch of the worker does not follow is honoured
  (`honoured`).
-/
import MiniGateway.Scheduler.Engine

namespace MiniGateway

/-- Where a thread is in the public functions; `inStop` marks the two calls made by `stop`. -/
inductive SchedulerCaller
  | idle
  | start
  | requestStop (inStop : Bool)
  | join (inStop : Bool)
  deriving DecidableEq

/-- The public functions. -/
inductive SchedulerCall
  | start
  | requestStop
  | join
  | stop

def SchedulerCall.entry : SchedulerCall → SchedulerCaller
  | start => .start
  | requestStop => .requestStop false
  | join => .join false
  | stop => .requestStop true

/-- The engine and the threads around it. -/
structure SchedulerUsers where
  engine : SchedulerEngine
  /-- The worker has called `poll_` for the task it selected. -/
  entered : Bool := false
  /-- The tasks for which `poll_` has been called, oldest first. -/
  calls : List ℕ := []
  /-- Some `request_stop` call has set `stopping_`. -/
  requested : Bool := false
  callers : ThreadId → SchedulerCaller := fun _ => .idle

inductive SchedulerUsersEvent
  | call (t : ThreadId) (c : SchedulerCall)
  | start (t : ThreadId) (launched : Bool)
  | requestStop (t : ThreadId)
  | join (t : ThreadId)
  /-- The worker calls `poll_`. -/
  | poll
  /-- Any other step of the worker. -/
  | worker (l : SchedulerEvent)

namespace SchedulerUsers

/-- The task that is selected and for which `poll_` has not been called yet. -/
def selected (s : SchedulerUsers) : List ℕ :=
  match s.engine.worker with
  | .polling i _ _ => if s.entered then [] else [i]
  | _ => []

/-- Thread `t` moves to the position `c`. -/
def goto (s : SchedulerUsers) (t : ThreadId) (c : SchedulerCaller) : SchedulerUsers :=
  { s with callers := Function.update s.callers t c }

/-- Whether the worker can take the step `l` now; a poll returns only after it was called. -/
def workerMay (s : SchedulerUsers) : SchedulerEvent → Bool
  | .pollReturn _ _ => s.entered
  | l => l.isWorker

/-- One event. -/
def step (s : SchedulerUsers) : SchedulerUsersEvent → Option SchedulerUsers
  | .call t c => if s.callers t = .idle then some (s.goto t c.entry) else none
  | .start t launched =>
    if s.callers t = .start then
      some { s.goto t .idle with engine := s.engine.start launched }
    else none
  | .requestStop t =>
    match s.callers t with
    | .requestStop inStop =>
      some { s.goto t (if inStop then .join true else .idle) with
        engine := { s.engine with stopping := true }
        requested := true }
    | _ => none
  | .join t =>
    match s.callers t with
    | .join _ => (s.engine.step .join).map fun engine => { s.goto t .idle with engine := engine }
    | _ => none
  | .poll =>
    match s.engine.worker with
    | .polling i _ _ =>
      if s.entered then none else some { s with entered := true, calls := s.calls ++ [i] }
    | _ => none
  | .worker l =>
    if s.workerMay l then
      (s.engine.step l).map fun engine =>
        { s with engine := engine, entered := s.entered && engine.isPolling }
    else none

end SchedulerUsers

/-- All runs of an engine and its users. -/
def schedulerUsersSystem (policy : FixedIntervalSequentialPolicy) :
    TransitionSystem SchedulerUsers SchedulerUsersEvent where
  Init s := ∃ clock, s = { engine := { policy := policy, clock := clock } }
  step := SchedulerUsers.step

namespace SchedulerUsers

variable {policy : FixedIntervalSequentialPolicy} {s s' : SchedulerUsers}

/-! ### What one event does -/

/-- The events, by what they do to the stop flag, the worker and the calls of `poll_`. -/
inductive Effect (s : SchedulerUsers) : SchedulerUsersEvent → SchedulerUsers → Prop
  | call {t : ThreadId} {c : SchedulerCall} (idle : s.callers t = .idle) :
      Effect s (.call t c) (s.goto t c.entry)
  | start {t : ThreadId} {launched : Bool} (at_start : s.callers t = .start) :
      Effect s (.start t launched) { s.goto t .idle with engine := s.engine.start launched }
  | requestStop {t : ThreadId} {inStop : Bool} (asking : s.callers t = .requestStop inStop) :
      Effect s (.requestStop t) { s.goto t (if inStop then .join true else .idle) with
        engine := { s.engine with stopping := true }
        requested := true }
  /-- `worker_` is joined, or there is nothing to join. -/
  | join {t : ThreadId} {inStop : Bool} (joining : s.callers t = .join inStop)
      (ended : s.engine.joinable = true → s.engine.worker = .exited) :
      Effect s (.join t) { s.goto t .idle with engine := { s.engine with joinable := false } }
  | poll {i : ℕ} {scheduledAt startedAt : ℤ}
      (polling : s.engine.worker = .polling i scheduledAt startedAt) (fresh : s.entered = false) :
      Effect s .poll { s with entered := true, calls := s.calls ++ [i] }
  | worker {l : SchedulerEvent} {engine : SchedulerEngine} (may : s.workerMay l = true)
      (stepped : s.engine.step l = some engine) :
      Effect s (.worker l) { s with engine := engine, entered := s.entered && engine.isPolling }

/-- **Inversion of `step`.** -/
theorem step_effect {e : SchedulerUsersEvent} (h : s.step e = some s') : Effect s e s' := by
  cases e with
  | call t c =>
    simp only [step] at h
    split_ifs at h with hidle
    obtain rfl := Option.some.inj h
    exact .call hidle
  | start t launched =>
    simp only [step] at h
    split_ifs at h with hstart
    obtain rfl := Option.some.inj h
    exact .start hstart
  | requestStop t =>
    simp only [step] at h
    split at h
    · rename_i inStop hpc
      obtain rfl := Option.some.inj h
      exact .requestStop hpc
    · cases h
  | join t =>
    simp only [step] at h
    split at h
    · rename_i inStop hpc
      obtain ⟨engine, hjoin, rfl⟩ := Option.map_eq_some_iff.mp h
      simp only [SchedulerEngine.step] at hjoin
      split_ifs at hjoin with hjoinable hexited
      · obtain rfl := Option.some.inj hjoin
        exact .join hpc fun _ => hexited
      · obtain rfl := Option.some.inj hjoin
        have hsame : s.engine = { s.engine with joinable := false } := by
          rw [← Bool.eq_false_iff.mpr hjoinable]
        rw [hsame]
        exact .join hpc fun htrue => absurd htrue hjoinable
    · cases h
  | poll =>
    simp only [step] at h
    split at h
    · rename_i i scheduledAt startedAt hw
      split_ifs at h with hentered
      obtain rfl := Option.some.inj h
      exact .poll hw (by simpa using hentered)
    · cases h
  | worker l =>
    simp only [step] at h
    split_ifs at h with hmay
    obtain ⟨engine, hstep, rfl⟩ := Option.map_eq_some_iff.mp h
    exact .worker hmay hstep

theorem isWorker_of_workerMay {l : SchedulerEvent} (h : s.workerMay l = true) :
    l.isWorker = true := by
  cases l <;> first | rfl | exact h

/-! ### Selections and calls -/

/-- `poll_` has been called for every selected task except possibly the last. -/
structure Called (s : SchedulerUsers) : Prop where
  placed : s.engine.Placed
  begun : s.engine.begun = s.calls ++ s.selected
  entered : s.entered = true → s.engine.isPolling = true

private theorem selected_of_not_polling (h : s.engine.isPolling = false) : s.selected = [] := by
  unfold selected
  split
  · rename_i hw
    simp [SchedulerEngine.isPolling, hw] at h
  · rfl

private theorem Called.worker {l : SchedulerEvent} {engine : SchedulerEngine} (h : Called s)
    (hmay : s.workerMay l = true) (hstep : s.engine.step l = some engine) :
    Called { s with engine := engine, entered := s.entered && engine.isPolling } := by
  have hplaced := h.placed.step hstep
  have hbegun := h.begun
  refine ⟨hplaced, ?_, fun hin => (Bool.and_eq_true_iff.mp hin).2⟩
  cases l with
  | start launched => cases hmay
  | requestStop => cases hmay
  | join => cases hmay
  | select now startedAt =>
    simp only [SchedulerEngine.step] at hstep
    by_cases hg : s.engine.worker = .iterating ∧ s.engine.stopping = false ∧ s.engine.clock ≤ now
    · have hidle : s.engine.isPolling = false := by simp [SchedulerEngine.isPolling, hg.1]
      have hfresh : s.entered = false := by
        by_contra hin
        have hpolling := h.entered (by simpa using hin)
        rw [hidle] at hpolling
        cases hpolling
      rw [selected_of_not_polling hidle, List.append_nil] at hbegun
      rw [if_pos hg] at hstep
      split at hstep
      · obtain rfl := Option.some.inj hstep
        rw [selected_of_not_polling rfl, List.append_nil]
        exact hbegun
      · rename_i i task hsel
        split_ifs at hstep with hlater
        obtain rfl := Option.some.inj hstep
        show s.engine.begun ++ [i] = _
        rw [hbegun]
        simp [selected, SchedulerEngine.beginPoll, hfresh]
    · simp [if_neg hg] at hstep
  | pollReturn failed finishedAt =>
    simp only [SchedulerEngine.step] at hstep
    split at hstep
    · rename_i i scheduledAt startedAt hw
      split_ifs at hstep with hg
      obtain rfl := Option.some.inj hstep
      have hentered : s.entered = true := hmay
      rw [selected_of_not_polling rfl, List.append_nil]
      rw [show s.selected = [] by simp [selected, hw, hentered], List.append_nil] at hbegun
      exact hbegun
    · cases hstep
  | wake now =>
    obtain ⟨-, hbefore, hafter⟩ := SchedulerEngine.isPolling_other (Or.inl ⟨now, rfl⟩) hstep
    have hsame : engine.begun = s.engine.begun := by
      simp only [SchedulerEngine.step] at hstep
      split at hstep
      · split_ifs at hstep
        obtain rfl := Option.some.inj hstep
        rfl
      · cases hstep
    rw [selected_of_not_polling hbefore] at hbegun
    rw [selected_of_not_polling hafter, hsame]
    exact hbegun
  | complete =>
    obtain ⟨-, hbefore, hafter⟩ := SchedulerEngine.isPolling_other (Or.inr (Or.inl rfl)) hstep
    have hsame : engine.begun = s.engine.begun := by
      simp only [SchedulerEngine.step] at hstep
      split at hstep
      · obtain ⟨policy, -, rfl⟩ := Option.map_eq_some_iff.mp hstep
        rfl
      · cases hstep
    rw [selected_of_not_polling hbefore] at hbegun
    rw [selected_of_not_polling hafter, hsame]
    exact hbegun
  | exit =>
    obtain ⟨-, hbefore, hafter⟩ := SchedulerEngine.isPolling_other (Or.inr (Or.inr rfl)) hstep
    have hsame : engine.begun = s.engine.begun := by
      simp only [SchedulerEngine.step] at hstep
      split_ifs at hstep
      obtain rfl := Option.some.inj hstep
      rfl
    rw [selected_of_not_polling hbefore] at hbegun
    rw [selected_of_not_polling hafter, hsame]
    exact hbegun

private theorem Called.start (h : Called s) (t : ThreadId) (launched : Bool) :
    Called { s.goto t .idle with engine := s.engine.start launched } := by
  have hplaced : (s.engine.start launched).Placed := h.placed.step (l := .start launched) rfl
  by_cases hstarted : s.engine.started = true
  · have hsame : s.engine.start launched = s.engine := by
      unfold SchedulerEngine.start
      rw [if_pos hstarted]
    rw [hsame]
    exact ⟨h.placed, h.begun, h.entered⟩
  · -- there is no worker yet, so nothing is selected
    have hworker := h.placed.started (by simpa using hstarted)
    have hidle : s.engine.isPolling = false := by simp [SchedulerEngine.isPolling, hworker]
    have hfresh : s.entered = false := by
      by_contra hin
      have hpolling := h.entered (by simpa using hin)
      rw [hidle] at hpolling
      cases hpolling
    have hidle' : (s.engine.start launched).isPolling = false := by
      unfold SchedulerEngine.start
      split_ifs <;> simp [SchedulerEngine.isPolling, hworker]
    have hbegun : (s.engine.start launched).begun = s.engine.begun := by
      unfold SchedulerEngine.start
      split_ifs <;> rfl
    refine ⟨hplaced, ?_, fun hin => ?_⟩
    · rw [selected_of_not_polling hidle']
      show (s.engine.start launched).begun = s.calls ++ []
      rw [hbegun, h.begun, selected_of_not_polling hidle]
    · rw [show s.entered = true from hin] at hfresh
      cases hfresh

theorem called (hr : (schedulerUsersSystem policy).Reachable s) : Called s := by
  refine hr.invariant ?_ ?_
  · rintro s ⟨clock, rfl⟩
    refine ⟨⟨fun _ => rfl, ?_, ?_⟩, rfl, ?_⟩
    · intro i scheduledAt startedAt hw
      cases hw
    · intro i scheduledAt startedAt failed finishedAt hw
      cases hw
    · intro hin
      cases hin
  · intro s e s' _ hi hstep
    cases step_effect hstep with
    | call _ => exact ⟨hi.placed, hi.begun, hi.entered⟩
    | start _ => exact hi.start _ _
    | requestStop _ =>
      exact ⟨hi.placed.step (l := .requestStop) rfl, hi.begun, hi.entered⟩
    | join _ _ => exact ⟨⟨hi.placed.started, hi.placed.polling, hi.placed.returned⟩, hi.begun,
        hi.entered⟩
    | @poll i scheduledAt startedAt hw hfresh =>
      have hbegun := hi.begun
      have hselected : s.selected = [i] := by simp [selected, hw, hfresh]
      refine ⟨hi.placed, ?_, fun _ => by simp [SchedulerEngine.isPolling, hw]⟩
      rw [hselected] at hbegun
      simp [selected, hw, hbegun]
    | worker hmay hstepped => exact hi.worker hmay hstepped

/-! ### The flags -/

/-- A worker that runs has a thread to join, and `stop` joins only after its request. -/
structure Joinable (s : SchedulerUsers) : Prop where
  joinable : s.engine.joinable = false → s.engine.isRunning = false
  started : s.engine.isRunning = true → s.engine.started = true
  requested : ∀ t, s.callers t = .join true → s.requested = true

/-- A thread joins inside `stop` only after its own request. -/
private theorem Joinable.goto {t u : ThreadId} {c : SchedulerCaller} (h : Joinable s)
    (hc : c = .join true → s.requested = true)
    (hu : Function.update s.callers t c u = .join true) : s.requested = true := by
  by_cases hut : u = t
  · subst hut
    exact hc (by simpa using hu)
  · exact h.requested u (by simpa [Function.update_of_ne hut] using hu)

theorem joinable (hr : (schedulerUsersSystem policy).Reachable s) : Joinable s := by
  refine hr.invariant ?_ ?_
  · rintro s ⟨clock, rfl⟩
    refine ⟨fun _ => rfl, ?_, ?_⟩
    · intro hrunning
      cases hrunning
    · intro t ht
      cases ht
  · intro s e s' _ hi hstep
    cases step_effect hstep with
    | @call t c _ =>
      refine ⟨hi.joinable, hi.started, fun u hu => hi.goto ?_ hu⟩
      cases c <;> simp [SchedulerCall.entry]
    | @start t launched _ =>
      refine ⟨?_, ?_, fun u hu => hi.goto (by simp) hu⟩
      · intro hj
        have hjoinable := hi.joinable
        revert hj
        show (s.engine.start launched).joinable = false →
          (s.engine.start launched).isRunning = false
        unfold SchedulerEngine.start
        split_ifs
        · exact hjoinable
        · simp
        · exact hjoinable
      · show (s.engine.start launched).isRunning = true →
          (s.engine.start launched).started = true
        have hstarted := hi.started
        unfold SchedulerEngine.start
        split_ifs
        · exact hstarted
        · simp
        · exact hstarted
    | requestStop _ => exact ⟨hi.joinable, hi.started, fun _ _ => rfl⟩
    | join _ hended =>
      refine ⟨fun _ => ?_, hi.started, fun u hu => hi.goto (by simp) hu⟩
      by_cases hj : s.engine.joinable = true
      · simp [SchedulerEngine.isRunning, hended hj]
      · exact hi.joinable (by simpa using hj)
    | poll _ _ => exact ⟨hi.joinable, hi.started, hi.requested⟩
    | worker hmay hstepped =>
      have hframe := SchedulerEngine.worker_frame (isWorker_of_workerMay hmay) hstepped
      have hrunning := hi.started hframe.running
      refine ⟨fun hj => ?_, fun _ => hframe.started.trans hrunning, hi.requested⟩
      have hnot := hi.joinable (hframe.joinable.symm.trans hj)
      rw [hframe.running] at hnot
      cases hnot

/-! ### Runs that lose no request -/

/-- The event does not launch the worker after a stop request. -/
def keepsRequest (s : SchedulerUsers) : SchedulerUsersEvent → Bool
  | .start _ launched => !launched || s.engine.started || !s.requested
  | _ => true

/-- The runs in which the worker is not launched after a stop request. -/
def requestKeepingSystem (policy : FixedIntervalSequentialPolicy) :
    TransitionSystem SchedulerUsers SchedulerUsersEvent :=
  (schedulerUsersSystem policy).restrict fun s e => keepsRequest s e = true

theorem keeping_step {e : SchedulerUsersEvent} (h : (requestKeepingSystem policy).step s e = some s') :
    keepsRequest s e = true ∧ Effect s e s' := by
  obtain ⟨hkeeps, hstep⟩ := TransitionSystem.restrict_step.mp h
  exact ⟨hkeeps, step_effect hstep⟩

/-- A worker that was launched has been asked to stop. -/
structure Asked (s : SchedulerUsers) : Prop where
  requested : s.requested = true
  stopping : s.engine.started = true → s.engine.stopping = true

/-- Once asked, the worker selects no further task. -/
theorem Asked.step {e : SchedulerUsersEvent} (h : Asked s) (hj : Joinable s)
    (hkeeps : keepsRequest s e = true) (he : Effect s e s') :
    Asked s' ∧ s'.engine.begun = s.engine.begun := by
  cases he with
  | call _ => exact ⟨⟨h.requested, h.stopping⟩, rfl⟩
  | @start t launched _ =>
    by_cases hstarted : s.engine.started = true
    · have hsame : s.engine.start launched = s.engine := by
        unfold SchedulerEngine.start
        rw [if_pos hstarted]
      rw [hsame]
      exact ⟨⟨h.requested, h.stopping⟩, rfl⟩
    · -- only a launch that fails is left
      have hfailed : launched = false := by
        by_contra hlaunched
        simp [keepsRequest, hlaunched, hstarted, h.requested] at hkeeps
      subst hfailed
      have hstart : s.engine.start false = { s.engine with stopping := false } := by
        unfold SchedulerEngine.start
        simp [hstarted]
      rw [hstart]
      exact ⟨⟨h.requested, fun htrue => absurd htrue hstarted⟩, rfl⟩
  | requestStop _ => exact ⟨⟨rfl, fun _ => rfl⟩, rfl⟩
  | join _ _ => exact ⟨⟨h.requested, h.stopping⟩, rfl⟩
  | poll _ _ => exact ⟨⟨h.requested, h.stopping⟩, rfl⟩
  | @worker l engine hmay hstepped =>
    have hframe := SchedulerEngine.worker_frame (isWorker_of_workerMay hmay) hstepped
    have hstopping := h.stopping (hj.started hframe.running)
    refine ⟨⟨h.requested, fun _ => hframe.stopping.trans hstopping⟩, ?_⟩
    have hplaced : s.engine.started = false → s.engine.worker = .absent := by
      intro hfalse
      rw [hj.started hframe.running] at hfalse
      cases hfalse
    cases SchedulerEngine.step_effect hplaced hstepped with
    | frame _ hbegun => exact hbegun
    | poll _ _ _ _ _ hrunning =>
      rw [hstopping] at hrunning
      cases hrunning
    | pollReturn _ _ _ _ _ _ _ heq => rw [heq]
    | complete _ _ _ _ _ _ _ _ heq => rw [heq]; rfl

/-- A stop has been requested, and no worker runs. -/
structure Halted (s : SchedulerUsers) : Prop where
  requested : s.requested = true
  idle : s.engine.isRunning = false

/-- After a request no worker starts to run. -/
theorem Halted.step {e : SchedulerUsersEvent} (h : Halted s) (hkeeps : keepsRequest s e = true)
    (he : Effect s e s') : Halted s' ∧ s'.calls = s.calls := by
  have hnot := h.idle
  cases he with
  | @start t launched _ =>
    refine ⟨⟨h.requested, ?_⟩, rfl⟩
    show (s.engine.start launched).isRunning = false
    unfold SchedulerEngine.start
    split_ifs with hstarted hlaunched
    · exact hnot
    · simp [keepsRequest, hlaunched, hstarted, h.requested] at hkeeps
    · exact hnot
  | requestStop _ => exact ⟨⟨rfl, hnot⟩, rfl⟩
  | poll hw _ => simp [SchedulerEngine.isRunning, hw] at hnot
  | worker hmay hstepped =>
    have hframe := SchedulerEngine.worker_frame (isWorker_of_workerMay hmay) hstepped
    rw [hframe.running] at hnot
    cases hnot
  | _ => exact ⟨⟨h.requested, hnot⟩, rfl⟩

/-! ### Stop requests -/

/-- A stop request is not forgotten in the runs of `M` from `s` on. -/
structure Honoured (M : TransitionSystem SchedulerUsers SchedulerUsersEvent)
    (s : SchedulerUsers) : Prop where
  /-- After `request_stop` at most one further call of `poll_` begins, the one already selected. -/
  request : ∀ t s', M.step s (.requestStop t) = some s' → ∀ s'', M.Reaches s' s'' →
    s''.calls.length ≤ s'.calls.length + 1 ∧ s''.calls <+: s'.calls ++ s'.selected
  /-- After `stop` none begins. -/
  stop : ∀ t s', s.callers t = .join true → M.step s (.join t) = some s' →
    ∀ s'', M.Reaches s' s'' → s''.calls = s'.calls

private theorem length_selected_le (s : SchedulerUsers) : s.selected.length ≤ 1 := by
  unfold selected
  split
  · split_ifs <;> simp
  · simp

/-- **A stop request that no launch follows is never forgotten.** -/
theorem honoured (hr : (requestKeepingSystem policy).Reachable s) :
    Honoured (requestKeepingSystem policy) s := by
  refine ⟨?_, ?_⟩
  · intro t s' hstep s'' hreach
    have hr' : (requestKeepingSystem policy).Reachable s' := hr.step hstep
    have hasked : Asked s' := by
      cases (keeping_step hstep).2 with
      | requestStop _ => exact ⟨rfl, fun _ => rfl⟩
    -- what has been selected until now is all that will be
    obtain ⟨hr'', -, hbegun⟩ := hreach.relation
      (R := fun s₂ => Asked s₂ ∧ s₂.engine.begun = s'.engine.begun) (by
        rintro s₁ e₁ s₂ hr₁ ⟨hasked₁, hbegun₁⟩ hstep₁
        obtain ⟨hkeeps, heffect⟩ := keeping_step hstep₁
        obtain ⟨hasked₂, hbegun₂⟩ := hasked₁.step (joinable hr₁.of_restrict) hkeeps heffect
        exact ⟨hasked₂, hbegun₂.trans hbegun₁⟩) hr' ⟨hasked, rfl⟩
    have hle : s''.calls <+: s'.calls ++ s'.selected := by
      rw [← (called hr'.of_restrict).begun, ← hbegun, (called hr''.of_restrict).begun]
      exact List.prefix_append _ _
    refine ⟨?_, hle⟩
    have hlength := hle.length_le
    have hone := length_selected_le s'
    rw [List.length_append] at hlength
    omega
  · intro t s' hpc hstep s'' hreach
    have hr' : (requestKeepingSystem policy).Reachable s' := hr.step hstep
    have hrequested := (joinable hr.of_restrict).requested t hpc
    have hhalted : Halted s' := by
      have hj' := (joinable hr'.of_restrict).joinable
      cases (keeping_step hstep).2 with
      | join _ _ => exact ⟨hrequested, hj' rfl⟩
    exact (hreach.relation (R := fun s₂ => Halted s₂ ∧ s₂.calls = s'.calls) (by
      rintro s₁ e₁ s₂ hr₁ ⟨hhalted₁, hcalls₁⟩ hstep₁
      obtain ⟨hkeeps, heffect⟩ := keeping_step hstep₁
      obtain ⟨hhalted₂, hcalls₂⟩ := hhalted₁.step hkeeps heffect
      exact ⟨hhalted₂, hcalls₂.trans hcalls₁⟩) hr' ⟨hhalted, rfl⟩).2.2

/-- One task that is due every millisecond. -/
def everyMillisecond : FixedIntervalSequentialPolicy where
  tasks := [{ groupId := lit "g", interval := 1, nextDue := 0, stableOrder := 0 }]
  accepted := rfl

/-- An engine with that task, before `start`. -/
def unstarted : SchedulerUsers := { engine := { policy := everyMillisecond, clock := 0 } }

/-- `request_stop`, then `start`: the worker polls twice and goes on. -/
theorem lost_request : ¬∀ policy s, (schedulerUsersSystem policy).Reachable s →
    Honoured (schedulerUsersSystem policy) s := by
  intro h
  let s₁ : SchedulerUsers := unstarted.goto 0 (.requestStop false)
  let s₂ : SchedulerUsers := { s₁.goto 0 .idle with
    engine := { s₁.engine with stopping := true }, requested := true }
  have hr : (schedulerUsersSystem everyMillisecond).Reachable s₁ :=
    TransitionSystem.Reachable.step (l := .call 0 .requestStop) (.init ⟨0, rfl⟩) rfl
  obtain ⟨s₃, hreach, htwo⟩ := (schedulerUsersSystem everyMillisecond).exists_reaches_of_run
    (s := s₂)
    (w := [.call 1 .start, .start 1 true, .worker (.select 0 0), .poll,
      .worker (.pollReturn false 0), .worker .complete, .worker (.select 2000000 2000000), .poll])
    (p := fun s => s.calls.length = 2) (by decide)
  have hcalls : s₃.calls.length = 2 := of_decide_eq_true htwo
  have hle := ((h everyMillisecond s₁ hr).request 0 s₂ rfl s₃ hreach).1
  rw [hcalls] at hle
  exact absurd hle (by decide)

/-- A request between a selection and its poll lets that poll begin, and no other. -/
theorem honoured_everyMillisecond : ∃ s s' s'', (requestKeepingSystem everyMillisecond).Reachable s ∧
    (requestKeepingSystem everyMillisecond).step s (.requestStop 2) = some s' ∧
    (requestKeepingSystem everyMillisecond).Reaches s' s'' ∧ s'.calls = [] ∧ s''.calls = [0] ∧
    Honoured (requestKeepingSystem everyMillisecond) s := by
  obtain ⟨s, hr, hs⟩ := (requestKeepingSystem everyMillisecond).exists_reachable_of_run
    (s := unstarted)
    (w := [.call 1 .start, .start 1 true, .worker (.select 0 0), .call 2 .stop])
    (p := fun s => s.callers 2 = .requestStop true ∧ s.calls = [] ∧ s.entered = false ∧
      s.engine.worker = .polling 0 0 0) ⟨0, rfl⟩ (by decide)
  obtain ⟨hpc, hcalls, hentered, hworker⟩ := of_decide_eq_true hs
  let s' : SchedulerUsers := { s.goto 2 (.join true) with
    engine := { s.engine with stopping := true }, requested := true }
  have hstep : (requestKeepingSystem everyMillisecond).step s (.requestStop 2) = some s' := by
    refine TransitionSystem.restrict_step.mpr ⟨rfl, ?_⟩
    show step s (.requestStop 2) = some s'
    simp [step, hpc, s']
  have hpoll : (requestKeepingSystem everyMillisecond).step s' .poll =
      some { s' with entered := true, calls := [0] } := by
    refine TransitionSystem.restrict_step.mpr ⟨rfl, ?_⟩
    show step s' .poll = _
    simp [step, goto, hworker, hentered, hcalls, s']
  exact ⟨s, s', _, hr, hstep, .single hpoll, hcalls, rfl, honoured hr⟩

end SchedulerUsers

end MiniGateway
