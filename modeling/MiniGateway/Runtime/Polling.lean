/-
  The scheduler worker in a running runtime.

  There is an engine only once `start` has launched it (`SchedulerUse`), and then it is an engine of
  its own system (`scheduler_reachable`).  Its worker is inside the poll callback exactly while it is
  in `poll_group`, and after the scheduler has been joined it is nowhere.
-/
import MiniGateway.Runtime.Use

namespace MiniGateway.Runtime

open Throwing (bind_eq_ok)

variable {parts : RuntimeParts} {s s' : Runtime}

/-- The engine of a runtime is an engine over the groups of the configuration. -/
theorem scheduler_reachable (h : (runtimeSystem parts).Reachable s) :
    ∀ engine, s.scheduler = some engine →
      ∃ now, (schedulerSystem (parts.schedulePolicy now)).Reachable engine := by
  refine h.invariant (I := fun s => ∀ engine, s.scheduler = some engine →
      ∃ now, (schedulerSystem (parts.schedulePolicy now)).Reachable engine) ?_ ?_
  · rintro s rfl engine hengine
    cases hengine
  · intro s e s' _ hi hstep
    have hnext : ∀ {engine engine' : SchedulerEngine} {l : SchedulerEvent},
        s.scheduler = some engine → engine.step l = some engine' →
        ∃ now, (schedulerSystem (parts.schedulePolicy now)).Reachable engine' := by
      intro engine engine' l hengine hl
      obtain ⟨now, hr⟩ := hi engine hengine
      exact ⟨now, hr.step (l := l) hl⟩
    cases step_effect hstep with
    | @launchScheduler _ ok now _ _ _ =>
      rintro engine ⟨⟩
      refine ⟨now, ?_⟩
      have hinit : (schedulerSystem (parts.schedulePolicy now)).Reachable
          { policy := parts.schedulePolicy now, clock := now } := .init ⟨now, rfl⟩
      exact hinit.step (l := .start ok) rfl
    | finishScheduler _ _ _ hengine hl =>
      rintro engine ⟨⟩
      exact hnext hengine hl
    | schedule h =>
      cases h with
      | select hengine hl =>
        rintro engine ⟨⟩
        exact hnext hengine hl
      | pollReturn hengine _ hl =>
        rintro engine ⟨⟩
        exact hnext hengine hl
      | other hengine _ hl =>
        rintro engine ⟨⟩
        exact hnext hengine hl
    | control h => cases h <;> exact hi
    | poll h => cases h <;> exact hi
    | _ => exact hi

/-! ### The scheduler and the calls -/

/-- What the calls made so far say about the scheduler. -/
structure SchedulerUse (c : Calls) (scheduler : Option SchedulerEngine) (poll : PollPc) : Prop where
  launched : scheduler ≠ none → .launchScheduler ∈ c.begun ∧ c.current ≠ some .launchScheduler
  stopping : .requestStopScheduler ∈ c.returned →
    ∀ engine, scheduler = some engine → engine.stopping = true
  joined : .joinScheduler ∈ c.returned →
    ∀ engine, scheduler = some engine → engine.joinable = false
  unjoinable : ∀ engine, scheduler = some engine → engine.joinable = false →
    engine.isRunning = false
  polling : poll = .idle ↔ ∀ engine, scheduler = some engine → engine.isPolling = false

namespace SchedulerUse

variable {c : Calls} {scheduler : Option SchedulerEngine} {poll : PollPc} {instr : Instr}
  {engine engine' : SchedulerEngine}

theorem begin (h : SchedulerUse c scheduler poll)
    (honce : instr = .launchScheduler → instr ∉ c.begun) :
    SchedulerUse (c.begin instr) scheduler poll where
  launched hne := by
    obtain ⟨hbegun, -⟩ := h.launched hne
    refine ⟨by simp [hbegun], ?_⟩
    rintro heq
    obtain rfl := Option.some.inj heq
    exact honce rfl hbegun
  stopping := h.stopping
  joined := h.joined
  unjoinable := h.unjoinable
  polling := h.polling

/-- The end of a call that is not the scheduler's, or that finds no engine. -/
theorem finish (h : SchedulerUse c scheduler poll) {ok : Bool}
    (hstop : instr = .requestStopScheduler ∨ instr = .joinScheduler → scheduler = none) :
    SchedulerUse (c.finish instr ok) scheduler poll where
  launched hne := ⟨(h.launched hne).1, nofun⟩
  stopping hmem engine hengine := by
    rcases (Calls.mem_finish_returned ..).mp hmem with hmem | ⟨heq, -⟩
    · exact h.stopping hmem engine hengine
    · rw [hstop (Or.inl heq.symm)] at hengine
      cases hengine
  joined hmem engine hengine := by
    rcases (Calls.mem_finish_returned ..).mp hmem with hmem | ⟨heq, -⟩
    · exact h.joined hmem engine hengine
    · rw [hstop (Or.inr heq.symm)] at hengine
      cases hengine
  unjoinable := h.unjoinable
  polling := h.polling

/-- The engine is built and started. -/
theorem launch (h : SchedulerUse c scheduler poll)
    (hcurrent : c.current = some .launchScheduler) (hbegun : .launchScheduler ∈ c.begun)
    (hreturned : ∀ other ∈ c.returned, other ∈ c.begun)
    (hstart : ∀ other ∈ c.begun, other.isStart = true)
    (policy : FixedIntervalSequentialPolicy) (clock : ℤ) (ok : Bool) :
    SchedulerUse (c.finish .launchScheduler ok)
      (some (SchedulerEngine.start { policy := policy, clock := clock } ok)) poll := by
  -- there was no engine, so nothing was polled, and nothing of a shutdown has begun
  have hnone : scheduler = none := by
    by_contra hne
    exact (h.launched hne).2 hcurrent
  have hidle : poll = .idle := h.polling.mpr (by simp [hnone])
  have hfresh : ∀ other, other.isStart = false → other ∉ (c.finish .launchScheduler ok).returned := by
    intro other hother hmem
    rcases (Calls.mem_finish_returned ..).mp hmem with hmem | ⟨rfl, -⟩
    · rw [hstart other (hreturned other hmem)] at hother
      cases hother
    · cases hother
  refine ⟨fun _ => ⟨hbegun, nofun⟩, fun hmem => absurd hmem (hfresh _ rfl),
    fun hmem => absurd hmem (hfresh _ rfl), ?_, ?_⟩
  · rintro engine ⟨⟩ hj
    cases ok
    · rfl
    · cases hj
  · refine ⟨?_, fun _ => hidle⟩
    rintro - engine ⟨⟩
    cases ok <;> rfl

/-- The end of `request_stop` or `join` of the engine. -/
theorem finishScheduler (h : SchedulerUse c scheduler poll) {ok : Bool} {e : SchedulerEvent}
    (hon : OnScheduler instr e) (hengine : scheduler = some engine)
    (hstep : engine.step e = some engine') :
    SchedulerUse (c.finish instr ok) (some engine') poll := by
  subst hengine
  have hlaunched := h.launched (by simp)
  have hpolling := h.polling
  cases hon with
  | requestStopScheduler =>
    obtain rfl := Option.some.inj hstep
    refine ⟨fun _ => ⟨hlaunched.1, by simp⟩, ?_, ?_, ?_, ?_⟩
    · rintro - engine ⟨⟩
      rfl
    · rintro hmem engine₁ ⟨⟩
      exact h.joined (by simpa using hmem) engine rfl
    · rintro engine₁ ⟨⟩ hj
      exact h.unjoinable engine rfl hj
    · simpa [SchedulerEngine.isPolling] using hpolling
  | joinScheduler =>
    obtain ⟨hj, hsame, hgone⟩ : engine'.joinable = false ∧
        (engine'.worker = engine.worker ∧ engine'.stopping = engine.stopping) ∧
        engine.isRunning = false := by
      simp only [SchedulerEngine.step] at hstep
      split_ifs at hstep with hj hw
      · obtain rfl := Option.some.inj hstep
        exact ⟨rfl, ⟨rfl, rfl⟩, by simp [SchedulerEngine.isRunning, hw]⟩
      · obtain rfl := Option.some.inj hstep
        exact ⟨by simpa using hj, ⟨rfl, rfl⟩, h.unjoinable _ rfl (by simpa using hj)⟩
    refine ⟨fun _ => ⟨hlaunched.1, by simp⟩, ?_, ?_, ?_, ?_⟩
    · rintro hmem engine ⟨⟩
      rw [hsame.2]
      exact h.stopping (by simpa using hmem) _ rfl
    · rintro - engine ⟨⟩
      exact hj
    · rintro engine ⟨⟩ -
      simpa [SchedulerEngine.isRunning, hsame.1] using hgone
    · simpa [SchedulerEngine.isPolling, hsame.1] using hpolling

/-- A step of the worker, which moves in and out of `poll_group` together with `poll`. -/
theorem worker {poll' : PollPc} {e : SchedulerEvent} (h : SchedulerUse c scheduler poll)
    (hengine : scheduler = some engine) (he : e.isWorker = true)
    (hstep : engine.step e = some engine')
    (hpoll : poll' = .idle ↔ engine'.isPolling = false) :
    SchedulerUse c (some engine') poll' := by
  subst hengine
  obtain ⟨hrunning, -, -, hstopping, hjoinable⟩ := SchedulerEngine.worker_frame he hstep
  refine ⟨fun _ => h.launched (by simp), ?_, ?_, ?_, ?_⟩
  · rintro hmem engine₁ ⟨⟩
    rw [hstopping]
    exact h.stopping hmem _ rfl
  · rintro hmem engine₁ ⟨⟩
    rw [hjoinable]
    exact h.joined hmem _ rfl
  · rintro engine₁ ⟨⟩ hj
    rw [hjoinable] at hj
    rw [h.unjoinable _ rfl hj] at hrunning
    cases hrunning
  · simpa using hpoll

/-- A task is selected only while nothing is polled. -/
theorem idle_of_select (h : SchedulerUse c scheduler poll) {now startedAt : ℤ}
    (hengine : scheduler = some engine)
    (hstep : engine.step (.select now startedAt) = some engine') : poll = .idle := by
  refine h.polling.mpr fun engine₁ h₁ => ?_
  obtain rfl := Option.some.inj (hengine.symm.trans h₁)
  simp only [SchedulerEngine.step] at hstep
  by_cases hg : engine.worker = .iterating ∧ engine.stopping = false ∧ engine.clock ≤ now
  · simp [SchedulerEngine.isPolling, hg.1]
  · simp [if_neg hg] at hstep

end SchedulerUse

/-- `poll_group` moves between its own positions, none of which is outside. -/
theorem PollEffect.not_idle {e : PollEvent} (h : PollEffect parts s e s') :
    s.poll ≠ .idle ∧ s'.poll ≠ .idle ∧ s'.scheduler = s.scheduler ∧
      s'.lifecycle = s.lifecycle := by
  cases h with
  | @resolve groupId now pc hpc hresolve =>
    refine ⟨by simp [hpc], ?_, rfl, rfl⟩
    show pc ≠ .idle
    rintro rfl
    obtain ⟨group, -, hresolve⟩ := bind_eq_ok.mp hresolve
    obtain ⟨driver, -, hresolve⟩ := bind_eq_ok.mp hresolve
    split at hresolve <;> cases hresolve
  | unresolved hpc => exact ⟨by simp [hpc], by simp, rfl, rfl⟩
  | lock hpc _ => exact ⟨by simp [hpc], by simp, rfl, rfl⟩
  | _ hpc => exact ⟨by simp [hpc], by simp, rfl, rfl⟩

theorem ControlEffect.frame {e : WorkerEvent} (h : ControlEffect parts s e s') :
    s'.lifecycle = s.lifecycle ∧ s'.scheduler = s.scheduler ∧ s'.poll = s.poll ∧
      s'.data = s.data ∧ s.dispatcher.step true (.worker e) = some s'.dispatcher := by
  cases h with
  | lock _ _ _ hd => exact ⟨rfl, rfl, rfl, rfl, hd⟩
  | unlock _ _ hd => exact ⟨rfl, rfl, rfl, rfl, hd⟩
  | plain _ _ _ _ hd => exact ⟨rfl, rfl, rfl, rfl, hd⟩

/-- `SchedulerUse` holds of every reachable state. -/
theorem scheduler_use (h : (runtimeSystem parts).Reachable s) :
    SchedulerUse s.calls s.scheduler s.poll := by
  refine h.invariant (I := fun s => SchedulerUse s.calls s.scheduler s.poll) ?_ ?_
  · rintro s rfl
    have hnone : ∀ engine, (create parts).scheduler ≠ some engine := by
      intro engine hengine
      cases hengine
    exact ⟨fun hne => absurd rfl hne, fun _ engine h => absurd h (hnone engine),
      fun _ engine h => absurd h (hnone engine), fun engine h => absurd h (hnone engine),
      fun _ engine h => absurd h (hnone engine), fun _ => rfl⟩
  · intro s e s' hr hi hstep
    have hl := lifecycle_invariant hr
    cases step_effect hstep with
    | quiet hq hb hf =>
      show SchedulerUse (Lifecycle.calls _) _ _
      rw [hl.calls_quiet hq hb hf]
      exact hi
    | begin hb hnext _ =>
      obtain ⟨-, -, honce, heq⟩ := hl.calls_begin hb hnext
      show SchedulerUse (Lifecycle.calls _) _ _
      rw [heq]
      exact SchedulerUse.begin hi honce
    | finish hf hin hplain =>
      show SchedulerUse (Lifecycle.calls _) _ _
      rw [(hl.calls_finish hf hin).eq]
      refine SchedulerUse.finish hi ?_
      cases hplain with
      | requestStopScheduler hnone => exact fun _ => hnone
      | joinScheduler hnone => exact fun _ => hnone
      | _ => simp
    | finishData hf hin hon _ =>
      show SchedulerUse (Lifecycle.calls _) _ _
      rw [(hl.calls_finish hf hin).eq]
      refine SchedulerUse.finish hi ?_
      cases hon <;> simp
    | launchScheduler hf hin =>
      obtain ⟨hcurrent, hstart, heq⟩ := hl.calls_finish hf hin
      show SchedulerUse (Lifecycle.calls _) _ _
      rw [heq]
      exact SchedulerUse.launch hi hcurrent (hl.current_begun hcurrent) (fun _ => hl.mem_begun)
        (hstart rfl) _ _ _
    | finishScheduler hf hin hon hengine hl' =>
      show SchedulerUse (Lifecycle.calls _) _ _
      rw [(hl.calls_finish hf hin).eq]
      exact SchedulerUse.finishScheduler hi hon hengine hl'
    | control h =>
      obtain ⟨hlife, hsched, hpoll, -, -⟩ := h.frame
      unfold calls
      rw [hlife, hsched, hpoll]
      exact hi
    | poll h =>
      obtain ⟨hin, hin', hsched, hlife⟩ := h.not_idle
      unfold calls
      rw [hlife, hsched]
      exact { hi with polling := iff_of_false hin' fun h => hin (hi.polling.mpr h) }
    | schedule h =>
      cases h with
      | @select engine engine' now startedAt hengine hl' =>
        -- the worker polls after a selection exactly when it has selected something
        obtain ⟨start, hr'⟩ := scheduler_reachable (hr.step hstep) engine' rfl
        have hplaced := SchedulerEngine.placed hr'
        have hidle := hi.idle_of_select hengine hl'
        refine hi.worker hengine rfl hl' ?_
        cases hw : engine'.worker with
        | polling i scheduledAt startedAt' =>
          obtain ⟨task, htask, -⟩ := hplaced.polling i scheduledAt startedAt' hw
          simp [SchedulerEngine.polledGroup, SchedulerEngine.isPolling, hw, htask]
        | _ => simp [SchedulerEngine.polledGroup, SchedulerEngine.isPolling, hw, hidle]
      | @pollReturn engine engine' failed finishedAt hengine hpc hl' =>
        refine hi.worker hengine rfl hl' ?_
        simp only [SchedulerEngine.step] at hl'
        split at hl'
        · split_ifs at hl' with hg
          obtain rfl := Option.some.inj hl'
          simp [SchedulerEngine.isPolling]
        · cases hl'
      | other hengine he hl' =>
        obtain ⟨hisWorker, hbefore, hafter⟩ := SchedulerEngine.isPolling_other he hl'
        refine hi.worker hengine hisWorker hl' ?_
        rw [hafter]
        refine iff_of_true (hi.polling.mpr fun engine₁ h₁ => ?_) rfl
        obtain rfl := Option.some.inj (hengine.symm.trans h₁)
        exact hbefore
    | _ => exact hi

/-- A scheduler that has been joined is not in `poll_group`. -/
theorem poll_idle_of_joined (h : (runtimeSystem parts).Reachable s)
    (hjoined : .joinScheduler ∈ s.calls.returned) : s.poll = .idle := by
  have huse := scheduler_use h
  refine huse.polling.mpr fun engine hengine => ?_
  have hjoinable := huse.joined hjoined engine hengine
  exact SchedulerEngine.isPolling_of_not_running (huse.unjoinable engine hengine hjoinable)

end MiniGateway.Runtime
