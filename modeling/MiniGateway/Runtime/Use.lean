/-
  What the calls of the lifecycle mean for the components.

  Each component of a run of the runtime is in a state of its own system (`dispatcher_reachable`,
  `data_reachable`, `lifecycle_invariant`), so its own invariants hold.  The rest of the module ties
  the components to the calls made so far: the worker of a component is there only after the call
  that launches it, and has gone after the call that joins it.
-/
import MiniGateway.Runtime.Calls

namespace MiniGateway.Runtime

open TransitionSystem

variable {parts : RuntimeParts} {s s' : Runtime}

/-! ### Components run by themselves -/

theorem Began.step {d d' : Dispatcher} {instr : Instr} (h : Began d instr d') :
    d' = d ∨ ∃ e, d.step true e = some d' := by
  cases h with
  | other _ => exact Or.inl rfl
  | _ hd => exact Or.inr ⟨_, hd⟩

/-- The dispatcher of a runtime is a dispatcher with gates. -/
theorem dispatcher_projection (parts : RuntimeParts) : Projection (runtimeSystem parts)
    (dispatcherSystem parts.config.controlQueueCapacity true) Runtime.dispatcher where
  init s hs := by
    obtain rfl := hs
    exact ⟨parts.checks.2.2.2, rfl⟩
  step s e s' _ hstep := by
    show s'.dispatcher = s.dispatcher ∨ ∃ e, s.dispatcher.step true e = some s'.dispatcher
    cases step_effect hstep with
    | begin _ _ hd => exact hd.step
    | dispatch _ _ _ hd => exact Or.inr ⟨_, hd⟩
    | submitControl hd => exact Or.inr ⟨_, hd⟩
    | submit _ hd => exact Or.inr ⟨_, hd⟩
    | control h =>
      cases h with
      | lock _ _ _ hd => exact Or.inr ⟨_, hd⟩
      | unlock _ _ hd => exact Or.inr ⟨_, hd⟩
      | plain _ _ _ _ hd => exact Or.inr ⟨_, hd⟩
    | schedule h => cases h <;> exact Or.inl rfl
    | poll h => cases h <;> exact Or.inl rfl
    | _ => exact Or.inl rfl

/-- The callers of `start` and `stop` are those of a lifecycle. -/
theorem lifecycle_projection (parts : RuntimeParts) : Projection (runtimeSystem parts)
    (lifecycleSystem parts) Runtime.lifecycle where
  init s hs := by
    obtain rfl := hs
    exact rfl
  step s e s' _ hstep := by
    show s'.lifecycle = s.lifecycle ∨ ∃ e, s.lifecycle.step parts e = some s'.lifecycle
    cases step_effect hstep with
    | quiet hl _ _ => exact Or.inr ⟨_, hl⟩
    | begin hl _ _ => exact Or.inr ⟨_, hl⟩
    | finish hl _ _ => exact Or.inr ⟨_, hl⟩
    | finishData hl _ _ _ => exact Or.inr ⟨_, hl⟩
    | launchScheduler hl _ => exact Or.inr ⟨_, hl⟩
    | finishScheduler hl _ _ _ _ => exact Or.inr ⟨_, hl⟩
    | control h => cases h <;> exact Or.inl rfl
    | schedule h => cases h <;> exact Or.inl rfl
    | poll h => cases h <;> exact Or.inl rfl
    | _ => exact Or.inl rfl

/-- The data path of a runtime is a data path with the runtime's processors and publishers. -/
theorem data_projection (parts : RuntimeParts) : Projection (runtimeSystem parts)
    (dataSystem parts.processors.length parts.eventPublishers.length) Runtime.data where
  init s hs := by
    obtain rfl := hs
    exact ⟨_, parts.normalizer, rfl, rfl⟩
  step s e s' _ hstep := by
    show s'.data = s.data ∨ ∃ e,
      s.data.step parts.processors.length parts.eventPublishers.length e = some s'.data
    cases step_effect hstep with
    | finishData _ _ _ hdata => exact Or.inr ⟨_, hdata⟩
    | control h => cases h <;> exact Or.inl rfl
    | schedule h => cases h <;> exact Or.inl rfl
    | poll h =>
      cases h with
      | @push _ batch _ _ => exact Or.inr ⟨.push batch, rfl⟩
      | _ => exact Or.inl rfl
    | @push batch => exact Or.inr ⟨.push batch, rfl⟩
    | process hdata => exact Or.inr ⟨_, hdata⟩
    | _ => exact Or.inl rfl

theorem dispatcher_invariant (h : (runtimeSystem parts).Reachable s) :
    Dispatcher.Invariant s.dispatcher :=
  Dispatcher.invariant ((dispatcher_projection parts).reachable h)

theorem lifecycle_invariant (h : (runtimeSystem parts).Reachable s) :
    Lifecycle.Invariant parts s.lifecycle :=
  Lifecycle.invariant ((lifecycle_projection parts).reachable h)

theorem data_flow (h : (runtimeSystem parts).Reachable s) :
    DataPath.Flow parts.eventPublishers.length s.data :=
  DataPath.flow ((data_projection parts).reachable h)

/-! ### The calls -/

/-- The calls made so far by the callers of `start` and `stop`. -/
def calls (s : Runtime) : Calls := s.lifecycle.calls

/-! ### The processing worker -/

/-- What the calls made so far say about the data path. -/
structure DataUse (returned : List Instr) (d : DataPath) : Prop where
  launched : .launchProcessing ∈ returned ↔ d.worker ≠ .absent
  unjoinable : d.joinable = false → d.worker = .absent ∨ d.worker = .exited
  closed : .closeRawQueue ∈ returned → d.rawQueue.closed = true
  joined : .joinProcessing ∈ returned → d.joinable = false

/-- The end of any other call. -/
theorem DataUse.finishOther {c : Calls} {instr : Instr} {ok : Bool} {d : DataPath}
    (h : DataUse c.returned d) (hlaunch : instr = .launchProcessing → ok = false)
    (hclose : instr ≠ .closeRawQueue) (hjoin : instr ≠ .joinProcessing) :
    DataUse (c.finish instr ok).returned d := by
  have hsame : ∀ other, other = .launchProcessing ∨ other = .closeRawQueue ∨
      other = .joinProcessing → (other ∈ (c.finish instr ok).returned ↔ other ∈ c.returned) := by
    rintro other (rfl | rfl | rfl)
    · simp only [Calls.mem_finish_returned, or_iff_left_iff_imp, and_imp]
      intro heq hok
      rw [hlaunch heq.symm] at hok
      cases hok
    · simp [hclose.symm]
    · simp [hjoin.symm]
  exact {
    launched := (hsame _ (Or.inl rfl)).trans h.launched
    unjoinable := h.unjoinable
    closed := fun hmem => h.closed ((hsame _ (Or.inr (Or.inl rfl))).mp hmem)
    joined := fun hmem => h.joined ((hsame _ (Or.inr (Or.inr rfl))).mp hmem) }

theorem DataUse.push {returned : List Instr} {d : DataPath} (h : DataUse returned d)
    (batch : RawBatch) : DataUse returned (d.push batch).2 where
  launched := h.launched
  unjoinable := h.unjoinable
  closed hmem := by
    have hclosed := h.closed hmem
    show (d.rawQueue.tryPush batch).2.closed = true
    rw [d.rawQueue.tryPush_closed hclosed]
    exact hclosed
  joined := h.joined

/-- The worker neither appears nor disappears by its own steps, and it leaves `closed` alone. -/
theorem worker_frame {processors publishers : ℕ} {d d' : DataPath} {e : ProcessingEvent}
    (h : d.stepWorker processors publishers e = some d') :
    d.worker ≠ .absent ∧ d.worker ≠ .exited ∧ d'.worker ≠ .absent ∧
      d'.rawQueue.closed = d.rawQueue.closed ∧ d'.joinable = d.joinable := by
  cases DataPath.stepWorker_effect h with
  | pop hw hq => exact ⟨by simp [hw], by simp [hw], by simp, (BoundedQueue.waitPop_value hq).2.1, rfl⟩
  | _ hw => exact ⟨by simp [hw], by simp [hw], by simp, rfl, rfl⟩

theorem DataUse.worker {returned : List Instr} {processors publishers : ℕ} {d d' : DataPath}
    {e : ProcessingEvent} (h : DataUse returned d)
    (hstep : d.stepWorker processors publishers e = some d') : DataUse returned d' := by
  obtain ⟨hthere, hrunning, hthere', hclosed, hjoinable⟩ := worker_frame hstep
  refine ⟨?_, fun hj => ?_, fun hmem => ?_, fun hmem => ?_⟩
  · exact ⟨fun _ => hthere', fun _ => h.launched.mpr hthere⟩
  · rw [hjoinable] at hj
    rcases h.unjoinable hj with hw | hw
    · exact absurd hw hthere
    · exact absurd hw hrunning
  · rw [hclosed]
    exact h.closed hmem
  · rw [hjoinable]
    exact h.joined hmem

/-- The end of a call on the data path. -/
theorem DataUse.finish {c : Calls} {instr : Instr} {ok : Bool} {e : DataEvent} {d d' : DataPath}
    {processors publishers : ℕ} (h : DataUse c.returned d)
    (hreturned : ∀ other ∈ c.returned, other ∈ c.begun)
    (hstart : instr.isStart = true → ∀ other ∈ c.begun, other.isStart = true)
    (hon : OnData ok instr e)
    (hstep : d.step processors publishers e = some d') :
    DataUse (c.finish instr ok).returned d' := by
  cases hon with
  | launchProcessing hlaunched =>
    subst hlaunched
    simp only [DataPath.step] at hstep
    split_ifs at hstep with hw
    obtain rfl := Option.some.inj hstep
    -- a shutdown has not begun, so nothing is closed or joined yet
    have hnone : ∀ other, other.isStart = false → other ∉ c.returned := fun other hother hmem => by
      rw [hstart rfl other (hreturned other hmem)] at hother
      cases hother
    refine ⟨by simp, by simp, fun hmem => ?_, fun hmem => ?_⟩
    · rcases (Calls.mem_finish_returned ..).mp hmem with hmem | ⟨heq, -⟩
      · exact absurd hmem (hnone _ rfl)
      · cases heq
    · rcases (Calls.mem_finish_returned ..).mp hmem with hmem | ⟨heq, -⟩
      · exact absurd hmem (hnone _ rfl)
      · cases heq
  | closeRawQueue =>
    obtain rfl := Option.some.inj hstep
    exact {
      launched := by simpa using h.launched
      unjoinable := h.unjoinable
      closed := fun _ => rfl
      joined := fun hmem => h.joined (by simpa using hmem) }
  | joinProcessing =>
    have hjoined : d'.joinable = false ∧ d'.worker = d.worker ∧ d'.rawQueue = d.rawQueue ∧
        (d.worker = .absent ∨ d.worker = .exited) := by
      simp only [DataPath.step] at hstep
      split_ifs at hstep with hj hw
      · obtain rfl := Option.some.inj hstep
        exact ⟨rfl, rfl, rfl, Or.inr hw⟩
      · obtain rfl := Option.some.inj hstep
        exact ⟨by simpa using hj, rfl, rfl, h.unjoinable (by simpa using hj)⟩
    obtain ⟨hj, hw, hq, hgone⟩ := hjoined
    refine ⟨?_, fun _ => hw ▸ hgone, fun hmem => ?_, fun _ => hj⟩
    · rw [hw]
      simpa using h.launched
    · rw [hq]
      exact h.closed (by simpa using hmem)

/-- A call whose end does nothing is not one of the data path's, or it has failed. -/
theorem Plain.not_data {ok : Bool} {instr : Instr} (h : Plain s ok instr) :
    (instr = .launchProcessing → ok = false) ∧ instr ≠ .closeRawQueue ∧
      instr ≠ .joinProcessing := by
  cases h with
  | launchProcessing hok => exact ⟨fun _ => hok, by simp, by simp⟩
  | _ => exact ⟨by simp, by simp, by simp⟩

/-- `DataUse` holds of every reachable state. -/
theorem data_use (h : (runtimeSystem parts).Reachable s) : DataUse s.calls.returned s.data := by
  refine h.invariant (I := fun s => DataUse s.calls.returned s.data) ?_ ?_
  · rintro s rfl
    exact ⟨⟨nofun, fun hw => absurd rfl hw⟩, fun _ => Or.inl rfl, nofun, nofun⟩
  · intro s e s' hr hi hstep
    have hl := lifecycle_invariant hr
    cases step_effect hstep with
    | quiet hq hb hf =>
      show DataUse (Lifecycle.calls _).returned _
      rw [hl.calls_quiet hq hb hf]
      exact hi
    | begin hb hnext _ =>
      show DataUse (Lifecycle.calls _).returned _
      rw [(hl.calls_begin hb hnext).eq]
      exact hi
    | finish hf hin hplain =>
      show DataUse (Lifecycle.calls _).returned _
      rw [(hl.calls_finish hf hin).eq]
      obtain ⟨hlaunch, hclose, hjoin⟩ := hplain.not_data
      exact DataUse.finishOther hi hlaunch hclose hjoin
    | finishData hf hin hon hdata =>
      obtain ⟨-, hstart, heq⟩ := hl.calls_finish hf hin
      show DataUse (Lifecycle.calls _).returned _
      rw [heq]
      exact DataUse.finish hi (fun _ => hl.mem_begun) hstart hon hdata
    | launchScheduler hf hin =>
      show DataUse (Lifecycle.calls _).returned _
      rw [(hl.calls_finish hf hin).eq]
      exact DataUse.finishOther hi nofun nofun nofun
    | finishScheduler hf hin hon _ _ =>
      show DataUse (Lifecycle.calls _).returned _
      rw [(hl.calls_finish hf hin).eq]
      cases hon <;> exact DataUse.finishOther hi nofun nofun nofun
    | control h => cases h <;> exact hi
    | schedule h => cases h <;> exact hi
    | poll h =>
      cases h with
      | push _ => exact hi.push _
      | _ => exact hi
    | push => exact hi.push _
    | process hdata => exact hi.worker hdata
    | _ => exact hi

end MiniGateway.Runtime
