/-
  The control dispatcher in a running runtime.

  The caller that runs a sequence of calls is thread `0` of the dispatcher, and inside it exactly
  during the three calls of the sequence that are the dispatcher's (`ControlUse.position`).  So the
  dispatcher has been started, asked to stop and joined when these calls have returned; the join is
  certain only while `stop` is called from outside (`ControlJoined`), since on the control worker it
  throws.
-/
import MiniGateway.Dispatcher.Joining
import MiniGateway.Runtime.Polling

namespace MiniGateway

/-- The lifecycle call that a thread of the dispatcher is in. -/
def Caller.instr? : Caller → Option Instr
  | .start => some .startDispatcher
  | .requestStop false _ => some .requestStopDispatcher
  | .join false _ => some .joinDispatcher
  | _ => none

/-- The thread is in `submit`, or nowhere. -/
def Caller.isSubmitter : Caller → Bool
  | .idle | .submit _ _ => true
  | _ => false

namespace Dispatcher

variable {s s' : Dispatcher} {t : ThreadId} {e : CallerEvent}

/-- A thread moves alone. -/
theorem CallerEffect.others (h : CallerEffect s t e s') :
    ∀ u, u ≠ t → s'.callers u = s.callers u := by
  intro u hu
  cases h <;> exact Function.update_of_ne hu _ _

/-- Flags that are set stay set. -/
theorem CallerEffect.flags (h : CallerEffect s t e s') :
    (s.started = true → s'.started = true) ∧ (s.stopping = true → s'.stopping = true) ∧
      (s.stopRequestComplete = true → s'.stopRequestComplete = true) ∧
      (s.joined = true → s'.joined = true) := by
  cases h with
  | started _ _ _ _ => exact ⟨fun _ => rfl, id, id, id⟩
  | stopFirst _ _ _ => exact ⟨id, fun _ => rfl, id, id⟩
  | stopFinish _ _ => exact ⟨id, id, fun _ => rfl, id⟩
  | joinFinish _ _ => exact ⟨id, id, id, fun hj => by simp [hj]⟩
  | _ => exact ⟨id, id, id, id⟩

/-- Who starts the dispatcher is in `start`. -/
theorem CallerEffect.started_of (h : CallerEffect s t e s') (hstarted : s'.started = true) :
    s.started = true ∨ s.callers t = .start := by
  cases h with
  | started hpc _ _ _ => exact .inr hpc
  | _ => exact .inl hstarted

/-- A thread in one of the three calls stays there until the call ends. -/
theorem CallerEffect.instr (h : CallerEffect s t e s') {instr : Instr}
    (hin : (s.callers t).instr? = some instr) :
    s'.callers t = .idle ∨ (s'.callers t).instr? = some instr := by
  have hstop : ∀ {inStop : Bool} {pc pc' : RequestStopPc}, s.callers t = .requestStop inStop pc →
      (Function.update s.callers t (.requestStop inStop pc') t).instr? = some instr := by
    intro inStop pc pc' hpc
    rw [hpc] at hin
    rw [Function.update_self, ← hin]
    cases inStop <;> rfl
  have hjoin : ∀ {inStop : Bool} {pc pc' : JoinPc}, s.callers t = .join inStop pc →
      (Function.update s.callers t (.join inStop pc') t).instr? = some instr := by
    intro inStop pc pc' hpc
    rw [hpc] at hin
    rw [Function.update_self, ← hin]
    cases inStop <;> rfl
  cases h with
  | startRefused _ _ _ => exact .inl (Function.update_self ..)
  | started _ _ _ _ => exact .inl (Function.update_self ..)
  | @stopAgain inStop hpc _ _ =>
    cases inStop with
    | false => exact .inl (Function.update_self ..)
    | true => rw [hpc] at hin; cases hin
  | @stopFinish inStop hpc _ =>
    cases inStop with
    | false => exact .inl (Function.update_self ..)
    | true => rw [hpc] at hin; cases hin
  | stopFirst hpc _ _ => exact .inr (hstop hpc)
  | stopClose hpc => exact .inr (hstop hpc)
  | stopCancel hpc => exact .inr (hstop hpc)
  | stopDelivered hpc => exact .inr (hstop hpc)
  | stopSkip hpc _ => exact .inr (hstop hpc)
  | stopCount hpc _ => exact .inr (hstop hpc)
  | stopInvoke hpc => exact .inr (hstop hpc)
  | stopCallbackReturn hpc => exact .inr (hstop hpc)
  | joinUnstarted _ _ _ => exact .inl (Function.update_self ..)
  | joinAlready _ _ _ _ => exact .inl (Function.update_self ..)
  | joinFinish _ _ => exact .inl (Function.update_self ..)
  | joinLock hpc _ _ => exact .inr (hjoin hpc)
  | joinFirst hpc _ _ _ _ => exact .inr (hjoin hpc)
  | joinWorker hpc _ => exact .inr (hjoin hpc)
  | _ hpc => rw [hpc] at hin; cases hin

/-- `request_stop` ends with `stopping_` set. -/
theorem CallerEffect.stopping_of_idle (h : CallerEffect s t e s') (hl : Locking s)
    (hs : Stopping s) {inStop : Bool} {pc : RequestStopPc}
    (hpc : s.callers t = .requestStop inStop pc) (hidle : s'.callers t = .idle) :
    s'.stopping = true := by
  have hmoved : ∀ {pc' : RequestStopPc},
      Function.update s.callers t (.requestStop inStop pc') t ≠ .idle := by
    intro pc'
    rw [Function.update_self]
    simp
  cases h with
  | stopAgain _ _ hstopping => exact hstopping
  | stopFinish hfinish _ =>
    have howner := hl.stopper.owner_eq (t := t) (by rw [hfinish]; rfl)
    exact (hs.stopper (by rw [howner]; simp)).1
  | stopFirst _ _ _ => rfl
  | stopClose hpc' => rw [hpc] at hpc'; cases hpc'; exact absurd hidle hmoved
  | stopCancel hpc' => rw [hpc] at hpc'; cases hpc'; exact absurd hidle hmoved
  | stopDelivered hpc' => rw [hpc] at hpc'; cases hpc'; exact absurd hidle hmoved
  | stopSkip hpc' _ => rw [hpc] at hpc'; cases hpc'; exact absurd hidle hmoved
  | stopCount hpc' _ => rw [hpc] at hpc'; cases hpc'; exact absurd hidle hmoved
  | stopInvoke hpc' => rw [hpc] at hpc'; cases hpc'; exact absurd hidle hmoved
  | stopCallbackReturn hpc' => rw [hpc] at hpc'; cases hpc'; exact absurd hidle hmoved
  | _ hpc' => rw [hpc] at hpc'; cases hpc'

/-- A thread in `submit` stays there until the call returns. -/
theorem CallerEffect.submitter (h : CallerEffect s t e s')
    (hin : (s.callers t).isSubmitter = true)
    (he : ∀ c, e = .call c → ∃ request completion, c = .submit request completion) :
    (s'.callers t).isSubmitter = true := by
  cases h with
  | callStart _ | callRequestStop _ | callJoin _ | callStop _ =>
    obtain ⟨request, completion, heq⟩ := he _ rfl
    cases heq
  | callSubmit _ | submitCount _ | submitValid _ _ | submitInvalid _ _ | submitRefused _ _ _
  | submitLock _ _ _ _ | submitResolved _ | submitUnresolved _ | submitAccepted _ _
  | submitRejected _ _ | submitRecord _ =>
    show (Function.update s.callers t _ t).isSubmitter = true
    rw [Function.update_self]
    rfl
  | _ hpc => rw [hpc] at hin; cases hin

end Dispatcher

namespace Runtime

variable {parts : RuntimeParts} {s s' : Runtime}

/-! ### The dispatcher and the calls -/

/-- What the calls made so far say about the dispatcher. -/
structure ControlUse (c : Calls) (d : Dispatcher) : Prop where
  /-- The caller of a sequence is inside the dispatcher only during a call of the dispatcher's. -/
  position : d.callers 0 = .idle ∨
    ∃ instr, (d.callers 0).instr? = some instr ∧ c.current = some instr
  submitters : ∀ t, (d.callers (t + 1)).isSubmitter = true
  started : d.started = true → .startDispatcher ∈ c.returned ∨ c.current = some .startDispatcher
  returned : .startDispatcher ∈ c.returned → d.started = true
  stopping : c.current = some .requestStopDispatcher → d.callers 0 = .idle → d.stopping = true
  stopped : .requestStopDispatcher ∈ c.returned → d.stopRequestComplete = true

theorem Caller.isDispatcher_instr {caller : Caller} {instr : Instr}
    (h : caller.instr? = some instr) : instr.isDispatcher = true := by
  unfold Caller.instr? at h
  split at h
  · obtain rfl := Option.some.inj h
    rfl
  · obtain rfl := Option.some.inj h
    rfl
  · obtain rfl := Option.some.inj h
    rfl
  · cases h

namespace ControlUse

variable {c : Calls} {d d' : Dispatcher} {instr : Instr} {e : CallerEvent}

/-- Outside the dispatcher's own calls nobody is in its lifecycle functions. -/
theorem idle (h : ControlUse c d) (hcurrent : ∀ instr, c.current = some instr →
    instr.isDispatcher = false) : d.callers 0 = .idle := by
  rcases h.position with hidle | ⟨instr, hinstr, hin⟩
  · exact hidle
  · have hno := hcurrent instr hin
    rw [Caller.isDispatcher_instr hinstr] at hno
    cases hno

/-- Whoever has set `stopping_` is thread `0`. -/
theorem stopper_eq_none (h : ControlUse c d) (hl : Dispatcher.Locking d)
    (hidle : d.callers 0 = .idle) : d.history.stopper = none := by
  by_contra hne
  obtain ⟨t, ht⟩ := Option.ne_none_iff_exists'.mp hne
  have hstopping := (hl.stopper t).mpr ht
  cases t with
  | zero =>
    rw [hidle] at hstopping
    cases hstopping
  | succ t =>
    have hsubmitter := h.submitters t
    cases hpc : d.callers (t + 1) with
    | requestStop inStop pc => rw [hpc] at hsubmitter; cases hsubmitter
    | _ => rw [hpc] at hstopping; cases hstopping

theorem begin (h : ControlUse c d) (hcurrent : c.current = none) (hd : Began d instr d') :
    ControlUse (c.begin instr) d' := by
  have hidle : d.callers 0 = .idle := h.idle (by simp [hcurrent])
  have hstarted : d.started = true → .startDispatcher ∈ c.returned := by
    intro hs
    rcases h.started hs with hr | hc
    · exact hr
    · rw [hcurrent] at hc
      cases hc
  -- what the three calls of the dispatcher have in common
  have henter : ∀ caller : Caller, caller.instr? = some instr →
      ControlUse (c.begin instr) (d.goto 0 caller) := by
    intro caller hinstr
    refine ⟨.inr ⟨instr, by simpa using hinstr, rfl⟩, ?_, fun hs => .inl (hstarted hs), h.returned,
      ?_, h.stopped⟩
    · intro t
      simpa using h.submitters t
    · rintro - hcaller
      rw [Dispatcher.goto_callers, Function.update_self] at hcaller
      rw [hcaller] at hinstr
      cases hinstr
  cases hd with
  | startDispatcher hd =>
    cases Dispatcher.stepCaller_effect hd with
    | callStart _ => exact henter .start rfl
  | requestStopDispatcher hd =>
    cases Dispatcher.stepCaller_effect hd with
    | callRequestStop _ => exact henter (.requestStop false .lock) rfl
  | joinDispatcher hd =>
    cases Dispatcher.stepCaller_effect hd with
    | callJoin _ => exact henter (.join false .lock) rfl
  | other hno =>
    refine ⟨.inl hidle, h.submitters, fun hs => .inl (hstarted hs), h.returned, ?_, h.stopped⟩
    intro heq
    obtain rfl := Option.some.inj heq
    cases hno

/-- The caller of a sequence moves inside a call of the dispatcher's. -/
theorem caller (h : ControlUse c d) (hl : Dispatcher.Locking d) (hs : Dispatcher.Stopping d)
    (he : Dispatcher.CallerEffect d 0 e d') (hcall : ∀ call, e ≠ .call call) :
    ControlUse c d' := by
  have hbusy : d.callers 0 ≠ .idle := by
    intro hidle
    cases he with
    | callStart _ | callSubmit _ | callRequestStop _ | callJoin _ | callStop _ =>
      exact hcall _ rfl
    | _ hpc => rw [hidle] at hpc; cases hpc
  obtain ⟨instr, hinstr, hcurrent⟩ := h.position.resolve_left hbusy
  obtain ⟨hstarted, hstopping, hcomplete, -⟩ := he.flags
  refine ⟨?_, ?_, ?_, fun hr => hstarted (h.returned hr), ?_, fun hr => hcomplete (h.stopped hr)⟩
  · rcases he.instr hinstr with hidle | hsame
    · exact .inl hidle
    · exact .inr ⟨instr, hsame, hcurrent⟩
  · intro t
    rw [he.others (t + 1) (by simp)]
    exact h.submitters t
  · intro hs'
    rcases he.started_of hs' with hold | hpc
    · exact h.started hold
    · rw [hpc] at hinstr
      obtain rfl := Option.some.inj hinstr
      exact .inr hcurrent
  · intro hstop hidle
    obtain rfl := Option.some.inj (hcurrent.symm.trans hstop)
    cases hpc : d.callers 0 with
    | requestStop inStop pc => exact he.stopping_of_idle hl hs hpc hidle
    | join inStop pc => rw [hpc] at hinstr; cases inStop <;> cases hinstr
    | _ => rw [hpc] at hinstr; cases hinstr

/-- A thread moves in `submit`. -/
theorem submitter (h : ControlUse c d) {t : ThreadId}
    (he : Dispatcher.CallerEffect d (t + 1) e d')
    (hcall : ∀ call, e = .call call → ∃ request completion, call = .submit request completion) :
    ControlUse c d' := by
  have hzero : d'.callers 0 = d.callers 0 := he.others 0 (by simp)
  obtain ⟨hstarted, hstopping, hcomplete, -⟩ := he.flags
  refine ⟨?_, ?_, ?_, fun hr => hstarted (h.returned hr), ?_, fun hr => hcomplete (h.stopped hr)⟩
  · rw [hzero]
    exact h.position
  · intro u
    by_cases hut : u = t
    · subst hut
      exact he.submitter (h.submitters u) hcall
    · rw [he.others (u + 1) (by simpa using hut)]
      exact h.submitters u
  · intro hs'
    rcases he.started_of hs' with hold | hpc
    · exact h.started hold
    · have hsubmitter := h.submitters t
      rw [hpc] at hsubmitter
      cases hsubmitter
  · intro hstop hidle
    rw [hzero] at hidle
    exact hstopping (h.stopping hstop hidle)

theorem worker (h : ControlUse c d) {e : WorkerEvent} (he : Dispatcher.WorkerEffect true d e d') :
    ControlUse c d' := by
  obtain ⟨hcallers, -, hstarted, hstopping, hcomplete, -, -⟩ := he.frame
  refine ⟨?_, ?_, ?_, ?_, ?_, ?_⟩
  · rw [hcallers]
    exact h.position
  · rw [hcallers]
    exact h.submitters
  · rw [hstarted]
    exact h.started
  · rw [hstarted]
    exact h.returned
  · rw [hcallers, hstopping]
    exact h.stopping
  · rw [hcomplete]
    exact h.stopped

/-- A call ends; one of the dispatcher's ends when its function has returned. -/
theorem finish (h : ControlUse c d) (hl : Dispatcher.Locking d) (hs : Dispatcher.Stopping d)
    (hcurrent : c.current = some instr) {ok : Bool}
    (hreturned : instr.isDispatcher = true →
      d.callers 0 = .idle ∧ (instr = .startDispatcher → ok = d.started)) :
    ControlUse (c.finish instr ok) d := by
  have hidle : d.callers 0 = .idle := by
    cases hno : instr.isDispatcher with
    | true => exact (hreturned hno).1
    | false =>
      refine h.idle fun other hother => ?_
      obtain rfl := Option.some.inj (hcurrent.symm.trans hother)
      exact hno
  refine ⟨.inl hidle, h.submitters, ?_, ?_, nofun, ?_⟩
  · intro hstarted
    refine .inl ((Calls.mem_finish_returned ..).mpr ?_)
    rcases h.started hstarted with hr | hc
    · exact .inl hr
    · obtain rfl := Option.some.inj (hcurrent.symm.trans hc)
      exact .inr ⟨rfl, ((hreturned rfl).2 rfl).trans hstarted⟩
  · intro hr
    rcases (Calls.mem_finish_returned ..).mp hr with hold | ⟨rfl, rfl⟩
    · exact h.returned hold
    · exact ((hreturned rfl).2 rfl).symm
  · intro hr
    rcases (Calls.mem_finish_returned ..).mp hr with hold | ⟨rfl, -⟩
    · exact h.stopped hold
    · exact hs.finished (h.stopping hcurrent hidle) (h.stopper_eq_none hl hidle)

end ControlUse

theorem Plain.control {ok : Bool} {instr : Instr} (h : Plain s ok instr) :
    instr.isDispatcher = true →
      s.dispatcher.callers 0 = .idle ∧ (instr = .startDispatcher → ok = s.dispatcher.started) := by
  cases h with
  | startDispatcher hidle hok => exact fun _ => ⟨hidle, fun _ => hok⟩
  | requestStopDispatcher hidle => exact fun _ => ⟨hidle, nofun⟩
  | joinDispatcher hidle => exact fun _ => ⟨hidle, nofun⟩
  | _ => exact nofun

/-- `ControlUse` holds of every reachable state. -/
theorem control_use (h : (runtimeSystem parts).Reachable s) : ControlUse s.calls s.dispatcher := by
  refine h.invariant (I := fun s => ControlUse s.calls s.dispatcher) ?_ ?_
  · rintro s rfl
    exact ⟨.inl rfl, fun _ => rfl, nofun, nofun, nofun, nofun⟩
  · intro s e s' hr hi hstep
    have hl := lifecycle_invariant hr
    have hd := dispatcher_invariant hr
    -- a call ends, whichever part of the runtime it has been made on
    have hend : ∀ {a : Actor} {ok : Bool} {now : TimePoint} {instr : Instr} {l : Lifecycle},
        s.lifecycle.step parts (.finish a ok now) = some l →
        s.lifecycle.inCall a = some instr →
        (instr.isDispatcher = true → s.dispatcher.callers 0 = .idle ∧
          (instr = .startDispatcher → ok = s.dispatcher.started)) →
        ControlUse l.calls s.dispatcher := by
      intro a ok now instr l hf hin hreturned
      obtain ⟨hcurrent, -, heq⟩ := hl.calls_finish hf hin
      rw [heq]
      exact ControlUse.finish hi hd.locking hd.stopping hcurrent hreturned
    cases step_effect hstep with
    | quiet hq hb hf =>
      show ControlUse (Lifecycle.calls _) _
      rw [hl.calls_quiet hq hb hf]
      exact hi
    | begin hb hnext hbegan =>
      obtain ⟨hcurrent, -, -, heq⟩ := hl.calls_begin hb hnext
      show ControlUse (Lifecycle.calls _) _
      rw [heq]
      exact ControlUse.begin hi hcurrent hbegan
    | finish hf hin hplain => exact hend hf hin hplain.control
    | finishData hf hin hon _ => exact hend hf hin (by cases hon <;> simp [Instr.isDispatcher])
    | launchScheduler hf hin => exact hend hf hin (by simp [Instr.isDispatcher])
    | finishScheduler hf hin hon _ _ =>
      exact hend hf hin (by cases hon <;> simp [Instr.isDispatcher])
    | dispatch hin hinstr hallow hdisp =>
      refine ControlUse.caller hi hd.locking hd.stopping (Dispatcher.stepCaller_effect hdisp) ?_
      rintro call rfl
      cases hallow
    | submitControl hdisp =>
      refine ControlUse.submitter hi (Dispatcher.stepCaller_effect hdisp) ?_
      rintro call ⟨⟩
      exact ⟨_, _, rfl⟩
    | submit hcall hdisp =>
      refine ControlUse.submitter hi (Dispatcher.stepCaller_effect hdisp) ?_
      intro call heq
      exact absurd heq (hcall call)
    | control h =>
      obtain ⟨hlife, -, -, -, hdisp⟩ := h.frame
      unfold calls
      rw [hlife]
      exact ControlUse.worker hi (Dispatcher.stepWorker_effect hdisp)
    | schedule h => cases h <;> exact hi
    | poll h => cases h <;> exact hi
    | _ => exact hi

/-! ### Joining from outside -/

/-- No completion callback is in `start` or `stop`. -/
def Outside (s : Lifecycle) : Prop := s.frames .executed = .idle ∧ s.frames .cancelled = .idle

theorem Outside.step {l l' : Lifecycle} {e : LifecycleEvent} (h : Outside l)
    (hl : l.step parts e = some l') (he : (RuntimeEvent.lifecycle e).isExternal = true) :
    Outside l' := by
  -- only its own steps move a caller, and the first of them is a call
  have hother : ∀ {a : Actor} {frame frame' : Frame}, l.frames a = frame → frame ≠ .idle →
      Function.update l.frames a frame' .executed = .idle ∧
        Function.update l.frames a frame' .cancelled = .idle := by
    intro a frame frame' hpc hne
    have hexecuted : Actor.executed ≠ a := by
      rintro rfl
      exact hne (hpc.symm.trans h.1)
    have hcancelled : Actor.cancelled ≠ a := by
      rintro rfl
      exact hne (hpc.symm.trans h.2)
    rw [Function.update_of_ne hexecuted, Function.update_of_ne hcancelled]
    exact h
  cases Lifecycle.step_effect hl with
  | @call a c hpc =>
    cases a with
    | thread t =>
      have hgoto : ∀ frame, Outside (l.goto (.thread t) frame) := by
        intro frame
        unfold Outside Lifecycle.goto
        simp only [Function.update_of_ne (show Actor.executed ≠ .thread t by simp),
          Function.update_of_ne (show Actor.cancelled ≠ .thread t by simp)]
        exact h
      exact hgoto _
    | executed => cases he
    | cancelled => cases he
  | startRefused hpc _ _ => exact hother hpc nofun
  | startFirst hpc _ _ => exact hother hpc nofun
  | stopUnstarted hpc _ _ => exact hother hpc nofun
  | stopStopped hpc _ _ => exact hother hpc nofun
  | stopWait hpc _ _ _ _ => exact hother hpc nofun
  | stopFirst hpc _ _ _ _ => exact hother hpc nofun
  | wake hpc _ _ => exact hother hpc nofun
  | throwStart hpc _ => exact hother hpc nofun
  | completeStop hpc _ _ => exact hother hpc nofun
  | _ hpc => exact hother hpc nofun

/-- `Outside` holds while `start` and `stop` are only called from outside. -/
theorem outside (h : (externalSystem parts).Reachable s) : Outside s.lifecycle := by
  refine h.invariant (I := fun s => Outside s.lifecycle) ?_ ?_
  · rintro s rfl
    exact ⟨rfl, rfl⟩
  · intro s e s' _ hi hstep
    obtain ⟨hexternal, hstep⟩ := TransitionSystem.restrict_step.mp hstep
    cases step_effect hstep with
    | quiet hl _ _ => exact hi.step hl hexternal
    | begin hl _ _ => exact hi.step hl hexternal
    | finish hl _ _ => exact hi.step hl hexternal
    | finishData hl _ _ _ => exact hi.step hl hexternal
    | launchScheduler hl _ => exact hi.step hl hexternal
    | finishScheduler hl _ _ _ _ => exact hi.step hl hexternal
    | control h => rw [h.frame.1]; exact hi
    | schedule h => cases h <;> exact hi
    | poll h => rw [h.not_idle.2.2.2]; exact hi
    | _ => exact hi

/-- The join of the dispatcher has succeeded when it has returned. -/
structure ControlJoined (c : Calls) (d : Dispatcher) : Prop where
  succeeds : ∀ inStop, d.callers 0 ≠ .join inStop (.finish false)
  joining : c.current = some .joinDispatcher → d.callers 0 = .idle → d.started = true →
    d.joined = true
  joined : .joinDispatcher ∈ c.returned → d.started = true → d.joined = true

namespace ControlJoined

variable {c : Calls} {d d' : Dispatcher} {instr : Instr}

theorem begin (h : ControlJoined c d) (hd : Began d instr d') :
    ControlJoined (c.begin instr) d' := by
  have henter : ∀ caller : Caller, caller ≠ .idle →
      (∀ inStop, caller ≠ .join inStop (.finish false)) →
      ControlJoined (c.begin instr) (d.goto 0 caller) := by
    intro caller hbusy hfinish
    refine ⟨?_, ?_, h.joined⟩
    · intro inStop
      rw [Dispatcher.goto_callers, Function.update_self]
      exact hfinish inStop
    · rintro - hidle
      rw [Dispatcher.goto_callers, Function.update_self] at hidle
      exact absurd hidle hbusy
  cases hd with
  | startDispatcher hd =>
    cases Dispatcher.stepCaller_effect hd with
    | callStart _ => exact henter .start nofun nofun
  | requestStopDispatcher hd =>
    cases Dispatcher.stepCaller_effect hd with
    | callRequestStop _ => exact henter (.requestStop false .lock) nofun nofun
  | joinDispatcher hd =>
    cases Dispatcher.stepCaller_effect hd with
    | callJoin _ => exact henter (.join false .lock) nofun nofun
  | other hno =>
    refine ⟨h.succeeds, ?_, h.joined⟩
    intro heq
    obtain rfl := Option.some.inj heq
    cases hno

/-- The caller of a sequence moves inside a call of the dispatcher's, and its join succeeds. -/
theorem caller {e : CallerEvent} (h : ControlJoined c d) (hu : ControlUse c d)
    (hstart : c.current = some .startDispatcher → .joinDispatcher ∉ c.returned)
    (he : Dispatcher.CallerEffect d 0 e d') (hcall : ∀ call, e ≠ .call call)
    (hok : ∀ ok, e = .joinWorker ok → ok = true) : ControlJoined c d' := by
  have hmoved : ∀ {caller : Caller}, (∀ inStop, caller ≠ .join inStop (.finish false)) →
      ∀ inStop, Function.update d.callers 0 caller 0 ≠ .join inStop (.finish false) := by
    intro caller hcaller
    rw [Function.update_self]
    exact hcaller
  have hbusy : ∀ {caller : Caller}, caller ≠ .idle →
      c.current = some .joinDispatcher → Function.update d.callers 0 caller 0 = .idle →
      d.started = true → d.joined = true := by
    intro caller hne _ hidle
    rw [Function.update_self] at hidle
    exact absurd hidle hne
  -- a call that is not the join is not the one in progress
  have hcurrent : ∀ instr, (d.callers 0).instr? = some instr → c.current = some instr := by
    intro instr hinstr
    rcases hu.position with hidle | ⟨instr', hinstr', hc⟩
    · rw [hidle] at hinstr
      cases hinstr
    · obtain rfl := Option.some.inj (hinstr.symm.trans hinstr')
      exact hc
  have hunjoining : ∀ instr, (d.callers 0).instr? = some instr → instr ≠ .joinDispatcher →
      c.current ≠ some .joinDispatcher := by
    intro instr hinstr hne hjoin
    exact hne (Option.some.inj ((hcurrent instr hinstr).symm.trans hjoin))
  cases he with
  | callStart _ | callSubmit _ | callRequestStop _ | callJoin _ | callStop _ =>
    exact absurd rfl (hcall _)
  | startRefused hpc _ _ =>
    have hno := hunjoining .startDispatcher (by rw [hpc]; rfl) (by simp)
    exact ⟨hmoved nofun, fun hjoin => absurd hjoin hno, h.joined⟩
  | started hpc _ _ _ =>
    have hc := hcurrent .startDispatcher (by rw [hpc]; rfl)
    have hno := hunjoining .startDispatcher (by rw [hpc]; rfl) (by simp)
    exact ⟨hmoved nofun, fun hjoin => absurd hjoin hno, fun hr => absurd hr (hstart hc)⟩
  | @stopAgain inStop hpc _ _ =>
    cases inStop with
    | true => exact ⟨hmoved nofun, hbusy nofun, h.joined⟩
    | false =>
      have hno := hunjoining .requestStopDispatcher (by rw [hpc]; rfl) (by simp)
      exact ⟨hmoved nofun, fun hjoin => absurd hjoin hno, h.joined⟩
  | @stopFinish inStop hpc _ =>
    cases inStop with
    | true => exact ⟨hmoved nofun, hbusy nofun, h.joined⟩
    | false =>
      have hno := hunjoining .requestStopDispatcher (by rw [hpc]; rfl) (by simp)
      exact ⟨hmoved nofun, fun hjoin => absurd hjoin hno, h.joined⟩
  | joinUnstarted hpc _ hstarted =>
    refine ⟨hmoved nofun, ?_, h.joined⟩
    intro _ _ hs
    have hs : d.started = true := hs
    rw [hstarted] at hs
    cases hs
  | joinAlready hpc _ _ hj => exact ⟨hmoved nofun, fun _ _ _ => hj, fun _ _ => hj⟩
  | @joinFinish inStop ok hpc _ =>
    cases ok with
    | false => exact absurd hpc (h.succeeds inStop)
    | true =>
      have hj : (d.joined || true) = true := by simp
      exact ⟨hmoved nofun, fun _ _ _ => hj, fun _ _ => hj⟩
  | @joinWorker inStop ok hpc _ =>
    obtain rfl := hok ok rfl
    exact ⟨hmoved nofun, hbusy nofun, h.joined⟩
  | submitInvalid hpc _ | submitRecord hpc =>
    rcases hu.position with hidle | ⟨instr, hinstr, -⟩
    · rw [hidle] at hpc
      cases hpc
    · rw [hpc] at hinstr
      cases hinstr
  | _ hpc => exact ⟨hmoved nofun, hbusy nofun, h.joined⟩

theorem submitter (h : ControlJoined c d) (hu : ControlUse c d) {t : ThreadId} {e : CallerEvent}
    (he : Dispatcher.CallerEffect d (t + 1) e d') : ControlJoined c d' := by
  have hzero : d'.callers 0 = d.callers 0 := he.others 0 (by simp)
  obtain ⟨-, -, -, hjoined⟩ := he.flags
  have hstarted : d'.started = true → d.started = true := by
    intro hs
    rcases he.started_of hs with hold | hpc
    · exact hold
    · have hsubmitter := hu.submitters t
      rw [hpc] at hsubmitter
      cases hsubmitter
  refine ⟨?_, ?_, fun hr hs => hjoined (h.joined hr (hstarted hs))⟩
  · rw [hzero]
    exact h.succeeds
  · rw [hzero]
    exact fun hc hidle hs => hjoined (h.joining hc hidle (hstarted hs))

theorem worker (h : ControlJoined c d) {e : WorkerEvent}
    (he : Dispatcher.WorkerEffect true d e d') : ControlJoined c d' := by
  have hjoined : d'.joined = d.joined := by cases he <;> rfl
  obtain ⟨hcallers, -, hstarted, -, -, -, -⟩ := he.frame
  refine ⟨?_, ?_, ?_⟩
  · rw [hcallers]
    exact h.succeeds
  · rw [hcallers, hstarted, hjoined]
    exact h.joining
  · rw [hstarted, hjoined]
    exact h.joined

theorem finish (h : ControlJoined c d) (hcurrent : c.current = some instr) {ok : Bool}
    (hreturned : instr.isDispatcher = true → d.callers 0 = .idle) :
    ControlJoined (c.finish instr ok) d := by
  refine ⟨h.succeeds, nofun, ?_⟩
  intro hr hstarted
  rcases (Calls.mem_finish_returned ..).mp hr with hold | ⟨rfl, -⟩
  · exact h.joined hold hstarted
  · exact h.joining hcurrent (hreturned rfl) hstarted

end ControlJoined

/-- `ControlJoined` holds while `stop` is only called from outside. -/
theorem control_joined (h : (externalSystem parts).Reachable s) :
    ControlJoined s.calls s.dispatcher := by
  refine h.invariant (I := fun s => ControlJoined s.calls s.dispatcher) ?_ ?_
  · rintro s rfl
    exact ⟨nofun, nofun, nofun⟩
  · intro s e s' hr hi hstep
    obtain ⟨-, hstep⟩ := TransitionSystem.restrict_step.mp hstep
    have hl := lifecycle_invariant hr.of_restrict
    have hu := control_use hr.of_restrict
    have hout := outside hr
    have hend : ∀ {a : Actor} {ok : Bool} {now : TimePoint} {instr : Instr} {l : Lifecycle},
        s.lifecycle.step parts (.finish a ok now) = some l →
        s.lifecycle.inCall a = some instr →
        (instr.isDispatcher = true → s.dispatcher.callers 0 = .idle) →
        ControlJoined l.calls s.dispatcher := by
      intro a ok now instr l hf hin hreturned
      obtain ⟨hcurrent, -, heq⟩ := hl.calls_finish hf hin
      rw [heq]
      exact ControlJoined.finish hi hcurrent hreturned
    cases step_effect hstep with
    | quiet hq hb hf =>
      show ControlJoined (Lifecycle.calls _) _
      rw [hl.calls_quiet hq hb hf]
      exact hi
    | begin hb hnext hbegan =>
      show ControlJoined (Lifecycle.calls _) _
      rw [(hl.calls_begin hb hnext).eq]
      exact ControlJoined.begin hi hbegan
    | finish hf hin hplain => exact hend hf hin fun hno => (hplain.control hno).1
    | finishData hf hin hon _ => exact hend hf hin (by cases hon <;> simp [Instr.isDispatcher])
    | launchScheduler hf hin => exact hend hf hin (by simp [Instr.isDispatcher])
    | finishScheduler hf hin hon _ _ =>
      exact hend hf hin (by cases hon <;> simp [Instr.isDispatcher])
    | @dispatch a e instr d hin hinstr hallow hdisp =>
      refine ControlJoined.caller hi hu ?_ (Dispatcher.stepCaller_effect hdisp) ?_ ?_
      · intro hcurrent hmem
        have hstart := hl.begun_isStart hcurrent rfl _ (hl.mem_begun hmem)
        cases hstart
      · rintro call rfl
        cases hallow
      · rintro ok rfl
        -- the caller is a thread, so it is not the control worker
        have hallow : ok = !s.onControlWorker a := by simpa [allowsDispatch] using hallow
        cases a with
        | thread t => exact hallow
        | executed =>
          rcases Lifecycle.inCall_eq hin with ⟨_, _, hpc⟩ | ⟨_, _, hpc⟩
          · rw [hout.1] at hpc
            cases hpc
          · rw [hout.1] at hpc
            cases hpc
        | cancelled =>
          rcases Lifecycle.inCall_eq hin with ⟨_, _, hpc⟩ | ⟨_, _, hpc⟩
          · rw [hout.2] at hpc
            cases hpc
          · rw [hout.2] at hpc
            cases hpc
    | submitControl hdisp => exact ControlJoined.submitter hi hu (Dispatcher.stepCaller_effect hdisp)
    | submit hcall hdisp => exact ControlJoined.submitter hi hu (Dispatcher.stepCaller_effect hdisp)
    | control h =>
      obtain ⟨hlife, -, -, -, hdisp⟩ := h.frame
      unfold calls
      rw [hlife]
      exact ControlJoined.worker hi (Dispatcher.stepWorker_effect hdisp)
    | schedule h => cases h <;> exact hi
    | poll h => cases h <;> exact hi
    | _ => exact hi

end Runtime

end MiniGateway
