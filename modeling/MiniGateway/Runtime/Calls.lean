/-
  The calls of a lifecycle, as the components see them.

  A component does not see who runs a sequence of calls, or which sequence it is: it sees that a
  call begins and that it ends.  `Lifecycle.calls` is that view, and each step of the lifecycle
  leaves it alone, begins one call or ends one.  The second half says which calls have
  returned when another one has begun.
-/
import MiniGateway.Runtime.Cases

namespace MiniGateway

open StraightLine (Execution)

/-- The call in progress, and the calls that have begun and returned: those of `start`, then those
of the shutdown. -/
structure Calls where
  current : Option Instr
  begun : List Instr
  returned : List Instr

/-- The call is one of the `try` block of `start`. -/
def Instr.isStart : Instr → Bool
  | startPlugin _ | startDispatcher | launchProcessing | openControls | launchScheduler => true
  | _ => false

/-- The call in progress. -/
def Sequence.call? : Sequence → Option Instr
  | starting _ call _ => call
  | catching _ => none
  | stopping _ call _ => call

namespace Calls

/-- `instr` begins. -/
def begin (c : Calls) (instr : Instr) : Calls :=
  { c with current := some instr, begun := c.begun ++ [instr] }

/-- The call in progress ends; it was `instr`. -/
def finish (c : Calls) (instr : Instr) (ok : Bool) : Calls :=
  { c with current := none, returned := if ok then c.returned ++ [instr] else c.returned }

section Fields

variable (c : Calls) (instr : Instr) (ok : Bool)

@[simp] theorem begin_current : (c.begin instr).current = some instr := rfl

@[simp] theorem begin_returned : (c.begin instr).returned = c.returned := rfl

@[simp] theorem finish_current : (c.finish instr ok).current = none := rfl

@[simp] theorem finish_begun : (c.finish instr ok).begun = c.begun := rfl

@[simp] theorem mem_begin_begun {other : Instr} :
    other ∈ (c.begin instr).begun ↔ other ∈ c.begun ∨ other = instr := by
  simp [begin]

@[simp] theorem mem_finish_returned {other : Instr} :
    other ∈ (c.finish instr ok).returned ↔ other ∈ c.returned ∨ (other = instr ∧ ok = true) := by
  cases ok <;> simp [finish]

end Fields

end Calls

namespace Lifecycle

variable {parts : RuntimeParts} {s s' : Lifecycle} {e : LifecycleEvent}

/-- The calls so far. -/
def calls (s : Lifecycle) : Calls where
  current := s.current.bind Sequence.call?
  begun := s.history.startBegun ++ s.history.stopBegun
  returned := s.history.startReturned ++ s.history.stopReturned

/-! ### Positions and programs -/

theorem nextCall_eq {a : Actor} {instr : Instr} (h : s.nextCall a = some instr) :
    (∃ locals rest, s.frames a = .sequence (.starting locals none (instr :: rest))) ∨
    ∃ rollback rest, s.frames a = .sequence (.stopping rollback none (instr :: rest)) := by
  unfold nextCall at h
  split at h
  · rename_i locals instr' rest hpc
    obtain rfl := Option.some.inj h
    exact Or.inl ⟨locals, rest, hpc⟩
  · rename_i rollback instr' rest hpc
    obtain rfl := Option.some.inj h
    exact Or.inr ⟨rollback, rest, hpc⟩
  · cases h

theorem inCall_eq {a : Actor} {instr : Instr} (h : s.inCall a = some instr) :
    (∃ locals rest, s.frames a = .sequence (.starting locals (some instr) rest)) ∨
    ∃ rollback rest, s.frames a = .sequence (.stopping rollback (some instr) rest) := by
  unfold inCall at h
  split at h
  · rename_i locals instr' rest hpc
    obtain rfl := Option.some.inj h
    exact Or.inl ⟨locals, rest, hpc⟩
  · rename_i rollback instr' rest hpc
    obtain rfl := Option.some.inj h
    exact Or.inr ⟨rollback, rest, hpc⟩
  · cases h

theorem Locking.current_inCall (hi : Locking s) {a : Actor} {instr : Instr}
    (h : s.inCall a = some instr) : s.calls.current = some instr := by
  rcases inCall_eq h with ⟨locals, rest, hpc⟩ | ⟨rollback, rest, hpc⟩
  · simp [calls, hi.current_eq hpc, Sequence.call?]
  · simp [calls, hi.current_eq hpc, Sequence.call?]

theorem isStart_startPlugins (kind : ℕ → Plugin) (indices : List ℕ) :
    ∀ instr ∈ startPlugins kind indices, instr.isStart = true := by
  intro instr hmem
  obtain ⟨index, -, rfl⟩ := List.mem_map.mp hmem
  rfl

theorem isStart_stopPlugins (kind : ℕ → Plugin) (indices : List ℕ) :
    ∀ instr ∈ stopPlugins kind indices, instr.isStart = false := by
  intro instr hmem
  obtain ⟨index, -, rfl⟩ := List.mem_map.mp hmem
  rfl

theorem isStart_stopWorkers (sources : List ℕ) (dispatcher : Bool) :
    ∀ instr ∈ stopWorkers sources dispatcher, instr.isStart = false := by
  have hsources : ∀ instr ∈ sources.map Instr.requestStopSource, instr.isStart = false := by
    intro instr hmem
    obtain ⟨index, -, rfl⟩ := List.mem_map.mp hmem
    rfl
  unfold stopWorkers
  rw [List.forall_mem_append, List.forall_mem_append]
  refine ⟨⟨hsources, by decide⟩, ?_⟩
  cases dispatcher <;> decide

theorem isStart_startProgram : ∀ instr ∈ startProgram parts, instr.isStart = true := by
  unfold startProgram
  simp only [List.forall_mem_append]
  exact ⟨⟨⟨⟨isStart_startPlugins _ _, isStart_startPlugins _ _⟩, by decide⟩,
    isStart_startPlugins _ _⟩, by decide⟩

theorem isStart_shutdownProgram (sources drivers publishers : List ℕ) (dispatcher : Bool) :
    ∀ instr ∈ shutdownProgram sources dispatcher drivers publishers, instr.isStart = false := by
  unfold shutdownProgram
  simp only [List.forall_mem_append]
  exact ⟨⟨⟨⟨isStart_stopWorkers _ _, isStart_stopPlugins _ _⟩, isStart_stopPlugins _ _⟩,
    by decide⟩, isStart_stopPlugins _ _⟩

theorem Invariant.isStart_startBegun (h : Invariant parts s) {instr : Instr}
    (hinstr : instr ∈ s.history.startBegun) : instr.isStart = true :=
  isStart_startProgram _ (h.start_execution.mem_program hinstr)

theorem Invariant.isStart_stopBegun (h : Invariant parts s) {instr : Instr}
    (hinstr : instr ∈ s.history.stopBegun) : instr.isStart = false := by
  obtain ⟨sources, dispatcher, drivers, publishers, hexecution, -⟩ := h.shutdown_execution hinstr
  exact isStart_shutdownProgram _ _ _ _ _ (hexecution.mem_program hinstr)

/-! ### A call belongs to one sequence -/

section Membership

variable {instr : Instr}

theorem Invariant.mem_startBegun (h : Invariant parts s) (hstart : instr.isStart = true) :
    instr ∈ s.calls.begun ↔ instr ∈ s.history.startBegun := by
  refine ⟨fun hmem => ?_, fun hmem => List.mem_append_left _ hmem⟩
  rcases List.mem_append.mp hmem with hmem | hmem
  · exact hmem
  · rw [h.isStart_stopBegun hmem] at hstart
    cases hstart

theorem Invariant.mem_startReturned (h : Invariant parts s) (hstart : instr.isStart = true) :
    instr ∈ s.calls.returned ↔ instr ∈ s.history.startReturned := by
  refine ⟨fun hmem => ?_, fun hmem => List.mem_append_left _ hmem⟩
  rcases List.mem_append.mp hmem with hmem | hmem
  · exact hmem
  · rw [h.isStart_stopBegun (h.stop_execution.mem_begun hmem)] at hstart
    cases hstart

theorem Invariant.mem_stopBegun (h : Invariant parts s) (hstop : instr.isStart = false) :
    instr ∈ s.calls.begun ↔ instr ∈ s.history.stopBegun := by
  refine ⟨fun hmem => ?_, fun hmem => List.mem_append_right _ hmem⟩
  rcases List.mem_append.mp hmem with hmem | hmem
  · rw [h.isStart_startBegun hmem] at hstop
    cases hstop
  · exact hmem

theorem Invariant.mem_begun (h : Invariant parts s) (hmem : instr ∈ s.calls.returned) :
    instr ∈ s.calls.begun := by
  rcases List.mem_append.mp hmem with hmem | hmem
  · exact List.mem_append_left _ (h.start_execution.mem_begun hmem)
  · exact List.mem_append_right _ (h.stop_execution.mem_begun hmem)

/-- The call in progress has begun. -/
theorem Invariant.current_begun (h : Invariant parts s) (hcurrent : s.calls.current = some instr) :
    instr ∈ s.calls.begun := by
  obtain ⟨position, hposition, hcall⟩ := Option.bind_eq_some_iff.mp hcurrent
  have hduring := h.phase
  unfold Phase at hduring
  rw [hposition] at hduring
  cases position with
  | starting locals call rest =>
    obtain rfl : call = some instr := hcall
    refine List.mem_append_left _ ?_
    rw [hduring.2.begun]
    simp
  | catching locals => cases hcall
  | stopping rollback call rest =>
    obtain rfl : call = some instr := hcall
    refine List.mem_append_right _ ?_
    rw [hduring.2.begun]
    simp

end Membership

/-! ### What one step does to the calls -/

/-- The scheduler is launched once. -/
theorem count_launchScheduler (parts : RuntimeParts) :
    (startProgram parts).count .launchScheduler = 1 := by
  have hplugins : ∀ (kind : ℕ → Plugin) (indices : List ℕ),
      (startPlugins kind indices).count .launchScheduler = 0 := fun kind indices =>
    List.count_eq_zero.mpr (by simp [startPlugins])
  simp [startProgram, List.count_append, hplugins]

/-- `instr` begins.  A call of `start` begins only while nothing of a shutdown has begun. -/
structure Begins (c : Calls) (instr : Instr) (c' : Calls) : Prop where
  idle : c.current = none
  start : instr.isStart = true → ∀ other ∈ c.begun, other.isStart = true
  once : instr = .launchScheduler → instr ∉ c.begun
  eq : c' = c.begin instr

/-- `instr` ends.  A call of `start` ends only while nothing of a shutdown has begun. -/
structure Finishes (c : Calls) (instr : Instr) (ok : Bool) (c' : Calls) : Prop where
  current : c.current = some instr
  start : instr.isStart = true → ∀ other ∈ c.begun, other.isStart = true
  eq : c' = c.finish instr ok

/-- While `start` runs, everything that has begun belongs to it. -/
private theorem begun_of_starting (h : Invariant parts s)
    (hstop : s.history.program = [] ∧ s.history.stopBegun = [] ∧ s.history.stopReturned = []) :
    ∀ other ∈ s.calls.begun, other.isStart = true := by
  intro other hmem
  rcases List.mem_append.mp hmem with hmem | hmem
  · exact h.isStart_startBegun hmem
  · rw [hstop.2.1] at hmem
    cases hmem

/-- While a call of `start` is in progress, nothing of a shutdown has begun. -/
theorem Invariant.begun_isStart (h : Invariant parts s) {instr : Instr}
    (hcurrent : s.calls.current = some instr) (hstart : instr.isStart = true) :
    ∀ other ∈ s.calls.begun, other.isStart = true := by
  obtain ⟨position, hposition, hcall⟩ := Option.bind_eq_some_iff.mp hcurrent
  have hduring := h.phase
  unfold Phase at hduring
  rw [hposition] at hduring
  cases position with
  | starting locals call rest => exact begun_of_starting h hduring.2.unstopped
  | catching locals => cases hcall
  | stopping rollback call rest =>
    obtain rfl : call = some instr := hcall
    have hmem : instr ∈ s.history.stopBegun := by
      rw [hduring.2.begun]
      simp
    rw [h.isStart_stopBegun hmem] at hstart
    cases hstart

private theorem calls_congr (hcurrent : s'.current.bind Sequence.call? =
    s.current.bind Sequence.call?) (hstart : s'.history.startBegun = s.history.startBegun)
    (hstop : s'.history.stopBegun = s.history.stopBegun)
    (hstarted : s'.history.startReturned = s.history.startReturned)
    (hstopped : s'.history.stopReturned = s.history.stopReturned) : s'.calls = s.calls := by
  unfold calls
  rw [hcurrent, hstart, hstop, hstarted, hstopped]

/-- Everything but the beginning and the end of a call leaves the calls alone. -/
theorem Invariant.calls_quiet (h : Invariant parts s) (hl : s.step parts e = some s')
    (hbegin : ∀ a, e ≠ .begin a) (hfinish : ∀ a ok now, e ≠ .finish a ok now) :
    s'.calls = s.calls := by
  have hi := h.locking
  have hi' := (h.step hl).locking
  have hgoto : ∀ {a : Actor} (frame : Frame), (s.frames a).isExecuting = false →
      (s.goto a frame).current.bind Sequence.call? = s.current.bind Sequence.call? :=
    fun frame hpc => congrArg (·.bind Sequence.call?) (hi.current_goto frame hpc)
  cases step_effect hl with
  | call hpc => exact calls_congr (hgoto _ (by rw [hpc]; rfl)) rfl rfl rfl rfl
  | startRefused hpc _ _ => exact calls_congr (hgoto .idle (by rw [hpc]; rfl)) rfl rfl rfl rfl
  | stopUnstarted hpc _ _ => exact calls_congr (hgoto .idle (by rw [hpc]; rfl)) rfl rfl rfl rfl
  | stopStopped hpc _ _ => exact calls_congr (hgoto .idle (by rw [hpc]; rfl)) rfl rfl rfl rfl
  | stopWait hpc _ _ _ _ => exact calls_congr (hgoto _ (by rw [hpc]; rfl)) rfl rfl rfl rfl
  | wake hpc _ _ => exact calls_congr (hgoto .idle (by rw [hpc]; rfl)) rfl rfl rfl rfl
  | @startFirst a hpc hm hstarted =>
    have hnone := h.phase.executor_eq_none hi hm (Or.inl hstarted)
    refine calls_congr ?_ rfl rfl rfl rfl
    rw [hi'.current_eq (a := a) (Function.update_self ..), Locking.current_eq_none hnone]
    rfl
  | @stopFirst a hpc hm _ _ hstopping =>
    have hnone := h.phase.executor_eq_none hi hm (Or.inr hstopping)
    refine calls_congr ?_ rfl rfl rfl rfl
    rw [hi'.current_eq (a := a) (Function.update_self ..), Locking.current_eq_none hnone]
    rfl
  | @rollback a locals hpc =>
    refine calls_congr ?_ rfl rfl rfl rfl
    rw [hi'.current_eq (a := a) (Function.update_self ..), hi.current_eq hpc]
    rfl
  | completeStart hpc =>
    refine calls_congr ?_ rfl rfl rfl rfl
    rw [hi.current_eq hpc, Locking.current_eq_none rfl]
    rfl
  | completeStop hpc _ _ =>
    refine calls_congr ?_ rfl rfl rfl rfl
    rw [hi.current_eq hpc, Locking.current_eq_none rfl]
    rfl
  | beginStart hpc => exact absurd rfl (hbegin _)
  | beginStop hpc => exact absurd rfl (hbegin _)
  | returnStart hpc => exact absurd rfl (hfinish _ _ _)
  | throwStart hpc _ => exact absurd rfl (hfinish _ _ _)
  | returnStop hpc => exact absurd rfl (hfinish _ _ _)

private theorem calls_of_position (hi : Locking s) {a : Actor} {position : Sequence}
    (hpc : s.frames a = .sequence position) :
    s.calls = ⟨position.call?, s.history.startBegun ++ s.history.stopBegun,
      s.history.startReturned ++ s.history.stopReturned⟩ := by
  unfold calls
  rw [hi.current_eq hpc, Option.bind_some]

/-- A call begins while none is in progress. -/
theorem Invariant.calls_begin (h : Invariant parts s) {a : Actor} {instr : Instr}
    (hl : s.step parts (.begin a) = some s') (hnext : s.nextCall a = some instr) :
    Begins s.calls instr s'.calls := by
  have h' := h.step hl
  cases step_effect hl with
  | @beginStart _ locals _ rest hpc =>
    obtain rfl : instr = _ := by simpa [nextCall, hpc] using hnext.symm
    obtain ⟨-, hprogram, hbegun, -, hunstopped⟩ := h.phase.during h.locking hpc
    have hcalls := calls_of_position h.locking hpc
    have hcalls' := calls_of_position h'.locking (Function.update_self ..)
    refine ⟨by rw [hcalls]; rfl, fun _ => begun_of_starting h hunstopped, ?_, ?_⟩
    · -- the program has this call once, and here it is still to come
      rintro rfl hmem
      have hmem := (h.mem_startBegun rfl).mp hmem
      have hcount := count_launchScheduler parts
      rw [Option.toList_none, List.append_nil] at hbegun
      rw [hprogram, ← hbegun, Option.toList_none, List.nil_append, List.count_append,
        List.count_cons_self] at hcount
      have := List.count_pos_iff.mpr hmem
      omega
    · rw [hcalls', hcalls]
      simp [Calls.begin, Sequence.call?, hunstopped.2.1]
  | @beginStop _ rollback _ rest hpc =>
    obtain rfl : instr = _ := by simpa [nextCall, hpc] using hnext.symm
    have hstop : instr.isStart = false := h'.isStart_stopBegun (by simp)
    have hcalls := calls_of_position h.locking hpc
    have hcalls' := calls_of_position h'.locking (Function.update_self ..)
    refine ⟨by rw [hcalls]; rfl, fun hstart => ?_, ?_, ?_⟩
    · rw [hstop] at hstart
      cases hstart
    · rintro rfl
      cases hstop
    · rw [hcalls', hcalls]
      simp [Calls.begin, Sequence.call?]

/-- The call in progress ends. -/
theorem Invariant.calls_finish (h : Invariant parts s) {a : Actor} {ok : Bool} {now : TimePoint}
    {instr : Instr} (hl : s.step parts (.finish a ok now) = some s')
    (hin : s.inCall a = some instr) :
    Finishes s.calls instr ok s'.calls := by
  have h' := h.step hl
  have hcall := h.locking.current_inCall hin
  cases step_effect hl with
  | returnStart hpc =>
    obtain rfl : instr = _ := by simpa [inCall, hpc] using hin.symm
    obtain ⟨-, -, -, -, hunstopped⟩ := h.phase.during h.locking hpc
    have hcalls := calls_of_position h.locking hpc
    have hcalls' := calls_of_position h'.locking (Function.update_self ..)
    refine ⟨hcall, fun _ => begun_of_starting h hunstopped, ?_⟩
    rw [hcalls', hcalls]
    simp [Calls.finish, Sequence.call?, hunstopped]
  | throwStart hpc _ =>
    obtain rfl : instr = _ := by simpa [inCall, hpc] using hin.symm
    obtain ⟨-, -, -, -, hunstopped⟩ := h.phase.during h.locking hpc
    have hcalls := calls_of_position h.locking hpc
    have hcalls' := calls_of_position h'.locking (Function.update_self ..)
    refine ⟨hcall, fun _ => begun_of_starting h hunstopped, ?_⟩
    rw [hcalls', hcalls]
    rfl
  | returnStop hpc =>
    obtain rfl : instr = _ := by simpa [inCall, hpc] using hin.symm
    obtain ⟨-, -, -, hbegun⟩ := h.phase.during h.locking hpc
    have hstop : instr.isStart = false := h.isStart_stopBegun (by rw [hbegun]; simp)
    have hcalls := calls_of_position h.locking hpc
    have hcalls' := calls_of_position h'.locking (Function.update_self ..)
    refine ⟨hcall, fun hstart => ?_, ?_⟩
    · rw [hstop] at hstart
      cases hstart
    · rw [hcalls', hcalls]
      simp [Calls.finish, Sequence.call?]

/-! ### Order of the calls -/

/-- The plugins that the workers use have been started when anything after them begins. -/
theorem Invariant.started_before (h : Invariant parts s) {instr : Instr}
    (hinstr : instr ∈ s.calls.begun)
    (hlater : instr = .startDispatcher ∨ instr = .launchProcessing ∨ instr = .launchScheduler) :
    (∀ index < parts.eventPublishers.length,
      .startPlugin (.publisher index) ∈ s.history.startReturned) ∧
    ∀ index < parts.drivers.length, .startPlugin (.driver index) ∈ s.history.startReturned := by
  have hstart : instr.isStart = true := by rcases hlater with rfl | rfl | rfl <;> rfl
  have hsplit : startProgram parts =
      (startPlugins Plugin.publisher (List.range parts.eventPublishers.length) ++
        startPlugins Plugin.driver (List.range parts.drivers.length)) ++
      ([Instr.startDispatcher, Instr.launchProcessing, Instr.openControls] ++
        startPlugins Plugin.source (List.range parts.deviceControlSources.length) ++
        [Instr.launchScheduler]) := by
    simp only [startProgram, List.append_assoc]
  have hbefore := h.start_execution.returned_before hsplit ((h.mem_startBegun hstart).mp hinstr)
    (by rcases hlater with rfl | rfl | rfl <;> simp [startPlugins])
  refine ⟨fun index hindex => hbefore _ ?_, fun index hindex => hbefore _ ?_⟩
  · simp [startPlugins, hindex]
  · simp [startPlugins, hindex]

end Lifecycle

end MiniGateway
