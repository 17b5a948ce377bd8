/-
  Where the lifecycle can be.

  At most one caller is inside a sequence of calls (`Locking`), and what has been called so far
  follows from its position and the flags (`Phase`): nothing before `start`, a prefix of the start
  program during it, all of it while the runtime runs, and a prefix of the shutdown program, itself
  determined by what `start` had called, from then on.
-/
import MiniGateway.Runtime.Lifecycle

namespace MiniGateway.Lifecycle

open StraightLine (Execution)

variable {parts : RuntimeParts} {s s' : Lifecycle} {e : LifecycleEvent}

/-- `started_`, `stopping_` and `stopped_`. -/
def flags (s : Lifecycle) : Bool × Bool × Bool := (s.started, s.stopping, s.stopped)

/-- The position of the caller that is inside a sequence of calls. -/
def current (s : Lifecycle) : Option Sequence :=
  s.history.executor.bind fun a => (s.frames a).sequence?

/-! ### The invariant -/

/-- The mutex is held by the caller whose position says so, and at most one caller is inside a
sequence of calls. -/
structure Locking (s : Lifecycle) : Prop where
  mutex : Token.Guarded Frame.holdsMutex s.mutex s.frames
  executor : Token.Guarded Frame.isExecuting s.history.executor s.frames

/-- During the `try` block of `start`. -/
structure Starting (parts : RuntimeParts) (h : LifecycleHistory) (locals : StartLocals)
    (call : Option Instr) (rest : List Instr) : Prop where
  program : startProgram parts = h.startReturned ++ (call.toList ++ rest)
  begun : h.startBegun = h.startReturned ++ call.toList
  locals : locals = localsOf h.startBegun h.startReturned
  unstopped : h.program = [] ∧ h.stopBegun = [] ∧ h.stopReturned = []

/-- After a call of `start` has thrown. -/
structure Catching (parts : RuntimeParts) (h : LifecycleHistory) (locals : StartLocals) : Prop where
  failed : ∃ instr, h.startBegun = h.startReturned ++ [instr] ∧ instr.mayThrow = true
  prefix_program : h.startBegun <+: startProgram parts
  locals : locals = localsOf h.startBegun h.startReturned
  unstopped : h.program = [] ∧ h.stopBegun = [] ∧ h.stopReturned = []

/-- During a shutdown sequence. -/
structure Stopping (parts : RuntimeParts) (h : LifecycleHistory) (call : Option Instr)
    (rest : List Instr) : Prop where
  shutdown : Shutdown parts h.startBegun h.startReturned h.program
  program : h.program = h.stopReturned ++ (call.toList ++ rest)
  begun : h.stopBegun = h.stopReturned ++ call.toList

/-- While no caller is inside a sequence of calls. -/
inductive Resting (parts : RuntimeParts) (flags : Bool × Bool × Bool) (h : LifecycleHistory) : Prop
  | fresh (hflags : flags = (false, false, false)) (hstart : h.startBegun = [])
      (hreturned : h.startReturned = [])
      (hstop : h.program = [] ∧ h.stopBegun = [] ∧ h.stopReturned = [])
  | running (hflags : flags = (true, false, false)) (hstart : h.startBegun = startProgram parts)
      (hreturned : h.startReturned = startProgram parts)
      (hstop : h.program = [] ∧ h.stopBegun = [] ∧ h.stopReturned = [])
  | stopped (hflags : flags = (true, false, true))
      (hshutdown : Shutdown parts h.startBegun h.startReturned h.program)
      (hbegun : h.stopBegun = h.program) (hreturned : h.stopReturned = h.program)

/-- While a caller is at a position inside a sequence of calls. -/
def During (parts : RuntimeParts) (flags : Bool × Bool × Bool) (h : LifecycleHistory) :
    Sequence → Prop
  | .starting locals call rest => flags = (true, false, false) ∧ Starting parts h locals call rest
  | .catching locals => flags = (true, false, false) ∧ Catching parts h locals
  | .stopping _ call rest => flags = (true, true, false) ∧ Stopping parts h call rest

/-- Flags and history agree with the position of the caller inside a sequence of calls. -/
def Phase (parts : RuntimeParts) (s : Lifecycle) : Prop :=
  match s.current with
  | none => Resting parts s.flags s.history
  | some position => During parts s.flags s.history position

/-- What the calls of `start` and `stop` that have ended say about the state. -/
structure Returns (parts : RuntimeParts) (s : Lifecycle) : Prop where
  settled : ∀ r ∈ s.returns, r.2.settled = true → s.stopped = true
  started : ∀ r ∈ s.returns, r.2 = .startReturned →
    s.history.startReturned = startProgram parts

/-- What holds of the lifecycle in every reachable state. -/
structure Invariant (parts : RuntimeParts) (s : Lifecycle) : Prop where
  locking : Locking s
  phase : Phase parts s
  returns : Returns parts s

/-! ### Preservation -/

private theorem mutex_step (hi : Locking s) (he : Effect parts s e s') :
    Token.Guarded Frame.holdsMutex s'.mutex s'.frames := by
  have hi := hi.mutex
  cases he with
  | @call a c hpc => exact hi.move (by rw [hpc]; cases c <;> rfl)
  | startFirst hpc hm _ => exact (hm ▸ hi).acquire rfl
  | stopFirst hpc hm _ _ _ =>
    have := hi.move (p := .sequence (.stopping false none (stopProgram parts))) (by rw [hpc]; rfl)
    rwa [hm] at this
  | rollback hpc => exact hi.release (by rw [hpc]; rfl) rfl
  | completeStart hpc => exact hi.release (by rw [hpc]; rfl) rfl
  | _ hpc => exact hi.move (by rw [hpc]; rfl)

theorem Locking.executor_eq (hi : Locking s) {a : Actor} {position : Sequence}
    (hpc : s.frames a = .sequence position) : s.history.executor = some a :=
  hi.executor.owner_eq (by rw [hpc]; rfl)

theorem Locking.current_eq (hi : Locking s) {a : Actor} {position : Sequence}
    (hpc : s.frames a = .sequence position) : s.current = some position := by
  simp [current, hi.executor_eq hpc, hpc, Frame.sequence?]

/-- A caller outside the sequences does not move the one inside. -/
theorem Locking.current_goto (hi : Locking s) {a : Actor} (frame : Frame)
    (ha : (s.frames a).isExecuting = false) : (s.goto a frame).current = s.current := by
  unfold current
  cases hexec : s.history.executor with
  | none => simp [goto, hexec]
  | some b =>
    have hne : b ≠ a := by
      rintro rfl
      have := (hi.executor b).mpr hexec
      rw [ha] at this
      cases this
    simp [goto, hexec, Function.update_of_ne hne]

theorem Locking.current_eq_none (h : s.history.executor = none) : s.current = none := by
  simp [current, h]

theorem Phase.during (hi : Locking s) (h : Phase parts s) {a : Actor} {position : Sequence}
    (hpc : s.frames a = .sequence position) : During parts s.flags s.history position := by
  unfold Phase at h
  rwa [hi.current_eq hpc] at h

theorem Phase.of_during (hi : Locking s) {a : Actor} {position : Sequence}
    (hpc : s.frames a = .sequence position) (h : During parts s.flags s.history position) :
    Phase parts s := by
  unfold Phase
  rwa [hi.current_eq hpc]

theorem Phase.resting (h : Phase parts s) (hnone : s.history.executor = none) :
    Resting parts s.flags s.history := by
  unfold Phase at h
  rwa [Locking.current_eq_none hnone] at h

theorem Phase.of_resting (hnone : s.history.executor = none)
    (h : Resting parts s.flags s.history) : Phase parts s := by
  unfold Phase
  rwa [Locking.current_eq_none hnone]

/-- No caller is inside a sequence while the mutex is free and no shutdown is under way. -/
theorem Phase.executor_eq_none (hi : Locking s) (h : Phase parts s) (hm : s.mutex = none)
    (hs : s.started = false ∨ s.stopping = false) : s.history.executor = none := by
  by_contra hne
  obtain ⟨a, ha⟩ := Option.ne_none_iff_exists'.mp hne
  have hexec := (hi.executor a).mpr ha
  cases hpc : s.frames a with
  | sequence position =>
    have h := h.during hi hpc
    have howner := hi.mutex a
    rw [hpc, hm] at howner
    cases position with
    | starting => exact absurd (howner.mp rfl) (by simp)
    | catching => exact absurd (howner.mp rfl) (by simp)
    | stopping =>
      have hflags : s.started = true ∧ s.stopping = true := by
        have := h.1
        simp only [flags, Prod.mk.injEq] at this
        exact ⟨this.1, this.2.1⟩
      rw [hflags.1, hflags.2] at hs
      simp at hs
  | _ => rw [hpc] at hexec; cases hexec

private theorem executor_step (hi : Locking s) (hp : Phase parts s) (he : Effect parts s e s') :
    Token.Guarded Frame.isExecuting s'.history.executor s'.frames := by
  cases he with
  | @call a c hpc => exact hi.executor.move (by rw [hpc]; cases c <;> rfl)
  | startFirst hpc hm hstarted =>
    exact (hp.executor_eq_none hi hm (Or.inl hstarted) ▸ hi.executor).acquire rfl
  | stopFirst hpc hm _ _ hstopping =>
    exact (hp.executor_eq_none hi hm (Or.inr hstopping) ▸ hi.executor).acquire rfl
  | @rollback a locals hpc =>
    have := hi.executor.move (p := .sequence (.stopping true none (rollbackProgram locals)))
      (by rw [hpc]; rfl)
    rwa [hi.executor_eq hpc] at this
  | completeStart hpc => exact hi.executor.release (by rw [hpc]; rfl) rfl
  | completeStop hpc _ _ => exact hi.executor.release (by rw [hpc]; rfl) rfl
  | _ hpc => exact hi.executor.move (by rw [hpc]; rfl)

/-- A caller outside the sequences that only moves or leaves keeps the phase. -/
private theorem phase_goto (hi : Locking s) (hp : Phase parts s) {a : Actor} {frame : Frame}
    (hpc : (s.frames a).isExecuting = false) (hframes : s'.frames = (s.goto a frame).frames)
    (hflags : s'.flags = s.flags) (hhistory : s'.history = s.history) : Phase parts s' := by
  have hcurrent : s'.current = s.current := by
    rw [← hi.current_goto frame hpc]
    unfold current
    rw [hframes, hhistory]
    rfl
  unfold Phase
  rw [hcurrent, hflags, hhistory]
  exact hp

private theorem phase_step (hi : Locking s) (hi' : Locking s') (hp : Phase parts s)
    (he : Effect parts s e s') : Phase parts s' := by
  cases he with
  | call hpc => exact phase_goto hi hp (by rw [hpc]; rfl) rfl rfl rfl
  | startRefused hpc _ _ => exact phase_goto hi hp (by rw [hpc]; rfl) rfl rfl rfl
  | stopUnstarted hpc _ _ => exact phase_goto hi hp (by rw [hpc]; rfl) rfl rfl rfl
  | stopStopped hpc _ _ => exact phase_goto hi hp (by rw [hpc]; rfl) rfl rfl rfl
  | stopWait hpc _ _ _ _ => exact phase_goto hi hp (by rw [hpc]; rfl) rfl rfl rfl
  | wake hpc _ _ => exact phase_goto hi hp (by rw [hpc]; rfl) rfl rfl rfl
  | @startFirst a hpc hm hstarted =>
    have hnone := hp.executor_eq_none hi hm (Or.inl hstarted)
    cases hp.resting hnone with
    | fresh hflags hstart hreturned hstop =>
      simp only [flags, Prod.mk.injEq] at hflags
      refine .of_during hi' (Function.update_self ..) ⟨?_, ?_, ?_, ?_, hstop⟩
      · simp [flags, enterStart, goto, hflags]
      · simp [enterStart, goto, hreturned]
      · simp [enterStart, goto, hreturned, hstart]
      · simp [enterStart, goto, hreturned, hstart, localsOf]
    | running hflags _ _ _ =>
      have := congrArg (·.1) hflags
      simp [flags, hstarted] at this
    | stopped hflags _ _ _ =>
      have := congrArg (·.1) hflags
      simp [flags, hstarted] at this
  | @stopFirst a hpc hm hstarted hstopped hstopping =>
    have hnone := hp.executor_eq_none hi hm (Or.inr hstopping)
    cases hp.resting hnone with
    | fresh hflags _ _ _ =>
      have := congrArg (·.1) hflags
      simp [flags, hstarted] at this
    | running hflags hstart hreturned hstop =>
      refine .of_during hi' (Function.update_self ..) ⟨?_, .stop hstart hreturned rfl, ?_, ?_⟩
      · simp [flags, enterShutdown, goto, hstarted, hstopped]
      · simp [enterShutdown, goto, hstop]
      · simp [enterShutdown, goto, hstop]
    | stopped hflags _ _ _ =>
      have := congrArg (·.2.2) hflags
      simp [flags, hstopped] at this
  | @beginStart a locals instr rest hpc =>
    obtain ⟨hflags, hprogram, hbegun, hlocals, hstop⟩ := hp.during hi hpc
    refine .of_during hi' (Function.update_self ..) ⟨hflags, hprogram, ?_, ?_, hstop⟩
    · simpa using hbegun
    · rw [hlocals, localsOf_begin]
  | @beginStop a rollback instr rest hpc =>
    obtain ⟨hflags, hshutdown, hprogram, hbegun⟩ := hp.during hi hpc
    refine .of_during hi' (Function.update_self ..) ⟨hflags, hshutdown, hprogram, ?_⟩
    simpa using hbegun
  | @returnStart a now locals instr rest hpc =>
    obtain ⟨hflags, hprogram, hbegun, hlocals, hstop⟩ := hp.during hi hpc
    refine .of_during hi' (Function.update_self ..) ⟨hflags, ?_, ?_, ?_, hstop⟩
    · simpa using hprogram
    · simpa using hbegun
    · rw [hlocals, localsOf_return]
  | @throwStart a now locals instr rest hpc hthrow =>
    obtain ⟨hflags, hprogram, hbegun, hlocals, hstop⟩ := hp.during hi hpc
    refine .of_during hi' (Function.update_self ..)
      ⟨hflags, ⟨instr, hbegun, hthrow⟩, ?_, hlocals, hstop⟩
    show s.history.startBegun <+: _
    rw [hprogram, hbegun, ← List.append_assoc]
    exact List.prefix_append _ _
  | @returnStop a now rollback instr rest hpc =>
    obtain ⟨hflags, hshutdown, hprogram, hbegun⟩ := hp.during hi hpc
    refine .of_during hi' (Function.update_self ..) ⟨hflags, hshutdown, ?_, ?_⟩
    · simpa using hprogram
    · simpa using hbegun
  | @rollback a locals hpc =>
    obtain ⟨hflags, ⟨failed, hfailed, hthrow⟩, hinitial, hlocals, hstop⟩ := hp.during hi hpc
    simp only [flags, Prod.mk.injEq] at hflags
    refine .of_during hi' (Function.update_self ..)
      ⟨?_, .rollback failed hfailed hinitial hthrow ?_, ?_, ?_⟩
    · simp [flags, enterShutdown, goto, hflags]
    · simp [enterShutdown, goto, hlocals]
    · simp [enterShutdown, goto, hstop]
    · simp [enterShutdown, goto, hstop]
  | @completeStart a locals hpc =>
    obtain ⟨hflags, hprogram, hbegun, -, hstop⟩ := hp.during hi hpc
    simp only [Option.toList_none, List.append_nil] at hprogram hbegun
    exact .of_resting rfl <| .running hflags (hbegun.trans hprogram.symm) hprogram.symm hstop
  | @completeStop a rollback outcome hpc hm _ =>
    obtain ⟨hflags, hshutdown, hprogram, hbegun⟩ := hp.during hi hpc
    simp only [Option.toList_none, List.append_nil] at hprogram hbegun
    refine .of_resting rfl <| .stopped ?_ hshutdown (hbegun.trans hprogram.symm) hprogram.symm
    simp only [flags, Prod.mk.injEq] at hflags
    simp [flags, leave, goto, hflags]

private theorem returns_step (hi : Locking s) (hp : Phase parts s) (h : Returns parts s)
    (he : Effect parts s e s') : Returns parts s' := by
  -- a call that ends adds one outcome, and the flag it speaks of is set
  have hadd : ∀ (a : Actor) (outcome : Outcome) (stopped : Bool) (returned : List Instr),
      (s.stopped = true → stopped = true) → (outcome.settled = true → stopped = true) →
      returned = s.history.startReturned →
      (outcome = .startReturned → returned = startProgram parts) →
      (∀ r ∈ s.returns ++ [(a, outcome)], r.2.settled = true → stopped = true) ∧
      ∀ r ∈ s.returns ++ [(a, outcome)], r.2 = .startReturned → returned = startProgram parts := by
    intro a outcome stopped returned hmono hset heq hstart
    constructor
    · intro r hr hs
      rcases List.mem_append.mp hr with hold | hnew
      · exact hmono (h.settled r hold hs)
      · obtain rfl := List.mem_singleton.mp hnew
        exact hset hs
    · intro r hr ho
      rcases List.mem_append.mp hr with hold | hnew
      · exact heq ▸ h.started r hold ho
      · obtain rfl := List.mem_singleton.mp hnew
        exact hstart ho
  cases he with
  | @startRefused a hpc _ _ =>
    obtain ⟨h1, h2⟩ := hadd a .startRefused s.stopped _ id nofun rfl nofun
    exact ⟨h1, h2⟩
  | @stopUnstarted a hpc _ _ =>
    obtain ⟨h1, h2⟩ := hadd a .stopUnstarted s.stopped _ id nofun rfl nofun
    exact ⟨h1, h2⟩
  | @stopStopped a hpc _ hstopped =>
    obtain ⟨h1, h2⟩ := hadd a .stopStopped s.stopped _ id (fun _ => hstopped) rfl nofun
    exact ⟨h1, h2⟩
  | @wake a hpc _ hstopped =>
    obtain ⟨h1, h2⟩ := hadd a .stopWaited s.stopped _ id (fun _ => hstopped) rfl nofun
    exact ⟨h1, h2⟩
  | @completeStart a locals hpc =>
    have hp := hp.during hi hpc
    have hprogram := hp.2.program
    simp only [Option.toList_none, List.append_nil] at hprogram
    obtain ⟨h1, h2⟩ := hadd a .startReturned s.stopped _ id nofun rfl fun _ => hprogram.symm
    exact ⟨h1, h2⟩
  | @completeStop a rollback outcome hpc _ houtcome =>
    have hne : outcome ≠ .startReturned := by
      rw [houtcome]
      cases rollback <;> simp
    obtain ⟨h1, h2⟩ := hadd a outcome true _ (fun _ => rfl) (fun _ => rfl) rfl
      (fun heq => absurd heq hne)
    exact ⟨h1, h2⟩
  | @returnStart a now locals instr rest hpc =>
    refine ⟨h.settled, fun r hr ho => ?_⟩
    -- the start program has returned already, so no call of it can be in progress
    have hold := h.started r hr ho
    have hp := hp.during hi hpc
    have hprogram := congrArg List.length hp.2.program
    rw [hold] at hprogram
    simp at hprogram
  | _ => exact ⟨h.settled, h.started⟩

theorem Invariant.step (h : Invariant parts s) (hs : s.step parts e = some s') :
    Invariant parts s' := by
  have he := step_effect hs
  have hlocking : Locking s' := ⟨mutex_step h.locking he, executor_step h.locking h.phase he⟩
  exact ⟨hlocking, phase_step h.locking hlocking h.phase he,
    returns_step h.locking h.phase h.returns he⟩

/-- The invariant holds of every reachable state. -/
theorem invariant (h : (lifecycleSystem parts).Reachable s) : Invariant parts s := by
  refine h.invariant ?_ fun _ _ _ _ hi hl => hi.step hl
  rintro s rfl
  refine ⟨⟨Token.guarded_none fun _ => rfl, Token.guarded_none fun _ => rfl⟩, ?_, nofun, nofun⟩
  exact .fresh rfl rfl rfl ⟨rfl, rfl, rfl⟩

/-! ### What follows -/

theorem Invariant.cases (h : Invariant parts s) : Resting parts s.flags s.history ∨
    ∃ a position, s.frames a = .sequence position ∧ During parts s.flags s.history position := by
  cases hexec : s.history.executor with
  | none => exact Or.inl (h.phase.resting hexec)
  | some a =>
    have hin := (h.locking.executor a).mpr hexec
    cases hpc : s.frames a with
    | sequence position => exact Or.inr ⟨a, position, hpc, h.phase.during h.locking hpc⟩
    | _ => rw [hpc] at hin; cases hin

private theorem execution_of_call {program begun returned rest : List Instr} {call : Option Instr}
    (hp : program = returned ++ (call.toList ++ rest)) (hb : begun = returned ++ call.toList) :
    Execution program begun returned := by
  subst hb
  cases call with
  | none =>
    rw [Option.toList_none, List.append_nil]
    exact .of_idle hp
  | some instr => exact .of_busy hp

/-- `start` executes its program. -/
theorem Invariant.start_execution (h : Invariant parts s) :
    Execution (startProgram parts) s.history.startBegun s.history.startReturned := by
  have hshutdown : Shutdown parts s.history.startBegun s.history.startReturned s.history.program →
      Execution (startProgram parts) s.history.startBegun s.history.startReturned := by
    rintro (⟨hb, hr, -⟩ | ⟨failed, hb, ⟨rest, hp⟩, -, -⟩)
    · rw [hb, hr]
      exact .of_idle (List.append_nil _).symm
    · have hprogram : startProgram parts = s.history.startReturned ++ failed :: rest := by
        rw [← hp, hb]
        simp
      rw [hb]
      exact .of_busy hprogram
  rcases h.cases with hrest | ⟨a, position, -, hduring⟩
  · cases hrest with
    | fresh _ hb hr _ =>
      rw [hb, hr]
      exact .nil _
    | running _ hb hr _ =>
      rw [hb, hr]
      exact .of_idle (List.append_nil _).symm
    | stopped _ hs _ _ => exact hshutdown hs
  · cases position with
    | starting locals call rest => exact execution_of_call hduring.2.program hduring.2.begun
    | catching locals =>
      obtain ⟨failed, hb, -⟩ := hduring.2.failed
      obtain ⟨rest, hp⟩ := hduring.2.prefix_program
      have hprogram : startProgram parts = s.history.startReturned ++ failed :: rest := by
        rw [← hp, hb]
        simp
      rw [hb]
      exact .of_busy hprogram
    | stopping rollback call rest => exact hshutdown hduring.2.shutdown

/-- A shutdown executes its program. -/
theorem Invariant.stop_execution (h : Invariant parts s) :
    Execution s.history.program s.history.stopBegun s.history.stopReturned := by
  have hnone : s.history.program = [] ∧ s.history.stopBegun = [] ∧ s.history.stopReturned = [] →
      Execution s.history.program s.history.stopBegun s.history.stopReturned := by
    rintro ⟨hp, hb, hr⟩
    rw [hp, hb, hr]
    exact .nil _
  rcases h.cases with hrest | ⟨a, position, -, hduring⟩
  · cases hrest with
    | fresh _ _ _ hstop => exact hnone hstop
    | running _ _ _ hstop => exact hnone hstop
    | stopped _ _ hb hr =>
      rw [hb, hr]
      exact .of_idle (List.append_nil _).symm
  · cases position with
    | starting locals call rest => exact hnone hduring.2.unstopped
    | catching locals => exact hnone hduring.2.unstopped
    | stopping rollback call rest => exact execution_of_call hduring.2.program hduring.2.begun

/-- Once a shutdown has called something, it is the shutdown of what `start` had called. -/
theorem Invariant.shutdown (h : Invariant parts s) {instr : Instr}
    (hinstr : instr ∈ s.history.stopBegun) :
    Shutdown parts s.history.startBegun s.history.startReturned s.history.program := by
  have hnone : s.history.stopBegun ≠ [] := List.ne_nil_of_mem hinstr
  rcases h.cases with hrest | ⟨a, position, -, hduring⟩
  · cases hrest with
    | fresh _ _ _ hstop => exact absurd hstop.2.1 hnone
    | running _ _ _ hstop => exact absurd hstop.2.1 hnone
    | stopped _ hs _ _ => exact hs
  · cases position with
    | starting locals call rest => exact absurd hduring.2.unstopped.2.1 hnone
    | catching locals => exact absurd hduring.2.unstopped.2.1 hnone
    | stopping rollback call rest => exact hduring.2.shutdown

/-- What a shutdown executes has the shape of `shutdownProgram`. -/
theorem Invariant.shutdown_execution (h : Invariant parts s) {instr : Instr}
    (hinstr : instr ∈ s.history.stopBegun) : ∃ sources dispatcher drivers publishers,
    Execution (shutdownProgram sources dispatcher drivers publishers) s.history.stopBegun
      s.history.stopReturned ∧
    (.startDispatcher ∈ s.history.startReturned → dispatcher = true) := by
  obtain ⟨sources, dispatcher, drivers, publishers, hprogram, hstarted⟩ :=
    (h.shutdown hinstr).shape
  exact ⟨sources, dispatcher, drivers, publishers, hprogram ▸ h.stop_execution, hstarted⟩

/-- Once `stopped_` is set, the whole shutdown has returned. -/
theorem Invariant.stopped (h : Invariant parts s) (hs : s.stopped = true) :
    Shutdown parts s.history.startBegun s.history.startReturned s.history.program ∧
      s.history.stopBegun = s.history.program ∧ s.history.stopReturned = s.history.program := by
  have hflag : s.flags.2.2 = true := hs
  rcases h.cases with hrest | ⟨a, position, -, hduring⟩
  · cases hrest with
    | fresh hflags _ _ _ => rw [hflags] at hflag; cases hflag
    | running hflags _ _ _ => rw [hflags] at hflag; cases hflag
    | stopped _ hshutdown hb hr => exact ⟨hshutdown, hb, hr⟩
  · cases position with
    | starting locals call rest => rw [hduring.1] at hflag; cases hflag
    | catching locals => rw [hduring.1] at hflag; cases hflag
    | stopping rollback call rest => rw [hduring.1] at hflag; cases hflag

end MiniGateway.Lifecycle
