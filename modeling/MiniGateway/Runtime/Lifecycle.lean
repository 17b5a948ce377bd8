/-
  `GatewayRuntime::start` and `GatewayRuntime::stop` (`runtime.cpp`) as far as the lifecycle fields
  go: the mutex, the three flags, the condition variable, `accepting_controls_` and the position of
  every caller in its sequence of calls.

  What a call does to the components is not part of this module: here a call begins, then returns
  or throws.  A caller is a thread outside the runtime, or a completion callback, which runs on the
  control worker or on the thread that cancels pending requests.
-/
import MiniGateway.Runtime.Program
import MiniGateway.Token
import MiniGateway.TransitionSystem

namespace MiniGateway

/-- Who calls `start` and `stop`. -/
inductive Actor
  /-- A thread outside the runtime. -/
  | thread (t : ThreadId)
  /-- The completion callback that the control worker is in. -/
  | executed
  /-- The completion callback that `request_stop` is in. -/
  | cancelled
  deriving DecidableEq

inductive LifecycleCall
  | start
  | stop
  deriving DecidableEq

/-- How a call of `start` or `stop` ended. -/
inductive Outcome
  | startReturned
  /-- The exception that the rollback rethrows. -/
  | startThrew
  /-- "gateway runtime can only be started once". -/
  | startRefused
  /-- `stop` found `started_` false. -/
  | stopUnstarted
  /-- `stop` found `stopped_` true. -/
  | stopStopped
  /-- `stop` waited for `stopped_`. -/
  | stopWaited
  /-- `stop` ran the shutdown sequence. -/
  | stopExecuted
  deriving DecidableEq

/-- The call returned from a shutdown: it threw out of `start`, or it is a `stop` that found
`started_` set. -/
def Outcome.settled : Outcome → Bool
  | startThrew | stopStopped | stopWaited | stopExecuted => true
  | _ => false

/-- Where a caller is in a sequence of calls; `call` is the call in progress. -/
inductive Sequence
  /-- In the `try` block of `start`. -/
  | starting (locals : StartLocals) (call : Option Instr) (rest : List Instr)
  /-- At the beginning of the `catch` block. -/
  | catching (locals : StartLocals)
  /-- In the rest of the `catch` block, or in the body of `stop`. -/
  | stopping (rollback : Bool) (call : Option Instr) (rest : List Instr)
  deriving DecidableEq

/-- Where a caller is. -/
inductive Frame
  | idle
  /-- In `start`, about to lock `lifecycle_mutex_`. -/
  | startLock
  /-- In `stop`, about to lock `lifecycle_mutex_`. -/
  | stopLock
  /-- In `lifecycle_cv_.wait`, which releases the mutex. -/
  | stopWait
  | sequence (position : Sequence)
  deriving DecidableEq

namespace Frame

def sequence? : Frame → Option Sequence
  | sequence position => some position
  | _ => none

def isExecuting (frame : Frame) : Bool := frame.sequence?.isSome

/-- The caller holds `lifecycle_mutex_`, as `start` does up to its end or its rollback. -/
def holdsMutex : Frame → Bool
  | sequence (.starting _ _ _) | sequence (.catching _) => true
  | _ => false

end Frame

/-- The calls made so far by `start` and by a shutdown; no code reads them. -/
structure LifecycleHistory where
  /-- The calls of the `try` block of `start` that have begun. -/
  startBegun : List Instr := []
  /-- Those that have returned. -/
  startReturned : List Instr := []
  /-- The shutdown sequence, once it is chosen. -/
  program : List Instr := []
  /-- The calls of the shutdown sequence that have begun. -/
  stopBegun : List Instr := []
  /-- Those that have returned. -/
  stopReturned : List Instr := []
  /-- The caller inside a sequence of calls. -/
  executor : Option Actor := none
  /-- The caller that set `stopping_`. -/
  stopper : Option Actor := none

/-- The lifecycle fields of `GatewayRuntime`, its callers and their history. -/
structure Lifecycle where
  /-- Who holds `lifecycle_mutex_`. -/
  mutex : Option Actor := none
  started : Bool := false
  stopping : Bool := false
  stopped : Bool := false
  /-- `accepting_controls_`. -/
  accepting : Bool := false
  frames : Actor → Frame := fun _ => .idle
  history : LifecycleHistory := {}
  /-- The calls of `start` and `stop` that have ended. -/
  returns : List (Actor × Outcome) := []

inductive LifecycleEvent
  | call (a : Actor) (c : LifecycleCall)
  /-- The mutex is locked at the entry of `start` or `stop`. -/
  | lock (a : Actor)
  /-- The wait of `stop` ends. -/
  | wake (a : Actor)
  /-- The next call of the sequence begins. -/
  | begin (a : Actor)
  /-- The call in progress returns, or throws; `now` is the clock where the call reads it. -/
  | finish (a : Actor) (ok : Bool) (now : TimePoint)
  /-- The `catch` block up to its `lock.unlock()`. -/
  | rollback (a : Actor)
  /-- The end of the sequence: the flags are set, the mutex is released and the call ends. -/
  | complete (a : Actor)

namespace Lifecycle

/-- The caller `a` moves. -/
def goto (s : Lifecycle) (a : Actor) (frame : Frame) : Lifecycle :=
  { s with frames := Function.update s.frames a frame }

/-- The call of `a` ends. -/
def leave (s : Lifecycle) (a : Actor) (outcome : Outcome) : Lifecycle :=
  { s.goto a .idle with returns := s.returns ++ [(a, outcome)] }

/-- `start` has set `started_`. -/
def enterStart (parts : RuntimeParts) (s : Lifecycle) (a : Actor) : Lifecycle :=
  { s.goto a (.sequence (.starting {} none (startProgram parts))) with
    mutex := some a
    started := true
    history := { s.history with executor := some a } }

/-- `stopping_` has been set and the mutex released; `program` is what follows. -/
def enterShutdown (s : Lifecycle) (a : Actor) (rollback : Bool) (program : List Instr) :
    Lifecycle :=
  { s.goto a (.sequence (.stopping rollback none program)) with
    mutex := none
    stopping := true
    accepting := false
    history := { s.history with program := program, executor := some a, stopper := some a } }

/-- The part of `start` and `stop` between the lock and the first call. -/
def lockStep (parts : RuntimeParts) (s : Lifecycle) (a : Actor) : Option Lifecycle :=
  match s.frames a with
  | .startLock => some (if s.started then s.leave a .startRefused else s.enterStart parts a)
  | .stopLock =>
    some (if !s.started then s.leave a .stopUnstarted
      else if s.stopped then s.leave a .stopStopped
      else if s.stopping then s.goto a .stopWait
      else s.enterShutdown a false (stopProgram parts))
  | _ => none

/-- A call begins. -/
def beginStep (s : Lifecycle) (a : Actor) : Sequence → Option Lifecycle
  | .starting locals none (instr :: rest) =>
    some { s.goto a (.sequence (.starting (locals.beforeCall instr) (some instr) rest)) with
      history := { s.history with startBegun := s.history.startBegun ++ [instr] } }
  | .stopping rollback none (instr :: rest) =>
    some { s.goto a (.sequence (.stopping rollback (some instr) rest)) with
      history := { s.history with stopBegun := s.history.stopBegun ++ [instr] } }
  | _ => none

/-- A call returns, or throws.  Only `start` lets an exception out of a call. -/
def finishStep (s : Lifecycle) (a : Actor) (ok : Bool) : Sequence → Option Lifecycle
  | .starting locals (some instr) rest =>
    if ok then
      some { s.goto a (.sequence (.starting (locals.afterCall instr) none rest)) with
        accepting := s.accepting || instr = .openControls
        history := { s.history with startReturned := s.history.startReturned ++ [instr] } }
    else if instr.mayThrow then some (s.goto a (.sequence (.catching locals)))
    else none
  | .stopping rollback (some instr) rest =>
    if ok then
      some { s.goto a (.sequence (.stopping rollback none rest)) with
        history := { s.history with stopReturned := s.history.stopReturned ++ [instr] } }
    else none
  | _ => none

/-- The sequence ends. -/
def completeStep (s : Lifecycle) (a : Actor) : Sequence → Option Lifecycle
  | .starting _ none [] =>
    some { s.leave a .startReturned with
      mutex := none
      history := { s.history with executor := none } }
  | .stopping rollback none [] =>
    if s.mutex = none then
      let outcome := if rollback then .startThrew else .stopExecuted
      some { s.leave a outcome with
        stopping := false
        stopped := true
        history := { s.history with executor := none } }
    else none
  | _ => none

/-- One step of a caller. -/
def step (parts : RuntimeParts) (s : Lifecycle) : LifecycleEvent → Option Lifecycle
  | .call a c =>
    if s.frames a = .idle then
      some (s.goto a (match c with | .start => .startLock | .stop => .stopLock))
    else none
  | .lock a => if s.mutex = none then s.lockStep parts a else none
  | .wake a =>
    if s.frames a = .stopWait ∧ s.mutex = none ∧ s.stopped then some (s.leave a .stopWaited)
    else none
  | .begin a => (s.frames a).sequence?.bind (s.beginStep a)
  | .finish a ok _ => (s.frames a).sequence?.bind (s.finishStep a ok)
  | .rollback a =>
    match s.frames a with
    | .sequence (.catching locals) => some (s.enterShutdown a true (rollbackProgram locals))
    | _ => none
  | .complete a => (s.frames a).sequence?.bind (s.completeStep a)

end Lifecycle

/-- All runs of the callers of `start` and `stop`. -/
def lifecycleSystem (parts : RuntimeParts) : TransitionSystem Lifecycle LifecycleEvent where
  Init s := s = {}
  step := Lifecycle.step parts

namespace Lifecycle

variable {parts : RuntimeParts} {s s' : Lifecycle}

/-! ### What one step does -/

/-- The effect of one step. -/
inductive Effect (parts : RuntimeParts) (s : Lifecycle) : LifecycleEvent → Lifecycle → Prop
  | call {a : Actor} {c : LifecycleCall} (hpc : s.frames a = .idle) :
      Effect parts s (.call a c)
        (s.goto a (match c with | .start => .startLock | .stop => .stopLock))
  | startRefused {a : Actor} (hpc : s.frames a = .startLock) (hm : s.mutex = none)
      (hstarted : s.started = true) : Effect parts s (.lock a) (s.leave a .startRefused)
  | startFirst {a : Actor} (hpc : s.frames a = .startLock) (hm : s.mutex = none)
      (hstarted : s.started = false) : Effect parts s (.lock a) (s.enterStart parts a)
  | stopUnstarted {a : Actor} (hpc : s.frames a = .stopLock) (hm : s.mutex = none)
      (hstarted : s.started = false) : Effect parts s (.lock a) (s.leave a .stopUnstarted)
  | stopStopped {a : Actor} (hpc : s.frames a = .stopLock) (hm : s.mutex = none)
      (hstopped : s.stopped = true) : Effect parts s (.lock a) (s.leave a .stopStopped)
  | stopWait {a : Actor} (hpc : s.frames a = .stopLock) (hm : s.mutex = none)
      (hstarted : s.started = true) (hstopped : s.stopped = false) (hstopping : s.stopping = true) :
      Effect parts s (.lock a) (s.goto a .stopWait)
  | stopFirst {a : Actor} (hpc : s.frames a = .stopLock) (hm : s.mutex = none)
      (hstarted : s.started = true) (hstopped : s.stopped = false)
      (hstopping : s.stopping = false) :
      Effect parts s (.lock a) (s.enterShutdown a false (stopProgram parts))
  | wake {a : Actor} (hpc : s.frames a = .stopWait) (hm : s.mutex = none)
      (hstopped : s.stopped = true) : Effect parts s (.wake a) (s.leave a .stopWaited)
  | beginStart {a : Actor} {locals : StartLocals} {instr : Instr} {rest : List Instr}
      (hpc : s.frames a = .sequence (.starting locals none (instr :: rest))) :
      Effect parts s (.begin a)
        { s.goto a (.sequence (.starting (locals.beforeCall instr) (some instr) rest)) with
          history := { s.history with startBegun := s.history.startBegun ++ [instr] } }
  | beginStop {a : Actor} {rollback : Bool} {instr : Instr} {rest : List Instr}
      (hpc : s.frames a = .sequence (.stopping rollback none (instr :: rest))) :
      Effect parts s (.begin a)
        { s.goto a (.sequence (.stopping rollback (some instr) rest)) with
          history := { s.history with stopBegun := s.history.stopBegun ++ [instr] } }
  | returnStart {a : Actor} {now : TimePoint} {locals : StartLocals} {instr : Instr}
      {rest : List Instr} (hpc : s.frames a = .sequence (.starting locals (some instr) rest)) :
      Effect parts s (.finish a true now)
        { s.goto a (.sequence (.starting (locals.afterCall instr) none rest)) with
          accepting := s.accepting || instr = .openControls
          history := { s.history with startReturned := s.history.startReturned ++ [instr] } }
  | throwStart {a : Actor} {now : TimePoint} {locals : StartLocals} {instr : Instr}
      {rest : List Instr} (hpc : s.frames a = .sequence (.starting locals (some instr) rest))
      (hthrow : instr.mayThrow = true) :
      Effect parts s (.finish a false now) (s.goto a (.sequence (.catching locals)))
  | returnStop {a : Actor} {now : TimePoint} {rollback : Bool} {instr : Instr}
      {rest : List Instr} (hpc : s.frames a = .sequence (.stopping rollback (some instr) rest)) :
      Effect parts s (.finish a true now)
        { s.goto a (.sequence (.stopping rollback none rest)) with
          history := { s.history with stopReturned := s.history.stopReturned ++ [instr] } }
  | rollback {a : Actor} {locals : StartLocals}
      (hpc : s.frames a = .sequence (.catching locals)) :
      Effect parts s (.rollback a) (s.enterShutdown a true (rollbackProgram locals))
  | completeStart {a : Actor} {locals : StartLocals}
      (hpc : s.frames a = .sequence (.starting locals none [])) :
      Effect parts s (.complete a) { s.leave a .startReturned with
        mutex := none
        history := { s.history with executor := none } }
  | completeStop {a : Actor} {rollback : Bool} {outcome : Outcome}
      (hpc : s.frames a = .sequence (.stopping rollback none [])) (hm : s.mutex = none)
      (houtcome : outcome = if rollback then .startThrew else .stopExecuted) :
      Effect parts s (.complete a) { s.leave a outcome with
        stopping := false
        stopped := true
        history := { s.history with executor := none } }

private theorem sequence_of_bind {frame : Frame} {f : Sequence → Option Lifecycle}
    (h : frame.sequence?.bind f = some s') :
    ∃ position, frame = .sequence position ∧ f position = some s' := by
  cases frame with
  | sequence position => exact ⟨position, rfl, h⟩
  | _ => cases h

/-- **Inversion of `step`.** -/
theorem step_effect {e : LifecycleEvent} (h : s.step parts e = some s') :
    Effect parts s e s' := by
  cases e with
  | call a c =>
    simp only [step] at h
    split_ifs at h with hpc
    obtain rfl := Option.some.inj h
    exact .call hpc
  | lock a =>
    simp only [step] at h
    split_ifs at h with hm
    unfold lockStep at h
    split at h
    · rename_i hpc
      obtain rfl := Option.some.inj h
      split_ifs with hstarted
      · exact .startRefused hpc hm hstarted
      · exact .startFirst hpc hm (by simpa using hstarted)
    · rename_i hpc
      obtain rfl := Option.some.inj h
      split_ifs with hstarted hstopped hstopping
      · exact .stopUnstarted hpc hm (by simpa using hstarted)
      · exact .stopStopped hpc hm hstopped
      · exact .stopWait hpc hm (by simpa using hstarted) (by simpa using hstopped) hstopping
      · exact .stopFirst hpc hm (by simpa using hstarted) (by simpa using hstopped)
          (by simpa using hstopping)
    · cases h
  | wake a =>
    simp only [step] at h
    split_ifs at h with hg
    obtain rfl := Option.some.inj h
    exact .wake hg.1 hg.2.1 hg.2.2
  | begin a =>
    obtain ⟨position, hpc, hf⟩ := sequence_of_bind h
    unfold beginStep at hf
    split at hf
    · obtain rfl := Option.some.inj hf
      exact .beginStart hpc
    · obtain rfl := Option.some.inj hf
      exact .beginStop hpc
    · cases hf
  | finish a ok now =>
    obtain ⟨position, hpc, hf⟩ := sequence_of_bind h
    unfold finishStep at hf
    split at hf
    · cases ok with
      | true =>
        obtain rfl := Option.some.inj hf
        exact .returnStart hpc
      | false =>
        simp only [Bool.false_eq_true, if_false] at hf
        split_ifs at hf with hthrow
        obtain rfl := Option.some.inj hf
        exact .throwStart hpc hthrow
    · cases ok with
      | true =>
        obtain rfl := Option.some.inj hf
        exact .returnStop hpc
      | false => simp at hf
    · cases hf
  | rollback a =>
    simp only [step] at h
    split at h
    · rename_i hpc
      obtain rfl := Option.some.inj h
      exact .rollback hpc
    · cases h
  | complete a =>
    obtain ⟨position, hpc, hf⟩ := sequence_of_bind h
    unfold completeStep at hf
    split at hf
    · obtain rfl := Option.some.inj hf
      exact .completeStart hpc
    · by_cases hm : s.mutex = none
      · rw [if_pos hm] at hf
        obtain rfl := Option.some.inj hf
        exact .completeStop hpc hm rfl
      · simp [if_neg hm] at hf
    · cases hf

end Lifecycle

end MiniGateway
