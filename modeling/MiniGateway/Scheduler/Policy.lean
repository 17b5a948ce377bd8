/-
  `FixedIntervalSequentialPolicy` (`gateway/scheduler.hpp`, `scheduler.cpp`): which tasks its
  constructor accepts, which task `select_due` picks, when `next_wakeup` lies and how `on_complete`
  moves a task past the instant it finished.

  A `ScheduleTask*` into `tasks_` is the position of the task in the list.  The `while` loop of
  `on_complete` runs on fuel; `onComplete_isSome` shows that a positive interval never exhausts it.
-/
import MiniGateway.Model
import Mathlib.Data.Prod.Lex
import Mathlib.Algebra.Order.Group.Int

namespace MiniGateway

/-- `ScheduleTask`; the interval is in milliseconds, the instant in nanoseconds. -/
structure ScheduleTask where
  groupId : ByteString
  interval : ℤ
  nextDue : ℤ
  stableOrder : ℕ
  skippedCycles : ℕ := 0
  deriving DecidableEq

namespace ScheduleTask

/-- The interval on the clock. -/
def period (task : ScheduleTask) : ℤ := task.interval * nanosecondsPerMillisecond

/-- `task.next_due += task.interval`. -/
def advance (task : ScheduleTask) : ScheduleTask :=
  { task with nextDue := task.nextDue + task.period }

/-- The body of the loop in `on_complete`. -/
def skip (task : ScheduleTask) : ScheduleTask :=
  { task.advance with
    skippedCycles :=
      if task.skippedCycles < uint64Max then task.skippedCycles + 1 else task.skippedCycles }

/-- What `select_due` and `next_wakeup` compare. -/
def key (task : ScheduleTask) : ℤ ×ₗ ℕ := toLex (task.nextDue, task.stableOrder)

theorem key_lt_iff {task other : ScheduleTask} :
    task.key < other.key ↔ task.nextDue < other.nextDue ∨
      (task.nextDue = other.nextDue ∧ task.stableOrder < other.stableOrder) := by
  simp [key, Prod.Lex.lt_iff]

theorem nextDue_le_of_key_le {task other : ScheduleTask} (h : task.key ≤ other.key) :
    task.nextDue ≤ other.nextDue := by
  have := (Prod.Lex.le_iff.mp h)
  simp only [key, ofLex_toLex] at this
  omega

theorem period_pos {task : ScheduleTask} (h : 0 < task.interval) : 0 < task.period := by
  unfold period nanosecondsPerMillisecond
  omega

end ScheduleTask

/-! ### The constructor -/

/-- The loop of the constructor over the remaining tasks; `groupIds` are the ids seen so far. -/
def checkTasks (groupIds : List ByteString) : List ScheduleTask → Except ByteString Unit
  | [] => .ok ()
  | task :: rest =>
    if task.groupId = [] then .error (lit "schedule group id must not be empty")
    else if task.interval ≤ 0 then
      .error (lit "schedule task interval must be positive: " ++ task.groupId)
    else if task.groupId ∈ groupIds then
      .error (lit "duplicate schedule group id: " ++ task.groupId)
    else checkTasks (task.groupId :: groupIds) rest

/-- What the constructor guarantees of the tasks it accepts. -/
theorem checkTasks_ok {groupIds : List ByteString} {tasks : List ScheduleTask}
    (h : checkTasks groupIds tasks = .ok ()) :
    (∀ task ∈ tasks, task.groupId ≠ [] ∧ 0 < task.interval ∧ task.groupId ∉ groupIds) ∧
      (tasks.map ScheduleTask.groupId).Nodup := by
  induction tasks generalizing groupIds with
  | nil => simp
  | cons task rest ih =>
    simp only [checkTasks] at h
    split_ifs at h with hempty hinterval hseen
    obtain ⟨hrest, hnodup⟩ := ih h
    refine ⟨?_, ?_⟩
    · intro t ht
      rcases List.mem_cons.mp ht with rfl | ht
      · exact ⟨hempty, by omega, hseen⟩
      · obtain ⟨h1, h2, h3⟩ := hrest t ht
        exact ⟨h1, h2, fun hmem => h3 (List.mem_cons_of_mem _ hmem)⟩
    · rw [List.map_cons, List.nodup_cons]
      refine ⟨?_, hnodup⟩
      intro hmem
      obtain ⟨t, ht, heq⟩ := List.mem_map.mp hmem
      exact (hrest t ht).2.2 (by simp [heq])

/-- Tasks with distinct ids and positive intervals are accepted. -/
theorem checkTasks_eq_ok {groupIds : List ByteString} {tasks : List ScheduleTask}
    (htasks : ∀ task ∈ tasks, task.groupId ≠ [] ∧ 0 < task.interval ∧ task.groupId ∉ groupIds)
    (hnodup : (tasks.map ScheduleTask.groupId).Nodup) : checkTasks groupIds tasks = .ok () := by
  induction tasks generalizing groupIds with
  | nil => rfl
  | cons task rest ih =>
    obtain ⟨hempty, hinterval, hseen⟩ := htasks task List.mem_cons_self
    rw [List.map_cons, List.nodup_cons] at hnodup
    rw [checkTasks, if_neg hempty, if_neg (by omega), if_neg hseen]
    refine ih (fun t ht => ?_) hnodup.2
    obtain ⟨h1, h2, h3⟩ := htasks t (List.mem_cons_of_mem _ ht)
    refine ⟨h1, h2, fun hmem => ?_⟩
    rcases List.mem_cons.mp hmem with heq | hmem
    · exact hnodup.1 (heq ▸ List.mem_map_of_mem ht)
    · exact h3 hmem

/-- The constructor only looks at ids and intervals. -/
theorem checkTasks_congr {groupIds : List ByteString} {tasks tasks' : List ScheduleTask}
    (h : tasks.map (fun t => (t.groupId, t.interval)) =
      tasks'.map (fun t => (t.groupId, t.interval))) :
    checkTasks groupIds tasks = checkTasks groupIds tasks' := by
  induction tasks generalizing groupIds tasks' with
  | nil =>
    obtain rfl : tasks' = [] := by simpa using h.symm
    rfl
  | cons task rest ih =>
    cases tasks' with
    | nil => simp at h
    | cons task' rest' =>
      simp only [List.map_cons, List.cons.injEq, Prod.mk.injEq] at h
      simp only [checkTasks, h.1.1, h.1.2, ih h.2]

/-- A policy: tasks that passed the constructor. -/
structure FixedIntervalSequentialPolicy where
  tasks : List ScheduleTask
  accepted : checkTasks [] tasks = .ok ()

/-! ### Selection -/

/-- The loop of `select_due` from position `index` on; `selected` is the pointer it carries, with
the task it points to. -/
def selectFrom (now : ℤ) (index : ℕ) (selected : Option (ℕ × ScheduleTask)) :
    List ScheduleTask → Option (ℕ × ScheduleTask)
  | [] => selected
  | task :: rest =>
    if task.nextDue > now then selectFrom now (index + 1) selected rest
    else
      match selected with
      | none => selectFrom now (index + 1) (some (index, task)) rest
      | some (at_, best) =>
        if task.nextDue < best.nextDue ∨
            (task.nextDue = best.nextDue ∧ task.stableOrder < best.stableOrder) then
          selectFrom now (index + 1) (some (index, task)) rest
        else selectFrom now (index + 1) (some (at_, best)) rest

/-- `select_due`. -/
def selectDue (tasks : List ScheduleTask) (now : ℤ) : Option (ℕ × ScheduleTask) :=
  selectFrom now 0 none tasks

/-- `std::min_element` with the comparison of `next_wakeup`: a later element replaces the best one
only if it compares less. -/
def earliest (best : ScheduleTask) : List ScheduleTask → ScheduleTask
  | [] => best
  | task :: rest =>
    if (if task.nextDue ≠ best.nextDue then task.nextDue < best.nextDue
        else task.stableOrder < best.stableOrder) then earliest task rest
    else earliest best rest

/-- `next_wakeup`. -/
def nextWakeup : List ScheduleTask → ℤ
  | [] => timePointMax
  | task :: rest => (earliest task rest).nextDue

/-- What `select_due` returns: nothing when no task is due; otherwise a due task that comes before
every other one by deadline, stable order and position. -/
inductive Selected (now : ℤ) (tasks : List ScheduleTask) : Option (ℕ × ScheduleTask) → Prop
  | none : (∀ task ∈ tasks, now < task.nextDue) → Selected now tasks none
  | some {i : ℕ} {task : ScheduleTask} :
      tasks[i]? = some task → task.nextDue ≤ now →
      (∀ (j : ℕ) (other : ScheduleTask), tasks[j]? = some other → other.nextDue ≤ now →
        task.key < other.key ∨ (task.key = other.key ∧ i ≤ j)) →
      Selected now tasks (some (i, task))

/-- The loop invariant of `select_due`, over the tasks `pre` already passed. -/
theorem selectFrom_spec {now : ℤ} (pre : List ScheduleTask) {rest : List ScheduleTask}
    {selected : Option (ℕ × ScheduleTask)} (h : Selected now pre selected) :
    Selected now (pre ++ rest) (selectFrom now pre.length selected rest) := by
  induction rest generalizing pre selected with
  | nil => simpa [selectFrom] using h
  | cons task rest ih =>
    have hlast : (pre ++ [task])[pre.length]? = some task := by simp
    -- a task of `pre ++ [task]` is one of `pre`, at the same position, or the new one
    have hsplit : ∀ (j : ℕ) (other : ScheduleTask), (pre ++ [task])[j]? = some other →
        (j < pre.length ∧ pre[j]? = some other) ∨ (j = pre.length ∧ other = task) := by
      intro j other hj
      rcases Nat.lt_trichotomy j pre.length with hlt | rfl | hgt
      · exact Or.inl ⟨hlt, by rwa [List.getElem?_append_left hlt] at hj⟩
      · exact Or.inr ⟨rfl, by simpa [eq_comm] using hj⟩
      · rw [List.getElem?_eq_none (by simp; omega)] at hj
        simp at hj
    suffices hs : ∀ sel, Selected now (pre ++ [task]) sel →
        Selected now (pre ++ task :: rest) (selectFrom now (pre.length + 1) sel rest) by
      unfold selectFrom
      split_ifs with hlate
      · refine hs _ ?_
        cases h with
        | none hall => exact .none (by simpa [or_imp, forall_and] using ⟨hall, hlate⟩)
        | @some i best hget hdue hleast =>
          refine .some (by rw [List.getElem?_append_left (by grind), hget]) hdue ?_
          intro j other hj hother
          rcases hsplit j other hj with ⟨-, hj⟩ | ⟨-, rfl⟩
          · exact hleast j other hj hother
          · omega
      · cases h with
        | none hall =>
          refine hs _ (.some hlast (by omega) ?_)
          intro j other hj hother
          rcases hsplit j other hj with ⟨-, hj⟩ | ⟨rfl, rfl⟩
          · exact absurd hother (not_le.mpr (hall other (List.mem_of_getElem? hj)))
          · exact Or.inr ⟨rfl, le_rfl⟩
        | @some i best hget hdue hleast =>
          simp only [← ScheduleTask.key_lt_iff]
          split_ifs with hbeats
          · refine hs _ (.some hlast (by omega) ?_)
            intro j other hj hother
            rcases hsplit j other hj with ⟨-, hj⟩ | ⟨rfl, rfl⟩
            · left
              rcases hleast j other hj hother with hlt | ⟨heq, -⟩
              · exact hbeats.trans hlt
              · exact heq ▸ hbeats
            · exact Or.inr ⟨rfl, le_rfl⟩
          · refine hs _ (.some (by rw [List.getElem?_append_left (by grind), hget]) hdue ?_)
            intro j other hj hother
            rcases hsplit j other hj with ⟨-, hj⟩ | ⟨rfl, rfl⟩
            · exact hleast j other hj hother
            · rcases (not_lt.mp hbeats).lt_or_eq with hlt | heq
              · exact Or.inl hlt
              · exact Or.inr ⟨heq, by grind⟩
    intro sel hsel
    have := ih _ hsel
    simpa using this

/-- `select_due` picks the first due task. -/
theorem selectDue_spec (tasks : List ScheduleTask) (now : ℤ) :
    Selected now tasks (selectDue tasks now) :=
  selectFrom_spec [] (.none (by simp))

theorem selectDue_eq_none_iff {tasks : List ScheduleTask} {now : ℤ} :
    selectDue tasks now = none ↔ ∀ task ∈ tasks, now < task.nextDue := by
  have hspec := selectDue_spec tasks now
  constructor
  · intro h
    rw [h] at hspec
    cases hspec with
    | none hall => exact hall
  · intro hall
    revert hspec
    cases hsel : selectDue tasks now with
    | none => simp
    | some p =>
      intro hspec
      cases hspec with
      | some hget hdue _ => exact absurd hdue (not_le.mpr (hall _ (List.mem_of_getElem? hget)))

/-- The selected task is due, and no task at all is due before it. -/
theorem selectDue_some {tasks : List ScheduleTask} {now : ℤ} {i : ℕ} {task : ScheduleTask}
    (h : selectDue tasks now = some (i, task)) :
    tasks[i]? = some task ∧ task.nextDue ≤ now ∧ ∀ other ∈ tasks, task.nextDue ≤ other.nextDue := by
  have hspec := selectDue_spec tasks now
  rw [h] at hspec
  cases hspec with
  | some hget hdue hleast =>
    refine ⟨hget, hdue, fun other hother => ?_⟩
    obtain ⟨j, hj⟩ := List.getElem?_of_mem hother
    by_cases hlate : other.nextDue ≤ now
    · refine ScheduleTask.nextDue_le_of_key_le ?_
      rcases hleast j other hj hlate with hlt | ⟨heq, -⟩
      · exact hlt.le
      · exact heq.le
    · omega

/-! ### Completion -/

/-- The loop of `on_complete`; `none` when it has not ended after `fuel` tests of its condition. -/
def catchUp (finishedAt : ℤ) : ℕ → ScheduleTask → Option ScheduleTask
  | 0, _ => none
  | fuel + 1, task =>
    if task.nextDue ≤ finishedAt then catchUp finishedAt fuel task.skip else some task

/-- `on_complete`.  A loop that makes progress ends before `next_due` has taken every value up to
`finished_at`. -/
def onComplete (task : ScheduleTask) (finishedAt : ℤ) : Option ScheduleTask :=
  let task := task.advance
  catchUp finishedAt ((finishedAt - task.nextDue).toNat + 2) task

/-- `task'` is `task` moved on by `moves` periods of which `skips` were counted as skipped; what
else a task holds is unchanged. -/
structure MovedOn (task task' : ScheduleTask) (moves skips : ℕ) : Prop where
  groupId : task'.groupId = task.groupId
  interval : task'.interval = task.interval
  stableOrder : task'.stableOrder = task.stableOrder
  nextDue : task'.nextDue = task.nextDue + task.period * moves
  grows : task.skippedCycles ≤ task'.skippedCycles
  /-- As long as the counter does not saturate it counts every skip. -/
  skipped : task'.skippedCycles < uint64Max → task'.skippedCycles = task.skippedCycles + skips

namespace MovedOn

variable {task task' task'' : ScheduleTask} {moves skips moves' skips' : ℕ}

theorem period (h : MovedOn task task' moves skips) : task'.period = task.period := by
  unfold ScheduleTask.period
  rw [h.interval]

theorem refl (task : ScheduleTask) : MovedOn task task 0 0 :=
  ⟨rfl, rfl, rfl, by simp, le_rfl, by simp⟩

theorem trans (h : MovedOn task task' moves skips) (h' : MovedOn task' task'' moves' skips') :
    MovedOn task task'' (moves + moves') (skips + skips') where
  groupId := h'.groupId.trans h.groupId
  interval := h'.interval.trans h.interval
  stableOrder := h'.stableOrder.trans h.stableOrder
  nextDue := by
    rw [h'.nextDue, h.period, h.nextDue, Nat.cast_add, mul_add, add_assoc]
  grows := h.grows.trans h'.grows
  skipped hlt := by
    rw [h'.skipped hlt, h.skipped (h'.grows.trans_lt hlt)]
    omega

end MovedOn

theorem movedOn_advance (task : ScheduleTask) : MovedOn task task.advance 1 0 :=
  ⟨rfl, rfl, rfl, by simp [ScheduleTask.advance], le_rfl, by simp [ScheduleTask.advance]⟩

theorem movedOn_skip (task : ScheduleTask) : MovedOn task task.skip 1 1 where
  groupId := rfl
  interval := rfl
  stableOrder := rfl
  nextDue := by simp [ScheduleTask.skip, ScheduleTask.advance]
  grows := by
    simp only [ScheduleTask.skip]
    split_ifs <;> omega
  skipped := by
    simp only [ScheduleTask.skip]
    split_ifs <;> omega

/-- What the loop of `on_complete` returns, if it ends: it skips until the deadline has passed
`finishedAt`, and no further. -/
theorem catchUp_movedOn {finishedAt : ℤ} {fuel : ℕ} {task task' : ScheduleTask}
    (h : catchUp finishedAt fuel task = some task') :
    ∃ skips, MovedOn task task' skips skips ∧ finishedAt < task'.nextDue ∧
      (task.nextDue ≤ finishedAt + task.period → task'.nextDue ≤ finishedAt + task.period) := by
  induction fuel generalizing task with
  | zero => simp [catchUp] at h
  | succ fuel ih =>
    rw [catchUp] at h
    split_ifs at h with hlate
    · obtain ⟨skips, hmove, hafter, hbefore⟩ := ih h
      have hskip := movedOn_skip task
      have hnext : task.skip.nextDue = task.nextDue + task.period := by simpa using hskip.nextDue
      rw [hskip.period, hnext] at hbefore
      exact ⟨1 + skips, hskip.trans hmove, hafter, fun _ => hbefore (by omega)⟩
    · obtain rfl := Option.some.inj h
      exact ⟨0, .refl task, by omega, id⟩

/-- The loop ends: each round brings the deadline closer to `finishedAt`. -/
theorem catchUp_isSome {finishedAt : ℤ} {fuel : ℕ} {task : ScheduleTask}
    (hperiod : 0 < task.period) (hfuel : finishedAt - task.nextDue + 1 < fuel) (hpos : 0 < fuel) :
    (catchUp finishedAt fuel task).isSome := by
  induction fuel generalizing task with
  | zero => omega
  | succ fuel ih =>
    have hskip := movedOn_skip task
    have hnext : task.skip.nextDue = task.nextDue + task.period := by simpa using hskip.nextDue
    rw [catchUp]
    split_ifs with hlate
    · exact ih (by rwa [hskip.period]) (by rw [hnext]; push_cast at hfuel; omega) (by omega)
    · rfl

/-- `on_complete` counts one period for the execution and one for each skipped cycle; a task that
was due at `finishedAt` is next due in `(finishedAt, finishedAt + period]`. -/
theorem onComplete_movedOn {task task' : ScheduleTask} {finishedAt : ℤ}
    (h : onComplete task finishedAt = some task') :
    ∃ skips, MovedOn task task' (1 + skips) skips ∧ finishedAt < task'.nextDue ∧
      (task.nextDue ≤ finishedAt → task'.nextDue ≤ finishedAt + task.period) := by
  obtain ⟨skips, hmove, hafter, hbefore⟩ := catchUp_movedOn h
  have hadvance := movedOn_advance task
  have hnext : task.advance.nextDue = task.nextDue + task.period := by
    simpa using hadvance.nextDue
  rw [hadvance.period, hnext] at hbefore
  exact ⟨skips, by simpa using hadvance.trans hmove, hafter, fun _ => hbefore (by omega)⟩

/-- **Termination of `on_complete`**, whatever the finishing time. -/
theorem onComplete_isSome {task : ScheduleTask} {finishedAt : ℤ} (hinterval : 0 < task.interval) :
    (onComplete task finishedAt).isSome := by
  have hperiod : 0 < task.advance.period := ScheduleTask.period_pos hinterval
  exact catchUp_isSome hperiod (by push_cast; omega) (by omega)

namespace FixedIntervalSequentialPolicy

variable (policy : FixedIntervalSequentialPolicy)

theorem interval_pos {task : ScheduleTask} (h : task ∈ policy.tasks) : 0 < task.interval :=
  ((checkTasks_ok policy.accepted).1 task h).2.1

/-- The policy with the task at `i` replaced by one of the same group and interval. -/
def replace (i : ℕ) (task task' : ScheduleTask) (hget : policy.tasks[i]? = some task)
    (hsame : (task'.groupId, task'.interval) = (task.groupId, task.interval)) :
    FixedIntervalSequentialPolicy where
  tasks := policy.tasks.set i task'
  accepted := by
    rw [← policy.accepted]
    refine checkTasks_congr ?_
    rw [List.map_set, hsame]
    refine List.ext_getElem? fun j => ?_
    rw [List.getElem?_set]
    split_ifs with hij hlt
    · subst hij
      simp [hget]
    · subst hij
      simpa using hlt
    · rfl

/-- `on_complete` on the task at `i`. -/
def onComplete (i : ℕ) (finishedAt : ℤ) : Option FixedIntervalSequentialPolicy :=
  match hget : policy.tasks[i]? with
  | none => none
  | some task =>
    match hrun : MiniGateway.onComplete task finishedAt with
    | none => none
    | some task' => some (policy.replace i task task' hget (by
        obtain ⟨_, hmove, _⟩ := onComplete_movedOn hrun
        rw [hmove.groupId, hmove.interval]))

theorem onComplete_eq_some {i : ℕ} {finishedAt : ℤ} {policy' : FixedIntervalSequentialPolicy}
    (h : policy.onComplete i finishedAt = some policy') :
    ∃ task task', policy.tasks[i]? = some task ∧
      MiniGateway.onComplete task finishedAt = some task' ∧
      policy'.tasks = policy.tasks.set i task' := by
  unfold onComplete at h
  split at h
  · simp at h
  · rename_i task hget
    split at h
    · simp at h
    · rename_i task' hrun
      obtain rfl := Option.some.inj h
      exact ⟨task, task', hget, hrun, rfl⟩

/-- `on_complete` ends on every task of a policy. -/
theorem onComplete_isSome {i : ℕ} {task : ScheduleTask} (hget : policy.tasks[i]? = some task)
    (finishedAt : ℤ) : (policy.onComplete i finishedAt).isSome := by
  have hrun : (MiniGateway.onComplete task finishedAt).isSome :=
    MiniGateway.onComplete_isSome (policy.interval_pos (List.mem_of_getElem? hget))
  unfold onComplete
  split
  · simp_all
  · rename_i task₁ hget₁
    obtain rfl : task = task₁ := Option.some.inj (hget.symm.trans hget₁)
    split
    · simp_all
    · rfl

end FixedIntervalSequentialPolicy

end MiniGateway
