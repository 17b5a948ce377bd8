/-
  Transition systems whose steps are executable.

  A `TransitionSystem σ ι` has a set of initial states and a partial step function
  `σ → ι → Option σ`: the event `l` carries every choice the environment makes, and `none`
  says that `l` cannot happen in the state.  Because steps compute, a concrete run is checked by
  evaluation (`reachable_of_run`), while a property of every run is proved from one step
  (`Reachable.invariant`, `Reaches.invariant`).

  * `Reachable M s`   : `s` occurs in some run from an initial state.
  * `Reaches M s s'`  : some run leads from `s` to `s'`.
  * `countSteps M P s w` : how many steps of the run of the events `w` from `s` satisfy `P`.
  * `restrict M P`    : the runs of `M` all of whose steps satisfy `P`.
  * `Never M P s`     : no step that satisfies `P` is taken from `s` on.
  * `Projection M N f`: every step of `M` is a step of `N` or nothing at all, seen through `f`;
    invariants of `N` are then invariants of `M` (`Projection.reachable`).
-/
import Mathlib.Data.Option.Basic
import Mathlib.Data.List.Induction
import Mathlib.Order.RelClasses

/-- A transition system with initial states `Init` and a partial, executable `step`. -/
structure TransitionSystem (σ ι : Type*) where
  /-- The states a run may start in. -/
  Init : σ → Prop
  /-- `step s l` is the state after the event `l`, or `none` when `l` is not enabled in `s`. -/
  step : σ → ι → Option σ

namespace TransitionSystem

variable {σ ι τ κ : Type*} (M : TransitionSystem σ ι)

/-! ### Runs -/

/-- The state after the events `ls` in order, if each of them is enabled. -/
def run : σ → List ι → Option σ
  | s, [] => some s
  | s, l :: ls => (M.step s l).bind fun s' => run s' ls

/-- `s` occurs in some run of `M`. -/
inductive Reachable : σ → Prop
  | init {s : σ} : M.Init s → Reachable s
  | step {s s' : σ} {l : ι} : Reachable s → M.step s l = some s' → Reachable s'

/-- Some run of `M` leads from the first state to the second. -/
inductive Reaches (s : σ) : σ → Prop
  | refl : Reaches s s
  | step {s' s'' : σ} {l : ι} : Reaches s s' → M.step s' l = some s'' → Reaches s s''

variable {M}

/-- **The invariant rule.**  What holds initially and is preserved by every step from a reachable
state holds of every reachable state. -/
theorem Reachable.invariant {I : σ → Prop} (hinit : ∀ s, M.Init s → I s)
    (hstep : ∀ s l s', M.Reachable s → I s → M.step s l = some s' → I s') {s : σ}
    (h : M.Reachable s) : I s := by
  induction h with
  | init hs => exact hinit _ hs
  | step hr hl ih => exact hstep _ _ _ hr ih hl

/-- What holds in `s` and is preserved by every step holds in every state reached from `s`. -/
theorem Reaches.invariant {I : σ → Prop} (hstep : ∀ s l s', I s → M.step s l = some s' → I s')
    {s s' : σ} (h : M.Reaches s s') (hs : I s) : I s' := by
  induction h with
  | refl => exact hs
  | step _ hl ih => exact hstep _ _ _ ih hl

/-- The run rule for two-state properties: `R s` holds of `s` itself and is preserved by steps
between reachable states. -/
theorem Reaches.relation {R : σ → Prop}
    (hstep : ∀ s l s', M.Reachable s → R s → M.step s l = some s' → R s') {s s' : σ}
    (hr : M.Reachable s) (h : M.Reaches s s') (hs : R s) : M.Reachable s' ∧ R s' := by
  induction h with
  | refl => exact ⟨hr, hs⟩
  | step _ hl ih => exact ⟨ih.1.step hl, hstep _ _ _ ih.1 ih.2 hl⟩

theorem Reaches.reachable {s s' : σ} (h : M.Reaches s s') (hr : M.Reachable s) :
    M.Reachable s' := by
  induction h with
  | refl => exact hr
  | step _ hl ih => exact ih.step hl

theorem Reaches.single {s s' : σ} {l : ι} (h : M.step s l = some s') : M.Reaches s s' :=
  .step .refl h

theorem Reaches.trans {s s' s'' : σ} (h : M.Reaches s s') (h' : M.Reaches s' s'') :
    M.Reaches s s'' := by
  induction h' with
  | refl => exact h
  | step _ hl ih => exact ih.step hl

theorem Reaches.head {s s' s'' : σ} {l : ι} (h : M.step s l = some s') (h' : M.Reaches s' s'') :
    M.Reaches s s'' :=
  (Reaches.single h).trans h'

theorem reaches_of_run {s s' : σ} {w : List ι} (h : M.run s w = some s') : M.Reaches s s' := by
  induction w generalizing s with
  | nil =>
    obtain rfl := Option.some.inj h
    exact .refl
  | cons l w ih =>
    obtain ⟨s₁, h₁, h₂⟩ := Option.bind_eq_some_iff.mp h
    exact Reaches.head h₁ (ih h₂)

/-- A computed run from an initial state ends in a reachable state. -/
theorem reachable_of_run {s s' : σ} {w : List ι} (hs : M.Init s) (h : M.run s w = some s') :
    M.Reachable s' :=
  (reaches_of_run h).reachable (.init hs)

theorem run_append (s : σ) (w w' : List ι) :
    M.run s (w ++ w') = (M.run s w).bind fun s' => M.run s' w' := by
  induction w generalizing s with
  | nil => rfl
  | cons l w ih =>
    show (M.step s l).bind (fun s' => M.run s' (w ++ w')) =
      ((M.step s l).bind fun s' => M.run s' w).bind fun s' => M.run s' w'
    rw [Option.bind_assoc]
    congr 1
    funext s'
    exact ih s'

/-- The run rule for what has happened so far: `P w s` relates the events `w` of a run to the
state `s` that they lead to. -/
theorem run_induction {P : List ι → σ → Prop} {s₀ : σ} (hnil : P [] s₀)
    (hstep : ∀ w s l s', M.run s₀ w = some s → P w s → M.step s l = some s' → P (w ++ [l]) s')
    {w : List ι} {s : σ} (h : M.run s₀ w = some s) : P w s := by
  induction w using List.reverseRecOn generalizing s with
  | nil =>
    obtain rfl := Option.some.inj h
    exact hnil
  | append_singleton w l ih =>
    rw [run_append] at h
    obtain ⟨s₁, h₁, h₂⟩ := Option.bind_eq_some_iff.mp h
    obtain ⟨s₂, hl, h₃⟩ := Option.bind_eq_some_iff.mp h₂
    obtain rfl := Option.some.inj h₃
    exact hstep w s₁ l s₂ h₁ (ih h₁) hl

/-- A computed run whose last state passes the test `p`. -/
theorem exists_reaches_of_run {s : σ} {w : List ι} {p : σ → Bool}
    (h : (M.run s w).any p = true) : ∃ s', M.Reaches s s' ∧ p s' = true := by
  obtain ⟨s', hrun, hp⟩ := (Option.any_eq_true p _).mp h
  exact ⟨s', reaches_of_run hrun, hp⟩

/-- A computed run from an initial state whose last state passes the test `p`. -/
theorem exists_reachable_of_run {s : σ} {w : List ι} {p : σ → Bool} (hs : M.Init s)
    (h : (M.run s w).any p = true) : ∃ s', M.Reachable s' ∧ p s' = true := by
  obtain ⟨s', hreach, hp⟩ := exists_reaches_of_run h
  exact ⟨s', hreach.reachable (.init hs), hp⟩

/-! ### What can still happen -/

/-- **The progress rule.**  Where `Q` can always be reached, or `P` again at a lower rank, `Q` can be
reached. -/
theorem Reachable.reaches_of_rank {α : Type*} [LT α] [WellFoundedLT α] (rank : σ → α)
    {P Q : σ → Prop} (hstep : ∀ s, M.Reachable s → P s → ∃ s', M.Reaches s s' ∧
      (Q s' ∨ P s' ∧ rank s' < rank s)) {s : σ} (hr : M.Reachable s) (hs : P s) :
    ∃ s', M.Reaches s s' ∧ Q s' := by
  induction hrank : rank s using WellFoundedLT.induction generalizing s with
  | ind n ih =>
    obtain ⟨s', hreaches, hq | ⟨hp, hlt⟩⟩ := hstep s hr hs
    · exact ⟨s', hreaches, hq⟩
    · obtain ⟨s'', hreaches', hq⟩ := ih (rank s') (hrank ▸ hlt) (hreaches.reachable hr) hp rfl
      exact ⟨s'', hreaches.trans hreaches', hq⟩

/-- From `s` on, no step that satisfies `P` is ever taken. -/
def Never (M : TransitionSystem σ ι) (P : σ → ι → Prop) (s : σ) : Prop :=
  ∀ s' l s'', M.Reaches s s' → M.step s' l = some s'' → ¬P s' l

/-- What only such steps can change stays as it is. -/
theorem Never.invariant {P : σ → ι → Prop} {I : σ → Prop} {s s' : σ} (h : M.Never P s)
    (hr : M.Reachable s) (hs : I s)
    (hstep : ∀ s l s', M.Reachable s → I s → ¬P s l → M.step s l = some s' → I s')
    (hreaches : M.Reaches s s') : I s' := by
  induction hreaches with
  | refl => exact hs
  | step hreach hl ih => exact hstep _ _ _ (hreach.reachable hr) ih (h _ _ _ hreach hl) hl

/-! ### Counting steps -/

/-- The number of steps of a run that satisfy `P`. -/
def countSteps (M : TransitionSystem σ ι) (P : σ → ι → Bool) : σ → List ι → ℕ
  | _, [] => 0
  | s, l :: ls =>
    match M.step s l with
    | some s' => (if P s l then 1 else 0) + countSteps M P s' ls
    | none => 0

/-- One more step counts if it satisfies `P`. -/
theorem countSteps_append_singleton {P : σ → ι → Bool} {s s' s'' : σ} {w : List ι} {l : ι}
    (h : M.run s w = some s') (hl : M.step s' l = some s'') :
    M.countSteps P s (w ++ [l]) = M.countSteps P s w + if P s' l then 1 else 0 := by
  induction w generalizing s with
  | nil =>
    obtain rfl := Option.some.inj h
    simp [countSteps, hl]
  | cons k w ih =>
    obtain ⟨s₁, h₁, h₂⟩ := Option.bind_eq_some_iff.mp h
    have hrest := ih h₂
    simp only [List.cons_append, countSteps, h₁]
    omega

/-! ### Runs whose steps all meet a condition -/

/-- The runs of `M` in which every event `l` from a state `s` satisfies `P s l`. -/
def restrict (M : TransitionSystem σ ι) (P : σ → ι → Prop) [∀ s l, Decidable (P s l)] :
    TransitionSystem σ ι where
  Init := M.Init
  step s l := if P s l then M.step s l else none

theorem restrict_step {P : σ → ι → Prop} [∀ s l, Decidable (P s l)] {s s' : σ} {l : ι} :
    (M.restrict P).step s l = some s' ↔ P s l ∧ M.step s l = some s' := by
  unfold restrict
  by_cases h : P s l <;> simp [h]

/-- A run that meets the condition is a run. -/
theorem Reachable.of_restrict {P : σ → ι → Prop} [∀ s l, Decidable (P s l)] {s : σ}
    (h : (M.restrict P).Reachable s) : M.Reachable s := by
  induction h with
  | init hs => exact .init hs
  | step _ hl ih => exact ih.step (restrict_step.mp hl).2

/-! ### Projections -/

/-- `f` maps the runs of `M` to runs of `N`: each step of `M` from a reachable state is a step of
`N` or leaves `f` unchanged. -/
structure Projection (M : TransitionSystem σ ι) (N : TransitionSystem τ κ) (f : σ → τ) :
    Prop where
  init : ∀ s, M.Init s → N.Init (f s)
  step : ∀ s l s', M.Reachable s → M.step s l = some s' →
    f s' = f s ∨ ∃ k, N.step (f s) k = some (f s')

/-- Reachable states project to reachable states. -/
theorem Projection.reachable {N : TransitionSystem τ κ} {f : σ → τ} (p : Projection M N f) {s : σ}
    (h : M.Reachable s) : N.Reachable (f s) := by
  induction h with
  | init hs => exact .init (p.init _ hs)
  | step hr hl ih =>
    rcases p.step _ _ _ hr hl with heq | ⟨k, hk⟩
    · exact heq ▸ ih
    · exact ih.step hk

/-- Runs project to runs. -/
theorem Projection.reaches {N : TransitionSystem τ κ} {f : σ → τ} (p : Projection M N f) {s s' : σ}
    (hs : M.Reachable s) (h : M.Reaches s s') : N.Reaches (f s) (f s') := by
  induction h with
  | refl => exact .refl
  | step hr hl ih =>
    rcases p.step _ _ _ (hr.reachable hs) hl with heq | ⟨k, hk⟩
    · exact heq ▸ ih
    · exact ih.step hk

end TransitionSystem
