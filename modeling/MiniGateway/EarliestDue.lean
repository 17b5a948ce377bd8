/-
  Serving the earliest due task.

  A `Board` holds, for each of finitely many tasks, the instant at which it is next due, together
  with the clock, the task being served and the log of the tasks whose service began.  One task is
  served at a time; it is due when its service begins and no task is due earlier; when its service
  ends it is next due after that moment.  How ties are broken and by how much a deadline moves on
  is left open.

  `overtaking` is what this discipline guarantees: once `B` is due, every other task is begun at
  most once before `B` is.  The invariant behind it (`Waiting`) is that each task begun since then
  is being served or has moved past `B` for good.
-/
import MiniGateway.TransitionSystem
import Mathlib.Data.Finset.Card
import Mathlib.Data.List.TakeWhile
import Mathlib.Order.Basic

namespace EarliestDue

variable {ι α : Type*} [DecidableEq ι] [LinearOrder α]

/-! ### The discipline -/

/-- The deadlines, the clock, the task in service and the log of services begun. -/
structure Board (ι α : Type*) where
  due : ι → α
  now : α
  serving : Option ι
  served : List ι

/-- What can happen to a board. -/
inductive Event (ι α : Type*)
  /-- The service of the earliest due task begins at `t`. -/
  | begin (i : ι) (t : α)
  /-- The service in progress ends at `t`; its task is next due at `next`. -/
  | finish (next t : α)
  /-- The clock moves on. -/
  | tick (t : α)

/-- One event on the board of the tasks `members`. -/
def Board.step (members : Finset ι) (b : Board ι α) : Event ι α → Option (Board ι α)
  | .begin i t =>
    if b.serving = none ∧ i ∈ members ∧ b.now ≤ t ∧ b.due i ≤ t ∧
        ∀ j ∈ members, b.due i ≤ b.due j then
      some { b with now := t, serving := some i, served := b.served ++ [i] }
    else none
  | .finish next t =>
    match b.serving with
    | none => none
    | some i =>
      if b.now ≤ t ∧ t < next then
        some { b with due := Function.update b.due i next, now := t, serving := none }
      else none
  | .tick t => if b.now ≤ t then some { b with now := t } else none

/-- All runs of boards of `members`. -/
def system (members : Finset ι) : TransitionSystem (Board ι α) (Event ι α) where
  Init b := b.serving = none
  step := Board.step members

/-- What an event does, guards included. -/
theorem step_cases {members : Finset ι} {b b' : Board ι α} {e : Event ι α}
    (h : (system members).step b e = some b') :
    (∃ i t, b.serving = none ∧ i ∈ members ∧ b.now ≤ t ∧ (∀ j ∈ members, b.due i ≤ b.due j) ∧
      b' = { b with now := t, serving := some i, served := b.served ++ [i] }) ∨
    (∃ i next t, b.serving = some i ∧ b.now ≤ t ∧ t < next ∧
      b' = { b with due := Function.update b.due i next, now := t, serving := none }) ∨
    (∃ t, b.now ≤ t ∧ b' = { b with now := t }) := by
  cases e with
  | begin i t =>
    simp only [system, Board.step] at h
    split_ifs at h with hg
    exact Or.inl ⟨i, t, hg.1, hg.2.1, hg.2.2.1, hg.2.2.2.2, (Option.some.inj h).symm⟩
  | finish next t =>
    simp only [system, Board.step] at h
    split at h
    · simp at h
    · rename_i i hi
      split_ifs at h with hg
      exact Or.inr (Or.inl ⟨i, next, t, hi, hg.1, hg.2, (Option.some.inj h).symm⟩)
  | tick t =>
    simp only [system, Board.step] at h
    split_ifs at h with hg
    exact Or.inr (Or.inr ⟨t, hg, (Option.some.inj h).symm⟩)

/-! ### What happens before a due task is served -/

/-- What comes before the first `B` does not change when the list grows behind a `B`. -/
theorem takeWhile_ne_append {B : ι} {xs : List ι} (h : B ∈ xs) (ys : List ι) :
    (xs ++ ys).takeWhile (· ≠ B) = xs.takeWhile (· ≠ B) := by
  induction xs with
  | nil => simp at h
  | cons x xs ih =>
    by_cases hx : x = B
    · simp [hx]
    · have hmem : B ∈ xs := by
        rcases List.mem_cons.mp h with rfl | hmem
        · exact absurd rfl hx
        · exact hmem
      simpa [hx] using ih hmem

/-- Without a `B` in `xs`, all of `xs` comes before the first `B`. -/
theorem takeWhile_ne_append_of_notMem {B : ι} {xs : List ι} (h : B ∉ xs) (ys : List ι) :
    (xs ++ ys).takeWhile (· ≠ B) = xs ++ ys.takeWhile (· ≠ B) :=
  List.takeWhile_append_of_pos fun x hx => by simpa using ne_of_mem_of_not_mem hx h

/-- `B`, due since the board `b`, has not been served in the services `ex` begun since: its
deadline stands, and each task of `ex` is in service or has moved past `B`. -/
structure Waiting (B : ι) (b b' : Board ι α) (ex : List ι) : Prop where
  unserved : B ∉ ex
  due_eq : b'.due B = b.due B
  due_le : b.due B ≤ b'.now
  nodup : ex.Nodup
  serving : ∀ i, b'.serving = some i → i ∈ ex
  passed : ∀ i ∈ ex, b'.serving = some i ∨ b.due B < b'.due i

/-- The services begun between `b` and `b'`, as far as `B` is concerned. -/
def Overtaken (members : Finset ι) (B : ι) (b b' : Board ι α) : Prop :=
  ∃ ex, b'.served = b.served ++ ex ∧ (∀ i ∈ ex, i ∈ members) ∧
    (ex.takeWhile (· ≠ B)).Nodup ∧ (B ∉ ex → Waiting B b b' ex)

omit [DecidableEq ι] in
/-- Beginning a service while `B` waits: it is `B`'s, or that of a task not served since. -/
theorem Waiting.begin {members : Finset ι} {B : ι} {b b' : Board ι α} {ex : List ι}
    (h : Waiting B b b' ex) (hB : B ∈ members) {i : ι} {t : α} (hidle : b'.serving = none)
    (ht : b'.now ≤ t) (hfirst : ∀ j ∈ members, b'.due i ≤ b'.due j) :
    i ∉ ex ∧ (i ≠ B → Waiting B b { b' with
      now := t, serving := some i, served := b'.served ++ [i] } (ex ++ [i])) := by
  have hnew : i ∉ ex := by
    intro hi
    have hpast : b.due B < b'.due i := by simpa [hidle] using h.passed i hi
    exact absurd (hfirst B hB) (by rw [h.due_eq]; exact not_le.mpr hpast)
  refine ⟨hnew, fun hne => ⟨?_, h.due_eq, h.due_le.trans ht, ?_, ?_, ?_⟩⟩
  · simp [h.unserved, hne.symm]
  · exact h.nodup.append (List.nodup_singleton i) (by simpa using hnew)
  · rintro j hj
    obtain rfl : i = j := Option.some.inj hj
    simp
  · intro j hj
    rcases List.mem_append.mp hj with hj | hj
    · right
      simpa [hidle] using h.passed j hj
    · left
      rw [List.mem_singleton.mp hj]

/-- Ending a service moves its task past `B`. -/
theorem Waiting.finish {B : ι} {b b' : Board ι α} {ex : List ι} (h : Waiting B b b' ex) {i : ι}
    {next t : α} (hi : b'.serving = some i) (ht : b'.now ≤ t) (hnext : t < next) :
    Waiting B b { b' with due := Function.update b'.due i next, now := t, serving := none } ex := by
  have hne : B ≠ i := fun heq => h.unserved (heq ▸ h.serving i hi)
  refine ⟨h.unserved, ?_, h.due_le.trans ht, h.nodup, by simp, ?_⟩
  · exact (Function.update_of_ne hne _ _).trans h.due_eq
  · intro j hj
    right
    by_cases hji : j = i
    · subst hji
      simp only [Function.update_self]
      exact (h.due_le.trans ht).trans_lt hnext
    · simp only [ne_eq, hji, not_false_eq_true, Function.update_of_ne]
      exact (h.passed j hj).resolve_left fun hs => hji (Option.some.inj (hs.symm.trans hi))

/-- One event. -/
theorem Overtaken.step {members : Finset ι} {B : ι} (hB : B ∈ members) {b b' b'' : Board ι α}
    {e : Event ι α} (h : Overtaken members B b b')
    (hstep : (system members).step b' e = some b'') : Overtaken members B b b'' := by
  obtain ⟨ex, hlog, hmem, hnodup, hwait⟩ := h
  rcases step_cases hstep with ⟨i, t, hidle, hi, ht, hfirst, rfl⟩ | ⟨i, next, t, hi, ht, hnext, rfl⟩
    | ⟨t, ht, rfl⟩
  · refine ⟨ex ++ [i], by simp [hlog], ?_, ?_, ?_⟩
    · simpa [or_imp, forall_and] using ⟨hmem, hi⟩
    · by_cases hserved : B ∈ ex
      · rwa [takeWhile_ne_append hserved]
      · obtain ⟨hnew, -⟩ := (hwait hserved).begin hB hidle ht hfirst
        rw [takeWhile_ne_append_of_notMem hserved]
        by_cases hiB : i = B
        · simpa [hiB] using (hwait hserved).nodup
        · simpa [hiB, List.nodup_append] using
            ⟨(hwait hserved).nodup, fun j hj => ne_of_mem_of_not_mem hj hnew⟩
    · intro hserved
      have hsplit : B ∉ ex ∧ B ≠ i := by simpa using hserved
      exact ((hwait hsplit.1).begin hB hidle ht hfirst).2 hsplit.2.symm
  · exact ⟨ex, hlog, hmem, hnodup, fun hserved => (hwait hserved).finish hi ht hnext⟩
  · refine ⟨ex, hlog, hmem, hnodup, fun hserved => ?_⟩
    have hw := hwait hserved
    exact ⟨hw.unserved, hw.due_eq, hw.due_le.trans ht, hw.nodup, hw.serving, hw.passed⟩

/-- **Bounded overtaking.**  From a board on which no service is in progress and `B` is due, every
run begins each other task at most once before it begins `B`. -/
theorem overtaking {members : Finset ι} {B : ι} (hB : B ∈ members) {b b' : Board ι α}
    (hidle : b.serving = none) (hdue : b.due B ≤ b.now) (h : (system members).Reaches b b') :
    Overtaken members B b b' := by
  refine h.invariant (fun _ _ _ hi hs => Overtaken.step hB hi hs) ?_
  exact ⟨[], by simp, by simp, by simp, fun _ => ⟨by simp, rfl, hdue, by simp, by simp [hidle],
    by simp⟩⟩

/-- As many services as there are tasks contain one of `B`. -/
theorem mem_take_card {members : Finset ι} {B : ι} (hB : B ∈ members) {ex : List ι}
    (hmem : ∀ i ∈ ex, i ∈ members) (hnodup : (ex.takeWhile (· ≠ B)).Nodup)
    (hlength : members.card ≤ ex.length) : B ∈ ex.take members.card := by
  by_contra hB'
  have hinitial : ex.takeWhile (· ≠ B) =
      ex.take members.card ++ (ex.drop members.card).takeWhile (· ≠ B) := by
    conv_lhs => rw [← List.take_append_drop members.card ex]
    exact takeWhile_ne_append_of_notMem hB' _
  have hnd : (ex.take members.card).Nodup := (hinitial ▸ hnodup).of_append_left
  have hsub : (ex.take members.card).toFinset ⊆ members.erase B := by
    intro i hi
    have hi' : i ∈ ex.take members.card := List.mem_toFinset.mp hi
    exact Finset.mem_erase.mpr ⟨ne_of_mem_of_not_mem hi' hB', hmem i (List.mem_of_mem_take hi')⟩
  have hcard : members.card ≤ (members.erase B).card :=
    calc members.card = (ex.take members.card).length := by simp [hlength]
      _ = (ex.take members.card).toFinset.card := (List.toFinset_card_of_nodup hnd).symm
      _ ≤ (members.erase B).card := Finset.card_le_card hsub
  have := Finset.card_erase_lt_of_mem hB
  omega

end EarliestDue
