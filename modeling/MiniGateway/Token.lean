/-
  Tokens: at most one thread inside a region of its code.

  A mutex, or any other right that one thread holds at a time, is recorded twice in a model: the
  owner field says who holds it, and each thread's position says whether it is inside.
  `Guarded inside owner pos` says that the two agree.  The lemmas are the four things a step
  can do to such a pair: take the token, give it back, or move a thread without crossing the
  border of the region.
-/
import Mathlib.Logic.Function.Basic

namespace Token

variable {ι P : Type*} [DecidableEq ι] {inside : P → Bool} {owner : Option ι} {pos : ι → P}

/-- The threads inside the region are exactly the owner of the token. -/
def Guarded (inside : P → Bool) (owner : Option ι) (pos : ι → P) : Prop :=
  ∀ t, inside (pos t) = true ↔ owner = some t

omit [DecidableEq ι] in
theorem Guarded.owner_eq (h : Guarded inside owner pos) {t : ι} (ht : inside (pos t) = true) :
    owner = some t :=
  (h t).mp ht

omit [DecidableEq ι] in
/-- **Mutual exclusion**: two threads inside the region are the same thread. -/
theorem Guarded.unique (h : Guarded inside owner pos) {t u : ι} (ht : inside (pos t) = true)
    (hu : inside (pos u) = true) : t = u :=
  Option.some.inj ((h.owner_eq ht).symm.trans (h.owner_eq hu))

omit [DecidableEq ι] in
theorem Guarded.outside (h : Guarded inside none pos) (t : ι) : inside (pos t) = false := by
  have := (h t).not.mpr (by simp)
  simpa using this

omit [DecidableEq ι] in
/-- Nobody is inside and nobody owns the token. -/
theorem guarded_none (h : ∀ t, inside (pos t) = false) : Guarded inside none pos := by
  intro t
  simp [h t]

/-- A thread takes the free token and enters. -/
theorem Guarded.acquire (h : Guarded inside none pos) {t : ι} {p : P} (hp : inside p = true) :
    Guarded inside (some t) (Function.update pos t p) := by
  intro u
  by_cases hu : u = t
  · subst hu
    simp [hp]
  · rw [Function.update_of_ne hu, h u]
    simp [Ne.symm hu]

/-- The owner leaves and gives the token back. -/
theorem Guarded.release (h : Guarded inside owner pos) {t : ι} (ht : inside (pos t) = true) {p : P}
    (hp : inside p = false) : Guarded inside none (Function.update pos t p) := by
  refine guarded_none fun u => ?_
  by_cases hu : u = t
  · subst hu
    simpa using hp
  · rw [Function.update_of_ne hu]
    by_contra hin
    exact hu (h.unique (by simpa using hin) ht)

/-- A thread moves without entering or leaving the region. -/
theorem Guarded.move (h : Guarded inside owner pos) {t : ι} {p : P}
    (hp : inside p = inside (pos t)) : Guarded inside owner (Function.update pos t p) := by
  intro u
  by_cases hu : u = t
  · subst hu
    rw [Function.update_self, hp]
    exact h u
  · rw [Function.update_of_ne hu]
    exact h u

end Token
