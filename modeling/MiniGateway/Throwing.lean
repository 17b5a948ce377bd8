/-
  Computations on a state that may throw.

  `Throwing ε σ α` is a computation that reads and writes a state and either returns a value or
  throws, keeping what it has written.  `Returns x s a s'` says that `x`, started in `s`, returns
  `a` and leaves `s'`.  A computation is taken apart with the equations below, one for each way of
  building it; a loop over a list has the rule `Returns.forM`.  `Throws` is the other outcome and
  `Leaves` is either; `Keeps P x` says that `x` keeps `P` in both, and has rules for sequences and
  loops.

  A computation without a state is an `Except ε α`.  `Settles P Q x` says what a result satisfies
  and what an error does; `collect` is the loop that gathers the results of a list, one by one.
-/
import Mathlib.Data.List.Forall2

/-- A computation on a state `σ` that may throw an `ε`. -/
abbrev Throwing (ε σ α : Type) : Type := ExceptT ε (StateM σ) α

namespace Throwing

variable {ε σ α β : Type}

/-- The computation returns `a` from `s` and leaves the state `s'`. -/
def Returns (x : Throwing ε σ α) (s : σ) (a : α) (s' : σ) : Prop :=
  (x.run.run s : Id (Except ε α × σ)) = (.ok a, s')

@[simp] theorem returns_pure {a b : α} {s s' : σ} :
    Returns (pure a : Throwing ε σ α) s b s' ↔ a = b ∧ s = s' := by
  show ((Except.ok a, s) : Except ε α × σ) = (.ok b, s') ↔ _
  simp

@[simp] theorem returns_throw {e : ε} {a : α} {s s' : σ} :
    Returns (throw e : Throwing ε σ α) s a s' ↔ False := by
  show ((Except.error e, s) : Except ε α × σ) = (.ok a, s') ↔ _
  simp

@[simp] theorem returns_get {s a s' : σ} :
    Returns (get : Throwing ε σ σ) s a s' ↔ s = a ∧ s = s' := by
  show ((Except.ok s, s) : Except ε σ × σ) = (.ok a, s') ↔ _
  simp

@[simp] theorem returns_modify {f : σ → σ} {s s' : σ} {u : Unit} :
    Returns (modify f : Throwing ε σ Unit) s u s' ↔ f s = s' := by
  show ((Except.ok (), f s) : Except ε Unit × σ) = (.ok u, s') ↔ _
  simp

/-- The run of a sequence. -/
theorem run_bind (x : Throwing ε σ α) (f : α → Throwing ε σ β) (s : σ) :
    (((x >>= f).run).run s : Id (Except ε β × σ)) =
      match (x.run.run s : Id (Except ε α × σ)) with
      | (.ok a, s₁) => (f a).run.run s₁
      | (.error e, s₁) => (.error e, s₁) := by
  show (match (x.run.run s : Id (Except ε α × σ)) with
    | (a, s₁) => (ExceptT.bindCont f a).run s₁) = _
  cases (x.run.run s : Id (Except ε α × σ)) with
  | mk result s₁ => cases result <;> rfl

theorem returns_bind {x : Throwing ε σ α} {f : α → Throwing ε σ β} {s s' : σ} {b : β} :
    Returns (x >>= f) s b s' ↔ ∃ a s₁, Returns x s a s₁ ∧ Returns (f a) s₁ b s' := by
  unfold Returns
  rw [run_bind]
  cases (x.run.run s : Id (Except ε α × σ)) with
  | mk result s₁ =>
    cases result with
    | error e =>
      constructor
      · intro h
        cases h
      · rintro ⟨a, s₂, h, -⟩
        cases h
    | ok a =>
      constructor
      · intro h
        exact ⟨a, s₁, rfl, h⟩
      · rintro ⟨a', s₂, h, hrest⟩
        cases h
        exact hrest

/-- A computation whose outcome is known. -/
theorem exists_returns {x : Throwing ε σ Unit} {s : σ}
    (h : (x.run.run s : Id (Except ε Unit × σ)).1.isOk = true) : ∃ s', Returns x s () s' := by
  unfold Returns
  cases hrun : (x.run.run s : Id (Except ε Unit × σ)) with
  | mk result s' =>
    cases result with
    | error e =>
      rw [hrun] at h
      cases h
    | ok u => exact ⟨s', rfl⟩

/-- **The loop rule**: what each round carries from `done` to `done ++ [a]` holds at the end of all
the items. -/
theorem Returns.forM {P : List α → σ → Prop} {f : α → Throwing ε σ Unit}
    (hstep : ∀ done a s s', P done s → Returns (f a) s () s' → P (done ++ [a]) s')
    {items : List α} {s s' : σ} (h : Returns (items.forM f) s () s') {done : List α}
    (hs : P done s) : P (done ++ items) s' := by
  induction items generalizing s done with
  | nil =>
    obtain ⟨-, rfl⟩ := returns_pure.mp h
    rwa [List.append_nil]
  | cons a items ih =>
    obtain ⟨⟨⟩, s₁, hfirst, hrest⟩ := returns_bind.mp h
    rw [List.append_cons]
    exact ih hrest (hstep done a s s₁ hs hfirst)

/-! ### Throwing -/

/-- The computation throws from `s` and leaves the state `s'`. -/
def Throws (x : Throwing ε σ α) (s s' : σ) : Prop :=
  ∃ e, (x.run.run s : Id (Except ε α × σ)) = (.error e, s')

@[simp] theorem throws_pure {a : α} {s s' : σ} :
    Throws (pure a : Throwing ε σ α) s s' ↔ False := by
  refine iff_of_false ?_ id
  rintro ⟨e, h⟩
  cases (h : ((Except.ok a, s) : Except ε α × σ) = (.error e, s'))

@[simp] theorem throws_throw {e : ε} {s s' : σ} :
    Throws (throw e : Throwing ε σ α) s s' ↔ s = s' := by
  constructor
  · rintro ⟨e', h⟩
    cases (h : ((Except.error e, s) : Except ε α × σ) = (.error e', s'))
    rfl
  · rintro rfl
    exact ⟨e, rfl⟩

@[simp] theorem throws_get {s s' : σ} : Throws (get : Throwing ε σ σ) s s' ↔ False := by
  refine iff_of_false ?_ id
  rintro ⟨e, h⟩
  cases (h : ((Except.ok s, s) : Except ε σ × σ) = (.error e, s'))

@[simp] theorem throws_modify {f : σ → σ} {s s' : σ} :
    Throws (modify f : Throwing ε σ Unit) s s' ↔ False := by
  refine iff_of_false ?_ id
  rintro ⟨e, h⟩
  cases (h : ((Except.ok (), f s) : Except ε Unit × σ) = (.error e, s'))

theorem throws_bind {x : Throwing ε σ α} {f : α → Throwing ε σ β} {s s' : σ} :
    Throws (x >>= f) s s' ↔
      Throws x s s' ∨ ∃ a s₁, Returns x s a s₁ ∧ Throws (f a) s₁ s' := by
  unfold Throws Returns
  rw [run_bind]
  cases (x.run.run s : Id (Except ε α × σ)) with
  | mk result s₁ =>
    cases result with
    | error e =>
      constructor
      · rintro ⟨e', h⟩
        cases h
        exact .inl ⟨e, rfl⟩
      · rintro (⟨e', h⟩ | ⟨a, s₂, h, -⟩)
        · cases h
          exact ⟨e, rfl⟩
        · cases h
    | ok a =>
      constructor
      · intro h
        exact .inr ⟨a, s₁, rfl, h⟩
      · rintro (⟨e, h⟩ | ⟨a', s₂, h, hrest⟩)
        · cases h
        · cases h
          exact hrest

/-- The computation returns or throws and leaves the state `s'`. -/
def Leaves (x : Throwing ε σ α) (s s' : σ) : Prop := (∃ a, Returns x s a s') ∨ Throws x s s'

/-- The state that a computation leaves. -/
def final (x : Throwing ε σ α) (s : σ) : σ := (x.run.run s : Id (Except ε α × σ)).2

theorem leaves_final (x : Throwing ε σ α) (s : σ) : Leaves x s (final x s) := by
  unfold Leaves Returns Throws final
  cases (x.run.run s : Id (Except ε α × σ)) with
  | mk result s' =>
    cases result with
    | error e => exact .inr ⟨e, rfl⟩
    | ok a => exact .inl ⟨a, rfl⟩

theorem leaves_bind {x : Throwing ε σ α} {f : α → Throwing ε σ β} {s s' : σ} :
    Leaves (x >>= f) s s' ↔ Throws x s s' ∨ ∃ a s₁, Returns x s a s₁ ∧ Leaves (f a) s₁ s' := by
  unfold Leaves
  simp only [returns_bind, throws_bind]
  constructor
  · rintro (⟨b, a, s₁, hx, hf⟩ | hx | ⟨a, s₁, hx, hf⟩)
    · exact .inr ⟨a, s₁, hx, .inl ⟨b, hf⟩⟩
    · exact .inl hx
    · exact .inr ⟨a, s₁, hx, .inr hf⟩
  · rintro (hx | ⟨a, s₁, hx, ⟨b, hf⟩ | hf⟩)
    · exact .inr (.inl hx)
    · exact .inl ⟨b, a, s₁, hx, hf⟩
    · exact .inr (.inr ⟨a, s₁, hx, hf⟩)

/-- Whatever the outcome, the computation leaves a state with `P` if it starts in one. -/
def Keeps (P : σ → Prop) (x : Throwing ε σ α) : Prop := ∀ s s', P s → Leaves x s s' → P s'

section Keeps

variable {P : σ → Prop}

theorem keeps_pure (a : α) : Keeps P (pure a : Throwing ε σ α) := by
  rintro s s' hs (⟨b, h⟩ | h)
  · obtain ⟨-, rfl⟩ := returns_pure.mp h
    exact hs
  · exact (throws_pure.mp h).elim

theorem Keeps.bind {x : Throwing ε σ α} {f : α → Throwing ε σ β} (hx : Keeps P x)
    (hf : ∀ a, Keeps P (f a)) : Keeps P (x >>= f) := by
  intro s s' hs h
  rcases leaves_bind.mp h with h | ⟨a, s₁, hfirst, h⟩
  · exact hx s s' hs (.inr h)
  · exact hf a s₁ s' (hx s s₁ hs (.inl ⟨a, hfirst⟩)) h

theorem Keeps.forM {f : α → Throwing ε σ Unit} (items : List α)
    (hf : ∀ a ∈ items, Keeps P (f a)) : Keeps P (items.forM f) := by
  induction items with
  | nil => exact keeps_pure ()
  | cons a items ih =>
    refine Keeps.bind (hf a List.mem_cons_self) fun _ => ih fun b hb => ?_
    exact hf b (List.mem_cons_of_mem _ hb)

end Keeps

/-! ### Without a state -/

theorem exists_eq_ok {x : Except ε α} (h : x.isOk = true) : ∃ a, x = .ok a := by
  cases x with
  | error e => cases h
  | ok a => exact ⟨a, rfl⟩

theorem bind_eq_ok {x : Except ε α} {f : α → Except ε β} {b : β} :
    x >>= f = .ok b ↔ ∃ a, x = .ok a ∧ f a = .ok b := by
  cases x with
  | error e => exact ⟨nofun, nofun⟩
  | ok a => exact ⟨fun h => ⟨a, rfl, h⟩, fun ⟨_, h, h'⟩ => by cases h; exact h'⟩

theorem bind_eq_error {x : Except ε α} {f : α → Except ε β} {e : ε} :
    x >>= f = .error e ↔ x = .error e ∨ ∃ a, x = .ok a ∧ f a = .error e := by
  cases x with
  | error e' =>
    constructor
    · intro h
      exact .inl (congrArg Except.error (Except.error.inj h))
    · rintro (h | ⟨a, h, -⟩)
      · exact congrArg Except.error (Except.error.inj h)
      · cases h
  | ok a =>
    constructor
    · intro h
      exact .inr ⟨a, rfl, h⟩
    · rintro (h | ⟨a', h, hrest⟩)
      · cases h
      · cases h
        exact hrest

/-- A pure loop that builds a list: each item gives one result, in order. -/
theorem forall₂_of_mapM {P : α → β → Prop} {f : α → Except ε β} {items : List α}
    {results : List β} (h : items.mapM f = .ok results)
    (hP : ∀ item ∈ items, ∀ result, f item = .ok result → P item result) :
    List.Forall₂ P items results := by
  induction items generalizing results with
  | nil =>
    obtain rfl : [] = results := by simpa [pure, Except.pure] using h
    exact .nil
  | cons item items ih =>
    rw [List.mapM_cons] at h
    cases hitem : f item with
    | error e => simp [hitem, bind, Except.bind] at h
    | ok result =>
      cases hrest : items.mapM f with
      | error e => simp [hitem, hrest, bind, Except.bind] at h
      | ok rest =>
        obtain rfl : result :: rest = results := by
          simpa [hitem, hrest, bind, Except.bind, pure, Except.pure] using h
        refine .cons (hP item List.mem_cons_self result hitem) (ih hrest ?_)
        intro item' hin
        exact hP item' (List.mem_cons_of_mem _ hin)

/-- A pure loop that throws does so at one of its items. -/
theorem error_of_mapM {f : α → Except ε β} {items : List α} {e : ε}
    (h : items.mapM f = .error e) : ∃ item ∈ items, f item = .error e := by
  induction items with
  | nil => cases h
  | cons item items ih =>
    rw [List.mapM_cons] at h
    cases hitem : f item with
    | error e' =>
      obtain rfl : e' = e := by simpa [hitem, bind, Except.bind] using h
      exact ⟨item, List.mem_cons_self, hitem⟩
    | ok result =>
      have hrest : items.mapM f = .error e := by
        cases hrest : items.mapM f with
        | error e' => simpa [hitem, hrest, bind, Except.bind] using h
        | ok rest => simp [hitem, hrest, bind, Except.bind, pure, Except.pure] at h
      obtain ⟨item', hin, hitem'⟩ := ih hrest
      exact ⟨item', List.mem_cons_of_mem _ hin, hitem'⟩

/-- A loop over the items of which some are skipped. -/
theorem forM_filter (p : α → Bool) (f : α → Throwing ε σ Unit) (items : List α) :
    ((items.filter p).forM f) = items.forM fun item => if p item then f item else pure () := by
  induction items with
  | nil => rfl
  | cons item items ih =>
    cases hitem : p item with
    | true =>
      rw [List.filter_cons_of_pos hitem]
      show (f item >>= fun _ => (items.filter p).forM f) =
        ((if p item then f item else pure ()) >>= fun _ => items.forM _)
      rw [ih, hitem]
      rfl
    | false =>
      have hskip : ¬p item = true := by simp [hitem]
      rw [List.filter_cons_of_neg hskip, ih]
      show _ = ((if p item then f item else pure ()) >>= fun _ => items.forM _)
      rw [if_neg hskip, pure_bind]

/-! ### Both outcomes -/

/-- The computation returns a value with `P` or throws an error with `E`. -/
def Settles (E : ε → Prop) (P : α → Prop) : Except ε α → Prop
  | .ok a => P a
  | .error e => E e

section Settles

variable {E : ε → Prop} {P : α → Prop} {Q : β → Prop}

@[simp] theorem settles_ok {a : α} : Settles E P (.ok a) ↔ P a := Iff.rfl

@[simp] theorem settles_error {e : ε} : Settles E P (.error e) ↔ E e := Iff.rfl

theorem Settles.bind {x : Except ε α} {f : α → Except ε β} (hx : Settles E P x)
    (hf : ∀ a, P a → Settles E Q (f a)) : Settles E Q (x >>= f) := by
  cases x with
  | error e => exact hx
  | ok a => exact hf a hx

theorem Settles.mono {P' : α → Prop} {x : Except ε α} (hx : Settles E P x)
    (hP : ∀ a, P a → P' a) : Settles E P' x := by
  cases x with
  | error e => exact hx
  | ok a => exact hP a hx

end Settles

section collect

variable {κ : Type}

/-- The loop that makes one result of each item, given the item's index and the keys of the results
before it. -/
def collect (key : α → κ) (f : ℕ → List κ → β → Except ε α) :
    ℕ → List κ → List β → Except ε (List α)
  | _, _, [] => .ok []
  | index, seen, item :: rest => do
    let result ← f index seen item
    let results ← collect key f (index + 1) (key result :: seen) rest
    .ok (result :: results)

/-- **The rule of the loop**: if each round gives its item a result whose key is new, then all items
have results, and the keys are all different.  A round may use that each key seen is the key of a
result of an earlier item. -/
theorem Settles.collect {E : ε → Prop} {P : β → α → Prop} {key : α → κ}
    {f : ℕ → List κ → β → Except ε α} {items : List β}
    (hround : ∀ index seen item, items[index]? = some item →
      (∀ k ∈ seen, ∃ earlier < index, ∃ item', items[earlier]? = some item' ∧
        ∃ result', P item' result' ∧ key result' = k) →
      Settles E (fun result => P item result ∧ key result ∉ seen) (f index seen item)) :
    Settles E (fun results => List.Forall₂ P items results ∧ (results.map key).Nodup)
      (Throwing.collect key f 0 [] items) := by
  -- the rounds done so far are `done`; the keys seen are theirs
  suffices h : ∀ (rest done : List β) (seen : List κ), items = done ++ rest →
      (∀ k ∈ seen, ∃ earlier < done.length, ∃ item', items[earlier]? = some item' ∧
        ∃ result', P item' result' ∧ key result' = k) →
      Settles E (fun results => List.Forall₂ P rest results ∧ (results.map key).Nodup ∧
          ∀ result ∈ results, key result ∉ seen)
        (Throwing.collect key f done.length seen rest) by
    refine (h items [] [] rfl (by simp)).mono fun results hresults => ?_
    exact ⟨hresults.1, hresults.2.1⟩
  intro rest
  induction rest with
  | nil =>
    intro done seen _ _
    simp [Throwing.collect]
  | cons item rest ih =>
    intro done seen hitems hseen
    have hitem : items[done.length]? = some item := by simp [hitems]
    refine (hround done.length seen item hitem hseen).bind fun result hresult => ?_
    have hmore := ih (done ++ [item]) (key result :: seen) (by simp [hitems]) ?_
    · rw [List.length_append, List.length_singleton] at hmore
      refine hmore.bind fun results hresults => ?_
      refine ⟨.cons hresult.1 hresults.1, ?_, ?_⟩
      · rw [List.map_cons, List.nodup_cons]
        refine ⟨fun hmem => ?_, hresults.2.1⟩
        obtain ⟨other, hother, hkey⟩ := List.mem_map.mp hmem
        exact hresults.2.2 other hother (hkey ▸ List.mem_cons_self)
      · intro other hother hmem
        rcases List.mem_cons.mp hother with rfl | hother
        · exact hresult.2 hmem
        · exact hresults.2.2 other hother (List.mem_cons_of_mem _ hmem)
    · intro k hk
      rw [List.length_append, List.length_singleton]
      rcases List.mem_cons.mp hk with rfl | hk
      · exact ⟨done.length, Nat.lt_succ_self _, item, hitem, result, hresult.1, rfl⟩
      · obtain ⟨earlier, hlt, h⟩ := hseen k hk
        exact ⟨earlier, Nat.lt_succ_of_lt hlt, h⟩

end collect

end Throwing
