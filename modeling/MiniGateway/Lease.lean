/-
  Leases: handles of a resource that are acquired, used and given back.

  What a program does to the resource is recorded in a log.  `live` counts, as the resource does,
  the handles that have been acquired and not given back; nothing keeps a program from acquiring a
  second one, or from using one that is gone.  `Disciplined` says that it does neither: it acquires
  only while no handle is live, and it uses and releases only live ones.

  `Disciplined.parsed` is what this amounts to.  The log is a sequence of episodes, each of them a
  failed attempt or a whole lease from its acquisition to its only release, and at most one lease
  at the end is still open.

  A log about many resources is `Tracks`ed key by key: beside it stands the list of the keys that
  are held, and each key has a log of its own in it.  `Holding` asks that no key is acquired twice.
-/
import Mathlib.Data.List.Induction

namespace Lease

/-- What can be done to the resource. -/
inductive Act (α : Type*)
  /-- An acquisition that fails. -/
  | attempt
  | acquire (a : α)
  | use (a : α)
  | release (a : α)

variable {α : Type*} [DecidableEq α] {log : List (Act α)} {act : Act α}

/-- The live handles after one more action. -/
def liveStep (handles : List α) : Act α → List α
  | .acquire a => a :: handles
  | .release a => handles.erase a
  | .attempt | .use _ => handles

/-- The handles that have been acquired and not released. -/
def live (log : List (Act α)) : List α := log.foldl liveStep []

@[simp] theorem live_nil : live ([] : List (Act α)) = [] := rfl

@[simp] theorem live_append_singleton (log : List (Act α)) (act : Act α) :
    live (log ++ [act]) = liveStep (live log) act := by
  simp [live]

/-! ### The discipline -/

/-- Whether the action is in order while `handles` are live. -/
def Allowed (handles : List α) : Act α → Prop
  | .attempt | .acquire _ => handles = []
  | .use a | .release a => a ∈ handles

/-- Every action was in order when it was taken. -/
def Disciplined (log : List (Act α)) : Prop :=
  ∀ before act after, log = before ++ act :: after → Allowed (live before) act

theorem Disciplined.nil : Disciplined ([] : List (Act α)) := by
  intro before act after h
  simp at h

/-- The discipline is kept action by action. -/
theorem disciplined_append_singleton :
    Disciplined (log ++ [act]) ↔ Disciplined log ∧ Allowed (live log) act := by
  constructor
  · intro h
    refine ⟨fun before act' after heq => h before act' (after ++ [act]) (by simp [heq]), ?_⟩
    exact h log act [] rfl
  · rintro ⟨h, hact⟩ before act' after heq
    rcases List.eq_nil_or_concat after with rfl | ⟨after', last, rfl⟩
    · obtain ⟨rfl, heq⟩ := List.append_inj' heq rfl
      obtain rfl : act = act' := by simpa using heq
      exact hact
    · rw [List.concat_eq_append, ← List.cons_append, ← List.append_assoc] at heq
      obtain ⟨rfl, -⟩ := List.append_inj' heq rfl
      exact h before act' after' rfl

/-! ### Episodes -/

/-- What lies between two moments without a live handle. -/
inductive Episode (α : Type*)
  | failed
  | lease (a : α) (uses : ℕ)

def Episode.acts : Episode α → List (Act α)
  | .failed => [.attempt]
  | .lease a uses => .acquire a :: List.replicate uses (.use a) ++ [.release a]

/-- The actions of a lease that is not over. -/
def openLease : Option (α × ℕ) → List (Act α)
  | none => []
  | some (a, uses) => .acquire a :: List.replicate uses (.use a)

/-- The log is these episodes, followed by the lease in progress if there is one. -/
structure Parsed (log : List (Act α)) (episodes : List (Episode α)) (current : Option (α × ℕ)) :
    Prop where
  log_eq : log = episodes.flatMap Episode.acts ++ openLease current
  live_eq : live log = (current.map Prod.fst).toList

/-- **A disciplined log is a sequence of leases.** -/
theorem Disciplined.parsed (h : Disciplined log) :
    ∃ episodes current, Parsed log episodes current := by
  induction log using List.reverseRecOn with
  | nil => exact ⟨[], none, rfl, rfl⟩
  | append_singleton log act ih =>
    obtain ⟨hlog, hact⟩ := disciplined_append_singleton.mp h
    obtain ⟨episodes, current, heq, hlive⟩ := ih hlog
    rw [hlive] at hact
    cases act with
    | attempt =>
      obtain rfl : current = none := by simpa [Allowed] using hact
      exact ⟨episodes ++ [.failed], none, by simp [heq, openLease, Episode.acts],
        by simp [hlive, liveStep]⟩
    | acquire a =>
      obtain rfl : current = none := by simpa [Allowed] using hact
      exact ⟨episodes, some (a, 0), by simp [heq, openLease], by simp [hlive, liveStep]⟩
    | use a =>
      obtain ⟨uses, rfl⟩ : ∃ uses, current = some (a, uses) := by simpa [Allowed] using hact
      refine ⟨episodes, some (a, uses + 1), ?_, by simp [hlive, liveStep]⟩
      rw [heq]
      simp [openLease, List.replicate_succ']
    | release a =>
      obtain ⟨uses, rfl⟩ : ∃ uses, current = some (a, uses) := by simpa [Allowed] using hact
      exact ⟨episodes ++ [.lease a uses], none, by simp [heq, openLease, Episode.acts],
        by simp [hlive, liveStep]⟩

/-- Where no handle is live every lease is over. -/
theorem Disciplined.complete (h : Disciplined log) (hlive : live log = []) :
    ∃ episodes : List (Episode α), log = episodes.flatMap Episode.acts := by
  obtain ⟨episodes, current, heq, hcurrent⟩ := h.parsed
  obtain rfl : current = none := by simpa [hlive] using hcurrent.symm
  exact ⟨episodes, by simpa [openLease] using heq⟩

/-! ### Logs kept beside a state -/

/-- The log is disciplined, and these are the handles that it leaves live. -/
structure Tracks (log : List (Act α)) (handles : List α) : Prop where
  disciplined : Disciplined log
  live_eq : live log = handles

theorem Tracks.nil : Tracks ([] : List (Act α)) [] := ⟨.nil, rfl⟩

/-- One more action, taken by a state that allows it. -/
theorem Tracks.append {handles handles' : List α} (h : Tracks log handles)
    (hact : Allowed handles act) (hhandles : liveStep handles act = handles') :
    Tracks (log ++ [act]) handles' := by
  obtain ⟨hlog, rfl⟩ := h
  exact ⟨disciplined_append_singleton.mpr ⟨hlog, hact⟩, by rw [live_append_singleton, hhandles]⟩

/-- What is acquired. -/
def Act.acquired? : Act α → Option α
  | .acquire a => some a
  | _ => none

omit [DecidableEq α] in
private theorem acquired_acts (a : α) (uses : ℕ) :
    (Episode.lease a uses).acts.filterMap Act.acquired? = [a] := by
  have huses : (List.replicate uses (Act.use a)).filterMap Act.acquired? = [] := by
    rw [List.filterMap_eq_nil_iff]
    intro act hin
    rw [List.eq_of_mem_replicate hin]
    rfl
  simp [Episode.acts, Act.acquired?, huses]

/-- **A handle that is never acquired twice has one lease**, if it has any, once it is not live. -/
theorem Tracks.single (h : Tracks log []) (hattempt : Act.attempt ∉ log)
    (honce : (log.filterMap Act.acquired?).length ≤ 1) :
    log = [] ∨ ∃ a uses, log = (Episode.lease a uses).acts := by
  obtain ⟨episodes, rfl⟩ := h.disciplined.complete h.live_eq
  cases episodes with
  | nil => exact .inl rfl
  | cons first rest =>
    have hlease : ∀ episode ∈ first :: rest, ∃ a uses, episode = .lease a uses := by
      intro episode hin
      cases episode with
      | lease a uses => exact ⟨a, uses, rfl⟩
      | failed => exact absurd (List.mem_flatMap.mpr ⟨_, hin, List.mem_singleton_self _⟩) hattempt
    obtain ⟨a, uses, rfl⟩ := hlease first List.mem_cons_self
    cases rest with
    | nil => exact .inr ⟨a, uses, by simp⟩
    | cons second rest =>
      obtain ⟨b, uses', rfl⟩ := hlease second (List.mem_cons_of_mem _ List.mem_cons_self)
      rw [List.flatMap_cons, List.flatMap_cons, List.filterMap_append, List.filterMap_append,
        acquired_acts, acquired_acts, List.length_append, List.length_append,
        List.length_singleton, List.length_singleton] at honce
      omega

/-! ### Many resources

A log may be about a family of resources with one handle each, such as files by their names.  The
keys of the resources that are held are kept beside the log. -/

section Family

variable {κ : Type*} [DecidableEq κ] {family : List (κ × Act Unit)} {keys keys' names : List κ} {k : κ}

/-- The actions on the resource `k`. -/
def actsOn (k : κ) (family : List (κ × Act Unit)) : List (Act Unit) :=
  family.filterMap fun entry => if entry.1 = k then some entry.2 else none

theorem actsOn_append (k : κ) (family family' : List (κ × Act Unit)) :
    actsOn k (family ++ family') = actsOn k family ++ actsOn k family' :=
  List.filterMap_append ..

/-- The same action on some of the resources. -/
theorem actsOn_map (k : κ) (act : Act Unit) (hnodup : names.Nodup) :
    actsOn k (names.map fun name => (name, act)) = if k ∈ names then [act] else [] := by
  induction names with
  | nil => rfl
  | cons name names ih =>
    obtain ⟨hname, hnodup⟩ := List.nodup_cons.mp hnodup
    have hcons : actsOn k ((name :: names).map fun name => (name, act)) =
        (if name = k then [act] else []) ++ actsOn k (names.map fun name => (name, act)) := by
      by_cases hk : name = k <;> simp [actsOn, hk]
    rw [hcons, ih hnodup]
    by_cases hk : name = k
    · subst hk
      simp [hname]
    · simp [hk, Ne.symm hk]

/-- The log is disciplined for each resource, and those of `keys` are the ones that are held. -/
def Holding (family : List (κ × Act Unit)) (keys : List κ) : Prop :=
  ∀ k, Tracks (actsOn k family) (if k ∈ keys then [()] else [])

theorem Holding.nil : Holding ([] : List (κ × Act Unit)) [] := fun _ => Tracks.nil

theorem Holding.congr (h : Holding family keys) (hkeys : ∀ k, k ∈ keys ↔ k ∈ keys') :
    Holding family keys' := by
  intro k
  simpa only [hkeys] using h k

theorem Holding.use (h : Holding family keys) (hk : k ∈ keys) :
    Holding (family ++ [(k, .use ())]) keys := by
  intro k'
  rw [actsOn_append]
  have hk' := h k'
  by_cases heq : k = k'
  · subst heq
    rw [if_pos hk] at hk' ⊢
    have hact : actsOn k [(k, Act.use ())] = [.use ()] := by simp [actsOn]
    rw [hact]
    exact hk'.append (List.mem_singleton_self ()) rfl
  · have hact : actsOn k' [(k, Act.use ())] = [] := by simp [actsOn, heq]
    rwa [hact, List.append_nil]

theorem Holding.acquire (h : Holding family keys) (hnodup : names.Nodup)
    (hnew : ∀ name ∈ names, name ∉ keys) :
    Holding (family ++ names.map fun name => (name, .acquire ())) (keys ++ names) := by
  intro k
  rw [actsOn_append, actsOn_map k _ hnodup]
  have hk := h k
  by_cases hin : k ∈ names
  · rw [if_neg (hnew k hin)] at hk
    rw [if_pos hin, if_pos (List.mem_append_right _ hin)]
    exact hk.append rfl rfl
  · rw [if_neg hin, List.append_nil]
    simpa only [List.mem_append, hin, or_false] using hk

theorem Holding.release (h : Holding family keys) (hnodup : names.Nodup)
    (hheld : ∀ name ∈ names, name ∈ keys) (hkeys : ∀ k, k ∈ keys' ↔ k ∈ keys ∧ k ∉ names) :
    Holding (family ++ names.map fun name => (name, .release ())) keys' := by
  intro k
  rw [actsOn_append, actsOn_map k _ hnodup]
  have hk := h k
  by_cases hin : k ∈ names
  · have hgone : k ∉ keys' := fun hkept => ((hkeys k).mp hkept).2 hin
    rw [if_pos (hheld k hin)] at hk
    rw [if_pos hin, if_neg hgone]
    exact hk.append (List.mem_singleton_self ()) rfl
  · rw [if_neg hin, List.append_nil]
    simpa only [hkeys k, hin, not_false_eq_true, and_true] using hk

/-- The resources in the order in which they are acquired. -/
def acquisitions (family : List (κ × Act Unit)) : List κ :=
  family.filterMap fun entry => entry.2.acquired?.map fun _ => entry.1

omit [DecidableEq κ] in
theorem acquisitions_append (family family' : List (κ × Act Unit)) :
    acquisitions (family ++ family') = acquisitions family ++ acquisitions family' :=
  List.filterMap_append ..

theorem length_acquired (k : κ) (family : List (κ × Act Unit)) :
    ((actsOn k family).filterMap Act.acquired?).length = (acquisitions family).count k := by
  induction family with
  | nil => rfl
  | cons entry family ih =>
    obtain ⟨k', act⟩ := entry
    have hacts : actsOn k ((k', act) :: family) =
        (if k' = k then [act] else []) ++ actsOn k family := by
      by_cases hk : k' = k <;> simp [actsOn, hk]
    have hacquired : acquisitions ((k', act) :: family) =
        (act.acquired?.map fun _ => k').toList ++ acquisitions family := by
      cases act <;> rfl
    rw [hacts, hacquired, List.filterMap_append, List.length_append, List.count_append, ih]
    congr 1
    by_cases hk : k' = k
    · cases act <;> simp [hk, Act.acquired?]
    · cases act <;> simp [hk, Act.acquired?]

/-- **When nothing is held, every resource has had one lease or none**, if none is acquired twice. -/
theorem Holding.complete (h : Holding family []) (hattempt : ∀ k, (k, Act.attempt) ∉ family)
    (honce : (acquisitions family).Nodup) (k : κ) :
    actsOn k family = [] ∨ ∃ uses, actsOn k family = (Episode.lease () uses).acts := by
  have hk : Tracks (actsOn k family) [] := by simpa using h k
  have hno : Act.attempt ∉ actsOn k family := by
    intro hin
    obtain ⟨⟨k', act⟩, hentry, hact⟩ := List.mem_filterMap.mp hin
    split_ifs at hact with heq
    obtain rfl : act = .attempt := Option.some.inj hact
    exact hattempt k' hentry
  have hcount : ((actsOn k family).filterMap Act.acquired?).length ≤ 1 := by
    rw [length_acquired]
    exact List.nodup_iff_count.mp honce k
  rcases hk.single hno hcount with hnone | ⟨⟨⟩, uses, hlease⟩
  · exact .inl hnone
  · exact .inr ⟨uses, hlease⟩

end Family

end Lease
