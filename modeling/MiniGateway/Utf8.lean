/-
  Well-formed UTF-8, as a table and as a machine.

  The table (`rows`) lists for each form of a character the range of each of its bytes; a text is
  well formed when it is a sequence of characters of these forms (`WellFormed`).  The machine reads
  one byte after another and keeps the ranges that the next bytes are owed to; it is between
  characters when none is owed.  It accepts exactly the well-formed texts (`wellFormed_iff`).

  What is read byte by byte is cut anywhere (`run_append`), and a byte below 0x80 only ever stands
  between characters.  So a text around such bytes is well formed exactly when its pieces are
  (`wellFormed_append_cons`), and a rewriting that keeps every other byte and turns these into
  texts of their own kind changes nothing (`run_flatMap`).
-/
import Mathlib.Data.List.Forall2
import Mathlib.Data.List.Basic

namespace Utf8

/-- The least and the greatest value of a byte. -/
abbrev Range := UInt8 × UInt8

def Range.contains (range : Range) (b : UInt8) : Bool := range.1 ≤ b && b ≤ range.2

/-- The forms of a character, each a range for the first byte and one for each byte behind it. -/
def rows : List (Range × List Range) :=
  [((0x00, 0x7F), []),
   ((0xC2, 0xDF), [(0x80, 0xBF)]),
   ((0xE0, 0xE0), [(0xA0, 0xBF), (0x80, 0xBF)]),
   ((0xE1, 0xEC), [(0x80, 0xBF), (0x80, 0xBF)]),
   ((0xED, 0xED), [(0x80, 0x9F), (0x80, 0xBF)]),
   ((0xEE, 0xEF), [(0x80, 0xBF), (0x80, 0xBF)]),
   ((0xF0, 0xF0), [(0x90, 0xBF), (0x80, 0xBF), (0x80, 0xBF)]),
   ((0xF1, 0xF3), [(0x80, 0xBF), (0x80, 0xBF), (0x80, 0xBF)]),
   ((0xF4, 0xF4), [(0x80, 0x8F), (0x80, 0xBF), (0x80, 0xBF)])]

/-- The bytes are in these ranges, one by one. -/
def InRanges (bytes : List UInt8) (ranges : List Range) : Prop :=
  List.Forall₂ (fun b range => range.contains b = true) bytes ranges

/-- The bytes of one character. -/
def Character (bytes : List UInt8) : Prop :=
  ∃ row ∈ rows, InRanges bytes (row.1 :: row.2)

/-- A sequence of characters. -/
inductive WellFormed : List UInt8 → Prop
  | nil : WellFormed []
  | cons {bytes rest : List UInt8} : Character bytes → WellFormed rest → WellFormed (bytes ++ rest)

/-! ### The machine -/

/-- One byte: the ranges still owed behind it, or `none` where it cannot stand. -/
def step : List Range → UInt8 → Option (List Range)
  | [], b => (rows.find? fun row => row.1.contains b).map Prod.snd
  | range :: owed, b => if range.contains b then some owed else none

/-- All bytes of a text. -/
def run (owed : List Range) (text : List UInt8) : Option (List Range) := text.foldlM step owed

@[simp] theorem run_nil (owed : List Range) : run owed [] = some owed := rfl

theorem run_cons (owed : List Range) (b : UInt8) (text : List UInt8) :
    run owed (b :: text) = (step owed b).bind fun owed' => run owed' text := by
  rw [run, List.foldlM_cons]
  rfl

theorem run_append (owed : List Range) (text text' : List UInt8) :
    run owed (text ++ text') = (run owed text).bind fun owed' => run owed' text' := by
  rw [run, List.foldlM_append]
  rfl

/-- The forms differ in their first bytes. -/
theorem find?_rows {row : Range × List Range} (hrow : row ∈ rows) {b : UInt8}
    (hb : row.1.contains b = true) : rows.find? (fun row => row.1.contains b) = some row := by
  have hfirst : ∀ (forms : List (Range × List Range)),
      forms.Pairwise (fun row row' => row.1.2 < row'.1.1) → row ∈ forms →
      forms.find? (fun row => row.1.contains b) = some row := by
    intro forms hforms hmem
    induction forms with
    | nil => simp at hmem
    | cons first rest ih =>
      rw [List.pairwise_cons] at hforms
      rcases List.mem_cons.mp hmem with rfl | hmem
      · exact List.find?_cons_of_pos hb
      · -- the byte is beyond the range of an earlier form
        have hbeyond : first.1.contains b = false := by
          have hlt := hforms.1 row hmem
          simp only [Range.contains, Bool.and_eq_true, decide_eq_true_eq] at hb
          simp only [Range.contains, Bool.and_eq_false_iff, decide_eq_false_iff_not]
          right
          exact UInt8.not_le.mpr (UInt8.lt_of_lt_of_le hlt hb.1)
        rw [List.find?_cons_of_neg (by simp [hbeyond])]
        exact ih hforms.2 hmem
  exact hfirst rows (by decide) hrow

theorem wellFormed_cons_iff (b : UInt8) (text : List UInt8) :
    WellFormed (b :: text) ↔ ∃ owed tail rest, step [] b = some owed ∧ text = tail ++ rest ∧
      InRanges tail owed ∧ WellFormed rest := by
  constructor
  · intro h
    generalize htext : b :: text = whole at h
    cases h with
    | nil => cases htext
    | cons hcharacter hrest =>
      obtain ⟨row, hrow, hbytes⟩ := hcharacter
      cases hbytes with
      | cons hfirst htail =>
        rw [List.cons_append, List.cons.injEq] at htext
        obtain ⟨rfl, rfl⟩ := htext
        refine ⟨row.2, _, _, ?_, rfl, htail, hrest⟩
        rw [step, find?_rows hrow hfirst]
        rfl
  · rintro ⟨owed, tail, rest, hstep, rfl, htail, hrest⟩
    obtain ⟨row, hfind, rfl⟩ := Option.map_eq_some_iff.mp hstep
    have hfirst : row.1.contains b = true := by simpa using List.find?_some hfind
    have hcharacter : Character (b :: tail) :=
      ⟨row, List.mem_of_find?_eq_some hfind, .cons hfirst htail⟩
    exact .cons hcharacter hrest

/-- What the machine accepts when `owed` is still to come. -/
theorem run_eq_some_nil_iff (owed : List Range) (text : List UInt8) :
    run owed text = some [] ↔
      ∃ tail rest, text = tail ++ rest ∧ InRanges tail owed ∧ WellFormed rest := by
  induction text generalizing owed with
  | nil =>
    rw [run_nil, Option.some.injEq]
    constructor
    · rintro rfl
      exact ⟨[], [], rfl, .nil, .nil⟩
    · rintro ⟨tail, rest, heq, htail, -⟩
      obtain ⟨rfl, rfl⟩ := List.append_eq_nil_iff.mp heq.symm
      cases htail
      rfl
  | cons b text ih =>
    rw [run_cons, Option.bind_eq_some_iff]
    simp only [ih]
    cases owed with
    | nil =>
      have hbetween : (∃ tail rest, b :: text = tail ++ rest ∧ InRanges tail [] ∧
          WellFormed rest) ↔ WellFormed (b :: text) := by
        constructor
        · rintro ⟨tail, rest, heq, htail, hrest⟩
          cases htail
          rwa [heq]
        · intro h
          exact ⟨[], b :: text, rfl, .nil, h⟩
      rw [hbetween, wellFormed_cons_iff]
      constructor
      · rintro ⟨owed, hstep, tail, rest, h⟩
        exact ⟨owed, tail, rest, hstep, h⟩
      · rintro ⟨owed, tail, rest, hstep, h⟩
        exact ⟨owed, hstep, tail, rest, h⟩
    | cons range owed =>
      constructor
      · rintro ⟨owed', hstep, tail, rest, rfl, htail, hrest⟩
        simp only [step] at hstep
        split_ifs at hstep with hb
        obtain rfl := Option.some.inj hstep
        exact ⟨b :: tail, rest, rfl, .cons hb htail, hrest⟩
      · rintro ⟨tail, rest, heq, htail, hrest⟩
        cases htail with
        | cons hb htail =>
          rw [List.cons_append, List.cons.injEq] at heq
          obtain ⟨rfl, rfl⟩ := heq
          exact ⟨owed, by rw [step, if_pos hb], _, rest, rfl, htail, hrest⟩

/-- **The machine accepts the well-formed texts.** -/
theorem wellFormed_iff (text : List UInt8) : WellFormed text ↔ run [] text = some [] := by
  rw [run_eq_some_nil_iff]
  constructor
  · intro h
    exact ⟨[], text, rfl, .nil, h⟩
  · rintro ⟨tail, rest, rfl, htail, hrest⟩
    cases htail
    exact hrest

instance (text : List UInt8) : Decidable (WellFormed text) :=
  decidable_of_iff _ (wellFormed_iff text).symm

/-! ### Bytes below 0x80 -/

/-- A byte that is a character of its own. -/
def IsAscii (b : UInt8) : Prop := b < 0x80

instance (b : UInt8) : Decidable (IsAscii b) := inferInstanceAs (Decidable (b < 0x80))

/-- The ranges that the machine can owe leave out the bytes below 0x80. -/
def Owed (owed : List Range) : Prop := ∀ range ∈ owed, 0x80 ≤ range.1

theorem owed_nil : Owed [] := fun _ h => absurd h List.not_mem_nil

theorem Owed.step {owed owed' : List Range} {b : UInt8} (h : Owed owed)
    (hstep : step owed b = some owed') : Owed owed' := by
  cases owed with
  | nil =>
    have htable : (rows.all fun row => row.2.all fun range => decide (0x80 ≤ range.1)) = true := by
      decide
    obtain ⟨row, hfind, rfl⟩ := Option.map_eq_some_iff.mp hstep
    intro range hrange
    have hrow := List.all_eq_true.mp htable row (List.mem_of_find?_eq_some hfind)
    exact of_decide_eq_true (List.all_eq_true.mp hrow range hrange)
  | cons range owed =>
    simp only [Utf8.step] at hstep
    split_ifs at hstep
    obtain rfl := Option.some.inj hstep
    exact fun r hr => h r (List.mem_cons_of_mem _ hr)

/-- Such a byte stands between characters and nowhere else. -/
theorem step_ascii {owed : List Range} (h : Owed owed) {b : UInt8} (hb : IsAscii b) :
    step owed b = if owed = [] then some [] else none := by
  cases owed with
  | nil =>
    have hle : b ≤ 0x7F := by
      have hlt := UInt8.lt_iff_toNat_lt.mp hb
      rw [UInt8.le_iff_toNat_le]
      exact Nat.le_of_lt_succ hlt
    have hrow : (((0x00, 0x7F), []) : Range × List Range) ∈ rows := by decide
    have hcontains : Range.contains (0x00, 0x7F) b = true := by simp [Range.contains, hle]
    rw [step, find?_rows hrow hcontains]
    rfl
  | cons range owed =>
    have hlow := h range List.mem_cons_self
    have hbelow : range.contains b = false := by
      simp only [Range.contains, Bool.and_eq_false_iff, decide_eq_false_iff_not]
      left
      exact UInt8.not_le.mpr (UInt8.lt_of_lt_of_le hb hlow)
    rw [step, hbelow]
    simp

/-- A text of such bytes as well, if it is not empty. -/
theorem run_ascii {owed : List Range} (h : Owed owed) {text : List UInt8} (hne : text ≠ [])
    (htext : ∀ b ∈ text, IsAscii b) : run owed text = if owed = [] then some [] else none := by
  induction text generalizing owed with
  | nil => exact absurd rfl hne
  | cons b rest ih =>
    rw [run_cons, step_ascii h (htext b List.mem_cons_self)]
    split_ifs with howed
    · rw [Option.bind_some]
      by_cases hrest : rest = []
      · rw [hrest, run_nil]
      · rw [ih owed_nil hrest fun c hc => htext c (List.mem_cons_of_mem _ hc), if_pos rfl]
    · rfl

theorem wellFormed_of_ascii {text : List UInt8} (h : ∀ b ∈ text, IsAscii b) :
    WellFormed text := by
  rw [wellFormed_iff]
  by_cases hne : text = []
  · rw [hne, run_nil]
  · rw [run_ascii owed_nil hne h, if_pos rfl]

theorem Owed.run {owed owed' : List Range} {text : List UInt8} (h : Owed owed)
    (hrun : run owed text = some owed') : Owed owed' := by
  induction text generalizing owed with
  | nil =>
    obtain rfl := Option.some.inj hrun
    exact h
  | cons b rest ih =>
    rw [run_cons] at hrun
    obtain ⟨owed₁, hstep, hrest⟩ := Option.bind_eq_some_iff.mp hrun
    exact ih (h.step hstep) hrest

/-- **A text is cut at such a byte** into two texts. -/
theorem wellFormed_append_cons {b : UInt8} (hb : IsAscii b) (text rest : List UInt8) :
    WellFormed (text ++ b :: rest) ↔ WellFormed text ∧ WellFormed rest := by
  simp only [wellFormed_iff, run_append, Option.bind_eq_some_iff, run_cons]
  constructor
  · rintro ⟨owed, htext, owed', hstep, hrest⟩
    rw [step_ascii (owed_nil.run htext) hb] at hstep
    split_ifs at hstep with howed
    obtain rfl := Option.some.inj hstep
    exact ⟨howed ▸ htext, hrest⟩
  · rintro ⟨htext, hrest⟩
    exact ⟨[], htext, [], by rw [step_ascii owed_nil hb, if_pos rfl], hrest⟩

theorem wellFormed_cons {b : UInt8} (hb : IsAscii b) (rest : List UInt8) :
    WellFormed (b :: rest) ↔ WellFormed rest := by
  have h := wellFormed_append_cons hb [] rest
  rw [List.nil_append] at h
  rw [h]
  exact and_iff_right .nil

/-- **A rewriting** of the bytes below 0x80 to texts of such bytes makes no difference. -/
theorem run_flatMap {f : UInt8 → List UInt8}
    (hascii : ∀ b, IsAscii b → f b ≠ [] ∧ ∀ c ∈ f b, IsAscii c)
    (hother : ∀ b, ¬IsAscii b → f b = [b]) {owed : List Range} (h : Owed owed)
    (text : List UInt8) : run owed (text.flatMap f) = run owed text := by
  induction text generalizing owed with
  | nil => rfl
  | cons b rest ih =>
    have hfirst : run owed (f b) = step owed b := by
      by_cases hb : IsAscii b
      · rw [run_ascii h (hascii b hb).1 (hascii b hb).2, step_ascii h hb]
      · rw [hother b hb, run_cons]
        simp
    rw [List.flatMap_cons, run_append, run_cons, hfirst]
    cases hstep : step owed b with
    | none => rfl
    | some owed' => exact ih (h.step hstep)

theorem wellFormed_flatMap {f : UInt8 → List UInt8}
    (hascii : ∀ b, IsAscii b → f b ≠ [] ∧ ∀ c ∈ f b, IsAscii c)
    (hother : ∀ b, ¬IsAscii b → f b = [b]) (text : List UInt8) :
    WellFormed (text.flatMap f) ↔ WellFormed text := by
  rw [wellFormed_iff, wellFormed_iff, run_flatMap hascii hother owed_nil]

end Utf8
