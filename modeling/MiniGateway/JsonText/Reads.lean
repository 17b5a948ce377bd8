/-
  JSON texts that are read back.

  `Reads text value` says that `text`, wherever it stands in front of something that cannot continue
  a number, is read as `value` and nothing more is consumed.  Because it holds in front of any such
  rest, texts can be put together: `Reads.string`, `Reads.number`, `reads_null`, `reads_true` and
  `reads_false` are the leaves, `Reads.array`, `Reads.member` and `Reads.object` the brackets, and
  `Reads.parse` ends the text.
-/
import Mathlib.Data.List.Forall2
import MiniGateway.JsonText

namespace JsonText

/-! ### Texts that are read back -/

/-- Nothing that could continue a number. -/
def Stops (rest : List UInt8) : Prop := ∀ c ∈ rest.head?, isNumberChar c = false

theorem stops_nil : Stops [] := fun _ h => by cases h

theorem stops_cons {c : UInt8} (rest : List UInt8) (h : isNumberChar c = false) :
    Stops (c :: rest) := by
  intro d hd
  obtain rfl := Option.some.inj hd
  exact h

/-- The text begins with neither a space nor a closing bracket. -/
def Begins (text : List UInt8) : Prop :=
  ∃ c rest, text = c :: rest ∧ isSpace c = false ∧ c ≠ 93 ∧ c ≠ 125

/-- With enough fuel `read` finds `item` at the start of every text that begins with `text`, and
leaves the rest. -/
structure ReadsAs {α : Type*} (read : ℕ → List UInt8 → Option (α × List UInt8))
    (text : List UInt8) (item : α) : Prop where
  begins : Begins text
  reads : ∀ rest fuel, Stops rest → text.length ≤ fuel → read fuel (text ++ rest) = some (item, rest)

/-- `text` is read as `value`. -/
def Reads (text : List UInt8) (value : Value) : Prop := ReadsAs readValue text value

/-- `text` is read as a member of an object. -/
def ReadsMember (text : List UInt8) (member : List UInt8 × Value) : Prop :=
  ReadsAs (fun fuel => readMember (readValue fuel)) text member

@[simp] theorem skipSpace_cons {c : UInt8} (s : List UInt8) (h : isSpace c = false) :
    skipSpace (c :: s) = c :: s := by
  simp [skipSpace, h]

/-- A text that is read is read whole. -/
theorem Reads.parse {text : List UInt8} {value : Value} (h : Reads text value) :
    parse text = some value := by
  have hread := h.reads [] (text.length + 1) stops_nil (Nat.le_succ _)
  rw [List.append_nil] at hread
  simp [JsonText.parse, hread, skipSpace]

/-- The first character decides what is read. -/
theorem readValue_succ {c : UInt8} (fuel : ℕ) (s : List UInt8) (h : isSpace c = false) :
    readValue (fuel + 1) (c :: s) =
      if c = 34 then (readString s).map fun result => (.string result.1, result.2)
      else if c = 91 then
        (readItems (readValue fuel) 93 fuel s).map fun result => (.array result.1, result.2)
      else if c = 123 then
        (readItems (readMember (readValue fuel)) 125 fuel s).map fun result =>
          (.object result.1, result.2)
      else readAtom (c :: s) := by
  rw [readValue, skipSpace_cons s h]

theorem Reads.string {body bytes : List UInt8}
    (h : ∀ rest, readString (body ++ 34 :: rest) = some (bytes, rest)) :
    Reads (34 :: body ++ [34]) (.string bytes) := by
  refine ⟨⟨34, body ++ [34], rfl, by decide, by decide, by decide⟩, ?_⟩
  intro rest fuel _ hfuel
  cases fuel with
  | zero => cases hfuel
  | succ fuel =>
    have htext : 34 :: body ++ [34] ++ rest = 34 :: (body ++ 34 :: rest) := by simp
    rw [htext, readValue_succ fuel _ (by decide), if_pos rfl, h]
    rfl

private theorem reads_atom {c : UInt8} {text : List UInt8} {value : Value}
    (hspace : isSpace c = false) (hclose : c ≠ 93 ∧ c ≠ 125)
    (hopen : c ≠ 34 ∧ c ≠ 91 ∧ c ≠ 123)
    (h : ∀ rest, Stops rest → readAtom (c :: text ++ rest) = some (value, rest)) :
    Reads (c :: text) value := by
  refine ⟨⟨c, text, rfl, hspace, hclose.1, hclose.2⟩, ?_⟩
  intro rest fuel hrest hfuel
  cases fuel with
  | zero => cases hfuel
  | succ fuel =>
    rw [List.cons_append, readValue_succ fuel _ hspace, if_neg hopen.1, if_neg hopen.2.1,
      if_neg hopen.2.2]
    exact h rest hrest

theorem reads_true : Reads [116, 114, 117, 101] (.boolean true) :=
  reads_atom (by decide) (by decide) (by decide) fun rest _ => by simp [readAtom, afterWord]

theorem reads_false : Reads [102, 97, 108, 115, 101] (.boolean false) :=
  reads_atom (by decide) (by decide) (by decide) fun rest _ => by simp [readAtom, afterWord]

theorem reads_null : Reads [110, 117, 108, 108] .null :=
  reads_atom (by decide) (by decide) (by decide) fun rest _ => by simp [readAtom, afterWord]

private theorem afterWord_of_ne {c d : UInt8} (word s : List UInt8) (h : d ≠ c) :
    afterWord (c :: word) (d :: s) = none := by
  unfold afterWord
  rw [if_neg]
  intro heq
  simp only [List.length_cons, List.take_succ_cons, List.cons.injEq] at heq
  exact h heq.1

theorem Reads.number {text : List UInt8} (h : isNumber text = true) : Reads text (.number text) := by
  have hchars := isNumberChar_of_isNumber h
  cases text with
  | nil => exact absurd rfl (isNumber_ne_nil h)
  | cons c text =>
    have hc := hchars c (List.mem_cons_self ..)
    -- none of the characters with a meaning of their own belongs to a number
    have hne : ∀ d : UInt8, isNumberChar d = false → c ≠ d := by
      rintro d hd rfl
      rw [hc] at hd
      cases hd
    refine reads_atom ?_ ⟨hne _ (by decide), hne _ (by decide)⟩
      ⟨hne _ (by decide), hne _ (by decide), hne _ (by decide)⟩ ?_
    · have hspaces := And.intro (hne 32 (by decide))
        (And.intro (hne 9 (by decide)) (And.intro (hne 10 (by decide)) (hne 13 (by decide))))
      simp [isSpace, hspaces]
    · intro rest hrest
      have hspan : (c :: text ++ rest).span isNumberChar = (c :: text, rest) := by
        rw [List.span_eq_takeWhile_dropWhile, List.takeWhile_append_of_pos hchars,
          List.dropWhile_append_of_pos hchars]
        cases rest with
        | nil => simp
        | cons d rest =>
          have hd : isNumberChar d = false := hrest d rfl
          simp [hd]
      unfold readAtom
      rw [hspan]
      rw [List.cons_append, afterWord_of_ne _ _ (hne 116 (by decide)),
        afterWord_of_ne _ _ (hne 102 (by decide)), afterWord_of_ne _ _ (hne 110 (by decide))]
      simp [h]

/-! ### Lists -/

/-- The texts with commas between them. -/
def commas : List (List UInt8) → List UInt8
  | [] => []
  | [text] => text
  | text :: next :: texts => text ++ 44 :: commas (next :: texts)

theorem length_le_commas (texts : List (List UInt8)) :
    (∀ text ∈ texts, text.length ≤ (commas texts).length) ∧
      texts.length ≤ (commas texts).length + 1 := by
  induction texts with
  | nil => simp [commas]
  | cons text texts ih =>
    cases texts with
    | nil => simp [commas]
    | cons next texts =>
      obtain ⟨hall, hlength⟩ := ih
      have hcommas : (commas (text :: next :: texts)).length =
          text.length + ((commas (next :: texts)).length + 1) := by
        simp [commas]
      refine ⟨?_, ?_⟩
      · intro t ht
        rcases List.mem_cons.mp ht with rfl | hin
        · omega
        · have hle := hall t hin
          omega
      · rw [List.length_cons]
        omega

section Lists

variable {α : Type*} {close : UInt8}

/-- The loop over the items of a list, by recursion on the items. -/
theorem readList_commas {read : List UInt8 → Option (α × List UInt8)}
    (hspace : isSpace close = false) (hstop : isNumberChar close = false) (hcomma : close ≠ 44)
    {texts : List (List UInt8)} {items : List α}
    (h : List.Forall₂ (fun text item => ∀ rest, Stops rest → read (text ++ rest) = some (item, rest))
      texts items) (hne : texts ≠ []) (rest : List UInt8) :
    ∀ fuel, texts.length ≤ fuel →
      readList read close fuel (commas texts ++ close :: rest) = some (items, rest) := by
  induction h with
  | nil => exact absurd rfl hne
  | @cons text item texts items hitem hitems ih =>
    intro fuel hfuel
    cases fuel with
    | zero => cases hfuel
    | succ fuel =>
      cases hitems with
      | nil =>
        have hread := hitem (close :: rest) (stops_cons rest hstop)
        simp [commas, readList, hread, hspace]
      | @cons next item' texts items' hnext hitems =>
        have hread := hitem (44 :: (commas (next :: texts) ++ close :: rest))
          (stops_cons _ (by decide))
        have htail := ih (by simp) fuel (by simpa using hfuel)
        have htext : commas (text :: next :: texts) ++ close :: rest =
            text ++ 44 :: (commas (next :: texts) ++ close :: rest) := by simp [commas]
        have hspace' : isSpace 44 = false := by decide
        rw [htext]
        simp [readList, hread, hspace', htail, hcomma.symm]

/-- Items between brackets are read in order. -/
theorem readItems_commas (read : ℕ → List UInt8 → Option (α × List UInt8))
    (hclose : close = 93 ∨ close = 125) {texts : List (List UInt8)} {items : List α}
    (h : List.Forall₂ (ReadsAs read) texts items) (rest : List UInt8) {fuel : ℕ}
    (hfuel : (commas texts).length + 1 ≤ fuel) :
    readItems (read fuel) close fuel (commas texts ++ close :: rest) = some (items, rest) := by
  have hspace : isSpace close = false := by rcases hclose with rfl | rfl <;> decide
  have hstop : isNumberChar close = false := by rcases hclose with rfl | rfl <;> decide
  have hcomma : close ≠ 44 := by rcases hclose with rfl | rfl <;> decide
  obtain ⟨hall, hlength⟩ := length_le_commas texts
  cases h with
  | nil => simp [commas, readItems, hspace]
  | @cons text item texts items hitem hitems =>
    have hreads : List.Forall₂ (fun t i => ∀ rest, Stops rest → read fuel (t ++ rest) = some (i, rest))
        (text :: texts) (item :: items) := by
      have hin : List.Forall₂ (fun t i => t ∈ text :: texts ∧ ReadsAs read t i)
          (text :: texts) (item :: items) :=
        (List.forall₂_and_left _ _).mpr ⟨fun t ht => ht, .cons hitem hitems⟩
      refine hin.imp ?_
      rintro t i ⟨hin, hread⟩ rest hrest
      have hle := hall t hin
      exact hread.reads rest fuel hrest (by omega)
    have hlist := readList_commas hspace hstop hcomma hreads (by simp) rest fuel (by omega)
    -- the first text does not begin with the closing bracket
    obtain ⟨c, tail, htext, hc, hne⟩ := hitem.begins
    have hcne : c ≠ close := by rcases hclose with rfl | rfl <;> simp [hne]
    obtain ⟨more, hmore⟩ : ∃ more, commas (text :: texts) = c :: more := by
      rw [htext]
      cases texts <;> simp [commas]
    rw [hmore] at hlist ⊢
    simp only [readItems, List.cons_append, skipSpace_cons _ hc, if_neg hcne]
    exact hlist

end Lists

theorem Reads.array {texts : List (List UInt8)} {items : List Value}
    (h : List.Forall₂ Reads texts items) : Reads (91 :: commas texts ++ [93]) (.array items) := by
  refine ⟨⟨91, commas texts ++ [93], rfl, by decide, by decide, by decide⟩, ?_⟩
  intro rest fuel _ hfuel
  cases fuel with
  | zero => cases hfuel
  | succ fuel =>
    have htext : 91 :: commas texts ++ [93] ++ rest = 91 :: (commas texts ++ 93 :: rest) := by simp
    have hlength : (91 :: commas texts ++ [93]).length = (commas texts).length + 2 := by simp
    rw [htext, readValue_succ fuel _ (by decide), if_neg (by decide), if_pos rfl,
      readItems_commas _ (Or.inl rfl) h rest (by omega)]
    rfl

theorem Reads.object {texts : List (List UInt8)} {members : List (List UInt8 × Value)}
    (h : List.Forall₂ ReadsMember texts members) :
    Reads (123 :: commas texts ++ [125]) (.object members) := by
  refine ⟨⟨123, commas texts ++ [125], rfl, by decide, by decide, by decide⟩, ?_⟩
  intro rest fuel _ hfuel
  cases fuel with
  | zero => cases hfuel
  | succ fuel =>
    have htext : 123 :: commas texts ++ [125] ++ rest = 123 :: (commas texts ++ 125 :: rest) := by
      simp
    have hlength : (123 :: commas texts ++ [125]).length = (commas texts).length + 2 := by simp
    rw [htext, readValue_succ fuel _ (by decide), if_neg (by decide), if_neg (by decide), if_pos rfl,
      readItems_commas (fun fuel => readMember (readValue fuel)) (Or.inr rfl) h rest
        (by omega)]
    rfl

/-- A key, a colon and a value. -/
theorem Reads.member {key body text : List UInt8} {value : Value}
    (hkey : ∀ rest, readString (body ++ 34 :: rest) = some (key, rest)) (h : Reads text value) :
    ReadsMember (34 :: body ++ 34 :: 58 :: text) (key, value) := by
  refine ⟨⟨34, body ++ 34 :: 58 :: text, rfl, by decide, by decide, by decide⟩, ?_⟩
  intro rest fuel hrest hfuel
  have htext : 34 :: body ++ 34 :: 58 :: text ++ rest =
      34 :: (body ++ 34 :: (58 :: (text ++ rest))) := by simp
  have hlength : (34 :: body ++ 34 :: 58 :: text).length = body.length + text.length + 3 := by
    simp
    omega
  have hquote : isSpace 34 = false := by decide
  have hcolon : isSpace 58 = false := by decide
  have hread := h.reads rest fuel hrest (by omega)
  rw [htext]
  simp [readMember, hquote, hcolon, hkey, hread]

end JsonText
