/-
  JSON texts as bytes.

  `parse` reads a whole text by the JSON grammar.  It works on bytes: a byte from 0x80 on is part of
  a string as it stands, and only a `\u` escape is turned into UTF-8.  A number is kept as its text,
  so that nothing is rounded; `integer?` reads an integer back.

  The lemmas say what the pieces of a text are read as: numbers (`Digits`, `isNumber`), the bytes of
  a string and their escapes (`readString_plain`, `readString_escape`, `readString_unicode`).  Whole
  texts are in `JsonText.Reads`.
-/
import Mathlib.Data.List.TakeDrop
import Mathlib.Data.List.TakeWhile

namespace JsonText

/-- A JSON value; a number is its text. -/
inductive Value
  | null
  | boolean (value : Bool)
  | number (text : List UInt8)
  | string (bytes : List UInt8)
  | array (items : List Value)
  | object (members : List (List UInt8 × Value))

/-! ### Characters -/

/-- Space, tab, line feed and carriage return. -/
def isSpace (c : UInt8) : Bool := c == 32 || c == 9 || c == 10 || c == 13

def skipSpace (s : List UInt8) : List UInt8 := s.dropWhile isSpace

def isDigit (c : UInt8) : Bool := 48 ≤ c && c ≤ 57

/-- A character that numbers are made of: a digit, a sign, the point or an `e`. -/
def isNumberChar (c : UInt8) : Bool :=
  isDigit c || c == 45 || c == 43 || c == 46 || c == 101 || c == 69

/-! ### Numbers -/

/-- What follows a run of at least one digit. -/
def afterDigits (s : List UInt8) : Option (List UInt8) :=
  match s.span isDigit with
  | ([], _) => none
  | (_ :: _, rest) => some rest

/-- What follows the integer part: a zero, or digits that do not begin with a zero. -/
def afterWhole : List UInt8 → Option (List UInt8)
  | [] => none
  | c :: rest => if c = 48 then some rest else afterDigits (c :: rest)

/-- What follows the fraction, if there is one. -/
def afterFraction : List UInt8 → Option (List UInt8)
  | [] => some []
  | c :: rest => if c = 46 then afterDigits rest else some (c :: rest)

/-- What follows a sign of an exponent, if there is one. -/
def afterSign : List UInt8 → List UInt8
  | [] => []
  | c :: rest => if c = 43 ∨ c = 45 then rest else c :: rest

/-- What follows the exponent, if there is one. -/
def afterExponent : List UInt8 → Option (List UInt8)
  | [] => some []
  | c :: rest => if c = 101 ∨ c = 69 then afterDigits (afterSign rest) else some (c :: rest)

/-- What follows the minus sign of a number, if there is one. -/
def afterMinus : List UInt8 → List UInt8
  | [] => []
  | c :: rest => if c = 45 then rest else c :: rest

/-- The text is one number. -/
def isNumber (text : List UInt8) : Bool :=
  ((afterWhole (afterMinus text)).bind afterFraction).bind afterExponent == some []

/-- The number a run of digits stands for. -/
def digitsValue (digits : List UInt8) : ℕ :=
  digits.foldl (fun value c => 10 * value + (c.toNat - 48)) 0

/-- The integer that a text without point and exponent stands for. -/
def integer? (text : List UInt8) : Option ℤ :=
  let digits := afterMinus text
  if isNumber text && digits.all isDigit then
    some (if digits.length < text.length then -(digitsValue digits : ℤ) else digitsValue digits)
  else none

/-! ### Strings -/

def hexValue (c : UInt8) : Option ℕ :=
  if isDigit c then some (c.toNat - 48)
  else if 97 ≤ c && c ≤ 102 then some (c.toNat - 87)
  else if 65 ≤ c && c ≤ 70 then some (c.toNat - 55)
  else none

/-- The code unit of a `\u` escape. -/
def codeUnit (a b c d : UInt8) : Option ℕ := do
  let a ← hexValue a
  let b ← hexValue b
  let c ← hexValue c
  let d ← hexValue d
  some (((a * 16 + b) * 16 + c) * 16 + d)

/-- The UTF-8 bytes of a code point. -/
def utf8 (n : ℕ) : List UInt8 :=
  let tail (k : ℕ) : UInt8 := UInt8.ofNat (128 + k % 64)
  if n < 0x80 then [UInt8.ofNat n]
  else if n < 0x800 then [UInt8.ofNat (192 + n / 64), tail n]
  else if n < 0x10000 then [UInt8.ofNat (224 + n / 4096), tail (n / 64), tail n]
  else [UInt8.ofNat (240 + n / 262144), tail (n / 4096), tail (n / 64), tail n]

/-- The byte that a one-character escape stands for. -/
def escape (c : UInt8) : Option UInt8 :=
  if c = 34 ∨ c = 92 ∨ c = 47 then some c
  else if c = 98 then some 8
  else if c = 102 then some 12
  else if c = 110 then some 10
  else if c = 114 then some 13
  else if c = 116 then some 9
  else none

/-- These bytes come before the rest of the string. -/
def push (bytes : List UInt8) (tail : Option (List UInt8 × List UInt8)) :
    Option (List UInt8 × List UInt8) :=
  tail.map fun result => (bytes ++ result.1, result.2)

/-- The rest of a string up to its closing quote, and what follows. -/
def readString : List UInt8 → Option (List UInt8 × List UInt8)
  | [] => none
  | c :: rest =>
    if c = 34 then some ([], rest)
    else if c = 92 then
      match rest with
      | [] => none
      | e :: rest =>
        if e = 117 then
          match rest with
          | h₁ :: h₂ :: h₃ :: h₄ :: rest =>
            match codeUnit h₁ h₂ h₃ h₄ with
            | none => none
            | some n =>
              if 0xD800 ≤ n ∧ n < 0xDC00 then
                -- a high surrogate needs its low one
                match rest with
                | c₁ :: c₂ :: l₁ :: l₂ :: l₃ :: l₄ :: rest =>
                  if c₁ = 92 ∧ c₂ = 117 then
                    match codeUnit l₁ l₂ l₃ l₄ with
                    | none => none
                    | some m =>
                      if 0xDC00 ≤ m ∧ m < 0xE000 then
                        push (utf8 (0x10000 + (n - 0xD800) * 0x400 + (m - 0xDC00)))
                          (readString rest)
                      else none
                  else none
                | _ => none
              else if 0xDC00 ≤ n ∧ n < 0xE000 then none
              else push (utf8 n) (readString rest)
          | _ => none
        else
          match escape e with
          | none => none
          | some byte => push [byte] (readString rest)
    else if c < 32 then none
    else push [c] (readString rest)

/-! ### Values -/

/-- What follows `word` at the start of `s`. -/
def afterWord (word s : List UInt8) : Option (List UInt8) :=
  if s.take word.length = word then some (s.drop word.length) else none

/-- `true`, `false`, `null` or a number, and what follows. -/
def readAtom (s : List UInt8) : Option (Value × List UInt8) :=
  match afterWord [116, 114, 117, 101] s with
  | some rest => some (.boolean true, rest)
  | none =>
  match afterWord [102, 97, 108, 115, 101] s with
  | some rest => some (.boolean false, rest)
  | none =>
  match afterWord [110, 117, 108, 108] s with
  | some rest => some (.null, rest)
  | none =>
    if isNumber (s.span isNumberChar).1 then
      some (.number (s.span isNumberChar).1, (s.span isNumberChar).2)
    else none

section Lists

variable {α : Type*} (read : List UInt8 → Option (α × List UInt8)) (close : UInt8)

/-- One or more items with commas between them, up to the closing bracket. -/
def readList : ℕ → List UInt8 → Option (List α × List UInt8)
  | 0, _ => none
  | fuel + 1, s =>
    match read s with
    | none => none
    | some (item, rest) =>
      match skipSpace rest with
      | [] => none
      | c :: rest =>
        if c = close then some ([item], rest)
        else if c = 44 then
          (readList fuel rest).map fun result => (item :: result.1, result.2)
        else none

/-- The items up to the closing bracket, if there are any. -/
def readItems (fuel : ℕ) (s : List UInt8) : Option (List α × List UInt8) :=
  match skipSpace s with
  | [] => none
  | c :: rest => if c = close then some ([], rest) else readList read close fuel s

end Lists

/-- A member of an object. -/
def readMember (read : List UInt8 → Option (Value × List UInt8)) (s : List UInt8) :
    Option ((List UInt8 × Value) × List UInt8) :=
  match skipSpace s with
  | [] => none
  | c :: rest =>
    if c = 34 then
      match readString rest with
      | none => none
      | some (key, rest) =>
        match skipSpace rest with
        | [] => none
        | c :: rest =>
          if c = 58 then (read rest).map fun result => ((key, result.1), result.2) else none
    else none

/-- One value at the start of the text, and what follows; `fuel` bounds the depth and the length of
lists. -/
def readValue : ℕ → List UInt8 → Option (Value × List UInt8)
  | 0, _ => none
  | fuel + 1, s =>
    match skipSpace s with
    | [] => none
    | c :: rest =>
      if c = 34 then (readString rest).map fun result => (.string result.1, result.2)
      else if c = 91 then
        (readItems (readValue fuel) 93 fuel rest).map fun result => (.array result.1, result.2)
      else if c = 123 then
        (readItems (readMember (readValue fuel)) 125 fuel rest).map fun result =>
          (.object result.1, result.2)
      else readAtom (c :: rest)

/-- The value of a whole text. -/
def parse (text : List UInt8) : Option Value :=
  match readValue (text.length + 1) text with
  | none => none
  | some (value, rest) => if skipSpace rest = [] then some value else none

/-! ### Texts of numbers -/

/-- What is left behind a run of characters of numbers. -/
def Leaves (s rest : List UInt8) : Prop := ∃ run, s = run ++ rest ∧ ∀ c ∈ run, isNumberChar c = true

theorem Leaves.refl (s : List UInt8) : Leaves s s := ⟨[], rfl, fun _ h => absurd h List.not_mem_nil⟩

theorem Leaves.trans {s s' s'' : List UInt8} (h : Leaves s s') (h' : Leaves s' s'') :
    Leaves s s'' := by
  obtain ⟨run, rfl, hrun⟩ := h
  obtain ⟨run', rfl, hrun'⟩ := h'
  refine ⟨run ++ run', (List.append_assoc ..).symm, ?_⟩
  intro c hc
  rcases List.mem_append.mp hc with hin | hin
  · exact hrun c hin
  · exact hrun' c hin

theorem Leaves.cons {c : UInt8} {s rest : List UInt8} (hc : isNumberChar c = true)
    (h : Leaves s rest) : Leaves (c :: s) rest := by
  obtain ⟨run, rfl, hrun⟩ := h
  refine ⟨c :: run, rfl, ?_⟩
  intro d hd
  rcases List.mem_cons.mp hd with rfl | hin
  · exact hc
  · exact hrun d hin

theorem isNumberChar_of_isDigit {c : UInt8} (h : isDigit c = true) : isNumberChar c = true := by
  simp [isNumberChar, h]

theorem afterDigits_leaves {s rest : List UInt8} (h : afterDigits s = some rest) :
    Leaves s rest := by
  unfold afterDigits at h
  rw [List.span_eq_takeWhile_dropWhile] at h
  split at h
  · cases h
  · rename_i c run rest' heq
    obtain rfl := Option.some.inj h
    obtain ⟨hrun, hrest⟩ := Prod.mk.inj heq
    refine ⟨s.takeWhile isDigit, ?_, ?_⟩
    · rw [← hrest, List.takeWhile_append_dropWhile]
    · intro d hd
      exact isNumberChar_of_isDigit (List.mem_takeWhile_imp hd)

theorem afterWhole_leaves {s rest : List UInt8} (h : afterWhole s = some rest) : Leaves s rest := by
  cases s with
  | nil => cases h
  | cons c s =>
    simp only [afterWhole] at h
    split_ifs at h with hc
    · obtain rfl := Option.some.inj h
      exact .cons (by rw [hc]; decide) (.refl _)
    · exact afterDigits_leaves h

theorem afterFraction_leaves {s rest : List UInt8} (h : afterFraction s = some rest) :
    Leaves s rest := by
  cases s with
  | nil =>
    obtain rfl := Option.some.inj h
    exact .refl _
  | cons c s =>
    simp only [afterFraction] at h
    split_ifs at h with hc
    · exact .cons (by rw [hc]; decide) (afterDigits_leaves h)
    · obtain rfl := Option.some.inj h
      exact .refl _

theorem afterSign_leaves (s : List UInt8) : Leaves s (afterSign s) := by
  cases s with
  | nil => exact .refl _
  | cons c s =>
    simp only [afterSign]
    split_ifs with hc
    · refine .cons ?_ (.refl _)
      rcases hc with rfl | rfl <;> decide
    · exact .refl _

theorem afterExponent_leaves {s rest : List UInt8} (h : afterExponent s = some rest) :
    Leaves s rest := by
  cases s with
  | nil =>
    obtain rfl := Option.some.inj h
    exact .refl _
  | cons c s =>
    simp only [afterExponent] at h
    split_ifs at h with hc
    · have hchar : isNumberChar c = true := by rcases hc with rfl | rfl <;> decide
      exact .cons hchar ((afterSign_leaves s).trans (afterDigits_leaves h))
    · obtain rfl := Option.some.inj h
      exact .refl _

theorem afterMinus_leaves (s : List UInt8) : Leaves s (afterMinus s) := by
  cases s with
  | nil => exact .refl _
  | cons c s =>
    simp only [afterMinus]
    split_ifs with hc
    · exact .cons (by rw [hc]; decide) (.refl _)
    · exact .refl _

/-- A number is made of the characters of numbers. -/
theorem isNumberChar_of_isNumber {text : List UInt8} (h : isNumber text = true) :
    ∀ c ∈ text, isNumberChar c = true := by
  unfold isNumber at h
  have hsome : ((afterWhole (afterMinus text)).bind afterFraction).bind afterExponent = some [] := by
    simpa using h
  obtain ⟨s₂, h₂, hexponent⟩ := Option.bind_eq_some_iff.mp hsome
  obtain ⟨s₁, h₁, hfraction⟩ := Option.bind_eq_some_iff.mp h₂
  obtain ⟨run, heq, hrun⟩ := (((afterMinus_leaves text).trans (afterWhole_leaves h₁)).trans
    (afterFraction_leaves hfraction)).trans (afterExponent_leaves hexponent)
  rw [List.append_nil] at heq
  rw [heq]
  exact hrun

theorem isNumber_ne_nil {text : List UInt8} (h : isNumber text = true) : text ≠ [] := by
  rintro rfl
  revert h
  decide

/-- Digits without a leading zero are a number. -/
structure Digits (digits : List UInt8) : Prop where
  digit : ∀ c ∈ digits, isDigit c = true
  ne_nil : digits ≠ []
  leading : digits.head? = some 48 → digits = [48]

theorem Digits.afterWhole {digits : List UInt8} (h : Digits digits) :
    JsonText.afterWhole digits = some [] := by
  cases digits with
  | nil => exact absurd rfl h.ne_nil
  | cons c rest =>
    simp only [JsonText.afterWhole]
    split_ifs with hc
    · subst hc
      have hone := h.leading rfl
      rw [(List.cons.inj hone).2]
    · have htake : (c :: rest).takeWhile isDigit = c :: rest := List.takeWhile_eq_self_iff.mpr h.digit
      have hdrop : (c :: rest).dropWhile isDigit = [] := List.dropWhile_eq_nil_iff.mpr h.digit
      unfold afterDigits
      rw [List.span_eq_takeWhile_dropWhile, htake, hdrop]

theorem Digits.afterMinus {digits : List UInt8} (h : Digits digits) :
    JsonText.afterMinus digits = digits := by
  cases digits with
  | nil => rfl
  | cons c rest =>
    simp only [JsonText.afterMinus]
    rw [if_neg]
    rintro rfl
    have hdigit := h.digit 45 (List.mem_cons_self ..)
    revert hdigit
    decide

theorem Digits.isNumber {digits : List UInt8} (h : Digits digits) : isNumber digits = true := by
  simp [JsonText.isNumber, h.afterMinus, h.afterWhole, afterFraction, afterExponent]

theorem Digits.isNumber_neg {digits : List UInt8} (h : Digits digits) :
    JsonText.isNumber (45 :: digits) = true := by
  simp [JsonText.isNumber, JsonText.afterMinus, h.afterWhole, afterFraction, afterExponent]

theorem Digits.integer? {digits : List UInt8} (h : Digits digits) :
    integer? digits = some (digitsValue digits : ℤ) := by
  have hall : digits.all isDigit = true := List.all_eq_true.mpr h.digit
  simp [JsonText.integer?, h.afterMinus, h.isNumber, hall]

theorem Digits.integer?_neg {digits : List UInt8} (h : Digits digits) :
    JsonText.integer? (45 :: digits) = some (-(digitsValue digits : ℤ)) := by
  have hall : digits.all isDigit = true := List.all_eq_true.mpr h.digit
  simp [JsonText.integer?, JsonText.afterMinus, h.isNumber_neg, hall]

/-! ### Texts of strings -/

@[simp] theorem readString_quote (rest : List UInt8) : readString (34 :: rest) = some ([], rest) := by
  rw [readString.eq_def]
  rfl

/-- A byte that needs no escape. -/
theorem readString_plain {c : UInt8} (rest : List UInt8) (hquote : c ≠ 34) (hescape : c ≠ 92)
    (hcontrol : ¬c < 32) : readString (c :: rest) = push [c] (readString rest) := by
  rw [readString.eq_def]
  show (if c = 34 then _ else if c = 92 then _ else if c < 32 then _ else _) = _
  rw [if_neg hquote, if_neg hescape, if_neg hcontrol]

/-- An escape of one character. -/
theorem readString_escape {e byte : UInt8} (rest : List UInt8) (h : escape e = some byte) :
    readString (92 :: e :: rest) = push [byte] (readString rest) := by
  have hunicode : e ≠ 117 := by
    rintro rfl
    cases h
  rw [readString.eq_def]
  simp [hunicode, h]

/-- A `\u` escape of an ASCII character. -/
theorem readString_unicode {a b c d : UInt8} {n : ℕ} (rest : List UInt8)
    (h : codeUnit a b c d = some n) (hn : n < 128) :
    readString (92 :: 117 :: a :: b :: c :: d :: rest) =
      push [UInt8.ofNat n] (readString rest) := by
  have hhigh : ¬(0xD800 ≤ n ∧ n < 0xDC00) := by omega
  have hlow : ¬(0xDC00 ≤ n ∧ n < 0xE000) := by omega
  rw [readString.eq_def]
  simp [h, hhigh, hlow, utf8, hn]

end JsonText
