/-
  The rational number that a JSON number is.

  `number?` reads the sign, the whole part, the fraction and the exponent.  `number?_parts` is the
  writer's side: a text put together from these parts is a number with the value that they give.
-/
import MiniGateway.JsonText
import Mathlib.Algebra.Order.Field.Rat
import Mathlib.Tactic.Ring
import Mathlib.Tactic.FieldSimp
import Mathlib.Tactic.NormNum

namespace JsonText

/-- The digits behind the point, if there is one, and what follows them. -/
def fractionDigits : List UInt8 → List UInt8 × List UInt8
  | [] => ([], [])
  | c :: rest => if c = 46 then rest.span isDigit else ([], c :: rest)

/-- The exponent behind the digits, zero if there is none. -/
def exponentValue : List UInt8 → ℤ
  | [] => 0
  | c :: rest =>
    if c = 101 ∨ c = 69 then
      (if rest.head? = some 45 then -1 else 1) * digitsValue (afterSign rest)
    else 0

/-- The number that a text is. -/
def number? (text : List UInt8) : Option ℚ :=
  let unsigned := afterMinus text
  let whole := unsigned.span isDigit
  let fraction := fractionDigits whole.2
  if isNumber text then
    some ((if unsigned.length < text.length then -1 else 1) *
      (digitsValue (whole.1 ++ fraction.1) *
        (10 : ℚ) ^ (exponentValue fraction.2 - fraction.1.length)))
  else none

/-! ### Runs of digits -/

/-- The text does not begin with a digit. -/
def NoDigit (rest : List UInt8) : Prop := ∀ c ∈ rest.head?, isDigit c = false

theorem noDigit_nil : NoDigit [] := fun _ hc => by cases hc

theorem span_digits {digits rest : List UInt8} (hdigits : ∀ c ∈ digits, isDigit c = true)
    (hrest : NoDigit rest) : (digits ++ rest).span isDigit = (digits, rest) := by
  rw [List.span_eq_takeWhile_dropWhile]
  rw [List.takeWhile_append_of_pos hdigits, List.dropWhile_append_of_pos hdigits]
  cases rest with
  | nil => simp
  | cons c rest =>
    have hc : isDigit c = false := hrest c rfl
    simp [hc]

theorem afterDigits_append {digits rest : List UInt8} (hne : digits ≠ [])
    (hdigits : ∀ c ∈ digits, isDigit c = true) (hrest : NoDigit rest) :
    afterDigits (digits ++ rest) = some rest := by
  unfold afterDigits
  rw [span_digits hdigits hrest]
  cases digits with
  | nil => exact absurd rfl hne
  | cons c digits => rfl

theorem Digits.afterWhole_append {whole rest : List UInt8} (h : Digits whole)
    (hrest : NoDigit rest) : JsonText.afterWhole (whole ++ rest) = some rest := by
  cases whole with
  | nil => exact absurd rfl h.ne_nil
  | cons c whole =>
    simp only [List.cons_append, JsonText.afterWhole]
    split_ifs with hc
    · subst hc
      have hone := h.leading rfl
      rw [(List.cons.inj hone).2, List.nil_append]
    · exact afterDigits_append h.ne_nil h.digit hrest

theorem digitsValue_append (digits rest : List UInt8) :
    digitsValue (digits ++ rest) = digitsValue digits * 10 ^ rest.length + digitsValue rest := by
  have hfold : ∀ (rest : List UInt8) (init : ℕ),
      rest.foldl (fun value c => 10 * value + (c.toNat - 48)) init =
        init * 10 ^ rest.length + digitsValue rest := by
    intro rest
    induction rest with
    | nil => intro init; simp [digitsValue]
    | cons c rest ih =>
      intro init
      have hone := ih (10 * 0 + (c.toNat - 48))
      unfold digitsValue
      rw [List.foldl_cons, List.foldl_cons, ih, hone, List.length_cons, pow_succ]
      ring
  unfold digitsValue
  rw [List.foldl_append, hfold]
  rfl

theorem digitsValue_zeros (n : ℕ) : digitsValue (List.replicate n 48) = 0 := by
  induction n with
  | zero => rfl
  | succ n ih =>
    rw [List.replicate_succ', digitsValue_append, ih]
    rfl

/-! ### Numbers from their parts -/

/-- The text of an exponent. -/
inductive IsExponent : List UInt8 → ℤ → Prop
  | none : IsExponent [] 0
  | positive {digits : List UInt8} {n : ℤ} : digits ≠ [] → (∀ c ∈ digits, isDigit c = true) →
      n = digitsValue digits → IsExponent (101 :: 43 :: digits) n
  | negative {digits : List UInt8} {n : ℤ} : digits ≠ [] → (∀ c ∈ digits, isDigit c = true) →
      n = -digitsValue digits → IsExponent (101 :: 45 :: digits) n

/-- A fraction with its point; no point without digits. -/
def point (fraction : List UInt8) : List UInt8 := if fraction = [] then [] else 46 :: fraction

theorem IsExponent.noDigit {text : List UInt8} {n : ℤ} (h : IsExponent text n) : NoDigit text := by
  intro c hc
  cases h with
  | none => cases hc
  | positive | negative =>
    cases hc
    decide

theorem IsExponent.after {text : List UInt8} {n : ℤ} (h : IsExponent text n) :
    afterExponent text = some [] := by
  cases h with
  | none => rfl
  | @positive digits _ hne hdigits =>
    have hall := afterDigits_append hne hdigits noDigit_nil
    rw [List.append_nil] at hall
    exact hall
  | @negative digits _ hne hdigits =>
    have hall := afterDigits_append hne hdigits noDigit_nil
    rw [List.append_nil] at hall
    exact hall

theorem IsExponent.value {text : List UInt8} {n : ℤ} (h : IsExponent text n) :
    exponentValue text = n := by
  cases h with
  | none => rfl
  | positive _ _ hn => simp [exponentValue, afterSign, hn]
  | negative _ _ hn => simp [exponentValue, afterSign, hn]

theorem isNumber_of_number? {text : List UInt8} {x : ℚ} (h : number? text = some x) :
    isNumber text = true := by
  by_contra hnumber
  unfold number? at h
  dsimp only at h
  rw [if_neg hnumber] at h
  cases h

/-- An integer is the number that it is read as. -/
theorem number?_of_integer? {text : List UInt8} {n : ℤ} (h : integer? text = some n) :
    number? text = some (n : ℚ) := by
  by_cases hinteger : (isNumber text && (afterMinus text).all isDigit) = true
  · obtain ⟨hnumber, hdigits⟩ := Bool.and_eq_true_iff.mp hinteger
    have hspan := span_digits (List.all_eq_true.mp hdigits) noDigit_nil
    rw [List.append_nil] at hspan
    have hvalue : number? text = some ((if (afterMinus text).length < text.length then -1 else 1) *
        (digitsValue (afterMinus text) : ℚ)) := by
      unfold number?
      simp only [hspan, hnumber, if_true]
      simp [fractionDigits, exponentValue]
    rw [hvalue]
    simp only [integer?, hinteger, if_true, Option.some.injEq] at h
    rw [← h]
    split_ifs <;> simp
  · unfold integer? at h
    dsimp only at h
    rw [if_neg hinteger] at h
    cases h

/-- Behind its sign an integer has nothing but digits. -/
theorem isDigit_of_integer? {text : List UInt8} {n : ℤ} (h : integer? text = some n) {c : UInt8}
    (hc : c ∈ text) (hsign : c ≠ 45) : isDigit c = true := by
  have hall : (afterMinus text).all isDigit = true := by
    by_contra hnot
    simp [integer?, hnot] at h
  have hmem : c ∈ afterMinus text := by
    cases text with
    | nil => cases hc
    | cons first rest =>
      simp only [afterMinus]
      split_ifs with hfirst
      · exact (List.mem_cons.mp hc).resolve_left (hfirst ▸ hsign)
      · exact hc
  exact List.all_eq_true.mp hall c hmem

section Parts

variable {whole fraction exponent : List UInt8} {n : ℤ}

theorem noDigit_point (hexponent : IsExponent exponent n) :
    NoDigit (point fraction ++ exponent) := by
  unfold point
  split_ifs
  · exact hexponent.noDigit
  · intro c hc
    cases hc
    decide

theorem fractionDigits_point (hfraction : ∀ c ∈ fraction, isDigit c = true)
    (hexponent : IsExponent exponent n) :
    fractionDigits (point fraction ++ exponent) = (fraction, exponent) := by
  unfold point
  split_ifs with hnil
  · subst hnil
    cases hexponent <;> rfl
  · exact span_digits hfraction hexponent.noDigit

theorem afterFraction_point (hfraction : ∀ c ∈ fraction, isDigit c = true)
    (hexponent : IsExponent exponent n) :
    afterFraction (point fraction ++ exponent) = some exponent := by
  unfold point
  split_ifs with hnil
  · subst hnil
    cases hexponent <;> rfl
  · exact afterDigits_append hnil hfraction hexponent.noDigit

theorem afterMinus_parts (hwhole : Digits whole) (rest : List UInt8) :
    afterMinus (whole ++ rest) = whole ++ rest := by
  cases whole with
  | nil => exact absurd rfl hwhole.ne_nil
  | cons c whole =>
    have hc : c ≠ 45 := by
      rintro rfl
      exact absurd (hwhole.digit 45 List.mem_cons_self) (by decide)
    simp [afterMinus, hc]

/-- **A number put together from its parts**: it is a number, and its value is that of its digits
scaled by the exponent. -/
theorem number?_parts (negative : Bool) (hwhole : Digits whole)
    (hfraction : ∀ c ∈ fraction, isDigit c = true) (hexponent : IsExponent exponent n) :
    number? ((if negative then [45] else []) ++ (whole ++ (point fraction ++ exponent))) =
      some ((if negative then -1 else 1) *
        (digitsValue (whole ++ fraction) * (10 : ℚ) ^ (n - fraction.length))) := by
  have hafter : afterMinus ((if negative then [45] else []) ++
      (whole ++ (point fraction ++ exponent))) = whole ++ (point fraction ++ exponent) := by
    cases negative with
    | true => rfl
    | false => exact afterMinus_parts hwhole _
  have hnumber : isNumber ((if negative then [45] else []) ++
      (whole ++ (point fraction ++ exponent))) = true := by
    unfold isNumber
    rw [hafter, hwhole.afterWhole_append (noDigit_point hexponent)]
    simp [afterFraction_point hfraction hexponent, hexponent.after]
  unfold number?
  simp only [hafter, hnumber, if_true, span_digits hwhole.digit (noDigit_point hexponent),
    fractionDigits_point hfraction hexponent, hexponent.value]
  cases negative <;> simp

end Parts

end JsonText
