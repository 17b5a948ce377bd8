/-
  How the payload prints a `double` (`output << std::setprecision(17) << item` in
  `append_json_scalar`), and that a reader of the payload gets the same `double` back.

  The stream's default notation is that of `%.17g`: 17 significant digits, the scientific notation
  when the exponent is below -4 or not below 17, and no zeros at the end of a fraction.  The program
  prints the sign of a zero; the two zeros are one `Double`, which is printed without a sign.
-/
import MiniGateway.Binary64.Digits
import MiniGateway.JsonText.Numbers
import MiniGateway.Mqtt.Payload
import Mathlib.Data.List.DropRight

namespace MiniGateway

open Binary64 (Double)
open JsonText (point)

/-! ### Printing -/

/-- The digits without the zeros at the end. -/
def stripZeros (digits : ByteString) : ByteString := digits.rdropWhile (· == 48)

/-- At least two digits. -/
def exponentDigits (n : ℕ) : ByteString := if n < 10 then 48 :: decimal n else decimal n

/-- `d.ddde+xx`. -/
def printScientific (digits : ByteString) (exponent : ℤ) : ByteString :=
  digits.take 1 ++ (point (stripZeros (digits.drop 1)) ++
    101 :: (if exponent < 0 then 45 else 43) :: exponentDigits exponent.natAbs)

/-- `ddd.ddd`, or `0.000ddd` when the exponent is negative. -/
def printFixed (digits : ByteString) (exponent : ℤ) : ByteString :=
  if exponent < 0 then
    lit "0" ++ point (List.replicate (-exponent - 1).toNat 48 ++ stripZeros digits)
  else
    digits.take (exponent.toNat + 1) ++ point (stripZeros (digits.drop (exponent.toNat + 1)))

/-- `output << std::setprecision(17) << item`. -/
def setprecision17 : Double → ByteString
  | .finite q _ =>
    if q = 0 then lit "0"
    else
      let digits := decimal (Binary64.scientific q).1
      let exponent := (Binary64.scientific q).2
      (if q < 0 then lit "-" else []) ++
        if exponent < -4 ∨ 17 ≤ exponent then printScientific digits exponent
        else printFixed digits exponent
  | .infinity negative => if negative then lit "-inf" else lit "inf"
  | .nan => lit "nan"

/-! ### Zeros at the end -/

theorem stripZeros_append (digits : ByteString) :
    ∃ n, digits = stripZeros digits ++ List.replicate n 48 := by
  have hzeros : digits.rtakeWhile (· == 48) =
      List.replicate (digits.rtakeWhile (· == 48)).length 48 := by
    rw [List.eq_replicate_iff]
    exact ⟨rfl, fun c hc => by simpa using List.mem_rtakeWhile_imp hc⟩
  refine ⟨(digits.rtakeWhile (· == 48)).length, ?_⟩
  rw [← hzeros]
  exact List.rdropWhile_append_rtakeWhile.symm

theorem isDigit_stripZeros {digits : ByteString} (h : ∀ c ∈ digits, JsonText.isDigit c = true) :
    ∀ c ∈ stripZeros digits, JsonText.isDigit c = true :=
  fun c hc => h c ((List.rdropWhile_prefix _ _).mem hc)

/-- The zeros at the end of a fraction do not count. -/
theorem value_stripZeros (whole digits : ByteString) (n : ℤ) :
    (JsonText.digitsValue (whole ++ stripZeros digits) : ℚ) *
        10 ^ (n - (stripZeros digits).length) =
      JsonText.digitsValue (whole ++ digits) * 10 ^ (n - digits.length) := by
  obtain ⟨k, hk⟩ := stripZeros_append digits
  have hlength : (digits.length : ℤ) = (stripZeros digits).length + k := by
    conv_lhs => rw [hk]
    simp
  have hvalue : (JsonText.digitsValue (whole ++ digits) : ℚ) =
      JsonText.digitsValue (whole ++ stripZeros digits) * 10 ^ k := by
    conv_lhs => rw [hk]
    rw [← List.append_assoc, JsonText.digitsValue_append, JsonText.digitsValue_zeros]
    simp
  rw [hvalue, hlength, ← sub_sub, zpow_sub₀ (by norm_num) _ (k : ℤ), zpow_natCast]
  field_simp

/-! ### Layouts -/

section Layout

variable {n : ℕ} {exponent : ℤ}

theorem isDigit_decimal (n : ℕ) : ∀ c ∈ decimal n, JsonText.isDigit c = true :=
  (digits_decimal n).digit

theorem length_decimal (hlow : 10 ^ 16 ≤ n) (hhigh : n < 10 ^ 17) : (decimal n).length = 17 := by
  unfold decimal
  rw [List.length_map]
  have hle := (Nat.length_toDigits_le_iff (n := n) (k := 17) (b := 10) (by decide)
    (by decide)).mpr hhigh
  have hlt := mt (Nat.length_toDigits_le_iff (n := n) (k := 16) (b := 10) (by decide)
    (by decide)).mp (by omega)
  omega

/-- The first digits are a whole part: the first of them is not a zero. -/
theorem digits_take (hn : n ≠ 0) (k : ℕ) : JsonText.Digits ((decimal n).take (k + 1)) := by
  have hdigits := digits_decimal n
  refine ⟨fun c hc => hdigits.digit c (List.mem_of_mem_take hc), ?_, ?_⟩
  · simpa using hdigits.ne_nil
  · intro hhead
    rw [List.head?_take, if_neg (Nat.succ_ne_zero k)] at hhead
    have hone := hdigits.leading hhead
    have hzero := digitsValue_decimal n
    rw [hone] at hzero
    exact absurd hzero.symm hn

theorem isExponent_exponentDigits (exponent : ℤ) :
    JsonText.IsExponent
      (101 :: (if exponent < 0 then 45 else 43) :: exponentDigits exponent.natAbs) exponent := by
  have hne : exponentDigits exponent.natAbs ≠ [] := by
    unfold exponentDigits
    split_ifs
    · exact List.cons_ne_nil _ _
    · exact (digits_decimal _).ne_nil
  have hdigits : ∀ c ∈ exponentDigits exponent.natAbs, JsonText.isDigit c = true := by
    unfold exponentDigits
    split_ifs
    · rw [List.forall_mem_cons]
      exact ⟨by decide, isDigit_decimal _⟩
    · exact isDigit_decimal _
  have hvalue : JsonText.digitsValue (exponentDigits exponent.natAbs) = exponent.natAbs := by
    unfold exponentDigits
    split_ifs
    · rw [← List.singleton_append, JsonText.digitsValue_append, digitsValue_decimal]
      simp [JsonText.digitsValue]
    · exact digitsValue_decimal _
  split_ifs with hneg
  · exact .negative hne hdigits (by omega)
  · exact .positive hne hdigits (by omega)

open JsonText (number?_parts) in
theorem number?_printScientific (negative : Bool) (hlow : 10 ^ 16 ≤ n) (hhigh : n < 10 ^ 17)
    (exponent : ℤ) :
    JsonText.number? ((if negative then [45] else []) ++ printScientific (decimal n) exponent) =
      some ((if negative then -1 else 1) * (n * (10 : ℚ) ^ (exponent - 16))) := by
  unfold printScientific
  rw [number?_parts negative (digits_take (by omega) 0)
    (isDigit_stripZeros fun c hc => isDigit_decimal n c (List.mem_of_mem_drop hc))
    (isExponent_exponentDigits exponent)]
  rw [value_stripZeros, List.take_append_drop, digitsValue_decimal, List.length_drop,
    length_decimal hlow hhigh]
  rfl

theorem number?_printFixed (negative : Bool) (hlow : 10 ^ 16 ≤ n) (hhigh : n < 10 ^ 17)
    (hexponent : exponent < 17) :
    JsonText.number? ((if negative then [45] else []) ++ printFixed (decimal n) exponent) =
      some ((if negative then -1 else 1) * (n * (10 : ℚ) ^ (exponent - 16))) := by
  unfold printFixed
  by_cases hneg : exponent < 0
  · rw [if_pos hneg]
    -- the whole part is a zero, and zeros come before the digits
    set zeros : ByteString := List.replicate (-exponent - 1).toNat 48 with hzeros
    have hfraction : ∀ c ∈ zeros ++ stripZeros (decimal n), JsonText.isDigit c = true := by
      intro c hc
      rcases List.mem_append.mp hc with hc | hc
      · rw [(List.mem_replicate.mp hc).2]
        decide
      · exact isDigit_stripZeros (isDigit_decimal n) c hc
    have hwhole : JsonText.Digits (lit "0") := digits_decimal 0
    have hparts := JsonText.number?_parts negative hwhole hfraction .none
    rw [List.append_nil] at hparts
    rw [hparts]
    have hvalue := value_stripZeros (lit "0" ++ zeros) (decimal n) (-zeros.length)
    have hlit : JsonText.digitsValue (lit "0") = 0 := by decide
    have hzero : JsonText.digitsValue (lit "0" ++ zeros) = 0 := by
      rw [JsonText.digitsValue_append, hzeros, JsonText.digitsValue_zeros, hlit, zero_mul]
    rw [JsonText.digitsValue_append (lit "0" ++ zeros) (decimal n), hzero, digitsValue_decimal,
      length_decimal hlow hhigh, List.append_assoc] at hvalue
    have hexp : -(zeros.length : ℤ) - (17 : ℕ) = exponent - 16 := by
      rw [hzeros, List.length_replicate]
      omega
    have hexp' : 0 - ((zeros ++ stripZeros (decimal n)).length : ℤ) =
        -(zeros.length : ℤ) - (stripZeros (decimal n)).length := by
      rw [List.length_append]
      push_cast
      ring
    rw [hexp', hvalue, hexp]
    simp
  · rw [if_neg hneg]
    have hdrop : ∀ c ∈ stripZeros ((decimal n).drop (exponent.toNat + 1)),
        JsonText.isDigit c = true :=
      isDigit_stripZeros fun c hc => isDigit_decimal n c (List.mem_of_mem_drop hc)
    have hne : n ≠ 0 := by omega
    have hparts := JsonText.number?_parts negative (digits_take hne exponent.toNat) hdrop .none
    rw [List.append_nil] at hparts
    rw [hparts, value_stripZeros, List.take_append_drop, digitsValue_decimal, List.length_drop,
      length_decimal hlow hhigh]
    have hexp : (0 : ℤ) - ((17 - (exponent.toNat + 1) : ℕ) : ℤ) = exponent - 16 := by omega
    rw [hexp]

end Layout

/-! ### Reading back -/

/-- A printed number is its 17 digits. -/
theorem number?_setprecision17_finite {q : ℚ} (hq : Binary64.Representable q) (hne : q ≠ 0) :
    JsonText.number? (setprecision17 (.finite q hq)) = some (Binary64.printedValue q) := by
  obtain ⟨hlow, hhigh, -⟩ := Binary64.scientific_spec hne
  have hsign : (if q < 0 then lit "-" else []) =
      (if decide (q < 0) = true then [45] else [] : ByteString) := by
    simp only [decide_eq_true_eq]
    rfl
  have hfactor : Binary64.printedValue q = (if decide (q < 0) = true then -1 else 1) *
      ((Binary64.scientific q).1 * (10 : ℚ) ^ ((Binary64.scientific q).2 - 16)) := by
    simp only [Binary64.printedValue, decide_eq_true_eq]
  simp only [setprecision17, if_neg hne]
  rw [hsign, hfactor]
  by_cases hlayout : (Binary64.scientific q).2 < -4 ∨ 17 ≤ (Binary64.scientific q).2
  · rw [if_pos hlayout]
    exact number?_printScientific _ hlow hhigh _
  · rw [if_neg hlayout]
    exact number?_printFixed _ hlow hhigh (by omega)

/-- **A printed finite `double` is a JSON number, and the `double` nearest to that number is the one
printed.** -/
theorem number?_setprecision17 {d : Double} (h : d.isFinite = true) :
    ∃ x, JsonText.number? (setprecision17 d) = some x ∧ Double.ofRat x = d := by
  obtain ⟨q, hq, rfl⟩ := Double.isFinite_iff.mp h
  by_cases hzero : q = 0
  · subst hzero
    refine ⟨0, ?_, Double.ofRat_of_representable hq⟩
    simp only [setprecision17, if_true]
    decide +kernel
  · exact ⟨_, number?_setprecision17_finite hq hzero, Binary64.ofRat_printedValue hq hzero⟩

/-- **A `double` that is printed as an integer is that integer.** -/
theorem toRat_of_integer?_setprecision17 {d : Double} (h : d.isFinite = true) {n : ℤ}
    (hn : JsonText.integer? (setprecision17 d) = some n) : d.toRat = n := by
  obtain ⟨q, hq, rfl⟩ := Double.isFinite_iff.mp h
  by_cases hzero : q = 0
  · subst hzero
    have hprinted : JsonText.integer? (setprecision17 (.finite 0 hq)) = some 0 := by
      simp only [setprecision17, if_true]
      decide +kernel
    rw [hprinted] at hn
    obtain rfl := Option.some.inj hn
    simp
  · -- the scientific notation has an `e`
    have hlayout : ¬((Binary64.scientific q).2 < -4 ∨ 17 ≤ (Binary64.scientific q).2) := by
      intro hlayout
      have hmem : (101 : UInt8) ∈ setprecision17 (.finite q hq) := by
        simp only [setprecision17, if_neg hzero]
        rw [if_pos hlayout]
        simp [printScientific]
      have hdigit := JsonText.isDigit_of_integer? hn hmem (by decide)
      revert hdigit
      decide
    have hvalue := JsonText.number?_of_integer? hn
    rw [number?_setprecision17_finite hq hzero] at hvalue
    exact Binary64.eq_intCast_of_printedValue hq hzero (by omega) (Option.some.inj hvalue)

end MiniGateway
