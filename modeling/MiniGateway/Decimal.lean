/-
  The texts that `std::to_string` gives for unsigned numbers: digits and nothing else, no leading
  zero, and read as a number they give the number back.
-/
import MiniGateway.JsonText.Reads
import MiniGateway.Model

namespace MiniGateway

/-- A decimal digit as a byte. -/
theorem digit_byte {c : Char} (h : c.isDigit = true) :
    48 ≤ c.toNat ∧ c.toNat ≤ 57 ∧ (UInt8.ofNat c.toNat).toNat = c.toNat := by
  have hrange : 48 ≤ c.val ∧ c.val ≤ 57 := by simpa [Char.isDigit] using h
  have hlow : 48 ≤ c.toNat := UInt32.le_iff_toNat_le.mp hrange.1
  have hhigh : c.toNat ≤ 57 := UInt32.le_iff_toNat_le.mp hrange.2
  refine ⟨hlow, hhigh, ?_⟩
  rw [UInt8.toNat_ofNat', Nat.mod_eq_of_lt (by omega)]

theorem isDigit_of_mem_toDigits {n : ℕ} {c : Char} (h : c ∈ Nat.toDigits 10 n) :
    c.isDigit = true :=
  Nat.isDigit_of_mem_toDigits (by decide) (by decide) h

/-- No leading zero, except in zero itself. -/
theorem head_toDigits {n : ℕ} (hn : 0 < n) : (Nat.toDigits 10 n).head? ≠ some '0' := by
  induction n using Nat.strong_induction_on with
  | _ n ih =>
    rw [Nat.toDigits_eq_if (by decide)]
    split_ifs with hlt
    · have hdigits : ∀ m < 10, 0 < m → Nat.digitChar m ≠ '0' := by decide
      simpa using hdigits n hlt hn
    · rw [List.head?_append_of_ne_nil _ Nat.toDigits_ne_nil]
      exact ih (n / 10) (by omega) (by omega)

theorem digits_decimal (n : ℕ) : JsonText.Digits (decimal n) := by
  refine ⟨?_, ?_, ?_⟩
  · intro b hb
    obtain ⟨c, hc, rfl⟩ := List.mem_map.mp hb
    obtain ⟨hlow, hhigh, hbyte⟩ := digit_byte (isDigit_of_mem_toDigits hc)
    simp only [JsonText.isDigit, Bool.and_eq_true, decide_eq_true_eq, UInt8.le_iff_toNat_le, hbyte]
    exact ⟨hlow, hhigh⟩
  · simp [decimal]
  · intro hhead
    rcases Nat.eq_zero_or_pos n with rfl | hn
    · decide
    · -- the first digit would be a zero
      exfalso
      unfold decimal at hhead
      rw [List.head?_map] at hhead
      obtain ⟨c, hc, hbyte⟩ := Option.map_eq_some_iff.mp hhead
      have hmem : c ∈ Nat.toDigits 10 n := List.mem_of_head? hc
      have hvalue := (digit_byte (isDigit_of_mem_toDigits hmem)).2.2
      rw [hbyte] at hvalue
      have hzero : c = '0' := Char.toNat_inj.mp hvalue.symm
      exact head_toDigits hn (hzero ▸ hc)

theorem digitsValue_decimal (n : ℕ) : JsonText.digitsValue (decimal n) = n := by
  have hfold : ∀ (cs : List Char) (init : ℕ), (∀ c ∈ cs, c.isDigit = true) →
      (cs.map fun c => UInt8.ofNat c.toNat).foldl (fun value c => 10 * value + (c.toNat - 48)) init =
        Nat.ofDigitChars 10 cs init := by
    intro cs
    induction cs with
    | nil => exact fun init _ => rfl
    | cons c cs ih =>
      intro init hall
      have hbyte := (digit_byte (hall c (List.mem_cons_self ..))).2.2
      rw [List.map_cons, List.foldl_cons, hbyte, Nat.ofDigitChars_cons,
        ih _ fun d hd => hall d (List.mem_cons_of_mem _ hd)]
      rfl
  unfold JsonText.digitsValue decimal
  rw [hfold _ _ fun c hc => isDigit_of_mem_toDigits hc]
  exact Nat.ofDigitChars_ten_toDigits

end MiniGateway
