/-
  Seventeen decimal digits determine a binary64 number.

  Two numbers of the grid are far apart in proportion to their size (`abs_le_mul_abs_sub`), so a
  number that is close enough to one of them rounds to it (`roundNearest_of_close`).  The decimal
  number with 17 significant digits that is nearest to a binary64 number (`scientific`) is close
  enough.
-/
import MiniGateway.Binary64.Nearest

namespace Binary64

/-! ### Spacing -/

/-- The distance of two numbers of the grid is at least `2^-53` of either. -/
theorem abs_le_mul_abs_sub {q r : ℚ} (hq : OnGrid q) (hr : OnGrid r) (hne : r ≠ q) :
    |q| ≤ 2 ^ 53 * |r - q| := by
  obtain ⟨m, e, hm, -, rfl⟩ := hq
  obtain ⟨n, f, hn, -, rfl⟩ := hr
  rcases le_or_gt e f with hef | hfe
  · -- both are whole numbers of units of `q`
    obtain ⟨k, hk⟩ := exists_units (m := n) hef
    rw [hk] at hne ⊢
    have hpos : (0 : ℚ) < 2 ^ e := zpow_pos two_pos _
    have hkm : k ≠ m := by
      rintro rfl
      exact hne rfl
    have hint : |m| ≤ 2 ^ 53 * |k - m| := by
      have hstep : 1 ≤ |k - m| := Int.one_le_abs (sub_ne_zero.mpr hkm)
      omega
    have hrat : |(m : ℚ)| ≤ 2 ^ 53 * |(k : ℚ) - m| := by exact_mod_cast hint
    rw [← sub_mul, abs_mul, abs_mul, abs_of_pos hpos, ← mul_assoc]
    exact mul_le_mul_of_nonneg_right hrat hpos.le
  · -- both are whole numbers of units of `r`, and that of `q` is even
    obtain ⟨d, hd⟩ := Int.eq_ofNat_of_zero_le (show 0 ≤ e - f - 1 by omega)
    have hunits : (m : ℚ) * 2 ^ e = (2 * (m * 2 ^ d) : ℤ) * 2 ^ f := by
      have he : e = d + 1 + f := by omega
      rw [he, zpow_add₀ two_ne_zero, zpow_add₀ two_ne_zero, zpow_natCast]
      push_cast
      ring
    rw [hunits] at hne ⊢
    generalize m * 2 ^ d = k at hne ⊢
    have hpos : (0 : ℚ) < 2 ^ f := zpow_pos two_pos _
    have hkn : n ≠ 2 * k := by
      rintro rfl
      exact hne rfl
    have hint : |2 * k| ≤ 2 ^ 53 * |n - 2 * k| := by
      rcases abs_cases n with ⟨h₁, _⟩ | ⟨h₁, _⟩ <;>
        rcases abs_cases (2 * k) with ⟨h₂, _⟩ | ⟨h₂, _⟩ <;>
          rcases abs_cases (n - 2 * k) with ⟨h₃, _⟩ | ⟨h₃, _⟩ <;> omega
    have hrat : |((2 * k : ℤ) : ℚ)| ≤ 2 ^ 53 * |(n : ℚ) - (2 * k : ℤ)| := by exact_mod_cast hint
    rw [← sub_mul, abs_mul, abs_mul, abs_of_pos hpos, ← mul_assoc]
    exact mul_le_mul_of_nonneg_right hrat hpos.le

/-- A number closer to one of the grid than half that distance rounds to it. -/
theorem roundNearest_of_close {q v : ℚ} (hq : OnGrid q) (h : 2 ^ 54 * |v - q| < |q|) :
    roundNearest v = q := by
  by_contra hne
  have hfar := abs_le_mul_abs_sub hq (onGrid_roundNearest v) hne
  have hnear := abs_roundNearest_sub_le v hq
  have htriangle := abs_sub_le (roundNearest v) v q
  rw [abs_sub_comm q v] at hnear
  linarith

/-- It does so without overflow. -/
theorem Double.ofRat_of_close {q v : ℚ} (hq : Representable q) (h : 2 ^ 54 * |v - q| < |q|) :
    Double.ofRat v = .finite q hq := by
  have hbound : |v| < overflowThreshold := by
    obtain ⟨m, e, hm, -, he, heq⟩ := hq
    have hm' : |(m : ℚ)| ≤ 2 ^ 53 - 1 := by
      have hle : |m| ≤ 2 ^ 53 - 1 := by omega
      exact_mod_cast hle
    have hpow : (2 : ℚ) ^ e ≤ 2 * 2 ^ (970 : ℤ) := by
      rw [← two_zpow_971]
      exact zpow_le_zpow_right₀ (by norm_num) he
    have hpos : (0 : ℚ) < 2 ^ (970 : ℤ) := zpow_pos two_pos _
    have hq' : |q| ≤ (2 ^ 53 - 1) * (2 * 2 ^ (970 : ℤ)) := by
      rw [heq, abs_mul, abs_of_pos (zpow_pos (two_pos : (0 : ℚ) < 2) e)]
      exact mul_le_mul hm' hpow (zpow_nonneg (by norm_num) _) (by norm_num)
    have htriangle := abs_sub_abs_le_abs_sub v q
    unfold overflowThreshold
    generalize (2 : ℚ) ^ (970 : ℤ) = step at hpos hq' ⊢
    linarith
  simp only [Double.ofRat, dif_pos hbound, roundNearest_of_close hq.onGrid h]

/-! ### Seventeen digits -/

/-- The decimal number with 17 significant digits nearest to `q`, ties to even: its digits as one
number, and the exponent of the first of them. -/
def scientific (q : ℚ) : ℕ × ℤ :=
  let exponent := Int.log 10 |q|
  let digits := (roundInt (|q| / 10 ^ (exponent - 16))).toNat
  if digits = 10 ^ 17 then (10 ^ 16, exponent + 1) else (digits, exponent)

/-- In units of its 17th digit a number has 17 digits before the point. -/
theorem units_bounds {q : ℚ} (hq : q ≠ 0) :
    10 ^ 16 ≤ |q| / 10 ^ (Int.log 10 |q| - 16) ∧
      |q| / 10 ^ (Int.log 10 |q| - 16) < (10 : ℚ) ^ 17 := by
  have hqpos : 0 < |q| := abs_pos.mpr hq
  set exponent := Int.log 10 |q|
  have hlow : (10 : ℚ) ^ exponent ≤ |q| := by
    exact_mod_cast Int.zpow_log_le_self (b := 10) (by norm_num) hqpos
  have hhigh : |q| < (10 : ℚ) ^ (exponent + 1) := by
    exact_mod_cast Int.lt_zpow_succ_log_self (b := 10) (by norm_num) |q|
  have hunit : (0 : ℚ) < 10 ^ (exponent - 16) := zpow_pos (by norm_num) _
  have hfirst : (10 : ℚ) ^ exponent = 10 ^ 16 * 10 ^ (exponent - 16) := by
    rw [zpow_sub₀ (by norm_num)]
    field_simp
  have hnext : (10 : ℚ) ^ (exponent + 1) = 10 ^ 17 * 10 ^ (exponent - 16) := by
    rw [zpow_add_one₀ (by norm_num), hfirst]
    ring
  rw [le_div_iff₀ hunit, div_lt_iff₀ hunit, ← hfirst, ← hnext]
  exact ⟨hlow, hhigh⟩

/-- There are 17 digits, and they are off by at most half a unit of the last. -/
theorem scientific_spec {q : ℚ} (hq : q ≠ 0) :
    10 ^ 16 ≤ (scientific q).1 ∧ (scientific q).1 < 10 ^ 17 ∧
      |(scientific q).1 * (10 : ℚ) ^ ((scientific q).2 - 16) - (|q|)| ≤
        1 / 2 * 10 ^ ((scientific q).2 - 16) := by
  obtain ⟨hlow, hhigh⟩ := units_bounds hq
  set exponent := Int.log 10 |q| with hexponent
  have hunit : (0 : ℚ) < 10 ^ (exponent - 16) := zpow_pos (by norm_num) _
  set x := |q| / 10 ^ (exponent - 16) with hx
  have hxq : x * 10 ^ (exponent - 16) = |q| := div_mul_cancel₀ _ hunit.ne'
  have hround : 10 ^ 16 ≤ roundInt x := le_roundInt (by exact_mod_cast hlow)
  have hround' : roundInt x ≤ 10 ^ 17 := by
    refine (abs_le.mp (abs_roundInt_le ?_)).2
    rw [abs_of_nonneg (by positivity)]
    push_cast
    linarith
  obtain ⟨n, hn⟩ := Int.eq_ofNat_of_zero_le (show 0 ≤ roundInt x by omega)
  have hhalf : |(n : ℚ) * 10 ^ (exponent - 16) - (|q|)| ≤ 1 / 2 * 10 ^ (exponent - 16) := by
    have hscale : (n : ℚ) * 10 ^ (exponent - 16) - (|q|) =
        ((roundInt x : ℚ) - x) * 10 ^ (exponent - 16) := by
      rw [sub_mul, hxq, hn]
      rfl
    rw [hscale, abs_mul, abs_of_pos hunit]
    exact mul_le_mul_of_nonneg_right (abs_roundInt_sub_le x) hunit.le
  have hscientific : scientific q =
      if n = 10 ^ 17 then (10 ^ 16, exponent + 1) else (n, exponent) := by
    unfold scientific
    simp only [← hexponent, ← hx, hn, Int.toNat_natCast]
  rw [hscientific]
  split_ifs with hcarry
  · -- an eighteenth digit: one digit less, and a unit ten times as large
    refine ⟨le_rfl, by norm_num, ?_⟩
    have hstep : (10 : ℚ) ^ (exponent + 1 - 16) = 10 ^ (exponent - 16) * 10 := by
      rw [show exponent + 1 - 16 = exponent - 16 + 1 by ring, zpow_add_one₀ (by norm_num)]
    have hvalue : ((10 ^ 16 : ℕ) : ℚ) * 10 ^ (exponent + 1 - 16) =
        (n : ℚ) * 10 ^ (exponent - 16) := by
      rw [hcarry, hstep]
      push_cast
      ring
    rw [hvalue, hstep]
    linarith
  · refine ⟨by omega, ?_, hhalf⟩
    have hne : n ≠ 10 ^ 17 := hcarry
    dsimp only
    omega

/-- A number with the sign of `q` is as far from `q` as the two are without their signs. -/
theorem abs_signed_sub (q v : ℚ) : |(if q < 0 then -1 else 1) * v - q| = |v - (|q|)| := by
  split_ifs with hneg
  · rw [abs_of_neg hneg, ← abs_neg]
    congr 1
    ring
  · rw [abs_of_nonneg (not_lt.mp hneg), one_mul]

/-- The 17 digits with their sign. -/
def printedValue (q : ℚ) : ℚ :=
  (if q < 0 then -1 else 1) * ((scientific q).1 * (10 : ℚ) ^ ((scientific q).2 - 16))

/-- They are closer to `q` than the next binary64 number. -/
theorem printedValue_close {q : ℚ} (hq : q ≠ 0) : 2 ^ 54 * |printedValue q - q| < |q| := by
  obtain ⟨hlow, -, hhalf⟩ := scientific_spec hq
  have hunit : (0 : ℚ) < 10 ^ ((scientific q).2 - 16) := zpow_pos (by norm_num) _
  have hlow' : ((10 ^ 16 : ℕ) : ℚ) ≤ (scientific q).1 := by exact_mod_cast hlow
  -- `q` is at least `10^16` units, but for the error of half a unit
  have hsize := mul_le_mul_of_nonneg_right hlow' hunit.le
  have hbelow := (abs_le.mp hhalf).2
  rw [printedValue, abs_signed_sub]
  push_cast at hsize
  linarith

/-- **The 17 digits of a binary64 number, read as a number and rounded, are that number.** -/
theorem ofRat_printedValue {q : ℚ} (hq : Representable q) (hne : q ≠ 0) :
    Double.ofRat (printedValue q) = .finite q hq :=
  Double.ofRat_of_close hq (printedValue_close hne)

/-- A binary64 number is an integer, or below `2^52`. -/
theorem Representable.intCast_or_lt {q : ℚ} (h : Representable q) :
    (∃ k : ℤ, q = k) ∨ |q| < 2 ^ 52 := by
  obtain ⟨m, e, hm, -, -, rfl⟩ := h
  rcases le_or_gt 0 e with he | he
  · obtain ⟨k, hk⟩ := Int.eq_ofNat_of_zero_le he
    refine .inl ⟨m * 2 ^ k, ?_⟩
    rw [hk]
    push_cast
    rfl
  · right
    have hpow : (2 : ℚ) ^ e ≤ 2 ^ (-1 : ℤ) := zpow_le_zpow_right₀ (by norm_num) (by omega)
    have hm' : |(m : ℚ)| < 2 ^ 53 := by exact_mod_cast hm
    rw [abs_mul, abs_of_pos (zpow_pos (two_pos : (0 : ℚ) < 2) e)]
    calc |(m : ℚ)| * 2 ^ e ≤ |(m : ℚ)| * 2 ^ (-1 : ℤ) :=
          mul_le_mul_of_nonneg_left hpow (abs_nonneg _)
      _ < 2 ^ 53 * 2 ^ (-1 : ℤ) := mul_lt_mul_of_pos_right hm' (by norm_num)
      _ = 2 ^ 52 := by norm_num

/-- **Seventeen digits that reach down to the units and are an integer are exact.** -/
theorem eq_intCast_of_printedValue {q : ℚ} (hq : Representable q) (hne : q ≠ 0)
    (hexponent : (scientific q).2 ≤ 16) {n : ℤ} (hn : printedValue q = n) : q = n := by
  have hunit : (10 : ℚ) ^ ((scientific q).2 - 16) ≤ 1 :=
    zpow_le_one_of_nonpos₀ (by norm_num) (by omega)
  have hclose := printedValue_close hne
  have hhalf : |(n : ℚ) - q| ≤ 1 / 2 := by
    rw [← hn, printedValue, abs_signed_sub]
    exact (scientific_spec hne).2.2.trans (by linarith)
  rcases hq.intCast_or_lt with ⟨k, rfl⟩ | hsmall
  · -- two integers less than one apart
    have hint : |n - k| < 1 := by
      have hrat : |(n : ℚ) - k| < 1 := hhalf.trans_lt (by norm_num)
      exact_mod_cast hrat
    rw [show n = k by linarith [Int.abs_lt_one_iff.mp hint]]
  · -- the integer is a binary64 number too
    by_contra hdiff
    have hgrid : |n| ≤ 2 ^ 53 := by
      have htriangle := abs_sub_abs_le_abs_sub (n : ℚ) q
      have hrat : |(n : ℚ)| ≤ 2 ^ 53 := by linarith
      exact_mod_cast hrat
    have hfar := abs_le_mul_abs_sub hq.onGrid (onGrid_intCast hgrid) (Ne.symm hdiff)
    rw [hn] at hclose
    linarith [abs_nonneg ((n : ℚ) - q)]

end Binary64
