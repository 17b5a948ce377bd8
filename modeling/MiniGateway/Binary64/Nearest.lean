/-
  Rounding to nearest, by what it means.

  `OnGrid` are the numbers with a significand of at most 53 bits and no step below `2^-1074`: what
  binary64 would hold if exponents had no upper end.  `roundNearest q` is on the grid and no number
  of the grid is closer to `q` (`abs_roundNearest_sub_le`).  That rounding keeps the numbers of the
  grid and is monotone follows from this alone, and so does the set of numbers that round to a
  given one, once its two neighbours are known.
-/
import MiniGateway.Binary64.Arithmetic

namespace Binary64

/-! ### Integers -/

/-- No integer is closer. -/
theorem abs_roundInt_sub_le_abs (x : ℚ) (k : ℤ) : |roundInt x - x| ≤ |k - x| := by
  have hhalf := abs_roundInt_sub_le x
  by_cases heq : k = roundInt x
  · rw [heq]
  · -- another integer is at least one away from the rounded one
    have hone : (1 : ℚ) ≤ |(k : ℚ) - roundInt x| := by
      have hne : k - roundInt x ≠ 0 := sub_ne_zero.mpr heq
      exact_mod_cast Int.one_le_abs hne
    have htriangle : |(k : ℚ) - roundInt x| ≤ |k - x| + |roundInt x - x| := by
      have h := abs_sub_le (k : ℚ) x (roundInt x)
      rwa [abs_sub_comm x] at h
    linarith

/-! ### The grid -/

/-- A significand of at most 53 bits, or its carry, times a power of two from `2^-1074` on. -/
def OnGrid (r : ℚ) : Prop := ∃ m e : ℤ, |m| ≤ 2 ^ 53 ∧ -1074 ≤ e ∧ r = m * (2 : ℚ) ^ e

theorem Representable.onGrid {r : ℚ} (h : Representable r) : OnGrid r := by
  obtain ⟨m, e, hm, he, -, heq⟩ := h
  exact ⟨m, e, hm.le, he, heq⟩

theorem onGrid_roundNearest (q : ℚ) : OnGrid (roundNearest q) := by
  refine ⟨_, _, abs_roundInt_le ?_, le_max_right _ _, rfl⟩
  have hlt := abs_div_ulp_lt q
  push_cast
  linarith

/-- With an exponent that is at least that of the unit in the last place of `q`, a number of the
grid is a whole number of units. -/
theorem exists_units {m e u : ℤ} (h : u ≤ e) : ∃ k : ℤ, (m : ℚ) * 2 ^ e = k * 2 ^ u := by
  obtain ⟨d, hd⟩ := Int.eq_ofNat_of_zero_le (sub_nonneg.mpr h)
  refine ⟨m * 2 ^ d, ?_⟩
  have he : e = d + u := by omega
  rw [he, zpow_add₀ two_ne_zero, zpow_natCast]
  push_cast
  ring

/-- With a smaller exponent it is smaller than the binade of `q` begins. -/
theorem abs_le_binade {q : ℚ} (hq : q ≠ 0) {m e : ℤ} (hm : |m| ≤ 2 ^ 53) (he : -1074 ≤ e)
    (h : e < ulpExponent q) :
    |(m : ℚ) * 2 ^ e| ≤ 2 ^ 52 * 2 ^ ulpExponent q ∧ 2 ^ 52 * 2 ^ ulpExponent q ≤ |q| := by
  have hulp : ulpExponent q = Int.log 2 |q| - 52 := by
    unfold ulpExponent at h ⊢
    omega
  constructor
  · have hm' : |(m : ℚ)| ≤ 2 ^ 53 := by exact_mod_cast hm
    rw [abs_mul, abs_of_pos (zpow_pos (two_pos : (0 : ℚ) < 2) e)]
    calc |(m : ℚ)| * 2 ^ e ≤ 2 ^ 53 * 2 ^ (ulpExponent q - 1) :=
          mul_le_mul hm' (zpow_le_zpow_right₀ (by norm_num) (by omega))
            (zpow_nonneg (by norm_num) _) (by norm_num)
      _ = 2 ^ 52 * 2 ^ ulpExponent q := by
          rw [zpow_sub_one₀ two_ne_zero]
          ring
  · calc (2 : ℚ) ^ 52 * 2 ^ ulpExponent q = 2 ^ Int.log 2 |q| := by
          rw [hulp, zpow_sub₀ two_ne_zero]
          norm_num
          ring
      _ ≤ |q| := by exact_mod_cast Int.zpow_log_le_self (b := 2) (by norm_num) (abs_pos.mpr hq)

/-- **No number of the grid is closer** to `q` than the rounded one. -/
theorem abs_roundNearest_sub_le (q : ℚ) {r : ℚ} (hr : OnGrid r) :
    |roundNearest q - q| ≤ |r - q| := by
  have hpos : (0 : ℚ) < 2 ^ ulpExponent q := zpow_pos two_pos _
  -- whole numbers of units are no closer
  have hunits : ∀ k : ℤ, |roundNearest q - q| ≤ |k * 2 ^ ulpExponent q - q| := by
    intro k
    have hscale : ∀ y : ℚ, |y * 2 ^ ulpExponent q - q| =
        |y - q / 2 ^ ulpExponent q| * 2 ^ ulpExponent q := by
      intro y
      rw [← abs_of_pos hpos, ← abs_mul, abs_of_pos hpos, sub_mul, div_mul_cancel₀ _ hpos.ne']
    rw [roundNearest, hscale, hscale]
    exact mul_le_mul_of_nonneg_right (abs_roundInt_sub_le_abs _ k) hpos.le
  obtain ⟨m, e, hm, he, rfl⟩ := hr
  by_cases hexp : ulpExponent q ≤ e
  · obtain ⟨k, hk⟩ := exists_units (m := m) hexp
    rw [hk]
    exact hunits k
  by_cases hzero : q = 0
  · subst hzero
    have hrounded := hunits 0
    simp only [Int.cast_zero, zero_mul, sub_zero, abs_zero] at hrounded ⊢
    exact hrounded.trans (abs_nonneg _)
  · -- the first number of the binade of `q` lies between
    obtain ⟨hlow, hhigh⟩ := abs_le_binade hzero hm he (by omega)
    have hr := abs_le.mp hlow
    rcases le_total 0 q with hq | hq
    · refine (hunits (2 ^ 52)).trans ?_
      rw [abs_of_nonneg hq] at hhigh
      push_cast
      rw [abs_of_nonpos (by linarith), abs_of_nonpos (by linarith)]
      linarith
    · refine (hunits (-2 ^ 52)).trans ?_
      rw [abs_of_nonpos hq] at hhigh
      push_cast
      rw [abs_of_nonneg (by linarith), abs_of_nonneg (by linarith)]
      linarith

/-! ### What follows -/

theorem roundNearest_of_onGrid {q : ℚ} (h : OnGrid q) : roundNearest q = q := by
  have hle := abs_roundNearest_sub_le q h
  rw [sub_self, abs_zero] at hle
  exact sub_eq_zero.mp (abs_eq_zero.mp (le_antisymm hle (abs_nonneg _)))

/-- **Rounding is monotone.** -/
theorem roundNearest_mono {q q' : ℚ} (h : q ≤ q') : roundNearest q ≤ roundNearest q' := by
  by_contra hlt
  rw [not_le] at hlt
  -- each of the two is at least as close to its own number, so both numbers are in the middle
  have hq := abs_roundNearest_sub_le q (onGrid_roundNearest q')
  have hq' := abs_roundNearest_sub_le q' (onGrid_roundNearest q)
  have hmiddle : q = q' := by
    have hbelow : roundNearest q + roundNearest q' ≤ 2 * q := by
      rcases abs_cases (roundNearest q - q) with ⟨h₁, _⟩ | ⟨h₁, _⟩ <;>
        rcases abs_cases (roundNearest q' - q) with ⟨h₂, _⟩ | ⟨h₂, _⟩ <;> linarith
    have habove : 2 * q' ≤ roundNearest q + roundNearest q' := by
      rcases abs_cases (roundNearest q - q') with ⟨h₁, _⟩ | ⟨h₁, _⟩ <;>
        rcases abs_cases (roundNearest q' - q') with ⟨h₂, _⟩ | ⟨h₂, _⟩ <;> linarith
    linarith
  rw [hmiddle] at hlt
  exact lt_irrefl _ hlt

theorem roundNearest_le {q r : ℚ} (hr : OnGrid r) (h : q ≤ r) : roundNearest q ≤ r :=
  roundNearest_of_onGrid hr ▸ roundNearest_mono h

theorem le_roundNearest {q r : ℚ} (hr : OnGrid r) (h : r ≤ q) : r ≤ roundNearest q :=
  roundNearest_of_onGrid hr ▸ roundNearest_mono h

/-- Below the middle between two numbers of the grid rounding stays below the upper one. -/
theorem roundNearest_lt {q r s : ℚ} (hr : OnGrid r) (hrs : r < s) (h : 2 * q < r + s) :
    roundNearest q < s := by
  rcases le_total q r with hqr | hqr
  · exact (roundNearest_le hr hqr).trans_lt hrs
  · have hclose := (abs_sub_le_iff.mp (le_refl |roundNearest q - q|)).1.trans
      (abs_roundNearest_sub_le q hr)
    rw [abs_of_nonpos (by linarith)] at hclose
    linarith

/-- Above the middle it stays above the lower one. -/
theorem lt_roundNearest {q r s : ℚ} (hs : OnGrid s) (hrs : r < s) (h : r + s < 2 * q) :
    r < roundNearest q := by
  rcases le_total s q with hqs | hqs
  · exact hrs.trans_le (le_roundNearest hs hqs)
  · have hclose := (abs_sub_le_iff.mp (le_refl |roundNearest q - q|)).2.trans
      (abs_roundNearest_sub_le q hs)
    rw [abs_of_nonneg (by linarith)] at hclose
    linarith

/-- An integer of at most `2^53` is on the grid. -/
theorem onGrid_intCast {n : ℤ} (h : |n| ≤ 2 ^ 53) : OnGrid n :=
  ⟨n, 0, h, by norm_num, by norm_num⟩

/-- An integer rounds to an integer. -/
theorem roundNearest_intCast (n : ℤ) : ∃ k : ℤ, roundNearest n = k := by
  by_cases h : |n| ≤ 2 ^ 53
  · exact ⟨n, roundNearest_of_onGrid (onGrid_intCast h)⟩
  · -- the unit in the last place is a whole number
    have hlarge : ((2 : ℕ) : ℚ) ^ (53 : ℤ) ≤ |(n : ℚ)| := by
      have hcast : ((2 ^ 53 : ℤ) : ℚ) ≤ (|n| : ℤ) := by exact_mod_cast (not_le.mp h).le
      push_cast at hcast
      exact hcast
    have hpos : (0 : ℚ) < |(n : ℚ)| := lt_of_lt_of_le (by positivity) hlarge
    have hlog : 53 ≤ Int.log 2 |(n : ℚ)| :=
      (Int.zpow_le_iff_le_log (b := 2) (by norm_num) hpos).mp hlarge
    have hulp : 0 ≤ ulpExponent n := by
      unfold ulpExponent
      omega
    obtain ⟨k, hk⟩ := exists_units (m := roundInt (n / 2 ^ ulpExponent n)) hulp
    exact ⟨k, by rw [roundNearest, hk]; simp⟩

namespace Double

/-- A number that binary64 represents converts to itself. -/
theorem ofRat_of_representable {q : ℚ} (h : Representable q) : ofRat q = finite q h := by
  have hround := roundNearest_of_onGrid h.onGrid
  simp only [ofRat, dif_pos h.abs_lt, hround]

theorem roundAway_intCast (k : ℤ) : roundAway k = k := by
  unfold roundAway
  split_ifs
  · rw [Int.floor_eq_iff]
    constructor <;> linarith
  · rw [Int.ceil_eq_iff]
    constructor <;> linarith

/-- `llround` gives a nearest integer. -/
theorem abs_roundAway_sub_le (q : ℚ) : |roundAway q - q| ≤ 1 / 2 := by
  unfold roundAway
  split_ifs
  · have hlow := Int.floor_le (q + 1 / 2)
    have hhigh := Int.lt_floor_add_one (q + 1 / 2)
    rw [abs_le]
    constructor <;> linarith
  · have hlow := Int.le_ceil (q - 1 / 2)
    have hhigh := Int.ceil_lt_add_one (q - 1 / 2)
    rw [abs_le]
    constructor <;> linarith

/-- Rounding to an integer is monotone towards integers. -/
theorem roundAway_le {q : ℚ} {k : ℤ} (h : q < k + 1 / 2) : roundAway q ≤ k := by
  have hclose := abs_le.mp (abs_roundAway_sub_le q)
  have hlt : (roundAway q : ℚ) < k + 1 := by linarith
  have : roundAway q < k + 1 := by exact_mod_cast hlt
  omega

theorem le_roundAway {q : ℚ} {k : ℤ} (h : k - 1 / 2 < q) : k ≤ roundAway q := by
  have hclose := abs_le.mp (abs_roundAway_sub_le q)
  have hlt : (k : ℚ) - 1 < roundAway q := by linarith
  have : k - 1 < roundAway q := by exact_mod_cast hlt
  omega

end Double

end Binary64
