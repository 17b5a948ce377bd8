/-
  IEEE 754 binary64 numbers as exact values.

  A `Double` is a rational number that binary64 represents, one of the two infinities or NaN; the
  proof that a finite value is representable is a field, so a value with too many bits or too
  large an exponent cannot be built.  The two zeros are one value here.

  Every operation computes the exact rational result and rounds it once, to nearest with ties to
  even (`roundNearest`); `ofRat` turns what reaches `overflowThreshold` into an infinity.  The
  lemmas say when a result is finite: `isFinite_ofRat` for a rounded one, and for each operation
  that an operand which is not finite never gives a finite result.
-/
import Mathlib.Algebra.Order.Field.Rat
import Mathlib.Algebra.Order.Field.Power
import Mathlib.Data.Int.Log
import Mathlib.Data.Rat.Floor
import Mathlib.Data.Nat.Sqrt
import Mathlib.Tactic.NormNum
import Mathlib.Tactic.Linarith
import Mathlib.Tactic.Positivity
import Mathlib.Tactic.Ring

namespace Binary64

/-! ### The values -/

/-- The rationals that binary64 represents: a significand of at most 53 bits times a power of two
between the subnormal step `2^-1074` and `2^971`. -/
def Representable (q : ℚ) : Prop :=
  ∃ m e : ℤ, |m| < 2 ^ 53 ∧ -1074 ≤ e ∧ e ≤ 971 ∧ q = m * (2 : ℚ) ^ e

theorem representable_zero : Representable 0 :=
  ⟨0, 0, by norm_num, by norm_num, by norm_num, by norm_num⟩

/-- A significand of `2^53` is one of `2^52` with the next exponent. -/
theorem representable_of_abs_le {m e : ℤ} (hm : |m| ≤ 2 ^ 53) (he : -1074 ≤ e) (he' : e < 971) :
    Representable (m * (2 : ℚ) ^ e) := by
  rcases hm.lt_or_eq with hlt | heq
  · exact ⟨m, e, hlt, he, he'.le, rfl⟩
  · have hstep : (2 : ℚ) ^ (e + 1) = 2 ^ e * 2 := zpow_add_one₀ two_ne_zero e
    rcases abs_choice m with h | h <;> rw [h] at heq
    · refine ⟨2 ^ 52, e + 1, by norm_num, by omega, by omega, ?_⟩
      rw [heq, hstep]
      push_cast
      ring
    · refine ⟨-2 ^ 52, e + 1, by norm_num, by omega, by omega, ?_⟩
      rw [show m = -2 ^ 53 by omega, hstep]
      push_cast
      ring

/-- From here on a number rounds beyond the largest finite value `2^1024 - 2^971`: the threshold is
`2^1024 - 2^970`. -/
def overflowThreshold : ℚ := (2 ^ 54 - 1) * 2 ^ (970 : ℤ)

theorem two_zpow_971 : (2 : ℚ) ^ (971 : ℤ) = 2 * 2 ^ (970 : ℤ) := by
  rw [show (971 : ℤ) = 970 + 1 by norm_num, zpow_add_one₀ two_ne_zero, mul_comm]

theorem Representable.abs_lt {q : ℚ} (h : Representable q) : |q| < overflowThreshold := by
  obtain ⟨m, e, hm, -, he, rfl⟩ := h
  have hm' : |(m : ℚ)| ≤ 2 ^ 53 - 1 := by
    have : |m| ≤ 2 ^ 53 - 1 := by omega
    exact_mod_cast this
  have hpow : (2 : ℚ) ^ e ≤ 2 ^ (971 : ℤ) := zpow_le_zpow_right₀ (by norm_num) he
  have hpos : (0 : ℚ) < 2 ^ (970 : ℤ) := zpow_pos two_pos _
  rw [abs_mul, abs_of_pos (zpow_pos (two_pos : (0 : ℚ) < 2) e)]
  calc |(m : ℚ)| * 2 ^ e ≤ (2 ^ 53 - 1) * 2 ^ (971 : ℤ) :=
        mul_le_mul hm' hpow (zpow_nonneg (by norm_num) _) (by norm_num)
    _ = (2 ^ 54 - 2) * 2 ^ (970 : ℤ) := by rw [two_zpow_971]; ring
    _ < overflowThreshold := by
        unfold overflowThreshold
        exact mul_lt_mul_of_pos_right (by norm_num) hpos

/-- A binary64 number. -/
inductive Double
  | finite (q : ℚ) (h : Representable q)
  | infinity (negative : Bool)
  | nan
  deriving DecidableEq

/-! ### Rounding -/

/-- The integer nearest to a number between `floor` and `floor + 1`; `half` compares what is beyond
`floor` with one half.  Ties go to the even neighbour. -/
def tiesToEven (floor : ℤ) (half : Ordering) : ℤ :=
  match half with
  | .lt => floor
  | .eq => if floor % 2 = 0 then floor else floor + 1
  | .gt => floor + 1

/-- The integer nearest to a rational. -/
def roundInt (x : ℚ) : ℤ := tiesToEven ⌊x⌋ (compare (x - ⌊x⌋) (1 / 2))

/-- The exponent of the unit in the last place: 53 significant bits, but no step below
`2^-1074`. -/
def ulpExponent (q : ℚ) : ℤ := max (Int.log 2 |q| - 52) (-1074)

/-- `q` rounded to a multiple of its unit in the last place. -/
def roundNearest (q : ℚ) : ℚ := roundInt (q / 2 ^ ulpExponent q) * (2 : ℚ) ^ ulpExponent q

theorem le_tiesToEven (floor : ℤ) (half : Ordering) : floor ≤ tiesToEven floor half := by
  unfold tiesToEven
  split
  · exact le_rfl
  · split_ifs <;> omega
  · omega

theorem abs_roundInt_sub_le (x : ℚ) : |roundInt x - x| ≤ 1 / 2 := by
  have hlow := Int.floor_le x
  have hhigh := Int.lt_floor_add_one x
  unfold roundInt tiesToEven
  split
  · rename_i h
    have := compare_lt_iff_lt.mp h
    rw [abs_le]
    constructor <;> linarith
  · rename_i h
    have := compare_eq_iff_eq.mp h
    rw [abs_le]
    split_ifs <;> constructor <;> push_cast <;> linarith
  · rename_i h
    have := compare_gt_iff_gt.mp h
    rw [abs_le]
    push_cast
    constructor <;> linarith

/-- An integer below `x` is below the integer nearest to `x`. -/
theorem le_roundInt {k : ℤ} {x : ℚ} (h : k ≤ x) : k ≤ roundInt x :=
  (Int.le_floor.mpr h).trans (le_tiesToEven _ _)

theorem abs_div_ulp_lt (q : ℚ) : |q / 2 ^ ulpExponent q| < 2 ^ 53 := by
  have hpos : (0 : ℚ) < 2 ^ ulpExponent q := zpow_pos two_pos _
  have hlog : |q| < (2 : ℚ) ^ (Int.log 2 |q| + 1) := by
    exact_mod_cast Int.lt_zpow_succ_log_self (b := 2) (by norm_num) |q|
  rw [abs_div, abs_of_pos hpos, div_lt_iff₀ hpos]
  calc |q| < 2 ^ (Int.log 2 |q| + 1) := hlog
    _ ≤ (2 : ℚ) ^ (53 + ulpExponent q) :=
      zpow_le_zpow_right₀ (by norm_num) (by unfold ulpExponent; omega)
    _ = 2 ^ 53 * 2 ^ ulpExponent q := by rw [zpow_add₀ (by norm_num)]; norm_num

/-- What is at most `2^53` up to less than one half rounds to at most `2^53`. -/
theorem abs_roundInt_le {x : ℚ} {n : ℤ} (h : |x| < n + 1 / 2) : |roundInt x| ≤ n := by
  have hround := abs_roundInt_sub_le x
  have hlt : |(roundInt x : ℚ)| < n + 1 := by
    calc |(roundInt x : ℚ)| = |(roundInt x - x) + x| := by ring_nf
      _ ≤ |roundInt x - x| + |x| := abs_add_le _ _
      _ < n + 1 := by linarith
  have : |roundInt x| < n + 1 := by exact_mod_cast hlt
  omega

theorem ulpExponent_le {q : ℚ} (h : |q| < overflowThreshold) : ulpExponent q ≤ 971 := by
  unfold ulpExponent
  rcases eq_or_ne q 0 with rfl | hq
  · simp [Int.log_zero_right]
  · have hlt : |q| < ((2 : ℕ) : ℚ) ^ (1024 : ℤ) := by
      refine h.trans ?_
      have hpos : (0 : ℚ) < 2 ^ (970 : ℤ) := zpow_pos two_pos _
      calc overflowThreshold < 2 ^ 54 * 2 ^ (970 : ℤ) :=
            mul_lt_mul_of_pos_right (by norm_num) hpos
        _ = ((2 : ℕ) : ℚ) ^ (1024 : ℤ) := by
            rw [show (1024 : ℤ) = 54 + 970 by norm_num, Nat.cast_ofNat,
              zpow_add₀ two_ne_zero]
            norm_num
    have := (Int.lt_zpow_iff_log_lt (b := 2) (by norm_num) (abs_pos.mpr hq)).mp hlt
    omega

/-- Below the threshold rounding gives a binary64 value. -/
theorem representable_roundNearest {q : ℚ} (h : |q| < overflowThreshold) :
    Representable (roundNearest q) := by
  have hlow : -1074 ≤ ulpExponent q := le_max_right _ _
  rcases (ulpExponent_le h).lt_or_eq with hlt | heq
  · refine representable_of_abs_le (abs_roundInt_le ?_) hlow hlt
    have := abs_div_ulp_lt q
    push_cast
    linarith
  · -- in the last binade the threshold itself is the middle beyond the largest value
    have hbound : |q / 2 ^ ulpExponent q| < 2 ^ 53 - 1 / 2 := by
      have hpos : (0 : ℚ) < 2 ^ (971 : ℤ) := zpow_pos two_pos _
      rw [heq, abs_div, abs_of_pos hpos, div_lt_iff₀ hpos]
      refine h.trans_le (le_of_eq ?_)
      rw [overflowThreshold, two_zpow_971]
      ring
    have hm : |roundInt (q / 2 ^ ulpExponent q)| ≤ 2 ^ 53 - 1 := by
      refine abs_roundInt_le ?_
      push_cast
      linarith
    exact ⟨_, _, by omega, hlow, heq.le, rfl⟩

theorem roundNearest_nonneg {q : ℚ} (h : 0 ≤ q) : 0 ≤ roundNearest q := by
  have hpos : (0 : ℚ) < 2 ^ ulpExponent q := zpow_pos two_pos _
  have hround : 0 ≤ roundInt (q / 2 ^ ulpExponent q) :=
    le_roundInt (by push_cast; exact div_nonneg h hpos.le)
  exact mul_nonneg (by exact_mod_cast hround) hpos.le

/-- Rounding does not take a number of at least one below one. -/
theorem one_le_roundNearest {q : ℚ} (h : 1 ≤ q) : 1 ≤ roundNearest q := by
  have hq : |q| = q := abs_of_nonneg (by linarith)
  have hlog : 0 ≤ Int.log 2 |q| := by
    rw [hq]
    exact (Int.zpow_le_iff_le_log (b := 2) (by norm_num) (by linarith)).mp (by simpa using h)
  have hexp : ulpExponent q = Int.log 2 |q| - 52 := max_eq_left (by omega)
  have hpos : (0 : ℚ) < 2 ^ ulpExponent q := zpow_pos two_pos _
  have hsig : ((2 ^ 52 : ℤ) : ℚ) ≤ q / 2 ^ ulpExponent q := by
    rw [le_div_iff₀ hpos, hexp]
    calc ((2 ^ 52 : ℤ) : ℚ) * 2 ^ (Int.log 2 |q| - 52) = 2 ^ Int.log 2 |q| := by
          rw [zpow_sub₀ two_ne_zero]
          norm_num
          ring
      _ ≤ |q| := by
          have := Int.zpow_log_le_self (b := 2) (r := |q|) (by norm_num) (by rw [hq]; linarith)
          exact_mod_cast this
      _ = q := hq
  have hround : ((2 ^ 52 : ℤ) : ℚ) ≤ roundInt (q / 2 ^ ulpExponent q) := by
    exact_mod_cast le_roundInt hsig
  calc (1 : ℚ) ≤ 2 ^ Int.log 2 |q| := one_le_zpow₀ (by norm_num) hlog
    _ = ((2 ^ 52 : ℤ) : ℚ) * 2 ^ ulpExponent q := by
        rw [hexp, zpow_sub₀ two_ne_zero]
        norm_num
        ring
    _ ≤ roundNearest q := mul_le_mul_of_nonneg_right hround hpos.le

end Binary64
