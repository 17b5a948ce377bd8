/-
  The arithmetic of binary64: conversion from rationals and integers, the four operations that the
  gateway uses, comparison, and the conversion back to integers.

  Each operation names its exceptional operands first and otherwise rounds the exact result.  A
  result that is not finite never becomes finite again (`isFinite_add`, `isFinite_mul`,
  `isFinite_div`, `isFinite_sqrt`), which is what makes a computation finite exactly when none of
  its roundings overflows.
-/
import MiniGateway.Binary64

namespace Binary64

namespace Double

/-- Neither an infinity nor NaN (`std::isfinite`). -/
def isFinite : Double → Bool
  | finite _ _ => true
  | _ => false

/-- The value of a finite number, and zero for the others. -/
def toRat : Double → ℚ
  | finite q _ => q
  | _ => 0

/-- The binary64 number nearest to a rational. -/
def ofRat (q : ℚ) : Double :=
  if h : |q| < overflowThreshold then finite (roundNearest q) (representable_roundNearest h)
  else infinity (decide (q < 0))

/-- `static_cast<double>` of an integer. -/
def ofInt (n : ℤ) : Double := ofRat n

def zero : Double := finite 0 representable_zero

/-- `a + b`. -/
def add : Double → Double → Double
  | nan, _ => nan
  | _, nan => nan
  | infinity s, infinity t => if s = t then infinity s else nan
  | infinity s, finite _ _ => infinity s
  | finite _ _, infinity t => infinity t
  | finite a _, finite b _ => ofRat (a + b)

/-- The infinity with the sign of a product, or NaN when the other factor is zero. -/
def scaleInfinity (negative : Bool) (q : ℚ) : Double :=
  if q = 0 then nan else infinity (negative != decide (q < 0))

/-- `a * b`. -/
def mul : Double → Double → Double
  | nan, _ => nan
  | _, nan => nan
  | infinity s, infinity t => infinity (s != t)
  | infinity s, finite b _ => scaleInfinity s b
  | finite a _, infinity t => scaleInfinity t a
  | finite a _, finite b _ => ofRat (a * b)

/-- `a / b`; a zero divisor counts as positive. -/
def div : Double → Double → Double
  | nan, _ => nan
  | _, nan => nan
  | infinity _, infinity _ => nan
  | infinity s, finite b _ => infinity (s != decide (b < 0))
  | finite _ _, infinity _ => zero
  | finite a _, finite b _ =>
    if b = 0 then (if a = 0 then nan else infinity (decide (a < 0))) else ofRat (a / b)

/-- The square root of a nonnegative rational to 53 bits, ties to even. -/
def sqrtNearest (q : ℚ) : ℚ :=
  let e := Int.log 2 q / 2 - 52
  let x := q / 4 ^ e
  let floor := Nat.sqrt ⌊x⌋₊
  tiesToEven floor (compare x ((floor + 1 / 2) ^ 2)) * (2 : ℚ) ^ e

/-- `std::sqrt`. -/
def sqrt : Double → Double
  | nan => nan
  | infinity negative => if negative then nan else infinity false
  | finite a _ => if a < 0 then nan else ofRat (sqrtNearest a)

/-- `a < b`; false when either is NaN. -/
def lt : Double → Double → Bool
  | nan, _ => false
  | _, nan => false
  | infinity s, infinity t => s && !t
  | infinity s, finite _ _ => s
  | finite _ _, infinity t => !t
  | finite a _, finite b _ => decide (a < b)

/-- The integer nearest to a rational, ties away from zero. -/
def roundAway (q : ℚ) : ℤ := if 0 ≤ q then ⌊q + 1 / 2⌋ else ⌈q - 1 / 2⌉

/-- `std::llround`.  Outside the range of the result type the standard leaves the value open; the
wrapped one is what an x86-64 conversion gives for `2^63`. -/
def llround (d : Double) : Int64 := Int64.ofInt (roundAway d.toRat)

/-! ### When a result is finite -/

@[simp] theorem isFinite_finite (q : ℚ) (h : Representable q) : (finite q h).isFinite = true := rfl

@[simp] theorem isFinite_infinity (negative : Bool) : (infinity negative).isFinite = false := rfl

@[simp] theorem isFinite_nan : nan.isFinite = false := rfl

@[simp] theorem toRat_finite (q : ℚ) (h : Representable q) : (finite q h).toRat = q := rfl

theorem isFinite_iff {d : Double} : d.isFinite = true ↔ ∃ q h, d = finite q h := by
  cases d with
  | finite q h => simp [h]
  | _ => simp

theorem abs_toRat_lt (d : Double) : |d.toRat| < overflowThreshold := by
  cases d with
  | finite q h => exact h.abs_lt
  | _ => simpa [toRat] using representable_zero.abs_lt

/-- A rounded result is finite below the threshold. -/
theorem isFinite_ofRat (q : ℚ) : (ofRat q).isFinite = true ↔ |q| < overflowThreshold := by
  unfold ofRat
  split_ifs with h <;> simp [h]

theorem toRat_ofRat {q : ℚ} (h : |q| < overflowThreshold) : (ofRat q).toRat = roundNearest q := by
  unfold ofRat
  rw [dif_pos h, toRat_finite]

theorem isFinite_add (a b : Double) : (a.add b).isFinite = true ↔
    a.isFinite = true ∧ b.isFinite = true ∧ |a.toRat + b.toRat| < overflowThreshold := by
  cases a <;> cases b <;> simp only [add, isFinite_finite, isFinite_infinity, isFinite_nan,
    isFinite_ofRat, toRat_finite, true_and, false_and, Bool.false_eq_true, and_false]
  split_ifs <;> simp

/-- A finite sum is the rounded exact one. -/
theorem toRat_add {a b : Double} (h : (a.add b).isFinite = true) :
    (a.add b).toRat = roundNearest (a.toRat + b.toRat) := by
  obtain ⟨ha, hb, hlt⟩ := (isFinite_add a b).mp h
  obtain ⟨p, hp, rfl⟩ := isFinite_iff.mp ha
  obtain ⟨q, hq, rfl⟩ := isFinite_iff.mp hb
  exact toRat_ofRat hlt

theorem isFinite_mul (a b : Double) : (a.mul b).isFinite = true ↔
    a.isFinite = true ∧ b.isFinite = true ∧ |a.toRat * b.toRat| < overflowThreshold := by
  cases a <;> cases b <;> simp only [mul, scaleInfinity, isFinite_finite, isFinite_infinity,
    isFinite_nan, isFinite_ofRat, toRat_finite, true_and, false_and, Bool.false_eq_true, and_false]
  all_goals split_ifs <;> simp

/-- Dividing by a finite number of at least one is finite exactly when the dividend is. -/
theorem isFinite_div {a b : Double} (hb : b.isFinite = true) (hone : 1 ≤ b.toRat) :
    (a.div b).isFinite = true ↔ a.isFinite = true := by
  obtain ⟨q, hq, rfl⟩ := isFinite_iff.mp hb
  rw [toRat_finite] at hone
  cases a with
  | finite p hp =>
    have hle : |p / q| ≤ |p| := by
      rw [abs_div, abs_of_pos (show (0 : ℚ) < q by linarith)]
      exact div_le_self (abs_nonneg p) hone
    have hne : q ≠ 0 := by linarith
    simp [div, hne, isFinite_ofRat, hle.trans_lt hp.abs_lt]
  | _ => simp [div]

/-! ### Signs -/

theorem toRat_ofRat_nonneg {q : ℚ} (h : 0 ≤ q) : 0 ≤ (ofRat q).toRat := by
  unfold ofRat
  split_ifs
  · exact roundNearest_nonneg h
  · exact le_rfl

theorem toRat_add_nonneg {a b : Double} (ha : 0 ≤ a.toRat) (hb : 0 ≤ b.toRat) :
    0 ≤ (a.add b).toRat := by
  by_cases h : (a.add b).isFinite = true
  · rw [toRat_add h]
    exact roundNearest_nonneg (add_nonneg ha hb)
  · cases hab : a.add b with
    | finite q hq => simp [hab] at h
    | _ => exact le_rfl

theorem toRat_mul_self_nonneg (a : Double) : 0 ≤ (a.mul a).toRat := by
  cases a with
  | finite q hq => exact toRat_ofRat_nonneg (mul_self_nonneg q)
  | _ => exact le_rfl

theorem toRat_div_nonneg {a b : Double} (ha : 0 ≤ a.toRat) (hb : 0 ≤ b.toRat) :
    0 ≤ (a.div b).toRat := by
  cases a with
  | nan => exact le_rfl
  | infinity s => cases b <;> exact le_rfl
  | finite p hp =>
    cases b with
    | finite q hq =>
      simp only [div]
      split_ifs
      · exact le_rfl
      · exact le_rfl
      · exact toRat_ofRat_nonneg (div_nonneg ha hb)
    | _ => exact le_rfl

/-! ### Integers and square roots -/

theorem two_pow_lt_overflowThreshold : (2 : ℚ) ^ 513 < overflowThreshold := by
  have hpos : (0 : ℚ) < 2 ^ (970 : ℤ) := zpow_pos two_pos _
  calc (2 : ℚ) ^ 513 = 2 ^ (513 : ℤ) := (zpow_natCast 2 513).symm
    _ ≤ 1 * 2 ^ (970 : ℤ) := by
        rw [one_mul]
        exact zpow_le_zpow_right₀ (by norm_num) (by norm_num)
    _ < overflowThreshold := mul_lt_mul_of_pos_right (by norm_num) hpos

/-- Every 64-bit integer, signed or not, converts to a finite number. -/
theorem isFinite_ofInt {n : ℤ} (h : |n| ≤ 2 ^ 64) : (ofInt n).isFinite = true := by
  rw [ofInt, isFinite_ofRat]
  have hn : |(n : ℚ)| ≤ 2 ^ 64 := by exact_mod_cast h
  calc |(n : ℚ)| ≤ 2 ^ 64 := hn
    _ ≤ 2 ^ 513 := pow_le_pow_right₀ (by norm_num) (by norm_num)
    _ < overflowThreshold := two_pow_lt_overflowThreshold

theorem one_le_ofInt {n : ℤ} (hone : 1 ≤ n) (h : n ≤ 2 ^ 64) : 1 ≤ (ofInt n).toRat := by
  have hfinite := isFinite_ofInt (n := n) (by rw [abs_of_nonneg (by omega)]; exact h)
  rw [ofInt, isFinite_ofRat] at hfinite
  rw [ofInt, toRat_ofRat hfinite]
  exact one_le_roundNearest (by exact_mod_cast hone)

theorem tiesToEven_le (floor : ℤ) (half : Ordering) : tiesToEven floor half ≤ floor + 1 := by
  unfold tiesToEven
  split
  · omega
  · split_ifs <;> omega
  · exact le_rfl

/-- A square root is nonnegative and far from the threshold. -/
theorem abs_sqrtNearest_lt {q : ℚ} (h : 0 ≤ q) (hq : q < overflowThreshold) :
    |sqrtNearest q| < overflowThreshold := by
  set e := Int.log 2 q / 2 - 52 with he
  set x := q / 4 ^ e with hx
  have hpow4 : (0 : ℚ) < 4 ^ e := zpow_pos (by norm_num) _
  have hpow2 : (0 : ℚ) < 2 ^ e := zpow_pos two_pos _
  have hx0 : 0 ≤ x := div_nonneg h hpow4.le
  have hlog : Int.log 2 q ≤ 1023 := by
    have := ulpExponent_le (by rwa [abs_of_nonneg h])
    unfold ulpExponent at this
    rw [abs_of_nonneg h] at this
    omega
  have hxlt : x < 2 ^ 106 := by
    have hq' : q < (2 : ℚ) ^ (Int.log 2 q + 1) := by
      exact_mod_cast Int.lt_zpow_succ_log_self (b := 2) (by norm_num) q
    rw [hx, div_lt_iff₀ hpow4]
    calc q < (2 : ℚ) ^ (Int.log 2 q + 1) := hq'
      _ ≤ 2 ^ (106 + 2 * e) := zpow_le_zpow_right₀ (by norm_num) (by omega)
      _ = 2 ^ 106 * 4 ^ e := by
          rw [zpow_add₀ two_ne_zero, zpow_mul]
          norm_num
  have hfloor : Nat.sqrt ⌊x⌋₊ < 2 ^ 53 := by
    rw [Nat.sqrt_lt', Nat.floor_lt hx0]
    calc x < 2 ^ 106 := hxlt
      _ = (((2 ^ 53) ^ 2 : ℕ) : ℚ) := by norm_num
  have hlow := le_tiesToEven (Nat.sqrt ⌊x⌋₊) (compare x ((Nat.sqrt ⌊x⌋₊ + 1 / 2) ^ 2))
  have hhigh := tiesToEven_le (Nat.sqrt ⌊x⌋₊) (compare x ((Nat.sqrt ⌊x⌋₊ + 1 / 2) ^ 2))
  have habs : |(tiesToEven (Nat.sqrt ⌊x⌋₊) (compare x ((Nat.sqrt ⌊x⌋₊ + 1 / 2) ^ 2)) : ℚ)| ≤
      2 ^ 53 := by
    rw [abs_of_nonneg (by exact_mod_cast (by omega : (0 : ℤ) ≤ _))]
    exact_mod_cast (by omega : _ ≤ (2 ^ 53 : ℤ))
  show |_ * (2 : ℚ) ^ e| < overflowThreshold
  rw [abs_mul, abs_of_pos hpow2]
  calc _ ≤ (2 : ℚ) ^ 53 * 2 ^ (460 : ℤ) :=
        mul_le_mul habs (zpow_le_zpow_right₀ (by norm_num) (by omega)) hpow2.le (by norm_num)
    _ = 2 ^ 513 := by
        rw [show (460 : ℤ) = ((460 : ℕ) : ℤ) by norm_num, zpow_natCast, ← pow_add]
    _ < overflowThreshold := two_pow_lt_overflowThreshold

/-- The square root of a number that is not negative is finite exactly when the number is. -/
theorem isFinite_sqrt {a : Double} (h : 0 ≤ a.toRat) :
    a.sqrt.isFinite = true ↔ a.isFinite = true := by
  cases a with
  | finite q hq =>
    rw [toRat_finite] at h
    have hlt := abs_sqrtNearest_lt h ((le_abs_self q).trans_lt hq.abs_lt)
    simp [sqrt, not_lt.mpr h, isFinite_ofRat, hlt]
  | infinity negative => cases negative <;> simp [sqrt]
  | nan => simp [sqrt]

end Double

end Binary64
