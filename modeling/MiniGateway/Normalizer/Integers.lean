/-
  Integer points: what their scaling and rounding does at the ends of the 64-bit range.

  A value of an Integer point travels through a `double`.  Its scaled value is compared with the
  limits of `std::int64_t`, converted to `double` as well, before `std::llround`.  The lower limit
  survives the conversion; the upper one becomes `2^63`, which is not a 64-bit integer, so the one
  number `2^63` passes the guard and cannot be rounded (`roundingSafe_iff`).

  With a scale of one and an offset of zero nothing but the conversion to `double` is left, and a
  value that passes is stored as the number of the 53-bit grid nearest to it
  (`convertValue_identity`).
-/
import MiniGateway.Binary64.Nearest
import MiniGateway.Finiteness

namespace MiniGateway

open Binary64 Double

/-! ### The guard -/

/-- The guard of the Integer branch lets the scaled value pass. -/
def passesGuard (result : Double) : Bool :=
  !(result.lt (ofInt (-2 ^ 63)) || (ofInt (2 ^ 63 - 1)).lt result)

theorem lowerLimit : ∃ h, ofInt (-2 ^ 63) = .finite (-2 ^ 63) h := by
  refine ⟨⟨-2 ^ 52, 11, by norm_num, by norm_num, by norm_num, by norm_num⟩, ?_⟩
  decide +kernel

/-- The upper limit is rounded up. -/
theorem upperLimit : ∃ h, ofInt (2 ^ 63 - 1) = .finite (2 ^ 63) h := by
  refine ⟨⟨2 ^ 52, 11, by norm_num, by norm_num, by norm_num, by norm_num⟩, ?_⟩
  decide +kernel

theorem passesGuard_finite {result : Double} (h : result.isFinite = true) :
    passesGuard result = true ↔ -2 ^ 63 ≤ result.toRat ∧ result.toRat ≤ 2 ^ 63 := by
  obtain ⟨q, hq, rfl⟩ := isFinite_iff.mp h
  obtain ⟨_, hlow⟩ := lowerLimit
  obtain ⟨_, hhigh⟩ := upperLimit
  rw [passesGuard, hlow, hhigh]
  simp [Double.lt]

theorem passesGuard_infinity (negative : Bool) : passesGuard (.infinity negative) = false := by
  obtain ⟨_, hlow⟩ := lowerLimit
  obtain ⟨_, hhigh⟩ := upperLimit
  rw [passesGuard, hlow, hhigh]
  cases negative <;> rfl

/-- What the Integer branch does with a number. -/
theorem convertValue_integer {config : PointConfig} (htype : config.type = .integer)
    {value : Scalar} {x : Double} (hx : finiteValue value = some x) :
    convertValue value config .good =
      if passesGuard (scaled config x) then
        checkRange config (.integer (scaled config x).llround)
      else (value, .outOfRange) := by
  cases hguard : passesGuard (scaled config x) <;>
    simp_all [convertValue, passesGuard]

/-! ### Rounding at the upper end -/

/-- The numbers that round to `2^63`: from the middle below it to the middle above it. -/
theorem roundNearest_eq_two_pow_63 (q : ℚ) :
    roundNearest q = 2 ^ 63 ↔ 2 ^ 63 - 512 ≤ q ∧ q ≤ 2 ^ 63 + 1024 := by
  constructor
  · intro heq
    constructor
    · by_contra hlt
      have hgrid : OnGrid (2 ^ 63 - 1024) := ⟨2 ^ 53 - 1, 10, by norm_num, by norm_num, by norm_num⟩
      have hbelow := roundNearest_lt (q := q) (s := 2 ^ 63) hgrid (by norm_num) (by linarith)
      exact hbelow.ne heq
    · by_contra hgt
      have hgrid : OnGrid (2 ^ 63 + 2048) := ⟨2 ^ 52 + 1, 11, by norm_num, by norm_num, by norm_num⟩
      have habove := lt_roundNearest (q := q) (r := 2 ^ 63) hgrid (by norm_num) (by linarith)
      exact habove.ne' heq
  · rintro ⟨hlow, hhigh⟩
    -- both middles are ties, and `2^63` is the even neighbour
    have hfirst : roundNearest (2 ^ 63 - 512) = 2 ^ 63 := by decide +kernel
    have hlast : roundNearest (2 ^ 63 + 1024) = 2 ^ 63 := by decide +kernel
    exact le_antisymm (hlast ▸ roundNearest_mono hhigh) (hfirst ▸ roundNearest_mono hlow)

/-- A number of the grid below `2^63` keeps its distance. -/
theorem onGrid_lt_of_lt {q : ℚ} (hq : OnGrid q) (h : q < 2 ^ 63) : q < 2 ^ 63 - 512 := by
  by_contra hge
  have hround := (roundNearest_eq_two_pow_63 q).mpr ⟨not_lt.mp hge, by linarith⟩
  rw [roundNearest_of_onGrid hq] at hround
  exact h.ne hround

/-- Rounded to an integer, a number of the grid within the limits of the guard is a 64-bit integer
exactly when it is not the upper limit. -/
theorem roundAway_fits_iff {q : ℚ} (hq : OnGrid q) (hlow : -2 ^ 63 ≤ q) (hhigh : q ≤ 2 ^ 63) :
    (-2 ^ 63 ≤ roundAway q ∧ roundAway q < 2 ^ 63) ↔ q ≠ 2 ^ 63 := by
  constructor
  · rintro ⟨-, hlt⟩ rfl
    have hround : roundAway (2 ^ 63) = 2 ^ 63 := by
      have h := roundAway_intCast (2 ^ 63)
      push_cast at h
      exact h
    omega
  · intro hne
    have hlt := onGrid_lt_of_lt hq (lt_of_le_of_ne hhigh hne)
    have hlower : -2 ^ 63 ≤ roundAway q := le_roundAway (by push_cast; linarith)
    have hupper : roundAway q ≤ 2 ^ 63 - 1 := roundAway_le (by push_cast; linarith)
    omega

/-! ### The guard and the rounding -/

/-- When the guard lets the scaled value of `x` pass, that value is a number whose rounding fits
into 64 bits, and the integer nearest to it is stored. -/
def RoundingSafe (config : PointConfig) (value : Scalar) (x : Double) : Prop :=
  passesGuard (scaled config x) = true →
    (scaled config x).isFinite = true ∧
    -2 ^ 63 ≤ roundAway (scaled config x).toRat ∧ roundAway (scaled config x).toRat < 2 ^ 63 ∧
    ∃ stored : Int64, (convertValue value config .good).1 = .integer stored ∧
      stored.toInt = roundAway (scaled config x).toRat ∧
      |(stored.toInt : ℚ) - (scaled config x).toRat| ≤ 1 / 2

/-- The rounded product and the offset add up to a number that rounds to `2^63`. -/
def RoundsToLimit (config : PointConfig) (x : ℚ) : Prop :=
  2 ^ 63 - 512 ≤ roundNearest (x * config.scale.toRat) + config.offset.toRat ∧
    roundNearest (x * config.scale.toRat) + config.offset.toRat ≤ 2 ^ 63 + 1024

theorem limit_lt_overflowThreshold : (2 : ℚ) ^ 63 + 1024 < overflowThreshold := by
  calc (2 : ℚ) ^ 63 + 1024 < 2 ^ 64 := by norm_num
    _ ≤ 2 ^ 513 := pow_le_pow_right₀ (by norm_num) (by norm_num)
    _ < overflowThreshold := two_pow_lt_overflowThreshold

/-- A scaling that overflows is far from the limit. -/
theorem not_roundsToLimit_of_overflow {config : PointConfig} {x : ℚ} {negative : Bool}
    (h : scalingOverflow config x = some negative) : ¬RoundsToLimit config x := by
  rintro ⟨hlow, hhigh⟩
  have hfar := limit_lt_overflowThreshold
  obtain ⟨hoffset, hoffset'⟩ := abs_lt.mp (abs_toRat_lt config.offset)
  unfold scalingOverflow at h
  by_cases hproduct : overflowThreshold ≤ |x * config.scale.toRat|
  · -- the product rounds to `2^1024` at least, and no offset takes it back
    have hround : overflowThreshold + (2 ^ 63 + 1024) < roundNearest overflowThreshold := by
      decide +kernel
    have hround' : roundNearest (-overflowThreshold) < -overflowThreshold := by
      decide +kernel
    rcases le_abs.mp hproduct with hpos | hneg
    · have hmono := roundNearest_mono hpos
      linarith
    · have hmono := roundNearest_mono (le_neg.mp hneg)
      linarith
  · rw [if_neg hproduct] at h
    by_cases hsum : overflowThreshold ≤ |roundNearest (x * config.scale.toRat) + config.offset.toRat|
    · have hbound : |roundNearest (x * config.scale.toRat) + config.offset.toRat| ≤ 2 ^ 63 + 1024 :=
        abs_le.mpr ⟨by linarith, hhigh⟩
      linarith
    · simp [hsum] at h

/-- Without overflow the scaled value is the rounded sum of the rounded product and the offset. -/
theorem toRat_scaled {config : PointConfig} {x : Double}
    (hfinite : (scaled config x).isFinite = true) : (scaled config x).toRat =
      roundNearest (roundNearest (x.toRat * config.scale.toRat) + config.offset.toRat) := by
  have hproduct := ((isFinite_add _ _).mp hfinite).1
  rw [scaled, toRat_add hfinite]
  congr 2
  obtain ⟨hx, hscale, hlt⟩ := (isFinite_mul _ _).mp hproduct
  obtain ⟨p, hp, rfl⟩ := isFinite_iff.mp hx
  obtain ⟨q, hq, heq⟩ := isFinite_iff.mp hscale
  rw [heq] at hlt ⊢
  exact toRat_ofRat hlt

/-- **The guard makes the rounding safe** exactly for the numbers whose scaled value does not round
to `2^63`. -/
theorem roundingSafe_iff {config : PointConfig} (htype : config.type = .integer)
    (hscale : config.scale.isFinite = true) (hoffset : config.offset.isFinite = true)
    {value : Scalar} {x : Double} (hx : finiteValue value = some x) :
    RoundingSafe config value x ↔ ¬RoundsToLimit config x.toRat := by
  have hfinite : x.isFinite = true := (Option.filter_eq_some_iff.mp hx).2
  rcases scaled_cases hscale hoffset hfinite with ⟨-, hscaled⟩ | ⟨negative, hoverflow, heq⟩
  · have hvalue := toRat_scaled hscaled
    have hlimit : RoundsToLimit config x.toRat ↔ (scaled config x).toRat = 2 ^ 63 := by
      rw [hvalue, roundNearest_eq_two_pow_63]
      rfl
    have hgrid : OnGrid (scaled config x).toRat := hvalue ▸ onGrid_roundNearest _
    rw [hlimit]
    constructor
    · intro hsafe hequal
      have hpass : passesGuard (scaled config x) = true := by
        rw [passesGuard_finite hscaled, hequal]
        norm_num
      obtain ⟨-, hlow, hhigh, -⟩ := hsafe hpass
      have hbounds := (passesGuard_finite hscaled).mp hpass
      exact (roundAway_fits_iff hgrid hbounds.1 hbounds.2).mp ⟨hlow, hhigh⟩ hequal
    · intro hne hpass
      have hbounds := (passesGuard_finite hscaled).mp hpass
      obtain ⟨hlow, hhigh⟩ := (roundAway_fits_iff hgrid hbounds.1 hbounds.2).mpr hne
      have hstored : (scaled config x).llround.toInt = roundAway (scaled config x).toRat :=
        Int64.toInt_ofInt_of_le hlow hhigh
      refine ⟨hscaled, hlow, hhigh, (scaled config x).llround, ?_, hstored, ?_⟩
      · rw [convertValue_integer htype hx, if_pos hpass, checkRange_fst]
      · rw [hstored]
        exact abs_roundAway_sub_le _
  · -- an infinity is stopped by the guard
    have hstop : passesGuard (scaled config x) = false := heq ▸ passesGuard_infinity negative
    refine iff_of_true ?_ (not_roundsToLimit_of_overflow hoverflow)
    intro hpass
    rw [hstop] at hpass
    exact absurd hpass (by decide)

/-- An Integer point with a scale of one, an offset of zero and no bounds. -/
structure PointConfig.IsIdentity (config : PointConfig) : Prop where
  type : config.type = .integer
  scale : config.scale = one
  offset : config.offset = Double.zero
  minimum : config.minimum = none
  maximum : config.maximum = none

def identityPoint : PointConfig where
  name := lit "counter"
  type := .integer
  unit := []
  address := []
  scale := one
  offset := Double.zero
  minimum := none
  maximum := none

theorem identityPoint_isIdentity : identityPoint.IsIdentity := ⟨rfl, rfl, rfl, rfl, rfl⟩

/-- `std::numeric_limits<std::int64_t>::max()`. -/
def largestInteger : Scalar := .integer (Int64.ofInt (2 ^ 63 - 1))

theorem roundingSafe_iff_largestInteger :
    RoundingSafe identityPoint largestInteger (ofInt (2 ^ 63 - 1)) ↔
      ¬RoundsToLimit identityPoint (ofInt (2 ^ 63 - 1)).toRat :=
  roundingSafe_iff rfl rfl rfl (by decide +kernel)

/-- The largest 64-bit integer passes the guard as `2^63`, which does not fit. -/
theorem largestInteger_not_roundingSafe :
    finiteValue largestInteger = some (ofInt (2 ^ 63 - 1)) ∧
      passesGuard (scaled identityPoint (ofInt (2 ^ 63 - 1))) = true ∧
      roundAway (scaled identityPoint (ofInt (2 ^ 63 - 1))).toRat = 2 ^ 63 ∧
      ¬RoundingSafe identityPoint largestInteger (ofInt (2 ^ 63 - 1)) := by
  have hpass : passesGuard (scaled identityPoint (ofInt (2 ^ 63 - 1))) = true := by decide +kernel
  have hround : roundAway (scaled identityPoint (ofInt (2 ^ 63 - 1))).toRat = 2 ^ 63 := by
    decide +kernel
  refine ⟨by decide +kernel, hpass, hround, fun hsafe => ?_⟩
  obtain ⟨-, -, hlt, -⟩ := hsafe hpass
  omega

/-! ### Identity scaling -/

/-- Scaling by one keeps every number. -/
theorem scaled_identity {config : PointConfig} (h : config.IsIdentity) {x : Double}
    (hx : x.isFinite = true) : scaled config x = x := by
  obtain ⟨q, hq, rfl⟩ := isFinite_iff.mp hx
  have hproduct : (finite q hq).mul one = finite q hq := by
    show ofRat (q * 1) = _
    rw [mul_one]
    exact ofRat_of_representable hq
  have hsum : (finite q hq).add Double.zero = finite q hq := by
    show ofRat (q + 0) = _
    rw [add_zero]
    exact ofRat_of_representable hq
  rw [scaled, h.scale, h.offset, hproduct, hsum]

theorem checkRange_unbounded {config : PointConfig} (hminimum : config.minimum = none)
    (hmaximum : config.maximum = none) (value : Scalar) :
    checkRange config value = (value, .good) := by
  unfold checkRange
  rw [hminimum, hmaximum]
  split
  · rfl
  · rfl

/-- The number that a 64-bit integer is converted to. -/
theorem finiteValue_integer (n : Int64) :
    finiteValue (.integer n) = some (ofInt n.toInt) ∧
      (ofInt n.toInt).toRat = roundNearest n.toInt := by
  have hlow := n.le_toInt
  have hhigh := n.toInt_lt
  have hfinite : (ofInt n.toInt).isFinite = true :=
    isFinite_ofInt (abs_le.mpr ⟨by omega, by omega⟩)
  refine ⟨?_, toRat_ofRat ((isFinite_ofRat _).mp hfinite)⟩
  simp [finiteValue, numericValue, hfinite]

/-- **Identity scaling** stores the number nearest to the integer that a `double` can hold, as long
as that is below `2^63`; so exactly the integers that a `double` can hold are kept, and in
particular those of at most `2^53`. -/
theorem convertValue_identity {config : PointConfig} (h : config.IsIdentity) (n : Int64)
    (hn : n.toInt < 2 ^ 63 - 512) :
    ∃ stored : Int64, convertValue (.integer n) config .good = (.integer stored, .good) ∧
      (stored.toInt : ℚ) = roundNearest n.toInt ∧ (stored = n ↔ OnGrid n.toInt) ∧
      (|n.toInt| ≤ 2 ^ 53 → stored = n) := by
  obtain ⟨hvalue, hrat⟩ := finiteValue_integer n
  have hfinite : (ofInt n.toInt).isFinite = true := (Option.filter_eq_some_iff.mp hvalue).2
  have hscaled := scaled_identity h hfinite
  have hlower : (-2 ^ 63 : ℚ) ≤ n.toInt := by exact_mod_cast n.le_toInt
  have hupper : (n.toInt : ℚ) < 2 ^ 63 - 512 := by exact_mod_cast hn
  have hlow : -2 ^ 63 ≤ roundNearest n.toInt :=
    le_roundNearest ⟨-2 ^ 52, 11, by norm_num, by norm_num, by norm_num⟩ hlower
  have hhigh : roundNearest n.toInt < 2 ^ 63 :=
    roundNearest_lt (r := 2 ^ 63 - 1024)
      ⟨2 ^ 53 - 1, 10, by norm_num, by norm_num, by norm_num⟩ (by norm_num) (by linarith)
  have hpass : passesGuard (ofInt n.toInt) = true := by
    rw [passesGuard_finite hfinite, hrat]
    exact ⟨hlow, hhigh.le⟩
  -- the rounded number is an integer, and `llround` leaves it
  obtain ⟨k, hk⟩ := roundNearest_intCast n.toInt
  have hstored : (ofInt n.toInt).llround.toInt = k := by
    have hlow' : -2 ^ 63 ≤ k := by exact_mod_cast hk ▸ hlow
    have hhigh' : k < 2 ^ 63 := by exact_mod_cast hk ▸ hhigh
    rw [llround, hrat, hk, roundAway_intCast]
    exact Int64.toInt_ofInt_of_le hlow' hhigh'
  have hnearest : ((ofInt n.toInt).llround.toInt : ℚ) = roundNearest n.toInt := by
    rw [hstored, hk]
  have hkept : (ofInt n.toInt).llround = n ↔ OnGrid n.toInt := by
    constructor
    · intro heq
      rw [heq] at hnearest
      exact hnearest ▸ onGrid_roundNearest _
    · intro hgrid
      rw [roundNearest_of_onGrid hgrid] at hnearest
      exact Int64.toInt_inj.mp (by exact_mod_cast hnearest)
  refine ⟨(ofInt n.toInt).llround, ?_, hnearest, hkept, fun hsmall => ?_⟩
  · rw [convertValue_integer h.type hvalue, hscaled, if_pos hpass,
      checkRange_unbounded h.minimum h.maximum]
  · exact hkept.mpr (onGrid_intCast hsmall)

theorem convertValue_identity_seven : ∃ stored : Int64,
    convertValue (.integer 7) identityPoint .good = (.integer stored, .good) ∧
      (stored.toInt : ℚ) = roundNearest (7 : Int64).toInt ∧
      (stored = 7 ↔ OnGrid (7 : Int64).toInt) ∧ (|(7 : Int64).toInt| ≤ 2 ^ 53 → stored = 7) :=
  convertValue_identity identityPoint_isIdentity 7 (by decide)

/-- The first integer that a `double` cannot hold is stored as its neighbour. -/
theorem identity_loses_integer :
    convertValue (.integer (Int64.ofInt (2 ^ 53 + 1))) identityPoint .good =
      (.integer (Int64.ofInt (2 ^ 53)), .good) ∧
    ¬∀ config : PointConfig, config.IsIdentity → ∀ n : Int64,
      convertValue (.integer n) config .good = (.integer n, .good) := by
  have hstored : convertValue (.integer (Int64.ofInt (2 ^ 53 + 1))) identityPoint .good =
      (.integer (Int64.ofInt (2 ^ 53)), .good) := by decide +kernel
  refine ⟨hstored, fun hclaim => ?_⟩
  have hkept := hclaim identityPoint identityPoint_isIdentity (Int64.ofInt (2 ^ 53 + 1))
  rw [hstored] at hkept
  revert hkept
  decide +kernel

end MiniGateway
