/-
  What `convert_value` promises for every kind of value and every type of point.

  A Good value ends in one of three ways (`convertValue_cases`): it cannot be read as the type of
  the point and stays as it is, it is an integer beyond the 64-bit range and stays as it is, or it
  becomes a value of that type that is then compared with the bounds of the point.
-/
import MiniGateway.Finiteness

namespace MiniGateway

open Binary64 (Double)

/-- The alternative of the variant that a scalar holds. -/
def Scalar.valueType : Scalar → ValueType
  | .integer _ => .integer
  | .double _ => .double
  | .boolean _ => .boolean
  | .string _ => .string
  | .byteArray _ => .byteArray

/-- Bytes have no boolean reading, and of the strings only four have one. -/
def NoBoolean (value : Scalar) : Prop :=
  (∃ bytes, value = .byteArray bytes) ∨
    ∃ s, value = .string s ∧ s ∉ [lit "true", lit "1", lit "false", lit "0"]

/-- There is no number to be read, or one that is not finite. -/
def NoFiniteNumber (value : Scalar) : Prop :=
  ∀ numeric, numericValue value = some numeric → numeric.isFinite = false

/-- The value cannot be read as this type. -/
def Undecodable (value : Scalar) : ValueType → Prop
  | .string => False
  | .byteArray => value.valueType ≠ .byteArray
  | .boolean => NoBoolean value
  | .double => NoFiniteNumber value
  | .integer => NoFiniteNumber value

/-- The number of the value, if it has one, is neither below the minimum nor above the maximum. -/
def WithinBounds (config : PointConfig) (value : Scalar) : Prop :=
  ∀ numeric, numericValue value = some numeric →
    (∀ minimum, config.minimum = some minimum → numeric.lt minimum = false) ∧
    ∀ maximum, config.maximum = some maximum → maximum.lt numeric = false

theorem finiteValue_eq_none_iff (value : Scalar) :
    finiteValue value = none ↔ NoFiniteNumber value := by
  unfold NoFiniteNumber
  cases hvalue : numericValue value <;> simp [finiteValue, hvalue, Option.filter_eq_none_iff]

theorem booleanValue_eq_none_iff (value : Scalar) :
    booleanValue value = none ↔ NoBoolean value := by
  unfold NoBoolean
  cases value with
  | string s =>
    simp only [booleanValue, reduceCtorEq, exists_false, Scalar.string.injEq, false_or,
      exists_eq_left', List.mem_cons, List.not_mem_nil, or_false]
    split_ifs with htrue hfalse
    · simp only [false_iff, not_not]
      tauto
    · simp only [false_iff, not_not]
      tauto
    · simp only [true_iff]
      tauto
  | _ => simp [booleanValue]

/-! ### The range check -/

/-- The bounds decide between Good and out of range. -/
theorem checkRange_snd (config : PointConfig) (value : Scalar) :
    ((checkRange config value).2 = .good ∧ WithinBounds config value) ∨
      ((checkRange config value).2 = .outOfRange ∧ ¬WithinBounds config value) := by
  have hbounds : ∀ numeric : Double,
      (config.minimum.any (fun minimum => numeric.lt minimum) ||
        config.maximum.any (fun maximum => maximum.lt numeric)) = false ↔
      (∀ minimum, config.minimum = some minimum → numeric.lt minimum = false) ∧
      ∀ maximum, config.maximum = some maximum → maximum.lt numeric = false := by
    intro numeric
    cases config.minimum <;> cases config.maximum <;> simp
  unfold checkRange WithinBounds
  cases hvalue : numericValue value with
  | none => simp
  | some numeric =>
    simp only [Option.some.injEq, forall_eq']
    rw [← hbounds numeric]
    split_ifs with hviolated
    · right
      exact ⟨rfl, by rw [hviolated]; decide⟩
    · left
      exact ⟨rfl, by simpa using hviolated⟩

/-! ### The conversion -/

theorem convertValue_not_good {quality : Quality} (h : quality ≠ .good) (value : Scalar)
    (config : PointConfig) : convertValue value config quality = (value, quality) := by
  unfold convertValue
  exact if_pos h

/-- **The three ends of a conversion.** -/
theorem convertValue_cases (value : Scalar) (config : PointConfig) :
    (Undecodable value config.type ∧ convertValue value config .good = (value, .decodeError)) ∨
    (¬Undecodable value config.type ∧ config.type = .integer ∧
      convertValue value config .good = (value, .outOfRange)) ∨
    (¬Undecodable value config.type ∧ ∃ converted : Scalar, converted.valueType = config.type ∧
      convertValue value config .good = checkRange config converted) := by
  unfold convertValue
  rw [if_neg (not_not.mpr rfl)]
  cases htype : config.type with
  | string =>
    exact Or.inr (Or.inr ⟨id, .string (scalarToString value), rfl, rfl⟩)
  | byteArray =>
    cases value with
    | byteArray bytes =>
      exact Or.inr (Or.inr ⟨by simp [Undecodable, Scalar.valueType], .byteArray bytes, rfl, rfl⟩)
    | _ => exact Or.inl ⟨by simp [Undecodable, Scalar.valueType], rfl⟩
  | boolean =>
    simp only [Undecodable, ← booleanValue_eq_none_iff]
    cases hvalue : booleanValue value with
    | none => exact Or.inl ⟨rfl, rfl⟩
    | some boolean => exact Or.inr (Or.inr ⟨by simp, .boolean boolean, rfl, rfl⟩)
  | double =>
    simp only [Undecodable, ← finiteValue_eq_none_iff]
    cases hvalue : finiteValue value with
    | none => exact Or.inl ⟨rfl, rfl⟩
    | some numeric =>
      exact Or.inr (Or.inr ⟨by simp, .double (scaled config numeric), rfl, rfl⟩)
  | integer =>
    simp only [Undecodable, ← finiteValue_eq_none_iff]
    cases hvalue : finiteValue value with
    | none => exact Or.inl ⟨rfl, rfl⟩
    | some numeric =>
      -- the guard in front of `llround`
      simp only
      split_ifs
      · exact Or.inr (Or.inl ⟨by simp, trivial, rfl⟩)
      · exact Or.inr (Or.inr ⟨by simp, .integer (scaled config numeric).llround, rfl, rfl⟩)

/-- **Conversion is sound** for every value, every point and every incoming quality. -/
theorem convertValue_sound (value : Scalar) (config : PointConfig) (quality : Quality) :
    (quality ≠ .good → convertValue value config quality = (value, quality)) ∧
    (quality = .good →
      ((convertValue value config quality).2 ∈
        ([.good, .decodeError, .outOfRange] : List Quality)) ∧
      ((convertValue value config quality).2 = .good →
        (convertValue value config quality).1.valueType = config.type ∧
          WithinBounds config (convertValue value config quality).1) ∧
      ((convertValue value config quality).2 = .decodeError →
        (convertValue value config quality).1 = value) ∧
      ((convertValue value config quality).2 = .decodeError ↔ Undecodable value config.type) ∧
      (config.type = .string → (convertValue value config quality).2 ≠ .decodeError)) := by
  refine ⟨fun h => convertValue_not_good h value config, ?_⟩
  rintro rfl
  rcases convertValue_cases value config with
    ⟨hundecodable, heq⟩ | ⟨hdecodable, htype, heq⟩ | ⟨hdecodable, converted, htype, heq⟩
  · rw [heq]
    refine ⟨by simp, by simp, fun _ => rfl, by simp [hundecodable], ?_⟩
    intro htype
    rw [htype] at hundecodable
    exact hundecodable.elim
  · rw [heq]
    exact ⟨by simp, by simp, by simp, by simp [hdecodable], by simp⟩
  · rw [heq, checkRange_fst]
    rcases checkRange_snd config converted with ⟨hgood, hbounds⟩ | ⟨hrange, -⟩
    · rw [hgood]
      exact ⟨by simp, fun _ => ⟨htype, hbounds⟩, by simp, by simp [hdecodable], by simp⟩
    · rw [hrange]
      exact ⟨by simp, by simp, by simp, by simp [hdecodable], by simp⟩

end MiniGateway
