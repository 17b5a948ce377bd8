/-
  When every Good number that is published is finite.

  A reading only ever gains company on its way to the publishers: the normaliser makes one for each
  sample and each processor appends at most one.  So the question splits into one condition for
  each of these steps, on what that step is given (`SampleFits`, `Processor.Fits`), and the event
  is free of infinities and NaN exactly when all of them hold (`goodDoublesFinite_iff`).

  What can go wrong is an overflow of the scaling that no configured bound rejects, a window or a
  root mean square over a value that is not finite (a string such as `inf` counts as a number
  there), and an overflow of a partial sum or a square.
-/
import MiniGateway.Config.Accepted
import MiniGateway.Normalizer
import MiniGateway.Processing

namespace MiniGateway

open Binary64 Double

/-- Every Good reading that holds a double holds a finite one. -/
def Reading.GoodDoubleFinite (reading : Reading) : Prop :=
  reading.quality = .good → ∀ d, reading.value = .double d → d.isFinite = true

/-- The same of all readings of an event. -/
def Event.GoodDoublesFinite (event : Event) : Prop :=
  ∀ reading ∈ event.readings, reading.GoodDoubleFinite

/-! ### Scaling -/

/-- Whether scaling the finite number `x` leaves the finite range, and on which side: the product
overflows, or the rounded product plus the offset does. -/
def scalingOverflow (config : PointConfig) (x : ℚ) : Option Bool :=
  let product := x * config.scale.toRat
  if overflowThreshold ≤ |product| then some (decide (product < 0))
  else
    let sum := roundNearest product + config.offset.toRat
    if overflowThreshold ≤ |sum| then some (decide (sum < 0)) else none

/-- The bound that a value beyond the finite range on this side violates. -/
def PointConfig.bound (config : PointConfig) (negative : Bool) : Option Double :=
  if negative then config.minimum else config.maximum

/-- Scaling gives a finite number, or the infinity of the side on which it overflows. -/
theorem scaled_cases {config : PointConfig} (hscale : config.scale.isFinite = true)
    (hoffset : config.offset.isFinite = true) {x : Double} (hx : x.isFinite = true) :
    (scalingOverflow config x.toRat = none ∧ (scaled config x).isFinite = true) ∨
      ∃ negative, scalingOverflow config x.toRat = some negative ∧
        scaled config x = .infinity negative := by
  obtain ⟨q, hq, rfl⟩ := isFinite_iff.mp hx
  obtain ⟨scale, _, hs⟩ := isFinite_iff.mp hscale
  obtain ⟨offset, _, ho⟩ := isFinite_iff.mp hoffset
  simp only [scalingOverflow, scaled, hs, ho, toRat_finite, Double.mul]
  by_cases hproduct : overflowThreshold ≤ |q * scale|
  · right
    refine ⟨decide (q * scale < 0), by rw [if_pos hproduct], ?_⟩
    rw [ofRat, dif_neg (not_lt.mpr hproduct)]
    rfl
  · have hproduct' : |q * scale| < overflowThreshold := not_le.mp hproduct
    rw [if_neg hproduct, ofRat, dif_pos hproduct']
    by_cases hsum : overflowThreshold ≤ |roundNearest (q * scale) + offset|
    · right
      refine ⟨decide (roundNearest (q * scale) + offset < 0), by rw [if_pos hsum], ?_⟩
      rw [Double.add, ofRat, dif_neg (not_lt.mpr hsum)]
    · left
      refine ⟨by rw [if_neg hsum], ?_⟩
      rw [Double.add, isFinite_ofRat]
      exact not_le.mp hsum

/-! ### One sample -/

@[simp] theorem checkRange_fst (config : PointConfig) (value : Scalar) :
    (checkRange config value).1 = value := by
  unfold checkRange
  split
  · rfl
  · split_ifs <;> rfl

/-- An infinity passes the range check exactly when the bound on its side is missing. -/
theorem checkRange_infinity {config : PointConfig} (hconfig : config.Finite) (negative : Bool) :
    (checkRange config (.double (.infinity negative))).2 = .good ↔
      config.bound negative = none := by
  have hminimum : config.minimum.any (fun low => (Double.infinity negative).lt low) =
      (negative && config.minimum.isSome) := by
    cases hlow : config.minimum with
    | none => simp
    | some low =>
      obtain ⟨q, hq, rfl⟩ := isFinite_iff.mp (hconfig.minimum low hlow)
      simp [Double.lt]
  have hmaximum : config.maximum.any (fun high => high.lt (Double.infinity negative)) =
      (!negative && config.maximum.isSome) := by
    cases hhigh : config.maximum with
    | none => simp
    | some high =>
      obtain ⟨q, hq, rfl⟩ := isFinite_iff.mp (hconfig.maximum high hhigh)
      simp [Double.lt]
  simp only [checkRange, numericValue, hminimum, hmaximum, PointConfig.bound]
  cases negative
  · cases config.maximum <;> simp
  · cases config.minimum <;> simp

/-- The condition on one sample: its scaling stays in the finite range, or leaves it on a side where
the point has a bound. -/
def SampleFits (devices : List DeviceConfig) (deviceId : ByteString) (sample : RawSample) : Prop :=
  ∀ config, findPoint devices deviceId sample.point = some config → sample.status = .good →
    config.type = .double → ∀ x, finiteValue sample.value = some x →
    ∀ negative, scalingOverflow config x.toRat = some negative → config.bound negative ≠ none

/-- `convert_value` gives a Good infinite double exactly when the scaling overflows on a side
without a bound. -/
theorem convertValue_finite_iff {value : Scalar} {config : PointConfig} (hconfig : config.Finite)
    {status : Quality} :
    ((convertValue value config status).2 = .good →
      ∀ d, (convertValue value config status).1 = .double d → d.isFinite = true) ↔
    (status = .good → config.type = .double → ∀ x, finiteValue value = some x →
      ∀ negative, scalingOverflow config x.toRat = some negative →
        config.bound negative ≠ none) := by
  unfold convertValue
  by_cases hstatus : status = .good
  · rw [if_neg (not_not.mpr hstatus)]
    cases htype : config.type with
    | double =>
      cases hvalue : finiteValue value with
      | none => simp
      | some x =>
        have hx : x.isFinite = true := (Option.filter_eq_some_iff.mp hvalue).2
        rcases scaled_cases hconfig.scale hconfig.offset hx with
          ⟨hnone, hfinite⟩ | ⟨negative, hsome, heq⟩
        · simp [hnone, hfinite]
        · have hbound := checkRange_infinity hconfig negative
          simp [hsome, heq, hbound, hstatus, -Bool.forall_bool]
    | string => simp
    | boolean => cases booleanValue value <;> simp
    | byteArray => cases value <;> simp
    | integer =>
      cases finiteValue value with
      | none => simp
      | some x =>
        simp only [reduceCtorEq, false_implies, implies_true, iff_true]
        split_ifs <;> simp
  · simp [hstatus]

/-- Every point that a sample can resolve to has finite numbers. -/
theorem findPoint_finite {devices : List DeviceConfig}
    (h : ∀ device ∈ devices, ∀ point ∈ device.points, point.Finite) {deviceId point : ByteString}
    {config : PointConfig} (hfind : findPoint devices deviceId point = some config) :
    config.Finite := by
  obtain ⟨device, hdevice, hpoint⟩ := Option.bind_eq_some_iff.mp hfind
  exact h device (List.mem_of_find?_eq_some hdevice) config (List.mem_of_find?_eq_some hpoint)

/-- The normaliser publishes a Good infinite double exactly for a sample that does not fit. -/
theorem normalizeSample_finite_iff {devices : List DeviceConfig}
    (h : ∀ device ∈ devices, ∀ point ∈ device.points, point.Finite) (deviceId : ByteString)
    (receivedAt : ℤ) (sample : RawSample) :
    (normalizeSample devices deviceId receivedAt sample).GoodDoubleFinite ↔
      SampleFits devices deviceId sample := by
  unfold normalizeSample Reading.GoodDoubleFinite SampleFits
  cases hfind : findPoint devices deviceId sample.point with
  | none => simp
  | some config => simpa using convertValue_finite_iff (findPoint_finite h hfind)

theorem normalizedEvent_finite_iff {devices : List DeviceConfig}
    (h : ∀ device ∈ devices, ∀ point ∈ device.points, point.Finite) (receivedAt : ℤ)
    (sequence : ℕ) (batch : RawBatch) :
    (normalizedEvent devices receivedAt sequence batch).GoodDoublesFinite ↔
      ∀ sample ∈ batch.samples, SampleFits devices batch.deviceId sample := by
  simp [normalizedEvent, Event.GoodDoublesFinite, normalizeSample_finite_iff h]

/-! ### Sums -/

/-- Adding the numbers to `sum` one by one stays in the finite range. -/
def SumFits (sum : ℚ) : List Double → Prop
  | [] => True
  | value :: rest =>
    value.isFinite = true ∧ |sum + value.toRat| < overflowThreshold ∧
      SumFits (roundNearest (sum + value.toRat)) rest

/-- A sum that is not finite stays so. -/
theorem isFinite_foldl_add {sum : Double} {values : List Double} :
    (values.foldl Double.add sum).isFinite = true ↔
      sum.isFinite = true ∧ SumFits sum.toRat values := by
  induction values generalizing sum with
  | nil => simp [SumFits]
  | cons value rest ih =>
    rw [List.foldl_cons, ih, SumFits]
    constructor
    · rintro ⟨hadd, hrest⟩
      rw [toRat_add hadd] at hrest
      obtain ⟨hsum, hvalue, hlt⟩ := (isFinite_add sum value).mp hadd
      exact ⟨hsum, hvalue, hlt, hrest⟩
    · rintro ⟨hsum, hvalue, hlt, hrest⟩
      have hadd := (isFinite_add sum value).mpr ⟨hsum, hvalue, hlt⟩
      rw [toRat_add hadd]
      exact ⟨hadd, hrest⟩

/-- An average is finite exactly when the sum it divides is. -/
theorem isFinite_average {sum : Double} {n : ℕ} (hpos : n ≠ 0) (hlt : n < 2 ^ 64) :
    (sum.div (Double.ofInt n)).isFinite = true ↔ sum.isFinite = true := by
  refine isFinite_div (isFinite_ofInt ?_) (one_le_ofInt ?_ ?_)
  · rw [abs_of_nonneg (by omega)]
    exact_mod_cast hlt.le
  · omega
  · exact_mod_cast hlt.le

/-- Adding the squares of the numbers to `sum` one by one stays in the finite range. -/
def SquaresFit (sum : ℚ) : List Double → Prop
  | [] => True
  | value :: rest =>
    value.isFinite = true ∧ |value.toRat * value.toRat| < overflowThreshold ∧
      |sum + roundNearest (value.toRat * value.toRat)| < overflowThreshold ∧
      SquaresFit (roundNearest (sum + roundNearest (value.toRat * value.toRat))) rest

theorem squaresFit_iff {sum : ℚ} {values : List Double} :
    SquaresFit sum values ↔ SumFits sum (values.map fun value => value.mul value) := by
  induction values generalizing sum with
  | nil => exact Iff.rfl
  | cons value rest ih =>
    rw [SquaresFit, List.map_cons, SumFits, isFinite_mul]
    constructor
    · rintro ⟨hvalue, hsquare, hlt, hrest⟩
      obtain ⟨q, hq, rfl⟩ := isFinite_iff.mp hvalue
      have hmul : ((finite q hq).mul (finite q hq)).toRat = roundNearest (q * q) :=
        toRat_ofRat hsquare
      rw [hmul]
      exact ⟨⟨hvalue, hvalue, hsquare⟩, hlt, ih.mp hrest⟩
    · rintro ⟨⟨hvalue, -, hsquare⟩, hlt, hrest⟩
      obtain ⟨q, hq, rfl⟩ := isFinite_iff.mp hvalue
      have hmul : ((finite q hq).mul (finite q hq)).toRat = roundNearest (q * q) :=
        toRat_ofRat hsquare
      rw [hmul] at hlt hrest
      exact ⟨hvalue, hsquare, hlt, ih.mpr hrest⟩

/-- A sum of squares is not negative. -/
theorem foldl_squares_nonneg {sum : Double} (h : 0 ≤ sum.toRat) (values : List Double) :
    0 ≤ ((values.map fun value => value.mul value).foldl Double.add sum).toRat := by
  induction values generalizing sum with
  | nil => exact h
  | cons value rest ih => exact ih (toRat_add_nonneg h (toRat_mul_self_nonneg value))

/-! ### One processor -/

/-- The numbers that `demo_rms` reads, when all inputs are Good and numeric. -/
def inputValues (event : Event) : List ByteString → Option (List Double)
  | [] => some []
  | point :: rest => do
    let (_, value) ← findInput event point
    let values ← inputValues event rest
    some (value :: values)

/-- The loop of `demo_rms` succeeds when its inputs have values, and adds their squares. -/
theorem sumSquares_cases (event : Event) (sum : InferenceProcessor.Sum) (points : List ByteString) :
    (inputValues event points = none ∧
      InferenceProcessor.sumSquares event sum points = none) ∨
    ∃ values sum', inputValues event points = some values ∧
      InferenceProcessor.sumSquares event sum points = some sum' ∧
      sum'.squaredSum = (values.map fun value => value.mul value).foldl Double.add
        sum.squaredSum := by
  induction points generalizing sum with
  | nil => exact Or.inr ⟨[], sum, rfl, rfl, rfl⟩
  | cons point rest ih =>
    simp only [inputValues, InferenceProcessor.sumSquares, Option.bind_eq_bind]
    cases hfind : findInput event point with
    | none => exact Or.inl ⟨rfl, rfl⟩
    | some input =>
      obtain ⟨reading, value⟩ := input
      rcases ih ⟨sum.squaredSum.add (value.mul value), reading.sourceTimeNs,
        reading.receivedTimeNs⟩ with ⟨hnone, hsum⟩ | ⟨values, sum', hvalues, hsum, heq⟩
      · exact Or.inl ⟨by simp [hnone], by simpa using hsum⟩
      · exact Or.inr ⟨value :: values, sum', by simp [hvalues], by simpa using hsum, heq⟩

/-- The condition on one processor and the event it is given: what it computes stays in the finite
range. -/
def Processor.Fits (event : Event) : Processor → Prop
  | .threshold _ => True
  | .windowAverage p =>
    ∀ reading value, findInput event p.input = some (reading, value) →
      (p.values event.deviceId value).length = p.window →
      SumFits 0 (p.values event.deviceId value)
  | .inference p => ∀ values, inputValues event p.inputs = some values → SquaresFit 0 values

theorem goodDoublesFinite_push (event : Event) (reading : Reading) :
    (event.push reading).GoodDoublesFinite ↔
      event.GoodDoublesFinite ∧ reading.GoodDoubleFinite := by
  simp [Event.push, Event.GoodDoublesFinite, or_imp, forall_and]

theorem goodDoubleFinite_derived (point : ByteString) (value : Double) (source received : ℤ) :
    (derivedReading point (.double value) source received).GoodDoubleFinite ↔
      value.isFinite = true := by
  simp [derivedReading, Reading.GoodDoubleFinite]

theorem process_windowAverage_finite_iff (p : WindowAverageProcessor) (event : Event) :
    (p.process event).1.GoodDoublesFinite ↔
      event.GoodDoublesFinite ∧ (Processor.windowAverage p).Fits event := by
  unfold WindowAverageProcessor.process
  cases hfind : findInput event p.input with
  | none => simp [Processor.Fits, hfind]
  | some input =>
    obtain ⟨reading, value⟩ := input
    have hfits : (Processor.windowAverage p).Fits event ↔
        ((p.values event.deviceId value).length = p.window →
          SumFits 0 (p.values event.deviceId value)) := by
      simp only [Processor.Fits, hfind, Option.some.injEq, Prod.mk.injEq]
      refine ⟨fun h => h reading value ⟨rfl, rfl⟩, ?_⟩
      rintro h _ _ ⟨rfl, rfl⟩
      exact h
    rw [hfits]
    simp only
    split_ifs with hlength
    · simp [hlength]
    · have hfull : (p.values event.deviceId value).length = p.window := not_not.mp hlength
      rw [goodDoublesFinite_push, goodDoubleFinite_derived, hfull,
        isFinite_average p.accepted.2.2 p.window_lt, accumulate, isFinite_foldl_add]
      simp [Double.zero]

theorem process_inference_finite_iff (p : InferenceProcessor) (nowNs : ℤ) (event : Event) :
    (p.process nowNs event).GoodDoublesFinite ↔
      event.GoodDoublesFinite ∧ (Processor.inference p).Fits event := by
  unfold InferenceProcessor.process Processor.Fits
  rcases sumSquares_cases event ⟨Double.zero, nowNs, nowNs⟩ p.inputs with
    ⟨hnone, hsum⟩ | ⟨values, sum, hvalues, hsum, heq⟩
  · simp [hnone, hsum]
  · have hpos : p.inputs.length ≠ 0 := by simpa using p.accepted.2
    have hnonneg : 0 ≤ sum.squaredSum.toRat := heq ▸ foldl_squares_nonneg le_rfl values
    have hone : 1 ≤ (Double.ofInt p.inputs.length).toRat :=
      one_le_ofInt (by omega) (by exact_mod_cast p.inputs_lt.le)
    have hdiv := toRat_div_nonneg hnonneg (zero_le_one.trans hone)
    have hfinite : (sum.squaredSum.div (Double.ofInt p.inputs.length)).sqrt.isFinite = true ↔
        SquaresFit 0 values := by
      rw [isFinite_sqrt hdiv, isFinite_average hpos p.inputs_lt, heq, isFinite_foldl_add,
        squaresFit_iff]
      simp [Double.zero]
    have hpush := goodDoublesFinite_push event (derivedReading p.output
      (.double (sum.squaredSum.div (Double.ofInt p.inputs.length)).sqrt) sum.sourceTime
      sum.receivedTime)
    rw [goodDoubleFinite_derived, hfinite] at hpush
    simp only [hsum, hvalues, Option.some.injEq, forall_eq']
    exact hpush

/-- **One processor.**  What it hands on is finite exactly when what it was given is and its own
computation stays in the finite range. -/
theorem process_finite_iff (p : Processor) (nowNs : ℤ) (event : Event) :
    (p.process nowNs event).1.GoodDoublesFinite ↔ event.GoodDoublesFinite ∧ p.Fits event := by
  cases p with
  | threshold p =>
    simp only [Processor.process, ThresholdProcessor.process, Processor.Fits, and_true]
    cases findInput event p.input with
    | none => exact Iff.rfl
    | some input =>
      rw [goodDoublesFinite_push]
      simp [derivedReading, Reading.GoodDoubleFinite]
  | windowAverage p => exact process_windowAverage_finite_iff p event
  | inference p => exact process_inference_finite_iff p nowNs event

/-! ### The whole path -/

/-- The condition on a pipeline: each processor fits the event that reaches it. -/
def PipelineFits (nowNs : ℤ) (event : Event) : List Processor → Prop
  | [] => True
  | p :: rest => p.Fits event ∧ PipelineFits nowNs (p.process nowNs event).1 rest

theorem processAll_finite_iff (nowNs : ℤ) (event : Event) (errors : ℕ)
    (processors : List Processor) :
    (processAll nowNs event errors processors).1.GoodDoublesFinite ↔
      event.GoodDoublesFinite ∧ PipelineFits nowNs event processors := by
  induction processors generalizing event with
  | nil => simp [processAll, PipelineFits]
  | cons p rest ih =>
    rw [processAll_cons, PipelineFits]
    simp only
    rw [ih, process_finite_iff, and_assoc]

/-- **A Good number is a finite number** exactly when every sample fits its point and every
processor fits the event that reaches it. -/
theorem goodDoublesFinite_iff {json : JsonLibrary} {jsonText sourceName : ByteString}
    {config : ApplicationConfig} (h : parseConfig json jsonText sourceName = .ok config)
    {n : Normalizer} (hn : n.devices = config.gateway.devices)
    (pipeline : ProcessingPipeline Processor) (receivedAt nowNs : ℤ) (batch : RawBatch) :
    (pipeline.process nowNs (n.normalize receivedAt batch).1).1.GoodDoublesFinite ↔
      (∀ sample ∈ batch.samples, SampleFits config.gateway.devices batch.deviceId sample) ∧
      PipelineFits nowNs (n.normalize receivedAt batch).1 pipeline.processors := by
  simp only [ProcessingPipeline.process, Normalizer.normalize]
  rw [processAll_finite_iff, hn, normalizedEvent_finite_iff (parseConfig_points_finite h)]

/-! ### A point that is scaled by one, and one that is scaled by two -/

/-- The largest power of two, `2^1023`. -/
def largestPower : Double :=
  .finite (2 ^ 52 * 2 ^ (971 : ℤ)) ⟨2 ^ 52, 971, by norm_num, by norm_num, le_rfl, by norm_num⟩

/-- The number two. -/
def two : Double := .finite 2 ⟨1, 1, by norm_num, by norm_num, by norm_num, by norm_num⟩

/-- A batch of one Good sample. -/
def largestBatch : RawBatch where
  deviceId := lit "a"
  source := []
  samples := [{ point := lit "p", value := .double largestPower }]

/-- The configuration read from `oneGroupDocument` with this scale. -/
def scaledConfig (text : ByteString) (scale : Double) : Except ByteString ApplicationConfig :=
  parseConfig (libraryFor (oneGroupText (lit "1000") text) (oneGroupDocument 1000 scale))
    (oneGroupText (lit "1000") text) []

/-- The point of the batch is configured as a double without a maximum that is scaled by `scale`. -/
def HasScale (scale : ℚ) (config : ApplicationConfig) : Prop :=
  ∃ n point, Normalizer.create config.gateway = .ok n ∧
    findPoint config.gateway.devices (lit "a") (lit "p") = some point ∧ point.type = .double ∧
    point.scale.toRat = scale ∧ point.offset.toRat = 0 ∧ point.maximum = none

/-- `HasScale`, computed. -/
def hasScale (scale : ℚ) (config : ApplicationConfig) : Bool :=
  (Normalizer.create config.gateway).toOption.isSome &&
    (findPoint config.gateway.devices (lit "a") (lit "p")).any fun point =>
      point.type == .double && point.scale.toRat == scale && point.offset.toRat == 0 &&
        point.maximum.isNone

theorem exists_hasScale {text : ByteString} (scale : Double)
    (h : (scaledConfig text scale).toOption.any (hasScale scale.toRat) = true) :
    ∃ config, scaledConfig text scale = .ok config ∧ HasScale scale.toRat config := by
  obtain ⟨config, hconfig, htest⟩ := (Option.any_eq_true _ _).mp h
  obtain ⟨hcreate, hpoint⟩ := Bool.and_eq_true_iff.mp htest
  obtain ⟨n, hn⟩ := Option.isSome_iff_exists.mp hcreate
  obtain ⟨point, hfind, hpoint⟩ := (Option.any_eq_true _ _).mp hpoint
  refine ⟨config, toOption_eq_some.mp hconfig, n, point, toOption_eq_some.mp hn, hfind, ?_⟩
  simpa [and_assoc] using hpoint

theorem scaledConfig_two : ∃ config, scaledConfig (lit "2.0") two = .ok config ∧
    HasScale 2 config :=
  exists_hasScale two (by decide +kernel)

theorem scaledConfig_one : ∃ config, scaledConfig (lit "1.0") one = .ok config ∧
    HasScale 1 config :=
  exists_hasScale one (by decide +kernel)

/-- Scaling by one never overflows. -/
theorem scalingOverflow_identity {config : PointConfig} (hscale : config.scale.toRat = 1)
    (hoffset : config.offset.toRat = 0) (x : Double) : scalingOverflow config x.toRat = none := by
  have hx := abs_toRat_lt x
  simp only [scalingOverflow, hscale, hoffset, mul_one, add_zero]
  rw [if_neg (not_le.mpr hx), if_neg (not_le.mpr (representable_roundNearest hx).abs_lt)]

/-- Twice the largest power of two overflows. -/
theorem scalingOverflow_twice {config : PointConfig} (hscale : config.scale.toRat = 2) :
    scalingOverflow config largestPower.toRat = some false := by
  have hpos : (0 : ℚ) < 2 ^ (970 : ℤ) := zpow_pos two_pos _
  have hproduct : largestPower.toRat * 2 = 2 ^ 54 * 2 ^ (970 : ℤ) := by
    have hvalue : largestPower.toRat = 2 ^ 52 * 2 ^ (971 : ℤ) := rfl
    rw [hvalue, two_zpow_971]
    ring
  have hle : overflowThreshold ≤ |(2 : ℚ) ^ 54 * 2 ^ (970 : ℤ)| := by
    rw [abs_of_pos (mul_pos (by norm_num) hpos)]
    exact mul_le_mul_of_nonneg_right (by norm_num) hpos.le
  have hsign : ¬(2 : ℚ) ^ 54 * 2 ^ (970 : ℤ) < 0 := not_lt.mpr (mul_pos (by norm_num) hpos).le
  simp only [scalingOverflow, hscale, hproduct]
  rw [if_pos hle, decide_eq_false hsign]

/-- An accepted configuration that scales by two publishes a Good infinity. -/
theorem goodDoubles_overflow : ∃ config n, scaledConfig (lit "2.0") two = .ok config ∧
    Normalizer.create config.gateway = .ok n ∧
    ¬(ProcessingPipeline.process (P := Processor) { processors := [] } 0
      (n.normalize 0 largestBatch).1).1.GoodDoublesFinite := by
  obtain ⟨config, hconfig, n, point, hn, hfind, htype, hscale, -, hmaximum⟩ := scaledConfig_two
  refine ⟨config, n, hconfig, hn, fun hfinite => ?_⟩
  have hsample : SampleFits n.devices (lit "a") { point := lit "p", value := .double largestPower } :=
    (normalizeSample_finite_iff (n.create_devices hn ▸ parseConfig_points_finite hconfig) _ 0 _).mp
      (hfinite _ (List.mem_singleton.mpr rfl))
  rw [Normalizer.create_devices hn] at hsample
  exact hsample point hfind rfl htype largestPower rfl false (scalingOverflow_twice hscale) hmaximum

/-- Scaled by one, the largest power of two is published as a finite number. -/
theorem goodDoublesFinite_iff_identity : ∃ config n, scaledConfig (lit "1.0") one = .ok config ∧
    Normalizer.create config.gateway = .ok n ∧
    (ProcessingPipeline.process (P := Processor) { processors := [] } 0
      (n.normalize 0 largestBatch).1).1.GoodDoublesFinite := by
  obtain ⟨config, hconfig, n, point, hn, hfind, -, hscale, hoffset, -⟩ := scaledConfig_one
  refine ⟨config, n, hconfig, hn, (goodDoublesFinite_iff hconfig (Normalizer.create_devices hn)
    { processors := [] } 0 0 largestBatch).mpr ⟨?_, trivial⟩⟩
  intro sample hsample point' hfind' _ _ x hx negative hoverflow
  obtain rfl := List.mem_singleton.mp hsample
  obtain rfl : point = point' := Option.some.inj (hfind.symm.trans hfind')
  rw [scalingOverflow_identity hscale hoffset] at hoverflow
  simp at hoverflow

end MiniGateway
