/-
  `Normalizer::normalize` over batches of any length and over any sequence of them.

  The loop over the samples is written out here as the code runs it: one sample after another, each
  pushing a reading and moving the counters (`normalizeLoop`).  It pushes one reading for each
  sample in order and counts as many bad ones as it pushes (`normalizeLoop_eq`), so `normalize` is
  what it computes (`normalize_eq_loop`).  A reading is a function of its sample, the configuration
  of the point and the receive time, `readingOf`; order, permutations and the counters of a whole
  run follow from that.
-/
import MiniGateway.Normalizer
import MiniGateway.Throwing

namespace MiniGateway

/-! ### One sample -/

/-- The reading of a sample whose point is configured so, or not at all. -/
def readingOf (config : Option PointConfig) (receivedAt : ℤ) (sample : RawSample) : Reading where
  point := sample.point
  value := match config with
    | none => sample.value
    | some config => (convertValue sample.value config sample.status).1
  quality := match config with
    | none => .bad
    | some config => (convertValue sample.value config sample.status).2
  unit := match config with
    | none => []
    | some config => config.unit
  sourceTimeNs := if sample.sourceTimeNs = 0 then receivedAt else sample.sourceTimeNs
  receivedTimeNs := receivedAt
  derived := false

theorem normalizeSample_eq (devices : List DeviceConfig) (deviceId : ByteString) (receivedAt : ℤ)
    (sample : RawSample) : normalizeSample devices deviceId receivedAt sample =
      readingOf (findPoint devices deviceId sample.point) receivedAt sample := by
  unfold normalizeSample readingOf
  cases findPoint devices deviceId sample.point <;> rfl

/-- What a sample's reading has to be: the raw value, Bad and without a unit when the device or the
point is not configured, and otherwise what `convert_value` makes of it. -/
structure ReadingFor (devices : List DeviceConfig) (deviceId : ByteString) (receivedAt : ℤ)
    (sample : RawSample) (reading : Reading) : Prop where
  point : reading.point = sample.point
  derived : reading.derived = false
  sourceTime : reading.sourceTimeNs =
    if sample.sourceTimeNs = 0 then receivedAt else sample.sourceTimeNs
  receivedTime : reading.receivedTimeNs = receivedAt
  unknown : (∀ device ∈ devices, device.id = deviceId →
      ∀ config ∈ device.points, config.name ≠ sample.point) →
    reading.quality = .bad ∧ reading.value = sample.value ∧ reading.unit = []
  known : ∀ device ∈ devices, device.id = deviceId →
    ∀ config ∈ device.points, config.name = sample.point →
      reading.unit = config.unit ∧
        (reading.value, reading.quality) = convertValue sample.value config sample.status

/-! ### Looking up a point -/

/-- Where keys are unique, the first element with the key of `x` is `x`. -/
theorem find?_of_nodup {α : Type*} {key : α → ByteString} {xs : List α}
    (hnodup : (xs.map key).Nodup) {x : α} (hx : x ∈ xs) :
    xs.find? (fun y => key y == key x) = some x := by
  induction xs with
  | nil => simp at hx
  | cons y rest ih =>
    rw [List.map_cons, List.nodup_cons] at hnodup
    rcases List.mem_cons.mp hx with rfl | hx
    · simp
    · have hne : key y ≠ key x := fun heq => hnodup.1 (heq ▸ List.mem_map_of_mem hx)
      rw [List.find?_cons_of_neg (by simpa using hne)]
      exact ih hnodup.2 hx

/-- What the constructor guarantees of the points of a device. -/
theorem checkPoints_ok {deviceId : ByteString} {names : List ByteString}
    {points : List PointConfig} (h : checkPoints deviceId names points = .ok ()) :
    (∀ config ∈ points, config.name ∉ names) ∧ (points.map PointConfig.name).Nodup := by
  induction points generalizing names with
  | nil => simp
  | cons config rest ih =>
    simp only [checkPoints] at h
    split_ifs at h with hempty hrange hseen
    obtain ⟨hrest, hnodup⟩ := ih h
    constructor
    · intro other hmem
      rcases List.mem_cons.mp hmem with rfl | hmem
      · exact hseen
      · exact fun hold => hrest other hmem (List.mem_cons_of_mem _ hold)
    · rw [List.map_cons, List.nodup_cons]
      refine ⟨fun hmem => ?_, hnodup⟩
      obtain ⟨other, hin, heq⟩ := List.mem_map.mp hmem
      exact hrest other hin (by simp [heq])

theorem checkDevices_points {ids : List ByteString} {devices : List DeviceConfig}
    (h : checkDevices ids devices = .ok ()) :
    ∀ device ∈ devices, checkPoints device.id [] device.points = .ok () := by
  induction devices generalizing ids with
  | nil => simp
  | cons first rest ih =>
    simp only [checkDevices] at h
    split_ifs at h
    split at h
    · cases h
    · rename_i hpoints
      intro device hdevice
      rcases List.mem_cons.mp hdevice with rfl | hdevice
      · exact hpoints
      · exact ih h device hdevice

/-- A configured point is found. -/
theorem findPoint_of_mem {devices : List DeviceConfig} (h : checkDevices [] devices = .ok ())
    {device : DeviceConfig} (hdevice : device ∈ devices) {config : PointConfig}
    (hconfig : config ∈ device.points) : findPoint devices device.id config.name = some config := by
  have hfirst := find?_of_nodup (checkDevices_ok h).2 hdevice
  have hpoint := find?_of_nodup (checkPoints_ok (checkDevices_points h device hdevice)).2 hconfig
  simp only [findPoint, hfirst, Option.bind_eq_bind, Option.bind_some]
  exact hpoint

/-- What is found is configured. -/
theorem mem_of_findPoint {devices : List DeviceConfig} {deviceId point : ByteString}
    {config : PointConfig} (h : findPoint devices deviceId point = some config) :
    ∃ device ∈ devices, device.id = deviceId ∧ config ∈ device.points ∧ config.name = point := by
  obtain ⟨device, hdevice, hconfig⟩ := Option.bind_eq_some_iff.mp h
  exact ⟨device, List.mem_of_find?_eq_some hdevice, by simpa using List.find?_some hdevice,
    List.mem_of_find?_eq_some hconfig, by simpa using List.find?_some hconfig⟩

theorem readingFor_normalizeSample {devices : List DeviceConfig}
    (h : checkDevices [] devices = .ok ()) (deviceId : ByteString) (receivedAt : ℤ)
    (sample : RawSample) : ReadingFor devices deviceId receivedAt sample
      (normalizeSample devices deviceId receivedAt sample) := by
  rw [normalizeSample_eq]
  refine ⟨rfl, rfl, rfl, rfl, ?_, ?_⟩
  · intro hunknown
    cases hfind : findPoint devices deviceId sample.point with
    | none => exact ⟨rfl, rfl, rfl⟩
    | some config =>
      obtain ⟨device, hdevice, hid, hconfig, hname⟩ := mem_of_findPoint hfind
      exact absurd hname (hunknown device hdevice hid config hconfig)
  · rintro device hdevice rfl config hconfig hname
    rw [← hname, findPoint_of_mem h hdevice hconfig]
    exact ⟨rfl, rfl⟩

/-! ### The loop -/

/-- What the loop of `normalize` has made so far. -/
structure NormalizeLoop where
  readings : List Reading := []
  stats : NormalizerStats

/-- One turn of the loop: the device and then the point are looked up, the converted or the raw
value is pushed, and the counters move. -/
def NormalizeLoop.next (devices : List DeviceConfig) (deviceId : ByteString) (receivedAt : ℤ)
    (loop : NormalizeLoop) (sample : RawSample) : NormalizeLoop :=
  let (unit, value, quality) : ByteString × Scalar × Quality :=
    match devices.find? fun (device : DeviceConfig) => device.id == deviceId with
    | none => ([], sample.value, .bad)
    | some device =>
      match device.points.find? fun (config : PointConfig) => config.name == sample.point with
      | none => ([], sample.value, .bad)
      | some config => (config.unit, convertValue sample.value config sample.status)
  let badReadings :=
    if quality ≠ .good then loop.stats.badReadings + 1 else loop.stats.badReadings
  { readings := loop.readings ++ [{
      point := sample.point
      value := value
      quality := quality
      unit := unit
      sourceTimeNs := if sample.sourceTimeNs = 0 then receivedAt else sample.sourceTimeNs
      receivedTimeNs := receivedAt
      derived := false }]
    stats := { loop.stats with
      badReadings := badReadings
      readings := loop.stats.readings + 1 } }

/-- The loop over all samples. -/
def normalizeLoop (devices : List DeviceConfig) (deviceId : ByteString) (receivedAt : ℤ)
    (loop : NormalizeLoop) (samples : List RawSample) : NormalizeLoop :=
  samples.foldl (NormalizeLoop.next devices deviceId receivedAt) loop

/-- The readings that are not Good. -/
def badCount (readings : List Reading) : ℕ :=
  readings.countP fun reading => reading.quality != .good

/-- One turn pushes the sample's reading and counts it. -/
theorem NormalizeLoop.next_eq (devices : List DeviceConfig) (deviceId : ByteString)
    (receivedAt : ℤ) (loop : NormalizeLoop) (sample : RawSample) :
    loop.next devices deviceId receivedAt sample = {
      readings := loop.readings ++ [normalizeSample devices deviceId receivedAt sample]
      stats := { loop.stats with
        readings := loop.stats.readings + 1
        badReadings := loop.stats.badReadings +
          badCount [normalizeSample devices deviceId receivedAt sample] } } := by
  have hpush : ∀ (found : Option PointConfig), findPoint devices deviceId sample.point = found →
      normalizeSample devices deviceId receivedAt sample = readingOf found receivedAt sample := by
    rintro found rfl
    exact normalizeSample_eq devices deviceId receivedAt sample
  unfold next
  cases hdevice : devices.find? (fun device => device.id == deviceId) with
  | none =>
    rw [hpush none (by simp [findPoint, hdevice])]
    rfl
  | some device =>
    cases hpoint : device.points.find? (fun config => config.name == sample.point) with
    | none =>
      rw [hpush none (by simp [findPoint, hdevice, hpoint])]
      simp only [hpoint]
      rfl
    | some config =>
      rw [hpush (some config) (by simp [findPoint, hdevice, hpoint])]
      simp only [hpoint, readingOf, badCount]
      by_cases hgood : (convertValue sample.value config sample.status).2 = .good <;> simp [hgood]

/-- **The loop** pushes one reading for each sample, in order, and counts them all. -/
theorem normalizeLoop_eq (devices : List DeviceConfig) (deviceId : ByteString) (receivedAt : ℤ)
    (loop : NormalizeLoop) (samples : List RawSample) :
    normalizeLoop devices deviceId receivedAt loop samples = {
      readings := loop.readings ++ samples.map (normalizeSample devices deviceId receivedAt)
      stats := { loop.stats with
        readings := loop.stats.readings + samples.length
        badReadings := loop.stats.badReadings +
          badCount (samples.map (normalizeSample devices deviceId receivedAt)) } } := by
  induction samples generalizing loop with
  | nil => simp [normalizeLoop, badCount]
  | cons sample rest ih =>
    have hstep : normalizeLoop devices deviceId receivedAt loop (sample :: rest) =
        normalizeLoop devices deviceId receivedAt
          (loop.next devices deviceId receivedAt sample) rest := rfl
    have hcount : badCount ((sample :: rest).map (normalizeSample devices deviceId receivedAt)) =
        badCount [normalizeSample devices deviceId receivedAt sample] +
          badCount (rest.map (normalizeSample devices deviceId receivedAt)) := by
      unfold badCount
      rw [List.map_cons, ← List.singleton_append, List.countP_append]
    rw [hstep, ih, NormalizeLoop.next_eq, hcount]
    simp only [List.map_cons, List.length_cons, List.append_assoc, List.singleton_append,
      Nat.add_assoc, Nat.add_comm 1]

/-- `normalize` is the loop between its two ends. -/
theorem Normalizer.normalize_eq_loop (n : Normalizer) (receivedAt : ℤ) (batch : RawBatch) :
    let loop := normalizeLoop n.devices batch.deviceId receivedAt { stats := n.stats } batch.samples
    (n.normalize receivedAt batch).1.readings = loop.readings ∧
      (n.normalize receivedAt batch).2.stats = { loop.stats with
        batches := loop.stats.batches + 1 } := by
  simp [normalizeLoop_eq, normalize, normalizedEvent, badCount]

/-! ### A sequence of batches -/

/-- The events of batches that come one after another, each at its receive time. -/
def Normalizer.normalizeAll (n : Normalizer) : List (ℤ × RawBatch) → List Event × Normalizer
  | [] => ([], n)
  | (receivedAt, batch) :: rest =>
    let (event, n') := n.normalize receivedAt batch
    let (events, n'') := n'.normalizeAll rest
    (event :: events, n'')

/-- What the event of a batch has to be. -/
structure EventFor (devices : List DeviceConfig) (receivedAt : ℤ) (batch : RawBatch)
    (event : Event) : Prop where
  deviceId : event.deviceId = batch.deviceId
  source : event.source = batch.source
  /-- One reading for each sample, in the same order. -/
  readings : List.Forall₂ (ReadingFor devices batch.deviceId receivedAt) batch.samples
    event.readings
  /-- A reading depends on nothing but its sample, the configuration of the point and the time. -/
  pointwise : event.readings = batch.samples.map fun sample =>
    readingOf (findPoint devices batch.deviceId sample.point) receivedAt sample

theorem normalize_eventFor (n : Normalizer) (receivedAt : ℤ) (batch : RawBatch) :
    EventFor n.devices receivedAt batch (n.normalize receivedAt batch).1 where
  deviceId := rfl
  source := rfl
  readings := by
    show List.Forall₂ _ batch.samples (batch.samples.map _)
    rw [List.forall₂_map_right_iff, List.forall₂_same]
    intro sample _
    exact readingFor_normalizeSample n.accepted batch.deviceId receivedAt sample
  pointwise := by
    apply List.map_congr_left
    intro sample _
    exact normalizeSample_eq n.devices batch.deviceId receivedAt sample

/-- Permuting the samples of a batch permutes the readings with them. -/
theorem normalize_perm (n : Normalizer) (receivedAt : ℤ) (batch : RawBatch)
    {samples : List RawSample} (h : samples.Perm batch.samples) :
    (samples.zip (n.normalize receivedAt { batch with samples := samples }).1.readings).Perm
      (batch.samples.zip (n.normalize receivedAt batch).1.readings) := by
  have hzip : ∀ samples : List RawSample,
      samples.zip (n.normalize receivedAt { batch with samples := samples }).1.readings =
        samples.map fun sample =>
          (sample, normalizeSample n.devices batch.deviceId receivedAt sample) := by
    intro samples
    show samples.zip (samples.map _) = _
    rw [List.zip_eq_zipWith, List.zipWith_map_right, List.zipWith_self]
  have hbatch := hzip batch.samples
  rw [hzip samples, hbatch]
  exact h.map _

/-- **A sequence of batches** gives their events, and the counters move by what it contains. -/
theorem Normalizer.normalizeAll_events (n : Normalizer) (arrivals : List (ℤ × RawBatch)) :
    List.Forall₂ (fun arrival event => EventFor n.devices arrival.1 arrival.2 event) arrivals
      (n.normalizeAll arrivals).1 ∧
    (n.normalizeAll arrivals).2.stats = {
      batches := n.stats.batches + arrivals.length
      readings := n.stats.readings + (arrivals.map fun arrival => arrival.2.samples.length).sum
      badReadings := n.stats.badReadings +
        badCount ((n.normalizeAll arrivals).1.flatMap Event.readings) } := by
  induction arrivals generalizing n with
  | nil => exact ⟨.nil, by simp [normalizeAll, badCount]⟩
  | cons arrival rest ih =>
    obtain ⟨receivedAt, batch⟩ := arrival
    obtain ⟨hevents, hstats⟩ := ih (n.normalize receivedAt batch).2
    refine ⟨.cons (normalize_eventFor n receivedAt batch) hevents, ?_⟩
    show ((n.normalize receivedAt batch).2.normalizeAll rest).2.stats = _
    rw [hstats]
    have hlength : (n.normalize receivedAt batch).1.readings.length = batch.samples.length := by
      simp [normalize, normalizedEvent]
    have hbad : badCount ((n.normalizeAll ((receivedAt, batch) :: rest)).1.flatMap Event.readings) =
        badCount (n.normalize receivedAt batch).1.readings +
          badCount (((n.normalize receivedAt batch).2.normalizeAll rest).1.flatMap
            Event.readings) := by
      unfold badCount
      rw [← List.countP_append]
      rfl
    rw [hbad, List.map_cons, List.sum_cons, List.length_cons, ← hlength]
    simp only [normalize, badCount, NormalizerStats.mk.injEq]
    omega

/-- **Normalisation is one reading for each sample, with exact counters**, from a new normaliser
on. -/
theorem create_normalizeAll {config : GatewayConfig} {n : Normalizer}
    (h : Normalizer.create config = .ok n) (arrivals : List (ℤ × RawBatch)) :
    List.Forall₂ (fun arrival event => EventFor config.devices arrival.1 arrival.2 event) arrivals
      (n.normalizeAll arrivals).1 ∧
    (∀ (receivedAt : ℤ) (batch : RawBatch) (samples : List RawSample),
      samples.Perm batch.samples →
      (samples.zip ((n.normalizeAll arrivals).2.normalize receivedAt
        { batch with samples := samples }).1.readings).Perm
      (batch.samples.zip ((n.normalizeAll arrivals).2.normalize receivedAt batch).1.readings)) ∧
    (n.normalizeAll arrivals).2.stats.batches = arrivals.length ∧
    (n.normalizeAll arrivals).2.stats.readings =
      (arrivals.map fun arrival => arrival.2.samples.length).sum ∧
    (n.normalizeAll arrivals).2.stats.badReadings =
      badCount ((n.normalizeAll arrivals).1.flatMap Event.readings) := by
  have hnew : n.devices = config.devices ∧ n.stats = {} := by
    unfold Normalizer.create at h
    split at h
    · simp at h
    · obtain rfl := Except.ok.inj h
      exact ⟨rfl, rfl⟩
  obtain ⟨hevents, hstats⟩ := n.normalizeAll_events arrivals
  rw [hnew.1] at hevents
  rw [hnew.2] at hstats
  refine ⟨hevents, fun receivedAt batch samples hperm => normalize_perm _ _ _ hperm, ?_⟩
  rw [hstats]
  simp

/-- One device with one point, a string. -/
def labelledDevice : GatewayConfig where
  rawQueueCapacity := 1
  controlQueueCapacity := 1
  devices := [{
    id := lit "a"
    driver := { type := [], settingsJson := [], library := [] }
    connection := []
    points := [{ name := lit "p", type := .string, unit := lit "bar", address := [],
                 scale := .zero, offset := .zero, minimum := none, maximum := none }] }]
  groups := []

/-- A sample of that point, one of a point that is not configured, and a batch of another device. -/
def labelledArrivals : List (ℤ × RawBatch) :=
  [(5, { deviceId := lit "a", source := [],
         samples := [{ point := lit "p", value := .boolean true },
                     { point := lit "q", value := .integer 3 }] }),
   (4, { deviceId := lit "b", source := [], samples := [{ point := lit "p", value := .integer 1 }] })]

theorem create_labelledDevice : ∃ n, Normalizer.create labelledDevice = .ok n :=
  Throwing.exists_eq_ok (by decide +kernel)

/-- The reading of the configured point is Good and a string; the two others are bad. -/
theorem create_normalizeAll_labelledDevice : ∃ n, Normalizer.create labelledDevice = .ok n ∧
    (n.normalizeAll labelledArrivals).1.map Event.readings =
      [[{ point := lit "p", value := .string (lit "true"), quality := .good, unit := lit "bar",
          sourceTimeNs := 5, receivedTimeNs := 5, derived := false },
        { point := lit "q", value := .integer 3, quality := .bad, unit := [],
          sourceTimeNs := 5, receivedTimeNs := 5, derived := false }],
       [{ point := lit "p", value := .integer 1, quality := .bad, unit := [],
          sourceTimeNs := 4, receivedTimeNs := 4, derived := false }]] ∧
    (n.normalizeAll labelledArrivals).2.stats.batches = 2 ∧
    (n.normalizeAll labelledArrivals).2.stats.readings = 3 ∧
    (n.normalizeAll labelledArrivals).2.stats.badReadings = 2 := by
  let n : Normalizer := { devices := labelledDevice.devices, accepted := by decide +kernel }
  have hcreate : Normalizer.create labelledDevice = .ok n := rfl
  obtain ⟨-, -, hbatches, hreadings, hbad⟩ := create_normalizeAll hcreate labelledArrivals
  have hbadCount : badCount ((n.normalizeAll labelledArrivals).1.flatMap Event.readings) = 2 := by
    decide +kernel
  exact ⟨n, hcreate, by decide +kernel, hbatches, hreadings, hbad.trans hbadCount⟩

end MiniGateway
