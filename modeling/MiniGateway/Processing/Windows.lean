/-
  Window averages as averages over the history.

  `WindowAverageProcessor` keeps a deque for each device and trims it as values arrive.  What it is
  for needs no deque: the qualifying events of a device have values (`QualifyingValues`, computed by
  `qualifying`), the stored deque is the end of that list (`Remembers`), and an event is given an
  average when it qualifies and the list has reached the window (`Averaged`).  One event keeps the
  first relation and establishes the second (`Remembers.process`); the rest is induction over the
  events.
-/
import MiniGateway.Processing

namespace MiniGateway

open Binary64 (Double)

/-! ### Inputs -/

/-- The first reading of this name is Good and holds this number. -/
structure Qualifies (event : Event) (point : ByteString) (reading : Reading) (value : Double) :
    Prop where
  first : findReading event point = some reading
  quality : reading.quality = .good
  value : numericValue reading.value = some value

theorem findInput_eq_some_iff {event : Event} {point : ByteString} {reading : Reading}
    {value : Double} :
    findInput event point = some (reading, value) ↔ Qualifies event point reading value := by
  constructor
  · intro h
    obtain ⟨found, hfind, hrest⟩ := Option.bind_eq_some_iff.mp h
    by_cases hquality : found.quality = .good
    · rw [if_neg (not_not.mpr hquality)] at hrest
      obtain ⟨number, hnumber, heq⟩ := Option.bind_eq_some_iff.mp hrest
      obtain ⟨rfl, rfl⟩ : found = reading ∧ number = value := by simpa using heq
      exact ⟨hfind, hquality, hnumber⟩
    · rw [if_pos hquality] at hrest
      simp at hrest
  · rintro ⟨hfirst, hquality, hvalue⟩
    simp [findInput, hfirst, hquality, hvalue]

/-! ### The end of a list -/

theorem lastValues_suffix (window : ℕ) (values : List Double) :
    lastValues window values <:+ values := List.drop_suffix _ _

theorem length_lastValues (window : ℕ) (values : List Double) :
    (lastValues window values).length = min values.length window := by
  rw [lastValues, List.length_drop]
  omega

/-- Trimming before a value arrives makes no difference to trimming after. -/
theorem lastValues_append_singleton (window : ℕ) (values : List Double) (value : Double) :
    lastValues window (lastValues window values ++ [value]) =
      lastValues window (values ++ [value]) := by
  have hlength := length_lastValues window values
  unfold lastValues at hlength ⊢
  by_cases hshort : values.length ≤ window
  · -- nothing has been trimmed
    have hzero : values.length - window = 0 := by omega
    rw [hzero, List.drop_zero]
  · rw [← List.drop_append_of_le_length (by omega), List.drop_drop]
    congr 1
    simp only [List.length_drop, List.length_append, List.length_singleton]
    omega

namespace WindowAverageProcessor

/-! ### One event -/

variable {p : WindowAverageProcessor} {event : Event} {input : Reading} {value : Double}

/-- The reading that a full window adds. -/
def averageReading (p : WindowAverageProcessor) (values : List Double) (input : Reading) :
    Reading :=
  derivedReading p.output (.double ((accumulate values).div (Double.ofInt p.window)))
    input.sourceTimeNs input.receivedTimeNs

theorem process_none (h : findInput event p.input = none) : p.process event = (event, p) := by
  simp [process, h]

/-- A value enters the deque of its device; a full window adds its average to the event. -/
theorem process_some (h : findInput event p.input = some (input, value)) :
    p.process event =
      (if (p.values event.deviceId value).length = p.window then
          event.push (p.averageReading (p.values event.deviceId value) input)
        else event,
        { p with windows :=
            Function.update p.windows event.deviceId (p.values event.deviceId value) }) := by
  by_cases hfull : (p.values event.deviceId value).length = p.window
  · simp [process, h, hfull, averageReading]
  · simp [process, h, hfull]

/-- The settings do not change. -/
theorem process_settings (p : WindowAverageProcessor) (event : Event) :
    (p.process event).2.input = p.input ∧ (p.process event).2.output = p.output ∧
      (p.process event).2.window = p.window := by
  cases hfind : findInput event p.input with
  | none => rw [process_none hfind]; exact ⟨rfl, rfl, rfl⟩
  | some input => rw [process_some hfind]; exact ⟨rfl, rfl, rfl⟩

@[simp] theorem process_input (p : WindowAverageProcessor) (event : Event) :
    (p.process event).2.input = p.input := (p.process_settings event).1

@[simp] theorem process_output (p : WindowAverageProcessor) (event : Event) :
    (p.process event).2.output = p.output := (p.process_settings event).2.1

@[simp] theorem process_window (p : WindowAverageProcessor) (event : Event) :
    (p.process event).2.window = p.window := (p.process_settings event).2.2

theorem process_deviceId (p : WindowAverageProcessor) (event : Event) :
    (p.process event).1.deviceId = event.deviceId := by
  cases hfind : findInput event p.input with
  | none => rw [process_none hfind]
  | some input =>
    rw [process_some hfind]
    split_ifs <;> rfl

/-! ### The history of a device -/

/-- The value with which an event counts for the average of `deviceId`. -/
def valueFor (p : WindowAverageProcessor) (deviceId : ByteString) (event : Event) :
    Option Double :=
  if event.deviceId = deviceId then (findInput event p.input).map Prod.snd else none

/-- The values of the qualifying events of a device, in order of arrival. -/
def qualifying (p : WindowAverageProcessor) (deviceId : ByteString) (events : List Event) :
    List Double :=
  events.filterMap (p.valueFor deviceId)

theorem qualifying_append_singleton (p : WindowAverageProcessor) (deviceId : ByteString)
    (earlier : List Event) (event : Event) :
    p.qualifying deviceId (earlier ++ [event]) =
      p.qualifying deviceId earlier ++ (p.valueFor deviceId event).toList := by
  unfold qualifying
  rw [List.filterMap_append]
  cases hvalue : p.valueFor deviceId event <;> simp [hvalue]

theorem qualifying_process (p : WindowAverageProcessor) (event : Event) :
    (p.process event).2.qualifying = p.qualifying := by
  unfold qualifying valueFor
  simp

/-- The values of the events of a device whose reading named `point` qualifies, in order of
arrival. -/
inductive QualifyingValues (point deviceId : ByteString) : List Event → List Double → Prop
  | nil : QualifyingValues point deviceId [] []
  | qualifies {events : List Event} {values : List Double} {event : Event} {reading : Reading}
      {value : Double} (h : QualifyingValues point deviceId events values)
      (hdevice : event.deviceId = deviceId) (hvalue : Qualifies event point reading value) :
      QualifyingValues point deviceId (events ++ [event]) (values ++ [value])
  | skipped {events : List Event} {values : List Double} {event : Event}
      (h : QualifyingValues point deviceId events values)
      (hother : event.deviceId = deviceId → ∀ reading value, ¬Qualifies event point reading value) :
      QualifyingValues point deviceId (events ++ [event]) values

theorem valueFor_eq_some {p : WindowAverageProcessor} {event : Event} {reading : Reading}
    {value : Double} (h : Qualifies event p.input reading value) :
    p.valueFor event.deviceId event = some value := by
  rw [valueFor, if_pos rfl, findInput_eq_some_iff.mpr h]
  rfl

theorem valueFor_eq_none {p : WindowAverageProcessor} {deviceId : ByteString} {event : Event}
    (h : event.deviceId = deviceId → ∀ reading value, ¬Qualifies event p.input reading value) :
    p.valueFor deviceId event = none := by
  unfold valueFor
  split_ifs with hdevice
  · cases hfind : findInput event p.input with
    | none => rfl
    | some found => exact absurd (findInput_eq_some_iff.mp hfind) (h hdevice _ _)
  · rfl

/-- There is one such list, and `qualifying` computes it. -/
theorem qualifyingValues_iff {p : WindowAverageProcessor} {deviceId : ByteString}
    {events : List Event} {values : List Double} :
    QualifyingValues p.input deviceId events values ↔ values = p.qualifying deviceId events := by
  constructor
  · intro h
    induction h with
    | nil => rfl
    | qualifies h hdevice hvalue ih =>
      rw [qualifying_append_singleton, ← ih, ← hdevice, valueFor_eq_some hvalue]
      rfl
    | skipped h hother ih =>
      rw [qualifying_append_singleton, ← ih, valueFor_eq_none hother]
      simp
  · -- the history grows at its end, so the induction is on the last event
    rintro rfl
    induction events using List.reverseRecOn with
    | nil => exact .nil
    | append_singleton events event ih =>
      rw [qualifying_append_singleton]
      by_cases hqualifies : event.deviceId = deviceId ∧
          ∃ reading value, Qualifies event p.input reading value
      · obtain ⟨rfl, reading, value, hvalue⟩ := hqualifies
        rw [valueFor_eq_some hvalue]
        exact ih.qualifies rfl hvalue
      · have hother : event.deviceId = deviceId →
            ∀ reading value, ¬Qualifies event p.input reading value := by
          intro hdevice reading value hvalue
          exact hqualifies ⟨hdevice, reading, value, hvalue⟩
        rw [valueFor_eq_none hother, Option.toList_none, List.append_nil]
        exact ih.skipped hother

/-- The deques hold the last values of the events so far. -/
def Remembers (p : WindowAverageProcessor) (earlier : List Event) : Prop :=
  ∀ deviceId, p.windows deviceId = lastValues p.window (p.qualifying deviceId earlier)

/-- What the history says about the event that comes after `earlier`: it is given a reading exactly
when it qualifies and completes a window, and that reading holds the average of the window. -/
structure Averaged (p : WindowAverageProcessor) (earlier : List Event) (event event' : Event) :
    Prop where
  changed_iff : event' ≠ event ↔ (findInput event p.input).isSome ∧
    p.window ≤ (p.qualifying event.deviceId (earlier ++ [event])).length
  average : ∀ input value, findInput event p.input = some (input, value) →
    p.window ≤ (p.qualifying event.deviceId (earlier ++ [event])).length →
    event' = event.push (p.averageReading
      (lastValues p.window (p.qualifying event.deviceId (earlier ++ [event]))) input)

theorem push_ne (event : Event) (reading : Reading) : event.push reading ≠ event := by
  intro heq
  have hlength := congrArg (fun e => e.readings.length) heq
  simp [Event.push] at hlength

/-- The deque that a qualifying event leaves is the end of the history that includes it. -/
theorem Remembers.values {p : WindowAverageProcessor} {earlier : List Event}
    (h : p.Remembers earlier) {event : Event} {input : Reading} {value : Double}
    (hfind : findInput event p.input = some (input, value)) :
    p.values event.deviceId value =
      lastValues p.window (p.qualifying event.deviceId (earlier ++ [event])) := by
  rw [qualifying_append_singleton, valueFor_eq_some (findInput_eq_some_iff.mp hfind),
    WindowAverageProcessor.values, h, lastValues_append_singleton]
  rfl

/-- **One event.**  The processor keeps the end of the history, and the event gets what the history
says. -/
theorem Remembers.process {p : WindowAverageProcessor} {earlier : List Event}
    (h : p.Remembers earlier) (event : Event) :
    (p.process event).2.Remembers (earlier ++ [event]) ∧
      p.Averaged earlier event (p.process event).1 := by
  cases hfind : findInput event p.input with
  | none =>
    have hvalue : ∀ deviceId, p.valueFor deviceId event = none := by simp [valueFor, hfind]
    rw [process_none hfind]
    constructor
    · intro deviceId
      rw [qualifying_append_singleton, hvalue]
      simpa using h deviceId
    · exact ⟨by simp [hfind], by simp [hfind]⟩
  | some input =>
    obtain ⟨reading, value⟩ := input
    have hvalues := h.values hfind
    rw [process_some hfind]
    constructor
    · intro deviceId
      show Function.update p.windows event.deviceId _ deviceId = lastValues p.window
        (p.qualifying deviceId (earlier ++ [event]))
      by_cases hdevice : event.deviceId = deviceId
      · subst hdevice
        rw [Function.update_self, hvalues]
      · have hvalue : p.valueFor deviceId event = none := by rw [valueFor, if_neg hdevice]
        rw [Function.update_of_ne (Ne.symm hdevice), qualifying_append_singleton, hvalue, h deviceId]
        simp
    · -- the deque is full exactly when the history has reached the window
      have hfull : (p.values event.deviceId value).length = p.window ↔
          p.window ≤ (p.qualifying event.deviceId (earlier ++ [event])).length := by
        rw [hvalues, length_lastValues]
        omega
      simp only [hfull]
      constructor
      · rw [hfind, Option.isSome_some]
        split_ifs with hlength
        · simp [hlength, push_ne]
        · simp [hlength]
      · intro input' value' hinput hlength
        obtain ⟨rfl, rfl⟩ : reading = input' ∧ value = value' := by simpa [hfind] using hinput
        rw [if_pos hlength, hvalues]

/-! ### A sequence of events -/

/-- The events behind the processor, and the processor after them. -/
def processEvents (p : WindowAverageProcessor) :
    List Event → List Event × WindowAverageProcessor
  | [] => ([], p)
  | event :: rest =>
    let (event', p') := p.process event
    let (rest', p'') := p'.processEvents rest
    (event' :: rest', p'')

/-- The settings do not change. -/
theorem processEvents_settings (p : WindowAverageProcessor) (events : List Event) :
    (p.processEvents events).2.window = p.window ∧
      (p.processEvents events).2.qualifying = p.qualifying := by
  induction events generalizing p with
  | nil => exact ⟨rfl, rfl⟩
  | cons event rest ih =>
    obtain ⟨hwindow, hqualifying⟩ := ih (p.process event).2
    exact ⟨hwindow.trans (p.process_window event), hqualifying.trans (p.qualifying_process event)⟩

theorem Averaged.of_process {p : WindowAverageProcessor} {earlier : List Event}
    {first event event' : Event} (h : (p.process first).2.Averaged earlier event event') :
    p.Averaged earlier event event' := by
  obtain ⟨hchanged, haverage⟩ := h
  simp only [process_input, process_window, process_output, qualifying_process, averageReading]
    at hchanged haverage
  exact ⟨hchanged, haverage⟩

/-- A sequence of events leaves the end of its history behind. -/
theorem Remembers.processEvents {p : WindowAverageProcessor} {earlier : List Event}
    (h : p.Remembers earlier) (events : List Event) :
    (p.processEvents events).2.Remembers (earlier ++ events) := by
  induction events generalizing p earlier with
  | nil => rwa [List.append_nil]
  | cons event rest ih =>
    have hrest := ih (h.process event).1
    rwa [List.append_assoc] at hrest

/-- Every event of a sequence gets what the history before it says. -/
theorem Remembers.averaged {p : WindowAverageProcessor} {earlier : List Event}
    (h : p.Remembers earlier) {events : List Event} {i : ℕ} {event : Event}
    (hi : events[i]? = some event) :
    ∃ event', (p.processEvents events).1[i]? = some event' ∧
      p.Averaged (earlier ++ events.take i) event event' := by
  induction events generalizing p earlier i with
  | nil => simp at hi
  | cons first rest ih =>
    cases i with
    | zero =>
      obtain rfl : first = event := by simpa using hi
      refine ⟨_, rfl, ?_⟩
      rw [List.take_zero, List.append_nil]
      exact (h.process first).2
    | succ i =>
      obtain ⟨event', hevent', haveraged⟩ := ih (h.process first).1 (i := i) (by simpa using hi)
      refine ⟨event', hevent', ?_⟩
      rw [List.append_assoc] at haveraged
      exact haveraged.of_process

/-! ### One device among others -/

/-- Processors with the same settings whose deques of one device agree. -/
structure AgreeOn (deviceId : ByteString) (p q : WindowAverageProcessor) : Prop where
  input : q.input = p.input
  output : q.output = p.output
  window : q.window = p.window
  windows : q.windows deviceId = p.windows deviceId

/-- An event of that device is treated alike, and the deques agree again. -/
theorem AgreeOn.process {deviceId : ByteString} {p q : WindowAverageProcessor}
    (h : AgreeOn deviceId p q) {event : Event} (hdevice : event.deviceId = deviceId) :
    (q.process event).1 = (p.process event).1 ∧
      AgreeOn deviceId (p.process event).2 (q.process event).2 := by
  have hvalues : ∀ value, q.values event.deviceId value = p.values event.deviceId value := by
    intro value
    rw [values, values, h.window, hdevice, h.windows]
  cases hfind : findInput event p.input with
  | none =>
    rw [process_none hfind, process_none (h.input ▸ hfind)]
    exact ⟨rfl, h⟩
  | some input =>
    have hreading : ∀ values, q.averageReading values input.1 = p.averageReading values input.1 := by
      intro values
      rw [averageReading, averageReading, h.output, h.window]
    rw [process_some hfind, process_some (h.input ▸ hfind), hvalues, hreading]
    refine ⟨?_, h.input, h.output, h.window, ?_⟩
    · simp only [h.window]
    · simp [← hdevice]

/-- An event of another device leaves the deque of this one. -/
theorem AgreeOn.process_other {deviceId : ByteString} {p q : WindowAverageProcessor}
    (h : AgreeOn deviceId p q) {event : Event} (hdevice : event.deviceId ≠ deviceId) :
    AgreeOn deviceId (p.process event).2 q := by
  cases hfind : findInput event p.input with
  | none =>
    rw [process_none hfind]
    exact h
  | some input =>
    rw [process_some hfind]
    refine ⟨h.input, h.output, h.window, ?_⟩
    show q.windows deviceId = Function.update p.windows event.deviceId _ deviceId
    rw [Function.update_of_ne (Ne.symm hdevice), h.windows]

/-- What comes out for one device is what comes out when the others are silent. -/
theorem AgreeOn.processEvents {deviceId : ByteString} {p q : WindowAverageProcessor}
    (h : AgreeOn deviceId p q) (events : List Event) :
    (p.processEvents events).1.filter (fun event => event.deviceId == deviceId) =
      (q.processEvents (events.filter fun event => event.deviceId == deviceId)).1 := by
  induction events generalizing p q with
  | nil => rfl
  | cons event rest ih =>
    by_cases hdevice : event.deviceId = deviceId
    · obtain ⟨hevent, hagree⟩ := h.process hdevice
      have hkeep : ((p.process event).1.deviceId == deviceId) = true := by
        simp [process_deviceId, hdevice]
      have hfirst : (event.deviceId == deviceId) = true := by simp [hdevice]
      simp only [WindowAverageProcessor.processEvents, List.filter_cons, hkeep, hfirst, if_true,
        hevent, ih hagree]
    · have hdrop : ((p.process event).1.deviceId == deviceId) = false := by
        simp [process_deviceId, hdevice]
      have hfirst : (event.deviceId == deviceId) = false := by simp [hdevice]
      simp only [WindowAverageProcessor.processEvents, List.filter_cons, hdrop, hfirst,
        Bool.false_eq_true, if_false]
      exact ih (h.process_other hdevice)

/-! ### From the constructor on -/

theorem create_eq_ok {input output : ByteString} {window : ℕ} {hwindow : window < 2 ^ 64}
    {p : WindowAverageProcessor} (h : create input window output hwindow = .ok p) :
    p.input = input ∧ p.output = output ∧ p.window = window ∧ p.Remembers [] := by
  unfold create at h
  split_ifs at h
  obtain rfl := Except.ok.inj h
  refine ⟨rfl, rfl, rfl, fun deviceId => ?_⟩
  simp [qualifying, lastValues]

/-- **Window averages are the averages of the last values of the same device.**  After any events
the deque of a device is the end of its history; every event gets a reading exactly when it
qualifies and completes a window, with the average of that window, summed from the oldest value on;
and the other devices do not matter. -/
theorem windowAverage_history {input output : ByteString} {window : ℕ}
    {hwindow : window < 2 ^ 64} {p : WindowAverageProcessor}
    (h : create input window output hwindow = .ok p) (events : List Event) :
    (∀ deviceId, ∃! values, QualifyingValues input deviceId events values) ∧
    (∀ deviceId values, QualifyingValues input deviceId events values →
      (p.processEvents events).2.windows deviceId <:+ values ∧
        ((p.processEvents events).2.windows deviceId).length = min values.length window) ∧
    (∀ (i : ℕ) event values, events[i]? = some event →
      QualifyingValues input event.deviceId (events.take (i + 1)) values →
      ∃ event', (p.processEvents events).1[i]? = some event' ∧
        (event' ≠ event ↔
          (∃ reading value, Qualifies event input reading value) ∧ window ≤ values.length) ∧
        ∀ reading value, Qualifies event input reading value → window ≤ values.length →
          ∃ last, last <:+ values ∧ last.length = window ∧
            event' = event.push (derivedReading output
              (.double ((last.foldl Double.add Double.zero).div (Double.ofInt window)))
              reading.sourceTimeNs reading.receivedTimeNs)) ∧
    ∀ deviceId, (p.processEvents events).1.filter (fun event => event.deviceId == deviceId) =
      (p.processEvents (events.filter fun event => event.deviceId == deviceId)).1 := by
  obtain ⟨rfl, rfl, rfl, hstart⟩ := create_eq_ok h
  obtain ⟨hwindow', hqualifying⟩ := p.processEvents_settings events
  refine ⟨fun deviceId => ?_, fun deviceId values hvalues => ?_,
    fun i event values hi hvalues => ?_, fun deviceId => ?_⟩
  · exact ⟨_, qualifyingValues_iff.mpr rfl, fun values => qualifyingValues_iff.mp⟩
  · obtain rfl := qualifyingValues_iff.mp hvalues
    have hstored := hstart.processEvents events deviceId
    rw [hwindow', hqualifying, List.nil_append] at hstored
    rw [hstored]
    exact ⟨lastValues_suffix _ _, length_lastValues _ _⟩
  · -- the event itself is the last of its history
    have htake : events.take (i + 1) = events.take i ++ [event] := by
      rw [List.take_add_one, hi, Option.toList_some]
    rw [htake] at hvalues
    obtain rfl := qualifyingValues_iff.mp hvalues
    obtain ⟨event', hevent', haveraged⟩ := hstart.averaged hi
    rw [List.nil_append] at haveraged
    refine ⟨event', hevent', ?_, fun reading value hvalue hlength => ?_⟩
    · simp only [haveraged.changed_iff, Option.isSome_iff_exists, Prod.exists,
        findInput_eq_some_iff]
    · refine ⟨_, lastValues_suffix _ _, ?_,
        haveraged.average reading value (findInput_eq_some_iff.mpr hvalue) hlength⟩
      rw [length_lastValues, min_eq_right hlength]
  · exact AgreeOn.processEvents ⟨rfl, rfl, rfl, rfl⟩ events

/-- A Good integer `x`. -/
def integerReading (value : Int64) : Reading where
  point := lit "x"
  value := .integer value
  unit := []
  sourceTimeNs := 0
  receivedTimeNs := 0

/-- An event of `deviceId` that holds that reading. -/
def oneReading (deviceId : ByteString) (value : Int64) : Event where
  eventId := []
  deviceId := deviceId
  source := []
  readings := [integerReading value]
  modelVersion := []

/-- Such an event qualifies. -/
theorem qualifies_oneReading (deviceId : ByteString) (value : Int64) :
    Qualifies (oneReading deviceId value) (lit "x") (integerReading value)
      (Double.ofInt value.toInt) := ⟨rfl, rfl, rfl⟩

/-- Two devices take turns before a window of two; the third event completes the window of the
first device, whose values one and three have the average two. -/
theorem windowAverage_history_twoDevices : ∃ p,
    create (lit "x") 2 (lit "mean") (by decide) = .ok p ∧
      (p.processEvents [oneReading (lit "a") 1, oneReading (lit "b") 7,
        oneReading (lit "a") 3]).2.windows (lit "a") = [Double.ofInt 1, Double.ofInt 3] ∧
      (p.processEvents [oneReading (lit "a") 1, oneReading (lit "b") 7,
        oneReading (lit "a") 3]).1[2]? = some ((oneReading (lit "a") 3).push
          (derivedReading (lit "mean") (.double (Double.ofInt 2)) 0 0)) := by
  have hnames : lit "x" ≠ [] ∧ lit "mean" ≠ [] ∧ 2 ≠ 0 := by decide +kernel
  have hcreate : create (lit "x") 2 (lit "mean") (by decide) = .ok
      { input := lit "x", window := 2, output := lit "mean", accepted := hnames
        window_lt := by decide } := dif_pos hnames
  have hother : (oneReading (lit "b") 7).deviceId = lit "a" → ∀ reading value,
      ¬Qualifies (oneReading (lit "b") 7) (lit "x") reading value :=
    fun hdevice => absurd hdevice (by decide)
  have hvalues : QualifyingValues (lit "x") (lit "a")
      [oneReading (lit "a") 1, oneReading (lit "b") 7, oneReading (lit "a") 3]
      [Double.ofInt 1, Double.ofInt 3] :=
    QualifyingValues.qualifies (.skipped (.qualifies .nil rfl (qualifies_oneReading (lit "a") 1))
      hother) rfl (qualifies_oneReading (lit "a") 3)
  obtain ⟨-, hdeque, haverage, -⟩ := windowAverage_history hcreate
    [oneReading (lit "a") 1, oneReading (lit "b") 7, oneReading (lit "a") 3]
  obtain ⟨hsuffix, hlength⟩ := hdeque (lit "a") _ hvalues
  obtain ⟨event', hevent', -, hpushed⟩ := haverage 2 _ _ rfl hvalues
  obtain ⟨last, hlast, hfull, rfl⟩ := hpushed _ _ (qualifies_oneReading _ 3) le_rfl
  obtain rfl := hlast.eq_of_length hfull
  refine ⟨_, hcreate, hsuffix.eq_of_length hlength, hevent'.trans ?_⟩
  have hmean : (([Double.ofInt 1, Double.ofInt 3].foldl Double.add Double.zero).div
      (Double.ofInt (2 : ℕ))) = Double.ofInt 2 := by decide +kernel
  rw [hmean]
  rfl

end WindowAverageProcessor

end MiniGateway
