/-
  What a pipeline does to the events it is given: it appends.

  Each processor either leaves the event alone or appends one reading of its own, made from inputs
  that it finds in the event as the processors before it left it (`Processor.process_cases`).  For
  a whole pipeline this is `Appended`, a list with one entry for each processor; `model_version`
  moves only with an entry of an inference.  A processor keeps its settings from event to event
  (`SameSettings`), so what holds of the processors at the start holds along every sequence of
  events (`processEvents_appended`).
-/
import Mathlib.Data.List.ReduceOption
import MiniGateway.DataPath
import MiniGateway.Processing.Windows

namespace MiniGateway

open Binary64 (Double)

/-! ### One processor -/

namespace Processor

/-- The name of the reading that a processor appends. -/
def output : Processor → ByteString
  | .threshold p => p.output
  | .windowAverage p => p.output
  | .inference p => p.output

/-- The names of the readings that a processor needs. -/
def inputs : Processor → List ByteString
  | .threshold p => [p.input]
  | .windowAverage p => [p.input]
  | .inference p => p.inputs

def isInference : Processor → Bool
  | .inference _ => true
  | _ => false

/-- The two processors are of one kind, with the same names. -/
structure SameSettings (p q : Processor) : Prop where
  output : p.output = q.output
  inputs : p.inputs = q.inputs
  isInference : p.isInference = q.isInference

theorem SameSettings.refl (p : Processor) : p.SameSettings p := ⟨rfl, rfl, rfl⟩

theorem SameSettings.trans {p q r : Processor} (h : p.SameSettings q) (h' : q.SameSettings r) :
    p.SameSettings r :=
  ⟨h.output.trans h'.output, h.inputs.trans h'.inputs, h.isInference.trans h'.isInference⟩

end Processor

/-- The first reading of this name is Good and holds a number. -/
def Resolves (event : Event) (point : ByteString) (reading : Reading) : Prop :=
  findReading event point = some reading ∧ reading.quality = .good ∧
    ∃ value, numericValue reading.value = some value

theorem resolves_of_findInput {event : Event} {point : ByteString} {reading : Reading}
    {value : Double} (h : findInput event point = some (reading, value)) :
    Resolves event point reading := by
  obtain ⟨hfirst, hquality, hvalue⟩ := findInput_eq_some_iff.mp h
  exact ⟨hfirst, hquality, value, hvalue⟩

/-- `reading` is what a processor with these settings may append to `event`. -/
structure Processor.Appends (p : Processor) (event : Event) (reading : Reading) : Prop where
  point : reading.point = p.output
  quality : reading.quality = .good
  derived : reading.derived = true
  /-- Every input resolves. -/
  resolved : ∀ point ∈ p.inputs, ∃ input, Resolves event point input
  /-- The times are those of one of the inputs. -/
  times : ∃ point ∈ p.inputs, ∃ input, Resolves event point input ∧
    reading.sourceTimeNs = input.sourceTimeNs ∧ reading.receivedTimeNs = input.receivedTimeNs

theorem Processor.Appends.of_same {p q : Processor} {event : Event} {reading : Reading}
    (h : p.Appends event reading) (hsame : q.SameSettings p) : q.Appends event reading where
  point := h.point.trans hsame.output.symm
  quality := h.quality
  derived := h.derived
  resolved := hsame.inputs ▸ h.resolved
  times := hsame.inputs ▸ h.times

/-- The loop of an inference that reaches its end has resolved every input, and the times it
carries are those of the last one. -/
theorem sumSquares_resolved {event : Event} {points : List ByteString}
    {sum sum' : InferenceProcessor.Sum}
    (h : InferenceProcessor.sumSquares event sum points = some sum') :
    (∀ point ∈ points, ∃ input, Resolves event point input) ∧
    (points ≠ [] → ∃ point ∈ points, ∃ input, Resolves event point input ∧
      sum'.sourceTime = input.sourceTimeNs ∧ sum'.receivedTime = input.receivedTimeNs) := by
  induction points generalizing sum with
  | nil => simp
  | cons point rest ih =>
    obtain ⟨⟨reading, value⟩, hfind, hrest⟩ := Option.bind_eq_some_iff.mp h
    have hresolves := resolves_of_findInput hfind
    obtain ⟨hall, hlast⟩ := ih hrest
    constructor
    · intro name hname
      rcases List.mem_cons.mp hname with rfl | hname
      · exact ⟨reading, hresolves⟩
      · exact hall name hname
    · intro _
      by_cases hempty : rest = []
      · -- the loop ends here with the times of this input
        subst hempty
        obtain rfl := Option.some.inj hrest
        exact ⟨point, List.mem_cons_self, reading, hresolves, rfl, rfl⟩
      · obtain ⟨name, hname, htimes⟩ := hlast hempty
        exact ⟨name, List.mem_cons_of_mem _ hname, htimes⟩

/-- The event behind a processor that appended `reading`. -/
def Processor.pushed (p : Processor) (event : Event) (reading : Reading) : Event :=
  { event.push reading with
    modelVersion := if p.isInference then lit "demo-rms-v1" else event.modelVersion }

/-- What a processor with a single input appends. -/
theorem Processor.Appends.single {p : Processor} {event : Event} {point : ByteString}
    {input : Reading} {number : Double} (hinputs : p.inputs = [point])
    (hfind : findInput event point = some (input, number)) (value : Scalar) :
    p.Appends event
      (derivedReading p.output value input.sourceTimeNs input.receivedTimeNs) where
  point := rfl
  quality := rfl
  derived := rfl
  resolved := by
    intro name hname
    rw [hinputs, List.mem_singleton] at hname
    exact ⟨input, hname ▸ resolves_of_findInput hfind⟩
  times := ⟨point, by simp [hinputs], input, resolves_of_findInput hfind, rfl, rfl⟩

/-- **One processor** leaves the event alone or appends one reading. -/
theorem Processor.process_cases (p : Processor) (nowNs : ℤ) (event : Event) :
    (p.process nowNs event).1 = event ∨
      ∃ reading, p.Appends event reading ∧
        (p.process nowNs event).1 = p.pushed event reading := by
  cases p with
  | threshold p =>
    cases hfind : findInput event p.input with
    | none => left; simp [Processor.process, ThresholdProcessor.process, hfind]
    | some input =>
      right
      refine ⟨_, Appends.single rfl hfind (.boolean (p.greaterThan.lt input.2)), ?_⟩
      simp [Processor.process, ThresholdProcessor.process, hfind, pushed, isInference, output,
        Event.push]
  | windowAverage p =>
    cases hfind : findInput event p.input with
    | none =>
      left
      show (p.process event).1 = event
      rw [WindowAverageProcessor.process_none hfind]
    | some input =>
      show (p.process event).1 = event ∨ ∃ reading, _ ∧ (p.process event).1 = _
      rw [WindowAverageProcessor.process_some hfind]
      by_cases hfull : (p.values event.deviceId input.2).length = p.window
      · right
        refine ⟨p.averageReading (p.values event.deviceId input.2) input.1,
          Appends.single rfl hfind _, ?_⟩
        exact if_pos hfull
      · left
        exact if_neg hfull
  | inference p =>
    cases hsum : InferenceProcessor.sumSquares event ⟨Double.zero, nowNs, nowNs⟩ p.inputs with
    | none => left; simp [Processor.process, InferenceProcessor.process, hsum]
    | some sum =>
      right
      obtain ⟨hall, hlast⟩ := sumSquares_resolved hsum
      refine ⟨derivedReading p.output
        (.double (sum.squaredSum.div (Double.ofInt p.inputs.length)).sqrt) sum.sourceTime
        sum.receivedTime, ⟨rfl, rfl, rfl, hall, hlast p.accepted.2⟩, ?_⟩
      simp [Processor.process, InferenceProcessor.process, hsum, pushed, isInference]

/-- A processor keeps its settings. -/
theorem Processor.process_same (p : Processor) (nowNs : ℤ) (event : Event) :
    p.SameSettings (p.process nowNs event).2 := by
  cases p with
  | threshold p => exact .refl _
  | inference p => exact .refl _
  | windowAverage p =>
    exact ⟨(p.process_output event).symm, by simp [inputs, Processor.process], rfl⟩

/-! ### A pipeline -/

/-- The event that has reached a processor when `readings` have been appended so far. -/
def Event.extend (event : Event) (readings : List Reading) : Event :=
  { event with readings := event.readings ++ readings }

/-- `event'` is `event` with the readings that the processors appended; `added` has an entry for
each processor, `none` where it appended nothing. -/
structure Appended (processors : List Processor) (event : Event) (added : List (Option Reading))
    (event' : Event) : Prop where
  length : added.length = processors.length
  eventId : event'.eventId = event.eventId
  deviceId : event'.deviceId = event.deviceId
  source : event'.source = event.source
  readings : event'.readings = event.readings ++ added.reduceOption
  /-- Each reading is appended to what the processors before have left. -/
  appends : ∀ (i : ℕ) p reading, processors[i]? = some p → added[i]? = some (some reading) →
    p.Appends (event.extend (added.take i).reduceOption) reading
  /-- Only an inference that appends sets the version. -/
  modelVersion : event'.modelVersion ≠ event.modelVersion →
    ∃ (i : ℕ) (p : Processor) (reading : Reading), processors[i]? = some p ∧
      p.isInference = true ∧ added[i]? = some (some reading)

/-- What a processor may append depends on the readings alone. -/
theorem Processor.Appends.congr {p : Processor} {event event' : Event} {reading : Reading}
    (h : p.Appends event reading) (hreadings : event'.readings = event.readings) :
    p.Appends event' reading := by
  have hresolves : ∀ point input, Resolves event point input → Resolves event' point input := by
    intro point input hinput
    rwa [Resolves, findReading, hreadings]
  refine ⟨h.point, h.quality, h.derived, fun point hpoint => ?_, ?_⟩
  · obtain ⟨input, hinput⟩ := h.resolved point hpoint
    exact ⟨input, hresolves point input hinput⟩
  · obtain ⟨point, hpoint, input, hinput, htimes⟩ := h.times
    exact ⟨point, hpoint, input, hresolves point input hinput, htimes⟩

/-- A processor that left the event alone, before others. -/
theorem Appended.skip {p : Processor} {processors : List Processor} {event event' : Event}
    {added : List (Option Reading)} (h : Appended processors event added event') :
    Appended (p :: processors) event (none :: added) event' where
  length := by simp [h.length]
  eventId := h.eventId
  deviceId := h.deviceId
  source := h.source
  readings := by rw [List.reduceOption_cons_of_none, h.readings]
  appends := by
    intro i q reading hq hreading
    cases i with
    | zero => simp at hreading
    | succ i =>
      rw [List.take_succ_cons, List.reduceOption_cons_of_none]
      exact h.appends i q reading (by simpa using hq) (by simpa using hreading)
  modelVersion := by
    intro hversion
    obtain ⟨i, q, reading, hq⟩ := h.modelVersion hversion
    exact ⟨i + 1, q, reading, by simpa using hq⟩

/-- A processor that appended a reading, before others. -/
theorem Appended.push {p : Processor} {processors : List Processor} {event event' : Event}
    {added : List (Option Reading)} {reading : Reading} (hp : p.Appends event reading)
    (h : Appended processors (p.pushed event reading) added event') :
    Appended (p :: processors) event (some reading :: added) event' where
  length := by simp [h.length]
  eventId := h.eventId
  deviceId := h.deviceId
  source := h.source
  readings := by
    rw [List.reduceOption_cons_of_some, h.readings]
    simp [Processor.pushed, Event.push]
  appends := by
    intro i q reading' hq hreading
    cases i with
    | zero =>
      obtain rfl : p = q := by simpa using hq
      obtain rfl : reading = reading' := by simpa using hreading
      exact hp.congr (by simp [Event.extend])
    | succ i =>
      rw [List.take_succ_cons, List.reduceOption_cons_of_some]
      have happends := h.appends i q reading' (by simpa using hq) (by simpa using hreading)
      exact happends.congr (by simp [Event.extend, Processor.pushed, Event.push])
  modelVersion := by
    intro hversion
    by_cases hlater : event'.modelVersion = (p.pushed event reading).modelVersion
    · -- nobody behind has changed the version, so this processor did
      refine ⟨0, p, reading, rfl, ?_, rfl⟩
      by_contra hother
      rw [hlater] at hversion
      simp [Processor.pushed, hother] at hversion
    · obtain ⟨i, q, reading', hq⟩ := h.modelVersion hlater
      exact ⟨i + 1, q, reading', by simpa using hq⟩

/-- **A pipeline only appends.** -/
theorem processAll_appended (nowNs : ℤ) (event : Event) (errors : ℕ)
    (processors : List Processor) :
    ∃ added, Appended processors event added (processAll nowNs event errors processors).1 := by
  induction processors generalizing event with
  | nil => exact ⟨[], rfl, rfl, rfl, rfl, by simp [processAll], by simp, by simp [processAll]⟩
  | cons p rest ih =>
    obtain ⟨added, hadded⟩ := ih (p.process nowNs event).1
    rw [processAll_cons]
    rcases p.process_cases nowNs event with heq | ⟨reading, happends, heq⟩
    · rw [heq] at hadded ⊢
      exact ⟨none :: added, hadded.skip⟩
    · rw [heq] at hadded ⊢
      exact ⟨some reading :: added, hadded.push happends⟩

/-! ### A sequence of events -/

theorem exists_getElem?_of_forall₂ {α β : Type*} {R : α → β → Prop} {xs : List α} {ys : List β}
    (h : List.Forall₂ R xs ys) {i : ℕ} {x : α} (hx : xs[i]? = some x) :
    ∃ y, ys[i]? = some y ∧ R x y := by
  induction h generalizing i with
  | nil => simp at hx
  | cons hhead _ ih =>
    cases i with
    | zero =>
      obtain rfl := Option.some.inj hx
      exact ⟨_, rfl, hhead⟩
    | succ i => exact ih hx

/-- All processors keep their settings. -/
theorem processAll_same (nowNs : ℤ) (event : Event) (errors : ℕ) (processors : List Processor) :
    List.Forall₂ Processor.SameSettings processors
      (processAll nowNs event errors processors).2.1 := by
  induction processors generalizing event with
  | nil => exact .nil
  | cons p rest ih =>
    rw [processAll_cons]
    exact .cons (p.process_same nowNs event) (ih _)

/-- Processors with the same settings append the same kinds of readings. -/
theorem Appended.of_same {processors processors' : List Processor} {event event' : Event}
    {added : List (Option Reading)}
    (hsame : List.Forall₂ Processor.SameSettings processors processors')
    (h : Appended processors' event added event') : Appended processors event added event' where
  length := by rw [h.length, hsame.length_eq]
  eventId := h.eventId
  deviceId := h.deviceId
  source := h.source
  readings := h.readings
  appends := by
    intro i p reading hp hreading
    obtain ⟨q, hq, hpq⟩ := exists_getElem?_of_forall₂ hsame hp
    exact (h.appends i q reading hq hreading).of_same hpq
  modelVersion := by
    intro hversion
    obtain ⟨i, q, reading, hq, hinference, hreading⟩ := h.modelVersion hversion
    obtain ⟨p, hp, hpq⟩ := exists_getElem?_of_forall₂ hsame.flip hq
    exact ⟨i, p, reading, hp, hpq.isInference.trans hinference, hreading⟩

/-- The events that leave the pipeline when these enter it one after another; each comes with the
time that the clock shows then. -/
def ProcessingPipeline.processEvents {P : Type} [IDataProcessor P]
    (pipeline : ProcessingPipeline P) : List (ℤ × Event) → List Event × ProcessingPipeline P
  | [] => ([], pipeline)
  | (nowNs, event) :: rest =>
    let (event', pipeline') := pipeline.process nowNs event
    let (events', pipeline'') := pipeline'.processEvents rest
    (event' :: events', pipeline'')

/-- **Processing only appends**, to every event of every sequence, and counts no error. -/
theorem processEvents_appended (pipeline : ProcessingPipeline Processor)
    (events : List (ℤ × Event)) :
    List.Forall₂ (fun arrival event' =>
      ∃ added, Appended pipeline.processors arrival.2 added event') events
        (pipeline.processEvents events).1 ∧
    (pipeline.processEvents events).2.stats.processorErrors = pipeline.stats.processorErrors := by
  induction events generalizing pipeline with
  | nil => exact ⟨.nil, rfl⟩
  | cons arrival rest ih =>
    obtain ⟨nowNs, event⟩ := arrival
    obtain ⟨hrest, herrors⟩ := ih (pipeline.process nowNs event).2
    refine ⟨.cons (processAll_appended nowNs event _ pipeline.processors) ?_,
      herrors.trans (processAll_errors nowNs event _ pipeline.processors)⟩
    -- the processors have moved on, with the settings they had
    have hsame := processAll_same nowNs event pipeline.stats.processorErrors pipeline.processors
    refine hrest.imp fun arrival event' happended => ?_
    obtain ⟨added, hadded⟩ := happended
    exact ⟨added, hadded.of_same hsame⟩

/-! ### The pipeline on the data path -/

section DataPath

variable {P : Type} [IDataProcessor P]

/-- The loop over the processors from the one at `index` on. -/
theorem reaches_processing {publishers count : ℕ} {batch : RawBatch} (nowNs : ℤ)
    (processors : List P) {index : ℕ} {event : Event} {s : DataPath}
    (hcount : index + processors.length = count)
    (hworker : s.worker = .processing batch event index) :
    ∃ s', (dataSystem count publishers).Reaches s s' ∧
      s'.processing = { s.processing with
        processorErrors := (processAll nowNs event s.processing.processorErrors processors).2.2 } ∧
      s'.worker = .processing batch
        (processAll nowNs event s.processing.processorErrors processors).1 count := by
  induction processors generalizing index event s with
  | nil =>
    obtain rfl : index = count := hcount
    exact ⟨s, .refl, rfl, hworker⟩
  | cons p rest ih =>
    rw [List.length_cons] at hcount
    have hlt : index < count := by omega
    unfold processAll
    split
    · rename_i event' p' _
      let next : DataPath := { s with worker := .processing batch event' (index + 1) }
      have hstep : (dataSystem count publishers).step s (.worker (.process event' false)) =
          some next := by
        simp [dataSystem, DataPath.step, DataPath.stepWorker, hworker, hlt, next]
      obtain ⟨s', hreaches, hend⟩ := ih (s := next) (by omega) rfl
      exact ⟨s', hreaches.head hstep, hend⟩
    · -- the handler counts, and the loop goes on
      rename_i event' p' _
      let next : DataPath := { s with
        worker := .processing batch event' (index + 1)
        processing := { s.processing with processorErrors := s.processing.processorErrors + 1 } }
      have hstep : (dataSystem count publishers).step s (.worker (.process event' true)) =
          some next := by
        simp [dataSystem, DataPath.step, DataPath.stepWorker, hworker, hlt, next]
      obtain ⟨s', hreaches, hend⟩ := ih (s := next) (by omega) rfl
      exact ⟨s', hreaches.head hstep, hend⟩

/-- **The loop of `process_batches` does what `ProcessingPipeline.process` says**, whether its
processors return or throw: it ends with the event and the counters of `process`. -/
theorem reaches_delivering {publishers : ℕ} {s : DataPath} {batch : RawBatch} {event : Event}
    (pipeline : ProcessingPipeline P) (nowNs : ℤ) (hworker : s.worker = .processing batch event 0)
    (hstats : s.processing = pipeline.stats) :
    ∃ s', (dataSystem pipeline.processors.length publishers).Reaches s s' ∧
      s'.worker = .delivering batch (pipeline.process nowNs event).1 ∧
      s'.processing = (pipeline.process nowNs event).2.stats := by
  obtain ⟨s₁, hreaches, hprocessing, hend⟩ := reaches_processing nowNs pipeline.processors
    (Nat.zero_add _) hworker
  rw [hstats] at hprocessing hend
  have hstep : (dataSystem pipeline.processors.length publishers).step s₁ (.worker .processed) =
      some { s₁ with
        worker := .delivering batch (pipeline.process nowNs event).1
        processing := { s₁.processing with events := s₁.processing.events + 1 }
        history := { s₁.history with processed := s₁.history.processed ++
          [(batch, (pipeline.process nowNs event).1)] } } := by
    simp [dataSystem, DataPath.step, DataPath.stepWorker, hend, ProcessingPipeline.process]
  refine ⟨_, hreaches.step hstep, rfl, ?_⟩
  show ({ s₁.processing with events := s₁.processing.events + 1 } : ProcessingStats) = _
  rw [hprocessing]
  rfl

end DataPath

end MiniGateway
