/-
  The processing pipeline (`processing.cpp`) with the three processors of the repository
  (`processor/*.cpp`).

  A processor's constructor checks are fields of its type.  The pipeline takes any processors, and
  counts those that throw; none of the three does, so the counter of processor errors never moves in
  a pipeline made of them.
-/
import MiniGateway.Conversion

namespace MiniGateway

open Binary64 (Double)

/-- `find_reading`: the first reading of that name. -/
def findReading (event : Event) (point : ByteString) : Option Reading :=
  event.readings.find? fun reading => reading.point == point

/-- The Good reading of that name and its numeric value, as all three processors look it up. -/
def findInput (event : Event) (point : ByteString) : Option (Reading × Double) := do
  let reading ← findReading event point
  if reading.quality ≠ .good then none
  else
    let value ← numericValue reading.value
    some (reading, value)

/-- `processor_support::derived_reading`. -/
def derivedReading (point : ByteString) (value : Scalar) (sourceTimeNs receivedTimeNs : ℤ) :
    Reading where
  point := point
  value := value
  quality := .good
  unit := []
  sourceTimeNs := sourceTimeNs
  receivedTimeNs := receivedTimeNs
  derived := true

/-- `event.readings.push_back`. -/
def Event.push (event : Event) (reading : Reading) : Event :=
  { event with readings := event.readings ++ [reading] }

/-! ### `ThresholdProcessor` -/

/-- `ThresholdProcessor`. -/
structure ThresholdProcessor where
  input : ByteString
  greaterThan : Double
  output : ByteString
  accepted : input ≠ [] ∧ output ≠ []

namespace ThresholdProcessor

/-- The constructor. -/
def create (input : ByteString) (greaterThan : Double) (output : ByteString) :
    Except ByteString ThresholdProcessor :=
  if h : input ≠ [] ∧ output ≠ [] then .ok ⟨input, greaterThan, output, h⟩
  else .error (lit "threshold input and output are required")

/-- `process`. -/
def process (p : ThresholdProcessor) (event : Event) : Event :=
  match findInput event p.input with
  | none => event
  | some (input, value) =>
    event.push (derivedReading p.output (.boolean (p.greaterThan.lt value)) input.sourceTimeNs
      input.receivedTimeNs)

end ThresholdProcessor

/-! ### `WindowAverageProcessor` -/

/-- `WindowAverageProcessor`; a `std::size_t` bounds the window. -/
structure WindowAverageProcessor where
  input : ByteString
  window : ℕ
  output : ByteString
  accepted : input ≠ [] ∧ output ≠ [] ∧ window ≠ 0
  window_lt : window < 2 ^ 64
  windows : ByteString → List Double := fun _ => []

/-- `std::accumulate(values.begin(), values.end(), 0.0)`. -/
def accumulate (values : List Double) : Double := values.foldl Double.add Double.zero

/-- The loop that drops the oldest values until at most `window` are left. -/
def lastValues (window : ℕ) (values : List Double) : List Double :=
  values.drop (values.length - window)

namespace WindowAverageProcessor

/-- The constructor. -/
def create (input : ByteString) (window : ℕ) (output : ByteString) (hwindow : window < 2 ^ 64) :
    Except ByteString WindowAverageProcessor :=
  if h : input ≠ [] ∧ output ≠ [] ∧ window ≠ 0 then
    .ok { input, window, output, accepted := h, window_lt := hwindow }
  else .error (lit "window rule requires input, output and positive size")

/-- The deque of a device after `value` has arrived. -/
def values (p : WindowAverageProcessor) (deviceId : ByteString) (value : Double) : List Double :=
  lastValues p.window (p.windows deviceId ++ [value])

/-- `process`. -/
def process (p : WindowAverageProcessor) (event : Event) : Event × WindowAverageProcessor :=
  match findInput event p.input with
  | none => (event, p)
  | some (input, value) =>
    let values := p.values event.deviceId value
    let stored := { p with windows := Function.update p.windows event.deviceId values }
    if values.length ≠ p.window then (event, stored)
    else
      (event.push (derivedReading p.output
        (.double ((accumulate values).div (Double.ofInt values.length))) input.sourceTimeNs
        input.receivedTimeNs), stored)

end WindowAverageProcessor

/-! ### `InferenceProcessor` -/

/-- `InferenceProcessor`; a `std::size_t` counts the inputs. -/
structure InferenceProcessor where
  runner : ByteString
  inputs : List ByteString
  output : ByteString
  accepted : runner = lit "demo_rms" ∧ inputs ≠ []
  inputs_lt : inputs.length < 2 ^ 64

namespace InferenceProcessor

/-- The constructor. -/
def create (runner : ByteString) (inputs outputs : List ByteString)
    (hinputs : inputs.length < 2 ^ 64) : Except ByteString InferenceProcessor :=
  if hrunner : runner ≠ lit "demo_rms" then
    .error (lit "unsupported inference runner: " ++ runner)
  else
    match outputs with
    | [output] =>
      if h : inputs ≠ [] then
        .ok ⟨runner, inputs, output, ⟨not_not.mp hrunner, h⟩, hinputs⟩
      else .error (lit "demo_rms requires at least one input and exactly one output")
    | _ => .error (lit "demo_rms requires at least one input and exactly one output")

/-- What the loop of `process` carries: the sum and the times of the last input. -/
structure Sum where
  squaredSum : Double
  sourceTime : ℤ
  receivedTime : ℤ

/-- The loop of `process` over the inputs; `none` when one of them is missing, not Good or not a
number. -/
def sumSquares (event : Event) (sum : Sum) : List ByteString → Option Sum
  | [] => some sum
  | point :: rest => do
    let (reading, value) ← findInput event point
    sumSquares event ⟨sum.squaredSum.add (value.mul value), reading.sourceTimeNs,
      reading.receivedTimeNs⟩ rest

/-- `process`; `nowNs` is the clock of the processing context. -/
def process (p : InferenceProcessor) (nowNs : ℤ) (event : Event) : Event :=
  match sumSquares event ⟨Double.zero, nowNs, nowNs⟩ p.inputs with
  | none => event
  | some sum =>
    { event.push (derivedReading p.output
        (.double (sum.squaredSum.div (Double.ofInt p.inputs.length)).sqrt) sum.sourceTime
        sum.receivedTime) with
      modelVersion := lit "demo-rms-v1" }

end InferenceProcessor

/-! ### The pipeline -/

/-- `IDataProcessor`.  `process` gets the event by reference: what it has done to the event and to
its own object stays, also when it throws. -/
class IDataProcessor (P : Type) where
  process : ℤ → Event → P → Except ByteString Unit × Event × P

/-- `ProcessingStats`. -/
structure ProcessingStats where
  events : ℕ := 0
  processorErrors : ℕ := 0
  deriving DecidableEq

/-- `ProcessingPipeline`. -/
structure ProcessingPipeline (P : Type) where
  processors : List P
  stats : ProcessingStats := {}

section IDataProcessor

variable {P : Type} [IDataProcessor P]

/-- The loop of `ProcessingPipeline::process`, with `processor_errors_`. -/
def processAll (nowNs : ℤ) (event : Event) (errors : ℕ) : List P → Event × List P × ℕ
  | [] => (event, [], errors)
  | p :: rest =>
    match IDataProcessor.process nowNs event p with
    | (.ok (), event, p') =>
      let (event, rest', errors) := processAll nowNs event errors rest
      (event, p' :: rest', errors)
    -- the handler: counted, and the next processor gets the event as it is now
    | (.error _, event, p') =>
      let (event, rest', errors) := processAll nowNs event (errors + 1) rest
      (event, p' :: rest', errors)

/-- `ProcessingPipeline::process`. -/
def ProcessingPipeline.process (pipeline : ProcessingPipeline P) (nowNs : ℤ) (event : Event) :
    Event × ProcessingPipeline P :=
  let (event, processors, errors) :=
    processAll nowNs event pipeline.stats.processorErrors pipeline.processors
  (event, { processors := processors
            stats := { events := pipeline.stats.events + 1, processorErrors := errors } })

/-- Whatever the processors do, each of them is called, and at most one error is counted for
each. -/
theorem processAll_length_errors (nowNs : ℤ) (event : Event) (errors : ℕ) (processors : List P) :
    (processAll nowNs event errors processors).2.1.length = processors.length ∧
      errors ≤ (processAll nowNs event errors processors).2.2 ∧
      (processAll nowNs event errors processors).2.2 ≤ errors + processors.length := by
  induction processors generalizing event errors with
  | nil => exact ⟨rfl, le_rfl, le_rfl⟩
  | cons p rest ih =>
    unfold processAll
    split
    · rename_i event' p' _
      obtain ⟨hlength, hle, hle'⟩ := ih event' errors
      exact ⟨congrArg (· + 1) hlength, hle, hle'.trans (by simp)⟩
    · rename_i event' p' _
      obtain ⟨hlength, hle, hle'⟩ := ih event' (errors + 1)
      refine ⟨congrArg (· + 1) hlength, (Nat.le_succ _).trans hle, hle'.trans ?_⟩
      rw [List.length_cons]
      omega

end IDataProcessor

/-- A processor of the repository. -/
inductive Processor
  | threshold (p : ThresholdProcessor)
  | windowAverage (p : WindowAverageProcessor)
  | inference (p : InferenceProcessor)

/-- `process` of the processor's class. -/
def Processor.process (nowNs : ℤ) (event : Event) : Processor → Event × Processor
  | .threshold p => (p.process event, .threshold p)
  | .windowAverage p => ((p.process event).1, .windowAverage (p.process event).2)
  | .inference p => (p.process nowNs event, .inference p)

/-- None of the three has a `throw` or calls what has one. -/
instance : IDataProcessor Processor where
  process nowNs event p := (.ok (), p.process nowNs event)

theorem processAll_cons (nowNs : ℤ) (event : Event) (errors : ℕ) (p : Processor)
    (rest : List Processor) :
    processAll nowNs event errors (p :: rest) =
      ((processAll nowNs (p.process nowNs event).1 errors rest).1,
        (p.process nowNs event).2 :: (processAll nowNs (p.process nowNs event).1 errors rest).2.1,
        (processAll nowNs (p.process nowNs event).1 errors rest).2.2) := rfl

/-- **The handler never runs** in a pipeline of these processors. -/
theorem processAll_errors (nowNs : ℤ) (event : Event) (errors : ℕ) (processors : List Processor) :
    (processAll nowNs event errors processors).2.2 = errors := by
  induction processors generalizing event with
  | nil => rfl
  | cons p rest ih =>
    rw [processAll_cons]
    exact ih _

end MiniGateway
