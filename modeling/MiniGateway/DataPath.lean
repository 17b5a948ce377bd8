/-
  The data path of `GatewayRuntime`: `raw_queue_`, the processing worker in `process_batches` and
  `publish_event`, and the counters on the way.

  Producers push at any time.  The processors and publishers of a run may be of any kind, so what
  they do is part of the event: the event a processor leaves behind and whether it threw, what a
  publisher returned or that it threw.  Nothing else in the loop of `process_batches` throws.
-/
import MiniGateway.BoundedQueue
import MiniGateway.Normalizer
import MiniGateway.Processing
import MiniGateway.TransitionSystem

namespace MiniGateway

inductive EventPublishResult
  | accepted
  | unavailable
  | rejected
  deriving DecidableEq, Repr

/-- `EventPublisherStats`. -/
structure EventPublisherStats where
  attempts : ℕ := 0
  accepted : ℕ := 0
  unavailable : ℕ := 0
  rejected : ℕ := 0
  errors : ℕ := 0
  deriving DecidableEq

/-- The counter that one call of `publish` moves; `none` is a call that threw. -/
def EventPublisherStats.count (s : EventPublisherStats) :
    Option EventPublishResult → EventPublisherStats
  | some .accepted => { s with accepted := s.accepted + 1 }
  | some .unavailable => { s with unavailable := s.unavailable + 1 }
  | some .rejected => { s with rejected := s.rejected + 1 }
  | none => { s with errors := s.errors + 1 }

/-- The calls of `publish` that have ended. -/
def EventPublisherStats.ended (s : EventPublisherStats) : ℕ :=
  s.accepted + s.unavailable + s.rejected + s.errors

theorem EventPublisherStats.count_spec (s : EventPublisherStats)
    (result : Option EventPublishResult) :
    (s.count result).attempts = s.attempts ∧ (s.count result).ended = s.ended + 1 := by
  rcases result with _ | (_ | _ | _) <;> exact ⟨rfl, by simp only [count, ended]; omega⟩

/-- Where the processing worker is in `process_batches`. -/
inductive ProcessingPc
  /-- Not launched. -/
  | absent
  /-- In `wait_pop`. -/
  | waiting
  /-- About to normalise. -/
  | normalizing (batch : RawBatch)
  /-- In `pipeline_.process`; `index` is the next processor. -/
  | processing (batch : RawBatch) (event : Event) (index : ℕ)
  /-- About to count `delivered_events_`. -/
  | delivering (batch : RawBatch) (event : Event)
  /-- In `publish_event`; `index` is the next publisher. -/
  | offering (event : Event) (index : ℕ)
  /-- Inside `publish` of the publisher at `index`. -/
  | publishing (event : Event) (index : ℕ)
  /-- `process_batches` has returned. -/
  | exited
  deriving DecidableEq

/-- What has happened on the data path so far; no code reads it. -/
structure DataHistory where
  /-- The batches that `try_push` accepted. -/
  accepted : List RawBatch := []
  /-- The batches that `wait_pop` gave to the worker. -/
  taken : List RawBatch := []
  /-- The batches that were normalised, with the events made of them. -/
  normalized : List (RawBatch × Event) := []
  /-- The batches that went through the pipeline, with the events it left. -/
  processed : List (RawBatch × Event) := []
  /-- The batches counted as delivered, with their events. -/
  delivered : List (RawBatch × Event) := []
  /-- The calls of `publish`: the publisher and the event. -/
  offered : List (ℕ × Event) := []

/-- The members of `GatewayRuntime` on the data path, and the worker thread. -/
structure DataPath where
  rawQueue : BoundedQueue RawBatch
  normalizer : Normalizer
  processing : ProcessingStats := {}
  deliveredEvents : ℕ := 0
  eventPublishers : EventPublisherStats := {}
  worker : ProcessingPc := .absent
  /-- `processing_worker_.joinable()`. -/
  joinable : Bool := false
  history : DataHistory := {}

/-- The events that the publisher at `index` has been offered, oldest first. -/
def DataPath.offeredTo (s : DataPath) (index : ℕ) : List Event :=
  (s.history.offered.filter fun offer => offer.1 == index).map Prod.snd

/-- The accesses of the processing worker. -/
inductive ProcessingEvent
  /-- `wait_pop` returns a batch. -/
  | pop
  /-- `wait_pop` returns false. -/
  | exit
  /-- `normalize`; the wall clock reads `receivedAt`. -/
  | normalize (receivedAt : ℤ)
  /-- The next processor leaves `event` and returns, or throws. -/
  | process (event : Event) (threw : Bool)
  /-- The pipeline ends. -/
  | processed
  | deliver
  /-- `publish` of the next publisher begins, or there is none left. -/
  | offer
  /-- `publish` returns, or throws. -/
  | publishReturn (result : Option EventPublishResult)

inductive DataEvent
  /-- `raw_queue_.try_push`. -/
  | push (batch : RawBatch)
  /-- `raw_queue_.close`. -/
  | close
  /-- `processing_worker_` is created. -/
  | launch
  /-- `processing_worker_.join` returns. -/
  | join
  | worker (e : ProcessingEvent)

namespace DataPath

/-- `raw_queue_.try_push(batch)`. -/
def push (s : DataPath) (batch : RawBatch) : EnqueueResult × DataPath :=
  let pushed := s.rawQueue.tryPush batch
  (pushed.1, { s with
    rawQueue := pushed.2
    history := { s.history with
      accepted := if pushed.1 = .accepted then s.history.accepted ++ [batch]
        else s.history.accepted } })

/-- One step of the worker, with this many processors and publishers. -/
def stepWorker (processors publishers : ℕ) (s : DataPath) (e : ProcessingEvent) :
    Option DataPath :=
  match s.worker, e with
  | .waiting, .pop =>
    match s.rawQueue.waitPop with
    | some (.value batch rest) =>
      some { s with
        rawQueue := rest
        worker := .normalizing batch
        history := { s.history with taken := s.history.taken ++ [batch] } }
    | _ => none
  | .waiting, .exit =>
    match s.rawQueue.waitPop with
    | some .finished => some { s with worker := .exited }
    | _ => none
  | .normalizing batch, .normalize receivedAt =>
    let result := s.normalizer.normalize receivedAt batch
    some { s with
      normalizer := result.2
      worker := .processing batch result.1 0
      history := { s.history with
        normalized := s.history.normalized ++ [(batch, result.1)] } }
  | .processing batch _ index, .process event threw =>
    if index < processors then
      some { s with
        worker := .processing batch event (index + 1)
        processing := if threw then
            { s.processing with processorErrors := s.processing.processorErrors + 1 }
          else s.processing }
    else none
  | .processing batch event index, .processed =>
    if index < processors then none
    else some { s with
      worker := .delivering batch event
      processing := { s.processing with events := s.processing.events + 1 }
      history := { s.history with processed := s.history.processed ++ [(batch, event)] } }
  | .delivering batch event, .deliver =>
    some { s with
      worker := .offering event 0
      deliveredEvents := s.deliveredEvents + 1
      history := { s.history with delivered := s.history.delivered ++ [(batch, event)] } }
  | .offering event index, .offer =>
    if index < publishers then
      some { s with
        worker := .publishing event index
        eventPublishers := { s.eventPublishers with attempts := s.eventPublishers.attempts + 1 }
        history := { s.history with offered := s.history.offered ++ [(index, event)] } }
    else some { s with worker := .waiting }
  | .publishing event index, .publishReturn result =>
    some { s with
      worker := .offering event (index + 1)
      eventPublishers := s.eventPublishers.count result }
  | _, _ => none

/-- One step of the data path. -/
def step (processors publishers : ℕ) (s : DataPath) : DataEvent → Option DataPath
  | .push batch => some (s.push batch).2
  | .close => some { s with rawQueue := s.rawQueue.close }
  | .launch => if s.worker = .absent then some { s with worker := .waiting, joinable := true }
    else none
  | .join =>
    if s.joinable then
      if s.worker = .exited then some { s with joinable := false } else none
    else some s
  | .worker e => s.stepWorker processors publishers e

/-- The data path that the constructor of `GatewayRuntime` makes. -/
def create (capacity : ℕ) (normalizer : Normalizer) : DataPath where
  rawQueue := { capacity := capacity }
  normalizer := normalizer

end DataPath

/-- All runs of a data path with this many processors and publishers. -/
def dataSystem (processors publishers : ℕ) : TransitionSystem DataPath DataEvent where
  Init s := ∃ capacity normalizer, normalizer.stats.batches = 0 ∧
    s = DataPath.create capacity normalizer
  step := DataPath.step processors publishers

end MiniGateway
