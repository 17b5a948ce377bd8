/-
  No batch is lost, duplicated or reordered on the data path.

  At each border of the path the batches that have crossed it are those that have crossed the next
  one, followed by what the worker holds between the two (`Flow`).  When the worker has exited it
  holds nothing and the queue is empty, so all the borders agree (`Flow.settled`).
-/
import MiniGateway.DataPath

namespace MiniGateway

namespace ProcessingPc

/-- The batch between `wait_pop` and `normalize`. -/
def unnormalized : ProcessingPc → List RawBatch
  | normalizing batch => [batch]
  | _ => []

/-- The batch between `normalize` and the end of the pipeline. -/
def unprocessed : ProcessingPc → List RawBatch
  | processing batch _ _ => [batch]
  | _ => []

/-- The event between the end of the pipeline and `delivered_events_`. -/
def undelivered : ProcessingPc → List (RawBatch × Event)
  | delivering batch event => [(batch, event)]
  | _ => []

/-- The calls of `publish` that the event in hand still waits for. -/
def unoffered (publishers : ℕ) : ProcessingPc → List (ℕ × Event)
  | offering event index => ((List.range publishers).drop index).map (·, event)
  | publishing event index => ((List.range publishers).drop (index + 1)).map (·, event)
  | _ => []

/-- The calls of `publish` in progress. -/
def publishCalls : ProcessingPc → ℕ
  | publishing _ _ => 1
  | _ => 0

end ProcessingPc

namespace DataPath

variable {processors publishers : ℕ} {s s' : DataPath}

/-! ### What one step does -/

/-- The effect of one step of the worker. -/
inductive WorkerEffect (processors publishers : ℕ) (s : DataPath) :
    ProcessingEvent → DataPath → Prop
  | pop {batch : RawBatch} {rest : BoundedQueue RawBatch} (hw : s.worker = .waiting)
      (hq : s.rawQueue.waitPop = some (.value batch rest)) :
      WorkerEffect processors publishers s .pop { s with
        rawQueue := rest
        worker := .normalizing batch
        history := { s.history with taken := s.history.taken ++ [batch] } }
  | exit (hw : s.worker = .waiting) (hq : s.rawQueue.waitPop = some .finished) :
      WorkerEffect processors publishers s .exit { s with worker := .exited }
  | normalize {batch : RawBatch} {receivedAt : ℤ} (hw : s.worker = .normalizing batch) :
      WorkerEffect processors publishers s (.normalize receivedAt) { s with
        normalizer := (s.normalizer.normalize receivedAt batch).2
        worker := .processing batch (s.normalizer.normalize receivedAt batch).1 0
        history := { s.history with
          normalized := s.history.normalized ++
            [(batch, (s.normalizer.normalize receivedAt batch).1)] } }
  | process {batch : RawBatch} {before event : Event} {index : ℕ} {threw : Bool}
      {stats : ProcessingStats} (hw : s.worker = .processing batch before index)
      (hindex : index < processors) (hstats : stats.events = s.processing.events) :
      WorkerEffect processors publishers s (.process event threw) { s with
        worker := .processing batch event (index + 1)
        processing := stats }
  | processed {batch : RawBatch} {event : Event} {index : ℕ}
      (hw : s.worker = .processing batch event index) (hindex : ¬index < processors) :
      WorkerEffect processors publishers s .processed { s with
        worker := .delivering batch event
        processing := { s.processing with events := s.processing.events + 1 }
        history := { s.history with processed := s.history.processed ++ [(batch, event)] } }
  | deliver {batch : RawBatch} {event : Event} (hw : s.worker = .delivering batch event) :
      WorkerEffect processors publishers s .deliver { s with
        worker := .offering event 0
        deliveredEvents := s.deliveredEvents + 1
        history := { s.history with delivered := s.history.delivered ++ [(batch, event)] } }
  | offer {event : Event} {index : ℕ} (hw : s.worker = .offering event index)
      (hindex : index < publishers) :
      WorkerEffect processors publishers s .offer { s with
        worker := .publishing event index
        eventPublishers := { s.eventPublishers with attempts := s.eventPublishers.attempts + 1 }
        history := { s.history with offered := s.history.offered ++ [(index, event)] } }
  | offered {event : Event} {index : ℕ} (hw : s.worker = .offering event index)
      (hindex : ¬index < publishers) :
      WorkerEffect processors publishers s .offer { s with worker := .waiting }
  | publishReturn {event : Event} {index : ℕ} {result : Option EventPublishResult}
      (hw : s.worker = .publishing event index) :
      WorkerEffect processors publishers s (.publishReturn result) { s with
        worker := .offering event (index + 1)
        eventPublishers := s.eventPublishers.count result }

theorem stepWorker_effect {e : ProcessingEvent}
    (h : s.stepWorker processors publishers e = some s') :
    WorkerEffect processors publishers s e s' := by
  unfold stepWorker at h
  split at h
  · rename_i hw
    split at h
    · rename_i hq
      obtain rfl := Option.some.inj h
      exact .pop hw hq
    · cases h
  · rename_i hw
    split at h
    · rename_i hq
      obtain rfl := Option.some.inj h
      exact .exit hw hq
    · cases h
  · rename_i hw
    obtain rfl := Option.some.inj h
    exact .normalize hw
  · rename_i index _ threw hw
    by_cases hindex : index < processors
    · rw [if_pos hindex] at h
      obtain rfl := Option.some.inj h
      exact .process hw hindex (by cases threw <;> rfl)
    · simp [if_neg hindex] at h
  · rename_i hw
    split_ifs at h with hindex
    obtain rfl := Option.some.inj h
    exact .processed hw hindex
  · rename_i hw
    obtain rfl := Option.some.inj h
    exact .deliver hw
  · rename_i hw
    split_ifs at h with hindex
    · obtain rfl := Option.some.inj h
      exact .offer hw hindex
    · obtain rfl := Option.some.inj h
      exact .offered hw hindex
  · rename_i hw
    obtain rfl := Option.some.inj h
    exact .publishReturn hw
  · cases h

/-! ### The invariant -/

/-- Where the accepted batches are, and what has been counted. -/
structure Flow (publishers : ℕ) (s : DataPath) : Prop where
  taken : s.history.accepted = s.history.taken ++ s.rawQueue.queue
  normalized : s.history.taken =
    s.history.normalized.map Prod.fst ++ s.worker.unnormalized
  processed : s.history.normalized.map Prod.fst =
    s.history.processed.map Prod.fst ++ s.worker.unprocessed
  delivered : s.history.processed = s.history.delivered ++ s.worker.undelivered
  offered : s.history.delivered.flatMap
      (fun delivery => (List.range publishers).map (·, delivery.2)) =
    s.history.offered ++ s.worker.unoffered publishers
  accepted : s.rawQueue.accepted = s.history.accepted.length
  batches : s.normalizer.stats.batches = s.history.normalized.length
  events : s.processing.events = s.history.processed.length
  deliveredEvents : s.deliveredEvents = s.history.delivered.length
  attempts : s.eventPublishers.attempts = s.history.offered.length
  ended : s.eventPublishers.attempts = s.eventPublishers.ended + s.worker.publishCalls
  publishing : ∀ event index, s.worker = .publishing event index → index < publishers
  exited : s.worker = .exited → s.rawQueue.queue = [] ∧ s.rawQueue.closed = true

theorem Flow.create (capacity : ℕ) {normalizer : Normalizer}
    (h : normalizer.stats.batches = 0) : Flow publishers (DataPath.create capacity normalizer) where
  taken := rfl
  normalized := rfl
  processed := rfl
  delivered := rfl
  offered := rfl
  accepted := rfl
  batches := h
  events := rfl
  deliveredEvents := rfl
  attempts := rfl
  ended := rfl
  publishing _ _ h := by cases h
  exited h := by cases h

theorem Flow.push (h : Flow publishers s) (batch : RawBatch) :
    Flow publishers (s.push batch).2 := by
  obtain ⟨hres, hopen, hqueue⟩ | ⟨hres, hqueue, hclosed, hcount⟩ := s.rawQueue.tryPush_cases batch
  · exact { h with
      taken := by
        simp only [DataPath.push, hres, hqueue, if_true]
        rw [h.taken, List.append_assoc]
      accepted := by
        simp only [DataPath.push, hres, hqueue, if_true, List.length_append, List.length_singleton]
        rw [h.accepted]
      exited := fun hw => by
        have := (h.exited hw).2
        rw [hopen] at this
        cases this }
  · exact { h with
      taken := by
        simp only [DataPath.push, hres, hqueue, if_false]
        exact h.taken
      accepted := by
        simp only [DataPath.push, hres, hcount, if_false]
        exact h.accepted
      exited := fun hw => by
        simp only [DataPath.push, hqueue, hclosed]
        exact h.exited hw }

/-- One step of the worker keeps the flow: it moves what it holds across one border. -/
theorem Flow.worker {e : ProcessingEvent} (h : Flow publishers s)
    (he : WorkerEffect processors publishers s e s') : Flow publishers s' := by
  have htaken := h.taken
  have hnormalized := h.normalized
  have hprocessed := h.processed
  have hdelivered := h.delivered
  have hoffered := h.offered
  have hended := h.ended
  cases he with
  | pop hw hq =>
    obtain ⟨hqueue, -, hcount⟩ := BoundedQueue.waitPop_value hq
    rw [hw] at hnormalized hprocessed hdelivered hoffered hended
    refine { h with taken := ?_, normalized := ?_, processed := hprocessed, delivered := hdelivered,
                    offered := hoffered, accepted := hcount.trans h.accepted, ended := hended,
                    publishing := by simp, exited := by simp }
    · rw [htaken, hqueue]
      simp
    · simpa [ProcessingPc.unnormalized] using hnormalized
  | exit hw hq =>
    rw [hw] at hnormalized hprocessed hdelivered hoffered hended
    exact { h with
      normalized := hnormalized
      processed := hprocessed
      delivered := hdelivered
      offered := hoffered
      ended := hended
      publishing := by simp
      exited := fun _ => BoundedQueue.waitPop_finished hq }
  | normalize hw =>
    rw [hw] at hnormalized hprocessed hdelivered hoffered hended
    refine { h with normalized := ?_, processed := ?_, delivered := hdelivered,
                    offered := hoffered, batches := ?_, ended := hended,
                    publishing := by simp, exited := by simp }
    · simpa [ProcessingPc.unnormalized] using hnormalized
    · simpa [ProcessingPc.unprocessed] using hprocessed
    · simpa [Normalizer.normalize] using h.batches
  | process hw hindex hstats =>
    rw [hw] at hnormalized hprocessed hdelivered hoffered hended
    exact { h with
      normalized := hnormalized
      processed := hprocessed
      delivered := hdelivered
      offered := hoffered
      events := hstats.trans h.events
      ended := hended
      publishing := by simp
      exited := by simp }
  | processed hw hindex =>
    rw [hw] at hnormalized hprocessed hdelivered hoffered hended
    refine { h with normalized := hnormalized, processed := ?_, delivered := ?_,
                    offered := hoffered, events := ?_, ended := hended,
                    publishing := by simp, exited := by simp }
    · simpa [ProcessingPc.unprocessed] using hprocessed
    · simpa [ProcessingPc.undelivered] using hdelivered
    · simpa using h.events
  | deliver hw =>
    rw [hw] at hnormalized hprocessed hdelivered hoffered hended
    refine { h with normalized := hnormalized, processed := hprocessed, delivered := ?_,
                    offered := ?_, deliveredEvents := ?_, ended := hended,
                    publishing := by simp, exited := by simp }
    · simpa [ProcessingPc.undelivered] using hdelivered
    · rw [List.flatMap_append, hoffered]
      simp [ProcessingPc.unoffered]
    · simpa using h.deliveredEvents
  | @offer event index hw hindex =>
    rw [hw] at hnormalized hprocessed hdelivered hoffered hended
    refine { h with normalized := hnormalized, processed := hprocessed, delivered := hdelivered,
                    offered := ?_, attempts := ?_, ended := ?_, publishing := ?_, exited := by simp }
    · rw [hoffered]
      simp [ProcessingPc.unoffered, List.drop_eq_getElem_cons (l := List.range publishers)
        (i := index) (by simpa using hindex)]
    · simpa using h.attempts
    · simpa [ProcessingPc.publishCalls, EventPublisherStats.ended] using hended
    · rintro _ _ ⟨⟩
      exact hindex
  | @offered event index hw hindex =>
    rw [hw] at hnormalized hprocessed hdelivered hoffered hended
    refine { h with normalized := hnormalized, processed := hprocessed, delivered := hdelivered,
                    offered := ?_, ended := hended, publishing := by simp, exited := by simp }
    rw [hoffered]
    simpa [ProcessingPc.unoffered] using hindex
  | @publishReturn event index result hw =>
    rw [hw] at hnormalized hprocessed hdelivered hoffered hended
    obtain ⟨hattempts, hcount⟩ := s.eventPublishers.count_spec result
    refine { h with normalized := hnormalized, processed := hprocessed, delivered := hdelivered,
                    offered := hoffered, attempts := hattempts.trans h.attempts, ended := ?_,
                    publishing := by simp, exited := by simp }
    rw [hattempts, hcount, hended]
    simp [ProcessingPc.publishCalls]

/-- One step keeps the flow. -/
theorem Flow.step {e : DataEvent} (h : Flow publishers s)
    (hs : s.step processors publishers e = some s') : Flow publishers s' := by
  cases e with
  | push batch =>
    obtain rfl := Option.some.inj hs
    exact h.push batch
  | close =>
    obtain rfl := Option.some.inj hs
    exact { h with exited := fun hw => ⟨(h.exited hw).1, rfl⟩ }
  | launch =>
    simp only [DataPath.step] at hs
    split_ifs at hs with hw
    obtain rfl := Option.some.inj hs
    have hnormalized := h.normalized
    have hprocessed := h.processed
    have hdelivered := h.delivered
    have hoffered := h.offered
    have hended := h.ended
    rw [hw] at hnormalized hprocessed hdelivered hoffered hended
    exact { h with
      normalized := hnormalized
      processed := hprocessed
      delivered := hdelivered
      offered := hoffered
      ended := hended
      publishing := nofun
      exited := nofun }
  | join =>
    simp only [DataPath.step] at hs
    split_ifs at hs <;> obtain rfl := Option.some.inj hs <;> exact { h with }
  | worker e => exact h.worker (stepWorker_effect hs)

theorem flow (h : (dataSystem processors publishers).Reachable s) : Flow publishers s := by
  refine h.invariant ?_ fun _ _ _ _ hi hl => hi.step hl
  rintro s ⟨capacity, normalizer, hbatches, rfl⟩
  exact .create capacity hbatches

/-! ### The end of the path -/

/-- Every accepted batch has been normalised, run through the pipeline and offered to every
publisher exactly once, in acceptance order, and the counters say so. -/
structure Settled (publishers : ℕ) (s : DataPath) : Prop where
  size : s.rawQueue.queue.length = 0
  normalized : s.history.normalized.map Prod.fst = s.history.accepted
  processed : s.history.processed.map Prod.fst = s.history.accepted
  offered : ∀ index < publishers, s.offeredTo index = s.history.processed.map Prod.snd
  batches : s.normalizer.stats.batches = s.rawQueue.accepted
  events : s.processing.events = s.rawQueue.accepted
  delivered : s.deliveredEvents = s.rawQueue.accepted
  attempts : s.eventPublishers.attempts = s.deliveredEvents * publishers
  ended : s.eventPublishers.attempts = s.eventPublishers.accepted +
    s.eventPublishers.unavailable + s.eventPublishers.rejected + s.eventPublishers.errors

/-- What one publisher gets of a sequence of events that are each offered to all publishers. -/
theorem offers_to (deliveries : List (RawBatch × Event)) {index : ℕ} (h : index < publishers) :
    ((deliveries.flatMap fun delivery => (List.range publishers).map (·, delivery.2)).filter
      fun offer => offer.1 == index).map Prod.snd = deliveries.map Prod.snd := by
  induction deliveries with
  | nil => rfl
  | cons delivery rest ih =>
    have hone : ((List.range publishers).map (·, delivery.2)).filter
        (fun offer => offer.1 == index) = [(index, delivery.2)] := by
      rw [List.filter_map]
      show ((List.range publishers).filter fun i => i == index).map _ = _
      rw [List.filter_beq, List.count_eq_one_of_mem List.nodup_range (List.mem_range.mpr h)]
      rfl
    rw [List.flatMap_cons, List.filter_append, List.map_append, ih, hone]
    rfl

/-- **Nothing is left behind** once the worker has exited. -/
theorem Flow.settled (h : Flow publishers s) (hw : s.worker = .exited) : Settled publishers s := by
  have hnormalized := h.normalized
  have hprocessed := h.processed
  have hdelivered := h.delivered
  have hoffered := h.offered
  have hended := h.ended
  rw [hw] at hnormalized hprocessed hdelivered hoffered hended
  simp only [ProcessingPc.unnormalized, ProcessingPc.unprocessed, ProcessingPc.undelivered,
    ProcessingPc.unoffered, ProcessingPc.publishCalls, List.append_nil, add_zero]
    at hnormalized hprocessed hdelivered hoffered hended
  have hqueue := (h.exited hw).1
  have haccepted : s.history.accepted = s.history.taken := by
    rw [h.taken, hqueue, List.append_nil]
  have hcount : s.rawQueue.accepted = s.history.normalized.length := by
    rw [h.accepted, haccepted, hnormalized, List.length_map]
  have hlength : s.history.normalized.length = s.history.processed.length := by
    simpa using congrArg List.length hprocessed
  exact {
    size := by rw [hqueue]; rfl
    normalized := by rw [haccepted, hnormalized]
    processed := by rw [haccepted, hnormalized, hprocessed]
    offered := fun index hindex => by
      unfold offeredTo
      rw [← hoffered, offers_to _ hindex, hdelivered]
    batches := by rw [h.batches, hcount]
    events := by rw [h.events, hcount, hlength]
    delivered := by rw [h.deliveredEvents, hcount, hlength, hdelivered]
    attempts := by
      rw [h.attempts, ← hoffered, h.deliveredEvents, List.length_flatMap]
      simp
    ended := hended }

end DataPath

end MiniGateway
