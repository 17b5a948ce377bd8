/-
  From accepted batches to payloads.

  The data path leaves open what its processors do.  Here they are processors of the repository,
  each step of the pipeline calls the next of them, and a publisher writes the events that it is
  offered as JSON.  Each step of this system is a step of the data path (`step_cases`), so the flow
  of the data path holds; the invariant `Made` says what each event on the way was made of.
-/
import MiniGateway.Delivery
import MiniGateway.Mqtt.Faithful
import MiniGateway.Normalizer.EventIds
import MiniGateway.Processing.Appending

namespace MiniGateway

/-! ### The system -/

/-- The data path of a gateway with its processors. -/
structure PublishingGateway where
  data : DataPath
  processors : List Processor

inductive PublishingEvent
  /-- The next processor is called; its clock reads `nowNs`. -/
  | process (nowNs : ℤ)
  /-- Any other step of the data path. -/
  | data (e : DataEvent)

/-- A step of the data path in which no processor returns. -/
def DataEvent.plain : DataEvent → Bool
  | .worker (.process _ _) => false
  | _ => true

namespace PublishingGateway

/-- One step of the gateway. -/
def step (publishers : ℕ) (s : PublishingGateway) : PublishingEvent → Option PublishingGateway
  | .process nowNs =>
    match s.data.worker with
    | .processing _ event index =>
      match s.processors[index]? with
      | some p =>
        let (result, event, p') := IDataProcessor.process nowNs event p
        (s.data.step s.processors.length publishers (.worker (.process event !result.isOk))).map
          fun data => ⟨data, s.processors.set index p'⟩
      | none => none
    | _ => none
  | .data e =>
    if e.plain then
      (s.data.step s.processors.length publishers e).map fun data => { s with data }
    else none

end PublishingGateway

/-- All runs of a gateway with these devices, processors and this many publishers. -/
def publishingSystem (devices : List DeviceConfig) (processors : List Processor)
    (publishers : ℕ) : TransitionSystem PublishingGateway PublishingEvent where
  Init s := ∃ capacity normalizer, normalizer.devices = devices ∧ normalizer.sequence = 0 ∧
    normalizer.stats.batches = 0 ∧ s = ⟨DataPath.create capacity normalizer, processors⟩
  step := PublishingGateway.step publishers

/-! ### What an event was made of -/

/-- `event` is `original` with readings that the processors derived. -/
structure Enriched (processors : List Processor) (original event : Event) : Prop where
  eventId : event.eventId = original.eventId
  deviceId : event.deviceId = original.deviceId
  source : event.source = original.source
  readings : ∃ added, event.readings = original.readings ++ added ∧
    ∀ reading ∈ added, reading.derived = true ∧ reading.quality = .good ∧
      ∃ p ∈ processors, reading.point = p.output

theorem Enriched.refl (processors : List Processor) (event : Event) :
    Enriched processors event event :=
  ⟨rfl, rfl, rfl, [], by simp, by simp⟩

/-- One more processor. -/
theorem Enriched.process {processors : List Processor} {original event : Event}
    (h : Enriched processors original event) {p q : Processor} (hq : q ∈ processors)
    (hsame : q.SameSettings p) (nowNs : ℤ) :
    Enriched processors original (p.process nowNs event).1 := by
  rcases p.process_cases nowNs event with heq | ⟨reading, happends, heq⟩
  · rwa [heq]
  · obtain ⟨added, hreadings, hadded⟩ := h.readings
    rw [heq]
    refine ⟨h.eventId, h.deviceId, h.source, added ++ [reading], ?_, ?_⟩
    · show event.readings ++ [reading] = _
      rw [hreadings, List.append_assoc]
    · intro other hother
      rcases List.mem_append.mp hother with hother | hother
      · exact hadded other hother
      · obtain rfl := List.mem_singleton.mp hother
        exact ⟨happends.derived, happends.quality, q, hq, happends.point.trans hsame.output.symm⟩

/-- What the events of the data path were made of. -/
structure Made (devices : List DeviceConfig) (processors : List Processor) (s : DataPath) :
    Prop where
  devices_eq : s.normalizer.devices = devices
  sequence : s.normalizer.sequence = s.history.normalized.length % 2 ^ 64
  normalized : ∀ (i : ℕ) batch event, s.history.normalized[i]? = some (batch, event) →
    ∃ receivedAt, event = normalizedEvent devices receivedAt ((i + 1) % 2 ^ 64) batch
  processed : ∀ (i : ℕ) batch event, s.history.processed[i]? = some (batch, event) →
    ∃ original, s.history.normalized[i]? = some (batch, original) ∧
      Enriched processors original event
  processing : ∀ batch event index, s.worker = .processing batch event index →
    ∃ original, s.history.normalized[s.history.processed.length]? = some (batch, original) ∧
      Enriched processors original event

namespace Made

variable {devices : List DeviceConfig} {processors : List Processor} {publishers count : ℕ}
  {s s' : DataPath}

theorem create (capacity : ℕ) {normalizer : Normalizer} (hdevices : normalizer.devices = devices)
    (hsequence : normalizer.sequence = 0) :
    Made devices processors (DataPath.create capacity normalizer) where
  devices_eq := hdevices
  sequence := hsequence
  normalized _ _ _ h := by cases h
  processed _ _ _ h := by cases h
  processing _ _ _ h := by cases h

/-- A step that makes no event and ends no pipeline. -/
theorem congr (h : Made devices processors s) (hnormalizer : s'.normalizer = s.normalizer)
    (hnormalized : s'.history.normalized = s.history.normalized)
    (hprocessed : s'.history.processed = s.history.processed)
    (hworker : ∀ batch event index, s'.worker = .processing batch event index →
      s.worker = .processing batch event index) : Made devices processors s' where
  devices_eq := by rw [hnormalizer, h.devices_eq]
  sequence := by rw [hnormalizer, hnormalized, h.sequence]
  normalized := by
    rw [hnormalized]
    exact h.normalized
  processed := by
    rw [hnormalized, hprocessed]
    exact h.processed
  processing := by
    rw [hnormalized, hprocessed]
    exact fun batch event index hw => h.processing batch event index (hworker batch event index hw)

/-- A new last entry of a list. -/
theorem getElem?_concat_cases {α : Type*} {items : List α} {item found : α} {i : ℕ}
    (h : (items ++ [item])[i]? = some found) :
    items[i]? = some found ∨ (i = items.length ∧ item = found) := by
  rcases lt_trichotomy i items.length with hlt | rfl | hgt
  · rw [List.getElem?_append_left hlt] at h
    exact .inl h
  · exact .inr ⟨rfl, by simpa using h⟩
  · rw [List.getElem?_eq_none (by simp; omega)] at h
    cases h

/-- The worker makes an event of its batch. -/
theorem normalize (h : Made devices processors s) (hflow : DataPath.Flow publishers s)
    {batch : RawBatch} (receivedAt : ℤ) (hw : s.worker = .normalizing batch) :
    Made devices processors { s with
      normalizer := (s.normalizer.normalize receivedAt batch).2
      worker := .processing batch (s.normalizer.normalize receivedAt batch).1 0
      history := { s.history with
        normalized := s.history.normalized ++
          [(batch, (s.normalizer.normalize receivedAt batch).1)] } } := by
  have hevent : (s.normalizer.normalize receivedAt batch).1 =
      normalizedEvent devices receivedAt ((s.history.normalized.length + 1) % 2 ^ 64) batch := by
    rw [← h.devices_eq, ← Nat.mod_add_mod, ← h.sequence]
    rfl
  have hlength : s.history.processed.length = s.history.normalized.length := by
    have hborder := congrArg List.length hflow.processed
    rw [hw] at hborder
    simpa [ProcessingPc.unprocessed] using hborder.symm
  rw [hevent]
  constructor
  · exact h.devices_eq
  · show (s.normalizer.sequence + 1) % 2 ^ 64 = _
    rw [h.sequence, Nat.mod_add_mod, List.length_append, List.length_singleton]
  · intro i found event hi
    rcases getElem?_concat_cases hi with hi | ⟨rfl, heq⟩
    · exact h.normalized i found event hi
    · cases heq
      exact ⟨receivedAt, rfl⟩
  · intro i found event hi
    obtain ⟨original, horiginal, henriched⟩ := h.processed i found event hi
    refine ⟨original, ?_, henriched⟩
    rw [List.getElem?_append_left (List.getElem?_eq_some_iff.mp horiginal).1, horiginal]
  · intro found event index hworker
    cases hworker
    refine ⟨_, ?_, .refl _ _⟩
    show (s.history.normalized ++ [_])[s.history.processed.length]? = _
    rw [hlength, List.getElem?_concat_length]

/-- The pipeline ends. -/
theorem pipeline_end (h : Made devices processors s) {batch : RawBatch} {event : Event}
    {index : ℕ} {stats : ProcessingStats} (hw : s.worker = .processing batch event index) :
    Made devices processors { s with
      worker := .delivering batch event
      processing := stats
      history := { s.history with processed := s.history.processed ++ [(batch, event)] } } where
  devices_eq := h.devices_eq
  sequence := h.sequence
  normalized := h.normalized
  processed := by
    intro i found other hi
    rcases getElem?_concat_cases hi with hi | ⟨rfl, heq⟩
    · exact h.processed i found other hi
    · cases heq
      exact h.processing batch event index hw
  processing _ _ _ hworker := by cases hworker

/-- A step of the worker; a processor that returns leaves an enriched event. -/
theorem worker {e : ProcessingEvent} (h : Made devices processors s)
    (hflow : DataPath.Flow publishers s)
    (he : DataPath.WorkerEffect count publishers s e s')
    (hprocess : ∀ event threw batch before index original, e = .process event threw →
      s.worker = .processing batch before index → Enriched processors original before →
      Enriched processors original event) : Made devices processors s' := by
  cases he with
  | normalize hw => exact h.normalize hflow _ hw
  | processed hw _ => exact h.pipeline_end hw
  | @process batch before event index threw stats hw _ _ =>
    refine ⟨h.devices_eq, h.sequence, h.normalized, h.processed, ?_⟩
    intro found other position hworker
    cases hworker
    obtain ⟨original, horiginal, henriched⟩ := h.processing batch before index hw
    exact ⟨original, horiginal, hprocess _ _ _ _ _ _ rfl hw henriched⟩
  | pop _ _ | exit _ _ | deliver _ | offer _ _ | offered _ _ | publishReturn _ =>
    exact h.congr rfl rfl rfl fun _ _ _ hworker => by cases hworker

/-- A step of the data path. -/
theorem step {e : DataEvent} (h : Made devices processors s) (hflow : DataPath.Flow publishers s)
    (he : s.step count publishers e = some s')
    (hprocess : ∀ event threw batch before index original, e = .worker (.process event threw) →
      s.worker = .processing batch before index → Enriched processors original before →
      Enriched processors original event) : Made devices processors s' := by
  cases e with
  | push batch =>
    obtain rfl := Option.some.inj he
    exact h.congr rfl rfl rfl fun _ _ _ hworker => hworker
  | close =>
    obtain rfl := Option.some.inj he
    exact h.congr rfl rfl rfl fun _ _ _ hworker => hworker
  | launch =>
    simp only [DataPath.step] at he
    split_ifs at he with habsent
    obtain rfl := Option.some.inj he
    exact h.congr rfl rfl rfl fun _ _ _ hworker => by cases hworker
  | join =>
    simp only [DataPath.step] at he
    split_ifs at he
    · obtain rfl := Option.some.inj he
      exact h.congr rfl rfl rfl fun _ _ _ hworker => hworker
    · obtain rfl := Option.some.inj he
      exact h
  | worker e =>
    refine h.worker hflow (DataPath.stepWorker_effect he) ?_
    exact fun event threw batch before index original heq =>
      hprocess event threw batch before index original (congrArg DataEvent.worker heq)

end Made

namespace PublishingGateway

variable {devices : List DeviceConfig} {processors : List Processor} {publishers : ℕ}
  {s s' : PublishingGateway}

/-- Everything that one step can do: it is a step of the data path, and if a processor returns in
it, that is the next one. -/
theorem step_cases {e : PublishingEvent} (h : s.step publishers e = some s') :
    (∃ e', e'.plain = true ∧
      s.data.step s.processors.length publishers e' = some s'.data ∧
      s'.processors = s.processors) ∨
    ∃ nowNs batch event index p, s.data.worker = .processing batch event index ∧
      s.processors[index]? = some p ∧
      s.data.step s.processors.length publishers
        (.worker (.process (p.process nowNs event).1 false)) = some s'.data ∧
      s'.processors = s.processors.set index (p.process nowNs event).2 := by
  cases e with
  | process nowNs =>
    simp only [step] at h
    split at h
    · rename_i batch event index hworker
      split at h
      · rename_i p hp
        obtain ⟨data, hdata, rfl⟩ := Option.map_eq_some_iff.mp h
        exact .inr ⟨nowNs, batch, event, index, p, hworker, hp, hdata, rfl⟩
      · cases h
    · cases h
  | data e =>
    simp only [step] at h
    split_ifs at h with hplain
    obtain ⟨data, hdata, rfl⟩ := Option.map_eq_some_iff.mp h
    exact .inl ⟨e, hplain, hdata, rfl⟩

theorem forall₂_set {α β : Type*} {R : α → β → Prop} {xs : List α} {ys : List β}
    (h : List.Forall₂ R xs ys) {i : ℕ} {y : β} (hy : ∀ x, xs[i]? = some x → R x y) :
    List.Forall₂ R xs (ys.set i y) := by
  induction h generalizing i with
  | nil => exact .nil
  | cons hhead hrest ih =>
    cases i with
    | zero => exact .cons (hy _ rfl) hrest
    | succ i => exact .cons hhead (ih hy)

/-- The data path keeps its flow, the processors their settings, and every event is what it should
be. -/
theorem made (h : (publishingSystem devices processors publishers).Reachable s) :
    DataPath.Flow publishers s.data ∧
      List.Forall₂ Processor.SameSettings processors s.processors ∧
      Made devices processors s.data := by
  induction h with
  | init hinit =>
    obtain ⟨capacity, normalizer, hdevices, hsequence, hbatches, rfl⟩ := hinit
    exact ⟨.create capacity hbatches, List.forall₂_same.mpr fun p _ => .refl p,
      .create capacity hdevices hsequence⟩
  | step _ hstep ih =>
    obtain ⟨hflow, hsettings, hmade⟩ := ih
    rcases step_cases hstep with ⟨e, hplain, hdata, hprocessors⟩ |
      ⟨nowNs, batch, event, index, p, hworker, hp, hdata, hprocessors⟩
    · refine ⟨hflow.step hdata, hprocessors ▸ hsettings, hmade.step hflow hdata ?_⟩
      rintro event threw batch before index original rfl
      cases hplain
    · obtain ⟨q, hq, hsame⟩ := exists_getElem?_of_forall₂ hsettings.flip hp
      refine ⟨hflow.step hdata, ?_, hmade.step hflow hdata ?_⟩
      · rw [hprocessors]
        refine forall₂_set hsettings fun x hx => ?_
        obtain rfl := Option.some.inj (hx.symm.trans hq)
        exact hsame.trans (p.process_same nowNs event)
      · rintro after threw found before position original heq hw henriched
        cases heq
        rw [hworker] at hw
        cases hw
        exact henriched.process (List.mem_of_getElem? hq) hsame nowNs

end PublishingGateway

/-! ### The stream of a publisher -/

namespace DataPath

variable {publishers : ℕ} {s : DataPath}

/-- A publisher is offered the first of the processed events, in order. -/
theorem Flow.offeredTo_prefix (h : Flow publishers s) {publisher : ℕ}
    (hpublisher : publisher < publishers) :
    s.offeredTo publisher <+: s.history.processed.map Prod.snd := by
  have hall := offers_to s.history.delivered hpublisher
  rw [h.offered, List.filter_append, List.map_append] at hall
  rw [h.delivered, List.map_append, ← hall, List.append_assoc]
  exact List.prefix_append _ _

/-- The processed batches are the first of the accepted ones, in order. -/
theorem Flow.processed_prefix (h : Flow publishers s) :
    s.history.processed.map Prod.fst <+: s.history.accepted := by
  rw [h.taken, h.normalized, h.processed, List.append_assoc, List.append_assoc]
  exact List.prefix_append _ _

end DataPath

theorem getElem?_of_prefix {α : Type*} {xs ys : List α} (h : xs <+: ys) {i : ℕ} {x : α}
    (hx : xs[i]? = some x) : ys[i]? = some x := by
  obtain ⟨rest, rfl⟩ := h
  rw [List.getElem?_append_left (List.getElem?_eq_some_iff.mp hx).1, hx]

namespace PublishingGateway

variable {devices : List DeviceConfig} {processors : List Processor} {publishers : ℕ}
  {s : PublishingGateway}

/-- The event that a publisher was offered at place `i` was made of the accepted batch at place `i`,
as long as the counter of the ids has not come round. -/
theorem offered_from (h : (publishingSystem devices processors publishers).Reachable s)
    (hfew : s.data.history.accepted.length < 2 ^ 64) {publisher i : ℕ}
    (hpublisher : publisher < publishers) {event : Event}
    (hevent : (s.data.offeredTo publisher)[i]? = some event) :
    ∃ batch receivedAt, s.data.history.accepted[i]? = some batch ∧
      Enriched processors (normalizedEvent devices receivedAt (i + 1) batch) event := by
  obtain ⟨hflow, -, hmade⟩ := made h
  have hprocessed := getElem?_of_prefix (hflow.offeredTo_prefix hpublisher) hevent
  rw [List.getElem?_map, Option.map_eq_some_iff] at hprocessed
  obtain ⟨⟨batch, event⟩, hpair, rfl⟩ := hprocessed
  obtain ⟨original, horiginal, henriched⟩ := hmade.processed i batch event hpair
  obtain ⟨receivedAt, rfl⟩ := hmade.normalized i batch original horiginal
  have hbatch : s.data.history.accepted[i]? = some batch :=
    getElem?_of_prefix hflow.processed_prefix (by rw [List.getElem?_map, hpair]; rfl)
  have hi : i < s.data.history.accepted.length := (List.getElem?_eq_some_iff.mp hbatch).1
  rw [Nat.mod_eq_of_lt (by omega)] at henriched
  exact ⟨batch, receivedAt, hbatch, henriched⟩

/-- The number in the id of an event is its place in the stream. -/
theorem number_of_enriched {receivedAt : ℤ} {i : ℕ} {batch : RawBatch} {event : Event}
    (h : Enriched processors (normalizedEvent devices receivedAt i batch) event) :
    event.number = i := by
  rw [Event.number, h.eventId]
  exact trailingNumber_eventId devices receivedAt i batch

/-- **The stream of payloads.**  In every run, the payload that a publisher is given at place `i` is
read as an event made of the `i`-th accepted batch: with the id of batch `i + 1`, the batch's
device and source and one reading for each of its samples in order, followed by readings that the
processors derived.  No two payloads of a publisher are the same.  All this is for fewer than `2^64`
batches: then the counter of the ids comes round. -/
theorem payload_stream (h : (publishingSystem devices processors publishers).Reachable s)
    (hfew : s.data.history.accepted.length < 2 ^ 64) {publisher : ℕ}
    (hpublisher : publisher < publishers) :
    (∀ (i : ℕ) event, (s.data.offeredTo publisher)[i]? = some event →
      ∃ batch receivedAt json, s.data.history.accepted[i]? = some batch ∧
        Enriched processors (normalizedEvent devices receivedAt (i + 1) batch) event ∧
        JsonText.parse (eventToJson streamFormat event) = some json ∧
        EventDecodes streamFormat event json) ∧
    ((s.data.offeredTo publisher).map (eventToJson streamFormat)).Nodup := by
  constructor
  · intro i event hevent
    obtain ⟨batch, receivedAt, hbatch, henriched⟩ := offered_from h hfew hpublisher hevent
    obtain ⟨json, hreads, hdecodes⟩ := reads_event streamFormat event
    exact ⟨batch, receivedAt, json, hbatch, henriched, hreads.parse, hdecodes⟩
  · rw [List.nodup_iff_injective_getElem]
    rintro ⟨i, hi⟩ ⟨j, hj⟩ heq
    simp only [List.getElem_map] at heq
    obtain ⟨batch, receivedAt, -, henriched⟩ := offered_from h hfew hpublisher
      (List.getElem?_eq_getElem (by simpa using hi))
    obtain ⟨batch', receivedAt', -, henriched'⟩ := offered_from h hfew hpublisher
      (List.getElem?_eq_getElem (by simpa using hj))
    have hnumber := number_of_enriched henriched
    have hnumber' := number_of_enriched henriched'
    have hid := (payload_determines heq).eventId
    rw [Event.number, hid, ← Event.number, hnumber'] at hnumber
    exact Fin.ext (by simpa using hnumber.symm)

/-- A device with a switch. -/
def switchDevices : List DeviceConfig :=
  [{ id := lit "d", driver := ⟨lit "sim", lit "{}", []⟩, connection := [],
     points := [{ name := lit "on", type := .boolean, unit := [], address := [],
                  scale := Binary64.Double.zero, offset := Binary64.Double.zero, minimum := none,
                  maximum := none }] }]

/-- Two batches of the switch; a threshold derives a reading from the second. -/
def switchEvents : List PublishingEvent :=
  let batch (quality : Quality) : RawBatch :=
    { deviceId := lit "d", source := lit "sim",
      samples := [{ point := lit "on", value := .boolean true, status := quality,
                    sourceTimeNs := 0 }] }
  let rest : List PublishingEvent :=
    [.data (.worker .pop), .data (.worker (.normalize 7)), .process 8, .data (.worker .processed),
      .data (.worker .deliver), .data (.worker .offer),
      .data (.worker (.publishReturn (some .accepted))), .data (.worker .offer)]
  [.data (.push (batch .timeout)), .data (.push (batch .good)), .data .launch] ++ rest ++ rest

/-- The gateway of the switch. -/
def switchSystem : TransitionSystem PublishingGateway PublishingEvent :=
  publishingSystem switchDevices
    [.threshold ⟨lit "on", Binary64.Double.zero, lit "high", by decide⟩] 1

theorem payload_stream_switch : ∃ s, switchSystem.Reachable s ∧
    (s.data.offeredTo 0).map (fun event => event.readings.length) = [1, 2] ∧
    ((s.data.offeredTo 0).map (eventToJson streamFormat)).Nodup := by
  let normalizer : Normalizer := { devices := switchDevices, accepted := by decide }
  let initial : PublishingGateway := ⟨DataPath.create 4 normalizer,
    [.threshold ⟨lit "on", Binary64.Double.zero, lit "high", by decide⟩]⟩
  have hinit : switchSystem.Init initial := ⟨4, normalizer, rfl, rfl, rfl, rfl⟩
  obtain ⟨s, hreachable, htest⟩ := TransitionSystem.exists_reachable_of_run
    (M := switchSystem) (w := switchEvents)
    (p := fun s => (s.data.offeredTo 0).map (fun event => event.readings.length) == [1, 2] &&
      s.data.history.accepted.length == 2) hinit (by decide +kernel)
  obtain ⟨hlengths, haccepted⟩ := Bool.and_eq_true_iff.mp htest
  have hfew : s.data.history.accepted.length < 2 ^ 64 := by
    rw [beq_iff_eq.mp haccepted]
    norm_num
  exact ⟨s, hreachable, beq_iff_eq.mp hlengths, (payload_stream hreachable hfew (by decide)).2⟩

end PublishingGateway

end MiniGateway
