/-
  The topics of the MQTT publisher (`mqtt_event_publisher.cpp`).

  `validate_config` keeps the wildcards `+` and `#` and the NUL byte out of the topic prefix, and
  `configure` keeps them out of the configured device ids.  The topic, however, carries the device
  id of the event, which is the one that the driver wrote into its batch: the normaliser and the
  processors hand on batches of devices that nobody configured.  `MQTTAsync_send` reads the topic as
  a C string, so a NUL in the device id ends the topic that is sent.
-/
import MiniGateway.DataPath
import MiniGateway.Mqtt.Payload

namespace MiniGateway

/-! ### The publisher -/

/-- `MqttPublisherConfig`, without the members that only `start` reads. -/
structure MqttPublisherConfig where
  host : ByteString := lit "127.0.0.1"
  port : ℤ := 1883
  keepalive : ℤ := 30
  clientId : ByteString := lit "edge-gateway"
  topicPrefix : ByteString := lit "edge/events"
  qos : ℤ := 1
  retain : Bool := false
  reconnectDelay : ℕ := 1
  reconnectDelayMax : ℕ := 30
  reconnectExponentialBackoff : Bool := true

/-- `find_first_of("+#") != npos || find('\0') != npos`. -/
def hasReserved (s : ByteString) : Bool := s.any (fun c => c == 43 || c == 35) || s.contains 0

/-- `validate_config`. -/
def validateConfig (config : MqttPublisherConfig) : Except ByteString Unit :=
  if config.host = [] ∨ config.clientId = [] ∨ config.topicPrefix = [] then
    .error (lit "MQTT host, client_id and topic_prefix are required")
  else if config.port ≤ 0 ∨ 65535 < config.port then
    .error (lit "MQTT port must be between 1 and 65535")
  else if config.keepalive < 0 ∨ config.keepalive = 1 ∨ 65535 < config.keepalive then
    .error (lit "MQTT keepalive must be 0 or in range 2..65535")
  else if hasReserved config.topicPrefix then
    .error (lit "MQTT topic_prefix must not contain +, # or NUL")
  else if config.qos < 0 ∨ 2 < config.qos then .error (lit "MQTT QoS must be 0, 1 or 2")
  else if config.reconnectDelay = 0 ∨ config.reconnectDelayMax < config.reconnectDelay ∨
      2 ^ 31 - 1 < config.reconnectDelayMax then
    .error (lit "MQTT reconnect delays must satisfy 1 <= delay <= delay_max <= INT_MAX")
  else if !config.reconnectExponentialBackoff then
    .error (lit "Paho MQTTAsync requires exponential reconnect backoff")
  else .ok ()

/-- `MqttEventPublisher`: a configuration that passed the constructor, and the flags that
`configure` and `publish` read. -/
structure MqttEventPublisher where
  config : MqttPublisherConfig
  accepted : validateConfig config = .ok ()
  configured : Bool := false
  started : Bool := false
  /-- `client_ != nullptr`. -/
  client : Bool := false

namespace MqttEventPublisher

/-- The constructor. -/
def create (config : MqttPublisherConfig) : Except ByteString MqttEventPublisher :=
  match h : validateConfig config with
  | .error what => .error what
  | .ok () => .ok { config := config, accepted := h }

/-- The loop of `configure`. -/
def checkDeviceIds : List DeviceConfig → Except ByteString Unit
  | [] => .ok ()
  | device :: rest =>
    if hasReserved device.id then
      .error (lit "MQTT topic device id must not contain +, # or NUL: " ++ device.id)
    else checkDeviceIds rest

/-- `configure`; the configuration was validated by the constructor and has not changed since. -/
def configure (p : MqttEventPublisher) (gateway : GatewayConfig) :
    Except ByteString MqttEventPublisher :=
  if p.started then .error (lit "cannot configure a running MQTT event publisher")
  else
    match checkDeviceIds gateway.devices with
    | .error what => .error what
    | .ok () => .ok { p with configured := true }

/-- `topic_for`. -/
def topicFor (p : MqttEventPublisher) (event : Event) : ByteString :=
  let topic := p.config.topicPrefix
  let topic := if topic.getLast? = some 47 then topic else topic ++ lit "/"
  topic ++ event.deviceId ++ lit "/event"

/-- What `MQTTAsync_send` is handed: a topic as the C string it reads, and a payload with its
length. -/
structure SentMessage where
  topic : ByteString
  payload : ByteString
  qos : ℤ
  retain : Bool
  deriving DecidableEq

/-- The return codes of `MQTTAsync_send`, as `publish` tells them apart. -/
inductive SendResult
  | success
  /-- A code for which `is_temporarily_unavailable` is true. -/
  | unavailable
  | failure

/-- `publish`: its result, and the message it sends. -/
def publish (p : MqttEventPublisher) (format : FloatFormat) (send : SentMessage → SendResult)
    (event : Event) : EventPublishResult × Option SentMessage :=
  let payload := eventToJson format event
  if payload.length > 2 ^ 31 - 1 then (.rejected, none)
  else
    let topic := p.topicFor event
    if !p.started || !p.client then (.unavailable, none)
    else
      let message := ⟨cString topic, payload, p.config.qos, p.config.retain⟩
      match send message with
      | .success => (.accepted, some message)
      | .unavailable => (.unavailable, some message)
      | .failure => (.rejected, some message)

/-! ### What the checks promise -/

theorem configure_ok {p p' : MqttEventPublisher} {gateway : GatewayConfig}
    (h : p.configure gateway = .ok p') :
    p'.config = p.config ∧ checkDeviceIds gateway.devices = .ok () := by
  unfold configure at h
  split_ifs at h
  split at h
  · cases h
  · rename_i hids
    obtain rfl := Except.ok.inj h
    exact ⟨rfl, hids⟩

/-- The prefix of a validated configuration is neither empty nor reserved. -/
theorem hasReserved_topicPrefix (p : MqttEventPublisher) :
    hasReserved p.config.topicPrefix = false := by
  have haccepted := p.accepted
  unfold validateConfig at haccepted
  split_ifs at haccepted with _ _ _ hreserved
  simpa using hreserved

/-- The ids that `configure` lets pass. -/
theorem hasReserved_of_configured {devices : List DeviceConfig}
    (h : checkDeviceIds devices = .ok ()) : ∀ device ∈ devices, hasReserved device.id = false := by
  induction devices with
  | nil => exact fun device hin => absurd hin List.not_mem_nil
  | cons first rest ih =>
    rw [checkDeviceIds] at h
    split_ifs at h with hfirst
    intro device hin
    rcases List.mem_cons.mp hin with rfl | hrest
    · simpa using hfirst
    · exact ih h device hrest

theorem hasReserved_append (s s' : ByteString) :
    hasReserved (s ++ s') = (hasReserved s || hasReserved s') := by
  unfold hasReserved
  rw [List.any_append, List.contains_eq_any_beq, List.contains_eq_any_beq,
    List.contains_eq_any_beq, List.any_append]
  cases s.any (fun c => c == 43 || c == 35) <;> cases s'.any (fun c => c == 43 || c == 35) <;>
    simp

/-- A topic is a clean text, the device id and `/event`. -/
theorem exists_topicFor_eq (p : MqttEventPublisher) : ∃ head, hasReserved head = false ∧
    ∀ event, p.topicFor event = head ++ (event.deviceId ++ lit "/event") := by
  refine ⟨if p.config.topicPrefix.getLast? = some 47 then p.config.topicPrefix
    else p.config.topicPrefix ++ lit "/", ?_, fun event => List.append_assoc ..⟩
  have hslash : hasReserved (lit "/") = false := rfl
  split_ifs
  · exact p.hasReserved_topicPrefix
  · rw [hasReserved_append, p.hasReserved_topicPrefix, hslash, Bool.false_or]

/-- The topic of `topic_for` is as clean as the device id in it. -/
theorem hasReserved_topicFor (p : MqttEventPublisher) (event : Event) :
    hasReserved (p.topicFor event) = hasReserved event.deviceId := by
  obtain ⟨head, hhead, htopic⟩ := p.exists_topicFor_eq
  have hevent : hasReserved (lit "/event") = false := rfl
  rw [htopic, hasReserved_append, hasReserved_append, hhead, hevent, Bool.false_or, Bool.or_false]

theorem zero_notMem_of_hasReserved {s : ByteString} (h : hasReserved s = false) :
    (0 : UInt8) ∉ s := by
  unfold hasReserved at h
  simpa using (Bool.or_eq_false_iff.mp h).2

/-- The topic that is sent is as clean as the device id up to its first NUL. -/
theorem hasReserved_cString_topicFor (p : MqttEventPublisher) (event : Event) :
    hasReserved (cString (p.topicFor event)) = hasReserved (cString event.deviceId) := by
  obtain ⟨head, hhead, htopic⟩ := p.exists_topicFor_eq
  have hnone := zero_notMem_of_hasReserved hhead
  by_cases hnul : (0 : UInt8) ∈ event.deviceId
  · -- the cut is in the device id
    rw [htopic, cString_append hnone, cString_append_of_mem hnul, hasReserved_append, hhead,
      Bool.false_or]
  · -- there is nothing to cut off
    have htail : (0 : UInt8) ∉ lit "/event" := by decide
    have hwhole : (0 : UInt8) ∉ head ++ (event.deviceId ++ lit "/event") := by
      simp only [List.mem_append, not_or]
      exact ⟨hnone, hnul, htail⟩
    rw [cString_of_notMem hnul, ← p.hasReserved_topicFor event, htopic, cString_of_notMem hwhole]

theorem publish_topic {p : MqttEventPublisher} {format : FloatFormat}
    {send : SentMessage → SendResult} {event : Event} {message : SentMessage}
    (h : (p.publish format send event).2 = some message) :
    message.topic = cString (p.topicFor event) := by
  simp only [publish] at h
  by_cases hsize : (eventToJson format event).length > 2 ^ 31 - 1
  · rw [if_pos hsize] at h
    cases h
  · rw [if_neg hsize] at h
    by_cases hclosed : (!p.started || !p.client) = true
    · rw [if_pos hclosed] at h
      cases h
    · rw [if_neg hclosed] at h
      -- the message is the same whatever the code
      split at h
      all_goals
        obtain rfl := Option.some.inj h
        rfl

end MqttEventPublisher

/-! ### From the batch to the topic -/

/-- The processors leave the device id alone. -/
theorem Processor.process_deviceId (nowNs : ℤ) (event : Event) (p : Processor) :
    (p.process nowNs event).1.deviceId = event.deviceId := by
  cases p with
  | threshold p =>
    simp only [Processor.process, ThresholdProcessor.process]
    split <;> rfl
  | windowAverage p =>
    simp only [Processor.process, WindowAverageProcessor.process]
    split
    · rfl
    · split_ifs <;> rfl
  | inference p =>
    simp only [Processor.process, InferenceProcessor.process]
    split <;> rfl

theorem processAll_deviceId (nowNs : ℤ) (event : Event) (errors : ℕ)
    (processors : List Processor) :
    (processAll nowNs event errors processors).1.deviceId = event.deviceId := by
  induction processors generalizing event with
  | nil => rfl
  | cons p rest ih =>
    rw [processAll_cons]
    exact (ih _).trans (p.process_deviceId nowNs event)

/-- The event that the publishers are offered for a batch. -/
def publishedEvent (n : Normalizer) (pipeline : ProcessingPipeline Processor)
    (receivedAt nowNs : ℤ) (batch : RawBatch) : Event :=
  (pipeline.process nowNs (n.normalize receivedAt batch).1).1

theorem publishedEvent_deviceId (n : Normalizer) (pipeline : ProcessingPipeline Processor)
    (receivedAt nowNs : ℤ) (batch : RawBatch) :
    (publishedEvent n pipeline receivedAt nowNs batch).deviceId = batch.deviceId :=
  processAll_deviceId nowNs _ _ pipeline.processors

/-- No wildcard and no NUL byte. -/
def CleanTopic (topic : ByteString) : Prop := ∀ c ∈ topic, c ≠ 43 ∧ c ≠ 35 ∧ c ≠ 0

theorem cleanTopic_iff {topic : ByteString} : CleanTopic topic ↔ hasReserved topic = false := by
  unfold CleanTopic hasReserved
  rw [Bool.or_eq_false_iff, List.any_eq_false, List.contains_eq_any_beq, List.any_eq_false]
  constructor
  · intro h
    refine ⟨fun c hc => ?_, fun c hc => ?_⟩
    · simp [(h c hc).1, (h c hc).2.1]
    · simpa using Ne.symm (h c hc).2.2
  · rintro ⟨hwild, hnul⟩ c hc
    have hc' := hwild c hc
    simp only [Bool.or_eq_true, beq_iff_eq, not_or] at hc'
    refine ⟨hc'.1, hc'.2, ?_⟩
    have hnul' := hnul c hc
    simpa using Ne.symm (by simpa using hnul')

namespace MqttEventPublisher

/-- A publisher as the gateway uses it: constructed, configured for a gateway, and whatever `start`
and `stop` have done since. -/
structure InUse (config : MqttPublisherConfig) (gateway : GatewayConfig)
    (p : MqttEventPublisher) : Prop where
  created : ∃ p₀ p₁, create config = .ok p₀ ∧ p₀.configure gateway = .ok p₁ ∧ p.config = p₁.config

/-- **Which topics are clean.**  The topic of `topic_for` is clean exactly if the batch's own device
id is, and a topic that is sent exactly if that id is up to its first NUL.  A configured device id
always is clean. -/
theorem cleanTopic_topicFor {config : MqttPublisherConfig} {gateway : GatewayConfig}
    {p : MqttEventPublisher} (hp : InUse config gateway p) (format : FloatFormat)
    (send : SentMessage → SendResult) (n : Normalizer) (pipeline : ProcessingPipeline Processor)
    (receivedAt nowNs : ℤ) (batch : RawBatch) :
    (CleanTopic (p.topicFor (publishedEvent n pipeline receivedAt nowNs batch)) ↔
        CleanTopic batch.deviceId) ∧
      (∀ message, (p.publish format send
        (publishedEvent n pipeline receivedAt nowNs batch)).2 = some message →
          message.topic = cString (p.topicFor (publishedEvent n pipeline receivedAt nowNs batch)) ∧
            (CleanTopic message.topic ↔ CleanTopic (cString batch.deviceId))) ∧
      (batch.deviceId ∈ gateway.devices.map DeviceConfig.id → CleanTopic batch.deviceId) := by
  refine ⟨?_, fun message h => ?_, ?_⟩
  · rw [cleanTopic_iff, cleanTopic_iff, hasReserved_topicFor, publishedEvent_deviceId]
  · rw [publish_topic h, cleanTopic_iff, cleanTopic_iff, hasReserved_cString_topicFor,
      publishedEvent_deviceId]
    exact ⟨rfl, Iff.rfl⟩
  · intro hin
    obtain ⟨device, hdevice, hid⟩ := List.mem_map.mp hin
    obtain ⟨p₀, p₁, -, hconfigure, -⟩ := hp.created
    rw [cleanTopic_iff, ← hid]
    exact hasReserved_of_configured (configure_ok hconfigure).2 device hdevice

/-- A gateway with one device, named `d`, without points. -/
def oneDeviceConfig : GatewayConfig where
  rawQueueCapacity := 1
  controlQueueCapacity := 1
  devices := [{
    id := lit "d", driver := ⟨lit "t", lit "\x7b\x7d", []⟩, connection := [], points := [] }]
  groups := []

/-- The default configuration, constructed and configured for that gateway. -/
def defaultPublisher : MqttEventPublisher where
  config := {}
  accepted := by decide +kernel
  configured := true

/-- That publisher after `start`. -/
def startedPublisher : MqttEventPublisher :=
  { defaultPublisher with started := true, client := true }

theorem startedPublisher_inUse : InUse {} oneDeviceConfig startedPublisher where
  created := ⟨{ config := {}, accepted := by decide +kernel }, defaultPublisher, rfl, rfl, rfl⟩

/-- The normaliser of that gateway. -/
def oneDeviceNormalizer : Normalizer where
  devices := oneDeviceConfig.devices
  accepted := by decide +kernel

/-- A NUL in the device id ends the topic. -/
example (event : Event) (h : event.deviceId = [97, 0, 98]) :
    cString (startedPublisher.topicFor event) = lit "edge/events/a" := by
  rw [topicFor, h]
  decide +kernel

/-- A batch with the device id `+` is published under the topic `edge/events/+/event`. -/
theorem wildcard_topic : ¬∀ config gateway p, InUse config gateway p →
    ∀ n, Normalizer.create gateway = .ok n →
      ∀ format send (pipeline : ProcessingPipeline Processor) receivedAt nowNs batch message,
        (p.publish format send (publishedEvent n pipeline receivedAt nowNs batch)).2 =
            some message →
          CleanTopic (p.topicFor (publishedEvent n pipeline receivedAt nowNs batch)) ∧
            CleanTopic message.topic := by
  intro h
  let batch : RawBatch := { deviceId := lit "+", source := [], samples := [] }
  let event := publishedEvent oneDeviceNormalizer { processors := [] } 0 0 batch
  have hsent : (startedPublisher.publish wholeFormat (fun _ => .success) event).2 =
      some ⟨lit "edge/events/+/event", eventToJson wholeFormat event, 1, false⟩ := by
    decide +kernel
  have hclean := (h {} oneDeviceConfig startedPublisher startedPublisher_inUse oneDeviceNormalizer
    rfl wholeFormat (fun _ => .success) { processors := [] } 0 0 batch _ hsent).2
  exact (hclean 43 (by decide)).1 rfl

/-- A batch of the configured device is published under a clean topic. -/
theorem cleanTopic_topicFor_configured : ∃ message, (startedPublisher.publish wholeFormat
    (fun _ => .success) (publishedEvent oneDeviceNormalizer { processors := [] } 0 0
      { deviceId := lit "d", source := [], samples := [] })).2 = some message ∧
    message.topic = lit "edge/events/d/event" ∧ CleanTopic message.topic := by
  let batch : RawBatch := { deviceId := lit "d", source := [], samples := [] }
  let event := publishedEvent oneDeviceNormalizer { processors := [] } 0 0 batch
  have hsent : (startedPublisher.publish wholeFormat (fun _ => .success) event).2 =
      some ⟨lit "edge/events/d/event", eventToJson wholeFormat event, 1, false⟩ := by
    decide +kernel
  obtain ⟨-, hmessage, hconfigured⟩ := cleanTopic_topicFor startedPublisher_inUse wholeFormat
    (fun _ => .success) oneDeviceNormalizer { processors := [] } 0 0 batch
  have hid : cString batch.deviceId = batch.deviceId := rfl
  exact ⟨_, hsent, rfl, (hmessage _ hsent).2.mpr (hid ▸ hconfigured (by decide))⟩

end MqttEventPublisher

end MiniGateway
