/-
  What one step of the MQTT publisher's threads can do, said once: `CallerEffect` has a constructor
  for each way a step can go, with the condition under which it happens and the state after it.
  `callback_effect` says it of the callbacks.
-/
import MiniGateway.Mqtt.Client

namespace MiniGateway.MqttUsers

variable {paho : Paho} {format : FloatFormat} {s s' : MqttUsers} {t : ThreadId}
  {e : MqttCallerEvent}

/-- The effect of one step of thread `t`. -/
inductive CallerEffect (paho : Paho) (format : FloatFormat) (s : MqttUsers) (t : ThreadId) :
    MqttCallerEvent → MqttUsers → Prop
  | call {c : MqttCall} (hpc : s.callers t = .idle) (halive : s.gone = false)
      (hlast : c.isDestructor = true → s.busy = ∅) :
      CallerEffect paho format s t (.call c) (s.enter t c)
  | configureThrow {gateway : GatewayConfig} {what : ByteString}
      (hpc : s.callers t = .configure gateway) (hm : s.mutex = none)
      (hthrow : s.object.publisher.configure gateway = .error what) :
      CallerEffect paho format s t .lock (s.leave t (.threw what))
  | configured {gateway : GatewayConfig} (hpc : s.callers t = .configure gateway)
      (hm : s.mutex = none) (hstarted : s.object.started = false) :
      CallerEffect paho format s t .lock
        ({ s with object := { s.object with configured := true } }.leave t .done)
  | startUnconfigured (hpc : s.callers t = .start) (hm : s.mutex = none)
      (hconfigured : s.object.configured = false) :
      CallerEffect paho format s t .lock
        (s.leave t (.threw (lit "MQTT event publisher is not configured")))
  | startRunning (hpc : s.callers t = .start) (hm : s.mutex = none)
      (hconfigured : s.object.configured = true) (hstarted : s.object.started = true) :
      CallerEffect paho format s t .lock
        (s.leave t (.threw (lit "MQTT event publisher is already running")))
  | startBegin (hpc : s.callers t = .start) (hm : s.mutex = none)
      (hconfigured : s.object.configured = true) (hstarted : s.object.started = false) :
      CallerEffect paho format s t .lock { s.goto t (.starting .create) with
        mutex := some t
        object := { s.object with client := none } }
  | created {rc : ℤ} {handle : ℕ} (hpc : s.callers t = .starting .create)
      (hrc : rc = paho.success) :
      CallerEffect paho format s t (.create rc (some handle))
        ((s.calls (s.object.createCall rc (some handle))
          { s.object with client := some handle }).goto t (.starting .setConnectionLostCallback))
  | createFailed {rc : ℤ} {handle : Option ℕ} (hpc : s.callers t = .starting .create)
      (hrc : rc ≠ paho.success) :
      CallerEffect paho format s t (.create rc handle)
        ((s.calls (s.object.createCall rc handle)
          s.object.discard).unlock.leave t (.threw (paho.error (lit "MQTTAsync_create") rc)))
  | setConnectionLostCallback {rc : ℤ}
      (hpc : s.callers t = .starting .setConnectionLostCallback) :
      CallerEffect paho format s t (.setConnectionLostCallback rc)
        ((s.calls (.setConnectionLostCallback s.object.client) s.object).goto t
          (.starting (if rc = paho.success then .setConnected
            else .cleanup (lit "MQTTAsync_setConnectionLostCallback") rc)))
  | setConnected {rc : ℤ} (hpc : s.callers t = .starting .setConnected) :
      CallerEffect paho format s t (.setConnected rc)
        ((s.calls (.setConnected s.object.client) s.object).goto t
          (.starting (if rc = paho.success then .connect
            else .cleanup (lit "MQTTAsync_setConnected") rc)))
  | connected {rc : ℤ} (hpc : s.callers t = .starting .connect) (hrc : rc = paho.success) :
      CallerEffect paho format s t (.connect rc)
        ((s.calls (.connect s.object.client s.object.connectOptions)
          { s.object with started := true }).unlock.leave t .done)
  | connectFailed {rc : ℤ} (hpc : s.callers t = .starting .connect) (hrc : rc ≠ paho.success) :
      CallerEffect paho format s t (.connect rc)
        ((s.calls (.connect s.object.client s.object.connectOptions) s.object).goto t
          (.starting (.cleanup (lit "MQTTAsync_connect") rc)))
  | cleanup {operation : ByteString} {rc : ℤ}
      (hpc : s.callers t = .starting (.cleanup operation rc)) (hclient : s.object.client ≠ none) :
      CallerEffect paho format s t .cleanup
        ((s.calls (.destroy s.object.client) s.object.discard).unlock.leave t
          (.threw (paho.error operation rc)))
  | cleanupNull {operation : ByteString} {rc : ℤ}
      (hpc : s.callers t = .starting (.cleanup operation rc)) (hclient : s.object.client = none) :
      CallerEffect paho format s t .cleanup
        ({ s with object := s.object.discard }.unlock.leave t (.threw (paho.error operation rc)))
  | encodeRejected {event : Event} (hpc : s.callers t = .publish event)
      (hsize : 2 ^ 31 - 1 < (eventToJson format event).length) :
      CallerEffect paho format s t .encode
        ({ s with object := s.object.count .rejected }.goto t (.returning .rejected))
  | encoded {event : Event} {topic payload : ByteString} (hpc : s.callers t = .publish event)
      (htopic : topic = s.object.publisher.topicFor event)
      (hpayload : payload = eventToJson format event) (hsize : payload.length ≤ 2 ^ 31 - 1) :
      CallerEffect paho format s t .encode (s.goto t (.publishing topic payload))
  | encodeThrow {event : Event} {what : ByteString} (hpc : s.callers t = .publish event) :
      CallerEffect paho format s t (.encodeThrow what) (s.leave t (.threw what))
  | unavailable {topic payload : ByteString} (hpc : s.callers t = .publishing topic payload)
      (hm : s.mutex = none) (hclosed : s.object.started = false ∨ s.object.client = none) :
      CallerEffect paho format s t .lock
        ({ s with object := s.object.count .unavailable }.goto t (.returning .unavailable))
  | sendBegin {topic payload : ByteString} (hpc : s.callers t = .publishing topic payload)
      (hm : s.mutex = none) (hstarted : s.object.started = true)
      (hclient : s.object.client ≠ none) :
      CallerEffect paho format s t .lock { s.goto t
        (.sending ⟨cString topic, payload, s.object.config.qos, s.object.config.retain⟩) with
          mutex := some t }
  | sent {message : MqttEventPublisher.SentMessage} {rc : ℤ} {result : EventPublishResult}
      (hpc : s.callers t = .sending message) (hresult : result = sentResult (paho.sendResult rc)) :
      CallerEffect paho format s t (.send rc)
        ((s.calls (.send s.object.client message) (s.object.count result)).unlock.goto t
          (.returning result))
  | returned {result : EventPublishResult} (hpc : s.callers t = .returning result) :
      CallerEffect paho format s t .ret (s.leave t (.published result))
  | stopIdle {destructor : Bool} (hpc : s.callers t = .stop destructor) (hm : s.mutex = none)
      (hclient : s.object.client = none) :
      CallerEffect paho format s t .lock ({ s with object := s.object.halt }.leave t .done)
  | stopBegin {destructor : Bool} (hpc : s.callers t = .stop destructor) (hm : s.mutex = none)
      (hclient : s.object.client ≠ none) :
      CallerEffect paho format s t .lock { s.goto t (.stopping destructor .disconnect) with
        mutex := some t
        object := s.object.disconnecting }
  | disconnect {destructor : Bool} {rc : ℤ} (hpc : s.callers t = .stopping destructor .disconnect) :
      CallerEffect paho format s t (.disconnect rc)
        ((s.calls (.disconnect s.object.client 500) s.object).goto t
          (.stopping destructor (if rc = paho.success then .wait else .destroy)))
  | waitEnd {destructor complete : Bool} (hpc : s.callers t = .stopping destructor .wait)
      (hcomplete : complete = true → s.object.disconnectComplete = true) :
      CallerEffect paho format s t (.waitEnd complete)
        (s.goto t (.stopping destructor .destroy))
  | destroy {destructor : Bool} (hpc : s.callers t = .stopping destructor .destroy) :
      CallerEffect paho format s t .destroy
        ((s.calls (.destroy s.object.client) s.object.destroyed).unlock.leave t .done)

/-- A `configure` that returns has set `configured_`. -/
theorem configure_ok_iff {p p' : MqttEventPublisher} {gateway : GatewayConfig}
    (h : p.configure gateway = .ok p') : p.started = false ∧ p'.configured = true := by
  unfold MqttEventPublisher.configure at h
  split_ifs at h with hstarted
  split at h
  · cases h
  · obtain rfl := Except.ok.inj h
    exact ⟨by simpa using hstarted, rfl⟩

theorem stepStart_effect {pc : MqttStartPc} (hpc : s.callers t = .starting pc)
    (h : s.stepStart paho t pc e = some s') : CallerEffect paho format s t e s' := by
  cases pc with
  | create =>
    cases e with
    | create rc handle =>
      simp only [stepStart] at h
      split_ifs at h with hrc hnone
      · obtain ⟨handle, rfl⟩ := Option.ne_none_iff_exists'.mp hnone
        obtain rfl := Option.some.inj h
        exact .created hpc hrc
      · obtain rfl := Option.some.inj h
        exact .createFailed hpc hrc
    | _ => cases h
  | setConnectionLostCallback =>
    cases e with
    | setConnectionLostCallback rc =>
      obtain rfl := Option.some.inj h
      exact .setConnectionLostCallback hpc
    | _ => cases h
  | setConnected =>
    cases e with
    | setConnected rc =>
      obtain rfl := Option.some.inj h
      exact .setConnected hpc
    | _ => cases h
  | connect =>
    cases e with
    | connect rc =>
      simp only [stepStart] at h
      split_ifs at h with hrc
      · obtain rfl := Option.some.inj h
        exact .connected hpc hrc
      · obtain rfl := Option.some.inj h
        exact .connectFailed hpc hrc
    | _ => cases h
  | cleanup operation rc =>
    cases e with
    | cleanup =>
      by_cases hclient : s.object.client = none
      · simp only [stepStart, hclient, ne_eq, not_true_eq_false, if_false] at h
        obtain rfl := Option.some.inj h
        exact .cleanupNull hpc hclient
      · simp only [stepStart, ne_eq, hclient, not_false_eq_true, if_true] at h
        obtain rfl := Option.some.inj h
        exact .cleanup hpc hclient
    | _ => cases h

theorem stepStop_effect {destructor : Bool} {pc : MqttStopPc}
    (hpc : s.callers t = .stopping destructor pc)
    (h : s.stepStop paho t destructor pc e = some s') : CallerEffect paho format s t e s' := by
  cases pc with
  | disconnect =>
    cases e with
    | disconnect rc =>
      obtain rfl := Option.some.inj h
      exact .disconnect hpc
    | _ => cases h
  | wait =>
    cases e with
    | waitEnd complete =>
      simp only [stepStop] at h
      split_ifs at h with hwait
      obtain rfl := Option.some.inj h
      exact .waitEnd hpc (by simpa using hwait)
    | _ => cases h
  | destroy =>
    cases e with
    | destroy =>
      obtain rfl := Option.some.inj h
      exact .destroy hpc
    | _ => cases h

/-- The steps that take `mutex_`. -/
theorem lock_effect (h : s.stepCaller paho format t .lock = some s') :
    CallerEffect paho format s t .lock s' := by
  cases hpc : s.callers t with
  | configure gateway =>
    simp only [stepCaller, hpc] at h
    split_ifs at h with hm
    obtain rfl := Option.some.inj h
    unfold configure
    cases hconfigure : s.object.publisher.configure gateway with
    | error what => exact .configureThrow hpc hm hconfigure
    | ok publisher =>
      obtain ⟨hstarted, hset⟩ := configure_ok_iff hconfigure
      simp only [hset]
      exact .configured hpc hm hstarted
  | start =>
    simp only [stepCaller, hpc] at h
    split_ifs at h with hm
    obtain rfl := Option.some.inj h
    unfold start
    split_ifs with hconfigured hstarted
    · exact .startUnconfigured hpc hm (by simpa using hconfigured)
    · exact .startRunning hpc hm (by simpa using hconfigured) hstarted
    · exact .startBegin hpc hm (by simpa using hconfigured) (by simpa using hstarted)
  | publishing topic payload =>
    simp only [stepCaller, hpc] at h
    split_ifs at h with hm
    obtain rfl := Option.some.inj h
    unfold publish
    split_ifs with hclosed
    · exact .unavailable hpc hm (by simpa using hclosed)
    · simp only [Bool.or_eq_true, Bool.not_eq_true', not_or, Bool.not_eq_false,
        Option.isNone_iff_eq_none] at hclosed
      exact .sendBegin hpc hm hclosed.1 hclosed.2
  | stop destructor =>
    simp only [stepCaller, hpc] at h
    split_ifs at h with hm
    obtain rfl := Option.some.inj h
    unfold stop
    split_ifs with hclient
    · exact .stopIdle hpc hm hclient
    · exact .stopBegin hpc hm hclient
  | starting pc =>
    simp only [stepCaller, hpc] at h
    cases pc <;> cases h
  | stopping destructor pc =>
    simp only [stepCaller, hpc] at h
    cases pc <;> cases h
  | _ => simp [stepCaller, hpc] at h

/-- **Inversion of a thread's step.** -/
theorem stepCaller_effect (h : s.stepCaller paho format t e = some s') :
    CallerEffect paho format s t e s' := by
  cases hpc : s.callers t with
  | starting pc =>
    simp only [stepCaller, hpc] at h
    exact stepStart_effect hpc h
  | stopping destructor pc =>
    simp only [stepCaller, hpc] at h
    exact stepStop_effect hpc h
  | idle =>
    cases e with
    | call c =>
      simp only [stepCaller, hpc] at h
      split_ifs at h with hno
      obtain rfl := Option.some.inj h
      simp only [Bool.or_eq_true, Bool.and_eq_true, decide_eq_true_eq, not_or, not_and,
        not_not, Bool.not_eq_true] at hno
      exact .call hpc hno.1 hno.2
    | _ => simp [stepCaller, hpc] at h
  | publish event =>
    cases e with
    | encode =>
      simp only [stepCaller, hpc] at h
      obtain rfl := Option.some.inj h
      unfold encode
      by_cases hsize : (eventToJson format event).length > 2 ^ 31 - 1
      · rw [if_pos hsize]
        exact .encodeRejected hpc hsize
      · rw [if_neg hsize]
        exact .encoded hpc rfl rfl (not_lt.mp hsize)
    | encodeThrow what =>
      simp only [stepCaller, hpc] at h
      obtain rfl := Option.some.inj h
      exact .encodeThrow hpc
    | _ => simp [stepCaller, hpc] at h
  | sending message =>
    cases e with
    | send rc =>
      simp only [stepCaller, hpc] at h
      obtain rfl := Option.some.inj h
      exact .sent hpc rfl
    | _ => simp [stepCaller, hpc] at h
  | returning result =>
    cases e with
    | ret =>
      simp only [stepCaller, hpc] at h
      obtain rfl := Option.some.inj h
      exact .returned hpc
    | _ => simp [stepCaller, hpc] at h
  | _ =>
    cases e with
    | lock => exact lock_effect h
    | _ => simp [stepCaller, hpc] at h

/-- **Inversion of a callback**: it comes while a handle is live, and changes the object alone. -/
theorem callback_effect {c : MqttCallback}
    (h : (mqttSystem paho format).step s (.callback c) = some s') :
    s.live paho ≠ [] ∧ s' = { s with object := s.object.callback c } := by
  simp only [mqttSystem, step] at h
  split_ifs at h with hlive
  exact ⟨hlive, (Option.some.inj h).symm⟩

end MiniGateway.MqttUsers
