/-
  The client of the MQTT publisher (`mqtt_event_publisher.cpp`): any number of threads in
  `configure`, `start`, `publish` and `stop`, the destructor, and the callbacks of Paho's own
  threads.

  A step of a thread ends where it takes `mutex_`, in front of each Paho call and where the call
  returns.  A callback can come between any two steps as long as a handle is live.  What follows
  `MQTTAsync_destroy` is one step with it, as no callback comes after it.

  `log` is what Paho has been asked to do, the return codes included.
-/
import MiniGateway.Lease
import MiniGateway.TransitionSystem
import MiniGateway.Mqtt.Topic
import Mathlib.Data.Finset.Insert

namespace MiniGateway

/-! ### Paho -/

/-- What the publisher knows of Paho: the return codes that it tells apart and the texts of
`MQTTAsync_strerror`. -/
structure Paho where
  success : ℤ
  disconnected : ℤ
  maxMessagesInflight : ℤ
  noMoreMsgids : ℤ
  operationIncomplete : ℤ
  maxBufferedMessages : ℤ
  strerror : ℤ → Option ByteString

/-- `paho_error`. -/
def Paho.error (paho : Paho) (operation : ByteString) (rc : ℤ) : ByteString :=
  operation ++ lit " failed (" ++ decimalInt rc ++
    (match paho.strerror rc with
      | some description => lit ": " ++ description
      | none => []) ++ lit ")"

/-- `is_temporarily_unavailable`. -/
def Paho.isTemporarilyUnavailable (paho : Paho) (rc : ℤ) : Bool :=
  rc == paho.disconnected || rc == paho.maxMessagesInflight || rc == paho.noMoreMsgids ||
    rc == paho.operationIncomplete || rc == paho.maxBufferedMessages

/-- How `publish` reads the return code of `MQTTAsync_send`. -/
def Paho.sendResult (paho : Paho) (rc : ℤ) : MqttEventPublisher.SendResult :=
  if rc = paho.success then .success
  else if paho.isTemporarilyUnavailable rc then .unavailable
  else .failure

/-- The members of `MqttPublisherConfig` that only `start` reads. -/
structure MqttSessionConfig where
  cleanSession : Bool := true
  username : ByteString := []
  password : ByteString := []

/-- The members of `MQTTAsync_connectOptions` that `start` fills in from the configuration. -/
structure ConnectOptions where
  keepAliveInterval : ℤ
  cleanSession : Bool
  username : Option ByteString
  password : Option ByteString
  minRetryInterval : ℕ
  maxRetryInterval : ℕ

/-- The Paho functions that the publisher calls, with the value of `client_` and, where later code
depends on them, the return code and the handle written. -/
inductive PahoCall
  | create (serverUri clientId : ByteString) (rc : ℤ) (handle : Option ℕ)
  | setConnectionLostCallback (client : Option ℕ)
  | setConnected (client : Option ℕ)
  | connect (client : Option ℕ) (options : ConnectOptions)
  | send (client : Option ℕ) (message : MqttEventPublisher.SentMessage)
  | disconnect (client : Option ℕ) (timeout : ℕ)
  | destroy (client : Option ℕ)

/-- What a call means for the handles. -/
def Paho.act (paho : Paho) : PahoCall → Lease.Act (Option ℕ)
  | .create _ _ rc handle => if rc = paho.success then .acquire handle else .attempt
  | .setConnectionLostCallback client | .setConnected client | .connect client _
  | .send client _ | .disconnect client _ => .use client
  | .destroy client => .release client

/-! ### The object -/

/-- `MqttPublisherStats`. -/
structure MqttPublisherStats where
  accepted : ℕ := 0
  acknowledged : ℕ := 0
  unavailable : ℕ := 0
  rejected : ℕ := 0
  connected : Bool := false
  deriving DecidableEq

/-- The counter of a result. -/
def MqttPublisherStats.counter (stats : MqttPublisherStats) : EventPublishResult → ℕ
  | .accepted => stats.accepted
  | .unavailable => stats.unavailable
  | .rejected => stats.rejected

def MqttPublisherStats.count (stats : MqttPublisherStats) :
    EventPublishResult → MqttPublisherStats
  | .accepted => { stats with accepted := stats.accepted + 1 }
  | .unavailable => { stats with unavailable := stats.unavailable + 1 }
  | .rejected => { stats with rejected := stats.rejected + 1 }

/-- The members of an `MqttEventPublisher`; `client` is `client_`, `none` standing for the null
handle, and `stats` are the atomic members. -/
structure MqttObject where
  config : MqttPublisherConfig
  accepted : validateConfig config = .ok ()
  session : MqttSessionConfig
  client : Option ℕ := none
  disconnectComplete : Bool := false
  configured : Bool := false
  started : Bool := false
  stats : MqttPublisherStats := {}

/-- The callbacks that are registered with Paho. -/
inductive MqttCallback
  | connectSuccess
  | connectFailure
  | connectionLost
  | reconnected
  | publishSuccess
  | disconnectSuccess
  | disconnectFailure

namespace MqttObject

/-- What `configure` and `publish` read. -/
def publisher (o : MqttObject) : MqttEventPublisher where
  config := o.config
  accepted := o.accepted
  configured := o.configured
  started := o.started
  client := o.client.isSome

/-- `server_uri`. -/
def serverUri (o : MqttObject) : ByteString :=
  let host := o.config.host
  let host :=
    if host.contains 58 &&
        !(decide (host.length ≥ 2) && host.head? == some 91 && host.getLast? == some 93) then
      lit "[" ++ host ++ lit "]"
    else host
  lit "tcp://" ++ host ++ lit ":" ++ decimalInt o.config.port

/-- The call of `MQTTAsync_create`, which gets C strings. -/
def createCall (o : MqttObject) (rc : ℤ) (handle : Option ℕ) : PahoCall :=
  .create (cString o.serverUri) (cString o.config.clientId) rc handle

/-- The options of `MQTTAsync_connect`. -/
def connectOptions (o : MqttObject) : ConnectOptions where
  keepAliveInterval := o.config.keepalive
  cleanSession := o.session.cleanSession
  username := if o.session.username = [] then none else some (cString o.session.username)
  password := if o.session.password = [] then none else some (cString o.session.password)
  minRetryInterval := o.config.reconnectDelay
  maxRetryInterval := o.config.reconnectDelayMax

/-- `started_ = false; connected_.store(false);`. -/
def halt (o : MqttObject) : MqttObject :=
  { o with started := false, stats := { o.stats with connected := false } }

/-- Without a handle any more. -/
def discard (o : MqttObject) : MqttObject := { o.halt with client := none }

/-- `stop` up to `MQTTAsync_disconnect`. -/
def disconnecting (o : MqttObject) : MqttObject := { o.halt with disconnectComplete := false }

/-- `stop` after `MQTTAsync_destroy`. -/
def destroyed (o : MqttObject) : MqttObject :=
  { o with client := none, stats := { o.stats with connected := false } }

def count (o : MqttObject) (result : EventPublishResult) : MqttObject :=
  { o with stats := o.stats.count result }

@[simp] theorem count_connected (o : MqttObject) (result : EventPublishResult) :
    (o.count result).stats.connected = o.stats.connected := by
  cases result <;> rfl

@[simp] theorem count_counter (o : MqttObject) (r result : EventPublishResult) :
    (o.count r).stats.counter result = o.stats.counter result + if r = result then 1 else 0 := by
  cases r <;> cases result <;> rfl

/-- The bodies of the callbacks. -/
def callback (o : MqttObject) : MqttCallback → MqttObject
  | .connectSuccess | .reconnected => { o with stats := { o.stats with connected := true } }
  | .connectFailure | .connectionLost => { o with stats := { o.stats with connected := false } }
  | .publishSuccess => { o with stats := { o.stats with
      acknowledged := o.stats.acknowledged + 1 } }
  | .disconnectSuccess | .disconnectFailure => { o with disconnectComplete := true }

end MqttObject

/-! ### The threads -/

/-- The functions that can be called. -/
inductive MqttCall
  | configure (gateway : GatewayConfig)
  | start
  | publish (event : Event)
  | stop
  | destructor

/-- How a call ends. -/
inductive MqttOutcome
  | done
  | published (result : EventPublishResult)
  | threw (what : ByteString)

/-- Where a thread is in `start` once it has passed the checks; `cleanup` is behind a Paho call
that has failed. -/
inductive MqttStartPc
  | create
  | setConnectionLostCallback
  | setConnected
  | connect
  | cleanup (operation : ByteString) (rc : ℤ)

/-- Where a thread is in `stop` once it has found a handle. -/
inductive MqttStopPc
  | disconnect
  | wait
  | destroy

/-- Where a thread is. -/
inductive MqttCaller
  | idle
  /-- In front of `mutex_`. -/
  | configure (gateway : GatewayConfig)
  | start
  | starting (pc : MqttStartPc)
  /-- In front of `event_to_json`. -/
  | publish (event : Event)
  /-- In front of `mutex_`. -/
  | publishing (topic payload : ByteString)
  /-- In front of `MQTTAsync_send`. -/
  | sending (message : MqttEventPublisher.SentMessage)
  /-- The result has been counted. -/
  | returning (result : EventPublishResult)
  /-- In front of `mutex_`, in `stop` or in the destructor. -/
  | stop (destructor : Bool)
  | stopping (destructor : Bool) (pc : MqttStopPc)

def MqttCall.entry : MqttCall → MqttCaller
  | configure gateway => .configure gateway
  | start => .start
  | publish event => .publish event
  | stop => .stop false
  | destructor => .stop true

def MqttCall.isDestructor : MqttCall → Bool
  | destructor => true
  | _ => false

/-- The steps of a thread. -/
inductive MqttCallerEvent
  | call (c : MqttCall)
  /-- `mutex_` is taken. -/
  | lock
  /-- `event_to_json` and `topic_for`, which may run out of memory. -/
  | encode
  | encodeThrow (what : ByteString)
  /-- `MQTTAsync_create` returns `rc` and leaves `handle` in `client_`. -/
  | create (rc : ℤ) (handle : Option ℕ)
  | setConnectionLostCallback (rc : ℤ)
  | setConnected (rc : ℤ)
  | connect (rc : ℤ)
  | cleanup
  | send (rc : ℤ)
  | disconnect (rc : ℤ)
  /-- The wait for the disconnect callback ends, by the predicate or by the time limit. -/
  | waitEnd (complete : Bool)
  | destroy
  /-- `publish` returns. -/
  | ret

inductive MqttEvent
  | caller (t : ThreadId) (e : MqttCallerEvent)
  | callback (c : MqttCallback)

/-- The publisher, the threads that are in a call of it (`busy`) and what has happened so far. -/
structure MqttUsers where
  object : MqttObject
  mutex : Option ThreadId := none
  callers : ThreadId → MqttCaller := fun _ => .idle
  busy : Finset ThreadId := ∅
  /-- The destructor has been called. -/
  gone : Bool := false
  log : List PahoCall := []
  returns : List (ThreadId × MqttOutcome) := []

namespace MqttUsers

/-- Thread `t` moves to `c`. -/
def goto (s : MqttUsers) (t : ThreadId) (c : MqttCaller) : MqttUsers :=
  { s with callers := Function.update s.callers t c }

/-- Thread `t` calls a function. -/
def enter (s : MqttUsers) (t : ThreadId) (c : MqttCall) : MqttUsers :=
  { s.goto t c.entry with busy := insert t s.busy, gone := c.isDestructor }

/-- The call of thread `t` ends. -/
def leave (s : MqttUsers) (t : ThreadId) (outcome : MqttOutcome) : MqttUsers :=
  { s.goto t .idle with busy := s.busy.erase t, returns := s.returns ++ [(t, outcome)] }

/-- Paho is called; the object is `object` afterwards. -/
def calls (s : MqttUsers) (call : PahoCall) (object : MqttObject) : MqttUsers :=
  { s with object := object, log := s.log ++ [call] }

/-- `mutex_` is released. -/
def unlock (s : MqttUsers) : MqttUsers := { s with mutex := none }

/-- `configure`. -/
def configure (s : MqttUsers) (t : ThreadId) (gateway : GatewayConfig) : MqttUsers :=
  match s.object.publisher.configure gateway with
  | .error what => s.leave t (.threw what)
  | .ok publisher =>
    { s with object := { s.object with configured := publisher.configured } }.leave t .done

/-- `start` up to `MQTTAsync_create`. -/
def start (s : MqttUsers) (t : ThreadId) : MqttUsers :=
  if !s.object.configured then
    s.leave t (.threw (lit "MQTT event publisher is not configured"))
  else if s.object.started then
    s.leave t (.threw (lit "MQTT event publisher is already running"))
  else
    { s.goto t (.starting .create) with
      mutex := some t
      object := { s.object with client := none } }

/-- The rest of `start`, one Paho call at a time. -/
def stepStart (paho : Paho) (s : MqttUsers) (t : ThreadId) :
    MqttStartPc → MqttCallerEvent → Option MqttUsers
  | .create, .create rc handle =>
    let call := s.object.createCall rc handle
    if rc = paho.success then
      -- a successful call has filled in the handle
      if handle = none then none
      else
        some ((s.calls call { s.object with client := handle }).goto t
          (.starting .setConnectionLostCallback))
    else
      some ((s.calls call s.object.discard).unlock.leave t
        (.threw (paho.error (lit "MQTTAsync_create") rc)))
  | .setConnectionLostCallback, .setConnectionLostCallback rc =>
    some ((s.calls (.setConnectionLostCallback s.object.client) s.object).goto t
      (.starting (if rc = paho.success then .setConnected
        else .cleanup (lit "MQTTAsync_setConnectionLostCallback") rc)))
  | .setConnected, .setConnected rc =>
    some ((s.calls (.setConnected s.object.client) s.object).goto t
      (.starting (if rc = paho.success then .connect
        else .cleanup (lit "MQTTAsync_setConnected") rc)))
  | .connect, .connect rc =>
    let call := .connect s.object.client s.object.connectOptions
    if rc = paho.success then
      some ((s.calls call { s.object with started := true }).unlock.leave t .done)
    else
      some ((s.calls call s.object).goto t (.starting (.cleanup (lit "MQTTAsync_connect") rc)))
  | .cleanup operation rc, .cleanup =>
    let s := if s.object.client ≠ none then s.calls (.destroy s.object.client) s.object.discard
      else { s with object := s.object.discard }
    some (s.unlock.leave t (.threw (paho.error operation rc)))
  | _, _ => none

/-- `publish` up to `mutex_`. -/
def encode (format : FloatFormat) (s : MqttUsers) (t : ThreadId) (event : Event) : MqttUsers :=
  let payload := eventToJson format event
  if payload.length > 2 ^ 31 - 1 then
    { s with object := s.object.count .rejected }.goto t (.returning .rejected)
  else s.goto t (.publishing (s.object.publisher.topicFor event) payload)

/-- `publish` up to `MQTTAsync_send`. -/
def publish (s : MqttUsers) (t : ThreadId) (topic payload : ByteString) : MqttUsers :=
  if !s.object.started || s.object.client.isNone then
    { s with object := s.object.count .unavailable }.goto t (.returning .unavailable)
  else
    { s.goto t (.sending ⟨cString topic, payload, s.object.config.qos, s.object.config.retain⟩) with
      mutex := some t }

/-- What `publish` makes of the return code of `MQTTAsync_send`. -/
def sentResult : MqttEventPublisher.SendResult → EventPublishResult
  | .success => .accepted
  | .unavailable => .unavailable
  | .failure => .rejected

/-- `MQTTAsync_send` and the rest of `publish`. -/
def send (paho : Paho) (s : MqttUsers) (t : ThreadId) (message : MqttEventPublisher.SentMessage)
    (rc : ℤ) : MqttUsers :=
  let result := sentResult (paho.sendResult rc)
  ((s.calls (.send s.object.client message) (s.object.count result)).unlock.goto t
    (.returning result))

/-- `stop` up to `MQTTAsync_disconnect`. -/
def stop (s : MqttUsers) (t : ThreadId) (destructor : Bool) : MqttUsers :=
  if s.object.client = none then { s with object := s.object.halt }.leave t .done
  else
    { s.goto t (.stopping destructor .disconnect) with
      mutex := some t
      object := s.object.disconnecting }

/-- The rest of `stop`. -/
def stepStop (paho : Paho) (s : MqttUsers) (t : ThreadId) (destructor : Bool) :
    MqttStopPc → MqttCallerEvent → Option MqttUsers
  | .disconnect, .disconnect rc =>
    some ((s.calls (.disconnect s.object.client 500) s.object).goto t
      (.stopping destructor (if rc = paho.success then .wait else .destroy)))
  | .wait, .waitEnd complete =>
    if complete && !s.object.disconnectComplete then none
    else some (s.goto t (.stopping destructor .destroy))
  | .destroy, .destroy =>
    some ((s.calls (.destroy s.object.client) s.object.destroyed).unlock.leave t .done)
  | _, _ => none

/-- One step of thread `t`. -/
def stepCaller (paho : Paho) (format : FloatFormat) (s : MqttUsers) (t : ThreadId)
    (e : MqttCallerEvent) : Option MqttUsers :=
  match s.callers t, e with
  -- the destructor is the last call, and comes when no other is in progress
  | .idle, .call c =>
    if s.gone || (c.isDestructor && decide (s.busy ≠ ∅)) then none else some (s.enter t c)
  | .configure gateway, .lock => if s.mutex = none then some (s.configure t gateway) else none
  | .start, .lock => if s.mutex = none then some (s.start t) else none
  | .starting pc, e => s.stepStart paho t pc e
  | .publish event, .encode => some (s.encode format t event)
  | .publish _, .encodeThrow what => some (s.leave t (.threw what))
  | .publishing topic payload, .lock =>
    if s.mutex = none then some (s.publish t topic payload) else none
  | .sending message, .send rc => some (s.send paho t message rc)
  | .returning result, .ret => some (s.leave t (.published result))
  | .stop destructor, .lock => if s.mutex = none then some (s.stop t destructor) else none
  | .stopping destructor pc, e => s.stepStop paho t destructor pc e
  | _, _ => none

/-- The handles that are live for Paho. -/
def live (paho : Paho) (s : MqttUsers) : List (Option ℕ) := Lease.live (s.log.map paho.act)

/-- One step. -/
def step (paho : Paho) (format : FloatFormat) (s : MqttUsers) : MqttEvent → Option MqttUsers
  | .caller t e => s.stepCaller paho format t e
  | .callback c =>
    if s.live paho = [] then none else some { s with object := s.object.callback c }

end MqttUsers

/-- All runs of a publisher, from its constructor on. -/
def mqttSystem (paho : Paho) (format : FloatFormat) : TransitionSystem MqttUsers MqttEvent where
  Init s := ∃ config accepted session, s = { object := { config, accepted, session } }
  step := MqttUsers.step paho format

end MiniGateway
