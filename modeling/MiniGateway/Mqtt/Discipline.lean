/-
  What the handle discipline of the MQTT publisher comes to.

  The calls in progress are those of the threads in `busy`; the destructor is the last of them
  (`InCalls`).  A result of `publish` is counted before the call returns, so each counter is ahead
  of the results returned by the threads in between (`Counted`).  `handle_discipline` puts these
  together with `Handled`, and `publish_refines` connects the threads' steps with the function
  `MqttEventPublisher.publish`.
-/
import MiniGateway.Mqtt.Handle

namespace MiniGateway

/-- The thread is in `stop` or in the destructor. -/
def MqttCaller.inStop : MqttCaller → Bool
  | .stop _ | .stopping _ _ => true
  | _ => false

def MqttCaller.inDestructor : MqttCaller → Bool
  | .stop true | .stopping true _ => true
  | _ => false

/-- The call is a `publish` that has returned `result`. -/
def MqttOutcome.isPublished (result : EventPublishResult) : MqttOutcome → Bool
  | .published r => r == result
  | _ => false

/-- The call is a `publish` that has returned. -/
def MqttOutcome.isPublish : MqttOutcome → Bool
  | .published _ => true
  | _ => false

/-- The thread has counted `result` and not returned it yet. -/
def MqttCaller.counted (result : EventPublishResult) : MqttCaller → ℕ
  | .returning r => if r = result then 1 else 0
  | _ => 0

namespace MqttUsers

variable {paho : Paho} {format : FloatFormat} {s s' : MqttUsers} {t : ThreadId}
  {e : MqttCallerEvent}

/-! ### The calls in progress -/

/-- A thread moves alone. -/
theorem CallerEffect.others (he : CallerEffect paho format s t e s') :
    ∀ u, u ≠ t → s'.callers u = s.callers u := by
  intro u hu
  cases he <;> exact Function.update_of_ne hu _ _

/-- What a step means for the calls in progress. -/
inductive CallChange (s : MqttUsers) (t : ThreadId) (s' : MqttUsers) : Prop
  | begins (c : MqttCall) (alive : s.gone = false) (last : c.isDestructor = true → s.busy = ∅)
      (eq : s' = s.enter t c)
  | goes (inside : s.callers t ≠ .idle) (inside' : s'.callers t ≠ .idle)
      (busy : s'.busy = s.busy) (gone : s'.gone = s.gone) (returns : s'.returns = s.returns)
  | ends (outcome : MqttOutcome) (inside : s.callers t ≠ .idle) (idle : s'.callers t = .idle)
      (busy : s'.busy = s.busy.erase t) (gone : s'.gone = s.gone)
      (returns : s'.returns = s.returns ++ [(t, outcome)])

theorem CallerEffect.change (he : CallerEffect paho format s t e s') : CallChange s t s' := by
  have hleave : ∀ {s₁ : MqttUsers} {outcome : MqttOutcome}, s.callers t ≠ .idle →
      s₁.busy = s.busy → s₁.gone = s.gone → s₁.returns = s.returns →
      CallChange s t (s₁.leave t outcome) := by
    intro s₁ outcome hne hbusy hgone hreturns
    refine .ends outcome hne (Function.update_self ..) ?_ hgone ?_
    · show s₁.busy.erase t = s.busy.erase t
      rw [hbusy]
    · show s₁.returns ++ [(t, outcome)] = s.returns ++ [(t, outcome)]
      rw [hreturns]
  have hgoto : ∀ {s₁ : MqttUsers} {c : MqttCaller}, s.callers t ≠ .idle → c ≠ .idle →
      s₁.callers t = c → s₁.busy = s.busy → s₁.gone = s.gone → s₁.returns = s.returns →
      CallChange s t s₁ := by
    intro s₁ c hne hc hcaller hbusy hgone hreturns
    exact .goes hne (hcaller ▸ hc) hbusy hgone hreturns
  cases he with
  | @call c hpc halive hlast => exact .begins c halive hlast rfl
  | configureThrow hpc _ _ | configured hpc _ _ | startUnconfigured hpc _ _
  | startRunning hpc _ _ _ | createFailed hpc _ | connected hpc _ | cleanup hpc _
  | cleanupNull hpc _ | encodeThrow hpc | returned hpc | stopIdle hpc _ _ | destroy hpc =>
    exact hleave (by simp [hpc]) rfl rfl rfl
  | _ hpc =>
    exact hgoto (by simp [hpc]) (by simp) (Function.update_self ..) rfl rfl rfl

/-- Who is in a call, and what the destructor leaves behind. -/
structure InCalls (s : MqttUsers) : Prop where
  busy : ∀ u, u ∈ s.busy ↔ s.callers u ≠ .idle
  gone : s.gone = true →
    (∃ d, s.busy = {d} ∧ (s.callers d).inDestructor = true) ∨
      (s.busy = ∅ ∧ s.object.client = none)

/-- Where no call is in progress every thread is idle. -/
theorem InCalls.idle (h : InCalls s) (hbusy : s.busy = ∅) (u : ThreadId) :
    s.callers u = .idle := by
  by_contra hinside
  have hmem := (h.busy u).mpr hinside
  rw [hbusy] at hmem
  exact absurd hmem (Finset.notMem_empty u)

/-- Whoever is in a call after the destructor has been called is the destructor. -/
theorem InCalls.destructor (h : InCalls s) (hgone : s.gone = true)
    (hinside : s.callers t ≠ .idle) : s.busy = {t} ∧ (s.callers t).inDestructor = true := by
  rcases h.gone hgone with ⟨d, hbusy, hd⟩ | ⟨hbusy, -⟩
  · have hmem := (h.busy t).mpr hinside
    rw [hbusy, Finset.mem_singleton] at hmem
    subst hmem
    exact ⟨hbusy, hd⟩
  · exact absurd (h.idle hbusy t) hinside

private theorem InCalls.busy_caller (h : InCalls s) (he : CallerEffect paho format s t e s') :
    ∀ u, u ∈ s'.busy ↔ s'.callers u ≠ .idle := by
  intro u
  by_cases hut : u = t
  · subst hut
    cases he.change with
    | begins c _ _ heq =>
      subst heq
      have hcaller : (s.enter u c).callers u = c.entry := Function.update_self ..
      rw [hcaller]
      refine iff_of_true (Finset.mem_insert_self u s.busy) ?_
      cases c <;> simp [MqttCall.entry]
    | goes hinside hinside' hbusy _ _ =>
      rw [hbusy]
      exact iff_of_true ((h.busy u).mpr hinside) hinside'
    | ends _ _ hidle hbusy _ _ =>
      rw [hbusy, hidle]
      simp
  · rw [he.others u hut, ← h.busy u]
    cases he.change with
    | begins c _ _ heq =>
      subst heq
      show u ∈ insert t s.busy ↔ _
      simp [hut]
    | goes _ _ hbusy _ _ => rw [hbusy]
    | ends _ _ _ hbusy _ _ =>
      rw [hbusy]
      simp [hut]

/-- The destructor stays in `stop` until it returns, and then there is no handle. -/
private theorem destructor_caller (hin : (s.callers t).inDestructor = true)
    (he : CallerEffect paho format s t e s') :
    (s'.callers t ≠ .idle → (s'.callers t).inDestructor = true) ∧
      (s'.callers t = .idle → s'.object.client = none) := by
  cases he with
  | stopIdle _ _ hclient =>
    exact ⟨fun hne => absurd (Function.update_self ..) hne, fun _ => hclient⟩
  | destroy _ => exact ⟨fun hne => absurd (Function.update_self ..) hne, fun _ => rfl⟩
  | @stopBegin destructor hpc _ _ | @disconnect destructor _ hpc | @waitEnd destructor _ hpc _ =>
    rw [hpc] at hin
    show (Function.update s.callers t _ t ≠ .idle →
        (Function.update s.callers t _ t).inDestructor = true) ∧
      (Function.update s.callers t _ t = .idle → _)
    rw [Function.update_self]
    cases destructor with
    | true => exact ⟨fun _ => rfl, nofun⟩
    | false => cases hin
  | _ hpc => rw [hpc] at hin; cases hin

private theorem InCalls.gone_caller (h : InCalls s) (he : CallerEffect paho format s t e s') :
    s'.gone = true → (∃ d, s'.busy = {d} ∧ (s'.callers d).inDestructor = true) ∨
      (s'.busy = ∅ ∧ s'.object.client = none) := by
  intro hgone
  cases he.change with
  | begins c _ hlast heq =>
    subst heq
    have hc : c.isDestructor = true := hgone
    left
    refine ⟨t, ?_, ?_⟩
    · show insert t s.busy = {t}
      rw [hlast hc]
      rfl
    · show (Function.update s.callers t c.entry t).inDestructor = true
      rw [Function.update_self]
      cases c <;> first | rfl | cases hc
  | goes hinside hinside' hbusy hsame _ =>
    obtain ⟨hold, hd⟩ := h.destructor (hsame ▸ hgone) hinside
    exact Or.inl ⟨t, hbusy.trans hold, (destructor_caller hd he).1 hinside'⟩
  | ends _ hinside hidle hbusy hsame _ =>
    obtain ⟨hold, hd⟩ := h.destructor (hsame ▸ hgone) hinside
    exact Or.inr ⟨by rw [hbusy, hold]; simp, (destructor_caller hd he).2 hidle⟩

theorem inCalls (h : (mqttSystem paho format).Reachable s) : InCalls s := by
  refine h.invariant ?_ ?_
  · rintro s ⟨config, accepted, session, rfl⟩
    exact ⟨fun u => iff_of_false (Finset.notMem_empty u) (fun hne => hne rfl), nofun⟩
  · intro s e s' _ hi hstep
    cases e with
    | caller t e =>
      have he := stepCaller_effect hstep
      exact ⟨hi.busy_caller he, hi.gone_caller he⟩
    | callback c =>
      obtain ⟨-, rfl⟩ := callback_effect hstep
      have hclient : (s.object.callback c).client = s.object.client := by cases c <;> rfl
      refine ⟨hi.busy, fun hgone => ?_⟩
      rw [hclient]
      exact hi.gone hgone

/-- Between the calls nobody owns `mutex_`. -/
theorem mutex_eq_none (h : Handled paho s) (hi : InCalls s) (hbusy : s.busy = ∅) :
    s.mutex = none := by
  by_contra hne
  obtain ⟨u, hu⟩ := Option.ne_none_iff_exists'.mp hne
  have hholds := (h.mutex u).mpr hu
  rw [hi.idle hbusy u] at hholds
  cases hholds

/-- While a thread is in `start` the destructor has not been called. -/
theorem InCalls.alive (h : InCalls s) (hinside : s.callers t ≠ .idle)
    (hin : (s.callers t).inDestructor = false) : s.gone = false := by
  by_contra hgone
  have hd := (h.destructor (by simpa using hgone) hinside).2
  rw [hin] at hd
  cases hd

/-! ### The counters -/

/-- How many calls of `publish` have returned `result`. -/
def publishedCount (s : MqttUsers) (result : EventPublishResult) : ℕ :=
  s.returns.countP fun r => r.2.isPublished result

/-- How many calls of `publish` have returned. -/
def publishReturns (s : MqttUsers) : ℕ := s.returns.countP fun r => r.2.isPublish

theorem publishReturns_eq (s : MqttUsers) : s.publishReturns =
    s.publishedCount .accepted + s.publishedCount .unavailable + s.publishedCount .rejected := by
  unfold publishReturns publishedCount
  induction s.returns with
  | nil => rfl
  | cons r rest ih =>
    simp only [List.countP_cons, ih]
    have hone : (if r.2.isPublish = true then 1 else 0) =
        (if r.2.isPublished .accepted = true then 1 else 0) +
          (if r.2.isPublished .unavailable = true then 1 else 0) +
            (if r.2.isPublished .rejected = true then 1 else 0) := by
      cases r.2 with
      | published result => cases result <;> rfl
      | done => rfl
      | threw what => rfl
    omega

/-- A result is counted where the thread comes to its return, and returned where it leaves. -/
theorem CallerEffect.counting (he : CallerEffect paho format s t e s')
    (result : EventPublishResult) :
    s'.object.stats.counter result +
        (s.publishedCount result + (s.callers t).counted result) =
      s.object.stats.counter result +
        (s'.publishedCount result + (s'.callers t).counted result) := by
  -- the thread leaves with something else than a result
  have hleave : ∀ {s₁ : MqttUsers} {outcome : MqttOutcome}, outcome.isPublished result = false →
      (s.callers t).counted result = 0 → s₁.returns = s.returns →
      (∀ r, s₁.object.stats.counter r = s.object.stats.counter r) →
      (s₁.leave t outcome).object.stats.counter result +
          (s.publishedCount result + (s.callers t).counted result) =
        s.object.stats.counter result + ((s₁.leave t outcome).publishedCount result +
          ((s₁.leave t outcome).callers t).counted result) := by
    intro s₁ outcome hout hweight hreturns hcounter
    have hcaller : (s₁.leave t outcome).callers t = .idle := Function.update_self ..
    have hpublished : (s₁.leave t outcome).publishedCount result = s.publishedCount result := by
      simp [publishedCount, leave, hreturns, hout]
    have hstats : (s₁.leave t outcome).object.stats.counter result =
        s.object.stats.counter result := hcounter result
    rw [hcaller, hpublished, hstats, hweight]
    rfl
  -- the thread moves on and counts nothing
  have hgoto : ∀ {s₁ : MqttUsers} {c : MqttCaller}, s₁.callers t = c → c.counted result = 0 →
      (s.callers t).counted result = 0 → s₁.returns = s.returns →
      (∀ r, s₁.object.stats.counter r = s.object.stats.counter r) →
      s₁.object.stats.counter result +
          (s.publishedCount result + (s.callers t).counted result) =
        s.object.stats.counter result +
          (s₁.publishedCount result + (s₁.callers t).counted result) := by
    intro s₁ c hcaller hc hweight hreturns hcounter
    unfold publishedCount
    rw [hcaller, hc, hweight, hreturns, hcounter]
  -- the thread has counted a result and is about to return it
  have hcount : ∀ {s₁ : MqttUsers} {r : EventPublishResult}, s₁.callers t = .returning r →
      (s.callers t).counted result = 0 → s₁.returns = s.returns →
      s₁.object = s.object.count r →
      s₁.object.stats.counter result +
          (s.publishedCount result + (s.callers t).counted result) =
        s.object.stats.counter result +
          (s₁.publishedCount result + (s₁.callers t).counted result) := by
    intro s₁ r hcaller hweight hreturns hobject
    unfold publishedCount
    rw [hcaller, hweight, hreturns, hobject, MqttObject.count_counter]
    show _ = _ + (_ + if r = result then 1 else 0)
    omega
  cases he with
  | @call c hpc _ _ =>
    refine hgoto (Function.update_self ..) ?_ (by rw [hpc]; rfl) rfl fun _ => rfl
    cases c <;> rfl
  | configureThrow hpc _ _ | startUnconfigured hpc _ _ | startRunning hpc _ _ _
  | createFailed hpc _ | cleanup hpc _ | cleanupNull hpc _ | encodeThrow hpc
  | configured hpc _ _ | connected hpc _ | stopIdle hpc _ _ | destroy hpc =>
    refine hleave rfl (by rw [hpc]; rfl) rfl ?_
    intro r
    cases r <;> rfl
  | encodeRejected hpc _ =>
    exact hcount (Function.update_self ..) (by rw [hpc]; rfl) rfl rfl
  | unavailable hpc _ _ =>
    exact hcount (Function.update_self ..) (by rw [hpc]; rfl) rfl rfl
  | sent hpc _ =>
    exact hcount (Function.update_self ..) (by rw [hpc]; rfl) rfl rfl
  | @returned r hpc =>
    have hpublished : (s.leave t (.published r)).publishedCount result =
        s.publishedCount result + if r = result then 1 else 0 := by
      simp [publishedCount, leave, MqttOutcome.isPublished]
    have hcaller : (s.leave t (.published r)).callers t = .idle := Function.update_self ..
    rw [hpublished, hcaller, hpc]
    rfl
  | @setConnectionLostCallback rc hpc =>
    refine hgoto (Function.update_self ..) ?_ (by rw [hpc]; rfl) rfl fun _ => rfl
    split_ifs <;> rfl
  | @setConnected rc hpc =>
    refine hgoto (Function.update_self ..) ?_ (by rw [hpc]; rfl) rfl fun _ => rfl
    split_ifs <;> rfl
  | _ hpc =>
    refine hgoto (Function.update_self ..) rfl (by rw [hpc]; rfl) rfl ?_
    intro r
    cases r <;> rfl

/-- Each counter is the number of `publish` calls that have returned its result, and of those
between counting it and returning it. -/
def Counted (s : MqttUsers) : Prop :=
  ∀ result, ∃ n, Tally (MqttCaller.counted result) s.callers n ∧
    s.object.stats.counter result = s.publishedCount result + n

theorem counted (h : (mqttSystem paho format).Reachable s) : Counted s := by
  refine h.invariant ?_ ?_
  · rintro s ⟨config, accepted, session, rfl⟩ result
    exact ⟨0, .zero fun _ => rfl, by cases result <;> rfl⟩
  · intro s e s' _ hi hstep result
    obtain ⟨n, htally, heq⟩ := hi result
    cases e with
    | caller t e =>
      have he := stepCaller_effect hstep
      have hcounting := he.counting result
      have hle := htally.weight_le t
      have hcallers : s'.callers = Function.update s.callers t (s'.callers t) := by
        funext u
        by_cases hut : u = t
        · subst hut
          rw [Function.update_self]
        · rw [Function.update_of_ne hut, he.others u hut]
      refine ⟨n + (s'.callers t).counted result - (s.callers t).counted result, ?_, by omega⟩
      rw [hcallers]
      refine htally.update ?_
      rw [Function.update_self]
      omega
    | callback c =>
      obtain ⟨-, rfl⟩ := callback_effect hstep
      refine ⟨n, htally, ?_⟩
      have hsame : (s.object.callback c).stats.counter result = s.object.stats.counter result := by
        cases c <;> cases result <;> rfl
      exact hsame.trans heq

/-! ### Failed and refused calls -/

/-- The publisher is configured and not started, and nobody is in its functions. -/
structure Ready (s : MqttUsers) : Prop where
  configured : s.object.configured = true
  started : s.object.started = false
  client : s.object.client = none
  connected : s.object.stats.connected = false
  mutex : s.mutex = none

/-- A `start` that throws behind its checks gives everything back. -/
theorem ready_of_throw (h : Handled paho s) (he : CallerEffect paho format s t e s')
    {pc : MqttStartPc} (hpc : s.callers t = .starting pc) {what : ByteString}
    (hthrow : s'.returns = s.returns ++ [(t, .threw what)]) :
    Ready s' ∧ s'.object = s.object.discard ∧ s'.callers t = .idle := by
  have hno : s.returns ≠ s.returns ++ [(t, .threw what)] := by simp
  cases he with
  | createFailed hpc' _ =>
    obtain ⟨-, -, hconfigured, -⟩ := h.inside .creating hpc' rfl
    exact ⟨⟨hconfigured, rfl, rfl, rfl, rfl⟩, rfl, Function.update_self ..⟩
  | cleanup hpc' _ =>
    obtain ⟨-, -, hconfigured, -⟩ := h.inside .starting hpc' rfl
    exact ⟨⟨hconfigured, rfl, rfl, rfl, rfl⟩, rfl, Function.update_self ..⟩
  | cleanupNull hpc' _ =>
    obtain ⟨-, -, hconfigured, -⟩ := h.inside .starting hpc' rfl
    exact ⟨⟨hconfigured, rfl, rfl, rfl, rfl⟩, rfl, Function.update_self ..⟩
  | connected _ _ => cases List.append_cancel_left hthrow
  | created _ _ | setConnectionLostCallback _ | setConnected _ | connectFailed _ _ =>
    exact absurd hthrow hno
  | _ hpc' => rw [hpc] at hpc'; cases hpc'

/-- From there `start` can be called again, and starts the publisher if Paho lets it. -/
theorem Ready.start (h : Ready s) (hidle : s.callers t = .idle) (halive : s.gone = false) :
    ∃ s', (mqttSystem paho format).Reaches s s' ∧ s'.object.started = true ∧
      s'.returns = s.returns ++ [(t, .done)] := by
  let s₁ : MqttUsers := s.enter t .start
  have h₁ : (mqttSystem paho format).step s (.caller t (.call .start)) = some s₁ := by
    simp [mqttSystem, step, stepCaller, hidle, halive, MqttCall.isDestructor, s₁]
  let s₂ : MqttUsers := { s₁.goto t (.starting .create) with
    mutex := some t
    object := { s.object with client := none } }
  have h₂ : (mqttSystem paho format).step s₁ (.caller t .lock) = some s₂ := by
    simp [mqttSystem, step, stepCaller, s₁, s₂, enter, goto, MqttCall.entry, MqttUsers.start,
      h.configured, h.started, h.mutex]
  let create : PahoCall := s₂.object.createCall paho.success (some 0)
  let s₃ : MqttUsers := (s₂.calls create { s₂.object with client := some 0 }).goto t
    (.starting .setConnectionLostCallback)
  have h₃ : (mqttSystem paho format).step s₂ (.caller t (.create paho.success (some 0))) =
      some s₃ := by
    simp [mqttSystem, step, stepCaller, stepStart, s₂, s₃, create, goto]
  let s₄ : MqttUsers := (s₃.calls (.setConnectionLostCallback (some 0)) s₃.object).goto t
    (.starting .setConnected)
  have h₄ : (mqttSystem paho format).step s₃
      (.caller t (.setConnectionLostCallback paho.success)) = some s₄ := by
    simp [mqttSystem, step, stepCaller, stepStart, s₃, s₄, goto, calls]
  let s₅ : MqttUsers := (s₄.calls (.setConnected (some 0)) s₄.object).goto t (.starting .connect)
  have h₅ : (mqttSystem paho format).step s₄ (.caller t (.setConnected paho.success)) =
      some s₅ := by
    simp [mqttSystem, step, stepCaller, stepStart, s₃, s₄, s₅, goto, calls]
  let s₆ : MqttUsers := (s₅.calls (.connect (some 0) s₅.object.connectOptions)
    { s₅.object with started := true }).unlock.leave t .done
  have h₆ : (mqttSystem paho format).step s₅ (.caller t (.connect paho.success)) = some s₆ := by
    simp [mqttSystem, step, stepCaller, stepStart, s₃, s₄, s₅, s₆, goto, calls]
  exact ⟨s₆, .head h₁ (.head h₂ (.head h₃ (.head h₄ (.head h₅ (.single h₆))))), rfl, rfl⟩

/-- `start` and `configure` of a running publisher only throw. -/
theorem refused_of_running (he : CallerEffect paho format s t .lock s')
    (hpc : s.callers t = .start ∨ ∃ gateway, s.callers t = .configure gateway)
    (hstarted : s.object.started = true) :
    ∃ what, s' = s.leave t (.threw what) := by
  cases he with
  | configureThrow _ _ _ | startUnconfigured _ _ _ | startRunning _ _ _ _ => exact ⟨_, rfl⟩
  | configured _ _ hno | startBegin _ _ _ hno => rw [hstarted] at hno; cases hno
  | _ hpc' => rcases hpc with hpc | ⟨gateway, hpc⟩ <;> rw [hpc] at hpc' <;> cases hpc'

/-! ### Between `stop` and the next `start` -/

/-- In this step a `start` passes its checks. -/
def startsUp (s : MqttUsers) : MqttEvent → Bool
  | .caller t .lock =>
    match s.callers t with
    | .start => s.object.configured && !s.object.started
    | _ => false
  | _ => false

/-- The runs in which no `start` passes its checks. -/
def quietSystem (paho : Paho) (format : FloatFormat) : TransitionSystem MqttUsers MqttEvent :=
  (mqttSystem paho format).restrict fun s e => s.startsUp e = false

/-- Nobody is in a section and there is no handle. -/
def Unused (s : MqttUsers) : Prop := s.mutex = none ∧ s.object.client = none

/-- A `stop` that returns has given the handle back. -/
theorem unused_of_stop (he : CallerEffect paho format s t e s')
    (hin : (s.callers t).inStop = true) (hidle : s'.callers t = .idle) : Unused s' := by
  cases he with
  | stopIdle _ hm hclient => exact ⟨hm, hclient⟩
  | destroy _ => exact ⟨rfl, rfl⟩
  | stopBegin _ _ _ | disconnect _ | waitEnd _ _ =>
    have hcaller := (Function.update_self t _ s.callers).symm.trans hidle
    cases hcaller
  | _ hpc => rw [hpc] at hin; cases hin

/-- Without a `start` it stays so. -/
theorem Unused.step {l : MqttEvent} (hu : Unused s) (h : Handled paho s)
    (hquiet : s.startsUp l = false) (hstep : (mqttSystem paho format).step s l = some s') :
    Unused s' := by
  obtain ⟨hm, hclient⟩ := hu
  -- nobody is in a section
  have houtside : ∀ {u : ThreadId} {c : MqttCaller} (place : MqttSection), s.callers u = c →
      c.section? = some place → False := by
    intro u c place hpc hc
    have howner := (h.inside place hpc hc).1
    rw [hm] at howner
    cases howner
  cases l with
  | callback c =>
    obtain ⟨hlive, -⟩ := callback_effect hstep
    rw [h.live, hclient] at hlive
    exact absurd rfl hlive
  | caller t e =>
    cases stepCaller_effect hstep with
    | startBegin hpc _ hconfigured hstarted =>
      simp [startsUp, hpc, hconfigured, hstarted] at hquiet
    | created hpc _ | createFailed hpc _ => exact (houtside .creating hpc rfl).elim
    | setConnectionLostCallback hpc | setConnected hpc | connected hpc _ | connectFailed hpc _
    | cleanup hpc _ | cleanupNull hpc _ => exact (houtside .starting hpc rfl).elim
    | sent hpc _ => exact (houtside .sending hpc rfl).elim
    | disconnect hpc | waitEnd hpc _ | destroy hpc => exact (houtside .stopping hpc rfl).elim
    | sendBegin _ _ _ hne | stopBegin _ _ hne => exact absurd hclient hne
    | _ => exact ⟨hm, hclient⟩

/-- `connected_` is false from the end of a `stop` on until the next `start`. -/
theorem disconnected (h : (mqttSystem paho format).Reachable s) (hu : Unused s)
    (hreach : (quietSystem paho format).Reaches s s') : s'.object.stats.connected = false := by
  have hquiet : (mqttSystem paho format).Reachable s' ∧ Unused s' := by
    refine hreach.invariant (I := fun s => (mqttSystem paho format).Reachable s ∧ Unused s) ?_
      ⟨h, hu⟩
    rintro s₁ l s₂ ⟨hr₁, hu₁⟩ hstep
    obtain ⟨hstarts, hstep⟩ := TransitionSystem.restrict_step.mp hstep
    exact ⟨hr₁.step hstep, hu₁.step (handled hr₁) hstarts hstep⟩
  exact (handled hquiet.1).connected hquiet.2.2

/-! ### The function behind the steps -/

/-- **Undisturbed, the steps of `publish` compute `MqttEventPublisher.publish`**: its result, and
the message handed to Paho, if any. -/
theorem publish_refines {event : Event} (hpc : s.callers t = .publish event) (hm : s.mutex = none)
    (rc : ℤ) :
    ∃ s', (mqttSystem paho format).Reaches s s' ∧
      s'.returns = s.returns ++ [(t, .published
        (s.object.publisher.publish format (fun _ => paho.sendResult rc) event).1)] ∧
      s'.log = s.log ++
        ((s.object.publisher.publish format (fun _ => paho.sendResult rc) event).2.map
          (PahoCall.send s.object.client)).toList := by
  let payload := eventToJson format event
  have hencode : (mqttSystem paho format).step s (.caller t .encode) =
      some (s.encode format t event) := by
    simp [mqttSystem, step, stepCaller, hpc]
  -- every way ends with the return of a counted result
  have hret : ∀ {s₂ : MqttUsers} {result : EventPublishResult}, s₂.callers t = .returning result →
      (mqttSystem paho format).step s₂ (.caller t .ret) =
        some (s₂.leave t (.published result)) := by
    intro s₂ result hpc₂
    simp [mqttSystem, step, stepCaller, hpc₂]
  by_cases hsize : payload.length > 2 ^ 31 - 1
  · have hpublish : s.object.publisher.publish format (fun _ => paho.sendResult rc) event =
        (.rejected, none) := if_pos hsize
    rw [hpublish]
    rw [show s.encode format t event = _ from if_pos hsize] at hencode
    exact ⟨_, .head hencode (.single (hret (Function.update_self ..))), rfl,
      (List.append_nil _).symm⟩
  · rw [show s.encode format t event = _ from if_neg hsize] at hencode
    let topic := s.object.publisher.topicFor event
    let s₁ : MqttUsers := s.goto t (.publishing topic payload)
    have hlock : (mqttSystem paho format).step s₁ (.caller t .lock) =
        some (s₁.publish t topic payload) := by
      simp [mqttSystem, step, stepCaller, goto, hm, s₁]
    have hsame : (!s.object.publisher.started || !s.object.publisher.client) =
        (!s.object.started || s.object.client.isNone) := by
      cases hclient : s.object.client <;> simp [MqttObject.publisher, hclient]
    by_cases hclosed : (!s.object.started || s.object.client.isNone) = true
    · have hpublish : s.object.publisher.publish format (fun _ => paho.sendResult rc) event =
          (.unavailable, none) := (if_neg hsize).trans (if_pos (hsame.trans hclosed))
      rw [hpublish]
      rw [show s₁.publish t topic payload = _ from if_pos hclosed] at hlock
      exact ⟨_, .head hencode (.head hlock (.single (hret (Function.update_self ..)))), rfl,
        (List.append_nil _).symm⟩
    · let message : MqttEventPublisher.SentMessage :=
        ⟨cString topic, payload, s.object.config.qos, s.object.config.retain⟩
      have hpublish : s.object.publisher.publish format (fun _ => paho.sendResult rc) event =
          (sentResult (paho.sendResult rc), some message) := by
        refine (if_neg hsize).trans ((if_neg (hsame ▸ hclosed)).trans ?_)
        cases paho.sendResult rc <;> rfl
      rw [hpublish]
      rw [show s₁.publish t topic payload = _ from if_neg hclosed] at hlock
      have hsend : ∀ {s₂ : MqttUsers}, s₂.callers t = .sending message →
          (mqttSystem paho format).step s₂ (.caller t (.send rc)) =
            some (s₂.send paho t message rc) := by
        intro s₂ hpc₂
        simp [mqttSystem, step, stepCaller, hpc₂]
      exact ⟨_, .head hencode (.head hlock (.head (hsend (Function.update_self ..))
        (.single (hret (Function.update_self ..))))), rfl, rfl⟩

/-! ### The discipline -/

/-- What holds of the handle, the flags and the counters in a state of a run. -/
structure HandleDiscipline (paho : Paho) (format : FloatFormat) (s : MqttUsers) : Prop where
  /-- Between the calls nobody owns `mutex_`. -/
  free : s.busy = ∅ → s.mutex = none
  handle : s.mutex = none → (s.object.started = true ↔ s.object.client ≠ none)
  configured : s.object.started = true → s.object.configured = true
  sends : ∀ before client message after, s.log = before ++ .send client message :: after →
    client ∈ Lease.live (before.map paho.act)
  /-- Each handle is destroyed once, before anything else is created. -/
  leases : ∃ episodes current, Lease.Parsed (s.log.map paho.act) episodes current
  /-- When the destructor has returned no handle is left. -/
  destructor : s.gone = true → s.busy = ∅ →
    ∃ episodes : List (Lease.Episode (Option ℕ)),
      s.log.map paho.act = episodes.flatMap Lease.Episode.acts
  /-- A `start` that throws because a Paho call has failed can be retried. -/
  failed : ∀ t pc e s' what, s.callers t = .starting pc →
    (mqttSystem paho format).step s (.caller t e) = some s' →
    s'.returns = s.returns ++ [(t, .threw what)] →
    Ready s' ∧ s'.object = s.object.discard ∧
      ∃ s'', (mqttSystem paho format).Reaches s' s'' ∧ s''.object.started = true ∧
        s''.returns = s'.returns ++ [(t, .done)]
  /-- A `start` or `configure` that finds the publisher running changes nothing. -/
  refused : ∀ t s', (s.callers t = .start ∨ ∃ gateway, s.callers t = .configure gateway) →
    s.object.started = true → (mqttSystem paho format).step s (.caller t .lock) = some s' →
    s'.object = s.object ∧ s'.mutex = s.mutex ∧ s'.log = s.log ∧
      ∃ what, s'.returns = s.returns ++ [(t, .threw what)]
  /-- From the return of a `stop` to the next `start` there is no connection. -/
  disconnected : ∀ t e s', (s.callers t).inStop = true →
    (mqttSystem paho format).step s (.caller t e) = some s' → s'.callers t = .idle →
    ∀ s'', (quietSystem paho format).Reaches s' s'' → s''.object.stats.connected = false
  /-- While no `publish` is between counting its result and returning it. -/
  counters : (∀ t result, s.callers t ≠ .returning result) →
    s.object.stats.accepted + s.object.stats.unavailable + s.object.stats.rejected =
      s.publishReturns

private theorem Counted.sum (h : Counted s) (hreturning : ∀ t result,
    s.callers t ≠ .returning result) :
    s.object.stats.accepted + s.object.stats.unavailable + s.object.stats.rejected =
      s.publishReturns := by
  have hzero : ∀ result, s.object.stats.counter result = s.publishedCount result := by
    intro result
    obtain ⟨n, htally, heq⟩ := h result
    have hn : n = 0 := htally.eq_zero fun t => by
      unfold MqttCaller.counted
      split
      · rename_i r hpc
        exact absurd hpc (hreturning t r)
      · rfl
    rw [heq, hn, Nat.add_zero]
  rw [publishReturns_eq, ← hzero, ← hzero, ← hzero]
  rfl

/-- **The handle discipline** of the publisher, in every state of every run. -/
theorem handle_discipline (h : (mqttSystem paho format).Reachable s) :
    HandleDiscipline paho format s where
  free := mutex_eq_none (handled h) (inCalls h)
  handle hm := by
    have hmembers := (handled h).members
    rw [section?_of_free hm] at hmembers
    exact hmembers
  configured := (handled h).configured
  sends before client message after hlog := by
    refine (handled h).disciplined (before.map paho.act) (.use client) (after.map paho.act) ?_
    rw [hlog, List.map_append, List.map_cons]
    rfl
  leases := (handled h).disciplined.parsed
  destructor hgone hbusy := by
    have hclient : s.object.client = none := by
      rcases (inCalls h).gone hgone with ⟨d, hd, -⟩ | ⟨-, hclient⟩
      · rw [hbusy] at hd
        exact absurd hd.symm (Finset.singleton_ne_empty d)
      · exact hclient
    refine (handled h).disciplined.complete ?_
    have hlive := (handled h).live
    rw [hclient] at hlive
    exact hlive
  failed t pc e s' what hpc hstep hthrow := by
    have he := stepCaller_effect hstep
    obtain ⟨hready, hobject, hidle⟩ := ready_of_throw (handled h) he hpc hthrow
    have halive : s'.gone = false := by
      have hgone : s.gone = false :=
        (inCalls h).alive (t := t) (by simp [hpc]) (by rw [hpc]; rfl)
      cases he.change with
      | begins _ _ _ heq =>
        subst heq
        exact absurd hthrow (by simp [enter, goto])
      | goes _ _ _ hsame _ => exact hsame.trans hgone
      | ends _ _ _ _ hsame _ => exact hsame.trans hgone
    exact ⟨hready, hobject, hready.start hidle halive⟩
  refused t s' hpc hstarted hstep := by
    obtain ⟨what, rfl⟩ := refused_of_running (stepCaller_effect hstep) hpc hstarted
    exact ⟨rfl, rfl, rfl, what, rfl⟩
  disconnected t e s' hin hstep hidle s'' hreach :=
    MqttUsers.disconnected (h.step hstep) (unused_of_stop (stepCaller_effect hstep) hin hidle)
      hreach
  counters := (counted h).sum

/-- The return codes of Paho, without its texts. -/
def pahoCodes : Paho where
  success := 0
  disconnected := -3
  maxMessagesInflight := -4
  noMoreMsgids := -10
  operationIncomplete := -11
  maxBufferedMessages := -12
  strerror _ := none

/-- The default publisher, constructed. -/
def defaultUsers : MqttUsers where
  object :=
    { config := {}, accepted := MqttEventPublisher.defaultPublisher.accepted, session := {} }

/-- A `start` that cannot connect, one that can, two events of which the second finds the broker
gone, `stop` and the destructor: one failed lease, one with a send, no handle left. -/
theorem handle_discipline_restart : ∃ s, (mqttSystem pahoCodes wholeFormat).Reachable s ∧
    s.gone = true ∧ s.busy = ∅ ∧ s.object.stats.accepted = 1 ∧ s.object.stats.unavailable = 1 ∧
    s.publishReturns = 2 ∧ HandleDiscipline pahoCodes wholeFormat s := by
  let event : Event :=
    { eventId := lit "1", deviceId := lit "d", source := [], readings := [], modelVersion := [] }
  obtain ⟨s, hreach, htest⟩ := (mqttSystem pahoCodes wholeFormat).exists_reachable_of_run
    (s := defaultUsers)
    (w := [.caller 0 (.call (.configure MqttEventPublisher.oneDeviceConfig)), .caller 0 .lock,
      .caller 0 (.call .start), .caller 0 .lock, .caller 0 (.create 0 (some 1)),
      .caller 0 (.setConnectionLostCallback 0), .caller 0 (.setConnected 0),
      .caller 0 (.connect (-1)), .caller 0 .cleanup,
      .caller 0 (.call .start), .caller 0 .lock, .caller 0 (.create 0 (some 1)),
      .caller 0 (.setConnectionLostCallback 0), .caller 0 (.setConnected 0),
      .caller 0 (.connect 0), .callback .connectSuccess,
      .caller 1 (.call (.publish event)), .caller 1 .encode, .caller 1 .lock,
      .caller 1 (.send 0), .callback .publishSuccess, .caller 1 .ret, .callback .connectionLost,
      .caller 1 (.call (.publish event)), .caller 1 .encode, .caller 1 .lock,
      .caller 1 (.send (-3)), .caller 1 .ret,
      .caller 0 (.call .stop), .caller 0 .lock, .caller 0 (.disconnect 0),
      .callback .disconnectSuccess, .caller 0 (.waitEnd true), .caller 0 .destroy,
      .caller 0 (.call .destructor), .caller 0 .lock])
    (p := fun s => s.gone = true ∧ s.busy = ∅ ∧ s.object.stats.accepted = 1 ∧
      s.object.stats.unavailable = 1 ∧ s.object.stats.rejected = 0)
    ⟨{}, _, {}, rfl⟩ (by decide +kernel)
  obtain ⟨hgone, hbusy, haccepted, hunavailable, hrejected⟩ := of_decide_eq_true htest
  have hdiscipline := handle_discipline hreach
  have hreturning : ∀ t result, s.callers t ≠ .returning result := by
    intro t result hpc
    rw [(inCalls hreach).idle hbusy t] at hpc
    cases hpc
  refine ⟨s, hreach, hgone, hbusy, haccepted, hunavailable, ?_, hdiscipline⟩
  rw [← hdiscipline.counters hreturning, haccepted, hunavailable, hrejected]

end MqttUsers

end MiniGateway
