/-
  The handle of the MQTT publisher.

  `mutex_` keeps all threads but one out of the functions that use `client_`, so what the members
  say can be read off the place where its owner is (`InSection`); between the calls `started_` holds
  exactly when there is a handle.  `Handled` adds that the handles live for Paho are the one in
  `client_`, and that what Paho was asked to do is disciplined in the sense of `Lease`.

  `handle_discipline` collects what follows for every run.
-/
import MiniGateway.Mqtt.Cases
import MiniGateway.Tally

namespace MiniGateway

/-- The parts of the code in which a thread owns `mutex_` and Paho is called. -/
inductive MqttSection
  /-- In front of `MQTTAsync_create`. -/
  | creating
  /-- In `start`, with a handle. -/
  | starting
  | sending
  | stopping

def MqttCaller.section? : MqttCaller → Option MqttSection
  | .starting .create => some .creating
  | .starting _ => some .starting
  | .sending _ => some .sending
  | .stopping _ _ => some .stopping
  | _ => none

def MqttCaller.holdsMutex (c : MqttCaller) : Bool := c.section?.isSome

namespace MqttUsers

variable {paho : Paho} {format : FloatFormat} {s s' : MqttUsers} {t : ThreadId}
  {e : MqttCallerEvent}

/-- Where the owner of `mutex_` is. -/
def section? (s : MqttUsers) : Option MqttSection := s.mutex.bind fun t => (s.callers t).section?

/-- The handles that are live while `client_` is `client`. -/
def handles : Option ℕ → List (Option ℕ)
  | none => []
  | some handle => [some handle]

theorem mem_handles {client : Option ℕ} (h : client ≠ none) : client ∈ handles client := by
  cases client with
  | none => exact absurd rfl h
  | some handle => exact List.mem_singleton_self _

theorem handles_release {client : Option ℕ} (h : client ≠ none) :
    Lease.liveStep (handles client) (.release client) = [] := by
  cases client with
  | none => exact absurd rfl h
  | some handle => simp [Lease.liveStep, handles]

/-- What the members say while the owner of `mutex_` is there; `none` is between the calls. -/
def InSection (o : MqttObject) : Option MqttSection → Prop
  | none => o.started = true ↔ o.client ≠ none
  | some .creating => o.configured = true ∧ o.started = false ∧ o.client = none
  | some .starting => o.configured = true ∧ o.started = false ∧ o.client ≠ none
  | some .sending => o.started = true ∧ o.client ≠ none
  | some .stopping => o.started = false ∧ o.client ≠ none

/-- The handle, `mutex_` and the log agree. -/
structure Handled (paho : Paho) (s : MqttUsers) : Prop where
  mutex : Token.Guarded MqttCaller.holdsMutex s.mutex s.callers
  members : InSection s.object s.section?
  configured : s.object.started = true → s.object.configured = true
  connected : s.object.client = none → s.object.stats.connected = false
  live : s.live paho = handles s.object.client
  disciplined : Lease.Disciplined (s.log.map paho.act)

theorem Handled.create (object : MqttObject) (hstarted : object.started = false)
    (hclient : object.client = none) (hconnected : object.stats.connected = false) :
    Handled paho { object } where
  mutex := Token.guarded_none fun _ => rfl
  members := by
    show object.started = true ↔ object.client ≠ none
    simp [hstarted, hclient]
  configured h := by
    rw [hstarted] at h
    cases h
  connected _ := hconnected
  live := by
    rw [hclient]
    rfl
  disciplined := Lease.Disciplined.nil

/-! ### The owner of the mutex -/

/-- A thread that stays outside the sections, or in its section, changes nothing about them. -/
theorem section?_move {c : MqttCaller} (hc : c.section? = (s.callers t).section?) :
    (s.goto t c).section? = s.section? := by
  show s.mutex.bind (fun u => (Function.update s.callers t c u).section?) =
    s.mutex.bind fun u => (s.callers u).section?
  congr 1
  funext u
  by_cases hut : u = t
  · subst hut
    rw [Function.update_self, hc]
  · rw [Function.update_of_ne hut]

theorem section?_of_free (h : s.mutex = none) : s.section? = none := by
  unfold section?
  rw [h]
  rfl

/-- The thread in a section owns `mutex_`, and the members are as the section says. -/
theorem Handled.inside (h : Handled paho s) (place : MqttSection) {c : MqttCaller}
    (hpc : s.callers t = c) (hc : c.section? = some place) :
    s.mutex = some t ∧ s.section? = some place ∧ InSection s.object (some place) := by
  have howner : s.mutex = some t := h.mutex.owner_eq (by
    unfold MqttCaller.holdsMutex
    rw [hpc, hc]
    rfl)
  have hsection : s.section? = some place := by
    unfold section?
    rw [howner]
    show (s.callers t).section? = some place
    rw [hpc, hc]
  exact ⟨howner, hsection, hsection ▸ h.members⟩

/-! ### One step -/

/-- What `Handled` looks at. -/
theorem Handled.congr (h : Handled paho s) (hmutex : s'.mutex = s.mutex)
    (hcallers : s'.callers = s.callers) (hobject : s'.object = s.object) (hlog : s'.log = s.log) :
    Handled paho s' := by
  have hsection : s'.section? = s.section? := by
    unfold section?
    rw [hmutex, hcallers]
  have hlive : s'.live paho = s.live paho := by
    unfold MqttUsers.live
    rw [hlog]
  exact {
    mutex := by
      rw [hmutex, hcallers]
      exact h.mutex
    members := by
      rw [hobject, hsection]
      exact h.members
    configured := by
      rw [hobject]
      exact h.configured
    connected := by
      rw [hobject]
      exact h.connected
    live := by
      rw [hobject, hlive]
      exact h.live
    disciplined := by
      rw [hlog]
      exact h.disciplined }

/-- The members change without touching the handle, `mutex_` or the log. -/
theorem Handled.members_eq (h : Handled paho s) {o : MqttObject}
    (hmembers : InSection o s.section?) (hconfigured : o.started = true → o.configured = true)
    (hconnected : o.client = none → o.stats.connected = false)
    (hclient : o.client = s.object.client) : Handled paho { s with object := o } where
  mutex := h.mutex
  members := hmembers
  configured := hconfigured
  connected := hconnected
  live := by
    show s.live paho = handles o.client
    rw [h.live, hclient]
  disciplined := h.disciplined

/-- A thread moves within its section, or outside. -/
theorem Handled.move (h : Handled paho s) {c : MqttCaller}
    (hc : c.section? = (s.callers t).section?) : Handled paho (s.goto t c) where
  mutex := h.mutex.move (by
    unfold MqttCaller.holdsMutex
    rw [hc])
  members := by
    rw [section?_move hc]
    exact h.members
  configured := h.configured
  connected := h.connected
  live := h.live
  disciplined := h.disciplined

/-- A thread takes the free `mutex_` and enters a section. -/
theorem Handled.acquire (h : Handled paho s) (place : MqttSection) (hm : s.mutex = none)
    {c : MqttCaller} (hc : c.section? = some place) {o : MqttObject}
    (hmembers : InSection o (some place)) (hconfigured : o.started = true → o.configured = true)
    (hconnected : o.client = none → o.stats.connected = false)
    (hclient : o.client = s.object.client) :
    Handled paho { s.goto t c with mutex := some t, object := o } where
  mutex := (hm ▸ h.mutex).acquire (by
    unfold MqttCaller.holdsMutex
    rw [hc]
    rfl)
  members := by
    have hsection : ({ s.goto t c with mutex := some t, object := o } : MqttUsers).section? =
        some place := by
      show (Function.update s.callers t c t).section? = some place
      rw [Function.update_self, hc]
    rw [hsection]
    exact hmembers
  configured := hconfigured
  connected := hconnected
  live := by
    show s.live paho = handles o.client
    rw [h.live, hclient]
  disciplined := h.disciplined

/-- One more call that is in order. -/
theorem Handled.logged (h : Handled paho s) (call : PahoCall)
    (hallowed : Lease.Allowed (handles s.object.client) (paho.act call)) :
    Lease.Disciplined ((s.log ++ [call]).map paho.act) ∧
      Lease.live ((s.log ++ [call]).map paho.act) =
        Lease.liveStep (handles s.object.client) (paho.act call) := by
  have hlive : Lease.live (s.log.map paho.act) = handles s.object.client := h.live
  rw [List.map_append, List.map_singleton, Lease.live_append_singleton, hlive]
  refine ⟨Lease.disciplined_append_singleton.mpr ⟨h.disciplined, ?_⟩, rfl⟩
  rw [hlive]
  exact hallowed

/-- Paho is called on the handle; the thread stays in its section. -/
theorem Handled.use (h : Handled paho s) {c : MqttCaller} {call : PahoCall}
    (hc : c.section? = (s.callers t).section?) (hcall : paho.act call = .use s.object.client)
    (hclient : s.object.client ≠ none) : Handled paho ((s.calls call s.object).goto t c) := by
  obtain ⟨hdisciplined, hlive⟩ := h.logged call (by
    rw [hcall]
    exact mem_handles hclient)
  have hcalls : Handled paho (s.calls call s.object) := {
    mutex := h.mutex
    members := h.members
    configured := h.configured
    connected := h.connected
    live := by
      rw [hcall] at hlive
      exact hlive
    disciplined := hdisciplined }
  exact hcalls.move hc

/-- Paho is called, `mutex_` is released and the thread leaves its section. -/
theorem Handled.release (h : Handled paho s) (call : PahoCall) (o : MqttObject) {c : MqttCaller}
    (hinside : (s.callers t).holdsMutex = true) (hc : c.section? = none)
    (hallowed : Lease.Allowed (handles s.object.client) (paho.act call))
    (hlive : Lease.liveStep (handles s.object.client) (paho.act call) = handles o.client)
    (hmembers : o.started = true ↔ o.client ≠ none)
    (hconfigured : o.started = true → o.configured = true)
    (hconnected : o.client = none → o.stats.connected = false) :
    Handled paho ((s.calls call o).unlock.goto t c) where
  mutex := h.mutex.release hinside (by
    unfold MqttCaller.holdsMutex
    rw [hc]
    rfl)
  members := by
    rw [section?_of_free rfl]
    exact hmembers
  configured := hconfigured
  connected := hconnected
  live := (h.logged call hallowed).2.trans hlive
  disciplined := (h.logged call hallowed).1

/-- The same at the end of a call. -/
theorem Handled.finish (h : Handled paho s) (call : PahoCall) (o : MqttObject)
    {outcome : MqttOutcome} (hinside : (s.callers t).holdsMutex = true)
    (hallowed : Lease.Allowed (handles s.object.client) (paho.act call))
    (hlive : Lease.liveStep (handles s.object.client) (paho.act call) = handles o.client)
    (hmembers : o.started = true ↔ o.client ≠ none)
    (hconfigured : o.started = true → o.configured = true)
    (hconnected : o.client = none → o.stats.connected = false) :
    Handled paho ((s.calls call o).unlock.leave t outcome) :=
  (h.release call o (c := .idle) hinside rfl hallowed hlive hmembers hconfigured hconnected).congr
    rfl rfl rfl rfl

private theorem Handled.leave (h : Handled paho s) {outcome : MqttOutcome}
    (hc : (s.callers t).section? = none) : Handled paho (s.leave t outcome) :=
  (h.move (c := .idle) hc.symm).congr rfl rfl rfl rfl

/-- `Handled` is kept by the steps of the threads. -/
theorem Handled.caller (h : Handled paho s) (he : CallerEffect paho format s t e s') :
    Handled paho s' := by
  -- between the calls, where a thread outside the sections sees `mutex_` free
  have hfree : s.mutex = none → (s.object.started = true ↔ s.object.client ≠ none) := by
    intro hm
    have hmembers := h.members
    rw [section?_of_free hm] at hmembers
    exact hmembers
  have hcount : ∀ {result : EventPublishResult} {c : MqttCaller},
      c.section? = (s.callers t).section? →
      Handled paho ({ s with object := s.object.count result }.goto t c) := by
    intro result c hc
    have hcounted : Handled paho { s with object := s.object.count result } :=
      h.members_eq h.members h.configured
        (fun hclient => (s.object.count_connected result).trans (h.connected hclient)) rfl
    exact hcounted.move hc
  -- `started_` is false behind `halt`
  have hstopped : s.object.halt.started = true → s.object.configured = true := by
    simp [MqttObject.halt]
  have hdiscard : s.object.discard.started = true ↔ s.object.discard.client ≠ none := by
    simp [MqttObject.discard, MqttObject.halt]
  cases he with
  | @call c hpc _ _ =>
    have hc : c.entry.section? = (s.callers t).section? := by
      rw [hpc]
      cases c <;> rfl
    exact (h.move hc).congr rfl rfl rfl rfl
  | configureThrow hpc _ _ => exact h.leave (by rw [hpc]; rfl)
  | configured hpc _ _ =>
    have hset : Handled paho { s with object := { s.object with configured := true } } := by
      refine h.members_eq ?_ (fun _ => rfl) h.connected rfl
      have hmembers := h.members
      revert hmembers
      cases s.section? with
      | none => exact id
      | some place =>
        intro hmembers
        cases place with
        | creating => exact ⟨rfl, hmembers.2⟩
        | starting => exact ⟨rfl, hmembers.2⟩
        | sending => exact hmembers
        | stopping => exact hmembers
    exact hset.leave (t := t) (by rw [hpc]; rfl)
  | startUnconfigured hpc _ _ => exact h.leave (by rw [hpc]; rfl)
  | startRunning hpc _ _ _ => exact h.leave (by rw [hpc]; rfl)
  | startBegin hpc hm hconfigured hstarted =>
    have hclient : s.object.client = none := by
      by_contra hne
      rw [(hfree hm).mpr hne] at hstarted
      cases hstarted
    exact h.acquire .creating hm rfl ⟨hconfigured, hstarted, rfl⟩ h.configured
      (fun _ => h.connected hclient) hclient.symm
  | @created rc handle hpc hrc =>
    obtain ⟨howner, -, hconfigured, hstarted, hclient⟩ :=
      h.inside .creating hpc rfl
    have hact : paho.act (s.object.createCall rc (some handle)) = .acquire (some handle) := by
      simp [Paho.act, MqttObject.createCall, hrc]
    obtain ⟨hdisciplined, hlive⟩ := h.logged
      (s.object.createCall rc (some handle)) (by
        rw [hact, hclient]
        rfl)
    refine ⟨h.mutex.move (by rw [hpc]; rfl), ?_, h.configured,
      fun hnone => absurd hnone (Option.some_ne_none handle), ?_, hdisciplined⟩
    · have hsection : ((s.calls (s.object.createCall rc (some handle))
          { s.object with client := some handle }).goto t
          (.starting .setConnectionLostCallback)).section? = some .starting := by
        show s.mutex.bind (fun u => (Function.update s.callers t _ u).section?) = _
        rw [howner]
        show (Function.update s.callers t _ t).section? = _
        rw [Function.update_self]
        rfl
      rw [hsection]
      exact ⟨hconfigured, hstarted, Option.some_ne_none handle⟩
    · rw [hact, hclient] at hlive
      exact hlive
  | @createFailed rc handle hpc hrc =>
    obtain ⟨-, -, -, -, hclient⟩ := h.inside .creating hpc rfl
    have hact : paho.act (s.object.createCall rc handle) = .attempt := by
      simp [Paho.act, MqttObject.createCall, hrc]
    exact h.finish _ s.object.discard (by rw [hpc]; rfl) (by rw [hact, hclient]; rfl)
      (by rw [hact, hclient]; rfl) hdiscard hstopped fun _ => rfl
  | @setConnectionLostCallback rc hpc =>
    obtain ⟨-, -, -, -, hclient⟩ := h.inside .starting hpc rfl
    refine h.use ?_ rfl hclient
    rw [hpc]
    split_ifs <;> rfl
  | @setConnected rc hpc =>
    obtain ⟨-, -, -, -, hclient⟩ := h.inside .starting hpc rfl
    refine h.use ?_ rfl hclient
    rw [hpc]
    split_ifs <;> rfl
  | connected hpc _ =>
    obtain ⟨-, -, hconfigured, -, hclient⟩ := h.inside .starting hpc rfl
    exact h.finish (.connect s.object.client s.object.connectOptions)
      { s.object with started := true } (by rw [hpc]; rfl) (mem_handles hclient) rfl
      (iff_of_true rfl hclient) (fun _ => hconfigured) fun hnone => absurd hnone hclient
  | connectFailed hpc _ =>
    obtain ⟨-, -, -, -, hclient⟩ := h.inside .starting hpc rfl
    exact h.use (by rw [hpc]; rfl) rfl hclient
  | cleanup hpc hclient =>
    exact h.finish (.destroy s.object.client) s.object.discard (by rw [hpc]; rfl)
      (mem_handles hclient) (handles_release hclient) hdiscard hstopped fun _ => rfl
  | cleanupNull hpc hnone =>
    obtain ⟨-, -, -, -, hclient⟩ := h.inside .starting hpc rfl
    exact absurd hnone hclient
  | encodeRejected hpc _ => exact hcount (by rw [hpc]; rfl)
  | encoded hpc _ _ _ => exact h.move (by rw [hpc]; rfl)
  | encodeThrow hpc => exact h.leave (by rw [hpc]; rfl)
  | unavailable hpc _ _ => exact hcount (by rw [hpc]; rfl)
  | sendBegin hpc hm hstarted hclient =>
    exact h.acquire .sending hm rfl ⟨hstarted, hclient⟩ h.configured h.connected rfl
  | @sent message rc result hpc _ =>
    obtain ⟨-, -, hstarted, hclient⟩ := h.inside .sending hpc rfl
    exact h.release (.send s.object.client message) _ (by rw [hpc]; rfl) rfl
      (mem_handles hclient) rfl (iff_of_true hstarted hclient) h.configured
      fun hnone => absurd hnone hclient
  | returned hpc => exact h.leave (by rw [hpc]; rfl)
  | stopIdle hpc hm hclient =>
    have hhalted : Handled paho { s with object := s.object.halt } := by
      refine h.members_eq ?_ hstopped (fun _ => rfl) rfl
      rw [section?_of_free hm]
      show false = true ↔ s.object.client ≠ none
      simp [hclient]
    exact hhalted.leave (t := t) (by rw [hpc]; rfl)
  | stopBegin hpc hm hclient =>
    exact h.acquire .stopping hm rfl ⟨rfl, hclient⟩ hstopped (fun hnone => absurd hnone hclient) rfl
  | disconnect hpc =>
    obtain ⟨-, -, -, hclient⟩ := h.inside .stopping hpc rfl
    exact h.use (by rw [hpc]; rfl) rfl hclient
  | waitEnd hpc _ => exact h.move (by rw [hpc]; rfl)
  | destroy hpc =>
    obtain ⟨-, -, hstarted, hclient⟩ := h.inside .stopping hpc rfl
    exact h.finish (.destroy s.object.client) s.object.destroyed (by rw [hpc]; rfl)
      (mem_handles hclient) (handles_release hclient) (by simp [MqttObject.destroyed, hstarted])
      h.configured fun _ => rfl

/-- A callback comes only while there is a handle. -/
theorem Handled.callback (h : Handled paho s) (hlive : s.live paho ≠ []) (c : MqttCallback) :
    Handled paho { s with object := s.object.callback c } := by
  have hclient : s.object.client ≠ none := by
    intro hnone
    rw [h.live, hnone] at hlive
    exact hlive rfl
  have hsame : (s.object.callback c).client = s.object.client ∧
      (s.object.callback c).started = s.object.started ∧
      (s.object.callback c).configured = s.object.configured := by
    cases c <;> exact ⟨rfl, rfl, rfl⟩
  obtain ⟨hclient', hstarted', hconfigured'⟩ := hsame
  refine h.members_eq ?_ ?_ ?_ hclient'
  · have hmembers := h.members
    revert hmembers
    cases s.section? with
    | none => simp only [InSection, hclient', hstarted', imp_self]
    | some place =>
      cases place <;> simp only [InSection, hclient', hstarted', hconfigured', imp_self]
  · rw [hstarted', hconfigured']
    exact h.configured
  · intro hnone
    exact absurd (hclient' ▸ hnone) hclient

/-- `Handled` holds of every reachable state. -/
theorem handled (h : (mqttSystem paho format).Reachable s) : Handled paho s := by
  refine h.invariant ?_ ?_
  · rintro s ⟨config, accepted, session, rfl⟩
    exact .create _ rfl rfl rfl
  · intro s e s' _ hi hstep
    cases e with
    | caller t e => exact hi.caller (stepCaller_effect hstep)
    | callback c =>
      obtain ⟨hlive, rfl⟩ := callback_effect hstep
      exact hi.callback hlive c

end MqttUsers

end MiniGateway
