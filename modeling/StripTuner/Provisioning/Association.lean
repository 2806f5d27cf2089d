import StripTuner.Provisioning.Core

/-!
# Connection events

Whether the station is associated, as the orchestrator knows it from the events that pass through
its queue. An event that finds the queue full is dropped.
-/

namespace StripTuner.Provisioning

open DeviceCalls DeviceCalls.Sketch

/-! ## What the queue still says -/

/-- Whether the station is associated, once the message is handled. -/
def afterMessage (isAssociated : Bool) (message : Message) : Bool :=
  message.connectionEvent.getD isAssociated

/-- The last event is what the queued messages make of what the orchestrator knows. -/
def Reported (s : System) (isAssociated : Bool) : Prop :=
  s.lastEvent.getD false = s.queue.foldl afterMessage isAssociated

/-- A connection event finds room in the queue. -/
def ConnectionFits (s : System) (event : Event) : Prop :=
  ∀ message, event = .post message → message.connectionEvent ≠ none → s.queue.length < queueLength

/-- Calls neither post nor receive. -/
def associationDevice : Device Call Call.Answer Bool
  | _, isAssociated, _, after => after = isAssociated

theorem Reported.post {s : System} {isAssociated : Bool} (h : Reported s isAssociated)
    {message : Message}
    (hfits : message.connectionEvent ≠ none → s.queue.length < queueLength) :
    Reported (s.post message) isAssociated := by
  unfold Reported at h ⊢
  unfold System.post
  cases hevent : message.connectionEvent with
  | none =>
      dsimp only
      split
      · simp [h, afterMessage, hevent]
      · simp [h]
  | some isConnected =>
      have hroom := hfits (by simp [hevent])
      simp [hroom, afterMessage, hevent]

theorem Reported.receive {s : System} {isAssociated : Bool} (h : Reported s isAssociated)
    {state : OrchestratorState} {message : Message} {rest : List Message}
    (hqueue : s.queue = message :: rest) :
    Reported (s.receive state message rest) (afterMessage isAssociated message) := by
  unfold Reported at h ⊢
  rw [hqueue] at h
  exact h

theorem Reported.other {s t : System} {isAssociated : Bool} (h : Reported s isAssociated)
    {event : Event} (hfits : ConnectionFits s event) (hstep : OtherStep s event t) :
    Reported t isAssociated := by
  cases hstep with
  | post => exact h.post (hfits _ rfl)
  | postSubmission => exact h.post (by simp [Message.connectionEvent])
  | tick | submit | checkIdle | writeConnecting | respond | dnsOpens | dnsOpenFails | dnsStops =>
      exact h

theorem simulates_association :
    Simulates systemDevice (OtherStepIn ConnectionFits)
      Reported associationDevice fun _ _ => True := by
  refine ⟨?_, fun h ⟨_, hfits, hstep⟩ => h.other hfits hstep⟩
  rintro c s r t isAssociated h - ⟨u, hshared, -, ht⟩
  refine ⟨isAssociated, rfl, ?_⟩
  have hkept : u.queue = s.queue ∧ u.lastEvent = s.lastEvent := by
    cases c <;> simp only [sharedDevice] at hshared
    all_goals grind [System.record, System.enterState, System.writeStatus, System.decideTrial]
  unfold Reported at h ⊢
  rw [ht]
  simpa only [hkept.1, hkept.2] using h

/-! ## The machine -/

section Machine

variable {c : Core} {associated : Bool}

/-- The machine knows whether the station is associated, and is not connected when it is not. -/
structure Associated (c : Core) (associated : Bool) : Prop where
  isAssociated : c.isAssociated = associated
  state : associated = false → c.state ≠ .connected

abbrev Associates (q : Core.Machine Core) (associated : Bool) : Prop :=
  q.wp associationDevice (fun _ _ => True) Associated associated

/-- What comes before is of no consequence. -/
theorem wp_association {α : Type} (q : Core.Machine α) {Q : α → Bool → Prop}
    (h : ∀ a, Q a associated) : q.wp associationDevice (fun _ _ => True) Q associated := by
  induction q with
  | ret a => exact h a
  | call c k ih =>
      cases c with
      | none => exact ⟨trivial, fun r _ heq => heq ▸ ih r⟩
      | some c => exact ⟨trivial, fun r _ heq => heq ▸ ih r⟩

theorem associates_bind {α : Type} {q : Core.Machine α} {f : α → Core.Machine Core}
    (h : ∀ a, Associates (f a) associated) : Associates (q >>= f) associated :=
  (wp_bind q f).mpr (wp_association q h)

theorem associates_setState (h : c.isAssociated = associated) {state : OrchestratorState}
    {timeoutMs : UInt32} (hstate : associated = false → state ≠ .connected) :
    Associates (c.setState state timeoutMs) associated :=
  associates_bind fun _ => associates_bind fun _ => ⟨h, hstate⟩

/-- What is known of the result, for the same association. -/
theorem associates_then {q : Core.Machine Core} {f : Core → Core.Machine Core}
    (hq : Associates q associated) (hf : ∀ c, Associated c associated → Associates (f c) associated) :
    Associates (q >>= f) associated := by
  apply (wp_bind q f).mpr
  induction q with
  | ret c => exact hf c hq
  | call c k ih =>
      cases c with
      | none => exact ⟨trivial, fun r b heq => heq ▸ ih r (hq.2 r associated rfl)⟩
      | some c => exact ⟨trivial, fun r b heq => heq ▸ ih r (hq.2 r associated rfl)⟩

theorem associates_startBootAttempt (h : c.isAssociated = associated) :
    Associates c.startBootAttempt associated := by
  apply associates_bind
  intro _
  apply associates_setState
  · exact h
  · simp

theorem associates_beginReconnectWait (h : c.isAssociated = associated) :
    Associates c.beginReconnectWait associated :=
  associates_setState h (by simp)

theorem associates_startStationServices (h : c.isAssociated = associated)
    (hassociated : associated = true) : Associates c.startStationServices associated :=
  associates_bind fun _ => associates_setState h (by simp [hassociated])

theorem associates_enterProvisioning (h : c.isAssociated = associated) :
    Associates c.enterProvisioning associated := by
  apply associates_bind
  intro isStarted
  cases isStarted <;> exact associates_setState h (by simp)

theorem associates_failTrial (h : c.isAssociated = associated) :
    Associates c.failTrial associated := by
  apply associates_bind
  intro _
  apply associates_setState
  · exact h
  · simp

theorem associates_leaveProvisioning (h : c.isAssociated = associated) :
    Associates c.leaveProvisioning associated := by
  unfold Core.leaveProvisioning
  dsimp only
  split
  · rename_i hassociated
    have htrue : associated = true := h.symm.trans hassociated
    apply associates_then
    · apply associates_setState
      · exact h
      · simp [htrue]
    · intro c₁ h₁
      apply associates_bind
      intro hasIp
      cases hasIp with
      | true => exact associates_startStationServices h₁.isAssociated htrue
      | false => exact h₁
  · exact associates_beginReconnectWait h

/-- Every state that a connection leads to, and those that it leaves. -/
theorem associates_handleStationConnected (h : c.isAssociated = true) :
    Associates c.handleStationConnected true := by
  unfold Core.handleStationConnected
  cases c.state with
  | staAttempt | reconnectWait | reconnectTry =>
      apply associates_setState
      · exact h
      · simp
  | portalTrial =>
      apply associates_bind
      intro isStored
      cases isStored with
      | true =>
          apply associates_bind
          intro _
          apply associates_setState
          · exact h
          · simp
      | false => exact associates_failTrial h
  | bootWait | staPause | connected | portalIdle | portalSuccess | portalRetry =>
      exact ⟨h, by simp⟩

theorem associates_handleStationDisconnected (h : c.isAssociated = false) :
    Associates c.handleStationDisconnected false := by
  unfold Core.handleStationDisconnected
  cases hstate : c.state with
  | connected | reconnectTry => exact associates_beginReconnectWait h
  | bootWait | staAttempt | staPause | reconnectWait | portalIdle | portalTrial | portalSuccess
  | portalRetry => exact ⟨h, fun _ => by simp [hstate]⟩

theorem associates_handleMessage (h : Associated c associated) (message : Message) :
    Associates (c.handleMessage message) (afterMessage associated message) := by
  cases message with
  | buttonRequest =>
      show Associates (if c.state.isPortalState = true then _ else _) associated
      split
      · exact h
      · exact associates_enterProvisioning h.isAssociated
  | staConnected => exact associates_handleStationConnected rfl
  | staDisconnected => exact associates_handleStationDisconnected rfl
  | staGotIp =>
      show Associates (if c.state = .connected then _ else _) associated
      split
      · rename_i hconnected
        apply associates_startStationServices h.isAssociated
        by_contra hfalse
        exact h.state (by simpa using hfalse) hconnected
      · exact h
  | credentialsSubmitted credentials =>
      show Associates (if c.state = .portalIdle then _ else _) associated
      split
      · apply associates_bind
        intro _
        apply associates_setState
        · exact h.isAssociated
        · simp
      · exact h
  | ledTimingSubmitted | pulseResult | pulseReadRequested | updateRequest => exact h

theorem associates_leaveState (h : Associated c associated) :
    Associates c.leaveState associated := by
  unfold Core.leaveState
  cases hstate : c.state with
  | bootWait =>
      show Associates (if c.hasStored = true then _ else _) associated
      split
      · exact associates_startBootAttempt h.isAssociated
      · exact associates_enterProvisioning h.isAssociated
  | staAttempt =>
      show Associates (if c.attemptCount < bootAttemptMax then _ else _) associated
      split
      · apply associates_setState
        · exact h.isAssociated
        · simp
      · exact associates_enterProvisioning h.isAssociated
  | staPause => exact associates_startBootAttempt h.isAssociated
  | connected =>
      have htrue : associated = true := by
        by_contra hfalse
        exact h.state (by simpa using hfalse) hstate
      apply associates_bind
      intro isRetry
      cases isRetry with
      | true => exact associates_startStationServices h.isAssociated htrue
      | false => exact associates_setState h.isAssociated (by simp [htrue])
  | reconnectWait =>
      apply associates_bind
      intro _
      apply associates_setState
      · exact h.isAssociated
      · simp
  | reconnectTry => exact associates_beginReconnectWait h.isAssociated
  | portalIdle => exact h
  | portalTrial => exact associates_failTrial h.isAssociated
  | portalSuccess => exact associates_leaveProvisioning h.isAssociated
  | portalRetry => exact associates_enterProvisioning h.isAssociated

theorem associates_checkHealthyDeadline (h : Associated c associated) :
    Associates c.checkHealthyDeadline associated := by
  apply associates_bind
  intro remaining
  split
  · exact associates_bind fun _ => ⟨h.isAssociated, h.state⟩
  · exact h

theorem associates_checkStateDeadline (h : Associated c associated) :
    Associates c.checkStateDeadline associated := by
  unfold Core.checkStateDeadline
  split
  · apply associates_bind
    intro remaining
    split
    · exact associates_bind fun _ => associates_leaveState h
    · exact h
  · exact h

theorem associates_checkDeadlines (h : Associated c associated) :
    Associates c.checkDeadlines associated := by
  apply associates_then
  · split
    · exact associates_checkHealthyDeadline h
    · exact h
  · exact fun c₁ h₁ => associates_checkStateDeadline h₁

theorem associates_waitForMessage {q : Core.Machine Core} (h : Associates q associated) :
    (q >>= Core.waitForMessage).wp associationDevice (fun _ _ => True)
      (fun a b => Associated a.1 b) associated := by
  apply (wp_bind _ _).mpr
  apply wp_mono h
  intro c₁ b h₁
  apply (wp_bind _ _).mpr
  exact wp_association _ fun _ => h₁

theorem associationInvariant :
    CoreInvariant ConnectionFits Reported associationDevice (fun _ _ => True)
      (fun a associated => Associated a.1 associated) where
  simulates := simulates_association
  service _ _ _ := trivial
  quiet _ _ _ _ _ h := h
  start o s hinitial hstarted := by
    refine ⟨false, by simp [Reported, hinitial.lastEvent, hinitial.queue], ?_⟩
    apply associates_waitForMessage
    apply associates_setState
    · exact hstarted.isAssociated
    · simp
  message c _ s associated message rest hreported h hqueue :=
    ⟨_, hreported.receive hqueue, associates_waitForMessage (associates_handleMessage h message)⟩
  timeout c _ s associated hreported h _ :=
    ⟨_, hreported, associates_waitForMessage (associates_checkDeadlines h)⟩

end Machine

/-! ## Runs -/

/-- Nothing is lost while there is room for every connection event. -/
theorem connection_events_kept {o : Orchestrator} {waitTicks : UInt32} {s : System}
    (hrun : Runs ConnectionFits (.ret (o, waitTicks), s)) (hempty : s.queue = []) :
    o.isAssociated = decide (s.lastEvent = some true) ∧
      (s.lastEvent = some false → o.state ≠ .connected) := by
  obtain ⟨associated, hreported, h⟩ := associationInvariant.of_run hrun
  replace h : Associated o.core associated := h
  have hlast : s.lastEvent.getD false = associated := by
    rw [hreported, hempty, List.foldl_nil]
  refine ⟨?_, fun hdisconnected => h.state ?_⟩
  · show o.core.isAssociated = _
    rw [h.isAssociated, ← hlast]
    rcases s.lastEvent with _ | _ | _ <;> rfl
  · rw [← hlast, hdisconnected]
    rfl

/-- The station was connected, and the network is gone. -/
def disconnectedOrchestrator : Orchestrator :=
  { connectedOrchestrator with
    state := .reconnectWait
    hasDeadline := true
    deadlineTicks := 205
    isAssociated := false }

def disconnectedSystem : System :=
  { connectedSystem with
    state := .reconnectWait
    lastEvent := some false
    history := connectedSystem.history ++
      [.received .staDisconnected, .entered .reconnectWait wifiReconnectDelayMinMs,
        .armed wifiReconnectDelayMinMs 105] }

theorem connection_events_kept_disconnected : ∃ history,
    (connectedOrchestrator.isAssociated = decide (connectedSystem.lastEvent = some true) ∧
      connectedSystem.lastEvent = some true) ∧
    disconnectedOrchestrator.isAssociated =
      decide ({ disconnectedSystem with history := history }.lastEvent = some true) ∧
    disconnectedOrchestrator.state ≠ .connected := by
  have hfits : ∀ s event, Calm s event → ConnectionFits s event := by
    rintro s event hcalm message rfl -
    exact hcalm
  have hconnected := connectedSystem_runs.runs hfits
  have hhandled : Prog.Ends systemDevice (handleMessage .staDisconnected connectedOrchestrator)
      ((connectedSystem.post .staDisconnected).receive .connected .staDisconnected [])
      disconnectedOrchestrator disconnectedSystem :=
    Prog.ends_of_play systemDevice_of_succeed rfl
  obtain ⟨waitTicks, hwait⟩ := play_waitForMessage disconnectedOrchestrator disconnectedSystem
  have hends := hhandled.bind (Prog.ends_of_play systemDevice_of_succeed hwait)
  have hroom : ConnectionFits connectedSystem (.post .staDisconnected) :=
    fun _ _ _ => Nat.zero_lt_succ _
  have hposted := hconnected.trans (.single (.other ⟨_, hroom, .post _ rfl⟩))
  have hdisconnected := connection_events_kept
    (hposted.trans (run_of_next (.message rfl) hends)) rfl
  exact ⟨_, ⟨(connection_events_kept hconnected rfl).1, rfl⟩, hdisconnected.1, hdisconnected.2 rfl⟩

/-! ## A full queue -/

section Dropped

open Prog Relation

/-- A read of the pulses is requested, and eight more while it is armed. -/
def busySystem : System :=
  { connectedSystem.receive .connected (.pulseReadRequested 0) [] with
    queue := List.replicate queueLength (.pulseReadRequested 0) }

/-- The connection is lost while the queue is full, and the task never knows. -/
theorem disconnect_event_dropped :
    ∃ (o : Orchestrator) (waitTicks : UInt32) (s : System),
      Runs (fun _ _ => True) (.ret (o, waitTicks), s) ∧ s.queue = [] ∧
        s.lastEvent = some false ∧ o.isAssociated = true ∧ o.state = .connected := by
  have hignored : ∀ s, (handleMessage (.pulseReadRequested 0) connectedOrchestrator).play succeed s =
      some (connectedOrchestrator, s) := fun s => rfl
  let s := busySystem.post .staDisconnected
  obtain ⟨w, hplay⟩ := play_ignored (hignored s)
  obtain ⟨w', history, hdrained⟩ := run_ignored rfl hignored
    (s.record (.waiting s.ticks)) queueLength rfl
  refine ⟨_, w', _, connectedSystem_runs.anyRuns.trans (.trans ?_ hdrained), rfl, rfl, rfl, rfl⟩
  refine .head (.other ⟨.post (.pulseReadRequested 0), trivial, .post _ rfl⟩) ?_
  refine .head (.next (.message rfl)) ?_
  refine .trans (run_posts (.pulseReadRequested 0) rfl rfl _ queueLength (by decide)) ?_
  refine .head (.other ⟨.post .staDisconnected, trivial, .post _ rfl⟩) ?_
  exact (ends_of_play systemDevice_of_succeed hplay).run

end Dropped

end StripTuner.Provisioning
