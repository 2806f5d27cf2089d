import StripTuner.Provisioning.Core

/-!
# The portal status

The text that the page polls after a submission. The submit handler writes that a trial is on its
way after it has posted the submission; the orchestrator writes the outcome.
-/

namespace StripTuner.Provisioning

open CredentialStore DeviceCalls DeviceCalls.Sketch

/-! ## What other tasks leave alone -/

/-- The state, and where the submission is that the orchestrator has accepted. -/
structure Portal where
  state : OrchestratorState
  trial : TrialPhase

/-- The submission is tried from `STATE_PORTAL_TRIAL` on. -/
def Portal.enterState (x : Portal) (state : OrchestratorState) : Portal where
  state := state
  trial :=
    match x.trial with
    | .taken credentials => .running credentials
    | trial => trial

/-- A submission that is taken in `STATE_PORTAL_IDLE` is tried. -/
def Portal.receive (x : Portal) (message : Message) : Portal where
  state := x.state
  trial :=
    match message with
    | .credentialsSubmitted credentials =>
      if x.state = .portalIdle then .taken credentials else x.trial
    | _ => x.trial

/-- The status for the outcome of a trial. -/
def outcomeStatus (isConnected : Bool) : PortalStatus := if isConnected then .connected else .failed

/-- The status that the orchestrator writes. -/
def TrialPhase.status : TrialPhase → PortalStatus
  | .decided isConnected => outcomeStatus isConnected
  | _ => .idle

def portalDevice : Device Call Call.Answer Portal
  | .setState state _, x, _, y => y = x.enterState state
  | .setPortalStatus _, x, _, y => y = { x with trial := .none }
  | .replaceCredentials _, x, isStored, y => y = { x with trial := x.trial.decide isStored }
  | .handleTimeout, x, _, y => y = { x with trial := x.trial.decide false }
  | _, x, _, y => y = x

/-- A trial is made in `STATE_PORTAL_TRIAL`, which is left when its outcome is written, and only for a
trial is `STATE_PORTAL_IDLE` left. -/
def portalGuard : Call → Portal → Prop
  | .setState state _, x =>
    (x.trial ≠ .none → state = .portalTrial) ∧
      (x.trial = .none → x.state = .portalIdle → state = .portalIdle)
  | .setPortalStatus status, x => status = x.trial.status
  | _, _ => True

/-- The submit handler writes its status while the trial is on its way. -/
def ConnectingPending (s : System) (event : Event) : Prop :=
  event = .writeConnecting → s.HasPending

/-- What the status says. -/
structure PortalOf (s : System) (x : Portal) : Prop where
  state : x.state = s.state
  trial : x.trial = s.trial
  tried : s.trial ≠ .none → (∀ credentials, s.trial ≠ .taken credentials) → s.state = .portalTrial
  connecting : s.status = .connecting → s.HasPending
  outcome : ∀ isConnected, s.outcome = some isConnected →
    s.trial = .decided isConnected ∨ s.trial = .none ∧ s.status = outcomeStatus isConnected
  queued : s.hasSubmission = true → s.outcome = none

/-! ## Other tasks -/

section Others

variable {s t : System} {x : Portal}

theorem PortalOf.post (h : PortalOf s x) (message : Message) : PortalOf (s.post message) x := by
  unfold System.post
  dsimp only
  split
  · refine ⟨h.state, h.trial, h.tried, fun hconnecting => ?_, fun isConnected houtcome => ?_, ?_⟩
    · rcases h.connecting hconnecting with htrial | ⟨hsubmission, hidle⟩
      · exact .inl htrial
      · refine .inr ⟨?_, hidle⟩
        simp only [System.hasSubmission] at hsubmission ⊢
        simp [hsubmission]
    · apply h.outcome
      dsimp only at houtcome
      split at houtcome
      · simp at houtcome
      · exact houtcome
    · intro hqueued
      dsimp only at hqueued ⊢
      split
      · rfl
      · rename_i hother
        simp [System.hasSubmission, hother] at hqueued
        exact h.queued (by simpa [System.hasSubmission] using hqueued)
  · exact ⟨h.state, h.trial, h.tried, h.connecting, h.outcome, h.queued⟩

theorem PortalOf.other (h : PortalOf s x) {event : Event} (hpending : ConnectingPending s event)
    (hstep : OtherStep s event t) : PortalOf t x := by
  cases hstep with
  | post => exact h.post _
  | postSubmission =>
      have hpost := h.post (.credentialsSubmitted ‹_›)
      exact ⟨hpost.state, hpost.trial, hpost.tried, hpost.connecting, hpost.outcome, hpost.queued⟩
  | writeConnecting =>
      refine ⟨h.state, h.trial, h.tried, fun _ => hpending rfl, fun isConnected houtcome => ?_,
        h.queued⟩
      rcases h.outcome isConnected houtcome with hdecided | ⟨hnone, -⟩
      · exact .inl hdecided
      · rcases hpending rfl with htrial | ⟨hsubmission, -⟩
        · exact absurd hnone htrial
        · simp [h.queued hsubmission] at houtcome
  | tick | submit | checkIdle | respond | dnsOpens | dnsOpenFails | dnsStops =>
      exact ⟨h.state, h.trial, h.tried, h.connecting, h.outcome, h.queued⟩

/-! ## The orchestrator's calls -/

theorem PortalOf.enterState (h : PortalOf s x) {state : OrchestratorState} (timeoutMs : UInt32)
    (htrial : x.trial ≠ .none → state = .portalTrial)
    (hidle : x.trial = .none → x.state = .portalIdle → state = .portalIdle) :
    PortalOf (s.enterState state timeoutMs) (x.enterState state) := by
  rw [h.trial] at htrial hidle
  rw [h.state] at hidle
  have hnone : (s.enterState state timeoutMs).trial = .none ↔ s.trial = .none := by
    unfold System.enterState
    cases s.trial <;> simp
  refine ⟨rfl, ?_, fun hsome _ => ?_, fun hconnecting => ?_, fun isConnected houtcome => ?_,
    h.queued⟩
  · cases hphase : s.trial <;>
      simp [Portal.enterState, System.enterState, h.trial, hphase]
  · exact htrial fun hnone' => hsome (hnone.mpr hnone')
  · unfold System.HasPending
    rw [ne_eq, hnone]
    rcases h.connecting hconnecting with hpending | ⟨hsubmission, hs⟩
    · exact .inl hpending
    · by_cases hs' : s.trial = .none
      · exact .inr ⟨hsubmission, hidle hs' hs⟩
      · exact .inl hs'
  · rcases h.outcome isConnected houtcome with hdecided | ⟨hnone', hstatus⟩
    · exact .inl (by simp [System.enterState, hdecided])
    · exact .inr ⟨hnone.mpr hnone', hstatus⟩

theorem PortalOf.writeStatus (h : PortalOf s x) {status : PortalStatus}
    (hstatus : status = x.trial.status) :
    PortalOf (s.writeStatus status) { x with trial := .none } := by
  rw [h.trial] at hstatus
  refine ⟨h.state, rfl, fun hsome => absurd rfl hsome, ?_, ?_, fun hqueued => ?_⟩
  · intro hconnecting
    rw [show status = .connecting from hconnecting] at hstatus
    cases hphase : s.trial with
    | decided isConnected =>
        cases isConnected <;> simp [hphase, TrialPhase.status, outcomeStatus] at hstatus
    | none | taken | running => simp [hphase, TrialPhase.status] at hstatus
  · intro isConnected houtcome
    refine .inr ⟨rfl, ?_⟩
    unfold System.writeStatus at houtcome
    dsimp only at houtcome
    split at houtcome
    · simp at houtcome
    · rename_i hidle
      rcases h.outcome isConnected houtcome with hdecided | ⟨hnone, -⟩
      · rw [hdecided] at hstatus
        exact hstatus
      · rw [hnone] at hstatus
        exact absurd hstatus hidle
  · have hnone : s.outcome = none := h.queued hqueued
    simp [System.writeStatus, hnone]

theorem decideTrial_of_not_running (h : ∀ credentials, s.trial ≠ .running credentials)
    (isConnected : Bool) : s.decideTrial isConnected = s := by
  obtain ⟨services, queue, state, status, submitter, ticks, activeRecord, history, lastEvent,
    trial, outcome⟩ := s
  cases trial with
  | running credentials => exact absurd rfl (h credentials)
  | none | taken | decided => rfl

/-- The outcome of a trial is known before the portal tells it. -/
theorem PortalOf.decideTrial (h : PortalOf s x) (isConnected : Bool) :
    PortalOf (s.decideTrial isConnected) { x with trial := x.trial.decide isConnected } := by
  rw [h.trial]
  by_cases hrunning : ∃ credentials, s.trial = .running credentials
  · obtain ⟨credentials, hphase⟩ := hrunning
    have htrial : (s.decideTrial isConnected).trial = .decided isConnected := by
      simp [System.decideTrial, hphase, TrialPhase.decide]
    have hstate : s.state = .portalTrial := h.tried (by simp [hphase]) (by simp [hphase])
    refine ⟨h.state, rfl, fun _ _ => hstate, fun _ => .inl (by simp [htrial]), ?_, fun hqueued => ?_⟩
    · intro isConnected' houtcome
      refine .inl (htrial.trans ?_)
      simp only [System.decideTrial, hphase] at houtcome
      split at houtcome
      · simp at houtcome
      · rw [Option.some.inj houtcome]
    · have hqueued' : s.hasSubmission = true := hqueued
      simp [System.decideTrial, hphase, hqueued']
  · have hs := decideTrial_of_not_running (fun credentials hphase => hrunning ⟨credentials, hphase⟩)
      isConnected
    rw [show s.trial.decide isConnected = s.trial from congrArg System.trial hs, hs, ← h.trial]
    exact h

theorem receive_of_not_taken {message : Message} {rest : List Message} {state : OrchestratorState}
    (h : ∀ credentials, message = .credentialsSubmitted credentials → state ≠ .portalIdle) :
    (s.receive state message rest).trial = s.trial := by
  cases message with
  | credentialsSubmitted credentials => simp [System.receive, h credentials rfl]
  | _ => rfl

theorem PortalOf.receive (h : PortalOf s x) {message : Message} {rest : List Message}
    (hqueue : s.queue = message :: rest) :
    PortalOf (s.receive x.state message rest) (x.receive message) := by
  have hqueued : s.hasSubmission = true ↔
      message.isSubmission = true ∨ rest.any Message.isSubmission = true := by
    simp [System.hasSubmission, hqueue]
  have hview : (x.receive message).trial = (s.receive x.state message rest).trial := by
    cases message <;> simp [Portal.receive, System.receive, h.trial]
  by_cases htaken : message.isSubmission = true ∧ x.state = .portalIdle
  · obtain ⟨hsubmission, hidle⟩ := htaken
    cases message with
    | credentialsSubmitted credentials =>
        have htrial : (s.receive x.state (.credentialsSubmitted credentials) rest).trial =
            .taken credentials := by
          simp [System.receive, hidle]
        have hnone : s.outcome = none := h.queued (hqueued.mpr (.inl hsubmission))
        refine ⟨h.state, hview, ?_, ?_, fun isConnected houtcome => ?_, fun _ => hnone⟩
        · exact fun _ htaken => absurd htrial (htaken credentials)
        · exact fun _ => .inl (by simp [htrial])
        · simp [System.receive, hnone] at houtcome
    | _ => simp [Message.isSubmission] at hsubmission
  · have hsame : (s.receive x.state message rest).trial = s.trial := by
      apply receive_of_not_taken
      rintro credentials rfl hidle
      exact htaken ⟨rfl, hidle⟩
    refine ⟨h.state, hview, ?_, fun hconnecting => ?_, ?_, fun hrest => ?_⟩
    · rw [hsame]
      exact h.tried
    · unfold System.HasPending
      rw [hsame]
      rcases h.connecting hconnecting with hpending | ⟨hsubmission, hidle⟩
      · exact .inl hpending
      · refine .inr ⟨?_, hidle⟩
        rcases hqueued.mp hsubmission with hfirst | hrest
        · exact absurd ⟨hfirst, h.state.trans hidle⟩ htaken
        · exact hrest
    · rw [hsame]
      exact h.outcome
    · exact h.queued (hqueued.mpr (.inr hrest))

/-- A call that the portal does not depend on. -/
def Call.IsSilent : Call → Prop
  | .setState _ _ | .setPortalStatus _ | .replaceCredentials _ | .handleTimeout => False
  | _ => True

theorem PortalOf.silent (h : PortalOf s x) {c : Call} (hc : c.IsSilent) {r : c.Answer}
    (hshared : sharedDevice c s r t) : portalDevice c x r x ∧ PortalOf t x := by
  refine ⟨by cases c <;> first | rfl | exact hc.elim, ?_⟩
  have hsame : t.queue = s.queue ∧ t.state = s.state ∧ t.trial = s.trial ∧ t.status = s.status ∧
      t.outcome = s.outcome := by
    cases c <;> simp only [sharedDevice] at hshared
    all_goals grind [System.record, Call.IsSilent]
  obtain ⟨hqueue, hstate, htrial, hstatus, houtcome⟩ := hsame
  constructor <;> simp only [System.HasPending, System.hasSubmission, hqueue, hstate, htrial,
    hstatus, houtcome]
  · exact h.state
  · exact h.trial
  · exact h.tried
  · exact h.connecting
  · exact h.outcome
  · exact h.queued

theorem simulates_portal :
    Simulates systemDevice (OtherStepIn ConnectingPending)
      PortalOf portalDevice portalGuard := by
  refine ⟨?_, fun h ⟨_, hpending, hstep⟩ => h.other hpending hstep⟩
  rintro c s r t x h hG ⟨u, hshared, -, ht⟩
  obtain ⟨y, hcall, hy⟩ : ∃ y, portalDevice c x r y ∧ PortalOf u y := by
    by_cases hc : c.IsSilent
    · exact ⟨x, h.silent hc hshared⟩
    · cases c with
      | setState state timeoutMs =>
          obtain rfl := hshared
          exact ⟨_, rfl, h.enterState timeoutMs hG.1 hG.2⟩
      | setPortalStatus status =>
          obtain rfl := hshared
          exact ⟨_, rfl, h.writeStatus hG⟩
      | replaceCredentials credentials =>
          obtain ⟨_, -, rfl⟩ := hshared
          have hdecided := h.decideTrial r
          exact ⟨_, rfl, hdecided.state, hdecided.trial, hdecided.tried, hdecided.connecting,
            hdecided.outcome, hdecided.queued⟩
      | handleTimeout =>
          obtain rfl := hshared
          have hdecided := h.decideTrial false
          exact ⟨_, rfl, hdecided.state, hdecided.trial, hdecided.tried, hdecided.connecting,
            hdecided.outcome, hdecided.queued⟩
      | _ => exact absurd trivial hc
  refine ⟨y, hcall, ?_⟩
  rw [ht]
  exact ⟨hy.state, hy.trial, hy.tried, hy.connecting, hy.outcome, hy.queued⟩

end Others

/-! ## The machine -/

section Machine

variable {c : Core} {x : Portal}

/-- Between two messages: a trial runs in `STATE_PORTAL_TRIAL` only. -/
structure InPortal (c : Core) (x : Portal) : Prop where
  state : x.state = c.state
  trial : c.state ≠ .portalTrial → x.trial = .none
  running : c.state = .portalTrial → ∃ credentials, x.trial = .running credentials

abbrev Presents (q : Core.Machine Core) (x : Portal) : Prop :=
  q.wp portalDevice portalGuard InPortal x

theorem wp_silent (call : Call) (h : call.IsSilent) {α : Type}
    {f : call.Answer → Core.Machine α} {Q : α → Portal → Prop}
    (hf : ∀ r, (f r).wp portalDevice portalGuard Q x) :
    (ask call >>= f).wp portalDevice portalGuard Q x := by
  apply (wp_bind _ _).mpr
  refine ⟨by cases call <;> trivial, fun r y hcall => ?_⟩
  have hsame : y = x := by cases call <;> first | exact hcall | exact h.elim
  rw [hsame]
  exact hf r

theorem wp_remainingTicks (deadlineTicks : UInt32) {Q : UInt32 → Portal → Prop}
    (hQ : ∀ r, Q r x) :
    (ofProg (getRemainingTicks deadlineTicks)).wp portalDevice portalGuard Q x :=
  wp_silent .tickCount trivial fun _ => hQ _

theorem presents_guess {f : Bool → Core.Machine Core} (htrue : Presents (f true) x)
    (hfalse : Presents (f false) x) : Presents (guess >>= f) x :=
  (wp_bind _ _).mpr (wp_guess.mpr ⟨htrue, hfalse⟩)

/-- Without a trial. -/
theorem presents_setState_then {state : OrchestratorState} {timeoutMs : UInt32}
    {f : Core → Core.Machine Core} (htrial : x.trial = .none)
    (hidle : x.state = .portalIdle → state = .portalIdle)
    (hf : ∀ c, c.state = state → Presents (f c) ⟨state, .none⟩) :
    Presents (c.setState state timeoutMs >>= f) x := by
  apply (wp_bind _ _).mpr
  apply (wp_bind _ _).mpr
  refine ⟨⟨fun hpending => absurd htrial hpending, fun _ => hidle⟩, fun _ y hy => ?_⟩
  subst hy
  apply wp_silent (.deadlineTickCount timeoutMs) trivial
  intro now
  rw [Portal.enterState, htrial]
  exact hf _ rfl

theorem presents_setState {state : OrchestratorState} {timeoutMs : UInt32}
    (hstate : state ≠ .portalTrial) (htrial : x.trial = .none)
    (hidle : x.state = .portalIdle → state = .portalIdle) :
    Presents (c.setState state timeoutMs) x := by
  refine presents_setState_then (f := pure) htrial hidle fun c₁ hc => ⟨hc.symm, fun _ => rfl, ?_⟩
  exact fun htrial => absurd (hc.symm.trans htrial) hstate

/-- The status is written, and no trial is on its way any more. -/
theorem presents_setPortalStatus {status : PortalStatus} (hstatus : status = x.trial.status)
    {f : Unit → Core.Machine Core} (hf : Presents (f ()) { x with trial := .none }) :
    Presents (Core.setPortalStatus status >>= f) x := by
  apply (wp_bind _ _).mpr
  refine ⟨hstatus, fun _ y hy => ?_⟩
  subst hy
  exact hf

theorem presents_startBootAttempt (htrial : x.trial = .none) (hidle : x.state ≠ .portalIdle) :
    Presents c.startBootAttempt x :=
  wp_silent (.connectWifiStation _) trivial fun _ =>
    presents_setState (by decide) htrial fun hs => absurd hs hidle

theorem presents_beginReconnectWait (htrial : x.trial = .none) (hidle : x.state ≠ .portalIdle) :
    Presents c.beginReconnectWait x :=
  presents_setState (by decide) htrial fun hs => absurd hs hidle

theorem presents_startStationServices (htrial : x.trial = .none) (hidle : x.state ≠ .portalIdle) :
    Presents c.startStationServices x :=
  presents_guess (presents_setState (by decide) htrial fun hs => absurd hs hidle)
    (presents_setState (by decide) htrial fun hs => absurd hs hidle)

theorem presents_enterProvisioning (htrial : x.trial = .none) (hidle : x.state ≠ .portalIdle) :
    Presents c.enterProvisioning x := by
  have hretry : Presents (c.setState .portalRetry portalRetryMs) x :=
    presents_setState (by decide) htrial fun hs => absurd hs hidle
  apply (wp_bind _ _).mpr
  apply (wp_bind _ _).mpr
  refine wp_guess.mpr ⟨?_, hretry⟩
  apply (wp_bind _ _).mpr
  refine ⟨(congrArg TrialPhase.status htrial).symm, fun _ y hy => ?_⟩
  subst hy
  exact wp_guess.mpr ⟨presents_setState (by decide) rfl fun _ => rfl,
    presents_setState (by decide) rfl fun hs => absurd hs hidle⟩

/-- The outcome of the trial is told, and the portal waits for the next one. -/
theorem presents_failTrial (htrial : x.trial = .decided false) : Presents c.failTrial x := by
  apply presents_setPortalStatus
  · rw [htrial]
    rfl
  · exact presents_setState (by decide) rfl fun _ => rfl

theorem presents_leaveProvisioning (htrial : x.trial = .none) (hidle : x.state ≠ .portalIdle) :
    Presents c.leaveProvisioning x := by
  unfold Core.leaveProvisioning
  dsimp only
  split
  · apply presents_setState_then htrial fun hs => absurd hs hidle
    intro c₁ hstate
    apply presents_guess
    · exact presents_startStationServices rfl (by decide)
    · exact ⟨hstate.symm, fun _ => rfl, fun htrial => by cases hstate.symm.trans htrial⟩
  · exact presents_beginReconnectWait htrial hidle

theorem presents_handleStationConnected (h : InPortal c x) :
    Presents c.handleStationConnected x := by
  have hs := h.state
  have htrial := h.trial
  unfold Core.handleStationConnected
  cases hstate : c.state with
  | staAttempt | reconnectWait | reconnectTry =>
      apply presents_setState (by decide)
      · exact htrial (by simp [hstate])
      · simp [hs, hstate]
  | portalTrial =>
      obtain ⟨credentials, hrunning⟩ := h.running hstate
      apply (wp_bind _ _).mpr
      refine ⟨trivial, fun isStored y hy => ?_⟩
      have hdecided : y.trial = .decided isStored := by
        rw [show y = _ from hy]
        simp [hrunning, TrialPhase.decide]
      have hsame : y.state = x.state := by rw [show y = _ from hy]
      cases isStored with
      | true =>
          apply presents_setPortalStatus
          · rw [hdecided]
            rfl
          · exact presents_setState (by decide) rfl (by simp [hsame, hs, hstate])
      | false => exact presents_failTrial hdecided
  | bootWait | staPause | connected | portalIdle | portalSuccess | portalRetry => exact h

theorem presents_handleStationDisconnected (h : InPortal c x) :
    Presents c.handleStationDisconnected x := by
  have hs := h.state
  have htrial := h.trial
  unfold Core.handleStationDisconnected
  cases hstate : c.state with
  | connected | reconnectTry =>
      apply presents_beginReconnectWait
      · exact htrial (by simp [hstate])
      · simp [hs, hstate]
  | bootWait | staAttempt | staPause | reconnectWait | portalIdle | portalTrial | portalSuccess
  | portalRetry => exact h

/-- A submission that is taken in `STATE_PORTAL_IDLE` is tried. -/
theorem presents_trial {credentials : WifiCredentials} (h : InPortal c x)
    (hstate : c.state = .portalIdle) :
    Presents (do
      Core.connectWifiStation credentials
      Core.setState { c with trial := credentials } .portalTrial attemptTimeoutMs)
      (x.receive (.credentialsSubmitted credentials)) := by
  have htaken : x.receive (.credentialsSubmitted credentials) =
      ⟨.portalIdle, .taken credentials⟩ := by
    simp [Portal.receive, h.state, hstate]
  rw [htaken]
  apply wp_silent (.connectWifiStation credentials) trivial
  intro _
  apply (wp_bind _ _).mpr
  refine ⟨⟨fun _ => rfl, fun hnone => by cases hnone⟩, fun _ y hy => ?_⟩
  subst hy
  apply wp_silent (.deadlineTickCount attemptTimeoutMs) trivial
  exact fun now => ⟨rfl, fun hne => absurd rfl hne, fun _ => ⟨credentials, rfl⟩⟩

theorem presents_handleMessage (h : InPortal c x) (message : Message) :
    Presents (c.handleMessage message) (x.receive message) := by
  cases message with
  | buttonRequest =>
      show Presents (if c.state.isPortalState = true then _ else _) x
      split
      · exact h
      · rename_i hportal
        apply presents_enterProvisioning
        · apply h.trial
          rintro hstate
          simp [hstate, OrchestratorState.isPortalState] at hportal
        · rw [h.state]
          rintro hstate
          simp [hstate, OrchestratorState.isPortalState] at hportal
  | staConnected => exact presents_handleStationConnected ⟨h.state, h.trial, h.running⟩
  | staDisconnected => exact presents_handleStationDisconnected ⟨h.state, h.trial, h.running⟩
  | staGotIp =>
      show Presents (if c.state = .connected then _ else _) x
      split
      · rename_i hstate
        apply presents_startStationServices
        · exact h.trial (by simp [hstate])
        · simp [h.state, hstate]
      · exact h
  | credentialsSubmitted credentials =>
      show Presents (if c.state = .portalIdle then _ else _) _
      split
      · rename_i hstate
        exact presents_trial h hstate
      · rename_i hstate
        have hsame : x.receive (.credentialsSubmitted credentials) = x := by
          obtain ⟨state, trial⟩ := x
          simp [Portal.receive, show state = c.state from h.state, hstate]
        rw [hsame]
        exact h
  | ledTimingSubmitted | pulseResult | pulseReadRequested | updateRequest => exact h

/-- A trial whose deadline has passed has failed. -/
theorem presents_leaveState (hs : x.state = c.state)
    (htrial : c.state ≠ .portalTrial → x.trial = .none)
    (hfailed : c.state = .portalTrial → x.trial = .decided false) : Presents c.leaveState x := by
  unfold Core.leaveState
  cases hstate : c.state with
  | bootWait =>
      show Presents (if c.hasStored = true then _ else _) x
      split
      · exact presents_startBootAttempt (htrial (by simp [hstate])) (by simp [hs, hstate])
      · exact presents_enterProvisioning (htrial (by simp [hstate])) (by simp [hs, hstate])
  | staAttempt =>
      show Presents (if c.attemptCount < bootAttemptMax then _ else _) x
      split
      · exact presents_setState (by decide) (htrial (by simp [hstate])) (by simp [hs, hstate])
      · exact presents_enterProvisioning (htrial (by simp [hstate])) (by simp [hs, hstate])
  | staPause => exact presents_startBootAttempt (htrial (by simp [hstate])) (by simp [hs, hstate])
  | connected =>
      apply presents_guess
      · exact presents_startStationServices (htrial (by simp [hstate])) (by simp [hs, hstate])
      · exact presents_setState (by decide) (htrial (by simp [hstate])) (by simp [hs, hstate])
  | reconnectWait =>
      apply wp_silent (.connectWifiStation _) trivial
      intro _
      exact presents_setState (by decide) (htrial (by simp [hstate])) (by simp [hs, hstate])
  | reconnectTry =>
      exact presents_beginReconnectWait (htrial (by simp [hstate])) (by simp [hs, hstate])
  | portalIdle =>
      exact ⟨hs, htrial, fun htry => by rw [hstate] at htry; cases htry⟩
  | portalTrial => exact presents_failTrial (hfailed hstate)
  | portalSuccess =>
      exact presents_leaveProvisioning (htrial (by simp [hstate])) (by simp [hs, hstate])
  | portalRetry =>
      exact presents_enterProvisioning (htrial (by simp [hstate])) (by simp [hs, hstate])

theorem presents_handleTimeout (h : InPortal c x) : Presents c.handleTimeout x := by
  apply (wp_bind _ _).mpr
  refine ⟨trivial, fun _ y hy => ?_⟩
  obtain rfl : y = { x with trial := x.trial.decide false } := hy
  refine presents_leaveState (x := { x with trial := x.trial.decide false }) h.state ?_ ?_
  · intro hne
    simp [h.trial hne, TrialPhase.decide]
  · intro hstate
    obtain ⟨credentials, hrunning⟩ := h.running hstate
    simp [hrunning, TrialPhase.decide]

theorem presents_checkStateDeadline (h : InPortal c x) : Presents c.checkStateDeadline x := by
  unfold Core.checkStateDeadline
  split
  · apply (wp_bind _ _).mpr
    apply wp_remainingTicks
    intro remaining
    split
    · exact presents_handleTimeout h
    · exact h
  · exact h

theorem presents_checkDeadlines (h : InPortal c x) : Presents c.checkDeadlines x := by
  apply (wp_bind _ _).mpr
  split
  · apply (wp_bind _ _).mpr
    apply wp_remainingTicks
    intro remaining
    split
    · exact wp_silent .markFirmwareHealthy trivial fun _ =>
        presents_checkStateDeadline ⟨h.state, h.trial, h.running⟩
    · exact presents_checkStateDeadline h
  · exact presents_checkStateDeadline h

theorem presents_waitForMessage {q : Core.Machine Core} (hq : Presents q x) :
    (q >>= Core.waitForMessage).wp portalDevice portalGuard (fun a y => InPortal a.1 y) x := by
  apply (wp_bind _ _).mpr
  apply wp_mono hq
  intro c₁ y h₁
  apply (wp_bind _ _).mpr
  apply wp_silent .getWaitTicks trivial
  intro _
  apply (wp_bind _ _).mpr
  have hhealthy : ∀ waitTicks : UInt32, (if c₁.isHealthyPending = true then do
        let remaining ← ofProg (getRemainingTicks c₁.healthyDeadlineTicks)
        if remaining < waitTicks then ofProg (getRemainingTicks c₁.healthyDeadlineTicks)
        else return waitTicks
      else return waitTicks : Core.Machine UInt32).wp portalDevice portalGuard
        (fun _ y => InPortal c₁ y) y := by
    intro waitTicks
    split
    · apply (wp_bind _ _).mpr
      apply wp_remainingTicks
      intro remaining
      split
      · exact wp_remainingTicks _ fun _ => h₁
      · exact h₁
    · exact h₁
  split
  · exact wp_remainingTicks _ hhealthy
  · exact hhealthy _

theorem portalInvariant :
    CoreInvariant ConnectingPending PortalOf portalDevice portalGuard
      (fun a x => InPortal a.1 x) where
  simulates := simulates_portal
  service c hc x := by cases c <;> trivial
  quiet c hc x r x' h := by cases c <;> first | exact hc.elim | exact h
  start o s hinitial hstarted := by
    refine ⟨⟨.bootWait, .none⟩, ⟨?_, ?_, ?_, ?_, ?_, ?_⟩, presents_waitForMessage ?_⟩
    · exact hinitial.state.symm
    · exact hinitial.trial.symm
    · exact fun hsome => absurd hinitial.trial hsome
    · simp [hinitial.status]
    · simp [hinitial.outcome]
    · exact fun _ => hinitial.outcome
    · exact presents_setState (by decide) rfl (by decide)
  message c waitTicks s x message rest h hc hqueue := by
    refine ⟨_, ?_, presents_waitForMessage (presents_handleMessage hc message)⟩
    rw [← show x.state = c.state from hc.state]
    exact h.receive hqueue
  timeout c waitTicks s x h hc hqueue := by
    refine ⟨x, ?_, presents_waitForMessage (presents_checkDeadlines hc)⟩
    exact ⟨h.state, h.trial, h.tried, h.connecting, h.outcome, h.queued⟩

end Machine

/-! ## Runs -/

/-- The page waits only while a submission is queued, taken or tried, and then is told how the trial
ended. -/
theorem portal_status_settles {p : Task (Orchestrator × UInt32)} {s : System}
    (hrun : Runs ConnectingPending (p, s)) :
    (s.hasSubmission = false → (∀ credentials, s.trial ≠ .taken credentials) →
      s.state ≠ .portalTrial → s.status.text ≠ "Connecting...") ∧
    ∀ isConnected, s.outcome = some isConnected → s.state ≠ .portalTrial →
      s.status.text = outcomeText isConnected := by
  obtain ⟨x, h, -⟩ := portalInvariant.of_run hrun
  replace h : PortalOf s x := h
  constructor
  · intro hnone htaken hstate htext
    have hconnecting : s.status = .connecting := by
      cases hstatus : s.status <;> simp [hstatus, PortalStatus.text] at htext ⊢
    rcases h.connecting hconnecting with htrial | ⟨hsubmission, -⟩
    · exact hstate (h.tried htrial htaken)
    · rw [hnone] at hsubmission
      cases hsubmission
  · intro isConnected houtcome hstate
    rcases h.outcome isConnected houtcome with hdecided | ⟨-, hstatus⟩
    · exact absurd (h.tried (by simp [hdecided]) (by simp [hdecided])) hstate
    · rw [hstatus]
      cases isConnected <;> rfl

theorem portal_status_settles_success : ∃ history,
    (successSystem 3000 history).outcome = some true ∧
      (successSystem 3000 history).status.text ≠ "Connecting..." ∧
      (successSystem 3000 history).status.text = outcomeText true := by
  have hpending : ∀ s event, Calm s event → ConnectingPending s event := by
    rintro s event hcalm rfl
    exact hcalm
  obtain ⟨w₁, h₁, hidle⟩ := run_healthy (Nat.le_refl 3000)
  obtain ⟨w₂, h₂, htrial⟩ := run_trial 3000 h₁ w₁
  obtain ⟨w₃, history, hsuccess⟩ := run_success 3000 h₂ w₂
  have hrun := ((hidle.trans htrial).trans hsuccess).runs hpending
  obtain ⟨hsettled, htold⟩ := portal_status_settles hrun
  have hstate : (successSystem 3000 history).state ≠ .portalTrial := nofun
  exact ⟨history, rfl, hsettled rfl (fun _ => nofun) hstate, htold true rfl hstate⟩

/-! ## A full queue -/

section Dropped

open Prog Relation

/-- The submission is not queued, and the page waits for a trial that never comes. -/
theorem connecting_without_trial :
    ∃ (p : Task (Orchestrator × UInt32)) (s : System), Runs (fun _ _ => True) (p, s) ∧
      s.submitter = .idle ∧ s.queue = [] ∧ s.state = .portalIdle ∧ s.trial = .none ∧
      s.status.text = "Connecting..." := by
  have hignored : ∀ s, (handleMessage .buttonRequest portalOrchestrator).play succeed s =
      some (portalOrchestrator, s) := fun s => rfl
  have hserver : ⟨"/submit", .post, .handleSubmitRequest⟩ ∈ portalHandlers := by decide
  let s := { portalSystem.receive .portalIdle .buttonRequest [] with
    queue := List.replicate queueLength .buttonRequest
    status := .connecting }
  obtain ⟨w, hplay⟩ := play_ignored (hignored s)
  obtain ⟨w', history, hdrained⟩ := run_ignored rfl hignored
    (s.record (.waiting s.ticks)) queueLength rfl
  refine ⟨_, _, portalSystem_runs.anyRuns.trans (.trans ?_ hdrained), rfl, rfl, rfl, rfl, rfl⟩
  refine .head (.other ⟨.post .buttonRequest, trivial, .post _ rfl⟩) ?_
  refine .head (.next (.message rfl)) ?_
  refine .trans (run_posts .buttonRequest rfl rfl _ queueLength (by decide)) ?_
  refine .head (.other ⟨.submit openNetwork, trivial, .submit rfl ⟨_, rfl, hserver⟩ _⟩) ?_
  refine .head (.other ⟨.checkIdle, trivial, .checkIdle rfl⟩) ?_
  refine .head (.other ⟨.postSubmission, trivial, .postSubmission rfl⟩) ?_
  refine .head (.other ⟨.writeConnecting, trivial, .writeConnecting rfl⟩) ?_
  refine .head (.other ⟨.respond, trivial, .respond rfl⟩) ?_
  exact (ends_of_play systemDevice_of_succeed hplay).run

end Dropped

end StripTuner.Provisioning
