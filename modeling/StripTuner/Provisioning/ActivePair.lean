import StripTuner.CredentialStore.PowerLoss
import StripTuner.Provisioning.Policy

/-!
# The active pair

The pair used for reconnecting is a copy of the store's active record wherever it is used, and the
store is only written with the pair of a trial that has connected.
-/

namespace StripTuner.Provisioning

open CredentialStore DeviceCalls DeviceCalls.Sketch

/-! ## The store -/

/-- What a load returns at the start of the orchestrator. -/
theorem loadedPair_valid {s : NvsState} {credentials : WifiCredentials}
    (h : loadedPair s = some credentials) : isCredentialsValid credentials = true := by
  rw [loadedPair_eq] at h
  exact (storedPair_eq_some_iff.mp h).2

/-- What the orchestrator relies on when `ReplaceCredentials()` returns true. -/
theorem replaceCredentials_stores {isReady : Bool} {credentials : WifiCredentials} {s t : NvsState}
    (h : Prog.Ends (Prog.toDevice nvs) (CredentialStore.replaceCredentials isReady credentials) s
      true t) :
    loadedPair t = some credentials ∧ isCredentialsValid credentials = true := by
  by_cases hready : (isReady && isCredentialsValid credentials) = true
  · obtain ⟨rfl, hvalid⟩ := Bool.and_eq_true_iff.mp hready
    have hloaded := Prog.wp_ends (G := fun _ _ => True)
      (Q := fun _ t => loadedPair t = some credentials)
      ((wp_replaceCredentials hvalid _).mpr (by simp [loadedPair_eq, hvalid])) h
    exact ⟨hloaded, hvalid⟩
  · rw [replaceCredentials_rejected (eq_false_of_ne_true hready)] at h
    cases h

/-! ## The rule -/

/-- The pair used for reconnecting is the configured one. -/
def OrchestratorState.isConfigured : OrchestratorState → Bool
  | .connected | .reconnectWait | .reconnectTry | .portalSuccess => true
  | _ => false

/-- The store is written on a connection in a trial, with the pair of the trial. -/
def ReplaceAllows (p : Progress) : Record → Prop
  | .replaced credentials => p.state = .portalTrial ∧ p.handling = some .staConnected ∧
    p.submission = some credentials
  | _ => True

theorem blind_replace : Blind progress ReplaceAllows :=
  ⟨fun _ _ => ⟨rfl, trivial⟩, fun _ _ _ => ⟨rfl, trivial⟩, fun _ _ => ⟨rfl, trivial⟩,
    fun _ _ => ⟨rfl, trivial⟩, fun _ _ => ⟨rfl, trivial⟩, fun _ _ => trivial, fun _ => trivial⟩

/-- The pair is well formed and active in the store. -/
def IsActive (activeRecord : Option WifiCredentials) (credentials : WifiCredentials) : Prop :=
  activeRecord = some credentials ∧ isCredentialsValid credentials = true

/-- The copies of the stored, the trial and the active pair. -/
structure CopiesOf (c : Core) (p : Progress) (activeRecord : Option WifiCredentials) : Prop where
  state : p.state = c.state
  trial : c.state = .portalTrial → p.submission = some c.trial
  stored : c.state.isBoot = true → c.hasStored = true → IsActive activeRecord c.stored
  boot : c.state = .staAttempt ∨ c.state = .staPause → c.hasStored = true
  active : c.state.isConfigured = true → IsActive activeRecord c.active

/-! ## The machine keeps the copies -/

section Machine

variable {c : Core} {x : Ledger Progress}

abbrev Copies (q : Core.Machine Core) (x : Ledger Progress) : Prop :=
  Settles progress ReplaceAllows CopiesOf q x

/-- A change of state keeps the copies that the new state uses. -/
theorem copies_setState {state : OrchestratorState} {timeoutMs : UInt32}
    (htrial : state = .portalTrial →
      (x.read.step (.entered state timeoutMs)).submission = some c.trial)
    (hstored : state.isBoot = true → c.hasStored = true ∧ IsActive x.activeRecord c.stored)
    (hactive : state.isConfigured = true → IsActive x.activeRecord c.active) :
    Copies (c.setState state timeoutMs) x := by
  apply blind_replace.setState trivial
  intro deadlineTicks
  refine ⟨rfl, htrial, fun hboot _ => (hstored hboot).2, ?_, hactive⟩
  rintro (heq | heq)
  · exact (hstored (by rw [show state = _ from heq]; rfl)).1
  · exact (hstored (by rw [show state = _ from heq]; rfl)).1

theorem copies_configured {state : OrchestratorState} (hstate : state.isConfigured = true)
    (h : IsActive x.activeRecord c.active) (timeoutMs : UInt32) :
    Copies (c.setState state timeoutMs) x := by
  apply copies_setState
  · rintro rfl
    simp [OrchestratorState.isConfigured] at hstate
  · intro hboot
    cases state <;> simp [OrchestratorState.isConfigured, OrchestratorState.isBoot] at hstate hboot
  · exact fun _ => h

theorem copies_portal (timeoutMs : UInt32) : Copies (c.setState .portalIdle timeoutMs) x := by
  apply copies_setState <;> simp [OrchestratorState.isConfigured, OrchestratorState.isBoot]

theorem copies_enterProvisioning : Copies c.enterProvisioning x := by
  apply meets_enterProvisioning
  · exact copies_portal 0
  · apply copies_setState <;> simp [OrchestratorState.isConfigured, OrchestratorState.isBoot]

theorem copies_failTrial : Copies c.failTrial x := by
  apply meets_bind
  rw [meets_setPortalStatus]
  exact copies_portal 0

theorem copies_startBootAttempt (hstored : c.hasStored = true)
    (h : IsActive x.activeRecord c.stored) : Copies c.startBootAttempt x := by
  apply meets_bind
  rw [meets_connectWifiStation]
  refine ⟨trivial, ?_⟩
  apply copies_setState
  · simp
  · exact fun _ => ⟨hstored, h⟩
  · simp [OrchestratorState.isConfigured]

theorem copies_startStationServices (h : IsActive x.activeRecord c.active) :
    Copies c.startStationServices x :=
  meets_startStationServices fun _ _ => copies_configured rfl h _

theorem copies_leaveProvisioning (h : IsActive x.activeRecord c.active) :
    Copies c.leaveProvisioning x := by
  unfold Core.leaveProvisioning
  dsimp only
  split
  · have hconnected : Settles progress ReplaceAllows
        (fun c p r => CopiesOf c p r ∧ IsActive r c.active)
        (Core.setState { c with trial := noCredentials, failureCount := 0 } .connected 0) x := by
      apply blind_replace.setState trivial
      refine fun deadlineTicks => ⟨⟨rfl, ?_, ?_, ?_, fun _ => h⟩, h⟩
      all_goals simp [OrchestratorState.isBoot]
    apply meets_bind
    refine wp_mono hconnected fun c₁ y h₁ => ?_
    apply meets_bind
    exact wp_guess.mpr ⟨copies_startStationServices h₁.2, h₁.1⟩
  · apply copies_configured rfl
    exact h

theorem CopiesOf.received (h : CopiesOf c x.read x.activeRecord) (message : Message) :
    CopiesOf c (x.read.step (.received message)) x.activeRecord :=
  ⟨h.state, h.trial, h.stored, h.boot, h.active⟩

theorem copies_handleStationConnected (h : CopiesOf c x.read x.activeRecord)
    (hhandling : x.read.handling = some .staConnected) : Copies c.handleStationConnected x := by
  unfold Core.handleStationConnected
  cases hstate : c.state with
  | staAttempt =>
      apply copies_configured rfl
      exact h.stored (by rw [hstate]; rfl) (h.boot (.inl hstate))
  | reconnectWait | reconnectTry =>
      apply copies_configured rfl
      exact h.active (by rw [hstate]; rfl)
  | portalTrial =>
      apply meets_bind
      rw [meets_replaceCredentials]
      refine ⟨⟨h.state.trans hstate, hhandling, h.trial hstate⟩, ?_⟩
      intro isStored activeRecord hstored
      cases isStored with
      | true =>
          apply meets_bind
          rw [meets_setPortalStatus]
          apply copies_configured rfl
          exact hstored rfl
      | false => exact copies_failTrial
  | bootWait | staPause | connected | portalIdle | portalSuccess | portalRetry => exact h

theorem copies_beginReconnectWait (h : IsActive x.activeRecord c.active) :
    Copies c.beginReconnectWait x :=
  copies_configured rfl h _

theorem copies_handleStationDisconnected (h : CopiesOf c x.read x.activeRecord) :
    Copies c.handleStationDisconnected x := by
  unfold Core.handleStationDisconnected
  cases hstate : c.state with
  | connected | reconnectTry =>
      apply copies_beginReconnectWait
      exact h.active (by rw [hstate]; rfl)
  | bootWait | staAttempt | staPause | reconnectWait | portalIdle | portalTrial | portalSuccess
  | portalRetry => exact h

theorem copies_handleMessage (h : CopiesOf c x.read x.activeRecord) (message : Message) :
    Copies (c.handleMessage message) (x.start progress (.received message)) := by
  have h' := h.received message
  cases message with
  | buttonRequest =>
      show Copies (if c.state.isPortalState = true then _ else _) _
      split
      · exact h'
      · exact copies_enterProvisioning
  | staConnected =>
      apply copies_handleStationConnected _ rfl
      exact ⟨h'.state, h'.trial, h'.stored, h'.boot, h'.active⟩
  | staDisconnected =>
      apply copies_handleStationDisconnected
      exact ⟨h'.state, h'.trial, h'.stored, h'.boot, h'.active⟩
  | staGotIp =>
      show Copies (if c.state = .connected then _ else _) _
      split
      · rename_i hstate
        apply copies_startStationServices
        exact h.active (by rw [hstate]; rfl)
      · exact h'
  | credentialsSubmitted credentials =>
      show Copies (if c.state = .portalIdle then _ else _) _
      split
      · apply meets_bind
        rw [meets_connectWifiStation]
        refine ⟨trivial, ?_⟩
        apply copies_setState
        · exact fun _ => rfl
        · simp [OrchestratorState.isBoot]
        · simp [OrchestratorState.isConfigured]
      · exact h'
  | ledTimingSubmitted | pulseResult | pulseReadRequested | updateRequest => exact h'

theorem copies_leaveState (h : CopiesOf c x.read x.activeRecord) : Copies c.leaveState x := by
  unfold Core.leaveState
  cases hstate : c.state with
  | bootWait =>
      show Copies (if c.hasStored = true then _ else _) _
      split
      · rename_i hhas
        exact copies_startBootAttempt hhas (h.stored (by rw [hstate]; rfl) hhas)
      · exact copies_enterProvisioning
  | staAttempt =>
      have hhas := h.boot (.inl hstate)
      show Copies (if c.attemptCount < bootAttemptMax then _ else _) _
      split
      · apply copies_setState
        · simp
        · exact fun _ => ⟨hhas, h.stored (by rw [hstate]; rfl) hhas⟩
        · simp [OrchestratorState.isConfigured]
      · exact copies_enterProvisioning
  | staPause =>
      have hhas := h.boot (.inr hstate)
      exact copies_startBootAttempt hhas (h.stored (by rw [hstate]; rfl) hhas)
  | connected =>
      have hactive := h.active (by rw [hstate]; rfl)
      apply meets_bind
      exact wp_guess.mpr ⟨copies_startStationServices hactive, copies_configured rfl hactive 0⟩
  | reconnectWait =>
      apply meets_bind
      rw [meets_connectWifiStation]
      refine ⟨trivial, ?_⟩
      apply copies_configured rfl
      exact h.active (by rw [hstate]; rfl)
  | reconnectTry =>
      apply copies_beginReconnectWait
      exact h.active (by rw [hstate]; rfl)
  | portalIdle => exact h
  | portalTrial => exact copies_failTrial
  | portalSuccess =>
      apply copies_leaveProvisioning
      exact h.active (by rw [hstate]; rfl)
  | portalRetry => exact copies_enterProvisioning

theorem copiesInvariant (P : System → Event → Prop) :
    CoreInvariant P (LedgerOf progress ReplaceAllows) (ledgerDevice progress)
      (ledgerGuard ReplaceAllows) (fun a y => CopiesOf a.1 y.read y.activeRecord) := by
  apply blind_replace.coreInvariant
  · exact fun c p r h => ⟨h.state, h.trial, h.stored, h.boot, h.active⟩
  · exact fun c p r h => ⟨h.state, h.trial, h.stored, h.boot, h.active⟩
  · intro o s hinitial hstarted
    refine ⟨trivial, fun deadlineTicks => ⟨rfl, ?_, fun _ => hstarted.stored, ?_, ?_⟩⟩
    all_goals simp [OrchestratorState.isConfigured]
  · exact fun c x message h => copies_handleMessage h message
  · exact fun c x h => copies_leaveState h

end Machine

/-! ## Runs -/

/-- The store is only asked for the pair of the submission that started the trial, on a connection
in the trial; and where the device reconnects, it does so with the active record. -/
theorem active_pair_stored {p : Task (Orchestrator × UInt32)} {s : System}
    (hrun : Runs (fun _ _ => True) (p, s)) :
    (∀ pre credentials, pre ++ [.replaced credentials] <+: s.history →
      (progress.run pre).state = .portalTrial ∧
      (progress.run pre).handling = some .staConnected ∧
      (progress.run pre).submission = some credentials) ∧
    ∀ o waitTicks, p = .ret (o, waitTicks) → o.state.isConfigured = true →
      s.activeRecord = some o.active ∧ isCredentialsValid o.active = true := by
  obtain ⟨x, hx, hwp⟩ := (copiesInvariant _).of_run hrun
  refine ⟨fun pre credentials hpre => hx.obeys pre _ hpre, ?_⟩
  rintro o waitTicks rfl hstate
  have hcopies : CopiesOf o.core x.read x.activeRecord := hwp
  rw [← hx.activeRecord]
  exact hcopies.active hstate

theorem active_pair_stored_connected :
    connectedSystem.activeRecord = some connectedOrchestrator.active ∧
      isCredentialsValid connectedOrchestrator.active = true :=
  (active_pair_stored connectedSystem_runs.anyRuns).2 _ _ rfl rfl

end StripTuner.Provisioning
