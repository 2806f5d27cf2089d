import StripTuner.Provisioning.History

/-!
# The connection policy

When the device connects to a network, and when it enters provisioning mode: at most five attempts
with the stored pair after a start, then the portal; after a first connection, reconnecting with an
exponential delay until the button asks for the portal.
-/

namespace StripTuner.Provisioning

open CredentialStore DeviceCalls DeviceCalls.Sketch

/-! ## What a history says -/

/-- The device is connected: with the configured pair, or with the one of a trial. -/
def OrchestratorState.isConnection : OrchestratorState → Bool
  | .connected | .portalSuccess => true
  | _ => false

/-- Before the first connection and before provisioning mode. -/
def OrchestratorState.isBoot : OrchestratorState → Bool
  | .bootWait | .staAttempt | .staPause => true
  | _ => false

def Message.credentials : Message → Option WifiCredentials
  | .credentialsSubmitted credentials => some credentials
  | _ => none

/-- The state, the message that is handled (none after a timeout), the pair of the submission that
started the last trial, whether a connection was reached and provisioning mode entered, the
connection attempts before either, and the reconnect waits since the last connection. -/
structure Progress where
  state : OrchestratorState
  handling : Option Message
  submission : Option WifiCredentials
  hasConnected : Bool
  hasProvisioned : Bool
  connects : Nat
  waits : Nat

def Progress.step (p : Progress) : Record → Progress
  | .received message => { p with handling := some message }
  | .timedOut => { p with handling := none }
  | .entered state _ => { p with
    state := state
    submission :=
      if state = .portalTrial then p.handling.bind Message.credentials else p.submission
    hasConnected := p.hasConnected || state.isConnection
    hasProvisioned := p.hasProvisioned || state.isPortalState
    waits :=
      if state.isConnection then 0 else if state = .reconnectWait then p.waits + 1 else p.waits }
  | .connected _ => { p with
    connects := if p.hasConnected || p.hasProvisioned then p.connects else p.connects + 1 }
  | _ => p

/-- Reads the records of a run from its start. -/
def progress : Monitor Progress Record where
  init := ⟨.bootWait, none, none, false, false, 0, 0⟩
  step := Progress.step

/-! ## The rule -/

/-- The connections and states that the policy allows. -/
def PolicyAllows (p : Progress) : Record → Prop
  | .connected credentials =>
    (p.hasConnected = false → p.hasProvisioned = false → p.connects < 5) ∧
      (p.state.isPortalState = true → p.handling = some (.credentialsSubmitted credentials))
  | .entered state timeoutMs =>
    (p.hasConnected = true → p.state.isPortalState = false → state.isPortalState = true →
        p.handling = some .buttonRequest) ∧
      (state = .reconnectWait → timeoutMs = getWifiReconnectDelayMs (UInt32.ofNat p.waits))
  | _ => True

theorem blind_policy : Blind progress PolicyAllows :=
  ⟨fun _ _ => ⟨rfl, trivial⟩, fun _ _ _ => ⟨rfl, trivial⟩, fun _ _ => ⟨rfl, trivial⟩,
    fun _ _ => ⟨rfl, trivial⟩, fun _ _ => ⟨rfl, trivial⟩, fun _ _ => trivial, fun _ => trivial⟩

/-- The attempts of a boot that have been made in a state. -/
def BootAttempts (connects : Nat) : OrchestratorState → Prop
  | .bootWait => connects = 0
  | .staAttempt => connects ≤ 5
  | .staPause => connects < 5
  | _ => True

/-- The machine's counters are those of the history. -/
structure Tracks (c : Core) (p : Progress) : Prop where
  state : p.state = c.state
  boot : c.state.isBoot = true → p.hasConnected = false ∧ p.hasProvisioned = false ∧
    c.attemptCount = UInt32.ofNat p.connects
  attempts : BootAttempts p.connects c.state
  later : c.state.isBoot = false → p.hasConnected = true ∨ p.hasProvisioned = true
  connection : c.state.isConnection = true → p.hasConnected = true ∧ p.waits = 0
  reconnecting : c.state = .reconnectWait ∨ c.state = .reconnectTry →
    p.hasConnected = true ∧ c.failureCount + 1 = UInt32.ofNat p.waits

/-! ## The machine complies -/

section Machine

variable {c : Core} {x : Ledger Progress}

abbrev Complies (q : Core.Machine Core) (x : Ledger Progress) : Prop :=
  Settles progress PolicyAllows (fun c p _ => Tracks c p) q x

theorem complies_setState {state : OrchestratorState} {timeoutMs : UInt32}
    (hA : PolicyAllows x.read (.entered state timeoutMs))
    (hI : ∀ deadlineTicks, Tracks { c with
      state := state
      hasDeadline := timeoutMs ≠ 0
      deadlineTicks := deadlineTicks } (x.read.step (.entered state timeoutMs))) :
    Complies (c.setState state timeoutMs) x :=
  blind_policy.setState hA hI

theorem complies_connected (timeoutMs : UInt32) : Complies (c.setState .connected timeoutMs) x := by
  apply complies_setState
  · simp [PolicyAllows, OrchestratorState.isPortalState]
  · intro deadlineTicks
    constructor <;>
      simp [Progress.step, OrchestratorState.isBoot, OrchestratorState.isConnection, BootAttempts]

/-- Provisioning mode is entered on a button request, or without a connection before. -/
theorem complies_portal {state : OrchestratorState} (hportal : state.isPortalState = true)
    (timeoutMs : UInt32) (h : x.read.hasConnected = true → x.read.state.isPortalState = false →
      x.read.handling = some .buttonRequest) : Complies (c.setState state timeoutMs) x := by
  apply complies_setState
  · refine ⟨fun hconnected hstate _ => h hconnected hstate, ?_⟩
    rintro rfl
    simp [OrchestratorState.isPortalState] at hportal
  · intro deadlineTicks
    constructor <;> cases state <;>
      simp_all [Progress.step, OrchestratorState.isBoot, OrchestratorState.isConnection,
        OrchestratorState.isPortalState, BootAttempts]

theorem complies_startBootAttempt (h : Tracks c x.read) (hboot : c.state.isBoot = true)
    (hconnects : x.read.connects < 5) : Complies c.startBootAttempt x := by
  obtain ⟨hconnected, hprovisioned, hcount⟩ := h.boot hboot
  have hportal : x.read.state.isPortalState = false := by
    rw [h.state]
    revert hboot
    cases c.state <;> decide
  apply meets_bind
  rw [meets_connectWifiStation]
  refine ⟨⟨fun _ _ => hconnects, by simp [hportal]⟩, ?_⟩
  apply complies_setState
  · simp [PolicyAllows, OrchestratorState.isPortalState]
  · intro deadlineTicks
    constructor <;>
      simp [progress, Progress.step, hconnected, hprovisioned, hcount, OrchestratorState.isBoot,
        OrchestratorState.isConnection, OrchestratorState.isPortalState, BootAttempts]
    omega

theorem complies_beginReconnectWait (hconnected : x.read.hasConnected = true)
    (hcount : c.failureCount = UInt32.ofNat x.read.waits) : Complies c.beginReconnectWait x := by
  apply complies_setState
  · simp [PolicyAllows, OrchestratorState.isPortalState, hcount]
  · intro deadlineTicks
    constructor <;>
      simp [Progress.step, hconnected, hcount, OrchestratorState.isBoot,
        OrchestratorState.isConnection, BootAttempts]

theorem complies_enterProvisioning (h : x.read.hasConnected = true →
    x.read.state.isPortalState = false → x.read.handling = some .buttonRequest) :
    Complies c.enterProvisioning x :=
  meets_enterProvisioning (complies_portal rfl _ h) (complies_portal rfl _ h)

theorem complies_failTrial (hportal : x.read.state.isPortalState = true) :
    Complies c.failTrial x := by
  apply meets_bind
  rw [meets_setPortalStatus]
  apply complies_portal rfl
  simp [hportal]

theorem complies_leaveProvisioning (h : Tracks c x.read) (hstate : c.state = .portalSuccess) :
    Complies c.leaveProvisioning x := by
  obtain ⟨hconnected, hwaits⟩ := h.connection (by rw [hstate]; rfl)
  unfold Core.leaveProvisioning
  dsimp only
  split
  · apply meets_bind
    refine wp_mono (complies_connected 0) fun c₁ y h₁ => ?_
    apply meets_bind
    exact wp_guess.mpr ⟨meets_startStationServices fun _ _ => complies_connected _, h₁⟩
  · apply complies_beginReconnectWait hconnected
    rw [hwaits]
    rfl

/-- A message that changes no state. -/
theorem Tracks.received (h : Tracks c x.read) (message : Message) :
    Tracks c (x.read.step (.received message)) :=
  ⟨h.state, h.boot, h.attempts, h.later, h.connection, h.reconnecting⟩

theorem complies_handleStationConnected (h : Tracks c x.read) :
    Complies c.handleStationConnected x := by
  unfold Core.handleStationConnected
  cases hstate : c.state with
  | staAttempt | reconnectWait | reconnectTry => exact complies_connected 0
  | portalTrial =>
      have hportal : x.read.state.isPortalState = true := by rw [h.state, hstate]; rfl
      apply meets_bind
      rw [meets_replaceCredentials]
      refine ⟨trivial, fun isStored activeRecord _ => ?_⟩
      cases isStored with
      | true =>
          apply meets_bind
          rw [meets_setPortalStatus]
          apply complies_portal rfl
          simp [progress, Progress.step, hportal]
      | false => exact complies_failTrial hportal
  | bootWait | staPause | connected | portalIdle | portalSuccess | portalRetry => exact h

theorem complies_handleStationDisconnected (h : Tracks c x.read) :
    Complies c.handleStationDisconnected x := by
  unfold Core.handleStationDisconnected
  cases hstate : c.state with
  | connected =>
      obtain ⟨hconnected, hwaits⟩ := h.connection (by rw [hstate]; rfl)
      apply complies_beginReconnectWait hconnected
      rw [hwaits]
      rfl
  | reconnectTry =>
      obtain ⟨hconnected, hcount⟩ := h.reconnecting (.inr hstate)
      exact complies_beginReconnectWait hconnected hcount
  | bootWait | staAttempt | staPause | reconnectWait | portalIdle | portalTrial | portalSuccess
  | portalRetry => exact h

/-- A submission is tried when the portal is idle. -/
theorem complies_trial (h : Tracks c x.read) (hstate : c.state = .portalIdle)
    {credentials : WifiCredentials} (hhandling : x.read.handling =
      some (.credentialsSubmitted credentials)) :
    Complies (do
      Core.connectWifiStation credentials
      Core.setState { c with trial := credentials } .portalTrial attemptTimeoutMs) x := by
  have hportal : x.read.state.isPortalState = true := by rw [h.state, hstate]; rfl
  have hlater := h.later (by rw [hstate]; rfl)
  apply meets_bind
  rw [meets_connectWifiStation]
  refine ⟨⟨fun hconnected hprovisioned => ?_, fun _ => hhandling⟩, ?_⟩
  · simp [hconnected, hprovisioned] at hlater
  · apply complies_portal rfl
    simp [progress, Progress.step, hportal]

theorem complies_handleMessage (h : Tracks c x.read) (message : Message) :
    Complies (c.handleMessage message) (x.start progress (.received message)) := by
  have h' := h.received message
  cases message with
  | buttonRequest =>
      show Complies (if c.state.isPortalState = true then _ else _) _
      split
      · exact h'
      · exact complies_enterProvisioning fun _ _ => rfl
  | staConnected =>
      apply complies_handleStationConnected
      exact ⟨h'.state, h'.boot, h'.attempts, h'.later, h'.connection, h'.reconnecting⟩
  | staDisconnected =>
      apply complies_handleStationDisconnected
      exact ⟨h'.state, h'.boot, h'.attempts, h'.later, h'.connection, h'.reconnecting⟩
  | staGotIp =>
      show Complies (if c.state = .connected then _ else _) _
      split
      · exact meets_startStationServices fun _ _ => complies_connected _
      · exact h'
  | credentialsSubmitted credentials =>
      show Complies (if c.state = .portalIdle then _ else _) _
      split
      · rename_i hstate
        exact complies_trial h' hstate rfl
      · exact h'
  | ledTimingSubmitted | pulseResult | pulseReadRequested | updateRequest => exact h'

/-- After the last attempt the portal is entered. -/
theorem complies_attemptFailed (h : Tracks c x.read) (hstate : c.state = .staAttempt) :
    Complies (if c.attemptCount < bootAttemptMax then c.setState .staPause attemptPauseMs
      else c.enterProvisioning) x := by
  obtain ⟨hconnected, hprovisioned, hcount⟩ := h.boot (by rw [hstate]; rfl)
  have hattempts := h.attempts
  rw [hstate] at hattempts
  have hle : x.read.connects ≤ 5 := hattempts
  split
  · rename_i hmore
    have hlt : x.read.connects < 5 := by
      have hmax : bootAttemptMax.toNat = 5 := by decide
      rw [hcount, UInt32.lt_iff_toNat_lt, UInt32.toNat_ofNat', hmax] at hmore
      omega
    apply complies_setState
    · simp [PolicyAllows, OrchestratorState.isPortalState]
    · intro deadlineTicks
      constructor <;>
        simp [Progress.step, hconnected, hprovisioned, hcount, hlt, OrchestratorState.isBoot,
          OrchestratorState.isConnection, OrchestratorState.isPortalState, BootAttempts]
  · apply complies_enterProvisioning
    simp [hconnected]

theorem complies_reconnect (h : Tracks c x.read) (hstate : c.state = .reconnectWait) :
    Complies (do
      Core.connectWifiStation c.active
      c.setState .reconnectTry attemptTimeoutMs) x := by
  obtain ⟨hconnected, hcount⟩ := h.reconnecting (.inl hstate)
  have hportal : x.read.state.isPortalState = false := by rw [h.state, hstate]; rfl
  apply meets_bind
  rw [meets_connectWifiStation]
  refine ⟨by simp [PolicyAllows, hconnected, hportal], ?_⟩
  apply complies_setState
  · simp [PolicyAllows, OrchestratorState.isPortalState]
  · intro deadlineTicks
    constructor <;>
      simp [progress, Progress.step, hconnected, hcount, OrchestratorState.isBoot,
        OrchestratorState.isConnection, BootAttempts]

theorem complies_leaveState (h : Tracks c x.read) : Complies c.leaveState x := by
  have hattempts := h.attempts
  unfold Core.leaveState
  cases hstate : c.state with
  | bootWait =>
      have hboot : c.state.isBoot = true := by rw [hstate]; rfl
      have hnone : x.read.connects = 0 := by simpa [hstate, BootAttempts] using hattempts
      show Complies (if c.hasStored = true then _ else _) _
      split
      · exact complies_startBootAttempt h hboot (by omega)
      · apply complies_enterProvisioning
        simp [(h.boot hboot).1]
  | staAttempt => exact complies_attemptFailed h hstate
  | staPause =>
      apply complies_startBootAttempt h (by rw [hstate]; rfl)
      simpa [hstate, BootAttempts] using hattempts
  | connected =>
      apply meets_bind
      exact wp_guess.mpr ⟨meets_startStationServices fun _ _ => complies_connected _, complies_connected 0⟩
  | reconnectWait => exact complies_reconnect h hstate
  | reconnectTry =>
      obtain ⟨hconnected, hcount⟩ := h.reconnecting (.inr hstate)
      exact complies_beginReconnectWait hconnected hcount
  | portalIdle => exact h
  | portalTrial => exact complies_failTrial (by rw [h.state, hstate]; rfl)
  | portalSuccess => exact complies_leaveProvisioning h hstate
  | portalRetry =>
      apply complies_enterProvisioning
      simp [h.state, hstate, OrchestratorState.isPortalState]

theorem policyInvariant (P : System → Event → Prop) :
    CoreInvariant P (LedgerOf progress PolicyAllows) (ledgerDevice progress)
      (ledgerGuard PolicyAllows) (fun a y => Tracks a.1 y.read) := by
  apply blind_policy.coreInvariant (I := fun c p _ => Tracks c p)
  · exact fun c p _ h =>
      ⟨h.state, h.boot, h.attempts, h.later, h.connection, h.reconnecting⟩
  · exact fun c p _ h =>
      ⟨h.state, h.boot, h.attempts, h.later, h.connection, h.reconnecting⟩
  · intro o s hinitial hstarted
    refine ⟨by simp [PolicyAllows, OrchestratorState.isPortalState], fun deadlineTicks => ?_⟩
    constructor <;>
      simp [progress, Progress.step, OrchestratorState.isBoot, OrchestratorState.isConnection,
        OrchestratorState.isPortalState, BootAttempts, Orchestrator.core, hstarted.attemptCount]
  · exact fun c x message h => complies_handleMessage h message
  · exact fun c x h => complies_leaveState h

end Machine

/-! ## The delay -/

/-- The loop doubles until the maximum is reached, and never overflows. -/
theorem min_doubleDelayMs (count : Nat) (delayMs : UInt32) (h : delayMs.toNat < 120000) :
    min 60000 (doubleDelayMs count delayMs).toNat = min 60000 (delayMs.toNat * 2 ^ count) := by
  induction count generalizing delayMs with
  | zero => simp [doubleDelayMs]
  | succ count ih =>
      have hmax : wifiReconnectDelayMaxMs.toNat = 60000 := by decide
      unfold doubleDelayMs
      split
      · rename_i hlt
        rw [UInt32.lt_iff_toNat_lt, hmax] at hlt
        have hdouble : (delayMs * 2).toNat = delayMs.toNat * 2 := by
          rw [UInt32.toNat_mul]
          apply Nat.mod_eq_of_lt
          show delayMs.toNat * 2 < 2 ^ 32
          omega
        rw [ih _ (by omega), hdouble, Nat.pow_succ', Nat.mul_assoc]
      · rename_i hge
        rw [UInt32.lt_iff_toNat_lt, hmax] at hge
        have hpow : 1 ≤ 2 ^ (count + 1) := Nat.one_le_two_pow
        have hlarge : delayMs.toNat ≤ delayMs.toNat * 2 ^ (count + 1) := Nat.le_mul_of_pos_right _ hpow
        omega

theorem toNat_getWifiReconnectDelayMs (failureCount : UInt32) :
    (getWifiReconnectDelayMs failureCount).toNat = min 60000 (1000 * 2 ^ failureCount.toNat) := by
  have hmax : wifiReconnectDelayMaxMs.toNat = 60000 := by decide
  have hdouble := min_doubleDelayMs failureCount.toNat wifiReconnectDelayMinMs (by decide)
  rw [show wifiReconnectDelayMinMs.toNat = 1000 by decide] at hdouble
  rw [← hdouble]
  unfold getWifiReconnectDelayMs
  dsimp only
  split
  · rename_i hgt
    rw [gt_iff_lt, UInt32.lt_iff_toNat_lt, hmax] at hgt
    omega
  · rename_i hle
    rw [gt_iff_lt, UInt32.lt_iff_toNat_lt, hmax] at hle
    omega

theorem le_delay_iff (k : Nat) : 60000 ≤ 1000 * 2 ^ k ↔ 6 ≤ k := by
  constructor
  · intro h
    by_contra hlt
    have hpow : 2 ^ k ≤ 2 ^ 5 := Nat.pow_le_pow_right (by decide) (by omega)
    omega
  · intro h
    have hpow : 2 ^ 6 ≤ 2 ^ k := Nat.pow_le_pow_right (by decide) h
    omega

/-- The counter of failed attempts wraps around. -/
theorem reconnectDelay_iff (waits : Nat) :
    (getWifiReconnectDelayMs (UInt32.ofNat waits)).toNat = min 60000 (1000 * 2 ^ waits) ↔
      waits < 2 ^ 32 ∨ 6 ≤ waits % 2 ^ 32 := by
  rw [toNat_getWifiReconnectDelayMs, UInt32.toNat_ofNat']
  rcases Nat.lt_or_ge waits (2 ^ 32) with hlt | hge
  · rw [Nat.mod_eq_of_lt hlt]
    exact iff_of_true rfl (.inl hlt)
  · have hall : 60000 ≤ 1000 * 2 ^ waits := (le_delay_iff waits).mpr (by omega)
    rw [Nat.min_eq_left hall, min_eq_left_iff, le_delay_iff]
    omega

/-! ## Runs -/

/-- At most five attempts before the first connection and provisioning mode; in provisioning mode
only attempts with the submission that is handled; provisioning mode after a connection only on a
button request; and the reconnect waits double up to the maximum, until the counter wraps. -/
theorem connection_policy {p : Task (Orchestrator × UInt32)} {s : System}
    (hrun : Runs (fun _ _ => True) (p, s)) (pre : List Record) :
    (∀ credentials, pre ++ [.connected credentials] <+: s.history →
      ((progress.run pre).hasConnected = false → (progress.run pre).hasProvisioned = false →
        (progress.run pre).connects < 5) ∧
      ((progress.run pre).state.isPortalState = true →
        (progress.run pre).handling = some (.credentialsSubmitted credentials))) ∧
    ∀ state timeoutMs, pre ++ [.entered state timeoutMs] <+: s.history →
      ((progress.run pre).hasConnected = true → (progress.run pre).state.isPortalState = false →
        state.isPortalState = true → (progress.run pre).handling = some .buttonRequest) ∧
      (state = .reconnectWait →
        (timeoutMs.toNat = min 60000 (1000 * 2 ^ (progress.run pre).waits) ↔
          (progress.run pre).waits < 2 ^ 32 ∨ 6 ≤ (progress.run pre).waits % 2 ^ 32)) := by
  obtain ⟨x, hx, -⟩ := (policyInvariant _).of_run hrun
  refine ⟨fun credentials hpre => hx.obeys pre _ hpre, fun state timeoutMs hpre => ?_⟩
  obtain ⟨hportal, hwait⟩ := hx.obeys pre _ hpre
  refine ⟨hportal, fun hstate => ?_⟩
  rw [hwait hstate]
  exact reconnectDelay_iff _

theorem connection_policy_first_attempt :
    (progress.run (connectedSystem.history.take 6)).connects < 5 :=
  ((connection_policy connectedSystem_runs.anyRuns _).1 openNetwork ⟨_, rfl⟩).1 rfl rfl

/-! ## The counter wraps -/

section Rounds

open Prog Relation

theorem getWifiReconnectDelayMs_ne_zero (failureCount : UInt32) :
    getWifiReconnectDelayMs failureCount ≠ 0 := by
  have hdelay := toNat_getWifiReconnectDelayMs failureCount
  have hpow : 1 ≤ 2 ^ failureCount.toNat := Nat.one_le_two_pow
  intro hzero
  rw [hzero, UInt32.toNat_zero] at hdelay
  omega

/-- A reconnect wait after `n` failed attempts, and its record. -/
structure Reconnecting (n : Nat) (o : Orchestrator) (s : System) : Prop where
  state : o.state = .reconnectWait
  failureCount : o.failureCount = UInt32.ofNat n
  isHealthyPending : o.isHealthyPending = false
  hasDeadline : o.hasDeadline = true
  deadlineTicks : ∃ ticks, UInt32.ofNat (s.ticks + ticks) = o.deadlineTicks
  active : isCredentialsValid o.active = true
  isWifiStarted : o.isWifiStarted = true
  wifiMode : s.services.wifiMode = .sta
  queue : s.queue = []
  history : ∃ pre, pre ++ [.entered .reconnectWait (getWifiReconnectDelayMs (UInt32.ofNat n))] <+:
    s.history ∧ (progress.run pre).waits = n
  waits : (progress.run s.history).waits = n + 1

/-- The attempt is made when the wait is over. -/
theorem Reconnecting.attempt {n : Nat} {o : Orchestrator} {s : System} (h : Reconnecting n o s)
    {ticks : Nat} (hticks : UInt32.ofNat (s.ticks + ticks) = o.deadlineTicks) :
    ∃ o' w t, (checkDeadlines o >>= waitForMessage).play succeed
        ({ s with ticks := s.ticks + ticks }.record .timedOut) = some ((o', w), t) ∧
      o'.state = .reconnectTry ∧ o'.failureCount = o.failureCount ∧ o'.isHealthyPending = false ∧
      o'.active = o.active ∧ o'.isWifiStarted = true ∧ t.services.wifiMode = .sta ∧ t.queue = [] ∧
      (progress.run t.history).waits = (progress.run s.history).waits := by
  simp [checkDeadlines, h.isHealthyPending, h.hasDeadline, getRemainingTicks, xTaskGetTickCount,
    succeed, hticks, handleTimeout, leaveState, h.state, connectWifiStation, h.active,
    espWifiGetMode, System.decideTrial, System.record, h.wifiMode, espWifiSetMode, andThen, espWifiSetStaConfig,
    startWifiDriver, h.isWifiStarted, espWifiConnect, setState, System.enterState,
    waitForMessage, getWaitTicks, attemptTimeoutMs, h.queue]
  simp [progress, Monitor.run, Progress.step, OrchestratorState.isConnection]

/-- The wait starts, with the delay of the failures so far. -/
theorem beginReconnectWait_reconnecting {n : Nat} {o : Orchestrator} {s : System}
    (hcount : o.failureCount = UInt32.ofNat n) (hpending : o.isHealthyPending = false)
    (hactive : isCredentialsValid o.active = true) (hstarted : o.isWifiStarted = true)
    (hmode : s.services.wifiMode = .sta) (hqueue : s.queue = [])
    (hwaits : (progress.run s.history).waits = n) :
    ∃ o' w t, (beginReconnectWait o >>= waitForMessage).play succeed s = some ((o', w), t) ∧
      Reconnecting n o' t := by
  have hdelay := getWifiReconnectDelayMs_ne_zero o.failureCount
  simp [beginReconnectWait, setState, succeed, System.enterState, System.record, waitForMessage,
    getWaitTicks, hpending, getRemainingTicks, xTaskGetTickCount, hdelay]
  refine ⟨rfl, hcount, rfl, rfl, ?_, hactive, hstarted, hmode, hqueue, ⟨s.history, ?_, hwaits⟩, ?_⟩
  · exact ⟨(pdMsToTicks (getWifiReconnectDelayMs o.failureCount)).toNat, by simp⟩
  · simp [hcount]
  · simp [← hwaits, progress, Monitor.run, Progress.step, OrchestratorState.isConnection]

/-- A disconnect event is taken from the queue. -/
def afterDisconnect (o : Orchestrator) (s : System) : System :=
  (s.post .staDisconnected).receive o.state .staDisconnected []

/-- The next wait, when the attempt fails. -/
theorem Reconnecting.next {n : Nat} {o : Orchestrator} {w : UInt32} {s : System}
    (h : Reconnecting n o s) (hrun : Runs (fun _ _ => True) (.ret (o, w), s)) :
    ∃ o' w' t, Runs (fun _ _ => True) (.ret (o', w'), t) ∧ Reconnecting (n + 1) o' t := by
  obtain ⟨ticks, hticks⟩ := h.deadlineTicks
  obtain ⟨o₁, w₁, s₁, hplay, hstate, hcount, hpending, hactive, hstarted, hmode, hqueue, hwaits⟩ :=
    h.attempt hticks
  have hpost : (s₁.post .staDisconnected).queue = [.staDisconnected] := by
    simp [System.post, hqueue]
  have hwaits' : (progress.run (afterDisconnect o₁ s₁).history).waits = n + 1 := by
    rw [← h.waits, ← hwaits]
    simp [afterDisconnect, System.receive, progress, Monitor.run, Progress.step]
  obtain ⟨o₂, w₂, s₂, hplay₂, hnext⟩ := beginReconnectWait_reconnecting (n := n + 1)
    (o := { o₁ with isAssociated := false, hasIp := false, failureCount := o₁.failureCount + 1 })
    (s := afterDisconnect o₁ s₁) (by simp [hcount, h.failureCount]) hpending
    (by simpa [hactive] using h.active) hstarted
    (by simp [afterDisconnect, System.post, System.receive, hqueue, hmode]) rfl hwaits'
  have hdisconnect : (handleMessage .staDisconnected o₁ >>= waitForMessage).play succeed
      (afterDisconnect o₁ s₁) = some ((o₂, w₂), s₂) := by
    rw [← hplay₂]
    simp only [handleMessage, handleStationDisconnected, hstate]
  refine ⟨o₂, w₂, s₂, hrun.trans ?_, hnext⟩
  have hattempt : ReflTransGen (SystemStep fun _ _ => True) (.ret (o, w), s) (.ret (o₁, w₁), s₁) :=
    (run_ticks (fun _ => trivial) s ticks rfl).trans
      (run_of_next (.timeout h.queue) (ends_of_play systemDevice_of_succeed hplay))
  have hposted := hattempt.tail (.other ⟨.post .staDisconnected, trivial, .post _ rfl⟩)
  exact hposted.trans
    (run_of_next (.message hpost) (ends_of_play systemDevice_of_succeed hdisconnect))

/-- The first wait: the connection of the stored pair is lost after the healthy deadline. -/
theorem reconnecting_zero :
    ∃ o w s, Runs (fun _ _ => True) (.ret (o, w), s) ∧ Reconnecting 0 o s := by
  obtain ⟨o, w, s, hplay, hstate, hpending, hactive, hstarted, hmode, hqueue, hwaits⟩ :
      ∃ o w s, (checkDeadlines connectedOrchestrator >>= waitForMessage).play succeed
        ({ connectedSystem with ticks := 3000 }.record .timedOut) = some ((o, w), s) ∧
        o.state = .connected ∧ o.isHealthyPending = false ∧ o.active = openNetwork ∧
        o.isWifiStarted = true ∧ s.services.wifiMode = .sta ∧ s.queue = [] ∧
        (progress.run s.history).waits = 0 := by
    simp [checkDeadlines, connectedOrchestrator, attemptOrchestrator, startOrchestrator,
      checkHealthyDeadline, getRemainingTicks, xTaskGetTickCount, succeed, System.record,
      connectedSystem, attemptSystem, startSystem, waitForMessage, getWaitTicks, progress,
      Monitor.run, Progress.step, OrchestratorState.isConnection]
  have hpost : (s.post .staDisconnected).queue = [.staDisconnected] := by
    simp [System.post, hqueue]
  have hwaits' : (progress.run (afterDisconnect o s).history).waits = 0 := by
    rw [← hwaits]
    simp [afterDisconnect, System.receive, progress, Monitor.run, Progress.step]
  obtain ⟨o₁, w₁, s₁, hplay₁, hfirst⟩ := beginReconnectWait_reconnecting (n := 0)
    (o := { o with isAssociated := false, hasIp := false, failureCount := 0 })
    (s := afterDisconnect o s) rfl hpending (by simpa [hactive] using openNetwork_valid) hstarted
    (by simp [afterDisconnect, System.post, System.receive, hqueue, hmode]) rfl hwaits'
  have hdisconnect : (handleMessage .staDisconnected o >>= waitForMessage).play succeed
      (afterDisconnect o s) = some ((o₁, w₁), s₁) := by
    rw [← hplay₁]
    simp [handleMessage, handleStationDisconnected, hstate, notifyState, succeed]
  refine ⟨o₁, w₁, s₁, connectedSystem_runs.anyRuns.trans ?_, hfirst⟩
  have hhealthy : ReflTransGen (SystemStep fun _ _ => True)
      (.ret (connectedOrchestrator, 2895), connectedSystem) (.ret (o, w), s) :=
    (run_ticks (fun _ => trivial) connectedSystem 2895 rfl).trans
      (run_of_next (.timeout rfl) (ends_of_play systemDevice_of_succeed hplay))
  have hposted := hhealthy.tail (.other ⟨.post .staDisconnected, trivial, .post _ rfl⟩)
  exact hposted.trans
    (run_of_next (.message hpost) (ends_of_play systemDevice_of_succeed hdisconnect))

theorem reconnecting_runs (n : Nat) :
    ∃ o w s, Runs (fun _ _ => True) (.ret (o, w), s) ∧ Reconnecting n o s := by
  induction n with
  | zero => exact reconnecting_zero
  | succ n ih =>
      obtain ⟨o, w, s, hrun, h⟩ := ih
      exact h.next hrun

/-- After 2 ^ 32 failed attempts in a row the wait is a second again. -/
theorem reconnect_wait_restarts :
    ∃ (p : Task (Orchestrator × UInt32)) (s : System) (pre : List Record) (timeoutMs : UInt32),
      Runs (fun _ _ => True) (p, s) ∧ pre ++ [.entered .reconnectWait timeoutMs] <+: s.history ∧
      (progress.run pre).waits = 2 ^ 32 ∧ timeoutMs = 1000 ∧
      timeoutMs.toNat ≠ min 60000 (1000 * 2 ^ (progress.run pre).waits) := by
  obtain ⟨o, w, s, hrun, h⟩ := reconnecting_runs (2 ^ 32)
  obtain ⟨pre, hpre, hwaits⟩ := h.history
  refine ⟨_, s, pre, _, hrun, hpre, hwaits, ?_, ?_⟩
  · rw [show UInt32.ofNat (2 ^ 32) = 0 by decide]
    decide
  · rw [hwaits]
    exact fun heq => absurd ((reconnectDelay_iff _).mp heq) (by decide)

end Rounds

end StripTuner.Provisioning
