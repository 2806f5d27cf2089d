import StripTuner.Lib.Refine
import StripTuner.Provisioning.System

/-!
# The state machine of the orchestrator

What the orchestrator decides, without the services it starts: its states, deadlines, counters and
credentials. Whether a service starts is guessed. The orchestrator's functions refine these.
-/

namespace StripTuner.Provisioning

open CredentialStore DeviceCalls DeviceCalls.Prog DeviceCalls.Sketch PulseMonitor Relation Ws2812

/-- The variables that the state machine depends on. -/
structure Core where
  state : OrchestratorState
  hasDeadline : Bool
  deadlineTicks : UInt32
  attemptCount : UInt32
  failureCount : UInt32
  isAssociated : Bool
  hasStored : Bool
  stored : WifiCredentials
  active : WifiCredentials
  trial : WifiCredentials
  isHealthyPending : Bool
  healthyDeadlineTicks : UInt32

def Orchestrator.core (o : Orchestrator) : Core where
  state := o.state
  hasDeadline := o.hasDeadline
  deadlineTicks := o.deadlineTicks
  attemptCount := o.attemptCount
  failureCount := o.failureCount
  isAssociated := o.isAssociated
  hasStored := o.hasStored
  stored := o.stored
  active := o.active
  trial := o.trial
  isHealthyPending := o.isHealthyPending
  healthyDeadlineTicks := o.healthyDeadlineTicks

@[simp] theorem Orchestrator.core_state (o : Orchestrator) : o.core.state = o.state := rfl

/-- A call that the state machine does not depend on. -/
def Call.IsService : Call → Prop
  | .tickCount | .setState _ _ | .deadlineTickCount _ | .handleTimeout | .getWaitTicks
  | .connectWifiStation _ | .setPortalStatus _ | .replaceCredentials _ | .markFirmwareHealthy =>
    False
  | _ => True

namespace Core

/-- A function of the state machine. -/
abbrev Machine : Type → Type := Sketch Call Call.Answer

/-! ## The machine -/

def connectWifiStation (credentials : WifiCredentials) : Machine Unit :=
  ask (Call.connectWifiStation credentials)
def setPortalStatus (status : PortalStatus) : Machine Unit := ask (Call.setPortalStatus status)
def replaceCredentials (credentials : WifiCredentials) : Machine Bool :=
  ask (Call.replaceCredentials credentials)
def markFirmwareHealthy : Machine Unit := ask Call.markFirmwareHealthy
def enterTimeout : Machine Unit := ask Call.handleTimeout
def enterWait : Machine Unit := ask Call.getWaitTicks

def setState (c : Core) (state : OrchestratorState) (timeoutMs : UInt32) : Machine Core := do
  ask (Call.setState state timeoutMs)
  let now ← (ask (Call.deadlineTickCount timeoutMs) : Machine UInt32)
  return { c with
    state := state
    hasDeadline := timeoutMs ≠ 0
    deadlineTicks := now + pdMsToTicks timeoutMs }

def startBootAttempt (c : Core) : Machine Core := do
  connectWifiStation c.stored
  setState { c with attemptCount := c.attemptCount + 1 } .staAttempt attemptTimeoutMs

def beginReconnectWait (c : Core) : Machine Core :=
  setState c .reconnectWait (getWifiReconnectDelayMs c.failureCount)

def startStationServices (c : Core) : Machine Core := do
  let areUp ← guess
  setState c .connected (if areUp then mdnsHostnameCheckDelayMs else stationServiceRetryMs)

/-- The portal status is cleared when the access point and the DNS server run. -/
def startPortalServices : Machine Bool := do
  let areUp ← guess
  if areUp then do
    setPortalStatus .idle
    guess
  else return false

def enterProvisioning (c : Core) : Machine Core := do
  let isStarted ← startPortalServices
  if isStarted then setState c .portalIdle 0 else setState c .portalRetry portalRetryMs

def leaveProvisioning (c : Core) : Machine Core := do
  let c := { c with trial := noCredentials, failureCount := 0 }
  if c.isAssociated then do
    let c ← setState c .connected 0
    let hasIp ← guess
    if hasIp then startStationServices c else return c
  else beginReconnectWait c

def failTrial (c : Core) : Machine Core := do
  setPortalStatus .failed
  setState { c with trial := noCredentials } .portalIdle 0

def handleStationConnected (c : Core) : Machine Core :=
  match c.state with
  | .staAttempt => setState { c with active := c.stored, failureCount := 0 } .connected 0
  | .reconnectWait | .reconnectTry => setState { c with failureCount := 0 } .connected 0
  | .portalTrial => do
    let isStored ← replaceCredentials c.trial
    if isStored then do
      setPortalStatus .connected
      setState { c with active := c.trial } .portalSuccess apShutdownDelayMs
    else failTrial c
  | _ => return c

def handleStationDisconnected (c : Core) : Machine Core :=
  match c.state with
  | .connected => beginReconnectWait { c with failureCount := 0 }
  | .reconnectTry => beginReconnectWait { c with failureCount := c.failureCount + 1 }
  | _ => return c

def handleMessage (c : Core) (message : Message) : Machine Core :=
  match message with
  | .buttonRequest => if c.state.isPortalState then return c else enterProvisioning c
  | .staConnected => handleStationConnected { c with isAssociated := true }
  | .staDisconnected => handleStationDisconnected { c with isAssociated := false }
  | .staGotIp => if c.state = .connected then startStationServices c else return c
  | .credentialsSubmitted credentials =>
    if c.state = .portalIdle then do
      connectWifiStation credentials
      setState { c with trial := credentials } .portalTrial attemptTimeoutMs
    else return c
  | _ => return c

def leaveState (c : Core) : Machine Core :=
  match c.state with
  | .bootWait => if c.hasStored then startBootAttempt c else enterProvisioning c
  | .staAttempt =>
    if c.attemptCount < bootAttemptMax then setState c .staPause attemptPauseMs
    else enterProvisioning c
  | .staPause => startBootAttempt c
  | .reconnectWait => do
    connectWifiStation c.active
    setState c .reconnectTry attemptTimeoutMs
  | .reconnectTry => beginReconnectWait { c with failureCount := c.failureCount + 1 }
  | .portalTrial => failTrial c
  | .portalSuccess => leaveProvisioning c
  | .portalRetry => enterProvisioning c
  | .connected => do
    let isRetry ← guess
    if isRetry then startStationServices c else setState c .connected 0
  | .portalIdle => return c

def handleTimeout (c : Core) : Machine Core := do
  enterTimeout
  leaveState c

def checkHealthyDeadline (c : Core) : Machine Core := do
  let remaining ← ofProg (getRemainingTicks c.healthyDeadlineTicks)
  if remaining = 0 then do
    markFirmwareHealthy
    return { c with isHealthyPending := false }
  else return c

def checkStateDeadline (c : Core) : Machine Core := do
  if c.hasDeadline then do
    let remaining ← ofProg (getRemainingTicks c.deadlineTicks)
    if remaining = 0 then handleTimeout c else return c
  else return c

def checkDeadlines (c : Core) : Machine Core := do
  let c ← (if c.isHealthyPending then checkHealthyDeadline c else pure c)
  checkStateDeadline c

def getWaitTicks (c : Core) : Machine UInt32 := do
  enterWait
  let waitTicks ←
    (if c.hasDeadline then ofProg (getRemainingTicks c.deadlineTicks) else pure portMaxDelay)
  if c.isHealthyPending then do
    let remaining ← ofProg (getRemainingTicks c.healthyDeadlineTicks)
    if remaining < waitTicks then ofProg (getRemainingTicks c.healthyDeadlineTicks)
    else return waitTicks
  else return waitTicks

def waitForMessage (c : Core) : Machine (Core × UInt32) := do
  let waitTicks ← getWaitTicks c
  return (c, waitTicks)

/-! ## Skipped services -/

section Skipped

/-- The function only starts, stops or informs services. -/
abbrev Serves {α : Type} (p : Task α) : Prop := Skips Call.IsService (fun _ => True) p

/-- So does this one, and it keeps the machine's variables. -/
abbrev Keeps (c : Core) (p : Task Orchestrator) : Prop := Skips Call.IsService (·.core = c) p

abbrev KeepsPair (c : Core) (p : Task (Bool × Orchestrator)) : Prop :=
  Skips Call.IsService (·.2.core = c) p

variable {c : Core} {o : Orchestrator}

theorem serves_perform {call : Call} (h : call.IsService) : Serves (perform call) :=
  ⟨h, fun _ => trivial⟩

theorem serves_andThen {err : EspErr} {p : Task EspErr} (hp : Serves p) : Serves (andThen err p) :=
  .ite (fun _ => hp) fun _ => .pure trivial

theorem serves_startWifiDriver (o : Orchestrator) : Serves (startWifiDriver o) :=
  .ite (fun _ => .pure trivial) fun _ => serves_perform trivial

theorem serves_disconnectWifiStation (o : Orchestrator) : Serves (disconnectWifiStation o) :=
  .ite (fun _ => serves_perform trivial) fun _ => .pure trivial

theorem serves_stopWifiAccessPoint : Serves stopWifiAccessPoint :=
  .bind (serves_perform trivial) fun _ _ => .pure trivial

theorem serves_notifyState (state : ProvisioningState) : Serves (notifyState state) :=
  serves_perform trivial

theorem serves_refreshIdentity (o : Orchestrator) : Serves (refreshIdentity o) :=
  .bind (serves_perform trivial) fun _ _ => serves_perform trivial

theorem keeps_startWifiAccessPoint (h : o.core = c) : KeepsPair c (startWifiAccessPoint o) := by
  refine .bind (serves_perform trivial) fun _ _ => ?_
  refine .bind (serves_andThen (serves_perform trivial)) fun _ _ => ?_
  exact .bind (serves_andThen (serves_startWifiDriver o)) fun _ _ => .pure h

theorem serves_waitForDnsTask (deadlineTicks : UInt32) (passes : Nat) :
    Serves (waitForDnsTask deadlineTicks passes) := by
  induction passes with
  | zero => exact .bind (serves_perform trivial) fun never => nomatch never
  | succ passes ih =>
      refine .bind (serves_perform trivial) fun _ _ => .ite (fun _ => .pure trivial) fun _ => ?_
      refine .bind (serves_perform trivial) fun _ _ => .ite (fun _ => ?_) fun _ => .pure trivial
      exact .bind (serves_perform trivial) fun _ _ => ih

theorem keeps_stopDnsServer (h : o.core = c) : Keeps c (stopDnsServer o) := by
  refine .ite (fun _ => .pure h) fun _ => ?_
  refine .bind (serves_perform trivial) fun _ _ => ?_
  refine .bind (serves_perform trivial) fun _ _ => ?_
  refine .bind (serves_perform trivial) fun _ _ => ?_
  refine .bind (serves_waitForDnsTask _ _) fun _ _ => ?_
  refine .bind (serves_perform trivial) fun _ _ => ?_
  exact .bind (.ite (fun _ => serves_perform trivial) fun _ => .pure trivial) fun _ _ => .pure h

theorem keeps_startDnsServer (h : o.core = c) (ipAddr : UInt32) :
    KeepsPair c (startDnsServer o ipAddr) := by
  refine .bind (.ite (fun _ => keeps_stopDnsServer h) fun _ => .pure h) fun o₁ h₁ => ?_
  refine .bind (serves_perform trivial) fun _ _ => ?_
  exact .bind (serves_perform trivial) fun _ _ => .pure h₁

theorem keeps_startMdnsService (h : o.core = c) : KeepsPair c (startMdnsService o) := by
  refine .ite (fun _ => .pure h) fun _ => ?_
  refine .bind (serves_perform trivial) fun _ _ => ?_
  refine .bind (serves_andThen (serves_perform trivial)) fun _ _ => ?_
  refine .bind (serves_andThen (serves_perform trivial)) fun _ _ => ?_
  refine .bind (serves_andThen (serves_perform trivial)) fun _ _ => ?_
  exact .ite (fun _ => .bind (serves_perform trivial) fun _ _ => .pure h) fun _ => .pure h

theorem keeps_stopMdnsService (h : o.core = c) : Keeps c (stopMdnsService o) :=
  .ite (fun _ => .pure h) fun _ => .bind (serves_perform trivial) fun _ _ => .pure h

theorem serves_registerHttpHandlers (handlers : List HttpdUri) :
    Serves (registerHttpHandlers handlers) := by
  induction handlers with
  | nil => exact .pure trivial
  | cons handler rest ih =>
      exact .bind (serves_perform trivial) fun _ _ => .ite (fun _ => .pure trivial) fun _ => ih

theorem keeps_stopHttpPortal (h : o.core = c) : Keeps c (stopHttpPortal o) :=
  .bind (.ite (fun _ => serves_perform trivial) fun _ => .pure trivial) fun _ _ => .pure h

theorem keeps_startHttpStationServer (h : o.core = c) :
    KeepsPair c (startHttpStationServer o) := by
  refine .bind (keeps_stopHttpPortal h) fun o₁ h₁ => ?_
  refine .bind (serves_perform trivial) fun _ _ => ?_
  refine .ite (fun _ => .pure h₁) fun _ => ?_
  refine .bind (serves_registerHttpHandlers _) fun _ _ => ?_
  refine .bind (.ite (fun _ => serves_perform trivial) fun _ => .pure trivial) fun _ _ => ?_
  refine .ite (fun _ => .pure h₁) fun _ => ?_
  exact .bind (keeps_stopHttpPortal h₁) fun o₂ h₂ => .pure h₂

theorem keeps_startStationHttp (h : o.core = c) : Keeps c (startStationHttp o) := by
  refine .ite (fun _ => .pure h) fun _ => ?_
  refine .bind (serves_refreshIdentity _) fun _ _ => ?_
  exact .bind (keeps_startHttpStationServer h) fun _ h₁ => .pure h₁

theorem keeps_startStationMdns (h : o.core = c) : Keeps c (startStationMdns o) := by
  refine .ite (fun _ => .pure h) fun _ => ?_
  exact .bind (keeps_startMdnsService h) fun _ h₁ => .pure h₁

theorem keeps_stopStationServices (h : o.core = c) : Keeps c (stopStationServices o) := by
  refine .bind (keeps_stopMdnsService h) fun o₁ h₁ => ?_
  exact .bind (keeps_stopHttpPortal h₁) fun o₂ h₂ => .pure h₂

theorem keeps_stopPortalServices (h : o.core = c) : Keeps c (stopPortalServices o) := by
  refine .bind (keeps_stopHttpPortal h) fun o₁ h₁ => ?_
  refine .bind (keeps_stopDnsServer h₁) fun o₂ h₂ => ?_
  exact .bind serves_stopWifiAccessPoint fun _ _ => .pure h₂

theorem keeps_checkMdnsHostname (h : o.core = c) : Keeps c (checkMdnsHostname o) := by
  refine .bind (P := fun _ => True) ?_ fun name _ => ?_
  · exact .bind (serves_perform trivial) fun _ _ =>
      .ite (fun _ => .pure trivial) fun _ => .pure trivial
  · cases name with
    | none => exact .pure h
    | some hostnameInUse => exact .bind (serves_refreshIdentity _) fun _ _ => .pure h

end Skipped

/-! ## Refinement -/

section Refinement

/-- The function refines the one of the machine. -/
abbrev Implements (p : Task Orchestrator) (q : Machine Core) : Prop :=
  Refines Call.IsService (fun o c => o.core = c) p q

variable {c : Core} {o : Orchestrator}

theorem refines_setState (h : o.core = c) (state : OrchestratorState) (timeoutMs : UInt32) :
    Implements (Provisioning.setState o state timeoutMs) (setState c state timeoutMs) := by
  subst h
  exact .ask_bind fun _ => .ask_bind fun now => .pure rfl

theorem refines_connectWifiStation {α : Type} {R : α → Core → Prop}
    {f : Orchestrator → Task α} {q : Machine Core} (h : o.core = c)
    (credentials : WifiCredentials)
    (hf : ∀ o, o.core = c → Refines Call.IsService R (f o) q) :
    Refines Call.IsService R (Provisioning.connectWifiStation o credentials >>= f)
      (connectWifiStation credentials >>= fun _ => q) := by
  refine .ask_bind fun _ => .skip_bind (P := (·.core = c)) ?_ hf
  refine .ite (fun _ => .pure h) fun _ => ?_
  refine .bind (serves_perform trivial) fun _ _ => ?_
  refine .bind (.ite (fun _ => .pure trivial) fun _ => serves_perform trivial) fun _ _ => ?_
  refine .bind (serves_andThen (serves_perform trivial)) fun _ _ => ?_
  refine .bind (serves_andThen (serves_startWifiDriver o)) fun _ _ => ?_
  exact .bind (serves_andThen (serves_perform trivial)) fun _ _ => .pure h

theorem refines_startBootAttempt (h : o.core = c) :
    Implements (Provisioning.startBootAttempt o) (startBootAttempt c) := by
  subst h
  refine refines_connectWifiStation rfl _ fun o₁ h₁ => ?_
  exact refines_setState h₁ _ _

theorem refines_beginReconnectWait (h : o.core = c) :
    Implements (Provisioning.beginReconnectWait o) (beginReconnectWait c) := by
  subst h
  exact refines_setState rfl _ _

theorem refines_startStationServices (h : o.core = c) :
    Implements (Provisioning.startStationServices o) (startStationServices c) := by
  refine .skip_bind (keeps_startStationHttp h) fun o₁ h₁ => ?_
  refine .skip_bind (keeps_startStationMdns h₁) fun o₂ h₂ => ?_
  exact .guess_bind (o₂.isHttpUp && o₂.isMdnsUp) (refines_setState h₂ _ _)

/-- The refinement of a function that also says whether it succeeded. -/
abbrev ImplementsPair (c : Core) (p : Task (Bool × Orchestrator)) (q : Machine Bool) : Prop :=
  Refines Call.IsService (fun a b => a.1 = b ∧ a.2.core = c) p q

theorem refines_startHttpPortal (h : o.core = c) :
    ImplementsPair c (startHttpPortal o) (do
      setPortalStatus .idle
      guess) := by
  have hend : ∀ {b : Bool} {o : Orchestrator}, o.core = c →
      ImplementsPair c (pure (b, o)) guess := fun ho => .guess_bind _ (.pure ⟨rfl, ho⟩)
  refine .skip_bind (keeps_stopHttpPortal h) fun o₁ h₁ => ?_
  refine .ask_bind fun _ => ?_
  refine .skip_bind (serves_perform trivial) fun err _ => ?_
  refine .ite_left (hend h₁) ?_
  refine .skip_bind (serves_registerHttpHandlers _) fun isRegistered _ => ?_
  refine .ite_left (hend h₁) ?_
  exact .skip_bind (keeps_stopHttpPortal h₁) fun o₂ h₂ => hend h₂

theorem refines_startPortalServices (h : o.core = c) :
    ImplementsPair c (Provisioning.startPortalServices o) startPortalServices := by
  refine .skip_bind (keeps_startWifiAccessPoint h) fun a h₁ => ?_
  refine .ite_left (.guess_bind false (.pure ⟨rfl, h₁⟩)) ?_
  refine .skip_bind (serves_perform trivial) fun address _ => ?_
  refine .skip_bind (keeps_startDnsServer h₁ address) fun a₂ h₂ => ?_
  refine .ite_left (.guess_bind false (.pure ⟨rfl, h₂⟩)) ?_
  exact .guess_bind true (refines_startHttpPortal h₂)

theorem refines_enterProvisioning (h : o.core = c) :
    Implements (Provisioning.enterProvisioning o) (enterProvisioning c) := by
  refine .skip_bind (keeps_stopStationServices h) fun o₁ h₁ => ?_
  refine .skip_bind (serves_disconnectWifiStation _) fun _ _ => ?_
  refine .bind (refines_startPortalServices h₁) ?_
  rintro ⟨isStarted, o₂⟩ _ ⟨rfl, h₂⟩
  cases isStarted with
  | false =>
      exact .skip_bind (keeps_stopPortalServices h₂) fun o₃ h₃ => refines_setState h₃ _ _
  | true =>
      refine .bind (q := setState c .portalIdle 0) (g := pure) (refines_setState h₂ _ _) ?_
      exact fun o₃ c₃ h₃ => .skip_bind (serves_notifyState _) fun _ _ => .pure h₃

/-- A change of state, after which services are told. -/
theorem refines_setState_then (h : o.core = c) (state : OrchestratorState) (timeoutMs : UInt32)
    {f : Orchestrator → Task Orchestrator} (hf : ∀ o c, o.core = c → Keeps c (f o)) :
    Implements (Provisioning.setState o state timeoutMs >>= f) (setState c state timeoutMs) := by
  refine .bind (q := setState c state timeoutMs) (g := pure) (refines_setState h _ _) ?_
  exact fun o₁ c₁ h₁ => .of_skips (hf o₁ c₁ h₁) fun _ => id

theorem keeps_notify (h : o.core = c) (state : ProvisioningState) :
    Keeps c (notifyState state >>= fun _ => pure o) :=
  .bind (serves_notifyState _) fun _ _ => .pure h

theorem refines_leaveProvisioning (h : o.core = c) :
    Implements (Provisioning.leaveProvisioning o) (leaveProvisioning c) := by
  refine .skip_bind (keeps_stopPortalServices h) fun o₁ h₁ => ?_
  subst h₁
  refine .ite Iff.rfl (fun _ => ?_) fun _ => ?_
  · refine .bind (refines_setState rfl _ _) fun o₂ c₂ h₂ => ?_
    refine .skip_bind (serves_notifyState _) fun _ _ => ?_
    refine .ite_left (.guess_bind true ?_) (.guess_bind false (.pure h₂))
    exact refines_startStationServices h₂
  · exact .skip_bind (serves_notifyState _) fun _ _ => refines_beginReconnectWait rfl

theorem refines_failTrial (h : o.core = c) :
    Implements (Provisioning.failTrial o) (failTrial c) := by
  subst h
  refine .skip_bind (serves_disconnectWifiStation o) fun _ _ => ?_
  exact .ask_bind fun _ => refines_setState rfl _ _

theorem refines_handleStationConnected (h : o.core = c) :
    Implements (Provisioning.handleStationConnected o) (handleStationConnected c) := by
  subst h
  have hconnected : ∀ {o : Orchestrator} {c : Core}, o.core = c →
      Implements (do
        let o ← Provisioning.setState o .connected 0
        notifyState .connected
        return o) (setState c .connected 0) :=
    fun ho => refines_setState_then ho _ _ fun _ _ h => keeps_notify h _
  unfold Provisioning.handleStationConnected handleStationConnected
  simp only [Orchestrator.core]
  cases hstate : o.state with
  | staAttempt =>
      apply hconnected
      simp [Orchestrator.core]
  | reconnectWait | reconnectTry =>
      apply hconnected
      simp [Orchestrator.core, hstate]
  | portalTrial =>
      refine .ask_bind fun isStored => .ite Iff.rfl (fun _ => ?_) fun _ => ?_
      · refine .ask_bind fun _ => refines_setState ?_ _ _
        simp [Orchestrator.core]
      · apply refines_failTrial
        simp [Orchestrator.core, hstate]
  | bootWait | staPause | connected | portalIdle | portalSuccess | portalRetry =>
      apply Refines.pure
      simp [Orchestrator.core, hstate]

theorem refines_handleStationDisconnected (h : o.core = c) :
    Implements (Provisioning.handleStationDisconnected o) (handleStationDisconnected c) := by
  subst h
  unfold Provisioning.handleStationDisconnected handleStationDisconnected
  simp only [Orchestrator.core]
  cases hstate : o.state with
  | connected =>
      refine .skip_bind (serves_notifyState _) fun _ _ => refines_beginReconnectWait ?_
      simp [Orchestrator.core]
  | reconnectTry =>
      apply refines_beginReconnectWait
      simp [Orchestrator.core]
  | bootWait | staAttempt | staPause | reconnectWait | portalIdle | portalTrial | portalSuccess
  | portalRetry =>
      apply Refines.pure
      simp [Orchestrator.core, hstate]

theorem refines_handleStationGotIp (h : o.core = c) :
    Implements (Provisioning.handleStationGotIp o)
      (if c.state = .connected then startStationServices c else return c) := by
  subst h
  show Implements (if o.state ≠ .connected then _ else _) (if o.state = .connected then _ else _)
  by_cases hstate : o.state = .connected
  · rw [if_neg (not_not.mpr hstate), if_pos hstate]
    refine .skip_bind (P := fun _ => True) ?_ fun _ _ => ?_
    · exact .ite (fun _ => serves_refreshIdentity _) fun _ => .pure trivial
    · refine .ite_left (.guess_bind true (refines_setState rfl _ _)) ?_
      exact refines_startStationServices rfl
  · rw [if_pos hstate, if_neg hstate]
    exact .pure rfl

/-- An update request restarts the device, or changes nothing. -/
theorem refines_handleUpdateRequest (h : o.core = c) :
    Implements (handleUpdateRequest o) (return c) := by
  refine .skip_bind (serves_perform trivial) fun request _ => ?_
  refine .ite_left (.pure h) ?_
  refine .skip_bind (keeps_stopStationServices h) fun o₁ h₁ => ?_
  refine .skip_bind (keeps_stopPortalServices h₁) fun o₂ h₂ => ?_
  refine .skip_bind (serves_disconnectWifiStation _) fun _ _ => ?_
  exact .skip_bind (serves_perform trivial) fun never => nomatch never

theorem refines_handleMessage (message : Message) (h : o.core = c) :
    Implements (Provisioning.handleMessage message o) (handleMessage c message) := by
  subst h
  cases message with
  | buttonRequest =>
      exact .ite Iff.rfl (fun _ => .pure rfl) fun _ => refines_enterProvisioning rfl
  | staConnected => exact refines_handleStationConnected rfl
  | staDisconnected => exact refines_handleStationDisconnected rfl
  | staGotIp => exact refines_handleStationGotIp rfl
  | credentialsSubmitted credentials =>
      refine .ite Iff.rfl (fun _ => ?_) fun _ => .pure rfl
      refine refines_connectWifiStation rfl _ fun o₁ h₁ => ?_
      exact refines_setState h₁ _ _
  | ledTimingSubmitted | pulseResult | pulseReadRequested =>
      exact .skip_bind (serves_perform trivial) fun _ _ => .pure rfl
  | updateRequest => exact refines_handleUpdateRequest rfl

theorem refines_leaveState (h : o.core = c) :
    Implements (Provisioning.leaveState o) (leaveState c) := by
  subst h
  unfold Provisioning.leaveState leaveState
  rw [Orchestrator.core_state]
  cases hstate : o.state with
  | bootWait =>
      refine .ite Iff.rfl (fun _ => ?_) fun _ => refines_enterProvisioning rfl
      exact .skip_bind (serves_notifyState _) fun _ _ => refines_startBootAttempt rfl
  | staAttempt =>
      refine .skip_bind (serves_disconnectWifiStation _) fun _ _ => ?_
      exact .ite Iff.rfl (fun _ => refines_setState rfl _ _) fun _ => refines_enterProvisioning rfl
  | staPause => exact refines_startBootAttempt rfl
  | connected =>
      refine .ite_left (.guess_bind true (refines_startStationServices rfl)) ?_
      refine .guess_bind false (refines_setState_then rfl _ _ fun o₁ c₁ h₁ => ?_)
      exact .ite (fun _ => keeps_checkMdnsHostname h₁) fun _ => .pure h₁
  | reconnectWait =>
      refine refines_connectWifiStation rfl _ fun o₁ h₁ => ?_
      exact refines_setState h₁ _ _
  | reconnectTry =>
      refine .skip_bind (serves_disconnectWifiStation _) fun _ _ => refines_beginReconnectWait ?_
      simp [Orchestrator.core, hstate]
  | portalIdle => exact .pure rfl
  | portalTrial => exact refines_failTrial rfl
  | portalSuccess => exact refines_leaveProvisioning rfl
  | portalRetry => exact refines_enterProvisioning rfl

theorem refines_handleTimeout (h : o.core = c) :
    Implements (Provisioning.handleTimeout o) (handleTimeout c) :=
  .ask_bind fun _ => refines_leaveState h

theorem refines_checkDeadlines (h : o.core = c) :
    Implements (Provisioning.checkDeadlines o) (checkDeadlines c) := by
  subst h
  refine .bind (R := fun o c => o.core = c) (.ite Iff.rfl (fun _ => ?_) fun _ => .pure rfl) ?_
  · refine .bind (.ofProg _) fun remaining _ heq => heq ▸ ?_
    exact .ite Iff.rfl (fun _ => .ask_bind fun _ => .pure rfl) fun _ => .pure rfl
  · rintro o₁ _ rfl
    refine .ite Iff.rfl (fun _ => ?_) fun _ => .pure rfl
    refine .bind (.ofProg _) fun remaining _ heq => heq ▸ ?_
    exact .ite Iff.rfl (fun _ => refines_handleTimeout rfl) fun _ => .pure rfl

/-- The refinement of what an iteration returns. -/
abbrev Returns (p : Task (Orchestrator × UInt32)) (q : Machine (Core × UInt32)) : Prop :=
  Refines Call.IsService (fun a b => (a.1.core, a.2) = b) p q

theorem refines_waitForMessage (h : o.core = c) :
    Returns (Provisioning.waitForMessage o) (waitForMessage c) := by
  subst h
  refine .bind (R := Eq) (.ask_bind fun _ => ?_) fun waitTicks _ heq => heq ▸ .pure rfl
  refine .bind (R := Eq) (.ite Iff.rfl (fun _ => .ofProg _) fun _ => .pure rfl) ?_
  rintro waitTicks _ rfl
  refine .ite Iff.rfl (fun _ => ?_) fun _ => .pure rfl
  refine .bind (.ofProg _) fun remaining _ heq => heq ▸ ?_
  exact .ite Iff.rfl (fun _ => .ofProg _) fun _ => .pure rfl

theorem Implements.returns {p : Task Orchestrator} {q : Machine Core} (h : Implements p q) :
    Returns (p >>= Provisioning.waitForMessage) (q >>= waitForMessage) :=
  h.bind fun _ _ => refines_waitForMessage

end Refinement

end Core

/-! ## Runs -/

section Runs

variable {P : System → Event → Prop} {X : Type} {R : System → X → Prop}
  {D : Device Call Call.Answer X} {G : Call → X → Prop} {Q : Core × UInt32 → X → Prop}

/-- What holds between two messages or timeouts, shown for the machine on a smaller device. -/
structure CoreInvariant (P : System → Event → Prop) (R : System → X → Prop)
    (D : Device Call Call.Answer X) (G : Call → X → Prop) (Q : Core × UInt32 → X → Prop) : Prop
    where
  simulates : Simulates systemDevice (OtherStepIn P) R D G
  service : ∀ c : Call, c.IsService → ∀ x, G c x
  quiet : ∀ c : Call, c.IsService → ∀ x r x', D c x r x' → x' = x
  start : ∀ (o : Orchestrator) s, s.Initial → o.StartedIn s → ∃ x, R s x ∧
    (o.core.setState .bootWait bootButtonWindowMs >>= Core.waitForMessage).wp D G Q x
  message : ∀ c waitTicks s x message rest, R s x → Q (c, waitTicks) x →
    s.queue = message :: rest → ∃ x', R (s.receive c.state message rest) x' ∧
      (c.handleMessage message >>= Core.waitForMessage).wp D G Q x'
  timeout : ∀ c waitTicks s x, R s x → Q (c, waitTicks) x → s.queue = [] →
    ∃ x', R (s.record .timedOut) x' ∧ (c.checkDeadlines >>= Core.waitForMessage).wp D G Q x'

theorem CoreInvariant.of_run (h : CoreInvariant P R D G Q)
    {c : Task (Orchestrator × UInt32) × System} (hrun : Runs P c) :
    ∃ x, R c.2 x ∧ c.1.wp D G (fun a x => Q (a.1.core, a.2) x) x := by
  have hrefines : ∀ {p q} {x : X}, Core.Returns p q → q.wp D G Q x →
      p.wp D G (fun a x => Q (a.1.core, a.2) x) x := by
    intro p q x hpq hq
    apply wp_mono (hpq.wp h.service h.quiet hq)
    rintro a y ⟨b, rfl, hb⟩
    exact hb
  obtain ⟨o, s, hinitial, hstarted, hsteps⟩ := hrun
  obtain ⟨x, hx, hstart⟩ := h.start o s hinitial hstarted
  apply h.simulates.wp_of_run ?_ hsteps ⟨x, hx, hrefines (Core.refines_setState rfl _ _).returns hstart⟩
  intro a s x p t hR hQ hreceive
  cases hreceive with
  | message hqueue =>
      obtain ⟨x', hR', hwp⟩ := h.message _ _ s x _ _ hR hQ hqueue
      exact ⟨x', hR', hrefines (Core.refines_handleMessage _ rfl).returns hwp⟩
  | timeout hqueue =>
      obtain ⟨x', hR', hwp⟩ := h.timeout _ _ s x hR hQ hqueue
      exact ⟨x', hR', hrefines (Core.refines_checkDeadlines rfl).returns hwp⟩

end Runs

end StripTuner.Provisioning
