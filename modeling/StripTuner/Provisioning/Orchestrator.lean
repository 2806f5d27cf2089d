import StripTuner.Provisioning.Components

/-!
# The orchestrator

`provisioning.c`: the state machine of the orchestrator task, which handles one message or one
expired deadline at a time.
-/

namespace StripTuner.Provisioning

open CredentialStore DeviceCalls DeviceCalls.Prog PulseMonitor Ws2812

/-! ## Constants -/

abbrev bootAttemptMax : UInt32 := 5
abbrev attemptTimeoutMs : UInt32 := 10000
abbrev attemptPauseMs : UInt32 := 2000
abbrev bootButtonWindowMs : UInt32 := 1050
abbrev apShutdownDelayMs : UInt32 := 3000
abbrev portalRetryMs : UInt32 := 5000
abbrev mdnsHostnameCheckDelayMs : UInt32 := 3000
abbrev stationServiceRetryMs : UInt32 := 5000
abbrev fwHealthyUptimeMs : UInt32 := 30000
abbrev wifiReconnectDelayMinMs : UInt32 := 1000
abbrev wifiReconnectDelayMaxMs : UInt32 := 60000

/-- `QUEUE_LENGTH`. -/
abbrev queueLength : Nat := 8

/-! ## Messages -/

/-- `message_t`: a message type and the payload that is valid for it. -/
inductive Message where
  | buttonRequest
  | staConnected
  | staDisconnected
  | credentialsSubmitted (credentials : WifiCredentials)
  | ledTimingSubmitted (timing : Ws2812Timing) (submitSeq : UInt32)
  | staGotIp
  | pulseResult (measurement : Ws2812Measurement)
  | pulseReadRequested (submitSeq : UInt32)
  | updateRequest

/-! ## States and deadlines -/

/-- `GetRemainingTicks()`. -/
def getRemainingTicks (deadlineTicks : UInt32) : Task UInt32 := do
  let now ← xTaskGetTickCount
  return if 0 < (deadlineTicks - now).toInt32 then deadlineTicks - now else 0

/-- `SetState()`. -/
def setState (o : Orchestrator) (state : OrchestratorState) (timeoutMs : UInt32) :
    Task Orchestrator := do
  perform (Call.setState state timeoutMs)
  let now ← (perform (Call.deadlineTickCount timeoutMs) : Task UInt32)
  return { o with
    state := state
    hasDeadline := timeoutMs ≠ 0
    deadlineTicks := now + pdMsToTicks timeoutMs }

/-- `NotifyState()`. -/
def notifyState (state : ProvisioningState) : Task Unit := perform (Call.stateCallback state)

/-- `IsPortalState()`. -/
def OrchestratorState.isPortalState : OrchestratorState → Bool
  | .portalIdle | .portalTrial | .portalSuccess | .portalRetry => true
  | _ => false

/-- A cleared `wifi_credentials_t`. -/
def noCredentials : WifiCredentials := ⟨Vector.replicate _ 0, Vector.replicate _ 0⟩

/-- The loop of `GetWifiReconnectDelayMs()`. -/
def doubleDelayMs : Nat → UInt32 → UInt32
  | 0, delayMs => delayMs
  | count + 1, delayMs =>
    if delayMs < wifiReconnectDelayMaxMs then doubleDelayMs count (delayMs * 2) else delayMs

/-- `GetWifiReconnectDelayMs()`. -/
def getWifiReconnectDelayMs (failureCount : UInt32) : UInt32 :=
  let delayMs := doubleDelayMs failureCount.toNat wifiReconnectDelayMinMs
  if delayMs > wifiReconnectDelayMaxMs then wifiReconnectDelayMaxMs else delayMs

/-- `StartBootAttempt()`. -/
def startBootAttempt (o : Orchestrator) : Task Orchestrator := do
  let o := { o with attemptCount := o.attemptCount + 1 }
  let o ← connectWifiStation o o.stored
  setState o .staAttempt attemptTimeoutMs

/-- `BeginReconnectWait()`. -/
def beginReconnectWait (o : Orchestrator) : Task Orchestrator :=
  setState o .reconnectWait (getWifiReconnectDelayMs o.failureCount)

/-! ## Station services -/

/-- `ReportStationServiceStart()`: the new failure count. -/
def reportStationServiceStart (isStarted : Bool) (failureCount : UInt32) : UInt32 :=
  if isStarted then 0 else failureCount + 1

/-- `SetHttpStationIdentity()` with the host name in use and the current address. -/
def refreshIdentity (o : Orchestrator) : Task Unit := do
  let address ← getWifiStationAddress
  setHttpStationIdentity o.hostnameInUse address

/-- The HTTP part of `StartStationServices()`. -/
def startStationHttp (o : Orchestrator) : Task Orchestrator := do
  if o.isHttpUp then
    return o
  else do
    let o := { o with hostnameInUse := mdnsServiceHostname }
    refreshIdentity o
    let (isHttpUp, o) ← startHttpStationServer o
    return { o with
      isHttpUp := isHttpUp
      httpStartFailures := reportStationServiceStart isHttpUp o.httpStartFailures }

/-- The mDNS part of `StartStationServices()`. -/
def startStationMdns (o : Orchestrator) : Task Orchestrator := do
  if o.isMdnsUp then
    return o
  else do
    let (isMdnsUp, o) ← startMdnsService o
    return { o with
      isMdnsUp := isMdnsUp
      mdnsStartFailures := reportStationServiceStart isMdnsUp o.mdnsStartFailures }

/-- `StartStationServices()`. -/
def startStationServices (o : Orchestrator) : Task Orchestrator := do
  let o ← startStationHttp o
  let o ← startStationMdns o
  setState o .connected
    (if o.isHttpUp && o.isMdnsUp then mdnsHostnameCheckDelayMs else stationServiceRetryMs)

/-- `StopStationServices()`. -/
def stopStationServices (o : Orchestrator) : Task Orchestrator := do
  let o ← stopMdnsService o
  let o ← stopHttpPortal o
  return { o with
    isHttpUp := false
    isMdnsUp := false
    httpStartFailures := 0
    mdnsStartFailures := 0 }

/-- `CheckMdnsHostname()`. -/
def checkMdnsHostname (o : Orchestrator) : Task Orchestrator := do
  let name ← logMdnsHostnameInUse
  match name with
  | none => return o
  | some hostnameInUse => do
    let o := { o with hostnameInUse := hostnameInUse }
    refreshIdentity o
    return o

/-- `HandleStationGotIp()`. -/
def handleStationGotIp (o : Orchestrator) : Task Orchestrator := do
  let o := { o with hasIp := true }
  if o.state ≠ .connected then
    return o
  else do
    (if o.isHttpUp then refreshIdentity o else pure ())
    if o.isHttpUp && o.isMdnsUp then setState o .connected mdnsHostnameCheckDelayMs
    else startStationServices o

/-! ## Provisioning mode -/

/-- `StopPortalServices()`. -/
def stopPortalServices (o : Orchestrator) : Task Orchestrator := do
  let o ← stopHttpPortal o
  let o ← stopDnsServer o
  stopWifiAccessPoint
  return o

/-- The starts of `EnterProvisioning()`: each only after the one before. -/
def startPortalServices (o : Orchestrator) : Task (Bool × Orchestrator) := do
  let (isApStarted, o) ← startWifiAccessPoint o
  if isApStarted = false then
    return (false, o)
  else do
    let address ← getWifiAccessPointAddress
    let (isDnsStarted, o) ← startDnsServer o address
    if isDnsStarted = false then return (false, o) else startHttpPortal o

/-- `EnterProvisioning()`. -/
def enterProvisioning (o : Orchestrator) : Task Orchestrator := do
  let o ← stopStationServices o
  let o := { o with hasIp := false }
  disconnectWifiStation o
  let (isStarted, o) ← startPortalServices o
  if isStarted = false then do
    let o ← stopPortalServices o
    setState o .portalRetry portalRetryMs
  else do
    let o ← setState o .portalIdle 0
    notifyState .portal
    return o

/-- `LeaveProvisioning()`. -/
def leaveProvisioning (o : Orchestrator) : Task Orchestrator := do
  let o ← stopPortalServices o
  let o := { o with trial := noCredentials, failureCount := 0 }
  if o.isAssociated then do
    let o ← setState o .connected 0
    notifyState .connected
    if o.hasIp then startStationServices o else return o
  else do
    notifyState .disconnected
    beginReconnectWait o

/-- `FailTrial()`. -/
def failTrial (o : Orchestrator) : Task Orchestrator := do
  disconnectWifiStation o
  let o := { o with trial := noCredentials }
  setHttpPortalStatus .failed
  setState o .portalIdle 0

/-! ## Handling -/

/-- `HandleStationConnected()`. -/
def handleStationConnected (o : Orchestrator) : Task Orchestrator :=
  match o.state with
  | .staAttempt | .reconnectWait | .reconnectTry => do
    let o := if o.state = .staAttempt then { o with active := o.stored } else o
    let o := { o with failureCount := 0 }
    let o ← setState o .connected 0
    notifyState .connected
    return o
  | .portalTrial => do
    let isStored ← (perform (Call.replaceCredentials o.trial) : Task Bool)
    if isStored then do
      let o := { o with active := o.trial }
      setHttpPortalStatus .connected
      setState o .portalSuccess apShutdownDelayMs
    else failTrial o
  | _ => return o

/-- `HandleStationDisconnected()`. -/
def handleStationDisconnected (o : Orchestrator) : Task Orchestrator :=
  match o.state with
  | .connected => do
    let o := { o with failureCount := 0 }
    notifyState .disconnected
    beginReconnectWait o
  | .reconnectTry => beginReconnectWait { o with failureCount := o.failureCount + 1 }
  | _ => return o

/-- `HandleUpdateRequest()` and `RestartIntoUpdater()`. -/
def handleUpdateRequest (o : Orchestrator) : Task Orchestrator := do
  let request ← (perform Call.requestFwUpdate : Task Updater.FwUpdateRequest)
  if request = .failed then
    return o
  else do
    let o ← stopStationServices o
    let o ← stopPortalServices o
    disconnectWifiStation o
    let never ← (perform Call.espRestart : Task Empty)
    nomatch never

/-- `HandleMessage()`. -/
def handleMessage (message : Message) (o : Orchestrator) : Task Orchestrator :=
  match message with
  | .buttonRequest => if o.state.isPortalState then return o else enterProvisioning o
  | .staConnected => handleStationConnected { o with isAssociated := true }
  | .staDisconnected => handleStationDisconnected { o with isAssociated := false, hasIp := false }
  | .staGotIp => handleStationGotIp o
  | .credentialsSubmitted credentials =>
    if o.state = .portalIdle then do
      let o := { o with trial := credentials }
      let o ← connectWifiStation o o.trial
      setState o .portalTrial attemptTimeoutMs
    else return o
  | .ledTimingSubmitted timing submitSeq => do
    perform (Call.applyWs2812Timing timing submitSeq)
    return o
  | .pulseResult measurement => do
    perform (Call.setTunerResult measurement)
    return o
  | .pulseReadRequested submitSeq => do
    perform (Call.armPulseRead submitSeq)
    return o
  | .updateRequest => handleUpdateRequest o

/-- `HandleTimeout()` after its entry. -/
def leaveState (o : Orchestrator) : Task Orchestrator :=
  match o.state with
  | .bootWait =>
    if o.hasStored then do
      notifyState .connecting
      startBootAttempt o
    else enterProvisioning o
  | .staAttempt => do
    disconnectWifiStation o
    if o.attemptCount < bootAttemptMax then setState o .staPause attemptPauseMs
    else enterProvisioning o
  | .staPause => startBootAttempt o
  | .reconnectWait => do
    let o ← connectWifiStation o o.active
    setState o .reconnectTry attemptTimeoutMs
  | .reconnectTry => do
    let o := { o with failureCount := o.failureCount + 1 }
    disconnectWifiStation o
    beginReconnectWait o
  | .portalTrial => failTrial o
  | .portalSuccess => leaveProvisioning o
  | .portalRetry => enterProvisioning o
  | .connected =>
    if !(o.isHttpUp && o.isMdnsUp) && o.hasIp then startStationServices o
    else do
      let o ← setState o .connected 0
      if o.isHttpUp && o.isMdnsUp then checkMdnsHostname o else return o
  | .portalIdle => return o

/-- `HandleTimeout()`. -/
def handleTimeout (o : Orchestrator) : Task Orchestrator := do
  perform Call.handleTimeout
  leaveState o

/-! ## The task -/

/-- `portMAX_DELAY`. -/
abbrev portMaxDelay : UInt32 := 0xFFFFFFFF

/-- `GetWaitTicks()`. -/
def getWaitTicks (o : Orchestrator) : Task UInt32 := do
  perform Call.getWaitTicks
  let waitTicks ←
    (if o.hasDeadline then getRemainingTicks o.deadlineTicks else pure portMaxDelay)
  if o.isHealthyPending then do
    let remaining ← getRemainingTicks o.healthyDeadlineTicks
    if remaining < waitTicks then getRemainingTicks o.healthyDeadlineTicks else return waitTicks
  else return waitTicks

/-- `RunOrchestratorTask()` before its loop. -/
def startOrchestratorTask (o : Orchestrator) : Task Orchestrator :=
  setState o .bootWait bootButtonWindowMs

/-- The healthy deadline. -/
def checkHealthyDeadline (o : Orchestrator) : Task Orchestrator := do
  let remaining ← getRemainingTicks o.healthyDeadlineTicks
  if remaining = 0 then do
    perform Call.markFirmwareHealthy
    return { o with isHealthyPending := false }
  else return o

/-- The deadlines that `RunOrchestratorTask()` checks after a receive that timed out. -/
def checkDeadlines (o : Orchestrator) : Task Orchestrator := do
  let o ← (if o.isHealthyPending then checkHealthyDeadline o else pure o)
  if o.hasDeadline then do
    let remaining ← getRemainingTicks o.deadlineTicks
    if remaining = 0 then handleTimeout o else return o
  else return o

/-- The end of an iteration of the loop: the task waits in `xQueueReceive()`. -/
def waitForMessage (o : Orchestrator) : Task (Orchestrator × UInt32) := do
  let waitTicks ← getWaitTicks o
  return (o, waitTicks)

/-- The static variables when `ProvisioningStart()` has created the task. -/
structure Orchestrator.Started (o : Orchestrator) : Prop where
  state : o.state = .bootWait
  hasDeadline : o.hasDeadline = false
  attemptCount : o.attemptCount = 0
  failureCount : o.failureCount = 0
  isAssociated : o.isAssociated = false
  hasIp : o.hasIp = false
  isHttpUp : o.isHttpUp = false
  isMdnsUp : o.isMdnsUp = false
  isHealthyPending : o.isHealthyPending = true
  isWifiStarted : o.isWifiStarted = false
  hasServer : o.hasServer = false
  profile : o.profile = .none
  hasDnsTask : o.hasDnsTask = false
  isMdnsRunning : o.isMdnsRunning = false

end StripTuner.Provisioning
