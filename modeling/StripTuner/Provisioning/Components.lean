import StripTuner.CredentialStore.Credentials
import StripTuner.PulseMonitor.Model
import StripTuner.Updater.Boot

/-!
# The services of the orchestrator

The start and stop functions of `wifi_manager.c`, `dns_server.c`, `mdns_service.c` and
`http_portal.c`, which only the orchestrator task calls, over the driver and library calls they
make. The static variables of these components that only that task uses are part of its state.
-/

namespace StripTuner.Provisioning

open CredentialStore DeviceCalls DeviceCalls.Prog PulseMonitor Updater Ws2812

/-! ## Data -/

/-- `wifi_mode_t`. -/
inductive WifiMode where
  | null
  | sta
  | ap
  | apsta
deriving DecidableEq

/-- `http_profile_t`. -/
inductive HttpProfile where
  | none
  | provisioning
  | station
deriving DecidableEq

/-- `portal_status_t`. -/
inductive PortalStatus where
  | idle
  | connecting
  | connected
  | failed
deriving DecidableEq

inductive HttpMethod where
  | get
  | post
  | any
deriving DecidableEq

/-- The request handlers of `http_portal.c`. -/
inductive HttpHandler where
  | handlePageRequest
  | handleScanRequest
  | handleSubmitRequest
  | handleStatusRequest
  | handleTunerPageRequest
  | handleTunerSubmitRequest
  | handleTunerReadRequest
  | handleTunerResultRequest
  | handleRedirectRequest
  | handleStationPageRequest
  | handleStationTunerSubmitRequest
  | handleStationTunerReadRequest
  | handleStationNotFound
deriving DecidableEq

/-- `httpd_uri_t`. -/
structure HttpdUri where
  uri : String
  method : HttpMethod
  handler : HttpHandler
deriving DecidableEq

/-- `orchestrator_state_t`. -/
inductive OrchestratorState where
  | bootWait
  | staAttempt
  | staPause
  | connected
  | reconnectWait
  | reconnectTry
  | portalIdle
  | portalTrial
  | portalSuccess
  | portalRetry
deriving DecidableEq

/-- `provisioning_state_t`. -/
inductive ProvisioningState where
  | connecting
  | connected
  | disconnected
  | portal
deriving DecidableEq

/-- `mdns_hostname_status_t`. -/
inductive MdnsHostnameStatus where
  | default
  | renamed
  | unavailable
deriving DecidableEq

/-- The static variables of `provisioning.c` and of the components it starts. `state` is the copy of
`s_state` that the task itself reads. -/
structure Orchestrator where
  state : OrchestratorState
  hasDeadline : Bool
  deadlineTicks : UInt32
  attemptCount : UInt32
  failureCount : UInt32
  isAssociated : Bool
  hasStored : Bool
  stored : WifiCredentials
  active : WifiCredentials
  trial : WifiCredentials
  hasIp : Bool
  isHttpUp : Bool
  isMdnsUp : Bool
  httpStartFailures : UInt32
  mdnsStartFailures : UInt32
  hostnameInUse : String
  isHealthyPending : Bool
  healthyDeadlineTicks : UInt32
  isWifiStarted : Bool
  hasServer : Bool
  profile : HttpProfile
  hasDnsTask : Bool
  isMdnsRunning : Bool

/-! ## Calls -/

/-- What the orchestrator task calls: drivers, libraries, other tasks' data and other components.
`setState`, `handleTimeout`, `getWaitTicks` and `connectWifiStation` are the entries of these
functions; the first writes `s_state` for the other tasks, the others do nothing.
`deadlineTickCount` is the `xTaskGetTickCount()` of `SetState()`, `dnsStopTickCount` and
`dnsWaitTickCount` are those of `StopDnsServer()`: before its wait, and in it. `dnsWaitPasses` bounds
the passes of that wait, and `keepWaiting` never returns. -/
inductive Call where
  | tickCount
  | setState (state : OrchestratorState) (timeoutMs : UInt32)
  | deadlineTickCount (timeoutMs : UInt32)
  | handleTimeout
  | getWaitTicks
  | connectWifiStation (credentials : WifiCredentials)
  | stateCallback (state : ProvisioningState)
  | setPortalStatus (status : PortalStatus)
  | setStationIdentity (hostnameInUse : String) (stationIpv4 : UInt32)
  | setTunerResult (measurement : Ws2812Measurement)
  | wifiGetMode
  | wifiSetMode (mode : WifiMode)
  | wifiSetApConfig
  | wifiSetStaConfig (credentials : WifiCredentials)
  | wifiStart
  | wifiConnect
  | wifiDisconnect
  | accessPointAddress
  | stationAddress
  | clearDnsStop
  | createDnsTask (ipAddr : UInt32)
  | requestDnsStop
  | dnsStopTickCount
  | dnsWaitPasses
  | keepWaiting
  | isDnsTaskDeleted
  | dnsWaitTickCount (deadlineTicks : UInt32)
  | vTaskDelay (ticks : UInt32)
  | httpdStart (maxUriHandlers : Nat)
  | httpdRegisterUriHandler (handler : HttpdUri)
  | httpdRegisterErrHandler (handler : HttpHandler)
  | httpdStop
  | mdnsInit
  | mdnsHostnameSet (hostname : String)
  | mdnsInstanceNameSet (instanceName : String)
  | mdnsServiceAdd (instanceName service proto : String) (port : UInt16)
  | mdnsFree
  | mdnsHostnameGet
  | replaceCredentials (credentials : WifiCredentials)
  | applyWs2812Timing (timing : Ws2812Timing) (submitSeq : UInt32)
  | armPulseRead (submitSeq : UInt32)
  | requestFwUpdate
  | markFirmwareHealthy
  | espRestart

/-- `esp_wifi_get_mode()` gives the mode, `mdns_hostname_get()` also the name; `esp_restart()` never
returns. -/
abbrev Call.Answer : Call → Type
  | .tickCount | .deadlineTickCount _ | .dnsStopTickCount | .dnsWaitTickCount _
  | .accessPointAddress | .stationAddress => UInt32
  | .wifiGetMode => WifiMode
  | .wifiSetMode _ | .wifiSetApConfig | .wifiSetStaConfig _ | .wifiStart | .wifiConnect
  | .httpdStart _ | .httpdRegisterUriHandler _ | .httpdRegisterErrHandler _ | .mdnsInit
  | .mdnsHostnameSet _ | .mdnsInstanceNameSet _ | .mdnsServiceAdd _ _ _ _ => EspErr
  | .createDnsTask _ | .isDnsTaskDeleted | .replaceCredentials _ => Bool
  | .dnsWaitPasses => Nat
  | .mdnsHostnameGet => EspErr × String
  | .requestFwUpdate => FwUpdateRequest
  | .keepWaiting | .espRestart => Empty
  | _ => Unit

abbrev Task : Type → Type := Prog Call Call.Answer

def xTaskGetTickCount : Task UInt32 := perform Call.tickCount
def espWifiGetMode : Task WifiMode := perform Call.wifiGetMode
def espWifiSetMode (mode : WifiMode) : Task EspErr := perform (Call.wifiSetMode mode)
def espWifiSetApConfig : Task EspErr := perform Call.wifiSetApConfig
def espWifiSetStaConfig (credentials : WifiCredentials) : Task EspErr :=
  perform (Call.wifiSetStaConfig credentials)
def espWifiStart : Task EspErr := perform Call.wifiStart
def espWifiConnect : Task EspErr := perform Call.wifiConnect
def espWifiDisconnect : Task Unit := perform Call.wifiDisconnect
def createDnsTask (ipAddr : UInt32) : Task Bool := perform (Call.createDnsTask ipAddr)
def clearDnsStop : Task Unit := perform Call.clearDnsStop
def requestDnsStop : Task Unit := perform Call.requestDnsStop
def isDnsTaskDeleted : Task Bool := perform Call.isDnsTaskDeleted
def vTaskDelay (ticks : UInt32) : Task Unit := perform (Call.vTaskDelay ticks)
def httpdStart (maxUriHandlers : Nat) : Task EspErr := perform (Call.httpdStart maxUriHandlers)
def httpdRegisterUriHandler (handler : HttpdUri) : Task EspErr :=
  perform (Call.httpdRegisterUriHandler handler)
def httpdRegisterErrHandler (handler : HttpHandler) : Task EspErr :=
  perform (Call.httpdRegisterErrHandler handler)
def httpdStop : Task Unit := perform Call.httpdStop
def mdnsInit : Task EspErr := perform Call.mdnsInit
def mdnsHostnameSet (hostname : String) : Task EspErr := perform (Call.mdnsHostnameSet hostname)
def mdnsInstanceNameSet (instanceName : String) : Task EspErr :=
  perform (Call.mdnsInstanceNameSet instanceName)
def mdnsServiceAdd (instanceName service proto : String) (port : UInt16) : Task EspErr :=
  perform (Call.mdnsServiceAdd instanceName service proto port)
def mdnsFree : Task Unit := perform Call.mdnsFree
def mdnsHostnameGet : Task (EspErr × String) := perform Call.mdnsHostnameGet
def setHttpPortalStatus (status : PortalStatus) : Task Unit := perform (Call.setPortalStatus status)
def setHttpStationIdentity (hostnameInUse : String) (stationIpv4 : UInt32) : Task Unit :=
  perform (Call.setStationIdentity hostnameInUse stationIpv4)
def getWifiAccessPointAddress : Task UInt32 := perform Call.accessPointAddress
def getWifiStationAddress : Task UInt32 := perform Call.stationAddress

/-- `configTICK_RATE_HZ`. -/
abbrev configTickRateHz : UInt32 := 100

/-- `pdMS_TO_TICKS()`. -/
def pdMsToTicks (ms : UInt32) : UInt32 := ms * configTickRateHz / 1000

/-- The next call of a chain of calls, each of which is only made when those before it succeeded. -/
def andThen (err : EspErr) (next : Task EspErr) : Task EspErr :=
  if err = .ok then next else pure err

/-! ## Wi-Fi -/

/-- `s_is_started || esp_wifi_start() == ESP_OK`. -/
def startWifiDriver (o : Orchestrator) : Task EspErr :=
  if o.isWifiStarted then pure .ok else espWifiStart

/-- `StartWifiAccessPoint()`. -/
def startWifiAccessPoint (o : Orchestrator) : Task (Bool × Orchestrator) := do
  let err ← espWifiSetMode .apsta
  let err ← andThen err espWifiSetApConfig
  let err ← andThen err (startWifiDriver o)
  return (err = .ok, { o with isWifiStarted := o.isWifiStarted || err = .ok })

/-- `StopWifiAccessPoint()`; its result is not looked at. -/
def stopWifiAccessPoint : Task Unit := do
  let _ ← espWifiSetMode .sta

/-- `ConnectWifiStation()`; its result is not looked at. -/
def connectWifiStation (o : Orchestrator) (credentials : WifiCredentials) : Task Orchestrator := do
  perform (Call.connectWifiStation credentials)
  if isCredentialsValid credentials = false then
    return o
  else do
    let mode ← espWifiGetMode
    let err ← (if mode = .apsta then pure .ok else espWifiSetMode .sta)
    let err ← andThen err (espWifiSetStaConfig credentials)
    let err ← andThen err (startWifiDriver o)
    let err ← andThen err espWifiConnect
    return { o with isWifiStarted := o.isWifiStarted || err = .ok }

/-- `DisconnectWifiStation()`. -/
def disconnectWifiStation (o : Orchestrator) : Task Unit :=
  if o.isWifiStarted then espWifiDisconnect else pure ()

/-! ## DNS -/

/-- `DNS_STOP_TIMEOUT_MS`. -/
abbrev dnsStopTimeoutMs : UInt32 := 2000

/-- `DNS_IDLE_CLEANUP_MS`. -/
abbrev dnsIdleCleanupMs : UInt32 := 20

/-- The wait of `StopDnsServer()` for its task, in at most so many passes. -/
def waitForDnsTask (deadlineTicks : UInt32) : Nat → Task Unit
  | 0 => do
    let never ← perform Call.keepWaiting
    nomatch never
  | passes + 1 => do
    let isDeleted ← isDnsTaskDeleted
    if isDeleted then
      return ()
    else do
      let now ← perform (Call.dnsWaitTickCount deadlineTicks)
      if now < deadlineTicks then do
        vTaskDelay (pdMsToTicks 20)
        waitForDnsTask deadlineTicks passes
      else
        return ()

/-- `StopDnsServer()`. -/
def stopDnsServer (o : Orchestrator) : Task Orchestrator :=
  if o.hasDnsTask = false then
    return o
  else do
    requestDnsStop
    let now ← perform Call.dnsStopTickCount
    let passes ← perform Call.dnsWaitPasses
    waitForDnsTask (now + pdMsToTicks dnsStopTimeoutMs) passes
    let isDeleted ← isDnsTaskDeleted
    (if isDeleted then vTaskDelay (pdMsToTicks dnsIdleCleanupMs) else pure ())
    return { o with hasDnsTask := false }

/-- `StartDnsServer()`. -/
def startDnsServer (o : Orchestrator) (ipAddr : UInt32) : Task (Bool × Orchestrator) := do
  let o ← (if o.hasDnsTask then stopDnsServer o else pure o)
  clearDnsStop
  let hasDnsTask ← createDnsTask ipAddr
  return (hasDnsTask, { o with hasDnsTask := hasDnsTask })

/-! ## mDNS -/

/-- `MDNS_SERVICE_HOSTNAME`. -/
abbrev mdnsServiceHostname : String := "rgb-tuner"

/-- `MDNS_SERVICE_INSTANCE`. -/
abbrev mdnsServiceInstance : String := "RGB LED Tuner"

/-- `MDNS_SERVICE_PORT`. -/
abbrev mdnsServicePort : UInt16 := 80

/-- `MDNS_SERVICE_HOSTNAME_MAX`. -/
abbrev mdnsServiceHostnameMax : Nat := 64

/-- `ClassifyMdnsHostname()`. -/
def classifyMdnsHostname (hostnameInUse : String) : MdnsHostnameStatus :=
  if hostnameInUse = "" then .unavailable
  else if hostnameInUse = mdnsServiceHostname then .default
  else .renamed

/-- `StartMdnsService()`. -/
def startMdnsService (o : Orchestrator) : Task (Bool × Orchestrator) := do
  if o.isMdnsRunning then
    return (true, o)
  else do
    let err ← mdnsInit
    let err ← andThen err (mdnsHostnameSet mdnsServiceHostname)
    let err ← andThen err (mdnsInstanceNameSet mdnsServiceInstance)
    let err ← andThen err (mdnsServiceAdd mdnsServiceInstance "_http" "_tcp" mdnsServicePort)
    if err ≠ .ok then do
      mdnsFree
      return (false, o)
    else
      return (true, { o with isMdnsRunning := true })

/-- `StopMdnsService()`. -/
def stopMdnsService (o : Orchestrator) : Task Orchestrator :=
  if o.isMdnsRunning = false then
    return o
  else do
    mdnsFree
    return { o with isMdnsRunning := false }

/-- `LogMdnsHostnameInUse()`: the name it stores, or none where it returns false. -/
def logMdnsHostnameInUse : Task (Option String) := do
  let name ← mdnsHostnameGet
  if name.1 ≠ .ok ∨ mdnsServiceHostnameMax ≤ name.2.utf8ByteSize ∨
      classifyMdnsHostname name.2 = .unavailable then
    return none
  else
    return some name.2

/-! ## HTTP -/

/-- `HTTP_PORTAL_MAX_URI_HANDLERS`. -/
abbrev httpPortalMaxUriHandlers : Nat := 20

/-- `HTTP_STATION_MAX_URI_HANDLERS`. -/
abbrev httpStationMaxUriHandlers : Nat := 5

/-- `s_probe_uris`. -/
def probeUris : List String :=
  ["/generate_204", "/gen_204", "/hotspot-detect.html", "/library/test/success.html",
    "/connecttest.txt", "/ncsi.txt", "/redirect", "/canonical.html", "/success.txt",
    "/check_network_status.txt"]

/-- The handlers that `StartHttpPortal()` registers: `s_exact_handlers`, the probes and the
catch-all. -/
def portalHandlers : List HttpdUri :=
  [⟨"/", .get, .handlePageRequest⟩,
    ⟨"/scan", .get, .handleScanRequest⟩,
    ⟨"/submit", .post, .handleSubmitRequest⟩,
    ⟨"/status", .get, .handleStatusRequest⟩,
    ⟨"/tuner", .get, .handleTunerPageRequest⟩,
    ⟨"/tuner", .post, .handleTunerSubmitRequest⟩,
    ⟨"/tuner/read", .post, .handleTunerReadRequest⟩,
    ⟨"/tuner/result", .get, .handleTunerResultRequest⟩] ++
  probeUris.map (fun uri => ⟨uri, .any, .handleRedirectRequest⟩) ++
  [⟨"/*", .any, .handleRedirectRequest⟩]

/-- `s_station_handlers`. -/
def stationHandlers : List HttpdUri :=
  [⟨"/", .get, .handleStationPageRequest⟩,
    ⟨"/tuner", .get, .handleStationPageRequest⟩,
    ⟨"/tuner", .post, .handleStationTunerSubmitRequest⟩,
    ⟨"/tuner/read", .post, .handleStationTunerReadRequest⟩,
    ⟨"/tuner/result", .get, .handleTunerResultRequest⟩]

/-- `StopHttpPortal()`. -/
def stopHttpPortal (o : Orchestrator) : Task Orchestrator := do
  (if o.hasServer then httpdStop else pure ())
  return { o with hasServer := false, profile := .none }

/-- The registrations, up to the first that fails. -/
def registerHttpHandlers : List HttpdUri → Task Bool
  | [] => return true
  | handler :: rest => do
    let err ← httpdRegisterUriHandler handler
    if err ≠ .ok then return false else registerHttpHandlers rest

/-- `StartHttpPortal()`. -/
def startHttpPortal (o : Orchestrator) : Task (Bool × Orchestrator) := do
  let o ← stopHttpPortal o
  setHttpPortalStatus .idle
  let err ← httpdStart httpPortalMaxUriHandlers
  if err ≠ .ok then
    return (false, o)
  else do
    let o := { o with hasServer := true, profile := .provisioning }
    let isRegistered ← registerHttpHandlers portalHandlers
    if isRegistered then
      return (true, o)
    else do
      let o ← stopHttpPortal o
      return (false, o)

/-- `StartHttpStationServer()`. -/
def startHttpStationServer (o : Orchestrator) : Task (Bool × Orchestrator) := do
  let o ← stopHttpPortal o
  let err ← httpdStart httpStationMaxUriHandlers
  if err ≠ .ok then
    return (false, o)
  else do
    let o := { o with hasServer := true, profile := .station }
    let isRegistered ← registerHttpHandlers stationHandlers
    let err ←
      (if isRegistered then httpdRegisterErrHandler .handleStationNotFound else pure .fail)
    if err = .ok then
      return (true, o)
    else do
      let o ← stopHttpPortal o
      return (false, o)

end StripTuner.Provisioning
