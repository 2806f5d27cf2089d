import StripTuner.Lib.Loop
import StripTuner.Provisioning.Orchestrator

/-!
# The orchestrator among the other tasks

The orchestrator task, the queue it reads, the services it starts, and the tasks that post to it:
the Wi-Fi events, the button, the pulse monitor and the HTTP server, whose submit handler reads the
orchestrator's state, posts and writes the portal status one after the other. `RunDnsTask()` opens
its socket, answers queries, and deletes itself when it is asked to stop.
-/

namespace StripTuner.Provisioning

open CredentialStore DeviceCalls DeviceCalls.Prog Relation

/-! ## Services -/

/-- A running HTTP server and what is registered with it. -/
structure HttpServer where
  handlers : List HttpdUri
  notFound : Option HttpHandler
deriving DecidableEq

/-- Where `RunDnsTask()` is: before it listens, in its loop, or deleted. -/
inductive DnsPhase where
  | opening
  | serving
  | deleted
deriving DecidableEq

/-- The DNS task, and `s_is_stop_requested`. -/
structure DnsTask where
  phase : DnsPhase
  isStopRequested : Bool

/-- What runs on the device; `Dns` is what is known of the DNS task. -/
structure Services (Dns : Type) where
  wifiMode : WifiMode
  isWifiStarted : Bool
  httpd : Option HttpServer
  dns : Dns
  mdns : Bool

/-- The DNS task that starts in the memory of a deleted one opens its socket; over a running one it
may be anywhere. -/
def dnsTaskDevice : Device Call Call.Answer DnsTask
  | .clearDnsStop, d, _, e => e = { d with isStopRequested := false }
  | .createDnsTask _, d, isCreated, e =>
    ∃ phase, (isCreated = true → d.phase = .deleted → phase = .opening) ∧
      (isCreated = false → phase = d.phase) ∧ e = { d with phase := phase }
  | .requestDnsStop, d, _, e => e = { d with isStopRequested := true }
  | .isDnsTaskDeleted, d, isDeleted, e => (isDeleted = true ↔ d.phase = .deleted) ∧ e = d
  | _, d, _, e => e = d

/-- A call on the DNS task. -/
def onDns {Dns : Type} (dnsDevice : Device Call Call.Answer Dns) :
    Device Call Call.Answer (Services Dns) := fun c s r t =>
  ∃ dns, dnsDevice c s.dns r dns ∧ t = { s with dns := dns }

/-- A call that starts a service may succeed or fail, and a failed one may leave the Wi-Fi mode and
the mDNS responder in any state. A second HTTP server cannot start on the same port. -/
def serviceDevice {Dns : Type} (dnsDevice : Device Call Call.Answer Dns) :
    Device Call Call.Answer (Services Dns)
  | .wifiGetMode, s, mode, t => mode = s.wifiMode ∧ t = s
  | .wifiSetMode mode, s, err, t =>
    if err = .ok then t = { s with wifiMode := mode } else ∃ left, t = { s with wifiMode := left }
  | .wifiStart, s, err, t => t = if err = .ok then { s with isWifiStarted := true } else s
  | .clearDnsStop, s, r, t => onDns dnsDevice .clearDnsStop s r t
  | .createDnsTask ipAddr, s, isCreated, t => onDns dnsDevice (.createDnsTask ipAddr) s isCreated t
  | .requestDnsStop, s, r, t => onDns dnsDevice .requestDnsStop s r t
  | .isDnsTaskDeleted, s, isDeleted, t => onDns dnsDevice .isDnsTaskDeleted s isDeleted t
  | .dnsWaitTickCount deadlineTicks, s, now, t =>
    onDns dnsDevice (.dnsWaitTickCount deadlineTicks) s now t
  | .httpdStart _, s, err, t =>
    if err = .ok then s.httpd = none ∧ t = { s with httpd := some ⟨[], none⟩ } else t = s
  | .httpdRegisterUriHandler handler, s, err, t =>
    t = if err = .ok then
      { s with httpd := s.httpd.map fun server =>
          { server with handlers := server.handlers ++ [handler] } }
    else s
  | .httpdRegisterErrHandler handler, s, err, t =>
    t = if err = .ok then
      { s with httpd := s.httpd.map fun server => { server with notFound := some handler } }
    else s
  | .httpdStop, s, _, t => t = { s with httpd := none }
  | .mdnsInit, s, err, t =>
    if err = .ok then t = { s with mdns := true } else ∃ left, t = { s with mdns := left }
  | .mdnsFree, s, _, t => t = { s with mdns := false }
  | _, s, _, t => t = s

/-! ## Messages and the submit handler -/

def Message.isSubmission : Message → Bool
  | .credentialsSubmitted _ => true
  | _ => false

/-- The connection event that a message reports. -/
def Message.connectionEvent : Message → Option Bool
  | .staConnected => some true
  | .staDisconnected => some false
  | _ => none

/-- Where `HandleSubmitRequest()` is, once the form is validated. -/
inductive Submitter where
  | idle
  | submitting (credentials : WifiCredentials)
  | accepted (credentials : WifiCredentials)
  | posted
  | responding

/-- Where a submission is that the orchestrator has accepted: taken from the queue in
`STATE_PORTAL_IDLE`, tried in `STATE_PORTAL_TRIAL`, decided by `ReplaceCredentials()` or by a
timeout, or without a trial, once its status is written. -/
inductive TrialPhase where
  | none
  | taken (credentials : WifiCredentials)
  | running (credentials : WifiCredentials)
  | decided (isConnected : Bool)

/-- What the end of a trial makes of its phase. -/
def TrialPhase.decide (isConnected : Bool) : TrialPhase → TrialPhase
  | .running _ => .decided isConnected
  | phase => phase

/-- The text that `HandleStatusRequest()` serves. -/
def PortalStatus.text : PortalStatus → String
  | .connecting => "Connecting..."
  | .connected => "Connected successfully"
  | .failed => "Connection failed"
  | .idle => ""

/-- The text for the outcome of a trial. -/
def outcomeText (isConnected : Bool) : String :=
  if isConnected then "Connected successfully" else "Connection failed"

/-! ## The system -/

/-- What is recorded of a run: `ProvisioningStart()`, the start of an iteration, and the calls that
matter for what the task does over time, with the ticks that they read or happen at. -/
inductive Record where
  | started (ticks : Nat)
  | received (message : Message)
  | timedOut
  | entered (state : OrchestratorState) (timeoutMs : UInt32)
  | armed (timeoutMs : UInt32) (ticks : Nat)
  | handledTimeout (ticks : Nat)
  | waiting (ticks : Nat)
  | connected (credentials : WifiCredentials)
  | replaced (credentials : WifiCredentials)
  | markedHealthy (ticks : Nat)

/-- The data that more than one task uses, the ticks, the active record of the credential store, and
a history: the records of the run, the last connection event, the trial, and whether the last trial
connected, until the next submission or portal start. -/
structure System where
  services : Services DnsTask
  queue : List Message
  state : OrchestratorState
  status : PortalStatus
  submitter : Submitter
  ticks : Nat
  activeRecord : Option WifiCredentials
  history : List Record
  lastEvent : Option Bool
  trial : TrialPhase
  outcome : Option Bool

/-- When the orchestrator task is created. -/
structure System.Initial (s : System) : Prop where
  httpd : s.services.httpd = none
  dnsTask : s.services.dns.phase = .deleted
  mdns : s.services.mdns = false
  queue : s.queue = []
  state : s.state = .bootWait
  status : s.status = .idle
  submitter : s.submitter = .idle
  lastEvent : s.lastEvent = none
  trial : s.trial = .none
  outcome : s.outcome = none

/-- What `ProvisioningStart()` has read: the stored pair, when there is one, and the ticks at its
start, for the healthy deadline. -/
structure Orchestrator.StartedIn (o : Orchestrator) (s : System) : Prop extends o.Started where
  stored : o.hasStored = true → s.activeRecord = some o.stored ∧ isCredentialsValid o.stored = true
  healthyDeadlineTicks : ∃ startTicks ≤ s.ticks, s.history = [.started startTicks] ∧
    o.healthyDeadlineTicks = UInt32.ofNat startTicks + pdMsToTicks fwHealthyUptimeMs

namespace System

/-- `MSG_CREDENTIALS_SUBMITTED` is queued. -/
def hasSubmission (s : System) : Bool := s.queue.any Message.isSubmission

/-- `xQueueSend()` without waiting: a message for a full queue is dropped. -/
def post (s : System) (message : Message) : System :=
  let s := { s with lastEvent := message.connectionEvent.or s.lastEvent }
  if s.queue.length < queueLength then
    { s with
      queue := s.queue ++ [message]
      outcome := if message.isSubmission then none else s.outcome }
  else s

/-- `SetHttpPortalStatus()` from the orchestrator: a portal start, or the end of the trial. -/
def writeStatus (s : System) (status : PortalStatus) : System :=
  { s with
    status := status
    trial := .none
    outcome := if status = .idle then none else s.outcome }

/-- The outcome of a trial is known, from `ReplaceCredentials()` or with its timeout. A submission
that is already queued is the next one. -/
def decideTrial (s : System) (isConnected : Bool) : System :=
  { s with
    trial := s.trial.decide isConnected
    outcome :=
      match s.trial with
      | .running _ => if s.hasSubmission then none else some isConnected
      | _ => s.outcome }

/-- A trial is on its way, or a submission for the next one. -/
def HasPending (s : System) : Prop :=
  s.trial ≠ .none ∨ s.hasSubmission = true ∧ s.state = .portalIdle

/-- `s_state` under its mutex. -/
def enterState (s : System) (state : OrchestratorState) (timeoutMs : UInt32) : System :=
  { s with
    state := state
    history := s.history ++ [.entered state timeoutMs]
    trial :=
      match s.trial with
      | .taken credentials => .running credentials
      | trial => trial }

def record (s : System) (entry : Record) : System := { s with history := s.history ++ [entry] }

/-- The portal's submit handler is registered with the running server. -/
def servesSubmit (s : System) : Prop :=
  ∃ server, s.services.httpd = some server ∧
    ⟨"/submit", .post, .handleSubmitRequest⟩ ∈ server.handlers

/-- A message is taken from the queue in the given state. -/
def receive (s : System) (state : OrchestratorState) (message : Message) (rest : List Message) :
    System :=
  { s with
    queue := rest
    history := s.history ++ [.received message]
    trial :=
      match message with
      | .credentialsSubmitted credentials =>
        if state = .portalIdle then .taken credentials else s.trial
      | _ => s.trial }

end System

/-- What a call of the orchestrator task does to the data it shares. The store holds the pair when
`ReplaceCredentials()` returns true, and anything otherwise. `httpd_stop()` waits for the handler
that is running. -/
def sharedDevice : Device Call Call.Answer System
  | .tickCount, s, now, t => now = UInt32.ofNat s.ticks ∧ t = s
  | .deadlineTickCount timeoutMs, s, now, t =>
    now = UInt32.ofNat s.ticks ∧ t = s.record (.armed timeoutMs s.ticks)
  | .dnsStopTickCount, s, now, t | .dnsWaitTickCount _, s, now, t =>
    now = UInt32.ofNat s.ticks ∧ t = s
  | .handleTimeout, s, _, t => t = (s.decideTrial false).record (.handledTimeout s.ticks)
  | .getWaitTicks, s, _, t => t = s.record (.waiting s.ticks)
  | .setState state timeoutMs, s, _, t => t = s.enterState state timeoutMs
  | .connectWifiStation credentials, s, _, t => t = s.record (.connected credentials)
  | .markFirmwareHealthy, s, _, t => t = s.record (.markedHealthy s.ticks)
  | .setPortalStatus status, s, _, t => t = s.writeStatus status
  | .replaceCredentials credentials, s, isStored, t =>
    ∃ activeRecord, (isStored = true → activeRecord = some credentials ∧
        isCredentialsValid credentials = true) ∧
      t = { (s.decideTrial isStored).record (.replaced credentials) with
        activeRecord := activeRecord }
  | .httpdStop, s, _, t => s.submitter = .idle ∧ t = s
  | _, s, _, t => t = s

/-- A call acts on the services and on the shared data. -/
def systemDevice : Device Call Call.Answer System := fun c s r t =>
  ∃ u, sharedDevice c s r u ∧ serviceDevice dnsTaskDevice c s.services r t.services ∧
    t = { u with services := t.services }

/-- Whenever the wait of `StopDnsServer()` reads the clock, the task is deleted or the deadline is
still to come. -/
def timelyDevice : Device Call Call.Answer System := fun c s r t =>
  systemDevice c s r t ∧ ∀ deadlineTicks, c = .dnsWaitTickCount deadlineTicks →
    s.services.dns.phase = .deleted ∨ UInt32.ofNat s.ticks < deadlineTicks

/-! ## Steps -/

/-- A step of another task, or of time. -/
inductive Event where
  | tick
  | post (message : Message)
  | submit (credentials : WifiCredentials)
  | checkIdle
  | postSubmission
  | writeConnecting
  | respond
  | dnsOpens
  | dnsOpenFails
  | dnsStops

namespace System

def setDnsPhase (s : System) (phase : DnsPhase) : System :=
  { s with services := { s.services with dns := { s.services.dns with phase := phase } } }

def setDnsStop (s : System) (isRequested : Bool) : System :=
  { s with
    services := { s.services with dns := { s.services.dns with isStopRequested := isRequested } } }

end System

/-- Only the submit handler posts credentials; it runs to its end before the next request. The DNS
task ends when it cannot open its socket, and when it finds the stop flag set. -/
inductive OtherStep : System → Event → System → Prop where
  | tick (s : System) : OtherStep s .tick { s with ticks := s.ticks + 1 }
  | post (s : System) {message : Message} (hother : message.isSubmission = false) :
      OtherStep s (.post message) (s.post message)
  | submit {s : System} (hidle : s.submitter = .idle) (hserver : s.servesSubmit)
      (credentials : WifiCredentials) :
      OtherStep s (.submit credentials) { s with submitter := .submitting credentials }
  | checkIdle {s : System} {credentials : WifiCredentials}
      (hsubmitter : s.submitter = .submitting credentials) :
      OtherStep s .checkIdle
        { s with
          submitter := if s.state = .portalIdle then .accepted credentials else .responding }
  | postSubmission {s : System} {credentials : WifiCredentials}
      (hsubmitter : s.submitter = .accepted credentials) :
      OtherStep s .postSubmission
        { s.post (.credentialsSubmitted credentials) with submitter := .posted }
  | writeConnecting {s : System} (hsubmitter : s.submitter = .posted) :
      OtherStep s .writeConnecting { s with status := .connecting, submitter := .responding }
  | respond {s : System} (hsubmitter : s.submitter = .responding) :
      OtherStep s .respond { s with submitter := .idle }
  | dnsOpens {s : System} (hopening : s.services.dns.phase = .opening) :
      OtherStep s .dnsOpens (s.setDnsPhase .serving)
  | dnsOpenFails {s : System} (hopening : s.services.dns.phase = .opening) :
      OtherStep s .dnsOpenFails (s.setDnsPhase .deleted)
  | dnsStops {s : System} (hserving : s.services.dns.phase = .serving)
      (hrequested : s.services.dns.isStopRequested = true) :
      OtherStep s .dnsStops (s.setDnsPhase .deleted)

/-- An iteration of `RunOrchestratorTask()` from its `xQueueReceive()` to the next: a message is
received, or the receive times out while the queue is empty. -/
inductive Receive : Orchestrator × UInt32 → System → Task (Orchestrator × UInt32) → System → Prop
    where
  | message {o : Orchestrator} {waitTicks : UInt32} {s : System} {message : Message}
      {rest : List Message} (hqueue : s.queue = message :: rest) :
      Receive (o, waitTicks) s (handleMessage message o >>= waitForMessage)
        (s.receive o.state message rest)
  | timeout {o : Orchestrator} {waitTicks : UInt32} {s : System} (hqueue : s.queue = []) :
      Receive (o, waitTicks) s (checkDeadlines o >>= waitForMessage) (s.record .timedOut)

/-- A step of another task that meets `P`. -/
def OtherStepIn (P : System → Event → Prop) (s t : System) : Prop :=
  ∃ event, P s event ∧ OtherStep s event t

/-- A step of the orchestrator task on the device, or of another one; steps of others meet `P`. -/
abbrev SystemStepOn (D : Device Call Call.Answer System) (P : System → Event → Prop) :
    Task (Orchestrator × UInt32) × System → Task (Orchestrator × UInt32) × System → Prop :=
  LoopStep D Receive (OtherStepIn P)

abbrev SystemStep : (System → Event → Prop) →
    Task (Orchestrator × UInt32) × System → Task (Orchestrator × UInt32) × System → Prop :=
  SystemStepOn systemDevice

/-- Runs of the orchestrator task, from its start, among steps of other tasks that meet `P`. -/
def RunsOn (D : Device Call Call.Answer System) (P : System → Event → Prop)
    (c : Task (Orchestrator × UInt32) × System) : Prop :=
  ∃ o s, s.Initial ∧ o.StartedIn s ∧
    ReflTransGen (SystemStepOn D P) (startOrchestratorTask o >>= waitForMessage, s) c

abbrev Runs : (System → Event → Prop) → Task (Orchestrator × UInt32) × System → Prop :=
  RunsOn systemDevice

section Runs

variable {D D' : Device Call Call.Answer System} {P P' : System → Event → Prop}
  {c d : Task (Orchestrator × UInt32) × System}

theorem RunsOn.trans (h : RunsOn D P c) (hsteps : ReflTransGen (SystemStepOn D P) c d) :
    RunsOn D P d := by
  obtain ⟨o, s, hinitial, hstarted, hrun⟩ := h
  exact ⟨o, s, hinitial, hstarted, hrun.trans hsteps⟩

theorem RunsOn.mono (h : RunsOn D P c) (hD : ∀ call s r t, D call s r t → D' call s r t)
    (hP : ∀ s event, P s event → P' s event) : RunsOn D' P' c := by
  obtain ⟨o, s, hinitial, hstarted, hrun⟩ := h
  refine ⟨o, s, hinitial, hstarted, ReflTransGen.mono (fun _ _ hstep => ?_) _ _ hrun⟩
  cases hstep with
  | call hd => exact .call (hD _ _ _ _ hd)
  | next hn => exact .next hn
  | other ho =>
      obtain ⟨event, hp, hother⟩ := ho
      exact .other ⟨event, hP _ _ hp, hother⟩

end Runs

/-! ## A start -/

/-- There is room for every message, the submit handler writes its status while a trial is on its
way, and the DNS task gets its socket. -/
def Calm (s : System) : Event → Prop
  | .post _ | .postSubmission => s.queue.length < queueLength
  | .writeConnecting => s.HasPending
  | .dnsOpenFails => False
  | _ => True

/-- Runs in which nothing is lost and the wait for the DNS task ends with the task. -/
abbrev CalmRuns : Task (Orchestrator × UInt32) × System → Prop := RunsOn timelyDevice Calm

theorem RunsOn.runs {P : System → Event → Prop} {c : Task (Orchestrator × UInt32) × System}
    (h : CalmRuns c) (hP : ∀ s event, Calm s event → P s event) : Runs P c :=
  h.mono (fun _ _ _ _ hd => hd.1) hP

theorem RunsOn.anyRuns {c : Task (Orchestrator × UInt32) × System} (h : CalmRuns c) :
    Runs (fun _ _ => True) c :=
  h.runs fun _ _ _ => trivial

/-- Every call succeeds; there is no metadata record to request an update in. -/
def succeed : Script Call Call.Answer System
  | .tickCount, s => some (UInt32.ofNat s.ticks, s)
  | .deadlineTickCount timeoutMs, s =>
    some (UInt32.ofNat s.ticks, s.record (.armed timeoutMs s.ticks))
  | .dnsStopTickCount, s => some (UInt32.ofNat s.ticks, s)
  | .dnsWaitTickCount deadlineTicks, s =>
    if UInt32.ofNat s.ticks < deadlineTicks then some (UInt32.ofNat s.ticks, s) else none
  | .handleTimeout, s => some ((), (s.decideTrial false).record (.handledTimeout s.ticks))
  | .getWaitTicks, s => some ((), s.record (.waiting s.ticks))
  | .setState state timeoutMs, s => some ((), s.enterState state timeoutMs)
  | .connectWifiStation credentials, s => some ((), s.record (.connected credentials))
  | .markFirmwareHealthy, s => some ((), s.record (.markedHealthy s.ticks))
  | .setPortalStatus status, s => some ((), s.writeStatus status)
  | .wifiGetMode, s => some (s.services.wifiMode, s)
  | .wifiSetMode mode, s => some (.ok, { s with services := { s.services with wifiMode := mode } })
  | .wifiStart, s => some (.ok, { s with services := { s.services with isWifiStarted := true } })
  | .wifiSetApConfig, s | .wifiSetStaConfig _, s | .wifiConnect, s => some (.ok, s)
  | .accessPointAddress, s | .stationAddress, s => some (0, s)
  | .clearDnsStop, s => some ((), s.setDnsStop false)
  | .createDnsTask _, s =>
    if s.services.dns.phase = .deleted then some (true, s.setDnsPhase .opening) else none
  | .requestDnsStop, s => some ((), s.setDnsStop true)
  | .dnsWaitPasses, s => some (1, s)
  | .keepWaiting, _ => none
  | .isDnsTaskDeleted, s => some (s.services.dns.phase = .deleted, s)
  | .httpdStart _, s =>
    if s.services.httpd = none then
      some (.ok, { s with services := { s.services with httpd := some ⟨[], none⟩ } })
    else none
  | .httpdRegisterUriHandler handler, s =>
    some (.ok, { s with
      services := { s.services with
        httpd := s.services.httpd.map fun server =>
          { server with handlers := server.handlers ++ [handler] } } })
  | .httpdRegisterErrHandler handler, s =>
    some (.ok, { s with
      services := { s.services with
        httpd := s.services.httpd.map fun server => { server with notFound := some handler } } })
  | .httpdStop, s =>
    match s.submitter with
    | .idle => some ((), { s with services := { s.services with httpd := none } })
    | _ => none
  | .mdnsInit, s => some (.ok, { s with services := { s.services with mdns := true } })
  | .mdnsHostnameSet _, s | .mdnsInstanceNameSet _, s | .mdnsServiceAdd _ _ _ _, s => some (.ok, s)
  | .mdnsFree, s => some ((), { s with services := { s.services with mdns := false } })
  | .mdnsHostnameGet, s => some ((.ok, mdnsServiceHostname), s)
  | .replaceCredentials credentials, s =>
    if isCredentialsValid credentials then
      some (true, { (s.decideTrial true).record (.replaced credentials) with
        activeRecord := some credentials })
    else none
  | .requestFwUpdate, s => some (.failed, s)
  | .espRestart, _ => none
  | .stateCallback _, s | .setStationIdentity _ _, s | .setTunerResult _, s | .wifiDisconnect, s
  | .vTaskDelay _, s | .applyWs2812Timing _ _, s | .armPulseRead _, s => some ((), s)

theorem systemDevice_of_succeed (c : Call) (s : System) (r : c.Answer) (t : System)
    (h : succeed c s = some (r, t)) : systemDevice c s r t := by
  cases c with
  | setState | setPortalStatus | connectWifiStation | markFirmwareHealthy | handleTimeout
  | getWaitTicks =>
      cases h
      exact ⟨_, rfl, rfl, rfl⟩
  | tickCount | deadlineTickCount | dnsStopTickCount =>
      cases h
      exact ⟨_, ⟨rfl, rfl⟩, rfl, rfl⟩
  | wifiGetMode =>
      cases h
      exact ⟨s, rfl, ⟨rfl, rfl⟩, rfl⟩
  | clearDnsStop | requestDnsStop =>
      cases h
      exact ⟨s, rfl, ⟨_, rfl, rfl⟩, rfl⟩
  | isDnsTaskDeleted =>
      cases h
      exact ⟨s, rfl, ⟨_, ⟨decide_eq_true_iff, rfl⟩, rfl⟩, rfl⟩
  | dnsWaitTickCount deadlineTicks =>
      unfold succeed at h
      dsimp only at h
      split at h
      · cases h
        exact ⟨s, ⟨rfl, rfl⟩, ⟨_, rfl, rfl⟩, rfl⟩
      · cases h
  | createDnsTask ipAddr =>
      unfold succeed at h
      dsimp only at h
      split at h
      · cases h
        exact ⟨s, rfl, ⟨_, ⟨.opening, fun _ _ => rfl, (nomatch ·), rfl⟩, rfl⟩, rfl⟩
      · cases h
  | httpdStart =>
      unfold succeed at h
      dsimp only at h
      split at h
      · rename_i hnone
        cases h
        exact ⟨s, rfl, ⟨hnone, rfl⟩, rfl⟩
      · cases h
  | httpdStop =>
      unfold succeed at h
      dsimp only at h
      split at h
      · rename_i hidle
        cases h
        exact ⟨s, ⟨hidle, rfl⟩, rfl, rfl⟩
      · cases h
  | replaceCredentials credentials =>
      unfold succeed at h
      dsimp only at h
      split at h
      · rename_i hvalid
        cases h
        exact ⟨_, ⟨some credentials, fun _ => ⟨rfl, hvalid⟩, rfl⟩, rfl, rfl⟩
      · cases h
  | keepWaiting | espRestart => exact nomatch r
  | _ =>
      cases h
      exact ⟨s, rfl, rfl, rfl⟩

theorem timelyDevice_of_succeed (c : Call) (s : System) (r : c.Answer) (t : System)
    (h : succeed c s = some (r, t)) : timelyDevice c s r t := by
  refine ⟨systemDevice_of_succeed c s r t h, ?_⟩
  rintro deadlineTicks rfl
  unfold succeed at h
  dsimp only at h
  split at h
  · exact .inr ‹_›
  · cases h

/-- Time passes while the task waits. -/
theorem run_ticks {D : Device Call Call.Answer System} {P : System → Event → Prop}
    {o : Orchestrator} {waitTicks : UInt32} (hP : ∀ s, P s .tick) (s : System) (n : Nat)
    {ticks : Nat} (h : s.ticks + n = ticks) : ReflTransGen (SystemStepOn D P)
      (.ret (o, waitTicks), s) (.ret (o, waitTicks), { s with ticks := ticks }) := by
  subst h
  induction n with
  | zero => exact .refl
  | succ n ih => exact ih.tail (.other ⟨.tick, hP _, .tick _⟩)

/-- The variables of a device at its start. -/
def startOrchestrator (hasStored : Bool) (stored : WifiCredentials) : Orchestrator where
  state := .bootWait
  hasDeadline := false
  deadlineTicks := 0
  attemptCount := 0
  failureCount := 0
  isAssociated := false
  hasStored := hasStored
  stored := stored
  active := noCredentials
  trial := noCredentials
  hasIp := false
  isHttpUp := false
  isMdnsUp := false
  httpStartFailures := 0
  mdnsStartFailures := 0
  hostnameInUse := ""
  isHealthyPending := true
  healthyDeadlineTicks := 3000
  isWifiStarted := false
  hasServer := false
  profile := .none
  hasDnsTask := false
  isMdnsRunning := false

def startSystem (activeRecord : Option WifiCredentials) : System where
  services := ⟨.null, false, none, ⟨.deleted, false⟩, false⟩
  queue := []
  state := .bootWait
  status := .idle
  submitter := .idle
  ticks := 0
  activeRecord := activeRecord
  history := [.started 0]
  lastEvent := none
  trial := .none
  outcome := none

theorem startSystem_initial (activeRecord : Option WifiCredentials) :
    (startSystem activeRecord).Initial :=
  ⟨rfl, rfl, rfl, rfl, rfl, rfl, rfl, rfl, rfl, rfl⟩

theorem startOrchestrator_started (hasStored : Bool) (stored : WifiCredentials) :
    (startOrchestrator hasStored stored).Started :=
  ⟨rfl, rfl, rfl, rfl, rfl, rfl, rfl, rfl, rfl, rfl, rfl, rfl, rfl, rfl⟩

/-- Nothing is stored. -/
theorem startOrchestrator_startedIn :
    (startOrchestrator false noCredentials).StartedIn (startSystem none) :=
  ⟨startOrchestrator_started _ _, (nomatch ·), 0, Nat.le_refl 0, rfl, by decide⟩

/-- The task waits for the end of the button window. -/
def waitingOrchestrator (hasStored : Bool) (stored : WifiCredentials) : Orchestrator :=
  { startOrchestrator hasStored stored with hasDeadline := true, deadlineTicks := 105 }

def waitingSystem (activeRecord : Option WifiCredentials) : System :=
  { startSystem activeRecord with
    history := [.started 0, .entered .bootWait bootButtonWindowMs, .armed bootButtonWindowMs 0, .waiting 0] }

/-- The portal of a device with nothing stored is up, after the button window. -/
def portalOrchestrator : Orchestrator :=
  { startOrchestrator false noCredentials with
    state := .portalIdle
    hasDeadline := false
    deadlineTicks := 105
    isWifiStarted := true
    hasServer := true
    profile := .provisioning
    hasDnsTask := true }

/-- The DNS task has not opened its socket yet. -/
def openingSystem : System :=
  { startSystem none with
    services := ⟨.apsta, true, some ⟨portalHandlers, none⟩, ⟨.opening, false⟩, false⟩
    state := .portalIdle
    ticks := 105
    history := [.started 0, .entered .bootWait bootButtonWindowMs, .armed bootButtonWindowMs 0, .waiting 0,
      .timedOut, .handledTimeout 105, .entered .portalIdle 0, .armed 0 105] }

def portalSystem : System := (openingSystem.record (.waiting 105)).setDnsPhase .serving

set_option maxRecDepth 4000 in
theorem openingSystem_runs :
    CalmRuns (.ret (portalOrchestrator, 2895), openingSystem.record (.waiting 105)) := by
  refine ⟨_, _, startSystem_initial none, startOrchestrator_startedIn, ?_⟩
  have hboot : Ends timelyDevice
      (startOrchestratorTask (startOrchestrator false noCredentials) >>= waitForMessage)
      (startSystem none) (waitingOrchestrator false noCredentials, 105) (waitingSystem none) :=
    ends_of_play timelyDevice_of_succeed rfl
  have hportal : Ends timelyDevice (checkDeadlines (waitingOrchestrator false noCredentials))
      ({ waitingSystem none with ticks := 105 }.record .timedOut)
      portalOrchestrator openingSystem :=
    ends_of_play timelyDevice_of_succeed rfl
  have hend : Ends timelyDevice (waitForMessage portalOrchestrator) openingSystem
      (portalOrchestrator, 2895) (openingSystem.record (.waiting 105)) :=
    ends_of_play timelyDevice_of_succeed rfl
  have hwait := hboot.run.trans (run_ticks (P := Calm) (fun _ => trivial) _ 105 (Nat.zero_add 105))
  exact hwait.trans (run_of_next (.timeout rfl) (hportal.bind hend))

theorem portalSystem_runs : CalmRuns (.ret (portalOrchestrator, 2895), portalSystem) :=
  openingSystem_runs.trans (.single (.other ⟨.dnsOpens, trivial, .dnsOpens rfl⟩))

/-! ## A connection -/

/-- An open network named "a". -/
def openNetwork : WifiCredentials := .ofBytes [0x61]

theorem openNetwork_valid : isCredentialsValid openNetwork = true := by decide +kernel

/-- The first attempt with the stored pair. -/
def attemptOrchestrator : Orchestrator :=
  { startOrchestrator true openNetwork with
    state := .staAttempt
    hasDeadline := true
    deadlineTicks := 1105
    attemptCount := 1
    isWifiStarted := true }

def attemptSystem : System :=
  { startSystem (some openNetwork) with
    services := ⟨.sta, true, none, ⟨.deleted, false⟩, false⟩
    state := .staAttempt
    ticks := 105
    history := [.started 0, .entered .bootWait bootButtonWindowMs, .armed bootButtonWindowMs 0, .waiting 0,
      .timedOut, .handledTimeout 105, .connected openNetwork,
      .entered .staAttempt attemptTimeoutMs, .armed attemptTimeoutMs 105, .waiting 105] }

/-- The device is connected to the stored network. -/
def connectedOrchestrator : Orchestrator :=
  { attemptOrchestrator with
    state := .connected
    hasDeadline := false
    deadlineTicks := 105
    isAssociated := true
    active := openNetwork }

def connectedSystem : System :=
  { attemptSystem with
    state := .connected
    history := attemptSystem.history ++
      [.received .staConnected, .entered .connected 0, .armed 0 105, .waiting 105]
    lastEvent := some true }

theorem attemptSystem_ends :
    Ends timelyDevice (checkDeadlines (waitingOrchestrator true openNetwork) >>= waitForMessage)
      ({ waitingSystem (some openNetwork) with ticks := 105 }.record .timedOut)
      (attemptOrchestrator, 1000) attemptSystem := by
  apply ends_of_play timelyDevice_of_succeed
  simp [checkDeadlines, waitingOrchestrator, startOrchestrator, checkHealthyDeadline,
    getRemainingTicks, xTaskGetTickCount, succeed, handleTimeout, leaveState, startBootAttempt,
    connectWifiStation, notifyState, openNetwork_valid, espWifiGetMode, System.record, waitingSystem,
    startSystem, espWifiSetMode, andThen, espWifiSetStaConfig, startWifiDriver, espWifiStart,
    espWifiConnect, setState, System.enterState, waitForMessage, getWaitTicks]
  rfl

theorem connectedSystem_runs :
    CalmRuns (.ret (connectedOrchestrator, 2895), connectedSystem) := by
  have hstarted : (startOrchestrator true openNetwork).StartedIn (startSystem (some openNetwork)) :=
    ⟨startOrchestrator_started _ _, fun _ => ⟨rfl, openNetwork_valid⟩, 0, Nat.le_refl 0, rfl,
      by decide⟩
  refine ⟨_, _, startSystem_initial _, hstarted, ?_⟩
  have hboot : Ends timelyDevice
      (startOrchestratorTask (startOrchestrator true openNetwork) >>= waitForMessage)
      (startSystem (some openNetwork)) (waitingOrchestrator true openNetwork, 105)
      (waitingSystem (some openNetwork)) :=
    ends_of_play timelyDevice_of_succeed rfl
  have hconnected : Ends timelyDevice (handleMessage .staConnected attemptOrchestrator >>= waitForMessage)
      ((attemptSystem.post .staConnected).receive .staAttempt .staConnected [])
      (connectedOrchestrator, 2895) connectedSystem :=
    ends_of_play timelyDevice_of_succeed rfl
  have hwait := hboot.run.trans (run_ticks (P := Calm) (fun _ => trivial) _ 105 (Nat.zero_add 105))
  have hattempt := hwait.trans (run_of_next (.timeout rfl) attemptSystem_ends)
  have hroom : Calm attemptSystem (.post .staConnected) := Nat.zero_lt_succ _
  have hposted := hattempt.tail (.other ⟨.post .staConnected, hroom, .post _ rfl⟩)
  exact hposted.trans (run_of_next (.message rfl) hconnected)

/-! ## Full queues -/

section Queue

variable {o : Orchestrator} {waitTicks : UInt32} {p : Task (Orchestrator × UInt32)}
  {message : Message}

theorem play_getRemainingTicks (deadlineTicks : UInt32) (s : System) :
    (getRemainingTicks deadlineTicks).play succeed s =
      some (if 0 < (deadlineTicks - UInt32.ofNat s.ticks).toInt32 then
        deadlineTicks - UInt32.ofNat s.ticks else 0, s) := by
  simp [getRemainingTicks, xTaskGetTickCount, succeed]

/-- The receive time is only computed. -/
theorem play_waitForMessage (o : Orchestrator) (s : System) :
    ∃ w, (waitForMessage o).play succeed s = some ((o, w), s.record (.waiting s.ticks)) := by
  have hread : ∀ d t, ∃ r, (getRemainingTicks d).play succeed t = some (r, t) :=
    fun d t => ⟨_, play_getRemainingTicks d t⟩
  obtain ⟨remaining, hdeadline⟩ := hread o.deadlineTicks (s.record (.waiting s.ticks))
  obtain ⟨healthyRemaining, hhealthy⟩ :=
    hread o.healthyDeadlineTicks (s.record (.waiting s.ticks))
  unfold waitForMessage getWaitTicks
  cases o.hasDeadline <;> cases o.isHealthyPending <;> simp [succeed, hdeadline, hhealthy]
  all_goals split <;> simp [hhealthy]

theorem play_ignored {s : System} (hignored : (handleMessage message o).play succeed s = some (o, s)) :
    ∃ w, (handleMessage message o >>= waitForMessage).play succeed s =
      some ((o, w), s.record (.waiting s.ticks)) := by
  rw [play_bind, hignored]
  exact play_waitForMessage o s

/-- While there is room, a message of another task is queued. -/
theorem run_posts (message : Message) (hother : message.isSubmission = false)
    (hevent : message.connectionEvent = none) (s : System) (n : Nat) (hroom : s.queue.length + n ≤ queueLength) :
    ReflTransGen (SystemStep fun _ _ => True) (p, s)
      (p, { s with queue := s.queue ++ List.replicate n message }) := by
  induction n with
  | zero =>
      simp only [List.replicate_zero, List.append_nil]
      exact .refl
  | succ n ih =>
      refine (ih (by omega)).tail (.other ⟨.post message, trivial, ?_⟩)
      have hpost : { s with queue := s.queue ++ List.replicate (n + 1) message } =
          { s with queue := s.queue ++ List.replicate n message }.post message := by
        simp [System.post, hevent, hother, List.replicate_succ']
        omega
      rw [hpost]
      exact .post _ hother

theorem receive_of_other (hother : message.isSubmission = false) (s : System)
    (state : OrchestratorState) (rest : List Message) :
    s.receive state message rest =
      { s with queue := rest, history := s.history ++ [.received message] } := by
  cases message <;> first | rfl | simp [Message.isSubmission] at hother

/-- Messages that the orchestrator ignores. -/
theorem run_ignored (hother : message.isSubmission = false)
    (hignored : ∀ s, (handleMessage message o).play succeed s = some (o, s)) (s : System) (n : Nat)
    (hqueue : s.queue = List.replicate n message) :
    ∃ w history, ReflTransGen (SystemStep fun _ _ => True) (.ret (o, waitTicks), s)
      (.ret (o, w), { s with queue := [], history := history }) := by
  induction n generalizing s waitTicks with
  | zero =>
      refine ⟨waitTicks, s.history, ?_⟩
      rw [show { s with queue := [] } = s by rw [← show s.queue = [] from hqueue]]
  | succ n ih =>
      rw [List.replicate_succ] at hqueue
      let t := s.receive o.state message (List.replicate n message)
      obtain ⟨w, hplay⟩ := play_ignored (hignored t)
      obtain ⟨w', history, hrest⟩ := ih (t.record (.waiting t.ticks)) rfl
      refine ⟨w', history, ?_⟩
      simp only [t, receive_of_other hother] at hplay hrest
      refine .trans (run_of_next (.message hqueue) ?_) hrest
      rw [receive_of_other hother]
      exact ends_of_play systemDevice_of_succeed hplay

end Queue

/-! ## A trial -/

section Trial

/-- The portal waits for a submission, after the healthy deadline. -/
def idleOrchestrator : Orchestrator := { portalOrchestrator with isHealthyPending := false }

def idleSystem (ticks : Nat) (history : List Record) : System :=
  { portalSystem with ticks := ticks, history := history }

/-- A submission is tried. -/
def trialOrchestrator (ticks : Nat) : Orchestrator :=
  { idleOrchestrator with
    state := .portalTrial
    hasDeadline := true
    deadlineTicks := UInt32.ofNat ticks + pdMsToTicks attemptTimeoutMs
    trial := openNetwork }

def trialSystem (ticks : Nat) (history : List Record) : System :=
  { idleSystem ticks history with
    state := .portalTrial
    status := .connecting
    trial := .running openNetwork }

/-- It has connected, and its pair is stored. -/
def successOrchestrator (ticks : Nat) : Orchestrator :=
  { trialOrchestrator ticks with
    state := .portalSuccess
    deadlineTicks := UInt32.ofNat ticks + pdMsToTicks apShutdownDelayMs
    isAssociated := true
    active := openNetwork }

def successSystem (ticks : Nat) (history : List Record) : System :=
  { idleSystem ticks history with
    state := .portalSuccess
    status := .connected
    activeRecord := some openNetwork
    lastEvent := some true
    outcome := some true }

variable (ticks : Nat) (history : List Record)

theorem play_connectWifiStation {o : Orchestrator} {s : System} (hstarted : o.isWifiStarted = true)
    (hmode : s.services.wifiMode = .apsta) :
    (connectWifiStation o openNetwork).play succeed s =
      some (o, s.record (.connected openNetwork)) := by
  have ho : { o with isWifiStarted := true } = o := by rw [← hstarted]
  simp [connectWifiStation, succeed, openNetwork_valid, espWifiGetMode, System.record, hmode, andThen,
    espWifiSetStaConfig, startWifiDriver, espWifiConnect, hstarted, ho]

/-- The firmware has run long enough to be marked healthy, and more time passes. -/
theorem run_healthy {ticks : Nat} (h : 3000 ≤ ticks) : ∃ waitTicks history,
    CalmRuns (.ret (idleOrchestrator, waitTicks), idleSystem ticks history) := by
  let s := { portalSystem with ticks := 3000 }.record .timedOut
  have hread : (getRemainingTicks 3000).play succeed s = some (0, s) := by
    rw [play_getRemainingTicks, show UInt32.ofNat s.ticks = 3000 from rfl, UInt32.sub_self]
    rfl
  have hmark : (checkDeadlines portalOrchestrator).play succeed s =
      some (idleOrchestrator, s.record (.markedHealthy 3000)) := by
    show (do
      let o ← checkHealthyDeadline portalOrchestrator
      if o.hasDeadline then do
        let remaining ← getRemainingTicks o.deadlineTicks
        if remaining = 0 then handleTimeout o else return o
      else return o).play succeed s = _
    rw [play_bind, checkHealthyDeadline, play_bind, show portalOrchestrator.healthyDeadlineTicks = 3000 from rfl, hread]
    rfl
  obtain ⟨waitTicks, hwait⟩ := play_waitForMessage idleOrchestrator (s.record (.markedHealthy 3000))
  have hends := (ends_of_play timelyDevice_of_succeed hmark).bind
    (ends_of_play timelyDevice_of_succeed hwait)
  have hticks : ∀ s, Calm s .tick := fun _ => trivial
  have hmarked := (portalSystem_runs.trans (run_ticks hticks _ 2895 rfl)).trans
    (run_of_next (.timeout rfl) hends)
  exact ⟨waitTicks, _, hmarked.trans (run_ticks hticks _ (ticks - 3000) (Nat.add_sub_cancel' h))⟩

/-- The form is submitted, and the page is told to wait. -/
theorem run_submission {waitTicks : UInt32} : ReflTransGen (SystemStepOn timelyDevice Calm)
    (.ret (idleOrchestrator, waitTicks), idleSystem ticks history)
    (.ret (idleOrchestrator, waitTicks),
      { idleSystem ticks history with
        queue := [.credentialsSubmitted openNetwork]
        status := .connecting }) := by
  have hserver : ⟨"/submit", .post, .handleSubmitRequest⟩ ∈ portalHandlers := by decide
  have hpending : System.HasPending { idleSystem ticks history with
      queue := [.credentialsSubmitted openNetwork]
      submitter := .posted } := .inr ⟨rfl, rfl⟩
  refine .head (.other ⟨.submit openNetwork, trivial, .submit rfl ⟨_, rfl, hserver⟩ _⟩) ?_
  refine .head (.other ⟨.checkIdle, trivial, .checkIdle rfl⟩) ?_
  refine .head (.other ⟨.postSubmission, Nat.zero_lt_succ _, .postSubmission rfl⟩) ?_
  refine .head (.other ⟨.writeConnecting, hpending, .writeConnecting rfl⟩) ?_
  exact .single (.other ⟨.respond, trivial, .respond rfl⟩)

theorem run_trial (waitTicks : UInt32) : ∃ waitTicks' history',
    ReflTransGen (SystemStepOn timelyDevice Calm)
      (.ret (idleOrchestrator, waitTicks), idleSystem ticks history)
      (.ret (trialOrchestrator ticks, waitTicks'), trialSystem ticks history') := by
  let o := { idleOrchestrator with trial := openNetwork }
  let s := ({ idleSystem ticks history with
    queue := [.credentialsSubmitted openNetwork]
    status := .connecting } : System).receive .portalIdle (.credentialsSubmitted openNetwork) []
  have hconnect : (handleMessage (.credentialsSubmitted openNetwork)
      (idleOrchestrator)).play succeed s =
        (setState o .portalTrial attemptTimeoutMs).play succeed (s.record (.connected openNetwork)) := by
    show (do
      let o ← connectWifiStation o openNetwork
      setState o .portalTrial attemptTimeoutMs).play succeed s = _
    rw [play_bind, play_connectWifiStation rfl rfl]
    rfl
  obtain ⟨history', hplay⟩ : ∃ history', (handleMessage (.credentialsSubmitted openNetwork)
      (idleOrchestrator)).play succeed s =
        some (trialOrchestrator ticks, trialSystem ticks history') :=
    ⟨_, hconnect.trans rfl⟩
  obtain ⟨waitTicks', hwait⟩ := play_waitForMessage (trialOrchestrator ticks)
    (trialSystem ticks history')
  have hends := (ends_of_play timelyDevice_of_succeed hplay).bind
    (ends_of_play timelyDevice_of_succeed hwait)
  exact ⟨waitTicks', _, (run_submission ticks history).trans
    (run_of_next (.message rfl) hends)⟩

/-- The station connects during the trial. -/
theorem run_success (waitTicks : UInt32) : ∃ waitTicks' history',
    ReflTransGen (SystemStepOn timelyDevice Calm)
      (.ret (trialOrchestrator ticks, waitTicks), trialSystem ticks history)
      (.ret (successOrchestrator ticks, waitTicks'),
        successSystem ticks history') := by
  let o := { trialOrchestrator ticks with isAssociated := true }
  let s := ((trialSystem ticks history).post .staConnected).receive .portalTrial .staConnected []
  have hstore : (handleMessage .staConnected
      (trialOrchestrator ticks)).play succeed s =
        (do
          setHttpPortalStatus .connected
          setState { o with active := openNetwork } .portalSuccess apShutdownDelayMs).play succeed
          { (s.decideTrial true).record (.replaced openNetwork) with
            activeRecord := some openNetwork } := by
    show (do
      let isStored ← (perform (Call.replaceCredentials openNetwork) : Task Bool)
      if isStored then do
        setHttpPortalStatus .connected
        setState { o with active := openNetwork } .portalSuccess apShutdownDelayMs
      else failTrial o).play succeed s = _
    rw [play_bind, play_perform, succeed, if_pos openNetwork_valid]
    rfl
  obtain ⟨history', hplay⟩ : ∃ history', (handleMessage .staConnected
      (trialOrchestrator ticks)).play succeed s =
        some (successOrchestrator ticks, successSystem ticks history') :=
    ⟨_, hstore.trans rfl⟩
  obtain ⟨waitTicks', hwait⟩ := play_waitForMessage (successOrchestrator ticks)
    (successSystem ticks history')
  have hends := (ends_of_play timelyDevice_of_succeed hplay).bind
    (ends_of_play timelyDevice_of_succeed hwait)
  exact ⟨waitTicks', _, .head (.other ⟨.post .staConnected, Nat.zero_lt_succ _, .post _ rfl⟩)
    (run_of_next (.message rfl) hends)⟩

end Trial
end StripTuner.Provisioning
