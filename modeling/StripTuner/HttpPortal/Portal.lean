import StripTuner.FwMeta.Flash
import StripTuner.HttpPortal.Forms
import StripTuner.Lib.Loop

/-!
# The tuner's handlers

The handlers of `http_portal.c` for `POST /tuner`, `POST /tuner/read` and `GET /tuner/result`, in
both server profiles. The server task runs one handler after the other; between its calls the
orchestrator publishes measurements and stores the station identity. Each access to a record under
its mutex is a single call.
-/

namespace StripTuner.HttpPortal

open DeviceCalls DeviceCalls.Prog FwMeta PulseMonitor Relation Ws2812

/-! ## Requests and replies -/

/-- `HTTP_PORTAL_RECV_RETRIES`. -/
abbrev httpPortalRecvRetries : Nat := 3

/-- `TUNER_BODY_MAX`. -/
abbrev tunerBodyMax : Nat := 96

/-- `TUNER_RESULT_QUERY_MAX`. -/
abbrev tunerResultQueryMax : Nat := 32

/-- `TUNER_RESULT_BODY_MAX`. -/
abbrev tunerResultBodyMax : Nat := 96

/-- `TUNER_SEQ_TEXT_MAX`. -/
abbrev tunerSeqTextMax : Nat := 11

/-- `http_profile_t`. -/
inductive HttpProfile where
  | none
  | provisioning
  | station
deriving DecidableEq

/-- The registered paths of the tuner's operations. -/
inductive TunerPath where
  | submit
  | read
  | result
deriving DecidableEq

/-- What the handlers read of a request: the Content-Length, the bytes that the client sends, the
`Origin` header and the query. -/
structure TunerRequest where
  path : TunerPath
  contentLen : UInt32 := 0
  body : List UInt8 := []
  origin : Option (List UInt8) := Option.none
  query : Option (List UInt8) := Option.none

structure TunerReply where
  status : String
  headers : List (String × String)
  body : String
deriving DecidableEq

/-- `station_identity_t`. -/
structure StationIdentity where
  hostnameInUse : List UInt8
  stationIpv4 : UInt32

/-! ## Calls -/

inductive PortalCall where
  | recv (wanted : Nat)
  | readIdentity
  | readResult
  | nextSeq
  | lastSeq
  | applyLedTiming (timing : Ws2812Timing) (submitSeq : UInt32)
  | requestPulseRead (submitSeq : UInt32)
  | send (reply : TunerReply)

/-- A record is absent while its mutex does not exist. -/
abbrev PortalCall.Answer : PortalCall → Type
  | .recv _ => RecvResult
  | .readIdentity => Option StationIdentity
  | .readResult => Option Ws2812Measurement
  | .nextSeq | .lastSeq => UInt32
  | .applyLedTiming _ _ | .requestPulseRead _ | .send _ => Unit

abbrev Serving (α : Type) : Type := Prog PortalCall PortalCall.Answer α

/-! ## Replies -/

/-- The replies of the tuner: `text/plain`, never stored. -/
def tunerReply (status body : String) : TunerReply where
  status := status
  headers := [("Content-Type", "text/plain"), ("Cache-Control", "no-store")]
  body := body

@[simp] theorem tunerReply_status (status body : String) :
    (tunerReply status body).status = status := rfl

@[simp] theorem tunerReply_body (status body : String) :
    (tunerReply status body).body = body := rfl

/-- The reply of an accepted request, with its number. -/
def numberedReply (submitSeq : UInt32) (body : String) : TunerReply where
  status := "200 OK"
  headers := [("Content-Type", "text/plain"), ("Cache-Control", "no-store"),
    ("Tuner-Seq", submitSeq.toNat.repr)]
  body := body

/-- The number fits `seq_text`. -/
theorem length_seqText_lt (submitSeq : UInt32) :
    submitSeq.toNat.repr.length < tunerSeqTextMax := by
  have hle : submitSeq.toNat.repr.length ≤ 10 :=
    (Nat.length_repr_le_iff (by decide)).mpr (Nat.lt_of_lt_of_le submitSeq.toNat_lt (by decide))
  exact Nat.lt_succ_of_le hle

def send (reply : TunerReply) : Serving Unit := perform (PortalCall.send reply)

/-- `RespondTunerRejected()`. -/
def respondTunerRejected (body : String) : Serving Unit := send (tunerReply "400 Bad Request" body)

/-- `RespondForbiddenOrigin()`. -/
def respondForbiddenOrigin : Serving Unit := send (tunerReply "403 Forbidden" "Forbidden origin")

/-! ## `POST /tuner` -/

/-- The receive loop of `HandleTunerSubmitRequest()`. -/
def receiveBody (length : Nat) (received : List UInt8) (timeouts : Nat) :
    Serving (Option (List UInt8)) :=
  if _ : received.length < length then do
    let part ← (perform (PortalCall.recv (length - received.length)) : Serving RecvResult)
    match part with
    | .timeout =>
      if _ : timeouts < httpPortalRecvRetries then receiveBody length received (timeouts + 1)
      else return none
    | .failed => return none
    | .data bytes =>
      if _ : bytes = [] then return none
      else receiveBody length (received ++ bytes) timeouts
  else return some received
termination_by (length - received.length, httpPortalRecvRetries - timeouts)
decreasing_by
  · exact Prod.Lex.right _ (by omega)
  · have hpos := List.length_pos_iff.mpr ‹bytes ≠ []›
    apply Prod.Lex.left
    rw [List.length_append]
    omega

/-- `HandleTunerSubmitRequest()` once the body is complete and terminated. -/
def handleTunerBody (body : List UInt8) : Serving Unit := do
  match parseTunerForm (cString body) with
  | none => respondTunerRejected "Invalid request"
  | some timing =>
    match validateWs2812Timing timing with
    | .outOfRange => respondTunerRejected "Value out of range"
    | .badCombination => respondTunerRejected "Invalid combination"
    | .badDutyOrder => respondTunerRejected "Bit 0 duty must be less than bit 1 duty"
    | .ok => do
      let submitSeq ← (perform PortalCall.nextSeq : Serving UInt32)
      perform (PortalCall.applyLedTiming timing submitSeq)
      send (numberedReply submitSeq "Sent")

/-- `HandleTunerSubmitRequest()`. -/
def handleTunerSubmitRequest (request : TunerRequest) : Serving Unit :=
  -- `content_len` is a `size_t`; a length from 2^31 on is negative
  let length : Int := request.contentLen.toInt32.toInt
  if length ≤ 0 ∨ length > tunerBodyMax then respondTunerRejected "Invalid request"
  else do
    let body ← receiveBody length.toNat [] 0
    match body with
    | none => respondTunerRejected "Invalid request"
    | some body => handleTunerBody body

/-! ## `POST /tuner/read` -/

/-- `HandleTunerReadRequest()`. -/
def handleTunerReadRequest : Serving Unit := do
  let submitSeq ← (perform PortalCall.nextSeq : Serving UInt32)
  perform (PortalCall.requestPulseRead submitSeq)
  send (numberedReply submitSeq "Reading")

/-! ## The station profile -/

/-- `IsStationOriginAllowed()`: a value that does not fit its buffer is foreign. -/
def isStationOriginAllowed (request : TunerRequest) : Serving Bool :=
  if request.origin.any (·.length > httpStationOriginMax) then return false
  else do
    let identity ← (perform PortalCall.readIdentity : Serving (Option StationIdentity))
    match identity with
    | none => return isHttpStationOriginAllowed request.origin none 0
    | some identity =>
      return isHttpStationOriginAllowed request.origin (some identity.hostnameInUse)
        identity.stationIpv4

/-- `HandleStationTunerSubmitRequest()`. -/
def handleStationTunerSubmitRequest (request : TunerRequest) : Serving Unit := do
  let isAllowed ← isStationOriginAllowed request
  if !isAllowed then respondForbiddenOrigin else handleTunerSubmitRequest request

/-- `HandleStationTunerReadRequest()`. -/
def handleStationTunerReadRequest (request : TunerRequest) : Serving Unit := do
  let isAllowed ← isStationOriginAllowed request
  if !isAllowed then respondForbiddenOrigin else handleTunerReadRequest

/-! ## `GET /tuner/result` -/

/-- `s_result` before the first publication. -/
def zeroMeasurement : Ws2812Measurement where
  submitSeq := 0
  state := .done

/-- The number in the query, which must fit its buffer with the terminator. -/
def requestedSeq (request : TunerRequest) : Option UInt32 :=
  (request.query.filter (·.length < tunerResultQueryMax)).bind parseTunerResultSeq

/-- `HandleTunerResultRequest()`. -/
def handleTunerResultRequest (request : TunerRequest) : Serving Unit := do
  match requestedSeq request with
  | none => send (tunerReply "400 Bad Request" "Invalid request")
  | some requestSeq =>
    let stored ← (perform PortalCall.readResult : Serving (Option Ws2812Measurement))
    let record := stored.getD zeroMeasurement
    let lastIssuedSeq ← (perform PortalCall.lastSeq : Serving UInt32)
    let state := getTunerResultState requestSeq lastIssuedSeq record
    send (tunerReply "200 OK" (formatTunerResult state record tunerResultBodyMax))

/-- The handlers registered by `StartHttpPortal()` and `StartHttpStationServer()`. -/
def tunerHandler : HttpProfile → TunerRequest → Option (Serving Unit)
  | .none, _ => none
  | .provisioning, request =>
    match request.path with
    | .submit => some (handleTunerSubmitRequest request)
    | .read => some handleTunerReadRequest
    | .result => some (handleTunerResultRequest request)
  | .station, request =>
    match request.path with
    | .submit => some (handleStationTunerSubmitRequest request)
    | .read => some (handleStationTunerReadRequest request)
    | .result => some (handleTunerResultRequest request)

/-! ## The portal -/

/-- A call of `http_portal_ops_t` made for the tuner. -/
inductive TunerOperation where
  | applyLedTiming (timing : Ws2812Timing) (submitSeq : UInt32)
  | requestPulseRead (submitSeq : UInt32)
deriving DecidableEq

def TunerOperation.submitSeq : TunerOperation → UInt32
  | .applyLedTiming _ submitSeq | .requestPulseRead submitSeq => submitSeq

/-- What was done for a request. `published` and `issued` are what had been published and how many
numbers had been issued when the record was read. -/
structure Exchange where
  profile : HttpProfile
  request : TunerRequest
  received : List UInt8 := []
  timeouts : Nat := 0
  hasFailed : Bool := false
  operations : List TunerOperation := []
  published : List Ws2812Measurement := []
  issued : Nat := 0

/-- What the server task alone changes. Only `submitSeq` is a variable of the code: the number of
submissions since boot, the request being served and the answered requests are its history. -/
structure Server where
  submitSeq : UInt32
  issued : Nat
  current : Exchange
  answered : List (Exchange × TunerReply)

/-- The state of `http_portal.c` that the tuner uses, and the history of the publications. A record
is absent while its mutex does not exist. -/
structure Portal where
  profile : HttpProfile
  result : Option Ws2812Measurement
  identity : Option StationIdentity
  published : List Ws2812Measurement
  server : Server

/-! ### The server task -/

def Server.receive (s : Server) (bytes : List UInt8) : Server :=
  { s with current :=
    { s.current with
      received := s.current.received ++ bytes
      hasFailed := s.current.hasFailed || bytes.isEmpty } }

def Server.timeOut (s : Server) : Server :=
  { s with current := { s.current with timeouts := s.current.timeouts + 1 } }

def Server.fail (s : Server) : Server := { s with current := { s.current with hasFailed := true } }

def Server.issue (s : Server) : Server :=
  { s with submitSeq := s.submitSeq + 1, issued := s.issued + 1 }

def Server.operate (s : Server) (operation : TunerOperation) : Server :=
  { s with current := { s.current with operations := s.current.operations ++ [operation] } }

def Server.look (s : Server) (published : List Ws2812Measurement) : Server :=
  { s with current := { s.current with published := published, issued := s.issued } }

def Server.reply (s : Server) (reply : TunerReply) : Server :=
  { s with answered := s.answered ++ [(s.current, reply)] }

def Server.accept (s : Server) (profile : HttpProfile) (request : TunerRequest) : Server :=
  { s with current := { profile := profile, request := request } }

/-- The calls. The bytes of a request arrive in order, in any portions. -/
def portal : Device PortalCall PortalCall.Answer Portal
  | .recv wanted, s, r, t =>
    match r with
    | .timeout => t = { s with server := s.server.timeOut }
    | .failed => t = { s with server := s.server.fail }
    | .data bytes =>
      bytes.length ≤ wanted ∧
        s.server.current.received ++ bytes <+: s.server.current.request.body ∧
        t = { s with server := s.server.receive bytes }
  | .readIdentity, s, r, t => r = s.identity ∧ t = s
  | .readResult, s, r, t => r = s.result ∧ t = { s with server := s.server.look s.published }
  | .nextSeq, s, r, t => r = s.server.submitSeq + 1 ∧ t = { s with server := s.server.issue }
  | .lastSeq, s, r, t => r = s.server.submitSeq ∧ t = s
  | .applyLedTiming timing submitSeq, s, _, t =>
    t = { s with server := s.server.operate (.applyLedTiming timing submitSeq) }
  | .requestPulseRead submitSeq, s, _, t =>
    t = { s with server := s.server.operate (.requestPulseRead submitSeq) }
  | .send reply, s, _, t => t = { s with server := s.server.reply reply }

/-! ### The orchestrator -/

/-- The store of `SetHttpTunerResult()`. -/
def storeResult (result : Option Ws2812Measurement) (measurement : Ws2812Measurement) :
    Ws2812Measurement :=
  let stored := result.getD zeroMeasurement
  if measurement.submitSeq ≥ stored.submitSeq then measurement else stored

/-- `SetHttpTunerResult()`. -/
def setHttpTunerResult (s : Portal) : Option Ws2812Measurement → Portal
  | none => s
  | some measurement =>
    { s with
      result := some (storeResult s.result measurement)
      published := s.published ++ [measurement] }

/-- `SetHttpStationIdentity()`. -/
def setHttpStationIdentity (s : Portal) (hostnameInUse : Option (List UInt8))
    (stationIpv4 : UInt32) : Portal :=
  let name := (hostnameInUse.getD []).take (mdnsServiceHostnameMax - 1)
  { s with identity := some ⟨name, stationIpv4⟩ }

/-- `StopHttpPortal()`. -/
def stopHttpPortal (s : Portal) : Portal := { s with profile := .none }

/-- `StartHttpPortal()`, when the server starts or not. -/
def startHttpPortal (s : Portal) (isStarted : Bool) : Portal :=
  if isStarted then { stopHttpPortal s with profile := .provisioning } else stopHttpPortal s

/-- `StartHttpStationServer()`, when the server starts or not. -/
def startHttpStationServer (s : Portal) (isStarted : Bool) : Portal :=
  if isStarted then { stopHttpPortal s with profile := .station } else stopHttpPortal s

/-- What the orchestrator does while a handler runs. -/
inductive Publish (s : Portal) : Portal → Prop where
  | result (measurement : Option Ws2812Measurement) : Publish s (setHttpTunerResult s measurement)
  | identity (hostnameInUse : Option (List UInt8)) (stationIpv4 : UInt32) :
      Publish s (setHttpStationIdentity s hostnameInUse stationIpv4)

/-- Between two requests, the next one arrives or the profile changes: `httpd_stop()` waits for the
handler that runs. -/
inductive Serve (s : Portal) : Serving Unit → Portal → Prop where
  | request {request : TunerRequest} {handler : Serving Unit} :
      tunerHandler s.profile request = some handler →
      Serve s handler { s with server := s.server.accept s.profile request }
  | portal (isStarted : Bool) : Serve s (.ret ()) (startHttpPortal s isStarted)
  | station (isStarted : Bool) : Serve s (.ret ()) (startHttpStationServer s isStarted)
  | stop : Serve s (.ret ()) (stopHttpPortal s)

def noRequest : TunerRequest where
  path := .result

/-- The portal at boot. -/
def bootPortal : Portal where
  profile := .none
  result := none
  identity := none
  published := []
  server := ⟨0, 0, { profile := .none, request := noRequest }, []⟩

/-- What the server task has left to do, and the portal, at some moment after boot. -/
def PortalRun (c : Serving Unit × Portal) : Prop :=
  ReflTransGen (LoopStep portal (fun _ => Serve) Publish) (.ret (), bootPortal) c

end StripTuner.HttpPortal
