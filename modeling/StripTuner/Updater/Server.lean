import StripTuner.Lib.Threads
import StripTuner.Updater.Board
import StripTuner.Updater.Upload

/-!
# The server task and the upload worker

`updater_http.c` runs in two tasks. The HTTP server task claims an upload and hands it to the worker
through a queue of one item; it also answers `GET /status`. Every critical section under
`s_state_mutex` is one call, and between any two calls the other task may run.
-/

namespace StripTuner.Updater

open ByteLayout DeviceCalls DeviceCalls.Prog FlashRegion FwMeta

/-! ## Requests -/

inductive UpdaterPath where
  | update
  | status
deriving DecidableEq

/-- A request; `id` tells the requests of one run apart. -/
structure UpdaterRequest where
  id : Nat
  path : UpdaterPath
  contentLen : UInt32
deriving DecidableEq

/-! ## Calls -/

/-- The steps of the tasks. `respond` is `SendText()` of the server task, `sendError` is
`httpd_resp_send_err()` with status 500. -/
inductive UpdaterCall where
  | fw (request : UpdaterRequest) (c : FwCall)
  | claim (request : UpdaterRequest)
  | asyncBegin (request : UpdaterRequest)
  | queueSend (request : UpdaterRequest)
  | queueReceive
  | readStatus
  | setHdr (request : UpdaterRequest) (name value : String)
  | respond (request : UpdaterRequest) (status body : String)
  | sendError (request : UpdaterRequest)

abbrev UpdaterCall.Answer : UpdaterCall → Type
  | .fw _ c => c.Answer
  | .claim _ | .queueSend _ => Bool
  | .asyncBegin _ => EspErr
  | .queueReceive => UpdaterRequest
  | .readStatus => UploadState × Nat × Nat
  | .setHdr _ _ _ | .respond _ _ _ | .sendError _ => Unit

abbrev Task : Type → Type := Prog UpdaterCall UpdaterCall.Answer

/-- The calls of a function that works on the request. -/
def forRequest {α : Type} (request : UpdaterRequest) (p : Fw α) : Task α :=
  embed (UpdaterCall.fw request) p

/-! ## `POST /update` in the server task -/

/-- The size check of `HandleUpload()`. -/
def isSizeInvalid (ota : Option OtaPartition) (contentLen : UInt32) : Bool :=
  match ota with
  | none => true
  | some partition => contentLen.toNat = 0 || contentLen.toNat > partition.size.toNat

/-- A reply after which the server closes the connection without draining the body. -/
def refuse (request : UpdaterRequest) (status body : String) : Task EspErr := do
  perform (UpdaterCall.setHdr request "Connection" "close")
  perform (UpdaterCall.respond request status body)
  return .fail

/-- `HandleUpload()`. -/
def handleUpload (ota : Option OtaPartition) (request : UpdaterRequest) : Task EspErr := do
  let isBusy ← (perform (UpdaterCall.claim request) : Task Bool)
  if isBusy then
    refuse request "409 Conflict" "Upload in progress"
  else if isSizeInvalid ota request.contentLen then do
    perform (UpdaterCall.fw request (.setUploadState .error))
    refuse request (uploadReplies .rejectSize).status (uploadReplies .rejectSize).body
  else do
    let err ← (perform (UpdaterCall.asyncBegin request) : Task EspErr)
    if err ≠ .ok then do
      perform (UpdaterCall.fw request (.setUploadState .error))
      refuse request (uploadReplies .rejectFlash).status (uploadReplies .rejectFlash).body
    else do
      let isSent ← (perform (UpdaterCall.queueSend request) : Task Bool)
      if !isSent then do
        perform (UpdaterCall.fw request (.setUploadState .error))
        perform (UpdaterCall.sendError request)
        perform (UpdaterCall.fw request .asyncComplete)
        return .ok
      else
        return .ok

/-! ## `GET /status` -/

/-- `s_upload_state_names`. -/
def uploadStateName : UploadState → String
  | .idle => "idle"
  | .uploading => "uploading"
  | .done => "done"
  | .error => "error"

/-- The text of `CopyInstalledVersion()`. -/
def versionText (installed : Version) : String :=
  if installed[0] = 0 then "none"
  else String.ofList ((installed.toList.takeWhile (· ≠ 0)).map fun byte => Char.ofNat byte.toNat)

/-- The body of `HandleStatus()`. -/
def statusBody (state : UploadState) (received total : Nat) (installed : Version) : String :=
  "state=" ++ uploadStateName state ++ "&received=" ++ received.repr ++ "&total=" ++ total.repr ++
    "&installed=" ++ versionText installed

/-- `HandleStatus()`. -/
def handleStatus (request : UpdaterRequest) : Task EspErr := do
  let installed ← (perform (UpdaterCall.fw request .copyInstalledVersion) : Task Version)
  let status ← (perform UpdaterCall.readStatus : Task (UploadState × Nat × Nat))
  perform (UpdaterCall.respond request "200 OK"
    (statusBody status.1 status.2.1 status.2.2 installed))
  return .ok

/-! ## The worker -/

/-- An iteration of `RunUploadWorker()`. -/
def runUploadWorker (ota : Option OtaPartition) : Task EspErr := do
  let request ← (perform UpdaterCall.queueReceive : Task UpdaterRequest)
  forRequest request (processUpload ota request.contentLen.toNat)
  return .ok

/-! ## The shared state -/

/-- What `SetInstalledVersion()` stores. -/
def storedVersion : Option Version → Version
  | none => Vector.replicate fwVersionFieldLen 0
  | some version => version.set (fwVersionFieldLen - 1) 0

/-- The values that a status reply reports, the upload whose outcome was set last, and the board. -/
structure Moment where
  state : UploadState
  received : Nat
  total : Nat
  installed : Version
  decided : Option UpdaterRequest
  board : Board

/-- A reply of the server task, with the moments since its request arrived. -/
structure ServerReply where
  request : UpdaterRequest
  status : String
  body : String
  moments : List Moment

/-- The variables of `updater_http.c` that the tasks share, up to `queue`, and what has happened: the
requests that hold the claim and those whose outcome was set, those handed to the worker, received
and completed by it, those for which the body, flash or OTA were used, the replies of the server
task, the moments since its request arrived, and the version that the status handler has copied. -/
structure Shared where
  board : Board
  state : UploadState
  received : Nat
  total : Nat
  installed : Version
  queue : List UpdaterRequest
  arrived : Nat
  holding : List UpdaterRequest
  decided : List UpdaterRequest
  handed : List UpdaterRequest
  taken : List UpdaterRequest
  completed : List UpdaterRequest
  touched : List UpdaterRequest
  replies : List ServerReply
  moments : List Moment
  copied : Option Version

namespace Shared

def isBusy (s : Shared) : Bool := s.state = .uploading || s.state = .done

def moment (s : Shared) : Moment where
  state := s.state
  received := s.received
  total := s.total
  installed := s.installed
  decided := s.decided.getLast?
  board := s.board

def observe (s : Shared) : Shared := { s with moments := s.moments ++ [s.moment] }

def claim (s : Shared) (request : UpdaterRequest) : Shared :=
  { s with state := .uploading, holding := s.holding ++ [request] }

def send (s : Shared) (request : UpdaterRequest) : Shared :=
  { s with queue := s.queue ++ [request], handed := s.handed ++ [request] }

def take (s : Shared) (request : UpdaterRequest) (rest : List UpdaterRequest) : Shared :=
  { s with queue := rest, taken := s.taken ++ [request] }

def respond (s : Shared) (request : UpdaterRequest) (status body : String) : Shared :=
  { s with replies := s.replies ++ [⟨request, status, body, s.moments⟩], copied := none }

/-- The next request arrives. -/
def arrive (s : Shared) : Shared := { s with arrived := s.arrived + 1, moments := [s.moment] }

end Shared

/-- The call reads the body of a request, or accesses flash or OTA. -/
def Touches : FwCall → Prop
  | .recv _ | .metaRead _ _ | .metaErase _ _ | .metaWrite _ _ | .otaRead _ _ | .otaSha256
  | .otaBegin _ | .otaWrite _ _ | .otaEnd _ | .otaAbort _ => True
  | _ => False

instance : DecidablePred Touches := fun c => by
  cases c <;> unfold Touches <;> infer_instance

/-- What a call for a request does outside the board. -/
def Shared.act (s : Shared) (request : UpdaterRequest) (c : FwCall) : Shared :=
  match c with
  | .startCounters total => { s with received := 0, total := total }
  | .setReceived received => { s with received := received }
  | .setUploadState state =>
    { s with
      state := state
      holding := s.holding.filter (· ≠ request)
      decided := s.decided ++ [request] }
  | .setInstalledVersion version => { s with installed := storedVersion version }
  | .copyInstalledVersion =>
    if request.path = .status then { s with copied := some s.installed } else s
  | .asyncComplete => { s with completed := s.completed ++ [request] }
  | _ => if Touches c then { s with touched := s.touched ++ [request] } else s

/-- What a call answers, as far as the shared state decides it. -/
def Shared.Gives (s : Shared) : (c : FwCall) → c.Answer → Prop
  | .copyInstalledVersion, installed => installed = s.installed
  | _, _ => True

section Device

variable (sha : Content → Option (Vector UInt8 fwSha256Len)) (failedErase : UInt8 → UInt8 → Prop)

/-- What each call may answer and do. The queue holds one item. -/
def tasks : Device UpdaterCall UpdaterCall.Answer Shared
  | .fw request c, s, r, t =>
    ∃ b, board sha failedErase c s.board r b ∧ s.Gives c r ∧
      t = ({ s with board := b }.act request c).observe
  | .claim request, s, r, t =>
    r = s.isBusy ∧ t = if s.isBusy then s else (s.claim request).observe
  | .asyncBegin _, s, _, t => t = s
  | .queueSend request, s, r, t =>
    if s.queue.length < 1 then r = true ∧ t = s.send request else r = false ∧ t = s
  | .queueReceive, s, r, t => ∃ rest, s.queue = r :: rest ∧ t = s.take r rest
  | .readStatus, s, r, t => r = (s.state, s.received, s.total) ∧ t = s
  | .setHdr _ _ _, s, _, t => t = s
  | .respond request status body, s, _, t => t = s.respond request status body
  | .sendError _, s, _, t => t = s

end Device

/-! ## The system -/

inductive UpdaterTask where
  | server
  | worker
deriving DecidableEq

/-- The server task takes the next request; the worker waits for the next upload. -/
inductive Serves (ota : Option OtaPartition) (s : Shared) :
    UpdaterTask → Task EspErr → Shared → Prop where
  | update (contentLen : UInt32) :
      Serves ota s .server (handleUpload ota ⟨s.arrived, .update, contentLen⟩) s.arrive
  | status : Serves ota s .server (handleStatus ⟨s.arrived, .status, 0⟩) s.arrive
  | worker : Serves ota s .worker (runUploadWorker ota) s

abbrev Tasks : Type := Threads UpdaterTask UpdaterCall UpdaterCall.Answer EspErr Shared

/-- `StartUpdaterHttp()` with an installed version, on a board. -/
def startShared (b : Board) (version : Option Version) : Shared where
  board := b
  state := .idle
  received := 0
  total := 0
  installed := storedVersion version
  queue := []
  arrived := 0
  holding := []
  decided := []
  handed := []
  taken := []
  completed := []
  touched := []
  replies := []
  moments := []
  copied := none

def startTasks (b : Board) (version : Option Version) : Tasks :=
  ⟨fun _ => .ret .ok, startShared b version⟩

/-- The tasks at some moment after the start, when each call was allowed. -/
def TasksRun (sha : Content → Option (Vector UInt8 fwSha256Len))
    (failedErase : UInt8 → UInt8 → Prop) (ota : Option OtaPartition)
    (Allowed : Tasks → UpdaterTask → UpdaterCall → Prop) (x y : Tasks) : Prop :=
  Relation.ReflTransGen (ThreadsStep (tasks sha failedErase)
    (fun t _ s p s' => Serves ota s t p s') Allowed) x y

end StripTuner.Updater
