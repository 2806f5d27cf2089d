import StripTuner.FwMeta.Flash

/-!
# Receiving an image

One upload of `updater_http.c`, from the claimed request to the reply: the metadata record is
erased before the first write to `ota_0` and written only after `esp_ota_end()` has verified the
image.
-/

namespace StripTuner.Updater

open ByteLayout DeviceCalls DeviceCalls.Prog FwMeta

/-! ## Outcomes and replies -/

/-- `upload_result_t`. -/
inductive UploadResult where
  | ok
  | rejectSize
  | rejectImage
  | rejectMetadata
  | rejectVersion
  | rejectVerify
  | rejectFlash
  | rejectInterrupted
deriving DecidableEq

/-- `upload_reply_t`. -/
structure UploadReply where
  status : String
  body : String
  token : String
deriving DecidableEq

/-- `s_upload_replies`. -/
def uploadReplies : UploadResult → UploadReply
  | .ok => ⟨"200 OK", "Update complete, restarting", ""⟩
  | .rejectSize => ⟨"400 Bad Request", "Invalid size", "size"⟩
  | .rejectImage => ⟨"400 Bad Request", "Not an ESP32-C3 firmware image", "image"⟩
  | .rejectMetadata => ⟨"400 Bad Request", "Missing firmware metadata", "metadata"⟩
  | .rejectVersion => ⟨"400 Bad Request", "Invalid firmware version", "version"⟩
  | .rejectVerify => ⟨"400 Bad Request", "Image verification failed", "verify"⟩
  | .rejectFlash => ⟨"500 Internal Server Error", "Flash write failed", "flash"⟩
  | .rejectInterrupted => ⟨"408 Request Timeout", "Upload interrupted", "interrupted"⟩

theorem uploadReplies_status_ok {result : UploadResult} :
    (uploadReplies result).status = "200 OK" ↔ result = .ok := by
  cases result <;> decide

/-- `FW_UPLOAD_CHUNK_BYTES`. -/
abbrev fwUploadChunkBytes : Nat := 4096

/-- `FW_UPLOAD_RECV_RETRIES`. -/
abbrev fwUploadRecvRetries : Nat := 5

/-- `CheckImageHead()`. -/
def checkImageHead (head : List UInt8) : UploadResult :=
  match checkFwEmbeddedMeta head with
  | .ok => .ok
  | .noMetadata => .rejectMetadata
  | .badVersion => .rejectVersion
  | _ => .rejectImage

/-! ## The request body -/

def recv (wanted : Nat) : Fw RecvResult := perform (FwCall.recv wanted)

/-- The loop of `DiscardBody()`. -/
def discardBody (remaining timeouts : Nat) : Fw Unit :=
  if _ : 0 < remaining then do
    let received ← recv (min remaining fwUploadChunkBytes)
    match received with
    | .timeout =>
      if _ : timeouts < fwUploadRecvRetries then discardBody remaining (timeouts + 1)
      else return ()
    | .failed => return ()
    | .data bytes =>
      if _ : bytes.length = 0 then return ()
      else discardBody (remaining - bytes.length) 0
  else return ()
termination_by (remaining, fwUploadRecvRetries - timeouts)

/-- The head buffer after a chunk: filled up to `FW_IMAGE_HEAD_LEN` bytes. -/
def fillHead (head chunk : List UInt8) : List UInt8 :=
  if head.length < fwImageHeadLen then head ++ chunk.take (fwImageHeadLen - head.length) else head

/-- The check of the head, made once: by the chunk that completes it. -/
def checkFilledHead (head filled : List UInt8) : UploadResult :=
  if head.length < fwImageHeadLen ∧ filled.length = fwImageHeadLen then checkImageHead filled
  else .ok

/-- The loop of `ReceiveImage()`. The second result is the content of `s_head`. -/
def receiveImage (handle : UInt32) (total received timeouts : Nat) (head : List UInt8) :
    Fw (UploadResult × List UInt8) :=
  if _ : received < total then do
    let answer ← recv (min (total - received) fwUploadChunkBytes)
    match answer with
    | .timeout =>
      if _ : timeouts < fwUploadRecvRetries then
        receiveImage handle total received (timeouts + 1) head
      else return (.rejectInterrupted, head)
    | .failed => return (.rejectInterrupted, head)
    | .data chunk =>
      if _ : chunk.length = 0 then return (.rejectInterrupted, head)
      else do
        let filled := fillHead head chunk
        let result := checkFilledHead head filled
        if result ≠ .ok then do
          discardBody (total - received - chunk.length) 0
          return (result, filled)
        else do
          let err ← (perform (FwCall.otaWrite handle chunk) : Fw EspErr)
          if err ≠ .ok then do
            discardBody (total - received - chunk.length) 0
            return (if err = .otaValidateFailed then .rejectImage else .rejectFlash, filled)
          else do
            perform (FwCall.setReceived (received + chunk.length))
            receiveImage handle total (received + chunk.length) 0 filled
  else return (if head.length < fwImageHeadLen then checkImageHead head else .ok, head)
termination_by (total - received, fwUploadRecvRetries - timeouts)

/-! ## Commit -/

/-- `ClearCrashCount()`. -/
def clearCrashCount : Fw Unit := do
  let ctrl ← readFwCtrlRecord
  if ctrl.2.crashCount = 0 then
    return ()
  else
    let _ ← writeFwCtrlRecord (buildFwCtrlRecord 0 ctrl.2.bootAttempts)

/-- The version in the image head. -/
def headVersion (head : List UInt8) : Version :=
  field head (fwEmbeddedMetaOffset + 4) fwVersionFieldLen

/-- The write of the record and its check in `CommitMetaRecord()`. -/
def writeAndCheckMetaRecord (otaSize : UInt32) (record : FwMetaRecord) : Fw Bool := do
  let err ← writeFwMetaRecord record
  if err ≠ .ok then
    return false
  else do
    let readBack ← readFwMetaRecord
    return readBack.1 = .ok && isFwMetaRecordValid readBack.2 otaSize && record = readBack.2

/-- `CommitMetaRecord()`. -/
def commitMetaRecord (otaSize : UInt32) (total : Nat) (head : List UInt8) : Fw UploadResult := do
  let sha256 ← computeFwImageSha256
  if sha256.1 ≠ .ok then
    return .rejectFlash
  else do
    let record := buildFwMetaRecord (headVersion head) (UInt32.ofNat total) sha256.2
    let isCommitted ← writeAndCheckMetaRecord otaSize record
    if !isCommitted then do
      let _ ← eraseFwMetaRecord
      return .rejectFlash
    else do
      perform (FwCall.setInstalledVersion (some record.version))
      clearCrashCount
      return .ok

/-! ## The upload -/

/-- `RunUpload()`: the result, and the handle that must still be aborted. -/
def runUpload (ota : Option OtaPartition) (total : Nat) : Fw (UploadResult × Option UInt32) := do
  match ota with
  | none => return (.rejectSize, none)
  | some partition =>
    if total = 0 ∨ total > partition.size.toNat then
      return (.rejectSize, none)
    else do
      let err ← eraseFwMetaRecord
      if err ≠ .ok then
        return (.rejectFlash, none)
      else do
        perform (FwCall.setInstalledVersion none)
        let opened ← (perform (FwCall.otaBegin total) : Fw (EspErr × UInt32))
        if opened.1 ≠ .ok then
          return (.rejectFlash, none)
        else do
          let received ← receiveImage opened.2 total 0 0 []
          if received.1 ≠ .ok then
            return (received.1, some opened.2)
          else do
            let err ← (perform (FwCall.otaEnd opened.2) : Fw EspErr)
            if err ≠ .ok then
              return (.rejectVerify, none)
            else do
              let result ← commitMetaRecord partition.size total received.2
              return (result, none)

/-- `ScheduleRestart()`. -/
def scheduleRestart : Fw Unit := do
  let isStarted ← (perform FwCall.startRestartTimer : Fw Bool)
  if !isStarted then do
    let never ← (perform FwCall.restart : Fw Empty)
    nomatch never
  else
    return ()

/-- `SendText()` with a fixed reply. -/
def sendReply (result : UploadResult) : Fw Unit :=
  perform (FwCall.sendText (uploadReplies result).status (uploadReplies result).body)

def abortIfOpen : Option UInt32 → Fw Unit
  | some handle => do
    let _ ← (perform (FwCall.otaAbort handle) : Fw EspErr)
  | none => pure ()

/-- `ProcessUpload()` after `RunUpload()`, up to the end of the request. -/
def replyUpload (outcome : UploadResult × Option UInt32) : Fw Unit :=
  if outcome.1 ≠ .ok then do
    abortIfOpen outcome.2
    perform (FwCall.setUploadState .error)
    sendReply outcome.1
  else do
    let _ ← (perform FwCall.copyInstalledVersion : Fw Version)
    perform (FwCall.setUploadState .done)
    sendReply .ok
    scheduleRestart

/-- `ProcessUpload()`, for a request with the given content length. -/
def processUpload (ota : Option OtaPartition) (contentLen : Nat) : Fw Unit := do
  perform (FwCall.startCounters contentLen)
  let outcome ← runUpload ota contentLen
  replyUpload outcome
  perform FwCall.asyncComplete

end StripTuner.Updater
