import StripTuner.FwMeta.Flash

/-!
# Starting the firmware

`updater_main.c`: the boot decision, the jump to the firmware, and updater mode; and the functions
of `fw_update.c` by which the running firmware asks for the updater or reports that it is healthy.
-/

namespace StripTuner.Updater

open ByteLayout DeviceCalls DeviceCalls.Prog FwMeta

/-! ## The boot decision -/

/-- `IsOtaMatchingRecord()`. -/
def isOtaMatchingRecord (record : FwMetaRecord) : Fw Bool := do
  let head ← otaRead 0 fwImageHeadLen
  if head.1 ≠ .ok || head.2.getD 0 0 ≠ fwImageMagic then
    return false
  else do
    let embedded := FwEmbeddedMeta.ofBytes head.2 fwEmbeddedMetaOffset
    if embedded.magic ≠ record.magic || embedded.version ≠ record.version then
      return false
    else do
      let sha256 ← computeFwImageSha256
      return sha256.1 = .ok && sha256.2 = record.imageSha256

/-- `is_record_valid` of the boot inputs: false without an `ota_0` partition. -/
def isRecordValidFor (ota : Option OtaPartition) (record : FwMetaRecord) : Bool :=
  match ota with
  | none => false
  | some partition => isFwMetaRecordValid record partition.size

/-- The values that `app_main()` holds after its boot decision. -/
structure BootDecision where
  ota : Option OtaPartition
  record : FwMetaRecord
  ctrl : FwCtrlRecord
  inputs : FwBootInputs
  decision : FwBootDecision

/-- `app_main()` up to the boot decision. -/
def decideBoot : Fw BootDecision := do
  let ota ← findOta
  let record ← readFwMetaRecord
  let ctrl ← readFwCtrlRecord
  let resetReason ← (perform FwCall.resetReason : Fw ResetReason)
  let isRecordValid := isRecordValidFor ota record.2
  let isOtaMatch ← if isRecordValid then isOtaMatchingRecord record.2 else pure false
  let inputs : FwBootInputs :=
    { isForceRequested := isFwForceRequested record.2
      isRecordValid := isRecordValid
      isOtaMatch := isOtaMatch
      crashCount := ctrl.2.crashCount
      bootAttempts := ctrl.2.bootAttempts
      resetReason := resetReason }
  return ⟨ota, record.2, ctrl.2, inputs, decideFwBoot inputs⟩

/-! ## After the decision -/

/-- `SaveCrashCount()`. -/
def saveCrashCount (stored : FwCtrlRecord) (crashCount : UInt8) : Fw Unit := do
  if crashCount = stored.crashCount then
    return ()
  else
    let _ ← writeFwCtrlRecord (buildFwCtrlRecord crashCount stored.bootAttempts)

/-- `ClearForceFlag()`: the read-back is only compared for the log. -/
def clearForceFlag (record : FwMetaRecord) : Fw Unit := do
  let record := { record with forceBootloader := fwForceBootloaderClear }
  let err ← eraseFwMetaRecord
  let err ← if err = .ok then writeFwMetaRecord record else pure err
  if err = .ok then
    let _ ← readFwMetaRecord
  else
    return ()

/-- `JumpToFirmware()`: returns only if the jump could not be prepared. -/
def jumpToFirmware (ota : OtaPartition) : Fw Unit := do
  perform (FwCall.updateRtcRetainMem ota.address ota.size)
  let stored ← (perform FwCall.rtcRetainPartition : Fw (Option (UInt32 × UInt32)))
  if stored ≠ some (ota.address, ota.size) then
    return ()
  else do
    let err ← (perform FwCall.enableTimerWakeup : Fw EspErr)
    if err ≠ .ok then
      return ()
    else do
      let never ← (perform FwCall.deepSleepStart : Fw Empty)
      nomatch never

/-- `GetUpdaterReason()`. -/
def getUpdaterReason : FwBootMode → UpdaterReason
  | .updaterRequested => .requested
  | .updaterCrashLoop => .crashLoop
  | .updaterBootSelectFailed => .bootSelectFailed
  | _ => .noFirmware

/-- `StartUpdaterMode()`. -/
def startUpdaterMode (reason : UpdaterReason) (ota : Option OtaPartition)
    (installedVersion : Option Version) : Fw Unit := do
  let isUp ← (perform FwCall.startUpdaterAp : Fw Bool)
  if isUp then
    let _ ← (perform (FwCall.startUpdaterHttp reason ota installedVersion) : Fw Bool)
  else
    return ()

/-- The branch of `app_main()` that starts the firmware, with `ota` not null there; it returns only
if the jump could not be prepared. -/
def startFirmware (boot : BootDecision) : Fw Unit :=
  if boot.decision.mode = .firmware then do
    saveCrashCount boot.ctrl boot.decision.crashCount
    match boot.ota with
    | some ota => jumpToFirmware ota
    | none => pure ()
  else
    pure ()

/-- `app_main()` after the start of the firmware was not tried or failed. -/
def enterUpdaterMode (boot : BootDecision) : Fw Unit := do
  if boot.inputs.isForceRequested then clearForceFlag boot.record else pure ()
  let isFirmware := boot.decision.mode = .firmware
  let stored : FwCtrlRecord :=
    if isFirmware then { boot.ctrl with crashCount := boot.decision.crashCount } else boot.ctrl
  saveCrashCount stored
    (if boot.decision.mode = .updaterCrashLoop then 0 else boot.decision.crashCount)
  startUpdaterMode (if isFirmware then .bootSelectFailed else getUpdaterReason boot.decision.mode)
    boot.ota (if boot.inputs.isOtaMatch then some boot.record.version else none)

/-- `app_main()` after the boot decision. -/
def actOnDecision (boot : BootDecision) : Fw Unit := do
  startFirmware boot
  enterUpdaterMode boot

/-- `app_main()`. -/
def appMain : Fw Unit := do
  let boot ← decideBoot
  actOnDecision boot

/-! ## The running firmware -/

/-- `fw_update_request_t`. -/
inductive FwUpdateRequest where
  | set
  | noRecord
  | failed
deriving DecidableEq

/-- `RequestFwUpdate()`. -/
def requestFwUpdate : Fw FwUpdateRequest := do
  let ota ← findOta
  let record ← readFwMetaRecord
  if !isRecordValidFor ota record.2 then
    return .noRecord
  else do
    let err ← programFwMetaForceFlag
    if err ≠ .ok then
      return .failed
    else
      return .set

/-- `MarkFirmwareHealthy()`. -/
def markFirmwareHealthy : Fw Unit := do
  let record ← readFwCtrlRecord
  if record.2.crashCount = 0 then
    return ()
  else
    let _ ← writeFwCtrlRecord (buildFwCtrlRecord 0 record.2.bootAttempts)

end StripTuner.Updater
