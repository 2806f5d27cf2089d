import StripTuner.FwMeta.Records
import StripTuner.Lib.Prog

/-!
# Records in flash

The calls that the updater and the update functions of the firmware make, and `fw_meta_flash.c`
over them. Critical sections under `s_state_mutex` are single calls.
-/

namespace StripTuner.FwMeta

open ByteLayout DeviceCalls DeviceCalls.Prog

/-! ## Calls -/

/-- `esp_partition_t`, as far as the code reads it. -/
structure OtaPartition where
  address : UInt32
  size : UInt32
deriving DecidableEq

/-- What `httpd_req_recv()` returns: `HTTPD_SOCK_ERR_TIMEOUT`, another error, or bytes (none when
the connection was closed). -/
inductive RecvResult where
  | timeout
  | failed
  | data (bytes : List UInt8)

/-- `upload_state_t`. -/
inductive UploadState where
  | idle
  | uploading
  | done
  | error
deriving DecidableEq

/-- `updater_reason_t`. -/
inductive UpdaterReason where
  | requested
  | noFirmware
  | crashLoop
  | bootSelectFailed
deriving DecidableEq

/-- A version field; all zero for none. -/
abbrev Version : Type := Vector UInt8 fwVersionFieldLen

/-- The calls outside the pure code. -/
inductive FwCall where
  | findOta
  | findFwMeta
  | metaRead (off len : Nat)
  | metaErase (off len : Nat)
  | metaWrite (off : Nat) (bytes : List UInt8)
  | otaRead (off len : Nat)
  | otaSha256
  | otaBegin (imageSize : Nat)
  | otaWrite (handle : UInt32) (bytes : List UInt8)
  | otaEnd (handle : UInt32)
  | otaAbort (handle : UInt32)
  | recv (wanted : Nat)
  | sendText (status body : String)
  | asyncComplete
  | startCounters (total : Nat)
  | setReceived (received : Nat)
  | setUploadState (state : UploadState)
  | setInstalledVersion (version : Option Version)
  | copyInstalledVersion
  | resetReason
  | updateRtcRetainMem (offset size : UInt32)
  | rtcRetainPartition
  | enableTimerWakeup
  | deepSleepStart
  | startRestartTimer
  | restart
  | startUpdaterAp
  | startUpdaterHttp (reason : UpdaterReason) (ota : Option OtaPartition) (version : Option Version)

/-- `esp_restart()` and `esp_deep_sleep_start()` do not return. -/
abbrev FwCall.Answer : FwCall → Type
  | .findOta => Option OtaPartition
  | .findFwMeta | .startRestartTimer | .startUpdaterAp | .startUpdaterHttp _ _ _ => Bool
  | .metaRead _ _ | .otaRead _ _ => EspErr × List UInt8
  | .otaSha256 => EspErr × Vector UInt8 fwSha256Len
  | .otaBegin _ => EspErr × UInt32
  | .metaErase _ _ | .metaWrite _ _ | .otaWrite _ _ | .otaEnd _ | .otaAbort _
  | .enableTimerWakeup => EspErr
  | .recv _ => RecvResult
  | .copyInstalledVersion => Version
  | .resetReason => ResetReason
  | .rtcRetainPartition => Option (UInt32 × UInt32)
  | .sendText _ _ | .asyncComplete | .startCounters _ | .setReceived _ | .setUploadState _
  | .setInstalledVersion _ | .updateRtcRetainMem _ _ => Unit
  | .deepSleepStart | .restart => Empty

abbrev Fw : Type → Type := Prog FwCall FwCall.Answer

def findOta : Fw (Option OtaPartition) := perform FwCall.findOta
def findFwMeta : Fw Bool := perform FwCall.findFwMeta
def metaRead (off len : Nat) : Fw (EspErr × List UInt8) := perform (FwCall.metaRead off len)
def metaErase (off len : Nat) : Fw EspErr := perform (FwCall.metaErase off len)
def metaWrite (off : Nat) (bytes : List UInt8) : Fw EspErr := perform (FwCall.metaWrite off bytes)
def otaRead (off len : Nat) : Fw (EspErr × List UInt8) := perform (FwCall.otaRead off len)

/-! ## `fw_meta_flash.c` -/

/-- `FW_META_RECORD_OFFSET`. -/
abbrev fwMetaRecordOffset : Nat := 0

/-- `FW_CTRL_RECORD_OFFSET`. -/
abbrev fwCtrlRecordOffset : Nat := fwMetaSectorBytes

/-- `offsetof(fw_meta_record_t, force_bootloader)`. -/
abbrev forceBootloaderOffset : Nat := 56

/-- `ReadFwMetaRecord()`. -/
def readFwMetaRecord : Fw (EspErr × FwMetaRecord) := do
  let found ← findFwMeta
  if !found then
    return (.notFound, .erased)
  else do
    let answer ← metaRead fwMetaRecordOffset fwMetaRecordSize
    if answer.1 ≠ .ok then
      return (answer.1, .erased)
    else
      return (.ok, .ofBytes answer.2)

/-- `EraseFwMetaRecord()`. -/
def eraseFwMetaRecord : Fw EspErr := do
  let found ← findFwMeta
  if !found then
    return .notFound
  else
    metaErase fwMetaRecordOffset fwMetaSectorBytes

/-- `WriteFwMetaRecord()`. -/
def writeFwMetaRecord (record : FwMetaRecord) : Fw EspErr := do
  let found ← findFwMeta
  if !found then
    return .notFound
  else
    metaWrite fwMetaRecordOffset record.toBytes

/-- `ProgramFwMetaForceFlag()`. -/
def programFwMetaForceFlag : Fw EspErr := do
  let found ← findFwMeta
  if !found then
    return .notFound
  else do
    let err ← metaWrite (fwMetaRecordOffset + forceBootloaderOffset) (word32 fwForceBootloaderSet)
    if err ≠ .ok then
      return err
    else do
      let readBack ← metaRead (fwMetaRecordOffset + forceBootloaderOffset) 4
      if readBack.1 ≠ .ok then
        return readBack.1
      else
        return if readWord32 readBack.2 0 = fwForceBootloaderSet then .ok else .invalidCrc

/-- `ReadFwCtrlRecord()`: an unreadable or invalid record reads as both counts 0. -/
def readFwCtrlRecord : Fw (EspErr × FwCtrlRecord) := do
  let found ← findFwMeta
  if !found then
    return (.notFound, buildFwCtrlRecord 0 0)
  else do
    let answer ← metaRead fwCtrlRecordOffset fwCtrlRecordSize
    if answer.1 ≠ .ok || !isFwCtrlRecordValid (.ofBytes answer.2) then
      return (answer.1, buildFwCtrlRecord 0 0)
    else
      return (answer.1, .ofBytes answer.2)

/-- `WriteFwCtrlRecord()`. -/
def writeFwCtrlRecord (record : FwCtrlRecord) : Fw EspErr := do
  let found ← findFwMeta
  if !found then
    return .notFound
  else do
    let err ← metaErase fwCtrlRecordOffset fwMetaSectorBytes
    if err ≠ .ok then
      return err
    else
      metaWrite fwCtrlRecordOffset record.toBytes

/-- `ComputeFwImageSha256()`. -/
def computeFwImageSha256 : Fw (EspErr × Vector UInt8 fwSha256Len) := perform FwCall.otaSha256

end StripTuner.FwMeta
