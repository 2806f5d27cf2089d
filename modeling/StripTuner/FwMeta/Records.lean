import StripTuner.Esp
import StripTuner.Lib.Bytes

/-!
# Firmware metadata

The record layouts and the pure functions of `fw_meta.c`: version check, CRC-32, record validity
and construction, the check of an image head, and the boot decision.
-/

namespace StripTuner.FwMeta

open ByteLayout

/-! ## Constants -/

/-- `FW_META_MAGIC`. -/
def fwMetaMagic : UInt32 := 0x57424752

/-- `FW_CTRL_MAGIC`. -/
def fwCtrlMagic : UInt32 := 0x4C525443

/-- `FW_EMBEDDED_META_OFFSET`. -/
abbrev fwEmbeddedMetaOffset : Nat := 288

/-- `FW_VERSION_LEN`. -/
abbrev fwVersionLen : Nat := 8

/-- `FW_VERSION_FIELD_LEN`. -/
abbrev fwVersionFieldLen : Nat := fwVersionLen + 1

/-- `FW_SHA256_LEN`. -/
abbrev fwSha256Len : Nat := 32

/-- `FW_CRASH_RESET_LIMIT`. -/
def fwCrashResetLimit : UInt8 := 3

/-- `FW_FORCE_BOOTLOADER_CLEAR`. -/
def fwForceBootloaderClear : UInt32 := 0xFFFFFFFF

/-- `FW_FORCE_BOOTLOADER_SET`. -/
def fwForceBootloaderSet : UInt32 := 0

/-- `FW_IMAGE_MAGIC`. -/
def fwImageMagic : UInt8 := 0xE9

/-- `FW_IMAGE_CHIP_ID_ESP32C3`. -/
def fwImageChipIdEsp32c3 : UInt16 := 0x0005

/-- `FW_APP_DESC_MAGIC`. -/
def fwAppDescMagic : UInt32 := 0xABCD5432

/-- `FW_META_SECTOR_BYTES`. -/
abbrev fwMetaSectorBytes : Nat := 4096

/-- `FW_IMAGE_HEAD_LEN`: up to the end of the embedded metadata of 16 bytes. -/
abbrev fwImageHeadLen : Nat := fwEmbeddedMetaOffset + 16

/-- `IMAGE_CHIP_ID_OFFSET`. -/
abbrev imageChipIdOffset : Nat := 12

/-- `IMAGE_FIRST_SEGMENT_DATA_OFFSET`. -/
abbrev imageFirstSegmentDataOffset : Nat := 24 + 8

/-! ## Records -/

/-- `fw_embedded_meta_t`. -/
structure FwEmbeddedMeta where
  magic : UInt32
  version : Vector UInt8 fwVersionFieldLen
  reserved : Vector UInt8 3
deriving DecidableEq

/-- `fw_meta_record_t`. -/
@[ext] structure FwMetaRecord where
  magic : UInt32
  version : Vector UInt8 fwVersionFieldLen
  reserved : Vector UInt8 3
  imageSize : UInt32
  imageSha256 : Vector UInt8 fwSha256Len
  crc32 : UInt32
  forceBootloader : UInt32
deriving DecidableEq

/-- `fw_ctrl_record_t`. -/
@[ext] structure FwCtrlRecord where
  magic : UInt32
  crashCount : UInt8
  bootAttempts : UInt8
  reserved : Vector UInt8 2
  crc32 : UInt32
deriving DecidableEq

/-- `sizeof(fw_meta_record_t)`. -/
abbrev fwMetaRecordSize : Nat := 60

/-- `sizeof(fw_ctrl_record_t)`. -/
abbrev fwCtrlRecordSize : Nat := 12

/-- The embedded metadata at an offset of an image head. -/
def FwEmbeddedMeta.ofBytes (bytes : List UInt8) (off : Nat) : FwEmbeddedMeta where
  magic := readWord32 bytes off
  version := field bytes (off + 4) fwVersionFieldLen
  reserved := field bytes (off + 13) 3

namespace FwMetaRecord

/-- The bytes of the record before `crc32`, which the CRC covers. -/
def coveredBytes (record : FwMetaRecord) : List UInt8 :=
  word32 record.magic ++ record.version.toList ++ record.reserved.toList ++
    word32 record.imageSize ++ record.imageSha256.toList

/-- The packed record. -/
def toBytes (record : FwMetaRecord) : List UInt8 :=
  record.coveredBytes ++ word32 record.crc32 ++ word32 record.forceBootloader

def ofBytes (bytes : List UInt8) : FwMetaRecord where
  magic := readWord32 bytes 0
  version := field bytes 4 fwVersionFieldLen
  reserved := field bytes 13 3
  imageSize := readWord32 bytes 16
  imageSha256 := field bytes 20 fwSha256Len
  crc32 := readWord32 bytes 52
  forceBootloader := readWord32 bytes 56

@[simp] theorem length_coveredBytes (record : FwMetaRecord) : record.coveredBytes.length = 52 := by
  simp [coveredBytes, fwVersionFieldLen, fwVersionLen, fwSha256Len]

@[simp] theorem length_toBytes (record : FwMetaRecord) :
    record.toBytes.length = fwMetaRecordSize := by
  simp [toBytes]

@[simp] theorem ofBytes_toBytes (record : FwMetaRecord) : ofBytes record.toBytes = record := by
  have hversion : record.version.toList.length = 9 := Vector.length_toList
  have hreserved : record.reserved.toList.length = 3 := Vector.length_toList
  have hsha : record.imageSha256.toList.length = 32 := Vector.length_toList
  simp only [ofBytes, toBytes, coveredBytes, List.append_assoc]
  ext1 <;>
    simp only [readWord32_append_left, readWord32_append_right, field_append_left,
      field_append_right, readWord32_word32, field_toList, length_word32, hversion, hreserved,
      hsha, fwVersionFieldLen, fwVersionLen, fwSha256Len, Nat.reduceAdd, Nat.reduceSub,
      Nat.reduceLeDiff, Nat.le_refl]

theorem coveredBytes_ofBytes {bytes : List UInt8} (h : bytes.length = fwMetaRecordSize) :
    (ofBytes bytes).coveredBytes = slice bytes 0 52 := by
  rw [fwMetaRecordSize] at h
  simp only [coveredBytes, ofBytes, fwVersionFieldLen, fwVersionLen, fwSha256Len, Nat.reduceAdd,
    word32_readWord32, toList_field, h, Nat.reduceLeDiff]
  rw [slice_append_slice bytes 0 4 9, slice_append_slice bytes 0 13 3,
    slice_append_slice bytes 0 16 4, slice_append_slice bytes 0 20 32]

theorem toBytes_ofBytes {bytes : List UInt8} (h : bytes.length = fwMetaRecordSize) :
    (ofBytes bytes).toBytes = bytes := by
  rw [toBytes, coveredBytes_ofBytes h]
  rw [fwMetaRecordSize] at h
  simp only [ofBytes, word32_readWord32, h, Nat.reduceAdd, Nat.reduceLeDiff]
  rw [slice_append_slice bytes 0 52 4, slice_append_slice bytes 0 56 4, slice_self h]

/-- The record that erased flash reads as: `memset(record, 0xFF, sizeof(*record))`. -/
def erased : FwMetaRecord := ofBytes (List.replicate fwMetaRecordSize 0xFF)

end FwMetaRecord

namespace FwCtrlRecord

def coveredBytes (record : FwCtrlRecord) : List UInt8 :=
  word32 record.magic ++ [record.crashCount, record.bootAttempts] ++ record.reserved.toList

/-- The packed record. -/
def toBytes (record : FwCtrlRecord) : List UInt8 := record.coveredBytes ++ word32 record.crc32

def ofBytes (bytes : List UInt8) : FwCtrlRecord where
  magic := readWord32 bytes 0
  crashCount := bytes.getD 4 0
  bootAttempts := bytes.getD 5 0
  reserved := field bytes 6 2
  crc32 := readWord32 bytes 8

@[simp] theorem length_toBytes (record : FwCtrlRecord) :
    record.toBytes.length = fwCtrlRecordSize := by
  simp [toBytes, coveredBytes]

@[simp] theorem ofBytes_toBytes (record : FwCtrlRecord) : ofBytes record.toBytes = record := by
  have hreserved : record.reserved.toList.length = 2 := Vector.length_toList
  have hcounts : [record.crashCount, record.bootAttempts].length = 2 := rfl
  simp only [ofBytes, toBytes, coveredBytes, List.append_assoc]
  ext1 <;>
    simp only [readWord32_append_left, readWord32_append_right, field_append_left,
      field_append_right, readWord32_word32, field_toList, length_word32, hcounts, hreserved,
      Nat.reduceAdd, Nat.reduceSub, Nat.reduceLeDiff, Nat.le_refl] <;>
    simp [List.getD_eq_getElem?_getD]

end FwCtrlRecord

/-! ## Versions and checksums -/

/-- The pattern of `IsValidFwVersion()`: `D` stands for a digit. -/
def fwVersionPattern : Vector Char fwVersionLen := #v['D', 'D', '.', 'D', 'D', '.', 'D', 'D']

/-- `IsValidFwVersion()`. -/
def isValidFwVersion (version : Vector UInt8 fwVersionFieldLen) : Bool :=
  ((List.finRange fwVersionLen).all fun index =>
    let character := version[index.castSucc]
    if fwVersionPattern[index] = 'D' then 0x30 ≤ character && character ≤ 0x39
    else character = 0x2E) && version[fwVersionLen] = 0

/-- One step of the bit loop of `ComputeFwCrc32()`. -/
def crcShift (crc : UInt32) : UInt32 := (crc >>> 1) ^^^ (0xEDB88320 &&& (0 - (crc &&& 1)))

/-- One byte of `ComputeFwCrc32()`. -/
def crcByte (crc : UInt32) (byte : UInt8) : UInt32 := Nat.repeat crcShift 8 (crc ^^^ byte.toUInt32)

/-- `ComputeFwCrc32()`. -/
def computeFwCrc32 (data : List UInt8) : UInt32 := data.foldl crcByte 0xFFFFFFFF ^^^ 0xFFFFFFFF

/-! ## Metadata and control records -/

/-- `IsFwMetaRecordValid()`. -/
def isFwMetaRecordValid (record : FwMetaRecord) (otaSize : UInt32) : Bool :=
  record.magic = fwMetaMagic && isValidFwVersion record.version &&
    UInt32.ofNat fwImageHeadLen ≤ record.imageSize && record.imageSize ≤ otaSize &&
    record.crc32 = computeFwCrc32 record.coveredBytes

/-- `IsFwCtrlRecordValid()`. -/
def isFwCtrlRecordValid (record : FwCtrlRecord) : Bool :=
  record.magic = fwCtrlMagic && record.crc32 = computeFwCrc32 record.coveredBytes

/-- `IsFwForceRequested()`. -/
def isFwForceRequested (record : FwMetaRecord) : Bool :=
  record.forceBootloader ≠ fwForceBootloaderClear

/-- `BuildFwMetaRecord()`. -/
def buildFwMetaRecord (version : Vector UInt8 fwVersionFieldLen) (imageSize : UInt32)
    (sha256 : Vector UInt8 fwSha256Len) : FwMetaRecord :=
  let record : FwMetaRecord :=
    { magic := fwMetaMagic
      version := version
      reserved := Vector.replicate 3 0
      imageSize := imageSize
      imageSha256 := sha256
      crc32 := 0
      forceBootloader := 0 }
  { record with
    crc32 := computeFwCrc32 record.coveredBytes
    forceBootloader := fwForceBootloaderClear }

/-- `BuildFwCtrlRecord()`. -/
def buildFwCtrlRecord (crashCount bootAttempts : UInt8) : FwCtrlRecord :=
  let record : FwCtrlRecord :=
    { magic := fwCtrlMagic
      crashCount := crashCount
      bootAttempts := bootAttempts
      reserved := Vector.replicate 2 0
      crc32 := 0 }
  { record with crc32 := computeFwCrc32 record.coveredBytes }

theorem isFwForceRequested_build (version : Vector UInt8 fwVersionFieldLen) (imageSize : UInt32)
    (sha256 : Vector UInt8 fwSha256Len) :
    isFwForceRequested (buildFwMetaRecord version imageSize sha256) = false := by
  simp [isFwForceRequested, buildFwMetaRecord]

/-- A built record is valid exactly when its version and size are. -/
theorem isFwMetaRecordValid_build (version : Vector UInt8 fwVersionFieldLen)
    (imageSize otaSize : UInt32) (sha256 : Vector UInt8 fwSha256Len) :
    isFwMetaRecordValid (buildFwMetaRecord version imageSize sha256) otaSize =
      (isValidFwVersion version && UInt32.ofNat fwImageHeadLen ≤ imageSize &&
        imageSize ≤ otaSize) := by
  simp [isFwMetaRecordValid, buildFwMetaRecord, FwMetaRecord.coveredBytes]

theorem erased_not_valid (otaSize : UInt32) :
    isFwMetaRecordValid FwMetaRecord.erased otaSize = false := by
  have hmagic : FwMetaRecord.erased.magic ≠ fwMetaMagic := by decide
  simp [isFwMetaRecordValid, hmagic]

theorem erased_not_forced : isFwForceRequested FwMetaRecord.erased = false := by decide

/-! ## The head of an image -/

/-- `fw_meta_check_t`. -/
inductive FwMetaCheck where
  | ok
  | tooShort
  | notImage
  | noMetadata
  | badVersion
deriving DecidableEq

/-- `ReadLe16()`. -/
def readLe16 (bytes : List UInt8) (off : Nat) : UInt16 :=
  (bytes.getD off 0).toUInt16 ||| ((bytes.getD (off + 1) 0).toUInt16 <<< 8)

/-- `ReadLe32()`. -/
def readLe32 (bytes : List UInt8) (off : Nat) : UInt32 :=
  (bytes.getD off 0).toUInt32 ||| ((bytes.getD (off + 1) 0).toUInt32 <<< 8) |||
    ((bytes.getD (off + 2) 0).toUInt32 <<< 16) ||| ((bytes.getD (off + 3) 0).toUInt32 <<< 24)

/-- Assembling four bytes by shifts reads the little-endian word. -/
theorem readLe32_eq {bytes : List UInt8} {off : Nat} (h : off + 4 ≤ bytes.length) :
    readLe32 bytes off = readWord32 bytes off := by
  apply UInt32.toNat_inj.mp
  rw [readWord32, slice_four h, readLe32]
  generalize bytes.getD off 0 = b0, bytes.getD (off + 1) 0 = b1, bytes.getD (off + 2) 0 = b2,
    bytes.getD (off + 3) 0 = b3
  have h0 := b0.toNat_lt
  have h1 := b1.toNat_lt
  have h2 := b2.toNat_lt
  have h3 := b3.toNat_lt
  have e1 : b1.toNat <<< 8 < 2 ^ 16 := by rw [Nat.shiftLeft_eq]; omega
  have e2 : b2.toNat <<< 16 < 2 ^ 24 := by rw [Nat.shiftLeft_eq]; omega
  have e3 : b3.toNat <<< 24 < 2 ^ 32 := by rw [Nat.shiftLeft_eq]; omega
  simp only [UInt32.toNat_or, UInt32.toNat_shiftLeft, UInt8.toNat_toUInt32, UInt32.reduceToNat,
    Nat.reduceMod, decodeLe, UInt32.toNat_ofNat']
  rw [Nat.mod_eq_of_lt (by omega : b1.toNat <<< 8 < 2 ^ 32),
    Nat.mod_eq_of_lt (by omega : b2.toNat <<< 16 < 2 ^ 32), Nat.mod_eq_of_lt e3,
    or_shiftLeft_eq_add h0]
  rw [or_shiftLeft_eq_add (k := 16) (by omega)]
  rw [or_shiftLeft_eq_add (k := 24) (by omega)]
  omega

/-- `CheckFwEmbeddedMeta()`; `head_len` is the length of the list. -/
def checkFwEmbeddedMeta (imageHead : List UInt8) : FwMetaCheck :=
  if imageHead.length < fwImageHeadLen then .tooShort
  else if imageHead.getD 0 0 ≠ fwImageMagic ∨
      readLe16 imageHead imageChipIdOffset ≠ fwImageChipIdEsp32c3 ∨
      readLe32 imageHead imageFirstSegmentDataOffset ≠ fwAppDescMagic then .notImage
  else if readLe32 imageHead fwEmbeddedMetaOffset ≠ fwMetaMagic then .noMetadata
  else if !isValidFwVersion (field imageHead (fwEmbeddedMetaOffset + 4) fwVersionFieldLen) then
    .badVersion
  else .ok

/-! ## The boot decision -/

/-- `fw_boot_mode_t`. -/
inductive FwBootMode where
  | firmware
  | updaterRequested
  | updaterNoFirmware
  | updaterCrashLoop
  | updaterBootSelectFailed
deriving DecidableEq

/-- `fw_boot_inputs_t`. -/
structure FwBootInputs where
  isForceRequested : Bool
  isRecordValid : Bool
  isOtaMatch : Bool
  crashCount : UInt8
  bootAttempts : UInt8
  resetReason : ResetReason

/-- `fw_boot_decision_t`. -/
structure FwBootDecision where
  mode : FwBootMode
  crashCount : UInt8
deriving DecidableEq

/-- `IsCrashReset()`. -/
def isCrashReset (reason : ResetReason) : Bool :=
  reason = .panic || reason = .intWdt || reason = .taskWdt || reason = .wdt

/-- `DecideFwBoot()`. -/
def decideFwBoot (inputs : FwBootInputs) : FwBootDecision :=
  if inputs.isForceRequested then ⟨.updaterRequested, inputs.crashCount⟩
  else if inputs.resetReason = .deepsleep then ⟨.updaterBootSelectFailed, inputs.crashCount⟩
  else if !inputs.isRecordValid || !inputs.isOtaMatch then ⟨.updaterNoFirmware, inputs.crashCount⟩
  else if isCrashReset inputs.resetReason then
    let crashCount := if inputs.crashCount < 255 then inputs.crashCount + 1 else inputs.crashCount
    ⟨if crashCount ≥ fwCrashResetLimit then .updaterCrashLoop else .firmware, crashCount⟩
  else ⟨.firmware, inputs.crashCount⟩

/-- The firmware is only started with a valid and matching record and the force flag clear. -/
theorem decideFwBoot_firmware {inputs : FwBootInputs}
    (h : (decideFwBoot inputs).mode = .firmware) :
    inputs.isForceRequested = false ∧ inputs.isRecordValid = true ∧ inputs.isOtaMatch = true := by
  rcases inputs with ⟨force, valid, ota, count, attempts, reason⟩
  cases force
  · by_cases hd : reason = .deepsleep
    · simp [decideFwBoot, hd] at h
    · cases valid <;> cases ota <;> simp_all [decideFwBoot]
  · simp [decideFwBoot] at h

/-- After a reset that is neither a crash nor a wakeup, these conditions are enough. -/
theorem decideFwBoot_of_match {inputs : FwBootInputs} (hforce : inputs.isForceRequested = false)
    (hvalid : inputs.isRecordValid = true) (hmatch : inputs.isOtaMatch = true)
    (hdeep : inputs.resetReason ≠ .deepsleep) (hcrash : isCrashReset inputs.resetReason = false) :
    (decideFwBoot inputs).mode = .firmware := by
  simp [decideFwBoot, hforce, hvalid, hmatch, hdeep, hcrash]

end StripTuner.FwMeta
