import StripTuner.FwMeta.Records
import StripTuner.Lib.Crc

/-!
# The build-time generator

`gen_fw_meta.py` writes the `fw_meta` partition for a firmware image flashed over USB. It has its
own constants, record layouts, version rule and digest definition. `zlib.crc32()` and
`hashlib.sha256()` are parameters.
-/

namespace StripTuner.FwMeta.GenFwMeta

open ByteLayout Crc

/-! ## Constants -/

/-- `FW_META_MAGIC` of the script. -/
def fwMetaMagic : Nat := 0x57424752

/-- `FW_CTRL_MAGIC` of the script. -/
def fwCtrlMagic : Nat := 0x4C525443

/-- `FW_EMBEDDED_META_OFFSET` of the script. -/
abbrev fwEmbeddedMetaOffset : Nat := 288

/-- `FW_IMAGE_HEAD_LEN` of the script. -/
abbrev fwImageHeadLen : Nat := fwEmbeddedMetaOffset + 16

/-- `FW_FORCE_BOOTLOADER_CLEAR` of the script. -/
def fwForceBootloaderClear : Nat := 0xFFFFFFFF

/-- `FW_META_SECTOR_BYTES` of the script. -/
abbrev fwMetaSectorBytes : Nat := 4096

/-- `FW_IMAGE_MAGIC` of the script. -/
def fwImageMagic : UInt8 := 0xE9

/-- `FW_SHA256_LEN` of the script. -/
abbrev fwSha256Len : Nat := 32

/-- `IMAGE_HASH_APPENDED_OFFSET`. -/
abbrev imageHashAppendedOffset : Nat := 23

/-! ## Python -/

/-- How the script ends without an output file. -/
inductive GenError where
  | exit (message : String)
  | structError
  | unicodeEncodeError
deriving DecidableEq

/-- `I` of `struct.pack('<...')`. -/
def packI (x : Int) : Except GenError (List UInt8) :=
  if 0 ≤ x ∧ x < 2 ^ 32 then .ok (encodeLe 4 x.toNat) else .error .structError

/-- `B` of `struct.pack('<...')`. -/
def packB (x : Int) : Except GenError (List UInt8) :=
  if 0 ≤ x ∧ x < 2 ^ 8 then .ok (encodeLe 1 x.toNat) else .error .structError

/-- `<n>s` of `struct.pack('<...')`: cut or padded with zeros. -/
def packS (n : Nat) (bytes : List UInt8) : List UInt8 :=
  bytes.take n ++ List.replicate (n - bytes.length) 0

/-- `bytes.ljust(n, b'\xff')`. -/
def ljust (n : Nat) (bytes : List UInt8) : List UInt8 :=
  bytes ++ List.replicate (n - bytes.length) 0xFF

/-- `fullmatch()` of a sequence of character classes. -/
def fullmatch {α : Type} : List (α → Bool) → List α → Bool
  | [], [] => true
  | accepts :: pattern, x :: xs => accepts x && fullmatch pattern xs
  | _, _ => false

/-- `[0-9]` of a bytes pattern. -/
def isDigit (byte : UInt8) : Bool := 0x30 ≤ byte && byte ≤ 0x39

/-- `\.` of a bytes pattern. -/
def isDot (byte : UInt8) : Bool := byte = 0x2E

/-- `VERSION_PATTERN`. -/
def versionPattern : List (UInt8 → Bool) :=
  [isDigit, isDigit, isDot, isDigit, isDigit, isDot, isDigit, isDigit]

/-- `[0-9a-fA-F]`. -/
def isHexDigit (c : Char) : Bool :=
  ('0' ≤ c && c ≤ '9') || ('a' ≤ c && c ≤ 'f') || ('A' ≤ c && c ≤ 'F')

/-- `SHA256_HEX_PATTERN`. -/
def sha256HexPattern : List (Char → Bool) := List.replicate 64 isHexDigit

/-- The value of a hexadecimal digit. -/
def hexValue (c : Char) : Nat :=
  if c ≤ '9' then c.toNat - '0'.toNat
  else if c ≤ 'F' then c.toNat - 'A'.toNat + 10
  else c.toNat - 'a'.toNat + 10

/-- `bytes.fromhex()` of an even number of digits. -/
def fromHex : List Char → List UInt8
  | high :: low :: digits => UInt8.ofNat (16 * hexValue high + hexValue low) :: fromHex digits
  | _ => []

/-- `str.encode('ascii')`. -/
def encodeAscii (text : String) : Except GenError (List UInt8) :=
  if text.toList.all fun c => c.toNat < 128 then .ok (text.toList.map fun c => UInt8.ofNat c.toNat)
  else .error .unicodeEncodeError

/-! ## The script -/

section Script

variable (crc32 : List UInt8 → Nat) (sha256 : List UInt8 → Vector UInt8 fwSha256Len)

/-- `compute_crc32()`. -/
def computeCrc32 (data : List UInt8) : Nat := crc32 data &&& 0xFFFFFFFF

/-- `build_meta_record()`. -/
def buildMetaRecord (version : List UInt8) (imageSize : Int) (digest : List UInt8) :
    Except GenError (List UInt8) := do
  let magic ← packI fwMetaMagic
  let size ← packI imageSize
  let body := magic ++ packS 9 (version ++ [0]) ++ packS 3 [0, 0, 0] ++ size ++ packS 32 digest
  let crc ← packI (computeCrc32 crc32 body)
  let force ← packI fwForceBootloaderClear
  return body ++ (crc ++ force)

/-- `build_ctrl_record()`. -/
def buildCtrlRecord (crashCount bootAttempts : Int) : Except GenError (List UInt8) := do
  let magic ← packI fwCtrlMagic
  let crash ← packB crashCount
  let boot ← packB bootAttempts
  let body := magic ++ crash ++ boot ++ packS 2 [0, 0]
  let crc ← packI (computeCrc32 crc32 body)
  return body ++ crc

/-- `build_partition_image()`. -/
def buildPartitionImage (metaRecord ctrlRecord : List UInt8) : List UInt8 :=
  ljust fwMetaSectorBytes metaRecord ++ ljust fwMetaSectorBytes ctrlRecord

/-- `read_image_fields()`: version, size and digest. -/
def readImageFields (image : List UInt8) :
    Except GenError (List UInt8 × Nat × List UInt8) := do
  if image.length < fwImageHeadLen || image.getD 0 0 ≠ fwImageMagic then
    throw (.exit "gen_fw_meta: not an ESP-IDF application image")
  let magic := decodeLe (slice image fwEmbeddedMetaOffset 4)
  let versionField := slice image (fwEmbeddedMetaOffset + 4) 9
  if magic ≠ fwMetaMagic then
    throw (.exit "gen_fw_meta: no embedded firmware metadata at offset 288")
  if versionField.getD 8 0 ≠ 0 || !fullmatch versionPattern (versionField.take 8) then
    throw (.exit "gen_fw_meta: embedded version is not MM.mm.pp")
  let digest ← if image.getD imageHashAppendedOffset 0 = 1 then do
      let digest := (sha256 (image.take (image.length - fwSha256Len))).toList
      if digest ≠ image.drop (image.length - fwSha256Len) then
        throw (.exit "gen_fw_meta: appended SHA-256 does not match the image")
      pure digest
    else pure (sha256 image).toList
  return (versionField.take 8, image.length, digest)

/-- The arguments of the script, with the content of the file that `--image` names. -/
structure Args where
  image : Option (List UInt8)
  version : Option String
  imageSize : Option Int
  sha256 : Option String

/-- The record fields that `main()` takes from its arguments. -/
def recordFields (args : Args) : Except GenError (List UInt8 × Int × List UInt8) :=
  match args with
  | ⟨some image, _, _, _⟩ => do
    let (version, imageSize, digest) ← readImageFields sha256 image
    return (version, (imageSize : Int), digest)
  | ⟨none, some version, some imageSize, some digest⟩ => do
    if version.isEmpty || digest.isEmpty then
      throw (.exit "gen_fw_meta: give --image, or --version, --image-size and --sha256")
    let version ← encodeAscii version
    if !fullmatch versionPattern version then
      throw (.exit "gen_fw_meta: --version is not MM.mm.pp")
    if !fullmatch sha256HexPattern digest.toList then
      throw (.exit "gen_fw_meta: --sha256 must be exactly 64 hex digits")
    return (version, imageSize, fromHex digest.toList)
  | _ => throw (.exit "gen_fw_meta: give --image, or --version, --image-size and --sha256")

/-- `main()`: the bytes of the output file. -/
def main (args : Args) : Except GenError (List UInt8) := do
  let (version, imageSize, digest) ← recordFields sha256 args
  let metaRecord ← buildMetaRecord crc32 version imageSize digest
  let ctrlRecord ← buildCtrlRecord crc32 0 0
  return buildPartitionImage metaRecord ctrlRecord

end Script

/-! ## Checksums and versions -/

theorem toBitVec_crcShift (crc : UInt32) :
    (crcShift crc).toBitVec = Crc.shift 0xEDB88320#32 crc.toBitVec := by
  have hlow : (crc &&& 1).toBitVec =
      BitVec.setWidth 32 (BitVec.ofBool (crc.toBitVec.getLsbD 0)) := by
    rw [UInt32.toBitVec_and]
    exact BitVec.and_one_eq_setWidth_ofBool_getLsbD
  rw [crcShift, UInt32.toBitVec_xor, UInt32.toBitVec_and, UInt32.toBitVec_sub, hlow, Crc.shift]
  cases crc.toBitVec.getLsbD 0 <;> simp

theorem toBitVec_crcByte (crc : UInt32) (byte : UInt8) :
    (crcByte crc byte).toBitVec = Crc.feedChunk 0xEDB88320#32 crc.toBitVec byte.toBitVec := by
  have hrepeat : ∀ (n : Nat) (x : UInt32), (Nat.repeat crcShift n x).toBitVec =
      Nat.repeat (Crc.shift 0xEDB88320#32) n x.toBitVec := by
    intro n x
    induction n with
    | zero => rfl
    | succ n ih => rw [Nat.repeat, toBitVec_crcShift, ih, Nat.repeat]
  rw [crcByte, hrepeat, UInt32.toBitVec_xor, Crc.feedChunk, UInt8.toBitVec_toUInt32]

/-- `ComputeFwCrc32()` is the CRC-32 of IEEE 802.3. -/
theorem isIeeeCrc_computeFwCrc32 (data : List UInt8) :
    IsIeeeCrc data (computeFwCrc32 data).toBitVec := by
  have hfold : ∀ crc : UInt32, (data.foldl crcByte crc).toBitVec =
      feed 0xEDB88320#32 crc.toBitVec (data.map UInt8.toBitVec) := by
    induction data with
    | nil => simp [feed]
    | cons byte data ih =>
        intro crc
        rw [List.foldl_cons, ih, toBitVec_crcByte, List.map_cons, feed, feed, List.foldl_cons]
  have hones : (0xFFFFFFFF : UInt32).toBitVec = BitVec.allOnes 32 := by decide
  rw [computeFwCrc32, UInt32.toBitVec_xor, hfold, hones, BitVec.xor_allOnes]
  exact isIeeeCrc_feed data

/-- `zlib.crc32()` is the CRC-32 of IEEE 802.3 as an unsigned integer. -/
def IsCrc32 (crc32 : List UInt8 → Nat) : Prop :=
  ∀ data, ∃ crc : BitVec 32, crc32 data = crc.toNat ∧ IsIeeeCrc data crc

theorem isCrc32_computeFwCrc32 : IsCrc32 fun data => (computeFwCrc32 data).toNat :=
  fun data => ⟨_, rfl, isIeeeCrc_computeFwCrc32 data⟩

theorem computeCrc32_eq {crc32 : List UInt8 → Nat} (h : IsCrc32 crc32) (data : List UInt8) :
    computeCrc32 crc32 data = (computeFwCrc32 data).toNat := by
  obtain ⟨crc, hcrc, hieee⟩ := h data
  have heq : crc = (computeFwCrc32 data).toBitVec := hieee.unique (isIeeeCrc_computeFwCrc32 data)
  have hmask : crc.toNat &&& 0xFFFFFFFF = crc.toNat % 2 ^ 32 := Nat.and_two_pow_sub_one_eq_mod _ 32
  rw [computeCrc32, hcrc, hmask, Nat.mod_eq_of_lt crc.isLt, heq]
  rfl

/-- Both version rules accept the same 9 bytes. -/
theorem isValidFwVersion_field {bytes : List UInt8} (h : bytes.length = fwVersionFieldLen) :
    isValidFwVersion (field bytes 0 fwVersionFieldLen) =
      (bytes.getD 8 0 = 0 && fullmatch versionPattern (bytes.take 8)) := by
  match bytes, h with
  | [b0, b1, b2, b3, b4, b5, b6, b7, b8], _ =>
      have hfield : field [b0, b1, b2, b3, b4, b5, b6, b7, b8] 0 fwVersionFieldLen =
          #v[b0, b1, b2, b3, b4, b5, b6, b7, b8] := rfl
      rw [hfield, Bool.and_comm]
      simp [isValidFwVersion, fwVersionPattern, versionPattern, fullmatch,
        isDigit, isDot, List.finRange_succ, Bool.and_assoc, fwVersionLen]
      rfl
/-! ## Serialization -/

theorem packI_natCast {n : Nat} (h : n < 2 ^ 32) : packI n = .ok (encodeLe 4 n) := by
  have hn : (0 : Int) ≤ n ∧ (n : Int) < 2 ^ 32 := by omega
  rw [packI, if_pos hn, Int.toNat_natCast]

theorem packI_word (x : UInt32) : packI x.toNat = .ok (word32 x) := packI_natCast x.toNat_lt

theorem packS_self {n : Nat} {bytes : List UInt8} (h : bytes.length = n) :
    packS n bytes = bytes := by
  rw [packS, ← h, List.take_length, Nat.sub_self, List.replicate_zero, List.append_nil]

/-- The 8 characters of a version and its terminator. -/
def versionField (version : List UInt8) : Vector UInt8 fwVersionFieldLen :=
  field (version ++ [0]) 0 fwVersionFieldLen

theorem toList_versionField {version : List UInt8} (h : version.length = fwVersionLen) :
    (versionField version).toList = version ++ [0] := by
  have hlen : (version ++ [0]).length = fwVersionFieldLen := by simp [h]
  rw [versionField, toList_field (by rw [hlen]; simp), slice_self hlen]

theorem ok_bind {α β : Type} (a : α) (f : α → Except GenError β) : Except.ok a >>= f = f a := rfl

theorem buildMetaRecord_eq {crc32 : List UInt8 → Nat} (h : IsCrc32 crc32) {version : List UInt8}
    (hversion : version.length = fwVersionLen) (imageSize : UInt32)
    (digest : Vector UInt8 fwSha256Len) :
    buildMetaRecord crc32 version imageSize.toNat digest.toList =
      .ok (buildFwMetaRecord (versionField version) imageSize digest).toBytes := by
  have hmagic : packI fwMetaMagic = .ok (word32 FwMeta.fwMetaMagic) := by decide
  have hforce : packI fwForceBootloaderClear = .ok (word32 FwMeta.fwForceBootloaderClear) := by
    decide
  have hfield : packS 9 (version ++ [0]) = version ++ [0] := packS_self (by simp [hversion])
  have hdigest : packS 32 digest.toList = digest.toList := packS_self Vector.length_toList
  have hreserved : packS 3 [0, 0, 0] = (Vector.replicate 3 (0 : UInt8)).toList := by decide
  have hcovered : word32 FwMeta.fwMetaMagic ++ (version ++ [0]) ++
      (Vector.replicate 3 (0 : UInt8)).toList ++ word32 imageSize ++ digest.toList =
      (buildFwMetaRecord (versionField version) imageSize digest).coveredBytes := by
    simp only [FwMetaRecord.coveredBytes, buildFwMetaRecord, toList_versionField hversion]
  have hcrc : (buildFwMetaRecord (versionField version) imageSize digest).crc32 =
      computeFwCrc32 (buildFwMetaRecord (versionField version) imageSize digest).coveredBytes := by
    simp only [buildFwMetaRecord, FwMetaRecord.coveredBytes]
  have hclear : (buildFwMetaRecord (versionField version) imageSize digest).forceBootloader =
      FwMeta.fwForceBootloaderClear := by
    simp only [buildFwMetaRecord]
  rw [buildMetaRecord, hmagic, ok_bind, packI_word, ok_bind]
  simp only [hfield, hdigest, hreserved, hcovered, computeCrc32_eq h]
  rw [packI_word, ok_bind, hforce, ok_bind, FwMetaRecord.toBytes, hcrc, hclear, List.append_assoc]
  rfl

theorem buildCtrlRecord_eq {crc32 : List UInt8 → Nat} (h : IsCrc32 crc32)
    (crashCount bootAttempts : UInt8) :
    buildCtrlRecord crc32 crashCount.toNat bootAttempts.toNat =
      .ok (buildFwCtrlRecord crashCount bootAttempts).toBytes := by
  have hmagic : packI fwCtrlMagic = .ok (word32 FwMeta.fwCtrlMagic) := by decide
  have hpackB (x : UInt8) : packB x.toNat = .ok [x] := by
    have hx := x.toNat_lt
    rw [packB, if_pos (by omega), Int.toNat_natCast, encodeLe, encodeLe, UInt8.ofNat_toNat]
  have hreserved : packS 2 [0, 0] = (Vector.replicate 2 (0 : UInt8)).toList := by decide
  have hcovered : word32 FwMeta.fwCtrlMagic ++ [crashCount] ++ [bootAttempts] ++
      (Vector.replicate 2 (0 : UInt8)).toList =
      (buildFwCtrlRecord crashCount bootAttempts).coveredBytes := by
    simp only [FwCtrlRecord.coveredBytes, buildFwCtrlRecord, List.append_assoc, List.cons_append,
      List.nil_append]
  have hcrc : (buildFwCtrlRecord crashCount bootAttempts).crc32 =
      computeFwCrc32 (buildFwCtrlRecord crashCount bootAttempts).coveredBytes := by
    simp only [buildFwCtrlRecord, FwCtrlRecord.coveredBytes]
  rw [buildCtrlRecord, hmagic, ok_bind, hpackB, ok_bind, hpackB, ok_bind]
  simp only [hreserved, hcovered, computeCrc32_eq h]
  rw [packI_word, ok_bind, FwCtrlRecord.toBytes, hcrc]
  rfl

theorem slice_ljust {n : Nat} (bytes rest : List UInt8) :
    slice (ljust n bytes ++ rest) 0 bytes.length = bytes := by
  rw [ljust, List.append_assoc, slice_append_left (by omega), slice_self rfl]

/-- Each sector of the partition image starts with its record. -/
theorem slice_buildPartitionImage {metaRecord : List UInt8}
    (hmeta : metaRecord.length ≤ fwMetaSectorBytes) (ctrlRecord : List UInt8) :
    slice (buildPartitionImage metaRecord ctrlRecord) 0 metaRecord.length = metaRecord ∧
      slice (buildPartitionImage metaRecord ctrlRecord) fwMetaSectorBytes ctrlRecord.length =
        ctrlRecord := by
  have hlen : (ljust fwMetaSectorBytes metaRecord).length = fwMetaSectorBytes := by
    simp only [ljust, List.length_append, List.length_replicate]
    omega
  constructor
  · exact slice_ljust _ _
  · have h := slice_ljust (n := fwMetaSectorBytes) ctrlRecord []
    rw [List.append_nil] at h
    rw [buildPartitionImage, slice_append_right (by rw [hlen]), hlen, Nat.sub_self, h]

theorem length_of_fullmatch {α : Type} {pattern : List (α → Bool)} {xs : List α}
    (h : fullmatch pattern xs = true) : xs.length = pattern.length := by
  induction pattern generalizing xs with
  | nil => cases xs with
    | nil => rfl
    | cons x xs => simp [fullmatch] at h
  | cons accepts pattern ih => cases xs with
    | nil => simp [fullmatch] at h
    | cons x xs =>
        simp only [fullmatch, Bool.and_eq_true] at h
        simp [ih h.2]

theorem isValidFwVersion_versionField {version : List UInt8}
    (h : fullmatch versionPattern version = true) :
    isValidFwVersion (versionField version) = true := by
  have hlen : version.length = 8 := length_of_fullmatch h
  rw [versionField, isValidFwVersion_field (by simp [hlen]), ← hlen, List.take_left' rfl, h]
  simp

/-! ## Image fields -/

/-- What `read_image_fields()` has found in an image that it accepts. -/
structure ImageFields (image version : List UInt8) (size : Nat) : Prop where
  headLen : fwImageHeadLen ≤ image.length
  magic : image.getD 0 0 = fwImageMagic
  metaMagic : decodeLe (slice image fwEmbeddedMetaOffset 4) = fwMetaMagic
  field_eq : slice image (fwEmbeddedMetaOffset + 4) 9 = version ++ [0]
  isVersion : fullmatch versionPattern version = true
  size_eq : size = image.length

theorem readImageFields_ok {sha256 : List UInt8 → Vector UInt8 fwSha256Len}
    {image version digest : List UInt8} {size : Nat}
    (h : readImageFields sha256 image = .ok (version, size, digest)) :
    ImageFields image version size ∧
      if image.getD imageHashAppendedOffset 0 = 1 then
        digest = (sha256 (image.take (image.length - fwSha256Len))).toList ∧
          digest = image.drop (image.length - fwSha256Len)
      else digest = (sha256 image).toList := by
  unfold readImageFields at h
  simp only [throw, throwThe, MonadExceptOf.throw] at h
  split at h
  · cases h
  rename_i hhead
  split at h
  · cases h
  rename_i hmagic
  split at h
  · cases h
  rename_i hversion
  simp only [Bool.or_eq_true, decide_eq_true_eq, not_or, Nat.not_lt, not_not,
    Bool.not_eq_true', Bool.not_eq_false] at hhead hmagic hversion
  have hlen : (slice image (fwEmbeddedMetaOffset + 4) 9).length = 9 :=
    length_slice (Nat.le_trans (by decide) hhead.1)
  have hfields : ∀ {d : List UInt8},
      (slice image (fwEmbeddedMetaOffset + 4) 9 |>.take 8, image.length, d) =
        (version, size, digest) → ImageFields image version size := by
    rintro d heq
    obtain ⟨rfl, rfl, -⟩ : _ ∧ _ ∧ _ := by simpa only [Prod.mk.injEq] using heq
    refine ⟨hhead.1, hhead.2, hmagic, ?_, hversion.2, rfl⟩
    have hlast := List.take_append_getElem (show 8 < _ by rw [hlen]; decide)
    rw [List.getD_eq_getElem?_getD, List.getElem?_eq_getElem (by omega),
      Option.getD_some] at hversion
    rw [hversion.1] at hlast
    rw [hlast, List.take_of_length_le (by omega)]
  split at h
  · rename_i happended
    rw [if_pos happended]
    split at h
    · cases h
    · rename_i hdigest
      cases h
      exact ⟨hfields rfl, rfl, not_not.mp hdigest⟩
  · rename_i happended
    rw [if_neg happended]
    cases h
    exact ⟨hfields rfl, rfl⟩

end StripTuner.FwMeta.GenFwMeta
