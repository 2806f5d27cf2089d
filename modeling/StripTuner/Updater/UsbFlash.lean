import StripTuner.FwMeta.Generator
import StripTuner.Updater.Delivery

/-!
# A board flashed over USB

A firmware image is flashed to `ota_0` together with the partition that `gen_fw_meta.py` made for
it. The boot decision then finds a valid record that matches the image.
-/

namespace StripTuner.Updater

open ByteLayout DeviceCalls DeviceCalls.Prog FlashRegion FwMeta
open GenFwMeta hiding fwSha256Len fwImageHeadLen fwMetaMagic fwImageMagic fwEmbeddedMetaOffset
  fwMetaSectorBytes

/-- The digest of an image as `fw_meta_flash.h` defines it: with an appended hash that of the image
without the hash, which is compared with it. -/
def imageDigest (sha256 : List UInt8 → Vector UInt8 fwSha256Len) (image : List UInt8) :
    Option (Vector UInt8 fwSha256Len) :=
  if image.getD imageHashAppendedOffset 0 = 1 then
    let digest := sha256 (image.take (image.length - fwSha256Len))
    if digest.toList = image.drop (image.length - fwSha256Len) then some digest else none
  else some (sha256 image)

/-- `esp_partition_get_sha256()`: `sha` of a content is the digest of the image it starts with,
whose length `imageLength` takes from the header and the segments. -/
def GetsSha256 (sha256 : List UInt8 → Vector UInt8 fwSha256Len)
    (imageLength : Content → Option Nat) (sha : Content → Option (Vector UInt8 fwSha256Len)) :
    Prop :=
  ∀ content n, imageLength content = some n → sha content = imageDigest sha256 (read content 0 n)

/-- `ota_0` holds the image, all of which its header and segments describe, and `fw_meta` the
generated partition. -/
structure Flashed (imageLength : Content → Option Nat) (s : Board)
    (image partition : List UInt8) : Prop where
  hasFwMeta : s.hasFwMeta = true
  length : imageLength s.ota = some image.length
  image : read s.ota 0 image.length = image
  partition : read s.fwMeta 0 partition.length = partition

variable {crc32 : List UInt8 → Nat} {sha256 : List UInt8 → Vector UInt8 fwSha256Len}
  {imageLength : Content → Option Nat} {sha : Content → Option (Vector UInt8 fwSha256Len)}

/-- The record of an image with the given fields. -/
abbrev recordOf (version : List UInt8) (size : Nat) (digest : Vector UInt8 fwSha256Len) :
    FwMetaRecord :=
  buildFwMetaRecord (versionField version) (UInt32.ofNat size) digest

/-- The records in the sectors of a generated partition. -/
theorem slice_recordOf (version : List UInt8) (size : Nat) (digest : Vector UInt8 fwSha256Len) :
    slice (buildPartitionImage (recordOf version size digest).toBytes
        (buildFwCtrlRecord 0 0).toBytes) 0 fwMetaRecordSize = (recordOf version size digest).toBytes ∧
      slice (buildPartitionImage (recordOf version size digest).toBytes
        (buildFwCtrlRecord 0 0).toBytes) fwMetaSectorBytes fwCtrlRecordSize =
          (buildFwCtrlRecord 0 0).toBytes := by
  have hmeta := FwMetaRecord.length_toBytes (recordOf version size digest)
  have hctrl := FwCtrlRecord.length_toBytes (buildFwCtrlRecord 0 0)
  have hsectors := slice_buildPartitionImage (hmeta.trans_le (by decide))
    (buildFwCtrlRecord 0 0).toBytes
  rwa [hmeta, hctrl] at hsectors

theorem isFwMetaRecordValid_recordOf {version : List UInt8} {size : Nat}
    (hversion : fullmatch versionPattern version = true) (hsize : size < 2 ^ 32)
    (digest : Vector UInt8 fwSha256Len) (otaSize : UInt32) :
    isFwMetaRecordValid (recordOf version size digest) otaSize = true ↔
      fwImageHeadLen ≤ size ∧ size ≤ otaSize.toNat := by
  have hnat : (UInt32.ofNat size).toNat = size := UInt32.toNat_ofNat_of_lt' hsize
  rw [isFwMetaRecordValid_build, isValidFwVersion_versionField hversion, Bool.true_and,
    Bool.and_eq_true, decide_eq_true_eq, decide_eq_true_eq, UInt32.le_iff_toNat_le,
    UInt32.le_iff_toNat_le, hnat]
  rfl

/-- The script's digest is the one of `fw_meta_flash.h`. -/
theorem imageDigest_of_readImageFields {image version digest : List UInt8} {size : Nat}
    (h : readImageFields sha256 image = .ok (version, size, digest)) :
    ∃ d, digest = d.toList ∧ imageDigest sha256 image = some d := by
  have hdigest := (readImageFields_ok h).2
  split at hdigest
  · rename_i happended
    refine ⟨_, hdigest.1, ?_⟩
    rw [imageDigest, if_pos happended, if_pos (hdigest.1.symm.trans hdigest.2)]
  · rename_i happended
    exact ⟨_, hdigest, by rw [imageDigest, if_neg happended]⟩

/-- The partition that the script makes for an image. -/
theorem main_ofImage (hcrc : IsCrc32 crc32) {image version : List UInt8} {size : Nat}
    {digest : Vector UInt8 fwSha256Len} (hsize : size < 2 ^ 32)
    (h : readImageFields sha256 image = .ok (version, size, digest.toList)) (args : Args)
    (hargs : args.image = some image) :
    main crc32 sha256 args = .ok (buildPartitionImage (recordOf version size digest).toBytes
      (buildFwCtrlRecord 0 0).toBytes) := by
  have hlen : version.length = fwVersionLen :=
    length_of_fullmatch (readImageFields_ok h).1.isVersion
  have hmeta := buildMetaRecord_eq hcrc hlen (UInt32.ofNat size) digest
  rw [UInt32.toNat_ofNat_of_lt' hsize] at hmeta
  have hfields : recordFields sha256 args = .ok (version, (size : Int), digest.toList) := by
    obtain ⟨argImage, argVersion, argSize, argSha⟩ := args
    obtain rfl : argImage = some image := hargs
    rw [recordFields, h]
    rfl
  have hctrl : buildCtrlRecord crc32 0 0 = .ok (buildFwCtrlRecord 0 0).toBytes :=
    buildCtrlRecord_eq hcrc 0 0
  rw [main, hfields, ok_bind]
  dsimp only
  rw [hmeta, ok_bind, hctrl, ok_bind]
  rfl

/-- The embedded metadata of an image is what the script read from it. -/
theorem embedded_of_imageFields {image version : List UInt8} {size : Nat}
    (h : ImageFields image version size) :
    (FwEmbeddedMeta.ofBytes (image.take fwImageHeadLen) fwEmbeddedMetaOffset).magic = fwMetaMagic ∧
      (FwEmbeddedMeta.ofBytes (image.take fwImageHeadLen) fwEmbeddedMetaOffset).version =
        versionField version := by
  have hlen : (image.take fwImageHeadLen).length = fwImageHeadLen :=
    List.length_take_of_le h.headLen
  constructor
  · have hword : readWord32 (image.take fwImageHeadLen) fwEmbeddedMetaOffset =
        readWord32 image fwEmbeddedMetaOffset := by
      conv_rhs => rw [← List.take_append_drop fwImageHeadLen image]
      rw [readWord32_append_left (by rw [hlen]; decide)]
    have hmagic : readWord32 image fwEmbeddedMetaOffset = UInt32.ofNat GenFwMeta.fwMetaMagic := by
      rw [← h.metaMagic, readWord32]
    exact (hword.trans hmagic).trans (by decide)
  · have hfield : (field image (fwEmbeddedMetaOffset + 4) fwVersionFieldLen).toList =
        (versionField version).toList := by
      rw [toList_field (Nat.le_trans (by decide) h.headLen),
        toList_versionField (length_of_fullmatch h.isVersion)]
      exact h.field_eq
    exact (field_take (by decide)).trans (Vector.toList_inj.mp hfield)

/-- A flashed board has a record that matches its image. -/
theorem Flashed.otaMatches (hsha : GetsSha256 sha256 imageLength sha) {s : Board}
    {image version partition : List UInt8} {size : Nat} {digest : Vector UInt8 fwSha256Len}
    (hfields : ImageFields image version size) (hdigest : imageDigest sha256 image = some digest)
    (h : Flashed imageLength s image partition) :
    OtaMatches sha s (recordOf version size digest) := by
  have hhead : read s.ota 0 fwImageHeadLen = image.take fwImageHeadLen := by
    rw [← take_read s.ota 0 hfields.headLen, h.image]
  obtain ⟨hmagic, hversion⟩ := embedded_of_imageFields hfields
  refine ⟨?_, ?_, ?_, ?_⟩
  · rw [hhead, List.getD_eq_getElem?_getD, List.getElem?_take_of_lt (by decide),
      ← List.getD_eq_getElem?_getD]
    exact hfields.magic
  · rw [hhead, hmagic]
    simp only [recordOf, buildFwMetaRecord]
  · rw [hhead, hversion]
    simp only [recordOf, buildFwMetaRecord]
  · rw [hsha s.ota _ h.length, h.image, hdigest]
    simp only [recordOf, buildFwMetaRecord]

/-- A board flashed with an image of a size that fits is bootable. -/
theorem Flashed.bootable (hsha : GetsSha256 sha256 imageLength sha) {s : Board} {ota : OtaPartition}
    {image version : List UInt8} {size : Nat} {digest : Vector UInt8 fwSha256Len}
    (hfields : ImageFields image version size) (hdigest : imageDigest sha256 image = some digest)
    (hfits : size ≤ ota.size.toNat) (hota : s.otaPartition = some ota)
    (h : Flashed imageLength s image (buildPartitionImage (recordOf version size digest).toBytes
      (buildFwCtrlRecord 0 0).toBytes)) :
    Bootable sha s (recordOf version size digest) where
  hasFwMeta := h.hasFwMeta
  stored := by
    have hsector := (slice_recordOf version size digest).1
    rw [← h.partition, slice_read] at hsector
    · exact hsector
    · simp [buildPartitionImage, ljust]
  valid := by
    have hsize : size < 2 ^ 32 := Nat.lt_of_le_of_lt hfits ota.size.toNat_lt
    rw [hota]
    refine (isFwMetaRecordValid_recordOf hfields.isVersion hsize digest ota.size).mpr ⟨?_, hfits⟩
    rw [hfields.size_eq]
    exact hfields.headLen
  notForced := isFwForceRequested_build _ _ _
  otaMatches := h.otaMatches hsha hfields hdigest

/-- The script and the code agree: on the records, on the sizes that are valid, and on the image of
a flashed board, for which `IsOtaMatchingRecord()` is called by the decision and holds. -/
theorem generator_agrees (hcrc : IsCrc32 crc32) (hsha : GetsSha256 sha256 imageLength sha) :
    (∀ (version : List UInt8) (size : Nat) (digest : Vector UInt8 fwSha256Len),
      fullmatch versionPattern version = true → size < 2 ^ 32 →
      ∃ metaRecord ctrlRecord,
        buildMetaRecord crc32 version size digest.toList = .ok metaRecord ∧
        buildCtrlRecord crc32 0 0 = .ok ctrlRecord ∧
        slice (buildPartitionImage metaRecord ctrlRecord) 0 fwMetaRecordSize =
          (recordOf version size digest).toBytes ∧
        slice (buildPartitionImage metaRecord ctrlRecord) fwMetaSectorBytes fwCtrlRecordSize =
          (buildFwCtrlRecord 0 0).toBytes ∧
        ∀ otaSize, isFwMetaRecordValid (recordOf version size digest) otaSize = true ↔
          fwImageHeadLen ≤ size ∧ size ≤ otaSize.toNat) ∧
    ∀ (image : List UInt8) (ota : OtaPartition) (args : Args),
      (∃ fields, readImageFields sha256 image = .ok fields) →
      fwImageHeadLen ≤ image.length → image.length ≤ ota.size.toNat → args.image = some image →
      ∃ partition, main crc32 sha256 args = .ok partition ∧
        ∀ (s : Board) (failedErase : UInt8 → UInt8 → Prop) (reason : ResetReason),
          Flashed imageLength s image partition → s.otaPartition = some ota →
          (∃ boot t, Ends (reliable sha failedErase reason) decideBoot s boot t) ∧
          ∀ boot t, Ends (reliable sha failedErase reason) decideBoot s boot t →
            boot.inputs.isRecordValid = true ∧ boot.inputs.isOtaMatch = true := by
  constructor
  · intro version size digest hversion hsize
    have hlen : version.length = fwVersionLen := length_of_fullmatch hversion
    have hmeta := buildMetaRecord_eq hcrc hlen (UInt32.ofNat size) digest
    rw [UInt32.toNat_ofNat_of_lt' hsize] at hmeta
    have hsectors := slice_recordOf version size digest
    exact ⟨_, _, hmeta, buildCtrlRecord_eq hcrc 0 0, hsectors.1, hsectors.2,
      isFwMetaRecordValid_recordOf hversion hsize digest⟩
  · rintro image ota args ⟨⟨version, size, digest⟩, hread⟩ - hfits hargs
    have hfields := (readImageFields_ok hread).1
    obtain ⟨digest, rfl, hdigest⟩ := imageDigest_of_readImageFields hread
    obtain rfl := hfields.size_eq
    have hsize : image.length < 2 ^ 32 := Nat.lt_of_le_of_lt hfits ota.size.toNat_lt
    refine ⟨_, main_ofImage hcrc hsize hread args hargs, ?_⟩
    intro s failedErase reason hflashed hota
    have hboot : decideBoot.wp (reliable sha failedErase reason) (fun c _ => ReadCall c) _ s :=
      wp_decideBoot_bootable (hflashed.bootable hsha hfields hdigest hfits hota)
    constructor
    · exact exists_ends_of_wp hboot fun c s hc => reliable_answers reason c hc s
    · intro boot t hends
      obtain ⟨-, -, hvalid, hmatch, -⟩ := wp_ends hboot hends
      exact ⟨hvalid, hmatch⟩

/-- The length of the sample image, in the contents that start with it. -/
def sampleLength (content : Content) : Option Nat :=
  if read content 0 sampleImage.length = sampleImage then some sampleImage.length else none

/-- The sample board with a generated partition. -/
def usbFlashedBoard (partition : List UInt8) : Board :=
  { sampleBoard with fwMeta := write (fun _ => 0xFF) 0 partition }

theorem getsSha256_sample : GetsSha256 (fun _ => sampleDigest) sampleLength sampleSha := by
  intro content n hn
  have hdigest : imageDigest (fun _ => sampleDigest) sampleImage = some sampleDigest := by
    decide +kernel
  unfold sampleLength at hn
  split at hn
  · rename_i hread
    cases hn
    rw [hread, hdigest, sampleSha_of_read hread]
  · cases hn

theorem generator_agrees_sample :
    ∃ partition,
      main (fun data => (computeFwCrc32 data).toNat) (fun _ => sampleDigest)
        ⟨some sampleImage, none, none, none⟩ = .ok partition ∧
      ∃ boot t, Ends (reliable sampleSha (fun _ _ => True) .poweron) decideBoot
          (usbFlashedBoard partition) boot t ∧
        boot.inputs.isRecordValid = true ∧ boot.inputs.isOtaMatch = true := by
  have hread : ∃ fields, readImageFields (fun _ => sampleDigest) sampleImage = .ok fields :=
    ⟨(slice sampleImage 292 8, sampleImage.length, sampleDigest.toList), by decide +kernel⟩
  have hagrees := generator_agrees isCrc32_computeFwCrc32 getsSha256_sample
  obtain ⟨partition, hmain, hboots⟩ := hagrees.2 sampleImage ⟨0xF0000, 0x110000⟩
    ⟨some sampleImage, none, none, none⟩ hread (by decide +kernel) sampleImage_fits rfl
  have hota : (usbFlashedBoard partition).ota = sampleContent := by
    simp only [usbFlashedBoard, sampleBoard]
  have hflashed : Flashed sampleLength (usbFlashedBoard partition) sampleImage partition := by
    refine ⟨rfl, ?_, ?_, read_write_self _ 0 partition⟩
    · rw [hota]
      exact if_pos read_sampleContent
    · rw [hota]
      exact read_sampleContent
  obtain ⟨⟨boot, t, hends⟩, hall⟩ :=
    hboots (usbFlashedBoard partition) (fun _ _ => True) .poweron hflashed rfl
  exact ⟨partition, hmain, boot, t, hends, hall boot t hends⟩

end StripTuner.Updater
