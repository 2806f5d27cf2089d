import StripTuner.FwMeta.Generator
import StripTuner.Lib.Burst

/-!
# Corrupted records

What the checksums of the metadata and the control record see: every change within four consecutive
bytes of what they cover and of themselves. The force-bootloader word behind the metadata record's
checksum is outside.
-/

namespace StripTuner.FwMeta

open ByteLayout Crc

/-! ## Codewords -/

/-- The bytes that a checksum covers, and the checksum. -/
def FwMetaRecord.codeword (record : FwMetaRecord) : List UInt8 :=
  record.coveredBytes ++ word32 record.crc32

@[simp] theorem FwMetaRecord.length_codeword (record : FwMetaRecord) :
    record.codeword.length = 56 := by
  simp [codeword]

theorem FwMetaRecord.toBytes_eq (record : FwMetaRecord) :
    record.toBytes = record.codeword ++ word32 record.forceBootloader := rfl

theorem FwMetaRecord.toBytes_injective {record record' : FwMetaRecord}
    (h : record.toBytes = record'.toBytes) : record = record' := by
  rw [← ofBytes_toBytes record, h, ofBytes_toBytes]

theorem FwCtrlRecord.toBytes_injective {record record' : FwCtrlRecord}
    (h : record.toBytes = record'.toBytes) : record = record' := by
  rw [← ofBytes_toBytes record, h, ofBytes_toBytes]

theorem FwCtrlRecord.length_coveredBytes (record : FwCtrlRecord) :
    record.coveredBytes.length = 8 := by
  simp [coveredBytes]

/-- A metadata record that is the same but for the force-bootloader word. -/
theorem FwMetaRecord.eq_of_codeword {record record' : FwMetaRecord}
    (h : record'.codeword = record.codeword) :
    record' = { record with forceBootloader := record'.forceBootloader } := by
  apply toBytes_injective
  rw [toBytes_eq, h]
  rfl

section Valid

variable {otaSize : UInt32}

theorem isIeeeCrc_of_eq {data : List UInt8} {crc : UInt32} (h : crc = computeFwCrc32 data) :
    IsIeeeCrc data crc.toBitVec := by
  rw [h]
  exact GenFwMeta.isIeeeCrc_computeFwCrc32 data

theorem isIeeeCrc_of_meta_valid {record : FwMetaRecord}
    (h : isFwMetaRecordValid record otaSize = true) :
    IsIeeeCrc record.coveredBytes record.crc32.toBitVec := by
  rw [isFwMetaRecordValid, Bool.and_eq_true] at h
  exact isIeeeCrc_of_eq (of_decide_eq_true h.2)

theorem isIeeeCrc_of_ctrl_valid {record : FwCtrlRecord} (h : isFwCtrlRecordValid record = true) :
    IsIeeeCrc record.coveredBytes record.crc32.toBitVec := by
  rw [isFwCtrlRecordValid, Bool.and_eq_true] at h
  exact isIeeeCrc_of_eq (of_decide_eq_true h.2)

/-- Two valid metadata records that differ only within four bytes before the force-bootloader word. -/
theorem meta_eq_of_agreeOutside {record record' : FwMetaRecord} {otaSize' : UInt32} {off : Nat}
    (hvalid : isFwMetaRecordValid record otaSize = true)
    (hvalid' : isFwMetaRecordValid record' otaSize' = true) (hoff : off + 4 ≤ 56)
    (hagree : AgreeOutside off 4 record.toBytes record'.toBytes) : record' = record := by
  rw [record.toBytes_eq, record'.toBytes_eq] at hagree
  have hlength : record.codeword.length = record'.codeword.length := by simp
  have hforce := hagree.tail_eq hlength (by simpa using hoff)
  have hcodeword : record.codeword = record'.codeword :=
    (isIeeeCrc_of_meta_valid hvalid).eq_of_agreeOutside (isIeeeCrc_of_meta_valid hvalid') (by simp)
      (hagree.of_append hlength)
  apply FwMetaRecord.toBytes_injective
  rw [record.toBytes_eq, record'.toBytes_eq, hcodeword, hforce]

/-- Two valid control records that differ only within four bytes. -/
theorem ctrl_eq_of_agreeOutside {record record' : FwCtrlRecord} {off : Nat}
    (hvalid : isFwCtrlRecordValid record = true) (hvalid' : isFwCtrlRecordValid record' = true)
    (hagree : AgreeOutside off 4 record.toBytes record'.toBytes) : record' = record := by
  apply FwCtrlRecord.toBytes_injective
  have hlength : record.coveredBytes.length = record'.coveredBytes.length := by
    rw [record.length_coveredBytes, record'.length_coveredBytes]
  exact ((isIeeeCrc_of_ctrl_valid hvalid).eq_of_agreeOutside (isIeeeCrc_of_ctrl_valid hvalid')
    hlength hagree).symm

end Valid

/-! ## Localized corruption -/

/-- A record that differs from a valid one, and only within four consecutive bytes of the covered
bytes and the checksum, is rejected, for any size of the partition; one that differs in the
force-bootloader word only is accepted as before. -/
theorem fwRecordValid_corrupted :
    (∀ (record record' : FwMetaRecord) (otaSize otaSize' : UInt32) (off : Nat),
      isFwMetaRecordValid record otaSize = true → off + 4 ≤ 56 → record' ≠ record →
      AgreeOutside off 4 record.toBytes record'.toBytes →
      isFwMetaRecordValid record' otaSize' = false) ∧
    (∀ (record record' : FwCtrlRecord) (off : Nat),
      isFwCtrlRecordValid record = true → off + 4 ≤ 12 → record' ≠ record →
      AgreeOutside off 4 record.toBytes record'.toBytes → isFwCtrlRecordValid record' = false) ∧
    (∀ (record record' : FwMetaRecord) (otaSize : UInt32),
      isFwMetaRecordValid record otaSize = true →
      AgreeOutside 56 4 record.toBytes record'.toBytes →
      isFwMetaRecordValid record' otaSize = true) := by
  refine ⟨?_, ?_, ?_⟩
  · intro record record' otaSize otaSize' off hvalid hoff hne hagree
    by_contra hvalid'
    rw [Bool.not_eq_false] at hvalid'
    exact hne (meta_eq_of_agreeOutside hvalid hvalid' hoff hagree)
  · intro record record' off hvalid _ hne hagree
    by_contra hvalid'
    rw [Bool.not_eq_false] at hvalid'
    exact hne (ctrl_eq_of_agreeOutside hvalid hvalid' hagree)
  · intro record record' otaSize hvalid hagree
    have hcodeword : record'.codeword = record.codeword := by
      have htake := hagree.take_eq
      rw [record.toBytes_eq, record'.toBytes_eq, List.take_left' (by simp),
        List.take_left' (by simp)] at htake
      exact htake.symm
    rw [FwMetaRecord.eq_of_codeword hcodeword]
    exact hvalid

/-- A changed checksum, a changed crash count and a set force-bootloader word. -/
theorem fwRecordValid_corrupted_fields :
    (∃ record : FwMetaRecord, isFwMetaRecordValid record 0x100000 = true ∧
      isFwMetaRecordValid { record with crc32 := record.crc32 + 1 } 0x100000 = false ∧
      isFwMetaRecordValid { record with forceBootloader := fwForceBootloaderSet } 0x100000 =
        true) ∧
    isFwCtrlRecordValid { buildFwCtrlRecord 1 0 with crashCount := 2 } = false := by
  obtain ⟨hmeta, hctrl, hforce⟩ := fwRecordValid_corrupted
  refine ⟨⟨buildFwMetaRecord #v[0x30, 0x31, 0x2E, 0x30, 0x32, 0x2E, 0x30, 0x33, 0] 4096
    (Vector.replicate 32 0), ?_⟩, ?_⟩
  · generalize hrecord : buildFwMetaRecord #v[0x30, 0x31, 0x2E, 0x30, 0x32, 0x2E, 0x30, 0x33, 0] 4096
      (Vector.replicate 32 0) = record
    have hvalid : isFwMetaRecordValid record 0x100000 = true := by
      rw [← hrecord, isFwMetaRecordValid_build]
      decide
    refine ⟨hvalid, hmeta record _ _ _ 52 hvalid (by decide) ?_ ?_, hforce record _ _ hvalid ?_⟩
    · intro heq
      simpa using congrArg FwMetaRecord.crc32 heq
    · have hagree := @agreeOutside_append UInt8 4 record.coveredBytes
        (word32 record.forceBootloader) (word32 record.crc32) (word32 (record.crc32 + 1)) (by simp)
        (by simp)
      rw [record.length_coveredBytes, ← List.append_assoc, ← List.append_assoc] at hagree
      exact hagree
    · have hagree := @agreeOutside_append UInt8 4 record.codeword [] (word32 record.forceBootloader)
        (word32 fwForceBootloaderSet) (by simp) (by simp)
      rw [record.length_codeword, List.append_nil, List.append_nil] at hagree
      exact hagree
  · refine hctrl (buildFwCtrlRecord 1 0) _ 4 ?_ (by decide) ?_ ?_
    · simp [isFwCtrlRecordValid, buildFwCtrlRecord, FwCtrlRecord.coveredBytes]
    · intro heq
      exact absurd (congrArg FwCtrlRecord.crashCount heq) (by decide)
    · simp only [FwCtrlRecord.toBytes, FwCtrlRecord.coveredBytes, List.append_assoc]
      exact @agreeOutside_append UInt8 4 (word32 fwCtrlMagic) _ [1, 0] [2, 0] rfl (by decide)

end StripTuner.FwMeta
