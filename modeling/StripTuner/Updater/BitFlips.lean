import StripTuner.FwMeta.Corruption
import StripTuner.Lib.Distance
import StripTuner.Updater.ForceFlag
import StripTuner.Updater.Reply

/-!
# Flipped bits

The records lie in flash for years. A record of which up to four bits have flipped, wherever they
are, is not taken for a valid one, and no start runs the firmware on it.
-/

namespace StripTuner.Updater

open ByteLayout Crc DeviceCalls DeviceCalls.Prog FlashRegion FwMeta

/-- One to four bits are not what they were. -/
def Flipped (bytes bytes' : List UInt8) : Prop := bytes' ≠ bytes ∧ bitDistance bytes bytes' ≤ 4

instance (bytes bytes' : List UInt8) : Decidable (Flipped bytes bytes') :=
  inferInstanceAs (Decidable (_ ∧ _))

theorem fwMetaRecord_flipped {record record' : FwMetaRecord} {otaSize otaSize' : UInt32}
    (hvalid : isFwMetaRecordValid record otaSize = true)
    (hflipped : Flipped record.codeword record'.codeword) :
    isFwMetaRecordValid record' otaSize' = false := by
  by_contra hvalid'
  rw [Bool.not_eq_false] at hvalid'
  exact hflipped.1 ((isIeeeCrc_of_meta_valid hvalid).eq_of_bitDistance
    (isIeeeCrc_of_meta_valid hvalid') (by simp) (by simp) hflipped.2).symm

theorem fwCtrlRecord_flipped {record record' : FwCtrlRecord}
    (hvalid : isFwCtrlRecordValid record = true)
    (hflipped : Flipped record.toBytes record'.toBytes) : isFwCtrlRecordValid record' = false := by
  have hlength : record.coveredBytes.length = record'.coveredBytes.length := by
    rw [record.length_coveredBytes, record'.length_coveredBytes]
  by_contra hvalid'
  rw [Bool.not_eq_false] at hvalid'
  exact hflipped.1 ((isIeeeCrc_of_ctrl_valid hvalid).eq_of_bitDistance
    (isIeeeCrc_of_ctrl_valid hvalid') hlength (by rw [record.length_coveredBytes]; decide)
    hflipped.2).symm

/-- The bytes of a record up to its checksum. -/
theorem codeword_ofBytes {bytes : List UInt8} (hlength : bytes.length = fwMetaRecordSize) :
    (FwMetaRecord.ofBytes bytes).codeword = bytes.take 56 := by
  have hbytes := congrArg (List.take 56) (FwMetaRecord.toBytes_ofBytes hlength)
  rwa [FwMetaRecord.toBytes_eq, List.take_left' (by simp)] at hbytes

/-- A start does not take flipped bits for the record that was there. -/
theorem startsUpdater_of_flipped {sha : Content → Option (Vector UInt8 fwSha256Len)} {s : Board}
    {record : FwMetaRecord} {otaSize : UInt32}
    (hvalid : isFwMetaRecordValid record otaSize = true)
    (hflipped : Flipped record.codeword (read s.fwMeta 0 56)) : StartsUpdater sha s := by
  intro boot t hends hmode
  obtain ⟨-, hdecided⟩ := wp_ends (wp_decideBoot s) hends
  rw [hdecided.decision] at hmode
  have hrecord := (decideFwBoot_firmware hmode).2.1
  rw [hdecided.isRecordValid] at hrecord
  cases hpartition : s.otaPartition with
  | none =>
      rw [hpartition] at hrecord
      cases hrecord
  | some partition =>
      rw [hpartition, isRecordValidFor] at hrecord
      have hread : boot.record.codeword ≠ record.codeword →
          bitDistance record.codeword boot.record.codeword ≤ 4 → False := by
        intro hne hdistance
        rw [fwMetaRecord_flipped hvalid ⟨hne, hdistance⟩] at hrecord
        cases hrecord
      rcases hdecided.record with herased | hstored
      · rw [herased, erased_not_valid] at hrecord
        cases hrecord
      · have hcodeword : boot.record.codeword = read s.fwMeta 0 56 := by
          rw [hstored, codeword_ofBytes (length_read _ _ _), take_read _ _ (by decide)]
        rw [hcodeword] at hread
        exact hread hflipped.1 hflipped.2

theorem AnsweredCall.ne_deepSleepStart {c : FwCall} (hc : AnsweredCall c) :
    c ≠ .deepSleepStart := by
  rintro rfl
  exact hc

/-- A start that enters an updater mode does not jump to the firmware. -/
theorem StartsUpdater.stays {sha : Content → Option (Vector UInt8 fwSha256Len)} {s t : Board}
    (h : StartsUpdater sha s) : ¬ Reaches (board sha ErasesNothing) appMain s .deepSleepStart t := by
  intro hreaches
  have hwp : appMain.wp (board sha ErasesNothing) (fun c _ => c ≠ .deepSleepStart)
      (fun _ _ => True) s := by
    rw [appMain, wp_bind]
    have hread := Only.wp_guard (D := board sha ErasesNothing) (only_answered decideBoot_only) s
    have hmode : decideBoot.wp (board sha ErasesNothing) (fun _ _ => True)
        (fun boot _ => boot.decision.mode ≠ .firmware) s :=
      wp_iff.2 ⟨fun boot u => h boot u, fun _ _ _ => trivial⟩
    refine wp_conseq (wp_and hread hmode) (fun _ _ hc => hc.1.ne_deepSleepStart) ?_
    rintro boot u ⟨-, hupdater⟩
    rw [actOnDecision, startFirmware, if_neg hupdater]
    exact wp_conseq (Only.wp_guard (enterUpdaterMode_only_answered boot) u)
      (fun _ _ hc => hc.ne_deepSleepStart) fun _ _ _ => trivial
  exact wp_reaches hwp hreaches rfl

/-- One to four flipped bits, anywhere in what a record's checksum covers and in the checksum: a
metadata record and a control record that were valid are rejected, and with the metadata record in
flash every start enters an updater mode and never jumps to the firmware, whatever is behind the
checksum, in `ota_0` and in the control record. -/
theorem flippedBits_detected :
    (∀ (record record' : FwMetaRecord) (otaSize otaSize' : UInt32),
      isFwMetaRecordValid record otaSize = true → Flipped record.codeword record'.codeword →
      isFwMetaRecordValid record' otaSize' = false) ∧
    (∀ record record' : FwCtrlRecord,
      isFwCtrlRecordValid record = true → Flipped record.toBytes record'.toBytes →
      isFwCtrlRecordValid record' = false) ∧
    ∀ (sha : Content → Option (Vector UInt8 fwSha256Len)) (s : Board) (record : FwMetaRecord)
      (otaSize : UInt32), isFwMetaRecordValid record otaSize = true →
      Flipped record.codeword (read s.fwMeta 0 56) → StartsUpdater sha s ∧
        ∀ t, ¬ Reaches (board sha ErasesNothing) appMain s .deepSleepStart t :=
  ⟨fun _ _ _ _ => fwMetaRecord_flipped, fun _ _ => fwCtrlRecord_flipped,
    fun _ _ _ _ hvalid hflipped =>
      have hstarts := startsUpdater_of_flipped hvalid hflipped
      ⟨hstarts, fun _ => hstarts.stays⟩⟩

/-- The sample record with a bit of its size, of its digest and of its checksum flipped. -/
def flippedRecord : FwMetaRecord :=
  { sampleRecord with
    imageSize := sampleRecord.imageSize ^^^ 0x400
    imageSha256 := sampleRecord.imageSha256.set 5 1
    crc32 := sampleRecord.crc32 ^^^ 0x80000000 }

theorem flippedBits_detected_three :
    isFwMetaRecordValid flippedRecord 0x110000 = false ∧
      isFwCtrlRecordValid { buildFwCtrlRecord 1 0 with crashCount := 2 } = false ∧
      StartsUpdater sampleSha
        { sampleBoard with fwMeta := write sampleBoard.fwMeta 0 flippedRecord.toBytes } ∧
      ∀ t, ¬ Reaches (board sampleSha ErasesNothing) appMain
        { sampleBoard with fwMeta := write sampleBoard.fwMeta 0 flippedRecord.toBytes }
        .deepSleepStart t := by
  have hvalid : isFwMetaRecordValid sampleRecord 0x110000 = true := by decide +kernel
  have hflipped : Flipped sampleRecord.codeword flippedRecord.codeword := by decide +kernel
  obtain ⟨hmeta, hctrl, hstart⟩ := flippedBits_detected
  refine ⟨hmeta _ _ _ _ hvalid hflipped,
    hctrl (buildFwCtrlRecord 1 0) _ (by decide +kernel) (by decide +kernel),
    hstart _ _ sampleRecord _ hvalid ?_⟩
  have hread := read_write_self sampleBoard.fwMeta 0 flippedRecord.toBytes
  rw [FwMetaRecord.length_toBytes] at hread
  have hcodeword : read (write sampleBoard.fwMeta 0 flippedRecord.toBytes) 0 56 =
      flippedRecord.codeword := by
    rw [← take_read _ _ (by decide : 56 ≤ fwMetaRecordSize), hread, FwMetaRecord.toBytes_eq,
      List.take_left' (by simp)]
  rw [hcodeword]
  exact hflipped

end StripTuner.Updater
