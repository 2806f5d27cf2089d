import StripTuner.Updater.Board
import StripTuner.Updater.Boot

/-!
# What the boot decision sees

The boot decision only reads. Its record is the one in sector 0, or the erased one when the read
failed, and a match means that `ota_0` has the record's version and digest.
-/

namespace StripTuner.Updater

open ByteLayout DeviceCalls DeviceCalls.Prog FlashRegion FwMeta

variable {sha : Content → Option (Vector UInt8 fwSha256Len)} {failedErase : UInt8 → UInt8 → Prop}

/-! ## The calls of each function -/

theorem isOtaMatchingRecord_only (record : FwMetaRecord) :
    (isOtaMatchingRecord record).Only ReadCall :=
  Only.bind ⟨trivial, fun _ => trivial⟩ fun _ => Only.ite trivial
    (Only.ite trivial (Only.bind ⟨trivial, fun _ => trivial⟩ fun _ => trivial))

theorem decideBoot_only : decideBoot.Only ReadCall :=
  Only.bind ⟨trivial, fun _ => trivial⟩ fun _ => Only.bind readFwMetaRecord_only fun record =>
    Only.bind readFwCtrlRecord_only fun _ => Only.bind ⟨trivial, fun _ => trivial⟩ fun _ =>
      Only.ite (Only.bind (isOtaMatchingRecord_only record.2) fun _ => trivial) trivial

/-- Clearing the force flag reads, erases sector 0 and writes a record there. -/
theorem clearForceFlag_only_of {P : FwCall → Prop} (hread : ∀ c, ReadCall c → P c)
    (herase : P (.metaErase fwMetaRecordOffset fwMetaSectorBytes))
    (hwrite : ∀ record : FwMetaRecord, P (.metaWrite fwMetaRecordOffset record.toBytes))
    (record : FwMetaRecord) : (clearForceFlag record).Only P := by
  have hfind : P .findFwMeta := hread _ trivial
  have hback : (readFwMetaRecord >>= fun _ => (pure () : Fw Unit)).Only P :=
    Only.bind (Only.mono readFwMetaRecord_only hread) fun _ => trivial
  refine Only.bind ?_ fun err => Only.ite (Only.bind ?_ fun err => Only.ite hback trivial) ?_
  · exact Only.bind ⟨hfind, fun _ => trivial⟩ fun _ => Only.ite trivial ⟨herase, fun _ => trivial⟩
  · exact Only.bind ⟨hfind, fun _ => trivial⟩ fun _ =>
      Only.ite trivial ⟨hwrite _, fun _ => trivial⟩
  · exact Only.bind trivial fun err => Only.ite hback trivial

theorem saveCrashCount_only (stored : FwCtrlRecord) (crashCount : UInt8) :
    (saveCrashCount stored crashCount).Only QuietCall :=
  Only.ite trivial (Only.bind (writeFwCtrlRecord_only _) fun _ => trivial)

theorem jumpToFirmware_only (ota : OtaPartition) : (jumpToFirmware ota).Only QuietCall :=
  Only.bind ⟨trivial, fun _ => trivial⟩ fun _ => Only.bind ⟨trivial, fun _ => trivial⟩ fun _ =>
    Only.ite trivial (Only.bind ⟨trivial, fun _ => trivial⟩ fun _ => Only.ite trivial
      (Only.bind ⟨trivial, fun _ => trivial⟩ fun never => never.elim))

theorem startUpdaterMode_only (reason : UpdaterReason) (ota : Option OtaPartition)
    (version : Option Version) : (startUpdaterMode reason ota version).Only QuietCall :=
  Only.bind ⟨trivial, fun _ => trivial⟩ fun _ =>
    Only.ite (Only.bind ⟨trivial, fun _ => trivial⟩ fun _ => trivial) trivial

theorem startFirmware_only (boot : BootDecision) : (startFirmware boot).Only QuietCall := by
  refine Only.ite (Only.bind (saveCrashCount_only _ _) fun _ => ?_) trivial
  cases boot.ota with
  | none => trivial
  | some ota => exact jumpToFirmware_only ota

/-- After the decision only the clearing of the force flag writes to sector 0. -/
theorem actOnDecision_only {P : FwCall → Prop} (hquiet : ∀ c, QuietCall c → P c)
    (boot : BootDecision)
    (hforce : boot.inputs.isForceRequested = true → (clearForceFlag boot.record).Only P) :
    (actOnDecision boot).Only P := by
  refine Only.bind (Only.mono (startFirmware_only boot) hquiet) fun _ => ?_
  have hrest : ∀ stored count reason version, (saveCrashCount stored count >>= fun _ =>
      startUpdaterMode reason boot.ota version).Only P := fun stored count reason version =>
    Only.bind (Only.mono (saveCrashCount_only _ _) hquiet) fun _ =>
      Only.mono (startUpdaterMode_only _ _ _) hquiet
  unfold enterUpdaterMode
  by_cases hreq : boot.inputs.isForceRequested = true
  · rw [if_pos hreq]
    exact Only.bind (hforce hreq) fun _ => hrest _ _ _ _
  · rw [if_neg hreq]
    exact hrest _ _ _ _

/-! ## The decision -/

/-- The image in `ota_0` is the one the record describes. -/
structure OtaMatches (sha : Content → Option (Vector UInt8 fwSha256Len)) (s : Board)
    (record : FwMetaRecord) : Prop where
  magic : (read s.ota 0 fwImageHeadLen).getD 0 0 = fwImageMagic
  embeddedMagic :
    (FwEmbeddedMeta.ofBytes (read s.ota 0 fwImageHeadLen) fwEmbeddedMetaOffset).magic = record.magic
  version : (FwEmbeddedMeta.ofBytes (read s.ota 0 fwImageHeadLen) fwEmbeddedMetaOffset).version =
    record.version
  digest : sha s.ota = some record.imageSha256

theorem wp_isOtaMatchingRecord (record : FwMetaRecord) (s : Board) :
    (isOtaMatchingRecord record).wp (board sha failedErase) (fun _ _ => True)
      (fun isMatch t => t = s ∧ (isMatch = true → OtaMatches sha s record)) s := by
  rw [isOtaMatchingRecord, otaRead, wp_bind, wp_perform]
  refine ⟨trivial, fun head t ht => ?_⟩
  obtain ⟨hread, rfl⟩ := ht
  rw [wp_ite]
  split
  · exact ⟨rfl, fun h => by cases h⟩
  rename_i hhead
  simp only [ne_eq, decide_not, Bool.or_eq_true, Bool.not_eq_true', decide_eq_false_iff_not,
    not_or, not_not] at hhead
  obtain ⟨hok, hmagic⟩ := hhead
  rw [hread hok] at hmagic ⊢
  rw [wp_ite]
  split
  · exact ⟨rfl, fun h => by cases h⟩
  rename_i hmeta
  simp only [ne_eq, decide_not, Bool.or_eq_true, Bool.not_eq_true', decide_eq_false_iff_not,
    not_or, not_not] at hmeta
  rw [computeFwImageSha256, wp_bind, wp_perform]
  refine ⟨trivial, fun sha256 u hu => ?_⟩
  obtain ⟨hsha, rfl⟩ := hu
  refine ⟨rfl, fun h => ?_⟩
  simp only [Bool.and_eq_true, decide_eq_true_eq] at h
  exact ⟨hmagic, hmeta.1, hmeta.2, by rw [hsha h.1, h.2]⟩

/-- What `app_main()` knows of the board when it has decided. -/
structure DecidedOn (sha : Content → Option (Vector UInt8 fwSha256Len)) (s : Board)
    (boot : BootDecision) : Prop where
  ota : boot.ota = s.otaPartition
  record : ReadRecord s boot.record
  isForceRequested : boot.inputs.isForceRequested = isFwForceRequested boot.record
  isRecordValid : boot.inputs.isRecordValid = isRecordValidFor s.otaPartition boot.record
  isOtaMatch : boot.inputs.isOtaMatch = true → OtaMatches sha s boot.record
  decision : boot.decision = decideFwBoot boot.inputs

theorem wp_decideBoot (s : Board) :
    decideBoot.wp (board sha failedErase) (fun _ t => t = s)
      (fun boot t => t = s ∧ DecidedOn sha s boot) s := by
  refine wp_conseq (wp_and (wp_readOnly decideBoot_only s) (?_ : decideBoot.wp
    (board sha failedErase) (fun _ _ => True) (fun boot _ => DecidedOn sha s boot) s))
    (fun _ _ h => h.1) (fun _ _ h => h)
  rw [decideBoot, findOta, wp_bind, wp_perform]
  refine ⟨trivial, fun ota t ht => ?_⟩
  obtain ⟨rfl, rfl⟩ := ht
  rw [wp_bind]
  refine wp_mono (wp_readFwMetaRecord t) ?_
  rintro record _ ⟨rfl, hrecord, -⟩
  rw [wp_bind]
  refine wp_conseq (wp_readOnly readFwCtrlRecord_only _) (fun _ _ _ => trivial) ?_
  rintro ctrl u rfl
  rw [wp_bind, wp_perform]
  refine ⟨trivial, fun resetReason v hv => ?_⟩
  obtain rfl : v = u := hv
  dsimp only
  rw [wp_ite]
  split
  · rw [wp_bind]
    refine wp_mono (wp_isOtaMatchingRecord record.2 v) ?_
    rintro isMatch _ ⟨rfl, hmatch⟩
    exact ⟨rfl, hrecord, rfl, rfl, hmatch, rfl⟩
  · exact ⟨rfl, hrecord, rfl, rfl, (fun h => by cases h), rfl⟩

/-- An erased sector 0 never starts the firmware. -/
theorem decidedOn_erased {s : Board} {boot : BootDecision} (h : DecidedOn sha s boot)
    (he : s.Sector0Erased) :
    boot.inputs.isForceRequested = false ∧ boot.decision.mode ≠ .firmware := by
  have hrecord := readRecord_of_erased h.record he
  have hvalid : boot.inputs.isRecordValid = false := by
    rw [h.isRecordValid, hrecord]
    cases s.otaPartition with
    | none => rfl
    | some partition => exact erased_not_valid partition.size
  refine ⟨by rw [h.isForceRequested, hrecord, erased_not_forced], fun hmode => ?_⟩
  rw [h.decision] at hmode
  exact absurd (decideFwBoot_firmware hmode).2.1 (by rw [hvalid]; decide)

/-! ## A start whose reads work -/

/-- The board after a given reset, with all reads successful and the digest call giving the digest
when there is one. -/
def reliable (sha : Content → Option (Vector UInt8 fwSha256Len))
    (failedErase : UInt8 → UInt8 → Prop) (reason : ResetReason) :
    Device FwCall FwCall.Answer Board
  | .metaRead off len => fun s r t => r.1 = .ok ∧ board sha failedErase (.metaRead off len) s r t
  | .otaRead off len => fun s r t => r.1 = .ok ∧ board sha failedErase (.otaRead off len) s r t
  | .otaSha256 => fun s r t =>
    (∀ d, sha s.ota = some d → r = (.ok, d)) ∧ board sha failedErase .otaSha256 s r t
  | .resetReason => fun s r t => r = reason ∧ board sha failedErase .resetReason s r t
  | c => board sha failedErase c

theorem reliable_le_board (reason : ResetReason) (c : FwCall) (s : Board) (r : c.Answer) (t : Board)
    (h : reliable sha failedErase reason c s r t) : board sha failedErase c s r t := by
  cases c with
  | metaRead _ _ | otaRead _ _ | otaSha256 | resetReason => exact h.2
  | _ => exact h

theorem reliable_answers (reason : ResetReason) (c : FwCall) (hc : ReadCall c) (s : Board) :
    ∃ r t, reliable sha failedErase reason c s r t := by
  cases c with
  | findOta => exact ⟨s.otaPartition, s, rfl, rfl⟩
  | findFwMeta => exact ⟨s.hasFwMeta, s, rfl, rfl⟩
  | metaRead off len => exact ⟨(.ok, read s.fwMeta off len), s, rfl, fun _ => rfl, rfl⟩
  | otaRead off len => exact ⟨(.ok, read s.ota off len), s, rfl, fun _ => rfl, rfl⟩
  | otaSha256 =>
      cases hsha : sha s.ota with
      | none =>
          refine ⟨(.fail, Vector.replicate _ 0), s, ?_, (fun h => by cases h), rfl⟩
          exact fun d hd => by rw [hsha] at hd; cases hd
      | some d =>
          refine ⟨(.ok, d), s, ?_, fun _ => hsha, rfl⟩
          exact fun d' hd => by rw [hsha] at hd; rw [Option.some.inj hd]
  | resetReason => exact ⟨reason, s, rfl, rfl⟩
  | _ => exact hc.elim

/-- Sector 0 holds a valid record of the image in `ota_0`, with the force flag clear. -/
structure Bootable (sha : Content → Option (Vector UInt8 fwSha256Len)) (s : Board)
    (record : FwMetaRecord) : Prop where
  hasFwMeta : s.hasFwMeta = true
  stored : read s.fwMeta 0 fwMetaRecordSize = record.toBytes
  valid : isRecordValidFor s.otaPartition record = true
  notForced : isFwForceRequested record = false
  otaMatches : OtaMatches sha s record

section Reliable

variable {s : Board} {record : FwMetaRecord} {reason : ResetReason}

/-- With working reads the stored record is read. -/
theorem wp_readFwMetaRecord_stored (h : s.hasFwMeta = true) :
    readFwMetaRecord.wp (reliable sha failedErase reason) (fun c _ => ReadCall c)
      (fun answer t => t = s ∧ answer.2 = .ofBytes (read s.fwMeta 0 fwMetaRecordSize)) s := by
  rw [readFwMetaRecord, findFwMeta, wp_bind, wp_perform]
  refine ⟨trivial, fun found t ht => ?_⟩
  obtain ⟨rfl, rfl⟩ := ht
  rw [if_neg (by simp [h]), metaRead, wp_bind, wp_perform]
  refine ⟨trivial, fun answer u hu => ?_⟩
  obtain ⟨hok, hread, rfl⟩ := hu
  rw [if_neg (not_not.mpr hok), hread hok]
  exact ⟨rfl, rfl⟩

theorem wp_readFwMetaRecord_reliable (h : Bootable sha s record) :
    readFwMetaRecord.wp (reliable sha failedErase reason) (fun c _ => ReadCall c)
      (fun answer t => t = s ∧ answer.2 = record) s := by
  refine wp_mono (wp_readFwMetaRecord_stored h.hasFwMeta) ?_
  rintro answer t ⟨rfl, hanswer⟩
  exact ⟨rfl, by rw [hanswer, h.stored, FwMetaRecord.ofBytes_toBytes]⟩

theorem wp_readFwCtrlRecord_reliable :
    readFwCtrlRecord.wp (reliable sha failedErase reason) (fun c _ => ReadCall c)
      (fun _ t => t = s) s := by
  rw [readFwCtrlRecord, findFwMeta, wp_bind, wp_perform]
  refine ⟨trivial, fun found t ht => ?_⟩
  obtain ⟨-, rfl⟩ := ht
  rw [wp_ite]
  split
  · rfl
  rw [metaRead, wp_bind, wp_perform]
  refine ⟨trivial, fun answer u hu => ?_⟩
  obtain ⟨-, -, rfl⟩ := hu
  rw [wp_ite]
  split <;> rfl

theorem wp_isOtaMatchingRecord_reliable (h : OtaMatches sha s record) :
    (isOtaMatchingRecord record).wp (reliable sha failedErase reason) (fun c _ => ReadCall c)
      (fun isMatch t => t = s ∧ isMatch = true) s := by
  rw [isOtaMatchingRecord, otaRead, wp_bind, wp_perform]
  refine ⟨trivial, fun head t ht => ?_⟩
  obtain ⟨hok, hread, rfl⟩ := ht
  rw [hread hok, if_neg (by simp only [hok, h.magic]; decide),
    if_neg (by simp [h.embeddedMagic, h.version]), computeFwImageSha256, wp_bind, wp_perform]
  refine ⟨trivial, fun sha256 u hu => ?_⟩
  obtain ⟨hsha, -, rfl⟩ := hu
  obtain rfl := hsha _ h.digest
  exact ⟨rfl, by simp⟩

/-- With working reads the decision is made on the stored record, valid and matching. -/
theorem wp_decideBoot_bootable (h : Bootable sha s record) :
    decideBoot.wp (reliable sha failedErase reason) (fun c _ => ReadCall c)
      (fun boot t => t = s ∧ boot.record = record ∧ boot.inputs.isRecordValid = true ∧
        boot.inputs.isOtaMatch = true ∧ boot.inputs.resetReason = reason ∧
        boot.inputs.isForceRequested = isFwForceRequested record ∧
        boot.decision = decideFwBoot boot.inputs) s := by
  rw [decideBoot, findOta, wp_bind, wp_perform]
  refine ⟨trivial, fun ota t ht => ?_⟩
  obtain ⟨rfl, rfl⟩ := ht
  rw [wp_bind]
  refine wp_mono (wp_readFwMetaRecord_reliable h) ?_
  rintro stored t ⟨rfl, rfl⟩
  rw [wp_bind]
  refine wp_mono wp_readFwCtrlRecord_reliable ?_
  rintro ctrl u rfl
  rw [wp_bind, wp_perform]
  refine ⟨trivial, fun resetReason v hv => ?_⟩
  obtain ⟨rfl, rfl⟩ := hv
  dsimp only
  rw [if_pos h.valid, wp_bind]
  refine wp_mono (wp_isOtaMatchingRecord_reliable h.otaMatches) ?_
  rintro isMatch t ⟨rfl, rfl⟩
  exact ⟨rfl, rfl, h.valid, rfl, rfl, rfl, rfl⟩

/-- With working reads, a reset that is neither a crash nor a wakeup starts a bootable image. -/
theorem wp_decideBoot_reliable (h : Bootable sha s record) (hdeep : reason ≠ .deepsleep)
    (hcrash : isCrashReset reason = false) :
    decideBoot.wp (reliable sha failedErase reason) (fun c _ => ReadCall c)
      (fun boot t => t = s ∧ boot.record = record ∧ boot.decision.mode = .firmware) s := by
  refine wp_mono (wp_decideBoot_bootable h) ?_
  rintro boot t ⟨rfl, hrecord, hvalid, hmatch, rfl, hforce, hdecision⟩
  refine ⟨rfl, hrecord, ?_⟩
  rw [hdecision]
  exact decideFwBoot_of_match (hforce.trans h.notForced) hvalid hmatch hdeep hcrash

theorem exists_decideBoot_firmware (failedErase : UInt8 → UInt8 → Prop) (h : Bootable sha s record)
    (hdeep : reason ≠ .deepsleep) (hcrash : isCrashReset reason = false) :
    ∃ boot t, Ends (reliable sha failedErase reason) decideBoot s boot t ∧
      boot.decision.mode = .firmware := by
  have hwp : decideBoot.wp (reliable sha failedErase reason) (fun c _ => ReadCall c)
      (fun boot t => t = s ∧ boot.record = record ∧ boot.decision.mode = .firmware) s :=
    wp_decideBoot_reliable h hdeep hcrash
  obtain ⟨boot, t, hends⟩ := exists_ends_of_wp hwp fun c s hc => reliable_answers reason c hc s
  exact ⟨boot, t, hends, (wp_ends hwp hends).2.2⟩

end Reliable

end StripTuner.Updater
