import Mathlib.Logic.Relation
import StripTuner.Updater.Delivery

/-!
# The force flag

The firmware asks for the updater by programming the force word of the metadata record without an
erase; the updater clears it by an erase and a rewrite. With working flash, a request keeps the
record valid, the next start enters the updater, and afterwards the record is what it was.
-/

namespace StripTuner.Updater

open ByteLayout DeviceCalls DeviceCalls.Prog FlashRegion FwMeta Relation

variable {sha : Content → Option (Vector UInt8 fwSha256Len)} {failedErase : UInt8 → UInt8 → Prop}

/-! ## Working flash -/

/-- The board after a given reset, with all flash operations successful. -/
def norBoard (sha : Content → Option (Vector UInt8 fwSha256Len)) (reason : ResetReason) :
    Device FwCall FwCall.Answer Board
  | .metaErase off len => fun s r t =>
    r = .ok ∧ reliable sha SetsBits reason (.metaErase off len) s r t
  | .metaWrite off bytes => fun s r t =>
    r = .ok ∧ t = { s with fwMeta := program s.fwMeta off bytes }
  | c => reliable sha SetsBits reason c

theorem norBoard_le_reliable (reason : ResetReason) (c : FwCall) (s : Board) (r : c.Answer)
    (t : Board) (h : norBoard sha reason c s r t) : reliable sha SetsBits reason c s r t := by
  cases c with
  | metaErase _ _ => exact h.2
  | metaWrite off bytes =>
      obtain ⟨-, rfl⟩ := h
      exact ⟨_, sameOutside_program s.fwMeta off bytes, rfl⟩
  | _ => exact h

/-! ## The force word -/

/-- The force word, as stored. -/
def Board.forceWord (s : Board) : UInt32 := readWord32 (read s.fwMeta 0 fwMetaRecordSize) 56

/-- Only bits of the force word were programmed. -/
structure ForceProgrammed (s t : Board) : Prop where
  sameOutside : SameOutside s.fwMeta t.fwMeta forceBootloaderOffset 4
  onlyClears : OnlyClears s.fwMeta t.fwMeta
  others : t = { s with fwMeta := t.fwMeta }

theorem ForceProgrammed.refl (s : Board) : ForceProgrammed s s := ⟨fun _ _ => rfl, .refl _, rfl⟩

theorem ForceProgrammed.trans {s t u : Board} (h : ForceProgrammed s t) (h' : ForceProgrammed t u) :
    ForceProgrammed s u where
  sameOutside := h.sameOutside.trans h'.sameOutside
  onlyClears := h.onlyClears.trans h'.onlyClears
  others := by rw [h'.others, h.others]

theorem readWord32_read_eq {f g : Content} {off : Nat}
    (h : SameOutside f g forceBootloaderOffset 4) (hoff : off + 4 ≤ forceBootloaderOffset) :
    readWord32 (read g 0 fwMetaRecordSize) off = readWord32 (read f 0 fwMetaRecordSize) off := by
  have hsize : off + 4 ≤ fwMetaRecordSize := Nat.le_trans hoff (by decide)
  rw [readWord32, readWord32, slice_read hsize, slice_read hsize,
    h.read_eq (.inl (by rwa [Nat.zero_add]))]

theorem field_read_eq {f g : Content} {off n : Nat}
    (h : SameOutside f g forceBootloaderOffset 4) (hoff : off + n ≤ forceBootloaderOffset) :
    field (read g 0 fwMetaRecordSize) off n = field (read f 0 fwMetaRecordSize) off n := by
  have hsize : off + n ≤ fwMetaRecordSize := Nat.le_trans hoff (by decide)
  apply Vector.toList_inj.mp
  rw [toList_field (by simpa using hsize), toList_field (by simpa using hsize), slice_read hsize,
    slice_read hsize, h.read_eq (.inl (by rwa [Nat.zero_add]))]

/-- The record with the stored force word, and otherwise as it was. -/
theorem ForceProgrammed.record {s t : Board} (h : ForceProgrammed s t) :
    FwMetaRecord.ofBytes (read t.fwMeta 0 fwMetaRecordSize) =
      { FwMetaRecord.ofBytes (read s.fwMeta 0 fwMetaRecordSize) with
        forceBootloader := t.forceWord } := by
  ext1
  · exact readWord32_read_eq h.sameOutside (by decide)
  · exact field_read_eq h.sameOutside (by decide)
  · exact field_read_eq h.sameOutside (by decide)
  · exact readWord32_read_eq h.sameOutside (by decide)
  · exact field_read_eq h.sameOutside (by decide)
  · exact readWord32_read_eq h.sameOutside (by decide)
  · rfl

/-- The force word does not matter for the validity of the record. -/
theorem isRecordValidFor_force (ota : Option OtaPartition) (record : FwMetaRecord) (word : UInt32) :
    isRecordValidFor ota { record with forceBootloader := word } = isRecordValidFor ota record := by
  cases ota <;> rfl

/-! ## Requests -/

section Requests

variable {s t : Board} {record : FwMetaRecord} {reason : ResetReason}

theorem Bootable.record_eq (h : Bootable sha s record) :
    FwMetaRecord.ofBytes (read s.fwMeta 0 fwMetaRecordSize) = record := by
  rw [h.stored, FwMetaRecord.ofBytes_toBytes]

theorem Bootable.sameRecord {content : Content} (h : Bootable sha s record)
    (hread : read content 0 fwMetaRecordSize = read s.fwMeta 0 fwMetaRecordSize) :
    Bootable sha { s with fwMeta := content } record where
  hasFwMeta := h.hasFwMeta
  stored := hread.trans h.stored
  valid := h.valid
  notForced := h.notForced
  otaMatches := ⟨h.otaMatches.magic, h.otaMatches.embeddedMagic, h.otaMatches.version,
    h.otaMatches.digest⟩

/-- What a reliable start would read is read here. -/
theorem wp_nor {α : Type} {p : Fw α} {G : FwCall → Board → Prop} {Q : α → Board → Prop}
    (h : p.wp (reliable sha SetsBits reason) G Q s) :
    p.wp (norBoard sha reason) (fun _ _ => True) Q s :=
  wp_mono_device h (fun _ _ _ => trivial) fun c s r t _ => norBoard_le_reliable reason c s r t

/-- All bits of the force word are programmed. -/
theorem read_programmed_zero (f : Content) :
    read (program f forceBootloaderOffset (word32 fwForceBootloaderSet)) forceBootloaderOffset 4 =
      word32 fwForceBootloaderSet := by
  have hbytes : word32 fwForceBootloaderSet = List.replicate 4 0 := by decide
  rw [hbytes]
  refine List.ext_getElem (by simp) fun i hi hi' => ?_
  have hlt : i < 4 := by simpa using hi'
  rw [getElem_read, program, if_pos (by simp; omega), List.getElem_replicate,
    Nat.add_sub_cancel_left, List.getD_eq_getElem?_getD, List.getElem?_replicate, if_pos hlt]
  exact UInt8.and_zero

/-- The force word by its own read. -/
theorem Board.forceWord_eq (s : Board) :
    s.forceWord = readWord32 (read s.fwMeta forceBootloaderOffset 4) 0 := by
  rw [Board.forceWord, readWord32, readWord32, slice_read (by decide), slice_self (length_read ..),
    Nat.zero_add]

theorem wp_programFwMetaForceFlag (h : s.hasFwMeta = true) :
    programFwMetaForceFlag.wp (norBoard sha reason) (fun _ _ => True)
      (fun err t => err = .ok ∧ ForceProgrammed s t ∧ t.forceWord = 0) s := by
  rw [programFwMetaForceFlag, findFwMeta, wp_bind, wp_perform]
  refine ⟨trivial, fun found t ht => ?_⟩
  obtain ⟨rfl, rfl⟩ := ht
  rw [if_neg (by simp [h]), metaWrite, wp_bind, wp_perform]
  refine ⟨trivial, fun err u hu => ?_⟩
  obtain ⟨rfl, rfl⟩ := hu
  rw [if_neg (by simp), metaRead, wp_bind, wp_perform]
  refine ⟨trivial, fun readBack v hv => ?_⟩
  obtain ⟨hok, hread, rfl⟩ := hv
  have hword : readWord32 readBack.2 0 = fwForceBootloaderSet := by
    rw [hread hok]
    show readWord32 (read (program t.fwMeta forceBootloaderOffset _) forceBootloaderOffset 4) 0 = _
    rw [read_programmed_zero, readWord32_word32]
  rw [if_neg (not_not.mpr hok), if_pos hword]
  refine ⟨rfl, ⟨sameOutside_program t.fwMeta _ _, onlyClears_program t.fwMeta _ _, rfl⟩, ?_⟩
  rw [hread hok] at hword
  rw [Board.forceWord_eq]
  exact hword

/-- A request programs the force word of a valid record. -/
theorem wp_requestFwUpdate_nor (h : Bootable sha s record) (ht : ForceProgrammed s t) :
    requestFwUpdate.wp (norBoard sha reason) (fun _ _ => True)
      (fun answer u => answer = .set ∧ ForceProgrammed s u ∧ u.forceWord = 0) t := by
  have hmeta : t.hasFwMeta = true := by rw [ht.others]; exact h.hasFwMeta
  rw [requestFwUpdate, findOta, wp_bind, wp_perform]
  refine ⟨trivial, fun ota u hu => ?_⟩
  obtain ⟨rfl, rfl⟩ := hu
  rw [wp_bind]
  refine wp_mono (wp_nor (wp_readFwMetaRecord_stored hmeta)) ?_
  rintro answer t' ⟨rfl, hanswer⟩
  have hvalid : isRecordValidFor t'.otaPartition answer.2 = true := by
    rw [hanswer, ht.record, isRecordValidFor_force, h.record_eq, ht.others]
    exact h.valid
  rw [if_neg (by simp [hvalid]), wp_bind]
  refine wp_mono (wp_programFwMetaForceFlag hmeta) ?_
  rintro err u ⟨rfl, hu, hword⟩
  exact ⟨rfl, ht.trans hu, hword⟩

/-- Any number of requests. -/
def Requests (sha : Content → Option (Vector UInt8 fwSha256Len)) (reason : ResetReason) :
    Board → Board → Prop :=
  ReflTransGen fun s t => ∃ answer, Ends (norBoard sha reason) requestFwUpdate s answer t

theorem Requests.programmed (h : Bootable sha s record) (hruns : Requests sha reason s t) :
    ForceProgrammed s t := by
  induction hruns with
  | refl => exact .refl s
  | tail _ hstep ih =>
      obtain ⟨answer, hends⟩ := hstep
      exact (wp_ends (wp_requestFwUpdate_nor h ih) hends).2.1

end Requests

/-! ## The start after a request -/

section Start

variable {s t : Board} {record : FwMetaRecord} {reason : ResetReason}

/-- Reading leaves the board as it is. -/
theorem wp_readOnly_nor {α : Type} {p : Fw α} (hp : p.Only ReadCall) (s : Board) :
    p.wp (norBoard sha reason) (fun _ _ => True) (fun _ t => t = s) s :=
  wp_nor (wp_mono_device (wp_readOnly hp s) (fun _ _ h => h)
    fun c s r t _ => reliable_le_board reason c s r t)

/-- A programmed force word is the only input of the next decision. -/
theorem wp_decideBoot_forced (h : Bootable sha s record) (ht : ForceProgrammed s t)
    (hword : t.forceWord ≠ fwForceBootloaderClear) :
    decideBoot.wp (norBoard sha reason) (fun _ _ => True)
      (fun boot u => u = t ∧ boot.record = { record with forceBootloader := t.forceWord } ∧
        boot.inputs.isForceRequested = true ∧ boot.decision.mode = .updaterRequested ∧
        boot.decision.crashCount = boot.ctrl.crashCount) t := by
  have hmeta : t.hasFwMeta = true := by rw [ht.others]; exact h.hasFwMeta
  rw [decideBoot, findOta, wp_bind, wp_perform]
  refine ⟨trivial, fun ota u hu => ?_⟩
  obtain ⟨-, rfl⟩ := hu
  rw [wp_bind]
  refine wp_mono (wp_nor (wp_readFwMetaRecord_stored hmeta)) ?_
  rintro stored v ⟨rfl, hstored⟩
  rw [ht.record, h.record_eq] at hstored
  have hforced : isFwForceRequested stored.2 = true := by
    simpa [hstored, isFwForceRequested] using hword
  rw [wp_bind]
  refine wp_mono (wp_readOnly_nor readFwCtrlRecord_only v) ?_
  rintro ctrl w rfl
  rw [wp_bind, wp_perform]
  refine ⟨trivial, fun resetReason x hx => ?_⟩
  obtain ⟨-, rfl⟩ := hx
  dsimp only
  rw [wp_ite]
  split
  · rw [wp_bind]
    refine wp_mono (wp_readOnly_nor (isOtaMatchingRecord_only stored.2) x) ?_
    rintro isMatch y rfl
    exact ⟨rfl, hstored, hforced, by simp [decideFwBoot, hforced], by simp [decideFwBoot, hforced]⟩
  · exact ⟨rfl, hstored, hforced, by simp [decideFwBoot, hforced], by simp [decideFwBoot, hforced]⟩

/-- Sector 0 is erased but for the record, and all else is as it was. -/
structure Restored (record : FwMetaRecord) (s t : Board) : Prop where
  fwMeta : t.fwMeta = write (erase s.fwMeta 0 fwMetaSectorBytes) 0 record.toBytes
  ota : t.ota = s.ota
  otaPartition : t.otaPartition = s.otaPartition
  hasFwMeta : t.hasFwMeta = s.hasFwMeta

theorem wp_clearForceFlag_nor (h : t.hasFwMeta = true) (record : FwMetaRecord) :
    (clearForceFlag record).wp (norBoard sha reason) (fun _ _ => True)
      (fun _ u => Restored { record with forceBootloader := fwForceBootloaderClear } t u) t := by
  have herase : eraseFwMetaRecord.wp (norBoard sha reason) (fun _ _ => True)
      (fun err u => err = .ok ∧ u = t.erased) t := by
    rw [eraseFwMetaRecord, findFwMeta, wp_bind, wp_perform]
    refine ⟨trivial, fun found u hu => ?_⟩
    obtain ⟨rfl, rfl⟩ := hu
    rw [if_neg (by simp [h]), metaErase, wp_perform]
    refine ⟨trivial, fun err v hv => ?_⟩
    obtain ⟨rfl, ⟨-, rfl⟩ | ⟨hne, -⟩⟩ := hv
    · exact ⟨rfl, rfl⟩
    · exact absurd rfl hne
  have hwrite : ∀ record : FwMetaRecord, (writeFwMetaRecord record).wp (norBoard sha reason)
      (fun _ _ => True) (fun err u => err = .ok ∧ Restored record t u) t.erased := by
    intro record
    rw [writeFwMetaRecord, findFwMeta, wp_bind, wp_perform]
    refine ⟨trivial, fun found u hu => ?_⟩
    obtain ⟨rfl, rfl⟩ := hu
    rw [if_neg (by simp [Board.erased, h]), metaWrite, wp_perform]
    refine ⟨trivial, fun err v hv => ?_⟩
    obtain ⟨rfl, rfl⟩ := hv
    refine ⟨rfl, ?_, rfl, rfl, rfl⟩
    apply program_erased
    exact fun i hi hi' => t.erased_sector0 i hi (Nat.lt_of_lt_of_le hi' (by simp; decide))
  rw [clearForceFlag, wp_bind]
  refine wp_mono herase ?_
  rintro err u ⟨rfl, rfl⟩
  dsimp only
  rw [if_pos rfl, wp_bind]
  refine wp_mono (hwrite _) ?_
  rintro err u ⟨rfl, hu⟩
  rw [if_pos rfl, wp_bind]
  refine wp_mono (wp_readOnly_nor readFwMetaRecord_only u) ?_
  rintro readBack v rfl
  exact hu

theorem wp_startUpdaterMode_nor (reason' : UpdaterReason) (ota : Option OtaPartition)
    (version : Option Version) (s : Board) :
    (startUpdaterMode reason' ota version).wp (norBoard sha reason) (fun _ _ => True)
      (fun _ t => t = s) s := by
  rw [startUpdaterMode, wp_bind, wp_perform]
  refine ⟨trivial, fun isUp t ht => ?_⟩
  obtain rfl : t = s := ht
  rw [wp_ite]
  split
  · rw [wp_bind, wp_perform]
    refine ⟨trivial, fun isStarted u hu => ?_⟩
    obtain rfl : u = t := hu
    rfl
  · rfl

/-- The start after a request writes the record back with the force word clear. -/
theorem wp_appMain_forced (h : Bootable sha s record) (ht : ForceProgrammed s t)
    (hword : t.forceWord ≠ fwForceBootloaderClear) :
    appMain.wp (norBoard sha reason) (fun _ _ => True) (fun _ u => Restored record t u) t := by
  have hmeta : t.hasFwMeta = true := by rw [ht.others]; exact h.hasFwMeta
  have hclear : record.forceBootloader = fwForceBootloaderClear := by
    simpa [isFwForceRequested] using h.notForced
  rw [appMain, wp_bind]
  refine wp_mono (wp_decideBoot_forced h ht hword) ?_
  rintro boot u ⟨rfl, hrecord, hforced, hmode, hcount⟩
  have hfirmware : boot.decision.mode ≠ .firmware := by simp [hmode]
  have hloop : boot.decision.mode ≠ .updaterCrashLoop := by simp [hmode]
  rw [actOnDecision, wp_bind, startFirmware, if_neg hfirmware]
  show (enterUpdaterMode boot).wp _ _ _ _
  rw [enterUpdaterMode, if_pos hforced, wp_bind]
  refine wp_mono (wp_clearForceFlag_nor hmeta boot.record) fun _ v hv => ?_
  have hsame : ({ boot.record with forceBootloader := fwForceBootloaderClear } : FwMetaRecord) =
      record := by
    rw [hrecord, ← hclear]
  rw [hsame] at hv
  dsimp only
  rw [if_neg hfirmware, if_neg hloop, saveCrashCount, if_pos hcount, pure_bind]
  refine wp_mono (wp_startUpdaterMode_nor _ _ _ v) ?_
  rintro _ w rfl
  exact hv

theorem Restored.bootable {u : Board} (h : Bootable sha s record) (ht : ForceProgrammed s t)
    (hu : Restored record t u) : Bootable sha u record where
  hasFwMeta := by rw [hu.hasFwMeta, ht.others]; exact h.hasFwMeta
  stored := by
    have hread := read_write_self (erase t.fwMeta 0 fwMetaSectorBytes) 0 record.toBytes
    rwa [FwMetaRecord.length_toBytes, ← hu.fwMeta] at hread
  valid := by rw [hu.otaPartition, ht.others]; exact h.valid
  notForced := h.notForced
  otaMatches := by
    have hota : u.ota = s.ota := by rw [hu.ota, ht.others]
    exact ⟨by rw [hota]; exact h.otaMatches.magic, by rw [hota]; exact h.otaMatches.embeddedMagic,
      by rw [hota]; exact h.otaMatches.version, by rw [hota]; exact h.otaMatches.digest⟩

/-- The record is what it was, and the rest of sector 0 is erased. -/
theorem Restored.sector0 {u : Board} (h : Bootable sha s record) (ht : ForceProgrammed s t)
    (hu : Restored record t u) :
    (∀ i < fwMetaRecordSize, u.fwMeta i = s.fwMeta i) ∧
      ∀ i, fwMetaRecordSize ≤ i → i < fwMetaSectorBytes → u.fwMeta i = 0xFF := by
  constructor
  · intro i hi
    have hread : read u.fwMeta 0 fwMetaRecordSize = read s.fwMeta 0 fwMetaRecordSize := by
      rw [(hu.bootable h ht).stored, h.stored]
    have hbyte := congrArg (fun bytes => bytes[i]?) hread
    simpa [getElem_read, hi] using hbyte
  · intro i hi hi'
    have hlength := record.length_toBytes
    rw [hu.fwMeta, write, if_neg (by omega), erase, if_pos (by omega)]

/-- An update request is one-shot: it only programs bits of the force word, the next start enters the
updater and writes the record back, and the start after that runs the firmware again. -/
theorem force_flag_round_trip (h : Bootable sha s record) :
    (∀ reason t, Requests sha reason s t → ForceProgrammed s t ∧
      isRecordValidFor t.otaPartition (.ofBytes (read t.fwMeta 0 fwMetaRecordSize)) = true ∧
      ∀ answer u, Ends (norBoard sha reason) requestFwUpdate t answer u →
        answer = .set ∧ u.forceWord ≠ fwForceBootloaderClear) ∧
    ∀ t, ForceProgrammed s t → t.forceWord ≠ fwForceBootloaderClear → ∀ reason,
      (∀ boot u, Ends (norBoard sha reason) decideBoot t boot u →
        boot.decision.mode = .updaterRequested) ∧
      ∀ u, Ends (norBoard sha reason) appMain t () u →
        (∀ i < fwMetaRecordSize, u.fwMeta i = s.fwMeta i) ∧
        (∀ i, fwMetaRecordSize ≤ i → i < fwMetaSectorBytes → u.fwMeta i = 0xFF) ∧
        ∀ reason' boot v, reason' ≠ .deepsleep → isCrashReset reason' = false →
          Ends (norBoard sha reason') decideBoot u boot v → boot.decision.mode = .firmware := by
  refine ⟨fun reason t hruns => ?_, fun t ht hword reason => ⟨?_, ?_⟩⟩
  · have ht := Requests.programmed h hruns
    refine ⟨ht, ?_, fun answer u hends => ?_⟩
    · rw [ht.record, isRecordValidFor_force, h.record_eq, ht.others]
      exact h.valid
    · obtain ⟨hset, -, hword⟩ := wp_ends (wp_requestFwUpdate_nor h ht) hends
      exact ⟨hset, by rw [hword]; decide⟩
  · intro boot u hends
    exact (wp_ends (wp_decideBoot_forced h ht hword) hends).2.2.2.1
  · intro u hends
    have hu := wp_ends (wp_appMain_forced h ht hword) hends
    obtain ⟨hrecord, hrest⟩ := hu.sector0 h ht
    refine ⟨hrecord, hrest, fun reason' boot v hdeep hcrash hboot => ?_⟩
    have hstart := wp_nor (wp_decideBoot_reliable (hu.bootable h ht) hdeep hcrash)
    exact (wp_ends hstart hboot).2.2

end Start

/-! ## Executions -/

section Executions

variable {s t : Board} {record : FwMetaRecord} {reason : ResetReason}

/-- A call that working flash and the updater mode always answer. -/
def AnsweredCall : FwCall → Prop
  | .metaErase _ _ | .metaWrite _ _ | .startUpdaterAp | .startUpdaterHttp _ _ _ => True
  | c => ReadCall c

theorem answeredCall_answers (c : FwCall) (s : Board) (hc : AnsweredCall c) :
    ∃ r t, norBoard sha reason c s r t := by
  have hread : ∀ c, ReadCall c → ∃ r t, reliable sha SetsBits reason c s r t := fun c hc =>
    reliable_answers reason c hc s
  cases c with
  | metaErase off len => exact ⟨.ok, _, rfl, .inl ⟨rfl, rfl⟩⟩
  | metaWrite off bytes => exact ⟨.ok, _, rfl, rfl⟩
  | startUpdaterAp | startUpdaterHttp _ _ _ => exact ⟨true, s, rfl⟩
  | findOta | findFwMeta | metaRead _ _ | otaRead _ _ | otaSha256 | resetReason => exact hread _ hc
  | _ => exact hc.elim

theorem ReadCall.answered {c : FwCall} (hc : ReadCall c) : AnsweredCall c := by
  cases c with
  | metaErase _ _ | metaWrite _ _ | startUpdaterAp | startUpdaterHttp _ _ _ => trivial
  | _ => exact hc

theorem only_answered {α : Type} {p : Fw α} (h : p.Only ReadCall) : p.Only AnsweredCall :=
  Only.mono h fun _ => ReadCall.answered

theorem requestFwUpdate_only_answered : requestFwUpdate.Only AnsweredCall := by
  refine Only.bind ⟨trivial, fun _ => trivial⟩ fun _ =>
    Only.bind (only_answered readFwMetaRecord_only) fun _ => Only.ite trivial
      (Only.bind ?_ fun _ => Only.ite trivial trivial)
  exact Only.bind ⟨trivial, fun _ => trivial⟩ fun _ => Only.ite trivial
    (Only.bind ⟨trivial, fun _ => trivial⟩ fun _ => Only.ite trivial
      (Only.bind ⟨trivial, fun _ => trivial⟩ fun _ => Only.ite trivial trivial))

theorem enterUpdaterMode_only_answered (boot : BootDecision) :
    (enterUpdaterMode boot).Only AnsweredCall := by
  have hsave : ∀ (stored : FwCtrlRecord) (count : UInt8), (saveCrashCount stored count).Only
      AnsweredCall := fun stored count =>
    Only.ite trivial (Only.bind (Only.bind ⟨trivial, fun _ => trivial⟩ fun _ => Only.ite trivial
      (Only.bind ⟨trivial, fun _ => trivial⟩ fun _ => Only.ite trivial
        ⟨trivial, fun _ => trivial⟩)) fun _ => trivial)
  have hstart : ∀ reason ota version, (startUpdaterMode reason ota version).Only AnsweredCall :=
    fun _ _ _ => Only.bind ⟨trivial, fun _ => trivial⟩ fun _ =>
      Only.ite (Only.bind ⟨trivial, fun _ => trivial⟩ fun _ => trivial) trivial
  refine Only.ite (Only.bind ?_ fun _ => Only.bind (hsave _ _) fun _ => hstart _ _ _)
    (Only.bind (hsave _ _) fun _ => hstart _ _ _)
  exact clearForceFlag_only_of (fun _ => ReadCall.answered) trivial (fun _ => trivial) _

theorem exists_decideBoot_nor (s : Board) (reason : ResetReason) :
    ∃ boot, Ends (norBoard sha reason) decideBoot s boot s := by
  obtain ⟨boot, t, hends⟩ := exists_ends_of_only (only_answered decideBoot_only)
    (fun c s => answeredCall_answers c s) s
  obtain rfl := wp_ends (wp_readOnly_nor decideBoot_only s) hends
  exact ⟨boot, hends⟩

/-- The request and the next start can be run to their end. -/
theorem exists_request_and_start (h : Bootable sha s record) (reason : ResetReason) :
    ∃ t u, Ends (norBoard sha reason) requestFwUpdate s .set t ∧ ForceProgrammed s t ∧
      t.forceWord ≠ fwForceBootloaderClear ∧ Ends (norBoard sha reason) appMain t () u := by
  have hanswers : ∀ c s, AnsweredCall c → ∃ r t, norBoard sha reason c s r t :=
    fun c s => answeredCall_answers c s
  obtain ⟨answer, t, hrequest⟩ := exists_ends_of_only requestFwUpdate_only_answered
    hanswers s
  obtain ⟨rfl, ht, hword⟩ := wp_ends (wp_requestFwUpdate_nor h (.refl s)) hrequest
  have hforced : t.forceWord ≠ fwForceBootloaderClear := by
    rw [hword]
    decide
  obtain ⟨boot, hdecide⟩ := exists_decideBoot_nor t reason
  have hboot := wp_ends (wp_decideBoot_forced h ht hforced) hdecide
  have hstay : boot.decision.mode ≠ .firmware := by simp [hboot.2.2.2.1]
  obtain ⟨_, v, hact⟩ := exists_ends_of_only (enterUpdaterMode_only_answered boot)
    hanswers t
  refine ⟨t, v, hrequest, ht, hforced, hdecide.bind ?_⟩
  have hskip : Ends (norBoard sha reason) (startFirmware boot) t () t := by
    rw [startFirmware, if_neg hstay]
    exact .ret _ _
  exact hskip.bind hact

end Executions

/-- A request, the start that clears it, and the start after that. -/
theorem force_flag_round_trip_sample :
    ∃ (t u : Board) (boot boot' : BootDecision),
      Ends (norBoard sampleSha .sw) requestFwUpdate sampleBoard .set t ∧
      Ends (norBoard sampleSha .sw) decideBoot t boot t ∧
      boot.decision.mode = .updaterRequested ∧
      Ends (norBoard sampleSha .sw) appMain t () u ∧
      (∀ i < fwMetaRecordSize, u.fwMeta i = sampleBoard.fwMeta i) ∧
      (∀ i, fwMetaRecordSize ≤ i → i < fwMetaSectorBytes → u.fwMeta i = 0xFF) ∧
      Ends (norBoard sampleSha .poweron) decideBoot u boot' u ∧
      boot'.decision.mode = .firmware := by
  obtain ⟨t, u, hrequest, ht, hword, hstart⟩ := exists_request_and_start sampleBoard_bootable .sw
  obtain ⟨hrequested, hall⟩ := (force_flag_round_trip sampleBoard_bootable).2 t ht hword .sw
  obtain ⟨hrecord, hrest, hfirmware⟩ := hall u hstart
  obtain ⟨boot, hboot⟩ := exists_decideBoot_nor t .sw
  obtain ⟨boot', hboot'⟩ := exists_decideBoot_nor u .poweron
  exact ⟨t, u, boot, boot', hrequest, hboot, hrequested boot t hboot, hstart, hrecord, hrest,
    hboot', hfirmware .poweron boot' u (by decide) (by decide) hboot'⟩

/-- The sample board with one byte stored behind the record. -/
def annotatedBoard : Board :=
  { sampleBoard with fwMeta := write sampleBoard.fwMeta fwMetaRecordSize [0] }

theorem annotatedBoard_bootable :
    Bootable sampleSha annotatedBoard sampleRecord := by
  apply sampleBoard_bootable.sameRecord
  exact (sameOutside_write sampleBoard.fwMeta fwMetaRecordSize [0]).read_eq (.inl (by simp))

/-- What is stored behind the record is lost. -/
theorem sector0_not_restored :
    ∃ (s t u : Board) (record : FwMetaRecord) (reason : ResetReason),
      Bootable sampleSha s record ∧
      Ends (norBoard sampleSha reason) requestFwUpdate s .set t ∧
      Ends (norBoard sampleSha reason) appMain t () u ∧
      ∃ i < fwMetaSectorBytes, u.fwMeta i ≠ s.fwMeta i := by
  obtain ⟨t, u, hrequest, ht, hword, hstart⟩ := exists_request_and_start annotatedBoard_bootable .sw
  refine ⟨_, t, u, _, .sw, annotatedBoard_bootable, hrequest, hstart, fwMetaRecordSize, by decide, ?_⟩
  have hu := wp_ends (wp_appMain_forced annotatedBoard_bootable ht hword) hstart
  rw [(hu.sector0 annotatedBoard_bootable ht).2 fwMetaRecordSize (Nat.le_refl _) (by decide)]
  decide

end StripTuner.Updater
