import Mathlib.Data.List.Induction
import StripTuner.Updater.Reply

/-!
# The crash-loop guard

The stored crash count is read, decided on and saved by every start, and cleared by the healthy
mark of the firmware and by a successful upload. Over any order of these it is the number of counted
crash resets since it was last cleared, and the third one clears it and stays in the updater.
-/

namespace StripTuner.Updater

open ByteLayout DeviceCalls DeviceCalls.Prog FlashRegion FwMeta

variable {sha : Content → Option (Vector UInt8 fwSha256Len)} {failedErase : UInt8 → UInt8 → Prop}

/-! ## The control record -/

/-- The control record that the code sees: the stored one, or both counts 0. -/
def Board.control (s : Board) : FwCtrlRecord :=
  let record := FwCtrlRecord.ofBytes (read s.fwMeta fwCtrlRecordOffset fwCtrlRecordSize)
  if isFwCtrlRecordValid record then record else buildFwCtrlRecord 0 0

/-- The stored crash count. -/
def Board.crashCount (s : Board) : UInt8 := s.control.crashCount

/-- The bytes of the control record are the same. -/
def SameControl (s t : Board) : Prop :=
  read t.fwMeta fwCtrlRecordOffset fwCtrlRecordSize =
    read s.fwMeta fwCtrlRecordOffset fwCtrlRecordSize

theorem SameControl.refl (s : Board) : SameControl s s := rfl

theorem SameControl.trans {s t u : Board} (h : SameControl s t) (h' : SameControl t u) :
    SameControl s u := Eq.trans h' h

theorem SameControl.control {s t : Board} (h : SameControl s t) : t.control = s.control := by
  rw [Board.control, Board.control, h]

theorem SameControl.crashCount {s t : Board} (h : SameControl s t) : t.crashCount = s.crashCount := by
  rw [Board.crashCount, Board.crashCount, h.control]

/-- The board on which the control record can be read and written; all other calls may fail. -/
def controlBoard (sha : Content → Option (Vector UInt8 fwSha256Len))
    (failedErase : UInt8 → UInt8 → Prop) : Device FwCall FwCall.Answer Board
  | .findFwMeta => fun s r t => r = true ∧ board sha failedErase .findFwMeta s r t
  | .metaRead off len => fun s r t =>
    (off = fwCtrlRecordOffset → r.1 = .ok) ∧ board sha failedErase (.metaRead off len) s r t
  | .metaErase off len => fun s r t =>
    (off = fwCtrlRecordOffset → r = .ok) ∧ board sha failedErase (.metaErase off len) s r t
  | .metaWrite off bytes => fun s r t =>
    (off = fwCtrlRecordOffset → r = .ok ∧ t = { s with fwMeta := write s.fwMeta off bytes }) ∧
      board sha failedErase (.metaWrite off bytes) s r t
  | c => board sha failedErase c

theorem controlBoard_le_board (c : FwCall) (s : Board) (r : c.Answer) (t : Board)
    (h : controlBoard sha failedErase c s r t) : board sha failedErase c s r t := by
  cases c with
  | findFwMeta | metaRead _ _ | metaErase _ _ | metaWrite _ _ => exact h.2
  | _ => exact h

/-- The call does not return. -/
def HaltCall : FwCall → Prop
  | .deepSleepStart | .restart => True
  | _ => False

/-! ## Calls outside the control record -/

/-- The call returns and does not touch the control record. -/
def KeepsControl : FwCall → Prop
  | .metaErase off len => off + len ≤ fwCtrlRecordOffset
  | .metaWrite off bytes => off + bytes.length ≤ fwCtrlRecordOffset
  | .deepSleepStart | .restart => False
  | _ => True

theorem KeepsControl.returns {c : FwCall} (h : KeepsControl c) : ¬ HaltCall c := by
  cases c <;> first | exact h.elim | exact not_false

theorem SameOutside.sameControl {s : Board} {content : Content} {off len : Nat}
    {log : List EspErr} (h : SameOutside s.fwMeta content off len)
    (hoff : off + len ≤ fwCtrlRecordOffset) :
    SameControl s { s with fwMeta := content, eraseLog := log } :=
  h.read_eq (.inr hoff)

theorem keepsControl_step (c : FwCall) (hc : KeepsControl c) (s : Board) (r : c.Answer) (t : Board)
    (h : controlBoard sha failedErase c s r t) : SameControl s t := by
  have hboard := controlBoard_le_board c s r t h
  cases c with
  | metaErase off len =>
      obtain ⟨-, rfl⟩ | ⟨-, content, hsame, -, rfl⟩ := hboard
      · exact SameOutside.sameControl (sameOutside_erase s.fwMeta off len) hc
      · exact SameOutside.sameControl hsame hc
  | metaWrite off bytes =>
      obtain ⟨content, hsame, rfl⟩ := hboard
      exact hsame.read_eq (.inr hc)
  | findOta | findFwMeta | metaRead _ _ | otaRead _ _ | otaSha256 =>
      obtain rfl := hboard.2
      exact .refl _
  | otaBegin size =>
      obtain ⟨-, content, rfl⟩ | ⟨-, content, rfl⟩ := hboard <;> exact .refl _
  | otaWrite handle bytes =>
      obtain ⟨-, session, -, -, rfl⟩ | ⟨-, content, rfl⟩ := hboard <;> exact .refl _
  | otaEnd handle =>
      obtain ⟨-, session, -, -, rfl⟩ | ⟨-, content, rfl⟩ := hboard <;> exact .refl _
  | recv wanted =>
      cases r with
      | data bytes =>
          obtain ⟨-, rfl⟩ := hboard
          exact .refl _
      | timeout | failed =>
          obtain rfl : t = s := hboard
          exact .refl _
  | deepSleepStart | restart => exact r.elim
  | _ =>
      obtain rfl := hboard
      exact .refl _

section Keeps

variable {α : Type} {C : Board → Prop} {p : Fw α} {s : Board}

/-- A program that does not touch the control record leaves it. -/
theorem wp_keepsControl (hp : p.Only KeepsControl) :
    p.wp (controlBoard sha failedErase) (fun c t => HaltCall c → C t) (fun _ t => SameControl s t) s :=
  wp_conseq (Only.wp hp (R := SameControl) SameControl.trans keepsControl_step (.refl s))
    (fun _ _ h hhalt => absurd hhalt h.1.returns) (fun _ _ h => h)

/-- So does one that may also not return. -/
theorem wp_keepsControl_halt (hp : p.Only fun c => KeepsControl c ∨ HaltCall c)
    (hC : ∀ t, SameControl s t → C t) :
    p.wp (controlBoard sha failedErase) (fun c t => HaltCall c → C t) (fun _ t => SameControl s t) s := by
  refine wp_conseq (Only.wp hp (R := SameControl) SameControl.trans ?_ (.refl s))
    (fun _ t h _ => hC t h.2) (fun _ _ h => h)
  intro c hc s r t hd
  rcases hc with hkeeps | hhalt
  · exact keepsControl_step c hkeeps s r t hd
  · cases c with
    | deepSleepStart | restart => exact r.elim
    | _ => exact hhalt.elim

end Keeps

theorem ReadCall.keepsControl {c : FwCall} (hc : ReadCall c) : KeepsControl c := by
  cases c with
  | metaErase _ _ | metaWrite _ _ | deepSleepStart | restart => exact hc.elim
  | _ => trivial

theorem only_keepsControl_of_read {α : Type} {p : Fw α} (h : p.Only ReadCall) :
    p.Only KeepsControl :=
  Only.mono h fun _ => ReadCall.keepsControl

theorem eraseFwMetaRecord_only_keepsControl : eraseFwMetaRecord.Only KeepsControl :=
  Only.bind ⟨trivial, fun _ => trivial⟩ fun _ => Only.ite trivial
    ⟨Nat.le_refl _, fun _ => trivial⟩

theorem keepsControl_write (record : FwMetaRecord) :
    KeepsControl (.metaWrite fwMetaRecordOffset record.toBytes) := by
  simp only [KeepsControl, FwMetaRecord.length_toBytes]
  decide

theorem writeFwMetaRecord_only_keepsControl (record : FwMetaRecord) :
    (writeFwMetaRecord record).Only KeepsControl :=
  Only.bind ⟨trivial, fun _ => trivial⟩ fun _ => Only.ite trivial
    ⟨keepsControl_write record, fun _ => trivial⟩

/-! ## Reading and writing the record -/

theorem isFwCtrlRecordValid_build (crashCount bootAttempts : UInt8) :
    isFwCtrlRecordValid (buildFwCtrlRecord crashCount bootAttempts) = true := by
  simp [isFwCtrlRecordValid, buildFwCtrlRecord, FwCtrlRecord.coveredBytes]

section Operations

variable {C : Board → Prop}

theorem wp_readFwCtrlRecord_control (s : Board) :
    readFwCtrlRecord.wp (controlBoard sha failedErase) (fun c t => HaltCall c → C t)
      (fun answer t => t = s ∧ answer.2 = s.control) s := by
  rw [readFwCtrlRecord, findFwMeta, wp_bind, wp_perform]
  refine ⟨False.elim, fun found t ht => ?_⟩
  obtain ⟨rfl, -, rfl⟩ := ht
  simp only [Bool.not_true, Bool.false_eq_true, if_false]
  rw [metaRead, wp_bind, wp_perform]
  refine ⟨False.elim, fun answer u hu => ?_⟩
  obtain ⟨hok, hread, rfl⟩ := hu
  rw [hread (hok rfl), hok rfl, Board.control]
  cases isFwCtrlRecordValid (.ofBytes (read u.fwMeta fwCtrlRecordOffset fwCtrlRecordSize)) <;>
    simp

theorem wp_writeFwCtrlRecord_control (s : Board) (crashCount bootAttempts : UInt8) :
    (writeFwCtrlRecord (buildFwCtrlRecord crashCount bootAttempts)).wp
      (controlBoard sha failedErase) (fun c t => HaltCall c → C t)
      (fun _ t => t.crashCount = crashCount) s := by
  rw [writeFwCtrlRecord, findFwMeta, wp_bind, wp_perform]
  refine ⟨False.elim, fun found t ht => ?_⟩
  obtain ⟨rfl, -, rfl⟩ := ht
  simp only [Bool.not_true, Bool.false_eq_true, if_false]
  rw [metaErase, wp_bind, wp_perform]
  refine ⟨False.elim, fun err u hu => ?_⟩
  obtain rfl := hu.1 rfl
  simp only [ne_eq, not_true_eq_false, if_false]
  rw [metaWrite, wp_perform]
  refine ⟨False.elim, fun err v hv => ?_⟩
  obtain ⟨-, rfl⟩ := hv.1 rfl
  have hread := read_write_self u.fwMeta fwCtrlRecordOffset
    (buildFwCtrlRecord crashCount bootAttempts).toBytes
  rw [FwCtrlRecord.length_toBytes] at hread
  rw [Board.crashCount, Board.control, hread, FwCtrlRecord.ofBytes_toBytes,
    isFwCtrlRecordValid_build]
  rfl

/-- After `SaveCrashCount()` the given count is stored. -/
theorem wp_saveCrashCount {s : Board} {stored : FwCtrlRecord} {crashCount : UInt8}
    (h : stored.crashCount = s.crashCount) :
    (saveCrashCount stored crashCount).wp (controlBoard sha failedErase)
      (fun c t => HaltCall c → C t) (fun _ t => t.crashCount = crashCount) s := by
  rw [saveCrashCount, wp_ite]
  split
  · rename_i heq
    exact h.symm.trans heq.symm
  · rw [wp_bind]
    exact wp_mono (wp_writeFwCtrlRecord_control s crashCount stored.bootAttempts) fun _ _ h => h

/-- `MarkFirmwareHealthy()` and `ClearCrashCount()` leave the count 0. -/
theorem wp_clearCrashCount (s : Board) :
    clearCrashCount.wp (controlBoard sha failedErase) (fun c t => HaltCall c → C t)
      (fun _ t => t.crashCount = 0) s := by
  rw [clearCrashCount, wp_bind]
  refine wp_mono (wp_readFwCtrlRecord_control s) ?_
  rintro ctrl t ⟨rfl, hctrl⟩
  rw [wp_ite]
  split
  · rename_i hzero
    rw [hctrl] at hzero
    exact hzero
  · rw [wp_bind]
    exact wp_mono (wp_writeFwCtrlRecord_control t 0 _) fun _ _ h => h

end Operations

/-! ## Starts -/

/-- A crash reset with the force flag clear and a valid, matching record. -/
def isCountedCrash (inputs : FwBootInputs) : Bool :=
  isCrashReset inputs.resetReason && !inputs.isForceRequested && inputs.isRecordValid &&
    inputs.isOtaMatch

/-- Only a counted crash reset changes the count, and only the third one enters the crash loop. -/
theorem decideFwBoot_count {inputs : FwBootInputs} (h : inputs.crashCount < fwCrashResetLimit) :
    (decideFwBoot inputs).crashCount =
        (if isCountedCrash inputs then inputs.crashCount + 1 else inputs.crashCount) ∧
      ((decideFwBoot inputs).mode = .updaterCrashLoop ↔
        isCountedCrash inputs = true ∧ inputs.crashCount = 2) := by
  rcases inputs with ⟨force, valid, ota, count, attempts, reason⟩
  have hcount : count = 0 ∨ count = 1 ∨ count = 2 := by
    have hlt : count.toNat < 3 := UInt8.lt_iff_toNat_lt.mp h
    have hcases : count.toNat = 0 ∨ count.toNat = 1 ∨ count.toNat = 2 := by omega
    rwa [← UInt8.toNat_inj, ← UInt8.toNat_inj, ← UInt8.toNat_inj]
  cases force with
  | true => simp [decideFwBoot, isCountedCrash]
  | false =>
      by_cases hdeep : reason = .deepsleep
      · subst hdeep
        simp [decideFwBoot, isCountedCrash, isCrashReset]
      · cases valid <;> cases ota <;> cases hcrash : isCrashReset reason <;>
          rcases hcount with rfl | rfl | rfl <;>
          simp [decideFwBoot, isCountedCrash, hdeep, hcrash, fwCrashResetLimit]

/-- Reading leaves the board as it is. -/
theorem wp_readOnly_control {α : Type} {p : Fw α} (hp : p.Only ReadCall) (s : Board) :
    p.wp (controlBoard sha failedErase) (fun _ _ => True) (fun _ t => t = s) s :=
  wp_mono_device (wp_readOnly hp s) (fun _ _ _ => trivial)
    fun c s r t _ => controlBoard_le_board c s r t

theorem wp_decideBoot_control (s : Board) :
    decideBoot.wp (controlBoard sha failedErase) (fun _ _ => True)
      (fun boot t => t = s ∧ boot.ctrl = s.control ∧ boot.inputs.crashCount = s.crashCount ∧
        boot.decision = decideFwBoot boot.inputs) s := by
  rw [decideBoot, findOta, wp_bind, wp_perform]
  refine ⟨trivial, fun ota t ht => ?_⟩
  obtain ⟨-, rfl⟩ := ht
  rw [wp_bind]
  refine wp_mono (wp_readOnly_control readFwMetaRecord_only t) ?_
  rintro record s rfl
  rw [wp_bind]
  refine wp_conseq (wp_readFwCtrlRecord_control (C := fun _ => True) s) (fun _ _ _ => trivial) ?_
  rintro ctrl t ⟨rfl, hctrl⟩
  rw [wp_bind, wp_perform]
  refine ⟨trivial, fun resetReason u hu => ?_⟩
  obtain rfl : u = t := hu
  have hcount : ctrl.2.crashCount = u.crashCount := by rw [hctrl, Board.crashCount]
  dsimp only
  rw [wp_ite]
  split
  · rw [wp_bind]
    refine wp_mono (wp_readOnly_control (isOtaMatchingRecord_only record.2) u) ?_
    rintro isMatch t rfl
    exact ⟨rfl, hctrl, hcount, rfl⟩
  · exact ⟨rfl, hctrl, hcount, rfl⟩

/-- What is stored when a start has acted on its decision. -/
def savedCount (decision : FwBootDecision) : UInt8 :=
  if decision.mode = .updaterCrashLoop then 0 else decision.crashCount

theorem clearForceFlag_only_keepsControl (record : FwMetaRecord) :
    (clearForceFlag record).Only KeepsControl := by
  refine clearForceFlag_only_of (fun _ => ReadCall.keepsControl) (Nat.le_refl _) ?_ record
  exact fun record => keepsControl_write record

theorem jumpToFirmware_only_keepsControl (ota : OtaPartition) :
    (jumpToFirmware ota).Only fun c => KeepsControl c ∨ HaltCall c :=
  Only.bind ⟨.inl trivial, fun _ => trivial⟩ fun _ =>
    Only.bind ⟨.inl trivial, fun _ => trivial⟩ fun _ => Only.ite trivial
      (Only.bind ⟨.inl trivial, fun _ => trivial⟩ fun _ => Only.ite trivial
        (Only.bind ⟨.inr trivial, fun _ => trivial⟩ fun never => never.elim))

theorem startUpdaterMode_only_keepsControl (reason : UpdaterReason) (ota : Option OtaPartition)
    (version : Option Version) : (startUpdaterMode reason ota version).Only KeepsControl :=
  Only.bind ⟨trivial, fun _ => trivial⟩ fun _ =>
    Only.ite (Only.bind ⟨trivial, fun _ => trivial⟩ fun _ => trivial) trivial

theorem wp_startFirmware_control {s : Board} {boot : BootDecision}
    (hctrl : boot.ctrl.crashCount = s.crashCount) :
    (startFirmware boot).wp (controlBoard sha failedErase)
      (fun c t => HaltCall c → t.crashCount = savedCount boot.decision)
      (fun _ t => t.crashCount =
        if boot.decision.mode = .firmware then boot.decision.crashCount else s.crashCount) s := by
  rw [startFirmware, wp_ite]
  split
  · rename_i hmode
    have hsaved : savedCount boot.decision = boot.decision.crashCount := by
      simp [savedCount, hmode]
    rw [wp_bind]
    refine wp_mono (wp_saveCrashCount hctrl) fun _ t ht => ?_
    cases boot.ota with
    | none => exact ht
    | some ota =>
        refine wp_mono (wp_keepsControl_halt (jumpToFirmware_only_keepsControl ota) ?_) ?_
        · exact fun u hu => (hu.crashCount.trans ht).trans hsaved.symm
        · exact fun _ u hu => hu.crashCount.trans ht
  · rfl

theorem wp_saveAndStart {C : Board → Prop} {s : Board} {stored : FwCtrlRecord} {crashCount : UInt8}
    (hstored : stored.crashCount = s.crashCount) (reason : UpdaterReason)
    (ota : Option OtaPartition) (version : Option Version) :
    (saveCrashCount stored crashCount >>= fun _ => startUpdaterMode reason ota version).wp
      (controlBoard sha failedErase) (fun c t => HaltCall c → C t)
      (fun _ t => t.crashCount = crashCount) s := by
  rw [wp_bind]
  refine wp_mono (wp_saveCrashCount hstored) fun _ u hu => ?_
  refine wp_mono (wp_keepsControl (startUpdaterMode_only_keepsControl _ _ _)) fun _ v hv => ?_
  exact hv.crashCount.trans hu

/-- The second save of a start stores nothing new when the first one has stored the count. -/
theorem wp_enterUpdaterMode_control {s : Board} {boot : BootDecision}
    (hctrl : s.crashCount =
      if boot.decision.mode = .firmware then boot.decision.crashCount else boot.ctrl.crashCount) :
    (enterUpdaterMode boot).wp (controlBoard sha failedErase)
      (fun c t => HaltCall c → t.crashCount = savedCount boot.decision)
      (fun _ t => t.crashCount = savedCount boot.decision) s := by
  have hstored : (if boot.decision.mode = .firmware then
      { boot.ctrl with crashCount := boot.decision.crashCount } else boot.ctrl).crashCount =
        s.crashCount := by
    rw [hctrl]
    split <;> rfl
  rw [enterUpdaterMode, wp_ite]
  split
  · rw [wp_bind]
    refine wp_mono (wp_keepsControl (clearForceFlag_only_keepsControl boot.record)) ?_
    exact fun _ t ht => wp_saveAndStart (hstored.trans ht.crashCount.symm) _ _ _
  · exact wp_saveAndStart hstored _ _ _

theorem wp_actOnDecision_control {s : Board} {boot : BootDecision}
    (hctrl : boot.ctrl.crashCount = s.crashCount) :
    (actOnDecision boot).wp (controlBoard sha failedErase)
      (fun c t => HaltCall c → t.crashCount = savedCount boot.decision)
      (fun _ t => t.crashCount = savedCount boot.decision) s := by
  rw [actOnDecision, wp_bind]
  refine wp_mono (wp_startFirmware_control hctrl) fun _ t ht => ?_
  apply wp_enterUpdaterMode_control
  rw [ht, hctrl]

/-! ## Uploads -/

theorem wp_perform_keepsControl {C : Board → Prop} {s : Board} (c : FwCall) (hc : KeepsControl c) :
    (perform c : Fw c.Answer).wp (controlBoard sha failedErase) (fun c t => HaltCall c → C t)
      (fun _ t => SameControl s t) s :=
  wp_keepsControl ((only_perform c).mpr hc)

theorem writeAndCheckMetaRecord_only_keepsControl (otaSize : UInt32) (record : FwMetaRecord) :
    (writeAndCheckMetaRecord otaSize record).Only KeepsControl :=
  Only.bind (writeFwMetaRecord_only_keepsControl record) fun _ => Only.ite trivial
    (Only.bind (only_keepsControl_of_read readFwMetaRecord_only) fun _ => trivial)

theorem receiveImage_only_keepsControl (handle : UInt32) (total received timeouts : Nat)
    (head : List UInt8) : (receiveImage handle total received timeouts head).Only KeepsControl :=
  Only.mono (receiveImage_only handle total received timeouts head) fun c hc => by
    cases c with
    | recv _ | otaWrite _ _ | setReceived _ => trivial
    | _ => exact hc.elim

/-- The count is cleared by a successful upload and kept by any other. -/
def uploadedCount (result : UploadResult) (crashCount : UInt8) : UInt8 :=
  if result = .ok then 0 else crashCount

theorem wp_commitMetaRecord_control {C : Board → Prop} (s : Board) (otaSize : UInt32) (total : Nat)
    (head : List UInt8) :
    (commitMetaRecord otaSize total head).wp (controlBoard sha failedErase)
      (fun c t => HaltCall c → C t)
      (fun result t => t.crashCount = uploadedCount result s.crashCount) s := by
  rw [commitMetaRecord, computeFwImageSha256, wp_bind]
  refine wp_mono (wp_perform_keepsControl .otaSha256 trivial) fun sha256 t ht => ?_
  rw [wp_ite]
  split
  · exact ht.crashCount
  rw [wp_bind]
  refine wp_mono (wp_keepsControl (writeAndCheckMetaRecord_only_keepsControl _ _)) ?_
  intro isCommitted u hu
  rw [wp_ite]
  split
  · rw [wp_bind]
    refine wp_mono (wp_keepsControl eraseFwMetaRecord_only_keepsControl) fun _ v hv => ?_
    exact ((ht.trans hu).trans hv).crashCount
  · rw [wp_bind]
    refine wp_mono (wp_perform_keepsControl (.setInstalledVersion _) trivial) fun _ v _ => ?_
    rw [wp_bind]
    exact wp_mono (wp_clearCrashCount v) fun _ _ hcount => hcount

theorem wp_runUpload_control {C : Board → Prop} (s : Board) (ota : Option OtaPartition)
    (total : Nat) :
    (runUpload ota total).wp (controlBoard sha failedErase) (fun c t => HaltCall c → C t)
      (fun outcome t => t.crashCount = uploadedCount outcome.1 s.crashCount) s := by
  cases ota with
  | none => rfl
  | some partition =>
  rw [runUpload, wp_ite]
  split
  · rfl
  rw [wp_bind]
  refine wp_mono (wp_keepsControl eraseFwMetaRecord_only_keepsControl) fun err t ht => ?_
  rw [wp_ite]
  split
  · exact ht.crashCount
  rw [wp_bind]
  refine wp_mono (wp_perform_keepsControl (.setInstalledVersion none) trivial) fun _ u hu => ?_
  rw [wp_bind]
  refine wp_mono (wp_perform_keepsControl (.otaBegin total) trivial) fun opened v hv => ?_
  have hopened := (ht.trans hu).trans hv
  rw [wp_ite]
  split
  · exact hopened.crashCount
  rw [wp_bind]
  refine wp_mono (wp_keepsControl (receiveImage_only_keepsControl _ _ _ _ _)) ?_
  intro received w hw
  rw [wp_ite]
  split
  · rename_i hresult
    simpa [uploadedCount, hresult] using (hopened.trans hw).crashCount
  rw [wp_bind]
  refine wp_mono (wp_perform_keepsControl (.otaEnd _) trivial) fun err' x hx => ?_
  rw [wp_ite]
  split
  · exact ((hopened.trans hw).trans hx).crashCount
  rw [wp_bind]
  refine wp_mono (wp_commitMetaRecord_control x _ _ _) fun result y hy => ?_
  rw [← ((hopened.trans hw).trans hx).crashCount]
  exact hy

theorem replyUpload_only_keepsControl (outcome : UploadResult × Option UInt32) :
    (replyUpload outcome >>= fun _ => perform FwCall.asyncComplete).Only
      fun c => KeepsControl c ∨ HaltCall c := by
  refine Only.bind (Only.ite ?_ ?_) fun _ => ⟨.inl trivial, fun _ => trivial⟩
  · refine Only.bind ?_ fun _ => Only.bind ⟨.inl trivial, fun _ => trivial⟩ fun _ =>
      ⟨.inl trivial, fun _ => trivial⟩
    cases outcome.2 with
    | none => trivial
    | some handle => exact Only.bind ⟨.inl trivial, fun _ => trivial⟩ fun _ => trivial
  · refine Only.bind ⟨.inl trivial, fun _ => trivial⟩ fun _ =>
      Only.bind ⟨.inl trivial, fun _ => trivial⟩ fun _ =>
        Only.bind ⟨.inl trivial, fun _ => trivial⟩ fun _ =>
          Only.bind ⟨.inl trivial, fun _ => trivial⟩ fun isStarted => ?_
    exact Only.ite (Only.bind ⟨.inr trivial, fun _ => trivial⟩ fun never => never.elim) trivial

/-! ## Runs -/

/-- What happened: a start, with what it saw and chose, a healthy mark, or an upload. -/
inductive Event where
  | start (inputs : FwBootInputs) (mode : FwBootMode)
  | healthy
  | upload (result : UploadResult)

namespace Event

/-- A healthy mark, a successful upload, or an entry of the crash loop. -/
def Clears : Event → Bool
  | .start _ mode => mode = .updaterCrashLoop
  | .healthy => true
  | .upload result => result = .ok

/-- A start after a counted crash reset. -/
def Counts : Event → Bool
  | .start inputs _ => isCountedCrash inputs
  | _ => false

/-- A start after a crash reset that runs the firmware. -/
def PassesCrash : Event → Bool
  | .start inputs mode => isCrashReset inputs.resetReason && mode = .firmware
  | _ => false

end Event

def countEvent (count : Nat) (e : Event) : Nat :=
  if e.Clears then 0 else if e.Counts then count + 1 else count

/-- The counted crash resets since the last clearing event, when `before` of them came before these
events. -/
def countedSince (before : Nat) (events : List Event) : Nat := events.foldl countEvent before

@[simp] theorem countedSince_snoc (before : Nat) (events : List Event) (e : Event) :
    countedSince before (events ++ [e]) = countEvent (countedSince before events) e := by
  simp [countedSince]

/-- Without a clearing event every counted crash reset adds one. -/
theorem countedSince_append {events : List Event} (before : Nat) (earlier : List Event)
    (h : ∀ e ∈ events, e.Clears = false) :
    countedSince before (earlier ++ events) =
      countedSince before earlier + events.countP Event.Counts := by
  rw [countedSince, countedSince, List.foldl_append]
  generalize earlier.foldl countEvent before = count
  induction events generalizing count with
  | nil => simp
  | cons e rest ih =>
      have hrest := fun e he => h e (List.mem_cons_of_mem _ he)
      rw [List.foldl_cons, ih hrest, countEvent, h e (List.mem_cons_self ..), List.countP_cons]
      cases e.Counts <;> simp [Nat.add_comm, Nat.add_left_comm]

section Runs

variable (sha : Content → Option (Vector UInt8 fwSha256Len)) (failedErase : UInt8 → UInt8 → Prop)

/-- One event, run to its end or to the call that does not return. -/
inductive EventStep (s : Board) : Event → Board → Prop where
  | start {boot : BootDecision} {t u : Board} :
      Ends (controlBoard sha failedErase) decideBoot s boot t →
      Finishes HaltCall (controlBoard sha failedErase) (actOnDecision boot) t u →
      EventStep s (.start boot.inputs boot.decision.mode) u
  | healthy {t : Board} : Ends (controlBoard sha failedErase) markFirmwareHealthy s () t →
      EventStep s .healthy t
  | upload {ota : Option OtaPartition} {contentLen : Nat} {outcome : UploadResult × Option UInt32}
      {t u : Board} :
      Ends (controlBoard sha failedErase)
        (perform (FwCall.startCounters contentLen) >>= fun _ => runUpload ota contentLen)
        s outcome t →
      Finishes HaltCall (controlBoard sha failedErase)
        (replyUpload outcome >>= fun _ => perform FwCall.asyncComplete) t u →
      EventStep s (.upload outcome.1) u

/-- A run of events; anything but the control record may change between two of them. -/
inductive EventRun (s₀ : Board) : List Event → Board → Prop where
  | start {s : Board} : SameControl s₀ s → EventRun s₀ [] s
  | step {events : List Event} {e : Event} {s t u : Board} :
      EventRun s₀ events s → EventStep sha failedErase s e t → SameControl t u →
      EventRun s₀ (events ++ [e]) u

end Runs

section Guard

variable {s₀ s t : Board} {e : Event} {events : List Event}

/-- A start stores the count of its decision, or 0 when it enters the crash loop. -/
theorem savedCount_decide {inputs : FwBootInputs} (h : inputs.crashCount < fwCrashResetLimit) :
    (savedCount (decideFwBoot inputs)).toNat =
        countEvent inputs.crashCount.toNat (.start inputs (decideFwBoot inputs).mode) ∧
      savedCount (decideFwBoot inputs) < fwCrashResetLimit := by
  obtain ⟨hcount, hmode⟩ := decideFwBoot_count h
  have hlt : inputs.crashCount.toNat < 3 := UInt8.lt_iff_toNat_lt.mp h
  by_cases hloop : (decideFwBoot inputs).mode = .updaterCrashLoop
  · simp [savedCount, countEvent, Event.Clears, hloop, fwCrashResetLimit]
  · cases hcounted : isCountedCrash inputs with
    | false =>
        rw [hcounted] at hcount
        simp [savedCount, countEvent, Event.Clears, Event.Counts, hloop, hcount, hcounted, h]
    | true =>
        rw [hcounted] at hcount
        have hne : inputs.crashCount.toNat ≠ 2 := fun heq =>
          hloop (hmode.mpr ⟨hcounted, UInt8.toNat_inj.mp heq⟩)
        have hnext : (inputs.crashCount + 1).toNat = inputs.crashCount.toNat + 1 := by
          rw [UInt8.toNat_add, UInt8.toNat_one, Nat.mod_eq_of_lt (by omega)]
        have hbound : inputs.crashCount + 1 < fwCrashResetLimit := by
          rw [UInt8.lt_iff_toNat_lt, hnext]
          show _ < 3
          omega
        simp [savedCount, countEvent, Event.Clears, Event.Counts, hloop, hcount, hcounted, hnext,
          hbound]

/-- What one event does to the stored count. -/
theorem EventStep.crashCount (hstep : EventStep sha failedErase s e t)
    (h : s.crashCount < fwCrashResetLimit) :
    t.crashCount.toNat = countEvent s.crashCount.toNat e ∧ t.crashCount < fwCrashResetLimit := by
  cases hstep with
  | @start boot s' u hdecide hact =>
      obtain ⟨rfl, hctrl, hcount, hdecision⟩ := wp_ends (wp_decideBoot_control s) hdecide
      have hstored : boot.ctrl.crashCount = s'.crashCount := by rw [hctrl, Board.crashCount]
      rw [wp_finishes (wp_actOnDecision_control hstored) hact, hdecision, ← hcount]
      exact savedCount_decide (hcount ▸ h)
  | healthy hends =>
      have hzero := wp_ends (wp_clearCrashCount (C := fun _ => True) s) hends
      rw [hzero]
      exact ⟨rfl, by decide⟩
  | @upload ota contentLen outcome s' u hrun hreply =>
      have hwp : (perform (FwCall.startCounters contentLen) >>= fun _ => runUpload ota contentLen).wp
          (controlBoard sha failedErase) (fun c _ => HaltCall c → True)
          (fun outcome t => t.crashCount = uploadedCount outcome.1 s.crashCount) s := by
        rw [wp_bind]
        refine wp_mono (wp_perform_keepsControl _ trivial) fun _ t ht => ?_
        rw [← ht.crashCount]
        exact wp_runUpload_control t ota contentLen
      have hcount := wp_ends hwp hrun
      have hsame : SameControl s' t := wp_finishes
        (wp_mono (wp_keepsControl_halt (replyUpload_only_keepsControl outcome) fun _ hu => hu)
          fun _ _ hu => hu) hreply
      rw [hsame.crashCount, hcount]
      by_cases hok : outcome.1 = .ok
      · simp [uploadedCount, countEvent, Event.Clears, hok, fwCrashResetLimit]
      · simp [uploadedCount, countEvent, Event.Clears, Event.Counts, hok, h]

/-- A start enters the crash loop on the third counted crash reset, and runs the firmware after a
crash reset only when it counts it. -/
theorem EventStep.start_mode {inputs : FwBootInputs} {mode : FwBootMode}
    (hstep : EventStep sha failedErase s (.start inputs mode) t)
    (h : s.crashCount < fwCrashResetLimit) :
    (mode = .updaterCrashLoop ↔ isCountedCrash inputs = true ∧ s.crashCount.toNat = 2) ∧
      (isCrashReset inputs.resetReason = true → mode = .firmware →
        isCountedCrash inputs = true) := by
  cases hstep with
  | @start boot s' u hdecide hact =>
      obtain ⟨rfl, -, hcount, hdecision⟩ := wp_ends (wp_decideBoot_control s) hdecide
      rw [hdecision, ← hcount]
      refine ⟨?_, fun hcrash hmode => ?_⟩
      · rw [(decideFwBoot_count (hcount ▸ h)).2, ← UInt8.toNat_inj]
        rfl
      · obtain ⟨hforce, hvalid, hmatch⟩ := decideFwBoot_firmware hmode
        simp [isCountedCrash, hcrash, hforce, hvalid, hmatch]

theorem EventRun.last {u : Board} (hrun : EventRun sha failedErase s₀ (events ++ [e]) u) :
    ∃ s t, EventRun sha failedErase s₀ events s ∧ EventStep sha failedErase s e t ∧
      SameControl t u := by
  generalize hall : events ++ [e] = all at hrun
  cases hrun with
  | start => simp at hall
  | step hprefix hstep hsame =>
      obtain ⟨rfl, hlast⟩ := List.append_inj' hall rfl
      obtain rfl : e = _ := by simpa using hlast
      exact ⟨_, _, hprefix, hstep, hsame⟩

theorem EventRun.prefix {later : List Event} (hrun : EventRun sha failedErase s₀ (events ++ later) s) :
    ∃ t, EventRun sha failedErase s₀ events t := by
  induction later using List.reverseRecOn generalizing s with
  | nil => exact ⟨s, by simpa using hrun⟩
  | append_singleton later e ih =>
      rw [← List.append_assoc] at hrun
      obtain ⟨u, -, hprefix, -, -⟩ := hrun.last
      exact ih hprefix

/-- In every run the stored count is the number of counted crash resets since it was cleared. -/
theorem EventRun.crashCount (hrun : EventRun sha failedErase s₀ events s)
    (h : s₀.crashCount < fwCrashResetLimit) :
    s.crashCount.toNat = countedSince s₀.crashCount.toNat events ∧
      s.crashCount < fwCrashResetLimit := by
  induction hrun with
  | start hsame => exact ⟨congrArg UInt8.toNat hsame.crashCount, by rwa [hsame.crashCount]⟩
  | step _ hstep hsame ih =>
      obtain ⟨hcount, hlt⟩ := hstep.crashCount ih.2
      rw [hsame.crashCount, countedSince_snoc, ← ih.1]
      exact ⟨hcount, hlt⟩

/-- At most two crash resets pass through to the firmware between two clearing events. -/
theorem EventRun.passes {before stretch after : List Event}
    (hrun : EventRun sha failedErase s₀ (before ++ stretch ++ after) s)
    (h : s₀.crashCount < fwCrashResetLimit) (hclears : ∀ e ∈ stretch, e.Clears = false) :
    stretch.countP Event.PassesCrash ≤ 2 := by
  obtain ⟨t, hprefix⟩ := hrun.prefix
  have hcounts : stretch.countP Event.PassesCrash ≤ stretch.countP Event.Counts := by
    apply List.countP_mono_left
    intro e hmem hpasses
    obtain ⟨left, right, rfl⟩ := List.append_of_mem hmem
    rw [← List.append_assoc, List.append_cons] at hprefix
    obtain ⟨u, hu⟩ := hprefix.prefix
    obtain ⟨v, w, hv, hstep, -⟩ := hu.last
    cases e with
    | start inputs mode =>
        obtain ⟨hcrash, hmode⟩ : isCrashReset inputs.resetReason = true ∧ mode = .firmware := by
          simpa [Event.PassesCrash] using hpasses
        exact (hstep.start_mode (hv.crashCount h).2).2 hcrash hmode
    | healthy | upload => simp [Event.PassesCrash] at hpasses
  obtain ⟨hcount, hlt⟩ := hprefix.crashCount h
  rw [countedSince_append _ _ hclears] at hcount
  have hlt' : t.crashCount.toNat < 3 := UInt8.lt_iff_toNat_lt.mp hlt
  omega

/-- In every run the stored count stays below the limit and is the number of counted crash resets
since it was last cleared; a start enters the crash loop exactly when it is the third one, so that
at most two crash resets pass through to the firmware between two clearing events. -/
theorem crash_loop_guard (hrun : EventRun sha failedErase s₀ events s)
    (h : s₀.crashCount < fwCrashResetLimit) :
    (s.crashCount < fwCrashResetLimit ∧
        s.crashCount.toNat = countedSince s₀.crashCount.toNat events) ∧
      (∀ before inputs mode after, events = before ++ .start inputs mode :: after →
        (mode = .updaterCrashLoop ↔
          isCountedCrash inputs = true ∧ countedSince s₀.crashCount.toNat before = 2)) ∧
      ∀ before stretch after, events = before ++ stretch ++ after →
        (∀ e ∈ stretch, e.Clears = false) → stretch.countP Event.PassesCrash ≤ 2 := by
  refine ⟨(hrun.crashCount h).symm, ?_, ?_⟩
  · rintro before inputs mode after rfl
    rw [List.append_cons] at hrun
    obtain ⟨t, ht⟩ := hrun.prefix
    obtain ⟨u, v, hu, hstep, -⟩ := ht.last
    obtain ⟨hcount, hlt⟩ := hu.crashCount h
    rw [← hcount]
    exact (hstep.start_mode hlt).1
  · rintro before stretch after rfl hclears
    exact hrun.passes h hclears

end Guard

/-! ## Three crashes -/

section Crashes

variable {s : Board} {record : FwMetaRecord}

theorem readCall_answers (reason : ResetReason) (hs : s.hasFwMeta = true) (c : FwCall)
    (hc : ReadCall c) :
    ∃ r t, controlBoard sha failedErase c s r t ∧ reliable sha failedErase reason c s r t := by
  obtain ⟨r, t, h⟩ : ∃ r t, reliable sha failedErase reason c s r t :=
    reliable_answers reason c hc s
  refine ⟨r, t, ?_, h⟩
  cases c with
  | findOta => exact h
  | findFwMeta => exact ⟨h.1.trans hs, h⟩
  | metaRead _ _ => exact ⟨fun _ => h.1, h.2⟩
  | otaRead _ _ | otaSha256 | resetReason => exact h.2
  | _ => exact hc.elim

theorem quietCall_answers (hs : s.hasFwMeta = true) (c : FwCall) (hc : QuietCall c) :
    HaltCall c ∨ ∃ r t, controlBoard sha failedErase c s r t := by
  by_cases hread : ReadCall c
  · obtain ⟨r, t, h, -⟩ := readCall_answers .panic hs c hread
    exact .inr ⟨r, t, h⟩
  cases c with
  | findOta | findFwMeta | metaRead _ _ | otaRead _ _ | otaSha256 | resetReason =>
      exact absurd trivial hread
  | metaErase off len => exact .inr ⟨.ok, _, fun _ => rfl, .inl ⟨rfl, rfl⟩⟩
  | metaWrite off bytes =>
      exact .inr ⟨.ok, _, fun _ => ⟨rfl, rfl⟩, _, sameOutside_write s.fwMeta off bytes, rfl⟩
  | deepSleepStart | restart => exact .inl trivial
  | enableTimerWakeup => exact .inr ⟨.ok, s, rfl⟩
  | copyInstalledVersion => exact .inr ⟨Vector.replicate _ 0, s, rfl⟩
  | rtcRetainPartition => exact .inr ⟨none, s, rfl⟩
  | startRestartTimer | startUpdaterAp | startUpdaterHttp _ _ _ => exact .inr ⟨true, s, rfl⟩
  | asyncComplete | setReceived _ | setUploadState _ | setInstalledVersion _
  | updateRtcRetainMem _ _ => exact .inr ⟨(), s, rfl⟩
  | _ => exact hc.elim

theorem decideFwBoot_counted {inputs : FwBootInputs} (h : isCountedCrash inputs = true) :
    (decideFwBoot inputs).mode = .firmware ∨ (decideFwBoot inputs).mode = .updaterCrashLoop := by
  rcases inputs with ⟨force, valid, ota, count, attempts, reason⟩
  simp only [isCountedCrash, Bool.and_eq_true, Bool.not_eq_true'] at h
  obtain ⟨⟨⟨hcrash, rfl⟩, rfl⟩, rfl⟩ := h
  have hdeep : reason ≠ .deepsleep := by
    rintro rfl
    cases hcrash
  simp only [decideFwBoot, hdeep, hcrash, Bool.false_eq_true, if_false, Bool.not_true,
    Bool.or_self, if_true]
  exact (ite_eq_or_eq _ _ _).symm

/-- A crash of a bootable firmware is counted by the next start. -/
theorem exists_crashStart (failedErase : UInt8 → UInt8 → Prop) (h : Bootable sha s record) :
    ∃ inputs mode t, EventStep sha failedErase s (.start inputs mode) t ∧
      isCountedCrash inputs = true ∧ (mode = .firmware ∨ mode = .updaterCrashLoop) ∧
      Bootable sha t record := by
  let D : Device FwCall FwCall.Answer Board := fun c s r t =>
    controlBoard sha failedErase c s r t ∧ reliable sha failedErase .panic c s r t
  have hread : decideBoot.wp D (fun c t => ReadCall c ∧ t = s) (fun _ t => t = s) s :=
    Only.wp decideBoot_only (R := fun s t => t = s) (fun h h' => h'.trans h)
      (fun c hc s r t hd => readCall_step c hc s r t (controlBoard_le_board c s r t hd.1)) rfl
  obtain ⟨boot, t, hends⟩ := exists_ends_of_wp hread (by
    rintro c _ ⟨hc, rfl⟩
    exact readCall_answers .panic h.hasFwMeta c hc)
  obtain ⟨rfl, -, hvalid, hmatch, hreason, hforce, hdecision⟩ :=
    wp_ends (wp_decideBoot_bootable h) (hends.mono fun _ _ _ _ hd => hd.2)
  have hnotForced : boot.inputs.isForceRequested = false := hforce.trans h.notForced
  have hcounted : isCountedCrash boot.inputs = true := by
    rw [isCountedCrash, hreason, hnotForced, hvalid, hmatch]
    rfl
  have hquiet : (actOnDecision boot).Only QuietCall :=
    actOnDecision_only (fun _ hc => hc) boot fun hreq => absurd hreq (by simp [hnotForced])
  have hact := Only.wp (D := controlBoard sha failedErase) hquiet (R := SameButCtrl) SameButCtrl.trans
    (fun c hc s r t hd => quietCall_step c hc s r t (controlBoard_le_board c s r t hd)) (.refl t)
  have hfound : ∀ u, SameButCtrl t u → u.hasFwMeta = true := by
    rintro _ ⟨content, -, rfl⟩
    exact h.hasFwMeta
  obtain ⟨u, hfinishes⟩ := exists_finishes_of_wp hact fun c u hc =>
    quietCall_answers (hfound u hc.2) c hc.1
  have hsame : SameButCtrl t u :=
    wp_finishes (wp_conseq hact (fun _ _ hc _ => hc.2) fun _ _ hu => hu) hfinishes
  exact ⟨boot.inputs, _, u, .start (hends.mono fun _ _ _ _ hd => hd.1) hfinishes, hcounted,
    hdecision ▸ decideFwBoot_counted hcounted, hsame.bootable h⟩

end Crashes

/-- The firmware crashes three times: twice it is started again, then the updater keeps it. -/
theorem crash_loop_guard_third :
    ∃ (first second third : FwBootInputs) (t : Board),
      EventRun sampleSha ErasesNothing sampleBoard [.start first .firmware,
        .start second .firmware, .start third .updaterCrashLoop] t ∧
      isCountedCrash first = true ∧ isCountedCrash second = true ∧ isCountedCrash third = true ∧
      t.crashCount = 0 := by
  have hinvalid : isFwCtrlRecordValid
      (.ofBytes (read sampleBoard.fwMeta fwCtrlRecordOffset fwCtrlRecordSize)) = false := by
    decide +kernel
  have hcount : sampleBoard.crashCount = 0 := by
    simp [Board.crashCount, Board.control, hinvalid, buildFwCtrlRecord]
  have hlow : sampleBoard.crashCount < fwCrashResetLimit := by
    rw [hcount]
    decide
  obtain ⟨first, mode₁, s₁, hstep₁, hcounted₁, hmode₁, hboot₁⟩ :=
    exists_crashStart ErasesNothing sampleBoard_bootable
  obtain ⟨second, mode₂, s₂, hstep₂, hcounted₂, hmode₂, hboot₂⟩ :=
    exists_crashStart ErasesNothing hboot₁
  obtain ⟨third, mode₃, s₃, hstep₃, hcounted₃, -, -⟩ :=
    exists_crashStart ErasesNothing hboot₂
  have hrun := (((EventRun.start (.refl _)).step hstep₁ (.refl _)).step hstep₂ (.refl _)).step
    hstep₃ (.refl _)
  obtain ⟨⟨-, hstored⟩, hloop, -⟩ := crash_loop_guard hrun hlow
  rw [hcount] at hstored hloop
  obtain rfl : mode₁ = .firmware := hmode₁.resolve_right fun hmode => by
    have hbefore := ((hloop [] first mode₁ _ rfl).1 hmode).2
    cases hbefore
  obtain rfl : mode₂ = .firmware := hmode₂.resolve_right fun hmode => by
    have hbefore := ((hloop [.start first .firmware] second mode₂ _ rfl).1 hmode).2
    simp [countedSince, countEvent, Event.Clears, Event.Counts, hcounted₁] at hbefore
  have htwo : countedSince 0 [.start first .firmware, .start second .firmware] = 2 := by
    simp [countedSince, countEvent, Event.Clears, Event.Counts, hcounted₁, hcounted₂]
  obtain rfl : mode₃ = .updaterCrashLoop :=
    (hloop [.start first .firmware, .start second .firmware] third mode₃ [] rfl).2
      ⟨hcounted₃, htwo⟩
  refine ⟨first, second, third, s₃, hrun, hcounted₁, hcounted₂, hcounted₃, ?_⟩
  rw [← UInt8.toNat_inj, hstored]
  simp [countedSince, countEvent, Event.Clears]

end StripTuner.Updater
