import StripTuner.Updater.Delivery

/-!
# What a reply promises

The reply to an upload against the board and against the boot decision that a later start makes on
it. Here an erase that returns an error has changed nothing.
-/

namespace StripTuner.Updater

open ByteLayout DeviceCalls DeviceCalls.Prog FlashRegion FwMeta

variable {sha : Content → Option (Vector UInt8 fwSha256Len)} {failedErase : UInt8 → UInt8 → Prop}

/-- A received image matches a record built for it. -/
theorem otaMatches_of_received {s : Board} {total : Nat} {digest : Vector UInt8 fwSha256Len}
    (hlength : s.received.length = total) (hstored : read s.ota 0 total = s.received)
    (hcheck : checkImageHead (s.received.take fwImageHeadLen) = .ok)
    (hsha : sha s.ota = some digest) : OtaMatches sha s (receivedRecord s.received digest) := by
  obtain ⟨hlen, hmagic, hembedded, -⟩ := checkFwEmbeddedMeta_ok (checkFwEmbeddedMeta_of_head hcheck)
  rw [List.length_take, hlength] at hlen
  have hhead : read s.ota 0 fwImageHeadLen = s.received.take fwImageHeadLen := by
    rw [← hstored, take_read s.ota 0 (by omega)]
  refine ⟨?_, ?_, ?_, hsha⟩
  · rw [hhead, hmagic]
  · rw [hhead]
    exact hembedded
  · rw [hhead]
    exact headVersion_take s.received

/-! ## What an upload leaves behind -/

/-- A later start runs the firmware, whatever the reset, unless it was a crash or a wakeup. -/
def StartsFirmware (sha : Content → Option (Vector UInt8 fwSha256Len)) (s : Board) : Prop :=
  ∀ reason, reason ≠ .deepsleep → isCrashReset reason = false →
    (∃ boot t, Ends (reliable sha ErasesNothing reason) decideBoot s boot t) ∧
      ∀ boot t, Ends (reliable sha ErasesNothing reason) decideBoot s boot t →
        boot.decision.mode = .firmware

/-- A later start enters an updater mode, whatever the reset and the results of its reads. -/
def StartsUpdater (sha : Content → Option (Vector UInt8 fwSha256Len)) (s : Board) : Prop :=
  ∀ boot t, Ends (board sha ErasesNothing) decideBoot s boot t → boot.decision.mode ≠ .firmware

/-- The body of the given length was stored, with a valid record of it in sector 0. -/
structure Committed (sha : Content → Option (Vector UInt8 fwSha256Len)) (contentLen : Nat)
    (s : Board) : Prop where
  length : s.received.length = contentLen
  stored : read s.ota 0 contentLen = s.received
  bootable : ∃ digest, Bootable sha s (receivedRecord s.received digest)

/-- Sector 0 and `ota_0` are as before, or sector 0 is erased, or its clean-up erase failed. -/
def Rejected (s t : Board) : Prop :=
  ((∀ i < fwMetaSectorBytes, t.fwMeta i = s.fwMeta i) ∧ t.ota = s.ota) ∨ t.Sector0Erased ∨
    ∃ err, err ≠ .ok ∧ t.eraseLog = [.ok, err]

theorem Bootable.startsFirmware {s : Board} {record : FwMetaRecord} (h : Bootable sha s record) :
    StartsFirmware sha s := by
  intro reason hdeep hcrash
  constructor
  · obtain ⟨boot, t, hends, -⟩ := exists_decideBoot_firmware ErasesNothing h hdeep hcrash
    exact ⟨boot, t, hends⟩
  · intro boot t hends
    exact (wp_ends (wp_decideBoot_reliable h hdeep hcrash) hends).2.2

theorem startsUpdater_of_erased {s : Board} (h : s.Sector0Erased) : StartsUpdater sha s := by
  intro boot t hends
  exact (decidedOn_erased (wp_ends (wp_decideBoot s) hends).2 h).2

theorem SameButCtrl.bootable {s t : Board} {record : FwMetaRecord} (h : SameButCtrl s t)
    (hb : Bootable sha s record) : Bootable sha t record := by
  obtain ⟨content, hsame, rfl⟩ := h
  have hread : read content 0 fwMetaRecordSize = read s.fwMeta 0 fwMetaRecordSize := by
    apply read_congr
    intro i hi
    apply hsame
    unfold fwMetaRecordSize at hi
    unfold fwMetaSectorBytes
    omega
  exact ⟨hb.hasFwMeta, hread.trans hb.stored, hb.valid, hb.notForced,
    ⟨hb.otaMatches.magic, hb.otaMatches.embeddedMagic, hb.otaMatches.version,
      hb.otaMatches.digest⟩⟩

theorem SameButCtrl.committed {contentLen : Nat} {s t : Board} (h : SameButCtrl s t)
    (hc : Committed sha contentLen s) : Committed sha contentLen t := by
  obtain ⟨digest, hb⟩ := hc.bootable
  have hb' := h.bootable hb
  obtain ⟨content, -, rfl⟩ := h
  exact ⟨hc.length, hc.stored, digest, hb'⟩

theorem SameButCtrl.rejected {s₀ s t : Board} (h : SameButCtrl s t) (hr : Rejected s₀ s) :
    Rejected s₀ t := by
  obtain ⟨content, hsame, rfl⟩ := h
  rcases hr with ⟨hmeta, hota⟩ | herased | hlog
  · exact .inl ⟨fun i hi => (hsame i hi).trans (hmeta i hi), hota⟩
  · refine .inr (.inl fun i hi hi' => ?_)
    exact (hsame i (by omega)).trans (herased i hi hi')
  · exact .inr (.inr hlog)

/-! ## The commit -/

section Commit

variable {s : Board}

/-- A record that passed its check is stored and valid. -/
theorem wp_writeAndCheckMetaRecord {failedErase : UInt8 → UInt8 → Prop} (otaSize : UInt32)
    (record : FwMetaRecord) (s : Board) :
    (writeAndCheckMetaRecord otaSize record).wp (board sha failedErase) (fun _ _ => True)
      (fun isCommitted t => ∃ content, t = { s with fwMeta := content } ∧
        (isCommitted = true → read content 0 fwMetaRecordSize = record.toBytes ∧
          isFwMetaRecordValid record otaSize = true)) s := by
  rw [writeAndCheckMetaRecord, wp_bind, writeFwMetaRecord, findFwMeta, wp_bind, wp_perform]
  refine ⟨trivial, fun found t ht => ?_⟩
  obtain ⟨-, rfl⟩ := ht
  rw [wp_ite]
  split
  · exact ⟨t.fwMeta, rfl, fun h => by cases h⟩
  rw [metaWrite, wp_perform]
  refine ⟨trivial, fun err u hu => ?_⟩
  obtain ⟨content, -, rfl⟩ := hu
  rw [wp_ite]
  split
  · exact ⟨content, rfl, fun h => by cases h⟩
  rw [wp_bind]
  refine wp_mono (wp_readFwMetaRecord _) ?_
  rintro readBack _ ⟨rfl, -, hread⟩
  refine ⟨content, rfl, fun hcommitted => ?_⟩
  simp only [Bool.and_eq_true, decide_eq_true_eq] at hcommitted
  obtain ⟨⟨hok, hvalid⟩, rfl⟩ := hcommitted
  refine ⟨?_, hvalid⟩
  rw [hread hok, FwMetaRecord.toBytes_ofBytes (length_read _ _ _)]

/-- The record of a body of the given length with the digest of `ota_0` is stored and valid. -/
def RecordStored (sha : Content → Option (Vector UInt8 fwSha256Len)) (otaSize : UInt32)
    (total : Nat) (head : List UInt8) (s : Board) : Prop :=
  ∃ digest, sha s.ota = some digest ∧
    read s.fwMeta 0 fwMetaRecordSize =
      (buildFwMetaRecord (headVersion head) (UInt32.ofNat total) digest).toBytes ∧
    isFwMetaRecordValid (buildFwMetaRecord (headVersion head) (UInt32.ofNat total) digest) otaSize =
      true

/-- A commit that succeeds has stored the record. -/
theorem wp_commitMetaRecord_stored (otaSize : UInt32) (total : Nat) (head : List UInt8)
    (s : Board) :
    (commitMetaRecord otaSize total head).wp (board sha failedErase) (fun _ _ => True)
      (fun result t => result = .ok → RecordStored sha otaSize total head t) s := by
  rw [commitMetaRecord, computeFwImageSha256, wp_bind, wp_perform]
  refine ⟨trivial, fun sha256 t ht => ?_⟩
  obtain ⟨hsha, rfl⟩ := ht
  rw [wp_ite]
  split
  · exact fun hnot => absurd hnot (by decide)
  rename_i hok
  rw [not_not] at hok
  dsimp only
  rw [wp_bind]
  refine wp_mono (wp_writeAndCheckMetaRecord _ _ _) ?_
  rintro isCommitted _ ⟨content, rfl, hcommitted⟩
  rw [wp_ite]
  split
  · rw [wp_bind]
    exact wp_mono (wp_trivial _ _) fun _ _ _ hnot => absurd hnot (by decide)
  · rename_i hdone
    obtain ⟨hstored, hvalid⟩ := hcommitted (by simpa using hdone)
    rw [wp_bind, wp_perform]
    refine ⟨trivial, fun _ u hu => ?_⟩
    obtain rfl : u = _ := hu
    rw [wp_bind]
    refine wp_conseq (Only.wp clearCrashCount_only (R := SameButCtrl) SameButCtrl.trans
      quietCall_step (.refl _)) (fun _ _ _ => trivial) ?_
    rintro _ _ ⟨content', hsame, rfl⟩
    refine fun _ => ⟨sha256.2, hsha hok, ?_, hvalid⟩
    rw [← hstored]
    exact read_congr fun i hi => hsame _ (by simp only [fwMetaRecordSize, fwMetaSectorBytes] at *; omega)

/-- A commit that fails erases sector 0 again, unless that erase fails too. -/
theorem wp_commitMetaRecord_rejected (s₀ : Board) (otaSize : UInt32) (total : Nat)
    (head : List UInt8) (hfound : s.hasFwMeta = true) (herased : s.Sector0Erased)
    (hlog : s.eraseLog = [.ok]) :
    (commitMetaRecord otaSize total head).wp (board sha failedErase) (fun _ _ => True)
      (fun result t => result ≠ .ok → Rejected s₀ t) s := by
  rw [commitMetaRecord, computeFwImageSha256, wp_bind, wp_perform]
  refine ⟨trivial, fun sha256 t ht => ?_⟩
  obtain ⟨-, rfl⟩ := ht
  rw [wp_ite]
  split
  · exact fun _ => .inr (.inl herased)
  dsimp only
  rw [wp_bind]
  refine wp_mono (wp_writeAndCheckMetaRecord _ _ _) ?_
  rintro isCommitted _ ⟨content, rfl, -⟩
  rw [wp_ite]
  split
  · rw [wp_bind]
    refine wp_eraseFwMetaRecord (fun _ => trivial) ?_ ?_ ?_
    · intro hnone
      rw [hfound] at hnone
      cases hnone
    · exact fun _ _ => .inr (.inl (Board.erased_sector0 _))
    · intro err content' herr _ _ _
      refine .inr (.inr ⟨err, herr, ?_⟩)
      show t.eraseLog ++ [err] = [.ok, err]
      rw [hlog]
      rfl
  · rw [wp_bind, wp_perform]
    refine ⟨trivial, fun _ u _ => ?_⟩
    rw [wp_bind]
    exact wp_mono (wp_trivial _ _) fun _ _ _ hne => absurd rfl hne

/-- A stored record commits the image that was accepted. -/
theorem committed_of_stored {handle : UInt32} {contentLen : Nat} {head : List UInt8}
    {partition : OtaPartition} {t u : Board} (hfound : t.hasFwMeta = true)
    (hpartition : t.otaPartition = some partition)
    (hwhole : Receiving handle contentLen contentLen head t) (hcheck : checkImageHead head = .ok)
    (hstored : RecordStored sha partition.size contentLen head u)
    (hsame : SameButMeta (t.accepting handle contentLen) u) : Committed sha contentLen u := by
  obtain ⟨content, log, rfl⟩ := hsame
  obtain ⟨digest, hsha, hstored, hvalid⟩ := hstored
  have hread : read t.ota 0 contentLen = t.received := by
    have hstored' := hwhole.stored
    rwa [hwhole.length] at hstored'
  have hrecord : buildFwMetaRecord (headVersion head) (UInt32.ofNat contentLen) digest =
      receivedRecord t.received digest := by
    unfold receivedRecord
    rw [hwhole.length, hwhole.buffer, headVersion_take]
  rw [hrecord] at hstored hvalid
  refine ⟨hwhole.length, hread, digest, hfound, hstored, ?_, ?_, ?_⟩
  · show isRecordValidFor t.otaPartition _ = true
    rw [hpartition]
    exact hvalid
  · exact isFwForceRequested_build _ _ _
  · exact otaMatches_of_received hwhole.length hread (hwhole.buffer ▸ hcheck) hsha

/-- An upload that succeeds has committed the body. -/
theorem wp_runUpload_committed {ota : Option OtaPartition} {contentLen : Nat}
    (hreceived : s.received = []) (hota : s.otaPartition = ota) :
    (runUpload ota contentLen).wp (board sha failedErase) (fun _ _ => True)
      (fun outcome t => outcome.1 = .ok → Committed sha contentLen t) s := by
  cases ota with
  | none => exact nofun
  | some partition =>
  refine wp_runUpload hreceived (fun _ => trivial) nofun (fun _ => nofun) (fun _ _ _ _ _ => nofun)
    (fun _ => ⟨fun _ => trivial, fun _ => nofun⟩) ?_
  intro hfound handle content t hsame
  refine ⟨fun _ => trivial, fun result hne hok => absurd hok hne, fun _ => nofun, ?_⟩
  intro head _ hwhole hcheck
  refine wp_conseq (wp_and (Only.wp (commitMetaRecord_only partition.size contentLen head)
    (R := SameButMeta) SameButMeta.trans metaCall_step (.refl _))
    (wp_commitMetaRecord_stored partition.size contentLen head _)) (fun _ _ _ => trivial) ?_
  rintro result u ⟨hmeta, hstored⟩ hok
  exact committed_of_stored (hsame.hasFwMeta.trans hfound) (hsame.otaPartition.trans hota) hwhole
    hcheck (hstored hok) hmeta

end Commit

/-! ## The upload and its reply -/

/-- After `RunUpload()`: no reply yet, and a handle is closed or still to be aborted. -/
structure Uploaded (sha : Content → Option (Vector UInt8 fwSha256Len)) (contentLen : Nat)
    (s : Board) (outcome : UploadResult × Option UInt32) (t : Board) : Prop where
  replies : t.replies = []
  handles : t.opened = t.closed ++ outcome.2.toList
  single : t.opened.length ≤ 1
  committed : outcome.1 = .ok → Committed sha contentLen t
  rejected : outcome.1 ≠ .ok → Rejected s t
  noneOpen : outcome.1 = .ok → outcome.2 = none

/-- With the reply: every handle is closed, once. -/
structure Answered (sha : Content → Option (Vector UInt8 fwSha256Len)) (contentLen : Nat)
    (s : Board) (reply : String × String) (t : Board) : Prop where
  handles : t.closed = t.opened
  single : t.opened.length ≤ 1
  committed : reply.1 = "200 OK" → Committed sha contentLen t
  rejected : reply.1 ≠ "200 OK" → Rejected s t

theorem SameButCtrl.answered {contentLen : Nat} {s₀ s t : Board} {reply : String × String}
    (h : SameButCtrl s t) (ha : Answered sha contentLen s₀ reply s) :
    Answered sha contentLen s₀ reply t := by
  refine ⟨?_, ?_, fun hr => h.committed (ha.committed hr), fun hr => h.rejected (ha.rejected hr)⟩
  · obtain ⟨content, -, rfl⟩ := h
    exact ha.handles
  · obtain ⟨content, -, rfl⟩ := h
    exact ha.single

section Upload

variable {s : Board} {contentLen : Nat}

/-- The session of one upload, with no erase, handle or reply logged before it. -/
structure Fresh (s : Board) : Prop where
  replies : s.replies = []
  opened : s.opened = []
  closed : s.closed = []
  eraseLog : s.eraseLog = []

theorem Fresh.uploaded {t : Board} {result : UploadResult} (h : Fresh s)
    (hreplies : t.replies = s.replies) (hopened : t.opened = s.opened)
    (hclosed : t.closed = s.closed) (hresult : result ≠ .ok) (hr : Rejected s t) :
    Uploaded sha contentLen s (result, none) t := by
  refine ⟨hreplies.trans h.replies, ?_, ?_, fun hok => absurd hok hresult, fun _ => hr,
    fun _ => rfl⟩
  · rw [hopened, hclosed, h.opened, h.closed]
    rfl
  · rw [hopened, h.opened]
    decide

/-- While the body is received. -/
structure Opened (handle : UInt32) (t : Board) : Prop where
  replies : t.replies = []
  opened : t.opened = [handle]
  closed : t.closed = []
  eraseLog : t.eraseLog = [.ok]
  erased : t.Sector0Erased

theorem Fresh.opening {handle : UInt32} {content : Content} {s' t : Board} (h : Fresh s)
    (hs' : s' = { s with received := [] })
    (hsame : SameButBody (s'.opening handle contentLen content) t) : Opened handle t := by
  subst hs'
  refine ⟨hsame.replies.trans h.replies, ?_, hsame.closed.trans h.closed, ?_, ?_⟩
  · rw [hsame.opened]
    show s.opened ++ [handle] = [handle]
    rw [h.opened]
    rfl
  · rw [hsame.eraseLog]
    show s.eraseLog ++ [.ok] = [.ok]
    rw [h.eraseLog]
    rfl
  · unfold Board.Sector0Erased
    rw [hsame.fwMeta]
    exact Board.erased_sector0 _

/-- The commit of an accepted image. -/
theorem wp_acceptedImage {handle : UInt32} {t : Board} {partition : OtaPartition}
    {head : List UInt8} (hopen : Opened handle t) (hfound : t.hasFwMeta = true)
    (hpartition : t.otaPartition = some partition)
    (hwhole : Receiving handle contentLen contentLen head t) (hcheck : checkImageHead head = .ok) :
    (commitMetaRecord partition.size contentLen head).wp (board sha ErasesNothing)
      (fun _ u => u.replies = [])
      (fun result => Uploaded sha contentLen s (result, none)) (t.accepting handle contentLen) := by
  have hcommit := wp_and (D := board sha ErasesNothing)
    (wp_commitMetaRecord_stored partition.size contentLen head (t.accepting handle contentLen))
    (wp_commitMetaRecord_rejected s partition.size contentLen head hfound hopen.erased
      hopen.eraseLog)
  refine wp_conseq (wp_and (Only.wp (commitMetaRecord_only partition.size contentLen head)
    (R := SameButMeta) SameButMeta.trans metaCall_step (.refl _)) hcommit) ?_ ?_
  · rintro c _ ⟨⟨-, content', log, rfl⟩, -⟩
    exact hopen.replies
  rintro result u ⟨hmeta, hstored, hreject⟩
  have hcommitted : result = .ok → Committed sha contentLen u := fun hok =>
    committed_of_stored hfound hpartition hwhole hcheck (hstored hok) hmeta
  obtain ⟨content', log, rfl⟩ := hmeta
  refine ⟨hopen.replies, ?_, ?_, hcommitted, hreject, fun _ => rfl⟩
  · show t.opened = (t.closed ++ [handle]) ++ []
    rw [hopen.opened, hopen.closed]
    rfl
  · show t.opened.length ≤ 1
    rw [hopen.opened, List.length_singleton]

theorem wp_runUpload_uploaded {ota : Option OtaPartition} (h : Fresh s)
    (hota : s.otaPartition = ota) :
    (runUpload ota contentLen).wp (board sha ErasesNothing)
      (fun _ t => t.replies = []) (Uploaded sha contentLen s) { s with received := [] } := by
  have hfresh : ∀ result, result ≠ .ok →
      Uploaded sha contentLen s (result, none) { s with received := [] } := by
    intro result hresult
    exact h.uploaded rfl rfl rfl hresult (.inl ⟨fun _ _ => rfl, rfl⟩)
  cases ota with
  | none => exact hfresh .rejectSize (by decide)
  | some partition =>
  refine wp_runUpload rfl (fun _ => h.replies) (hfresh .rejectSize (by decide))
    (fun _ => hfresh .rejectFlash (by decide)) ?_ ?_ ?_
  · -- The first erase failed.
    intro err content _ _ hnothing
    refine h.uploaded rfl rfl rfl ?_ (.inl ⟨fun i _ => hnothing i, rfl⟩)
    decide
  · intro _
    refine ⟨fun _ => h.replies, fun content => ?_⟩
    refine h.uploaded rfl rfl rfl ?_ (.inr (.inl (Board.erased_sector0 _)))
    decide
  intro hfound handle content t hsame
  have hopen : Opened handle t := h.opening rfl hsame
  refine ⟨fun _ => hopen.replies, ?_, ?_, ?_⟩
  · intro result hresult
    refine ⟨hopen.replies, ?_, ?_, fun hok => absurd hok hresult,
      fun _ => .inr (.inl hopen.erased), fun hok => absurd hok hresult⟩
    · rw [hopen.opened, hopen.closed]
      rfl
    · rw [hopen.opened, List.length_singleton]
  · intro content'
    refine ⟨hopen.replies, ?_, ?_, fun hok => (by cases hok),
      fun _ => .inr (.inl hopen.erased), fun _ => rfl⟩
    · show t.opened = (t.closed ++ [handle]) ++ []
      rw [hopen.opened, hopen.closed]
      rfl
    · show t.opened.length ≤ 1
      rw [hopen.opened, List.length_singleton]
  · intro head _ hwhole hcheck
    exact wp_acceptedImage hopen (hsame.hasFwMeta.trans hfound)
      (hsame.otaPartition.trans hota) hwhole hcheck

/-- After the reply only the restart is scheduled. -/
theorem wp_afterReply {p : Fw Unit} (hp : p.Only QuietCall) {t : Board} {reply : String × String}
    (hreply : t.replies = [reply]) (ha : Answered sha contentLen s reply t) :
    p.wp (board sha ErasesNothing)
      (fun _ u => ∀ reply ∈ u.replies, Answered sha contentLen s reply u)
      (fun _ u => ∃ reply, u.replies = [reply] ∧ Answered sha contentLen s reply u) t := by
  refine wp_conseq (Only.wp hp (R := SameButCtrl) SameButCtrl.trans quietCall_step (.refl t)) ?_ ?_
  · intro c u hu reply' hmem
    have ha' := hu.2.answered ha
    obtain ⟨content, -, rfl⟩ := hu.2
    rw [show reply' = reply by simpa [hreply] using hmem]
    exact ha'
  · intro _ u hu
    have ha' := hu.answered ha
    obtain ⟨content, -, rfl⟩ := hu
    exact ⟨reply, hreply, ha'⟩

/-- One reply, sent when the handle is closed. -/
theorem wp_sendReply {result : UploadResult} {p : Fw Unit} (hp : p.Only QuietCall) {t : Board}
    (h : Uploaded sha contentLen s (result, none) t) :
    (sendReply result >>= fun _ => p).wp (board sha ErasesNothing)
      (fun _ u => ∀ reply ∈ u.replies, Answered sha contentLen s reply u)
      (fun _ u => ∃ reply, u.replies = [reply] ∧ Answered sha contentLen s reply u) t := by
  rw [sendReply, wp_bind, wp_perform]
  refine ⟨fun reply hmem => ?_, fun _ u hu => ?_⟩
  · rw [h.replies] at hmem
    cases hmem
  obtain rfl : u = _ := hu
  have hreply : t.replies ++ [((uploadReplies result).status, (uploadReplies result).body)] =
      [((uploadReplies result).status, (uploadReplies result).body)] := by
    rw [h.replies]
    rfl
  refine wp_afterReply hp hreply ⟨?_, h.single, fun hok => ?_, fun hne => ?_⟩
  · have hhandles := h.handles
    rw [Option.toList_none, List.append_nil] at hhandles
    exact hhandles.symm
  · obtain ⟨hlength, hstored, digest, hb⟩ := h.committed (uploadReplies_status_ok.mp hok)
    exact ⟨hlength, hstored, digest, ⟨hb.1, hb.2, hb.3, hb.4,
      ⟨hb.5.magic, hb.5.embeddedMagic, hb.5.version, hb.5.digest⟩⟩⟩
  · exact h.rejected fun hok => hne (uploadReplies_status_ok.mpr hok)

theorem wp_processUpload_answered (h : Fresh s) :
    (processUpload s.otaPartition contentLen).wp (board sha ErasesNothing)
      (fun _ t => ∀ reply ∈ t.replies, Answered sha contentLen s reply t)
      (fun _ t => ∃ reply, t.replies = [reply] ∧ Answered sha contentLen s reply t) s := by
  have hsilent : ∀ {t : Board}, t.replies = [] →
      ∀ reply ∈ t.replies, Answered sha contentLen s reply t := by
    intro t ht reply hmem
    rw [ht] at hmem
    cases hmem
  rw [processUpload, wp_bind, wp_perform]
  refine ⟨hsilent h.replies, fun _ t ht => ?_⟩
  obtain rfl : t = _ := ht
  rw [wp_bind]
  refine wp_conseq (wp_runUpload_uploaded h rfl) (fun _ _ => hsilent) ?_
  rintro ⟨result, pending⟩ t ht
  rw [replyUpload, ite_bind, wp_ite]
  have hcomplete : (perform FwCall.asyncComplete : Fw Unit).Only QuietCall :=
    ⟨trivial, fun _ => trivial⟩
  split
  · rename_i hresult
    have hstate : ∀ {u : Board}, Uploaded sha contentLen s (result, none) u →
        (perform (FwCall.setUploadState .error) >>= fun _ => sendReply result >>= fun _ =>
          perform FwCall.asyncComplete).wp (board sha ErasesNothing)
          (fun _ t => ∀ reply ∈ t.replies, Answered sha contentLen s reply t)
          (fun _ t => ∃ reply, t.replies = [reply] ∧ Answered sha contentLen s reply t) u := by
      intro u hu
      rw [wp_bind, wp_perform]
      refine ⟨hsilent hu.replies, fun _ v hv => ?_⟩
      obtain rfl : v = u := hv
      exact wp_sendReply hcomplete hu
    cases pending with
    | none =>
        simp only [abortIfOpen, pure_bind, bind_assoc]
        exact hstate ht
    | some handle =>
        simp only [abortIfOpen, pure_bind, bind_assoc]
        rw [wp_bind, wp_perform]
        refine ⟨hsilent ht.replies, fun err u hu => ?_⟩
        obtain rfl : u = _ := hu
        refine hstate ⟨ht.replies, ?_, ht.single, fun hok => absurd hok hresult,
          fun _ => ht.rejected hresult, fun _ => rfl⟩
        exact ht.handles.trans (List.append_nil _).symm
  · rename_i hok
    obtain rfl : result = .ok := not_not.mp hok
    obtain rfl : pending = none := ht.noneOpen rfl
    simp only [bind_assoc]
    rw [wp_bind, wp_perform]
    refine ⟨hsilent ht.replies, fun version u hu => ?_⟩
    obtain rfl : u = t := hu
    rw [wp_bind, wp_perform]
    refine ⟨hsilent ht.replies, fun _ v hv => ?_⟩
    obtain rfl : v = u := hv
    exact wp_sendReply (Only.bind scheduleRestart_only fun _ => hcomplete) ht

/-- A success is a commit. -/
theorem committed_of_reply (h : Fresh s) {t : Board} {body : String}
    (hends : Ends (board sha ErasesNothing) (processUpload s.otaPartition contentLen) s () t)
    (hreply : t.replies = [("200 OK", body)]) : Committed sha contentLen t := by
  obtain ⟨reply, hreplies, hanswered⟩ := wp_ends (wp_processUpload_answered h) hends
  obtain rfl : ("200 OK", body) = reply := List.singleton_inj.1 (hreply.symm.trans hreplies)
  exact hanswered.committed rfl

/-- The promise of the reply: 200 means that the received body is in `ota_0`, that sector 0 holds
its record byte for byte, and that a start after neither a crash nor a wakeup runs it; any other
reply means that nothing was touched, that starts enter an updater mode, or that the clean-up erase
of a failed commit failed. Every handle is closed once, and a finished upload has sent one reply. -/
theorem processUpload_reply (h : Fresh s) :
    (∀ t reply, CutAt (board sha ErasesNothing) (processUpload s.otaPartition contentLen) s t →
      reply ∈ t.replies →
        (reply.1 = "200 OK" →
          t.received.length = contentLen ∧ read t.ota 0 contentLen = t.received ∧
            (∃ digest, sha t.ota = some digest ∧
              read t.fwMeta 0 fwMetaRecordSize = (receivedRecord t.received digest).toBytes ∧
              isRecordValidFor t.otaPartition (receivedRecord t.received digest) = true) ∧
            StartsFirmware sha t) ∧
        (reply.1 ≠ "200 OK" →
          ((∀ i < fwMetaSectorBytes, t.fwMeta i = s.fwMeta i) ∧ t.ota = s.ota) ∨
            StartsUpdater sha t ∨ ∃ err, err ≠ .ok ∧ t.eraseLog = [.ok, err]) ∧
        t.closed = t.opened ∧ t.opened.length ≤ 1) ∧
      ∀ t, Ends (board sha ErasesNothing) (processUpload s.otaPartition contentLen) s () t →
        ∃ reply, t.replies = [reply] := by
  have hwp : (processUpload s.otaPartition contentLen).wp (board sha ErasesNothing)
      (fun _ t => ∀ reply ∈ t.replies, Answered sha contentLen s reply t)
      (fun _ t => ∃ reply, t.replies = [reply] ∧ Answered sha contentLen s reply t) s :=
    wp_processUpload_answered h
  constructor
  · intro t reply hcut hmem
    have ha : Answered sha contentLen s reply t := by
      rcases hcut with ⟨c, hreach⟩ | ⟨_, hends⟩
      · exact wp_reaches hwp hreach reply hmem
      · obtain ⟨reply', hreply', ha⟩ := wp_ends hwp hends
        rw [hreply', List.mem_singleton] at hmem
        rwa [hmem]
    refine ⟨fun hok => ?_, fun hne => ?_, ha.handles, ha.single⟩
    · obtain ⟨hlength, hstored, digest, hb⟩ := ha.committed hok
      exact ⟨hlength, hstored, ⟨digest, hb.otaMatches.digest, hb.stored, hb.valid⟩,
        hb.startsFirmware⟩
    · rcases ha.rejected hne with hsame | herased | hlog
      · exact .inl hsame
      · exact .inr (.inl (startsUpdater_of_erased herased))
      · exact .inr (.inr hlog)
  · intro t hends
    obtain ⟨reply, hreply, -⟩ := wp_ends hwp hends
    exact ⟨reply, hreply⟩

/-- The connection is lost after the first chunk. -/
theorem exists_interruptedUpload {partition : OtaPartition} (hota : s.otaPartition = some partition)
    (hfits : contentLen ≤ partition.size.toNat) (hfound : s.hasFwMeta = true) (chunk : List UInt8)
    (hne : chunk ≠ []) (hle : chunk.length ≤ fwUploadChunkBytes) (hmore : chunk.length < contentLen)
    (hcheck : checkFilledHead [] (fillHead [] chunk) = .ok) :
    ∃ t, Ends (board sha failedErase) (processUpload s.otaPartition contentLen) s () t ∧
      t.replies = s.replies ++ [("408 Request Timeout", "Upload interrupted")] ∧
      t.opened = s.opened ++ [1] ∧ t.eraseLog = s.eraseLog ++ [.ok] ∧ t.Sector0Erased := by
  have hpos : 0 < chunk.length := List.length_pos_iff.2 hne
  let start := { s with received := [] }
  let begun := start.opening 1 contentLen (fun _ => 0xFF)
  let heard := { begun with received := chunk }
  let written := { heard with
    ota := write begun.ota 0 chunk
    session := some ⟨1, contentLen, chunk⟩ }
  let aborted := { written with session := none, closed := s.closed ++ [1] }
  let t := { aborted with
    replies := s.replies ++ [("408 Request Timeout", "Upload interrupted")] }
  have hrecv : board sha failedErase (.recv (min (contentLen - 0) fwUploadChunkBytes)) begun
      (.data chunk) heard := ⟨by omega, rfl⟩
  have hreceive : Ends (board sha failedErase) (receiveImage 1 contentLen 0 0 []) begun
      (.rejectInterrupted, fillHead [] chunk) written := by
    rw [receiveImage, dif_pos (by omega)]
    refine .call hrecv ?_
    show Ends _ (if _ : chunk.length = 0 then _ else _) _ _ _
    rw [dif_neg hpos.ne', hcheck, if_neg (not_not.2 rfl)]
    refine .call (r := EspErr.ok) (t := written) (.inl ⟨rfl, _, rfl, rfl, rfl⟩) ?_
    rw [Prog.bind, if_neg (not_not.2 rfl)]
    refine .call (r := ()) rfl ?_
    show Ends _ (receiveImage 1 contentLen (0 + chunk.length) 0 _) written _ _
    rw [receiveImage, dif_pos (by omega)]
    have hlost : board sha failedErase
        (.recv (min (contentLen - (0 + chunk.length)) fwUploadChunkBytes)) written .failed written :=
      rfl
    exact .call hlost (.ret _ written)
  have herase : Ends (delivering sha chunk) eraseFwMetaRecord start .ok start.erased :=
    eraseFwMetaRecord_delivers hfound
  have hinterrupted : UploadResult.rejectInterrupted ≠ .ok := by decide
  refine ⟨t, ?_, rfl, rfl, rfl, Board.erased_sector0 start⟩
  rw [hota]
  refine .call (r := ()) (t := start) rfl ?_
  refine Ends.bind (b := (.rejectInterrupted, some 1)) (t := written) ?_ ?_
  · rw [runUpload, if_neg (by omega)]
    refine (herase.mono (delivering_le_board chunk)).bind ?_
    rw [if_neg (not_not.2 rfl)]
    refine .call (r := ()) rfl ?_
    refine .call (r := (EspErr.ok, 1)) (t := begun) (.inl ⟨rfl, _, rfl⟩) ?_
    rw [Prog.bind, if_neg (not_not.2 rfl)]
    refine hreceive.bind ?_
    rw [if_pos hinterrupted]
    exact .ret _ written
  · rw [replyUpload, if_pos hinterrupted]
    refine .call (r := EspErr.ok) (t := aborted) rfl ?_
    refine .call (r := ()) rfl ?_
    refine .call (r := ()) (t := t) rfl ?_
    exact .call (r := ()) rfl (.ret () t)

/-- An upload that succeeds on a board without firmware, and one that is lost after
`esp_ota_begin()` on a board with firmware. -/
theorem processUpload_reply_both :
    (∃ t, Ends (board sampleSha ErasesNothing)
        (processUpload blankBoard.otaPartition sampleImage.length) blankBoard () t ∧
      t.replies = [("200 OK", "Update complete, restarting")] ∧ t.received = sampleImage ∧
      read t.ota 0 sampleImage.length = sampleImage ∧
      (∃ digest, sampleSha t.ota = some digest ∧
        read t.fwMeta 0 fwMetaRecordSize = (receivedRecord sampleImage digest).toBytes ∧
        isRecordValidFor t.otaPartition (receivedRecord sampleImage digest) = true) ∧
      StartsFirmware sampleSha t ∧ t.closed = t.opened) ∧
    ∃ t, Ends (board sampleSha ErasesNothing)
        (processUpload sampleBoard.otaPartition sampleImage.length) sampleBoard () t ∧
      t.replies = [("408 Request Timeout", "Upload interrupted")] ∧ StartsUpdater sampleSha t ∧
      t.opened = [1] ∧ t.closed = [1] := by
  constructor
  · obtain ⟨t, hends, hreceived, hreplies⟩ := exists_sampleUpload
    obtain ⟨hok, -, hclosed, -⟩ := (processUpload_reply ⟨rfl, rfl, rfl, rfl⟩).1 t _
      (.inr ⟨(), hends ErasesNothing⟩) (by rw [hreplies]; exact List.mem_singleton_self _)
    obtain ⟨-, hread, hrecord, hstarts⟩ := hok rfl
    rw [hreceived] at hread hrecord
    exact ⟨t, hends ErasesNothing, hreplies, hreceived, hread, hrecord, hstarts, hclosed⟩
  · have hends : ∃ t, Ends (board sampleSha ErasesNothing) _ sampleBoard () t ∧ _ :=
      exists_interruptedUpload rfl sampleImage_fits rfl (sampleImage.take fwImageHeadLen)
        (by decide +kernel) (by decide +kernel) (by decide +kernel) (by decide +kernel)
    obtain ⟨t, hends, hreplies, hopened, hlog, herased⟩ := hends
    obtain ⟨-, herror, hclosed, -⟩ := (processUpload_reply ⟨rfl, rfl, rfl, rfl⟩).1 t _
      (.inr ⟨(), hends⟩) (by rw [hreplies]; exact List.mem_singleton_self _)
    refine ⟨t, hends, hreplies, ?_, hopened, hclosed.trans hopened⟩
    obtain ⟨hsame, -⟩ | hstarts | ⟨err, -, hfailed⟩ := herror (by decide)
    · have hfirst : sampleBoard.fwMeta 0 ≠ 0xFF := by decide +kernel
      have hbyte := herased 0 (Nat.le_refl 0) (by decide)
      exact absurd ((hsame 0 (by decide)).symm.trans hbyte) hfirst
    · exact hstarts
    · rw [hlog] at hfailed
      cases hfailed

end Upload

end StripTuner.Updater
