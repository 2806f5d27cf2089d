import Mathlib.Logic.Relation
import StripTuner.Updater.ForceFlag
import StripTuner.Updater.Reply

/-!
# Only accepted images are started

Over any run of starts, uploads, update requests and healthy marks, each cut anywhere or complete,
either sector 0 is erased or `ota_0` is an image that `esp_ota_end()` accepted. The upload erases
sector 0 before it opens the OTA session and writes it only after the image was accepted; every
other write to sector 0 rewrites a record that was not erased.
-/

namespace StripTuner.Updater

open ByteLayout DeviceCalls DeviceCalls.Prog FlashRegion FwMeta

variable {sha : Content → Option (Vector UInt8 fwSha256Len)}

/-! ## The invariant -/

/-- `ota_0` is an image that `esp_ota_end()` accepted. -/
def Board.OtaAccepted (s : Board) : Prop := ∃ image ∈ s.accepted, s.ota = image.content

structure Safe (s : Board) : Prop where
  complete : ∀ image ∈ s.accepted, image.Complete
  erasedOrAccepted : s.Sector0Erased ∨ s.OtaAccepted

theorem SameOta.otaAccepted {s t : Board} (h : SameOta s t) (ha : s.OtaAccepted) :
    t.OtaAccepted := by
  obtain ⟨image, hmem, hota⟩ := ha
  exact ⟨image, by rwa [h.accepted], by rw [h.ota, hota]⟩

theorem Safe.sameImage {s t : Board} (hs : Safe s) (h : SameImage s t) : Safe t := by
  refine ⟨by rw [h.accepted]; exact hs.complete, ?_⟩
  rcases hs.erasedOrAccepted with he | ha
  · exact .inl (h.sector0Erased he)
  · exact .inr (SameOta.otaAccepted ⟨h.ota, h.accepted⟩ ha)

theorem Safe.sameOta {s t : Board} (hs : Safe s) (ha : s.OtaAccepted) (h : SameOta s t) :
    Safe t :=
  ⟨by rw [h.accepted]; exact hs.complete, .inr (h.otaAccepted ha)⟩

section Rules

variable {α β : Type} {s : Board}

/-- Harmless calls keep the invariant. -/
theorem wp_harmless {p : Fw α} (hp : p.Only Harmless) (hs : Safe s) :
    p.wp (board sha SetsBits) (fun _ => Safe) (fun _ t => SameImage s t) s :=
  wp_conseq (Only.wp hp (R := SameImage) SameImage.trans harmless_step (.refl s))
    (fun _ _ h => hs.sameImage h.2) (fun _ _ h => h)

/-- With an accepted image in `ota_0`, anything may be written to the record partition. -/
theorem wp_keepsOta {p : Fw α} (hp : p.Only KeepsOta) (hs : Safe s) (ha : s.OtaAccepted) :
    p.wp (board sha SetsBits) (fun _ => Safe) (fun _ => Safe) s :=
  wp_conseq (Only.wp hp (R := SameOta) SameOta.trans keepsOta_step (.refl s))
    (fun _ _ h => hs.sameOta ha h.2) (fun _ _ h => hs.sameOta ha h)

theorem wp_harmless_safe {p : Fw α} (hp : p.Only Harmless) (hs : Safe s) :
    p.wp (board sha SetsBits) (fun _ => Safe) (fun _ => Safe) s :=
  wp_mono (wp_harmless hp hs) fun _ _ h => hs.sameImage h

end Rules

/-! ## The calls of each function -/

theorem only_harmless {α : Type} {p : Fw α} (h : p.Only ReadCall) : p.Only Harmless :=
  Only.mono h fun _ => ReadCall.harmless

theorem markFirmwareHealthy_only : markFirmwareHealthy.Only Harmless :=
  Only.mono clearCrashCount_only fun _ => QuietCall.harmless

theorem only_keepsOta_of_meta {α : Type} {p : Fw α} (h : p.Only MetaCall) : p.Only KeepsOta :=
  Only.mono h fun _ => MetaCall.keepsOta

theorem programFwMetaForceFlag_only : programFwMetaForceFlag.Only KeepsOta :=
  Only.bind ⟨trivial, fun _ => trivial⟩ fun _ => Only.ite trivial
    (Only.bind ⟨trivial, fun _ => trivial⟩ fun _ => Only.ite trivial
      (Only.bind ⟨trivial, fun _ => trivial⟩ fun _ => Only.ite trivial trivial))

theorem clearForceFlag_only (record : FwMetaRecord) : (clearForceFlag record).Only KeepsOta :=
  clearForceFlag_only_of (fun _ hc => hc.harmless.keepsOta) trivial (fun _ => trivial) record

/-! ## Starts, requests and healthy marks -/

section Activities

variable {s : Board}

theorem wp_actOnDecision {boot : BootDecision} (hs : Safe s) (hboot : DecidedOn sha s boot) :
    (actOnDecision boot).wp (board sha SetsBits) (fun _ => Safe) (fun _ => Safe) s := by
  rcases hs.erasedOrAccepted with he | ha
  · have hclear := (decidedOn_erased hboot he).1
    refine wp_harmless_safe (actOnDecision_only (fun _ => QuietCall.harmless) boot fun hreq => ?_) hs
    exact absurd hreq (by rw [hclear]; decide)
  · have hquiet : ∀ c, QuietCall c → KeepsOta c := fun _ hc => hc.harmless.keepsOta
    exact wp_keepsOta (actOnDecision_only hquiet boot fun _ => clearForceFlag_only _) hs ha

theorem wp_appMain (hs : Safe s) :
    appMain.wp (board sha SetsBits) (fun _ => Safe) (fun _ => Safe) s := by
  rw [appMain, wp_bind]
  refine wp_conseq (wp_decideBoot s) ?_ ?_
  · rintro c t rfl
    exact hs
  · rintro boot t ⟨rfl, hboot⟩
    exact wp_actOnDecision hs hboot

/-- The force flag is only programmed into a valid record, hence not into an erased sector. -/
theorem wp_requestFwUpdate (hs : Safe s) :
    requestFwUpdate.wp (board sha SetsBits) (fun _ => Safe) (fun _ => Safe) s := by
  rw [requestFwUpdate, findOta, wp_bind, wp_perform]
  refine ⟨hs, fun ota t ht => ?_⟩
  obtain ⟨-, rfl⟩ := ht
  rw [wp_bind]
  refine wp_conseq (wp_and (wp_harmless_safe (only_harmless readFwMetaRecord_only) hs)
    (wp_readFwMetaRecord t)) (fun _ _ h => h.1) ?_
  rintro record _ ⟨-, rfl, hrecord, -⟩
  rw [wp_ite]
  split
  · exact hs
  rename_i u hvalid
  have ha : u.OtaAccepted := by
    refine hs.erasedOrAccepted.resolve_left fun he => hvalid ?_
    rw [readRecord_of_erased hrecord he]
    cases ota with
    | none => rfl
    | some partition => rw [isRecordValidFor, erased_not_valid, Bool.not_false]
  exact wp_keepsOta (Only.bind programFwMetaForceFlag_only fun _ => Only.ite trivial trivial) hs ha

end Activities

theorem abortIfOpen_only (handle : Option UInt32) : (abortIfOpen handle).Only Harmless := by
  cases handle with
  | none => trivial
  | some handle => exact Only.bind ⟨trivial, fun _ => trivial⟩ fun _ => trivial

theorem replyUpload_only (outcome : UploadResult × Option UInt32) :
    (replyUpload outcome).Only Harmless := by
  refine Only.ite (Only.bind (abortIfOpen_only _) fun _ => ?_)
    (Only.bind ⟨trivial, fun _ => trivial⟩ fun _ => ?_)
  · exact Only.bind ⟨trivial, fun _ => trivial⟩ fun _ => ⟨trivial, fun _ => trivial⟩
  · exact Only.bind ⟨trivial, fun _ => trivial⟩ fun _ =>
      Only.bind ⟨trivial, fun _ => trivial⟩ fun _ =>
        Only.mono scheduleRestart_only fun _ => QuietCall.harmless

/-! ## Uploads -/

section Upload

variable {s : Board}

theorem setsBits_erased {b : UInt8} (h : SetsBits 0xFF b) : b = 0xFF := by
  have hb : 0xFF &&& b = b := by
    apply UInt8.toNat_inj.mp
    rw [UInt8.toNat_and]
    exact (Nat.and_comm _ _).trans ((Nat.and_two_pow_sub_one_eq_mod b.toNat 8).trans
      (Nat.mod_eq_of_lt b.toNat_lt))
  rw [← hb]
  exact h

theorem wp_runUpload_safe (ota : Option OtaPartition) (total : Nat) (hs : Safe s)
    (hreceived : s.received = []) :
    (runUpload ota total).wp (board sha SetsBits) (fun _ => Safe) (fun _ => Safe) s := by
  cases ota with
  | none => exact hs
  | some partition =>
  have herased : ∀ t, t.accepted = s.accepted → t.Sector0Erased → Safe t := fun t ht he =>
    ⟨by rw [ht]; exact hs.complete, .inl he⟩
  refine wp_runUpload hreceived (fun _ => hs) hs (fun _ => hs) ?_ ?_ ?_
  · intro err content herr hsame hbits
    refine ⟨hs.complete, ?_⟩
    rcases hs.erasedOrAccepted with he | ha
    · refine .inl fun i hi hi' => setsBits_erased ?_
      rw [← he i hi hi']
      exact hbits i
    · exact .inr ha
  · exact fun _ => ⟨fun _ => herased _ rfl s.erased_sector0,
      fun content => herased _ rfl s.erased_sector0⟩
  · intro _ handle content t ht
    have he : t.Sector0Erased := by
      rw [Board.Sector0Erased, ht.fwMeta]
      exact s.erased_sector0
    have hsafe := herased t ht.accepted he
    refine ⟨fun _ => hsafe, fun _ _ => hsafe, fun content' => herased _ ht.accepted he, ?_⟩
    intro head _ hwhole _
    -- The image was accepted: `ota_0` is its content from here on.
    refine wp_mono (wp_keepsOta (only_keepsOta_of_meta (commitMetaRecord_only _ _ _)) ⟨?_, ?_⟩ ?_) fun _ _ h => h
    · intro image hmem
      rcases List.mem_append.mp hmem with hold | hnew
      · exact hsafe.complete image hold
      · obtain rfl := List.mem_singleton.mp hnew
        exact ⟨hwhole.length, hwhole.stored⟩
    · exact .inr ⟨_, List.mem_append_right _ (List.mem_singleton_self _), rfl⟩
    · exact ⟨_, List.mem_append_right _ (List.mem_singleton_self _), rfl⟩

theorem wp_processUpload_safe (ota : Option OtaPartition) (contentLen : Nat) (hs : Safe s) :
    (processUpload ota contentLen).wp (board sha SetsBits) (fun _ => Safe) (fun _ => Safe) s := by
  rw [processUpload, wp_bind, wp_perform]
  refine ⟨hs, fun _ t ht => ?_⟩
  obtain rfl : t = _ := ht
  rw [wp_bind]
  refine wp_mono (wp_runUpload_safe ota contentLen ⟨hs.complete, hs.erasedOrAccepted⟩ rfl) ?_
  intro outcome t ht
  exact wp_harmless_safe (Only.bind (replyUpload_only outcome) fun _ =>
    ⟨trivial, fun _ => trivial⟩) ht

end Upload

/-! ## Runs -/

/-- What the device does between two power cuts. -/
inductive Activity where
  | start
  | upload (ota : Option OtaPartition) (contentLen : Nat)
  | requestUpdate
  | markHealthy

def Activity.program : Activity → Fw Unit
  | .start => appMain
  | .upload ota contentLen => processUpload ota contentLen
  | .requestUpdate => requestFwUpdate >>= fun _ => pure ()
  | .markHealthy => markFirmwareHealthy

/-- The flash areas, and what was accepted so far; everything else may change over a restart. -/
structure SameFlash (s t : Board) : Prop where
  fwMeta : t.fwMeta = s.fwMeta
  ota : t.ota = s.ota
  accepted : t.accepted = s.accepted

/-- One activity, complete or cut between two calls. -/
def RunStep (sha : Content → Option (Vector UInt8 fwSha256Len)) (s t : Board) : Prop :=
  ∃ activity s', SameFlash s s' ∧ CutAt (board sha SetsBits) (Activity.program activity) s' t

/-- The board as it was first flashed: without firmware, or with an image and its record. -/
inductive Initial (s : Board) : Prop where
  | blank (accepted : s.accepted = []) (erased : s.Sector0Erased)
  | flashed (image : Image) (accepted : s.accepted = [image]) (complete : image.Complete)
    (ota : s.ota = image.content)

theorem Initial.safe {s : Board} (h : Initial s) : Safe s := by
  cases h with
  | blank accepted erased => exact ⟨by simp [accepted], .inl erased⟩
  | flashed image accepted complete ota =>
      refine ⟨by simp [accepted, complete], .inr ⟨image, by simp [accepted], ota⟩⟩

theorem Safe.sameFlash {s t : Board} (hs : Safe s) (h : SameFlash s t) : Safe t :=
  hs.sameImage ⟨fun i _ => by rw [h.fwMeta], h.ota, h.accepted⟩

theorem runStep_safe {s t : Board} (hs : Safe s) (h : RunStep sha s t) : Safe t := by
  obtain ⟨activity, s', hsame, hcut⟩ := h
  have hs' := hs.sameFlash hsame
  refine wp_cutAt (p := activity.program) ?_ hcut
  cases activity with
  | start => exact wp_appMain hs'
  | upload ota contentLen => exact wp_processUpload_safe ota contentLen hs'
  | requestUpdate =>
      rw [Activity.program, wp_bind]
      exact wp_mono (wp_requestFwUpdate hs') fun _ _ h => h
  | markHealthy => exact wp_harmless_safe markFirmwareHealthy_only hs'

theorem runs_safe {s t : Board} (hs : Safe s) (h : Relation.ReflTransGen (RunStep sha) s t) :
    Safe t := by
  induction h with
  | refl => exact hs
  | tail _ hstep ih => exact runStep_safe ih hstep

/-- Whenever a start decides to run the firmware, `ota_0` is exactly an image that was accepted in
full, sector 0 holds a valid record with its digest, and the force flag is clear. -/
theorem started_image_accepted {s₀ s s' t : Board} {boot : BootDecision} (hinit : Initial s₀)
    (hruns : Relation.ReflTransGen (RunStep sha) s₀ s) (hrestart : SameFlash s s')
    (hboot : Ends (board sha SetsBits) decideBoot s' boot t)
    (hmode : boot.decision.mode = .firmware) :
    (∃ image ∈ s.accepted, image.Complete ∧ t.ota = image.content) ∧
      (∃ partition, s'.otaPartition = some partition ∧
        isFwMetaRecordValid boot.record partition.size = true) ∧
      read t.fwMeta 0 fwMetaRecordSize = boot.record.toBytes ∧
      sha t.ota = some boot.record.imageSha256 ∧
      boot.record.forceBootloader = fwForceBootloaderClear := by
  have hs := (runs_safe hinit.safe hruns).sameFlash hrestart
  obtain ⟨rfl, hdecided⟩ := wp_ends (wp_decideBoot s') hboot
  have hconditions := decideFwBoot_firmware (hdecided.decision ▸ hmode)
  obtain ⟨hforce, hvalid, hmatch⟩ := hconditions
  have hnot : ¬ t.Sector0Erased := fun he => (decidedOn_erased hdecided he).2 hmode
  obtain ⟨image, hmem, hota⟩ := hs.erasedOrAccepted.resolve_left hnot
  refine ⟨⟨image, hrestart.accepted ▸ hmem, hs.complete image hmem, hota⟩, ?_, ?_,
    (hdecided.isOtaMatch hmatch).digest, ?_⟩
  · rw [hdecided.isRecordValid] at hvalid
    cases hpartition : t.otaPartition with
    | none =>
        rw [hpartition] at hvalid
        cases hvalid
    | some partition =>
        rw [hpartition] at hvalid
        exact ⟨partition, rfl, hvalid⟩
  · rcases hdecided.record with herased | hstored
    · rw [hdecided.isRecordValid, herased] at hvalid
      cases hpartition : t.otaPartition with
      | none =>
          rw [hpartition] at hvalid
          cases hvalid
      | some partition =>
          rw [hpartition, isRecordValidFor, erased_not_valid] at hvalid
          cases hvalid
    · rw [hstored, FwMetaRecord.toBytes_ofBytes (length_read _ _ _)]
  · rw [hdecided.isForceRequested] at hforce
    simpa [isFwForceRequested] using hforce

/-- The first image is uploaded, the firmware asks for the updater, and the updater lets it start. -/
theorem started_image_accepted_updated :
    ∃ (s t u : Board) (boot : BootDecision),
      Ends (board sampleSha SetsBits)
        (processUpload blankBoard.otaPartition sampleImage.length) blankBoard () s ∧
      Ends (board sampleSha SetsBits) requestFwUpdate s .set t ∧
      Ends (board sampleSha SetsBits) appMain t () u ∧
      Ends (board sampleSha SetsBits) decideBoot u boot u ∧ boot.decision.mode = .firmware ∧
      (∃ image ∈ u.accepted, image.Complete ∧ u.ota = image.content) ∧
      sampleSha u.ota = some boot.record.imageSha256 := by
  obtain ⟨s, hupload, -, hreply⟩ := exists_sampleUpload
  obtain ⟨-, -, digest, hbootable⟩ :=
    committed_of_reply ⟨rfl, rfl, rfl, rfl⟩ (hupload ErasesNothing) hreply
  obtain ⟨t, u, hrequest, hprogrammed, hforced, hstart⟩ := exists_request_and_start hbootable .sw
  have hrestored := wp_ends (wp_appMain_forced hbootable hprogrammed hforced) hstart
  obtain ⟨boot, v, hboot, hmode⟩ := exists_decideBoot_firmware SetsBits
    (hrestored.bootable hbootable hprogrammed) (by decide : ResetReason.sw ≠ .deepsleep) (by decide)
  have hle : ∀ c s r t, norBoard sampleSha .sw c s r t → board sampleSha SetsBits c s r t :=
    fun c s r t h => reliable_le_board .sw c s r t (norBoard_le_reliable .sw c s r t h)
  have hdecide := hboot.mono (reliable_le_board .sw)
  obtain rfl : v = u := (wp_ends (wp_decideBoot u) hdecide).1
  have hasked : Ends (board sampleSha SetsBits) (Activity.program .requestUpdate) s () t :=
    (hrequest.mono hle).bind (.ret _ t)
  have hsame : ∀ s : Board, SameFlash s s := fun _ => ⟨rfl, rfl, rfl⟩
  have hruns : Relation.ReflTransGen (RunStep sampleSha) blankBoard v :=
    ((Relation.ReflTransGen.single
      ⟨.upload blankBoard.otaPartition sampleImage.length, _, hsame _, .inr ⟨_, hupload SetsBits⟩⟩).tail
      ⟨.requestUpdate, _, hsame _, .inr ⟨_, hasked⟩⟩).tail
      ⟨.start, _, hsame _, .inr ⟨_, hstart.mono hle⟩⟩
  have hinit : Initial blankBoard := .blank rfl fun _ _ _ => rfl
  obtain ⟨haccepted, -, -, hsha, -⟩ :=
    started_image_accepted hinit hruns (hsame v) hdecide hmode
  exact ⟨s, t, v, boot, hupload SetsBits, hrequest.mono hle, hstart.mono hle, hdecide, hmode,
    haccepted, hsha⟩

end StripTuner.Updater
