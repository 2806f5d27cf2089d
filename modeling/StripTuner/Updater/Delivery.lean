import StripTuner.Updater.BootDecision
import StripTuner.Updater.Receive

/-!
# A delivered image

An upload that nothing disturbs. Every image whose head passes the check and whose size fits is
received, however the connection divides it, verified and committed.
-/

namespace StripTuner.Updater

open ByteLayout DeviceCalls DeviceCalls.Prog FlashRegion FwMeta

variable {sha : Content → Option (Vector UInt8 fwSha256Len)} {failedErase : UInt8 → UInt8 → Prop}

/-! ## The image head -/

/-- The record that `CommitMetaRecord()` builds for a received body. -/
def receivedRecord (body : List UInt8) (digest : Vector UInt8 fwSha256Len) : FwMetaRecord :=
  buildFwMetaRecord (headVersion body) (UInt32.ofNat body.length) digest

theorem headVersion_take (body : List UInt8) :
    headVersion (body.take fwImageHeadLen) = headVersion body := field_take (by decide)

theorem checkFwEmbeddedMeta_of_head {head : List UInt8} (h : checkImageHead head = .ok) :
    checkFwEmbeddedMeta head = .ok := by
  unfold checkImageHead at h
  revert h
  cases checkFwEmbeddedMeta head <;> decide

/-- What the accepted head holds. -/
theorem checkFwEmbeddedMeta_ok {head : List UInt8} (h : checkFwEmbeddedMeta head = .ok) :
    fwImageHeadLen ≤ head.length ∧ head.getD 0 0 = fwImageMagic ∧
      readWord32 head fwEmbeddedMetaOffset = fwMetaMagic ∧
      isValidFwVersion (headVersion head) = true := by
  unfold checkFwEmbeddedMeta at h
  by_cases hlen : head.length < fwImageHeadLen
  · rw [if_pos hlen] at h
    cases h
  rw [if_neg hlen] at h
  rw [not_lt] at hlen
  split at h
  · cases h
  rename_i himage
  split at h
  · cases h
  rename_i hmagic
  split at h
  · cases h
  rename_i hversion
  rw [not_or, not_not] at himage
  rw [ne_eq, not_not, readLe32_eq (le_trans (by decide) hlen)] at hmagic
  rw [Bool.not_eq_true', Bool.not_eq_false] at hversion
  exact ⟨hlen, himage.1, hmagic, hversion⟩

/-- The record of an accepted image that fits is valid. -/
theorem isFwMetaRecordValid_received {image : List UInt8}
    (hhead : checkImageHead (image.take fwImageHeadLen) = .ok) {otaSize : UInt32}
    (hfits : image.length ≤ otaSize.toNat) (digest : Vector UInt8 fwSha256Len) :
    isFwMetaRecordValid (receivedRecord image digest) otaSize = true := by
  obtain ⟨hlen, -, -, hversion⟩ := checkFwEmbeddedMeta_ok (checkFwEmbeddedMeta_of_head hhead)
  rw [headVersion_take] at hversion
  rw [List.length_take] at hlen
  have hsize : (UInt32.ofNat image.length).toNat = image.length :=
    UInt32.toNat_ofNat_of_lt' (hfits.trans_lt otaSize.toNat_lt)
  rw [receivedRecord, isFwMetaRecordValid_build, hversion, Bool.true_and, Bool.and_eq_true,
    decide_eq_true_eq, decide_eq_true_eq, UInt32.le_iff_toNat_le, UInt32.le_iff_toNat_le, hsize]
  exact ⟨hlen.trans (Nat.min_le_right _ _), hfits⟩

/-- The head check of a filled buffer is the one of the body. -/
theorem checkFilledHead_begins {body got chunk : List UInt8} (hbegins : got ++ chunk <+: body)
    (h : checkFilledHead (got.take fwImageHeadLen)
      (fillHead (got.take fwImageHeadLen) chunk) ≠ .ok) :
    checkFilledHead (got.take fwImageHeadLen) (fillHead (got.take fwImageHeadLen) chunk) =
      checkImageHead (body.take fwImageHeadLen) := by
  rw [fillHead_take] at h ⊢
  unfold checkFilledHead at h ⊢
  split
  · rename_i hfilled
    rw [List.length_take, List.length_take] at hfilled
    have hlong : fwImageHeadLen ≤ (got ++ chunk).length := by omega
    rw [List.prefix_iff_eq_take.1 hbegins, List.take_take, Nat.min_eq_left hlong]
  · rename_i hshort
    rw [if_neg hshort] at h
    exact absurd rfl h

/-! ## The delivery -/

/-- The connection gives the bytes of the body in their order. -/
def InOrder (body : List UInt8) (s : Board) : (c : FwCall) → c.Answer → Prop
  | .recv _, .data bytes => s.received ++ bytes <+: body
  | _, _ => True

/-- The call sends nothing and does not read the installed version. -/
def Silent : FwCall → Prop
  | .sendText _ _ | .copyInstalledVersion => False
  | _ => True

/-- The calls of a session up to its outcome, on a board where no erase has failed. -/
def delivering (sha : Content → Option (Vector UInt8 fwSha256Len)) (body : List UInt8) :
    Device FwCall FwCall.Answer Board :=
  fun c s r t => Silent c ∧ InOrder body s c r ∧ ∀ failedErase, board sha failedErase c s r t

theorem delivering_le_board (body : List UInt8) (c : FwCall) (s : Board) (r : c.Answer) (t : Board)
    (h : delivering sha body c s r t) : board sha failedErase c s r t := h.2.2 failedErase

section Session

variable {image : List UInt8} {digest : Vector UInt8 fwSha256Len} {s : Board}

/-- The loop receives an accepted image, chunk by chunk. -/
theorem receiveImage_delivers {handle : UInt32}
    (hhead : checkImageHead (image.take fwImageHeadLen) = .ok) {chunks : List (List UInt8)}
    (hchunks : ∀ chunk ∈ chunks, chunk ≠ [] ∧ chunk.length ≤ fwUploadChunkBytes)
    {received : Nat} {head : List UInt8} (h : Receiving handle image.length received head s)
    (himage : s.received ++ chunks.flatten = image) :
    ∃ t, Ends (delivering sha image) (receiveImage handle image.length received 0 head) s
        (.ok, image.take fwImageHeadLen) t ∧
      Receiving handle image.length image.length (image.take fwImageHeadLen) t ∧
      t.received = image ∧ SameButBody s t := by
  induction chunks generalizing s received head with
  | nil =>
      rw [List.flatten_nil, List.append_nil] at himage
      obtain rfl : received = image.length := by rw [← himage, h.length]
      obtain rfl : head = image.take fwImageHeadLen := by rw [← himage, h.buffer]
      refine ⟨s, ?_, h, himage, .refl s⟩
      rw [receiveImage, dif_neg (Nat.lt_irrefl _), hhead, ite_self]
      exact .ret _ s
  | cons chunk chunks ih =>
      obtain ⟨hne, hle⟩ := hchunks chunk List.mem_cons_self
      have hpos : 0 < chunk.length := List.length_pos_iff.2 hne
      have hbegins : s.received ++ chunk <+: image := by
        rw [← himage, List.flatten_cons, ← List.append_assoc]
        exact List.prefix_append _ _
      have hlen : received + chunk.length ≤ image.length := by
        rw [← h.length, ← List.length_append]
        exact hbegins.length_le
      have hcheck : checkFilledHead head (fillHead head chunk) = .ok := by
        by_contra hreject
        rw [h.buffer] at hreject
        exact hreject ((checkFilledHead_begins hbegins hreject).trans hhead)
      let t := { s with received := s.received ++ chunk }
      let u := { t with
        ota := FlashRegion.write s.ota s.received.length chunk
        session := some ⟨handle, image.length, s.received ++ chunk⟩ }
      have himage' : u.received ++ chunks.flatten = image := by
        rw [← himage, List.flatten_cons, ← List.append_assoc]
      obtain ⟨v, hends, hwhole, hreceived, hsame⟩ := ih
        (fun c hc => hchunks c (List.mem_cons_of_mem _ hc)) (h.write hcheck) himage'
      have hstep : SameButBody s u := ⟨rfl, rfl, rfl, rfl, rfl, rfl, rfl, rfl⟩
      refine ⟨v, ?_, hwhole, hreceived, hstep.trans hsame⟩
      have hrecv : delivering sha image (.recv (min (image.length - received) fwUploadChunkBytes))
          s (.data chunk) t := ⟨trivial, hbegins, fun _ => ⟨by omega, rfl⟩⟩
      have hwrite : delivering sha image (.otaWrite handle chunk) t .ok u :=
        ⟨trivial, trivial, fun _ => .inl ⟨rfl, _, h.session, rfl, rfl⟩⟩
      rw [receiveImage, dif_pos (by omega)]
      refine .call hrecv ?_
      show Ends _ (if _ : chunk.length = 0 then _ else _) _ _ _
      rw [dif_neg hpos.ne', hcheck, if_neg (not_not.2 rfl)]
      refine .call hwrite ?_
      rw [Prog.bind, if_neg (not_not.2 rfl)]
      exact .call (r := ()) ⟨trivial, trivial, fun _ => rfl⟩ hends

theorem clearCrashCount_delivers (hfound : s.hasFwMeta = true) :
    Ends (delivering sha image) clearCrashCount s () s :=
  .call (r := true) ⟨trivial, trivial, fun _ => ⟨hfound.symm, rfl⟩⟩ <|
    .call (r := (EspErr.fail, [])) ⟨trivial, trivial, fun _ => ⟨fun h => (by cases h), rfl⟩⟩ <|
      .ret () s

theorem writeAndCheckMetaRecord_delivers (hfound : s.hasFwMeta = true) {otaSize : UInt32}
    {record : FwMetaRecord} (hvalid : isFwMetaRecordValid record otaSize = true) :
    Ends (delivering sha image) (writeAndCheckMetaRecord otaSize record) s true
      { s with fwMeta := write s.fwMeta fwMetaRecordOffset record.toBytes } := by
  have hread : read (write s.fwMeta fwMetaRecordOffset record.toBytes) fwMetaRecordOffset
      fwMetaRecordSize = record.toBytes := by
    have hlength : record.toBytes.length = fwMetaRecordSize := FwMetaRecord.length_toBytes record
    rw [← hlength, read_write_self]
  refine .call (r := true) ⟨trivial, trivial, fun _ => ⟨hfound.symm, rfl⟩⟩ ?_
  refine .call (r := EspErr.ok)
    ⟨trivial, trivial, fun _ => ⟨_, sameOutside_write _ _ _, rfl⟩⟩ ?_
  refine .call (r := true) ⟨trivial, trivial, fun _ => ⟨hfound.symm, rfl⟩⟩ ?_
  refine .call (r := (EspErr.ok, record.toBytes))
    ⟨trivial, trivial, fun _ => ⟨fun _ => hread.symm, rfl⟩⟩ ?_
  have hok : (EspErr.ok = EspErr.ok && isFwMetaRecordValid (.ofBytes record.toBytes) otaSize &&
      record = .ofBytes record.toBytes) = true := by
    rw [FwMetaRecord.ofBytes_toBytes, hvalid]
    simp
  show Ends _ (.ret (EspErr.ok = EspErr.ok &&
    isFwMetaRecordValid (.ofBytes record.toBytes) otaSize &&
    record = .ofBytes record.toBytes)) _ _ _
  rw [hok]
  exact .ret true _

theorem commitMetaRecord_delivers (hfound : s.hasFwMeta = true) {otaSize : UInt32} {total : Nat}
    {head : List UInt8} {record : FwMetaRecord} (hsha : sha s.ota = some digest)
    (hrecord : record = buildFwMetaRecord (headVersion head) (UInt32.ofNat total) digest)
    (hvalid : isFwMetaRecordValid record otaSize = true) :
    Ends (delivering sha image) (commitMetaRecord otaSize total head) s .ok
      { s with fwMeta := write s.fwMeta fwMetaRecordOffset record.toBytes } := by
  refine .call (r := (EspErr.ok, digest)) ⟨trivial, trivial, fun _ => ⟨fun _ => hsha, rfl⟩⟩ ?_
  rw [Prog.bind, if_neg (not_not.2 rfl), ← hrecord]
  refine (writeAndCheckMetaRecord_delivers hfound hvalid).bind ?_
  refine .call (r := ()) ⟨trivial, trivial, fun _ => rfl⟩ ?_
  exact Ends.bind (f := fun _ => .ret UploadResult.ok) (clearCrashCount_delivers hfound)
    (.ret _ _)

theorem eraseFwMetaRecord_delivers (hfound : s.hasFwMeta = true) :
    Ends (delivering sha image) eraseFwMetaRecord s .ok s.erased := by
  refine .call (r := true) ⟨trivial, trivial, fun _ => ⟨hfound.symm, rfl⟩⟩ ?_
  exact .call (r := EspErr.ok) ⟨trivial, trivial, fun _ => .inl ⟨rfl, rfl⟩⟩ (.ret EspErr.ok s.erased)

/-- An image with an accepted head that fits is committed, whatever its chunks are. -/
theorem runUpload_delivers (hhead : checkImageHead (image.take fwImageHeadLen) = .ok)
    {chunks : List (List UInt8)}
    (hchunks : ∀ chunk ∈ chunks, chunk ≠ [] ∧ chunk.length ≤ fwUploadChunkBytes)
    (himage : chunks.flatten = image) {partition : OtaPartition}
    (hfits : image.length ≤ partition.size.toNat)
    (hsha : ∀ content, read content 0 image.length = image → sha content = some digest)
    (hfound : s.hasFwMeta = true) (hreceived : s.received = []) :
    ∃ t, Ends (delivering sha image) (runUpload (some partition) image.length) s (.ok, none) t ∧
      t.received = image ∧ t.replies = s.replies := by
  have hlen : fwImageHeadLen ≤ image.length := by
    obtain ⟨hlen, -⟩ := checkFwEmbeddedMeta_ok (checkFwEmbeddedMeta_of_head hhead)
    rw [List.length_take] at hlen
    exact hlen.trans (Nat.min_le_right _ _)
  have hopen : ¬ (image.length = 0 ∨ image.length > partition.size.toNat) := by
    have hpos : 0 < fwImageHeadLen := by decide
    omega
  let handle : UInt32 := 1
  let begun := s.opening handle image.length s.ota
  have hbegun : begun.received ++ chunks.flatten = image := by
    rw [← himage]
    exact congrArg (· ++ _) hreceived
  have hstart : Receiving handle image.length 0 [] begun := .start rfl hreceived
  obtain ⟨t, hreceive, hwhole, hbody, hsame⟩ :=
    receiveImage_delivers hhead hchunks hstart hbegun
  have hread : read t.ota 0 image.length = image := by
    have hstored := hwhole.stored
    rwa [hbody] at hstored
  let verified := t.accepting handle image.length
  have hfound' : verified.hasFwMeta = true := hsame.hasFwMeta.trans hfound
  have hrecord : receivedRecord image digest = buildFwMetaRecord
      (headVersion (image.take fwImageHeadLen)) (UInt32.ofNat image.length) digest := by
    rw [headVersion_take, receivedRecord]
  have hcommit : Ends (delivering sha image)
      (commitMetaRecord partition.size image.length (image.take fwImageHeadLen)) verified .ok _ :=
    commitMetaRecord_delivers hfound' (hsha verified.ota hread) hrecord
      (isFwMetaRecordValid_received hhead hfits digest)
  let committed := { verified with
    fwMeta := write verified.fwMeta fwMetaRecordOffset (receivedRecord image digest).toBytes }
  refine ⟨committed, ?_, hbody, hsame.replies⟩
  rw [runUpload, if_neg hopen]
  refine (eraseFwMetaRecord_delivers hfound).bind ?_
  rw [if_neg (not_not.2 rfl)]
  refine .call (r := ()) ⟨trivial, trivial, fun _ => rfl⟩ ?_
  refine .call (r := (EspErr.ok, handle)) (t := begun)
    ⟨trivial, trivial, fun _ => .inl ⟨rfl, s.ota, rfl⟩⟩ ?_
  rw [Prog.bind, if_neg (not_not.2 rfl)]
  -- The session is open: the image arrives, is verified and committed.
  refine hreceive.bind ?_
  rw [if_neg (not_not.2 rfl)]
  refine .call (r := EspErr.ok) (t := verified)
    ⟨trivial, trivial, fun _ => .inl ⟨rfl, _, hwhole.session, rfl, rfl⟩⟩ ?_
  rw [Prog.bind, if_neg (not_not.2 rfl)]
  exact Ends.bind (f := fun result => .ret (result, none)) hcommit (.ret _ _)

/-- The upload of such an image is answered with a success. -/
theorem processUpload_delivers (hhead : checkImageHead (image.take fwImageHeadLen) = .ok)
    {chunks : List (List UInt8)}
    (hchunks : ∀ chunk ∈ chunks, chunk ≠ [] ∧ chunk.length ≤ fwUploadChunkBytes)
    (himage : chunks.flatten = image) {partition : OtaPartition}
    (hota : s.otaPartition = some partition) (hfits : image.length ≤ partition.size.toNat)
    (hsha : ∀ content, read content 0 image.length = image → sha content = some digest)
    (hfound : s.hasFwMeta = true) :
    ∃ t, (∀ failedErase, Ends (board sha failedErase) (processUpload s.otaPartition image.length) s
        () t) ∧
      t.received = image ∧ t.replies = s.replies ++ [("200 OK", "Update complete, restarting")] := by
  obtain ⟨t, hupload, hbody, hreplies⟩ := runUpload_delivers (s := { s with received := [] }) hhead hchunks
    himage hfits hsha hfound rfl
  let u := { t with replies := t.replies ++ [("200 OK", "Update complete, restarting")] }
  refine ⟨u, fun failedErase => ?_, hbody, congrArg (· ++ _) hreplies⟩
  rw [hota]
  refine .call (r := ()) rfl ?_
  refine (hupload.mono (delivering_le_board image)).bind ?_
  rw [replyUpload, if_neg (not_not.2 rfl)]
  refine .call (c := FwCall.copyInstalledVersion) (r := Vector.replicate _ 0) rfl ?_
  refine .call (r := ()) rfl ?_
  refine .call (t := u) (r := ()) rfl ?_
  refine .call (c := FwCall.startRestartTimer) (r := true) rfl ?_
  exact .call (r := ()) rfl (.ret () u)

end Session

/-! ## A minimal image -/

/-- An ESP32-C3 image with firmware version 01.02.03 and one segment that holds the application
description and the embedded metadata, up to its checksum. -/
def sampleBody : List UInt8 :=
  [fwImageMagic, 1, 2, 0x2F] ++ word32 0x40380000 ++ [0xEE, 0, 0, 0, 5, 0] ++
    List.replicate 9 0 ++ [1] ++ word32 0x3C000020 ++ word32 272 ++ word32 fwAppDescMagic ++
    List.replicate 252 0 ++ word32 fwMetaMagic ++
    [0x30, 0x31, 0x2E, 0x30, 0x32, 0x2E, 0x30, 0x33, 0, 0, 0, 0] ++ List.replicate 15 0 ++ [0xEF]

/-- The SHA-256 of `sampleBody`. -/
def sampleDigest : Vector UInt8 fwSha256Len :=
  #v[0x6D, 0x83, 0x8B, 0xB5, 0xE7, 0x61, 0x6C, 0x69, 0x22, 0x77, 0x19, 0x72, 0xA2, 0x12, 0x0C, 0x12,
    0xD6, 0x7E, 0x12, 0x78, 0xCA, 0x48, 0x0C, 0x1C, 0x15, 0x46, 0x11, 0xB0, 0xA8, 0xEC, 0x8C, 0x2D]

/-- The image, with its hash appended. -/
def sampleImage : List UInt8 := sampleBody ++ sampleDigest.toList

theorem length_sampleImage : sampleImage.length = 352 := by decide +kernel

theorem checkImageHead_sampleImage : checkImageHead (sampleImage.take fwImageHeadLen) = .ok := by
  decide +kernel

/-- The digest of a content that starts with the image; no other content is taken for one. -/
def sampleSha (content : Content) : Option (Vector UInt8 fwSha256Len) :=
  if read content 0 sampleImage.length = sampleImage then some sampleDigest else none

theorem sampleSha_of_read {content : Content}
    (h : read content 0 sampleImage.length = sampleImage) : sampleSha content = some sampleDigest :=
  if_pos h

/-- A board without firmware. -/
def blankBoard : Board where
  fwMeta := fun _ => 0xFF
  ota := fun _ => 0xFF
  otaPartition := some ⟨0xF0000, 0x110000⟩
  hasFwMeta := true
  session := none
  received := []
  accepted := []
  opened := []
  closed := []
  eraseLog := []
  replies := []

def sampleContent : Content := write (fun _ => 0xFF) 0 sampleImage

def sampleRecord : FwMetaRecord := receivedRecord sampleImage sampleDigest

/-- A board flashed with that image and its record. -/
def sampleBoard : Board :=
  { blankBoard with
    fwMeta := write (fun _ => 0xFF) 0 sampleRecord.toBytes
    ota := sampleContent
    accepted := [⟨sampleImage.length, sampleImage, sampleContent⟩] }

theorem sampleBoard_ota : sampleBoard.ota = sampleContent := by simp only [sampleBoard]

theorem read_sampleContent : read sampleContent 0 sampleImage.length = sampleImage :=
  read_write_self (fun _ => 0xFF) 0 sampleImage

theorem sampleBoard_bootable : Bootable sampleSha sampleBoard sampleRecord where
  hasFwMeta := rfl
  stored := read_write_self (fun _ => 0xFF) 0 sampleRecord.toBytes
  valid := by decide +kernel
  notForced := by decide +kernel
  otaMatches := by
    have hread : read sampleContent 0 fwImageHeadLen = sampleImage.take fwImageHeadLen := by
      rw [← take_read sampleContent 0 (by decide +kernel : fwImageHeadLen ≤ sampleImage.length),
        read_sampleContent]
    have hdigest : sampleRecord.imageSha256 = sampleDigest := by
      simp only [sampleRecord, receivedRecord, buildFwMetaRecord]
    refine ⟨?_, ?_, ?_, ?_⟩ <;> rw [sampleBoard_ota]
    · rw [hread]
      decide +kernel
    · rw [hread]
      decide +kernel
    · rw [hread]
      decide +kernel
    · rw [hdigest]
      exact sampleSha_of_read read_sampleContent

/-- The image as it arrives, its head in three pieces. -/
def sampleChunks : List (List UInt8) :=
  [sampleImage.take 100, (sampleImage.drop 100).take 200, sampleImage.drop 300]

theorem sampleChunks_fit :
    ∀ chunk ∈ sampleChunks, chunk ≠ [] ∧ chunk.length ≤ fwUploadChunkBytes := by
  decide +kernel

theorem flatten_sampleChunks : sampleChunks.flatten = sampleImage := by decide +kernel

theorem sampleImage_fits : sampleImage.length ≤ (0x110000 : UInt32).toNat := by decide +kernel

/-- The upload of the image to a board without firmware. -/
theorem exists_sampleUpload :
    ∃ t, (∀ failedErase, Ends (board sampleSha failedErase)
        (processUpload blankBoard.otaPartition sampleImage.length) blankBoard () t) ∧
      t.received = sampleImage ∧ t.replies = [("200 OK", "Update complete, restarting")] :=
  processUpload_delivers checkImageHead_sampleImage sampleChunks_fit flatten_sampleChunks rfl
    sampleImage_fits (fun _ => sampleSha_of_read) rfl

end StripTuner.Updater
