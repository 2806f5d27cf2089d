import StripTuner.Updater.Board
import StripTuner.Updater.Upload

/-!
# The steps of an upload

What the receive loop does on the board: it only receives and writes to `ota_0`, and when it
returns `UPLOAD_OK` the OTA session holds the whole body, `ota_0` starts with it, and the image
head was checked. `wp_runUpload` is the rule for a whole upload: one premise for each way it ends
before the commit, and one for the commit.
-/

namespace StripTuner.Updater

open ByteLayout DeviceCalls DeviceCalls.Prog FlashRegion FwMeta

variable {sha : Content → Option (Vector UInt8 fwSha256Len)} {failedErase : UInt8 → UInt8 → Prop}

/-! ## The calls of each function -/

/-- The calls of the receive loop. -/
def BodyCall : FwCall → Prop
  | .recv _ | .otaWrite _ _ | .setReceived _ => True
  | _ => False

/-- The board outside what the receive loop changes. -/
structure SameButBody (s t : Board) : Prop where
  fwMeta : t.fwMeta = s.fwMeta
  otaPartition : t.otaPartition = s.otaPartition
  hasFwMeta : t.hasFwMeta = s.hasFwMeta
  accepted : t.accepted = s.accepted
  opened : t.opened = s.opened
  closed : t.closed = s.closed
  eraseLog : t.eraseLog = s.eraseLog
  replies : t.replies = s.replies

theorem SameButBody.refl (s : Board) : SameButBody s s := ⟨rfl, rfl, rfl, rfl, rfl, rfl, rfl, rfl⟩

theorem SameButBody.trans {s t u : Board} (h : SameButBody s t) (h' : SameButBody t u) :
    SameButBody s u :=
  ⟨h'.1.trans h.1, h'.2.trans h.2, h'.3.trans h.3, h'.4.trans h.4, h'.5.trans h.5,
    h'.6.trans h.6, h'.7.trans h.7, h'.8.trans h.8⟩

theorem bodyCall_step (c : FwCall) (hc : BodyCall c) (s : Board) (r : c.Answer) (t : Board)
    (h : board sha failedErase c s r t) : SameButBody s t := by
  cases c with
  | recv wanted =>
      cases r with
      | timeout | failed =>
          obtain rfl : t = s := h
          exact .refl _
      | data bytes =>
          obtain ⟨-, rfl⟩ := h
          exact ⟨rfl, rfl, rfl, rfl, rfl, rfl, rfl, rfl⟩
  | otaWrite handle bytes =>
      obtain ⟨-, session, -, -, rfl⟩ | ⟨-, content, rfl⟩ := h <;>
        exact ⟨rfl, rfl, rfl, rfl, rfl, rfl, rfl, rfl⟩
  | setReceived received =>
      obtain rfl : t = s := h
      exact .refl _
  | _ => exact hc.elim

theorem discardBody_only {P : FwCall → Prop} (hP : ∀ wanted, P (.recv wanted))
    (remaining timeouts : Nat) : (discardBody remaining timeouts).Only P := by
  induction remaining, timeouts using discardBody.induct with
  | case1 remaining timeouts hmore ihretry ihdata =>
      rw [discardBody, dif_pos hmore]
      refine Only.bind ⟨hP _, fun _ => trivial⟩ fun received => ?_
      cases received with
      | timeout =>
          by_cases hretry : timeouts < fwUploadRecvRetries
          · simpa [hretry] using ihretry hretry
          · simp [hretry]
      | failed => trivial
      | data bytes =>
          by_cases hclosed : bytes.length = 0
          · simp [hclosed]
          · simpa [hclosed] using ihdata bytes hclosed
  | case2 remaining timeouts hdone =>
      rw [discardBody, dif_neg hdone]
      trivial

theorem receiveImage_only (handle : UInt32) (total received timeouts : Nat) (head : List UInt8) :
    (receiveImage handle total received timeouts head).Only BodyCall := by
  induction received, timeouts, head using receiveImage.induct total with
  | case1 received timeouts head hmore ihretry ihdata =>
      rw [receiveImage, dif_pos hmore]
      refine Only.bind ⟨trivial, fun _ => trivial⟩ fun answer => ?_
      cases answer with
      | timeout =>
          by_cases hretry : timeouts < fwUploadRecvRetries
          · simpa [hretry] using ihretry hretry
          · simp [hretry]
      | failed => trivial
      | data chunk =>
          by_cases hclosed : chunk.length = 0
          · simp [hclosed]
          simp only [hclosed, dite_false]
          refine Only.ite ((discardBody_only (fun _ => trivial) _ _).bind fun _ => trivial) ?_
          refine Only.bind ⟨trivial, fun _ => trivial⟩ fun err => ?_
          refine Only.ite ((discardBody_only (fun _ => trivial) _ _).bind fun _ => trivial) ?_
          exact Only.bind ⟨trivial, fun _ => trivial⟩ fun _ => ihdata chunk hclosed
  | case2 received timeouts head hdone =>
      rw [receiveImage, dif_neg hdone]
      trivial

theorem clearCrashCount_only : clearCrashCount.Only QuietCall :=
  Only.bind (Only.mono readFwCtrlRecord_only fun _ => ReadCall.quiet) fun _ => Only.ite trivial
    (Only.bind (writeFwCtrlRecord_only _) fun _ => trivial)

theorem commitMetaRecord_only (otaSize : UInt32) (total : Nat) (head : List UInt8) :
    (commitMetaRecord otaSize total head).Only MetaCall := by
  refine Only.bind ⟨trivial, fun _ => trivial⟩ fun sha256 => Only.ite trivial ?_
  refine Only.bind ?_ fun isCommitted => Only.ite ?_ ?_
  · have hread := Only.mono readFwMetaRecord_only fun _ hc => (ReadCall.quiet hc).meta
    exact Only.bind (writeFwMetaRecord_only _) fun _ => Only.ite trivial
      (Only.bind hread fun _ => trivial)
  · exact Only.bind eraseFwMetaRecord_only fun _ => trivial
  · exact Only.bind ⟨trivial, fun _ => trivial⟩ fun _ =>
      Only.bind (Only.mono clearCrashCount_only fun _ => QuietCall.meta) fun _ => trivial

theorem scheduleRestart_only : scheduleRestart.Only QuietCall :=
  Only.bind ⟨trivial, fun _ => trivial⟩ fun _ =>
    Only.ite (Only.bind ⟨trivial, fun _ => trivial⟩ fun never => never.elim) trivial

/-! ## What was received -/

/-- The loop's variables describe the board: the session has written what was received, `ota_0`
starts with it, and `s_head` is its beginning, checked once it is complete. -/
structure Receiving (handle : UInt32) (total received : Nat) (head : List UInt8) (s : Board) :
    Prop where
  session : s.session = some ⟨handle, total, s.received⟩
  length : s.received.length = received
  stored : read s.ota 0 s.received.length = s.received
  buffer : head = s.received.take fwImageHeadLen
  checked : fwImageHeadLen ≤ received → checkImageHead head = .ok

theorem Receiving.start {handle : UInt32} {total : Nat} {s : Board}
    (hsession : s.session = some ⟨handle, total, []⟩) (hreceived : s.received = []) :
    Receiving handle total 0 [] s := by
  refine ⟨by rw [hsession, hreceived], by rw [hreceived]; rfl, by rw [hreceived]; rfl,
    by rw [hreceived]; rfl, fun h => absurd h (by decide)⟩

theorem fillHead_take (body chunk : List UInt8) :
    fillHead (body.take fwImageHeadLen) chunk = (body ++ chunk).take fwImageHeadLen := by
  rw [fillHead, List.length_take]
  split
  · rename_i hshort
    have hle : body.length ≤ fwImageHeadLen := by omega
    rw [List.take_append, List.take_of_length_le hle, Nat.min_eq_right hle]
  · rw [List.take_append_of_le_length (by omega)]

/-- A chunk that was accepted and written leads to the next round of the loop. -/
theorem Receiving.write {handle : UInt32} {total received : Nat} {head chunk : List UInt8}
    {s : Board} (h : Receiving handle total received head s)
    (hcheck : checkFilledHead head (fillHead head chunk) = .ok) :
    Receiving handle total (received + chunk.length) (fillHead head chunk)
      { s with
        received := s.received ++ chunk
        ota := FlashRegion.write s.ota s.received.length chunk
        session := some ⟨handle, total, s.received ++ chunk⟩ } := by
  obtain ⟨-, hlength, hstored, rfl, hchecked⟩ := h
  refine ⟨rfl, by rw [List.length_append, hlength], read_write_append hstored,
    fillHead_take _ _, ?_⟩
  intro hfull
  by_cases hshort : (s.received.take fwImageHeadLen).length < fwImageHeadLen
  · have hfilled : (fillHead (s.received.take fwImageHeadLen) chunk).length = fwImageHeadLen := by
      rw [fillHead_take, List.length_take, List.length_append]
      omega
    rwa [checkFilledHead, if_pos ⟨hshort, hfilled⟩] at hcheck
  · rw [fillHead, if_neg hshort]
    rw [List.length_take] at hshort
    exact hchecked (by omega)

theorem checkImageHead_short {head : List UInt8} (h : head.length < fwImageHeadLen) :
    checkImageHead head = .rejectImage := by
  rw [checkImageHead, checkFwEmbeddedMeta, if_pos h]

/-- When the loop returns `UPLOAD_OK` the whole body was received, written and checked. -/
theorem wp_receiveImage (handle : UInt32) (total received timeouts : Nat) (head : List UInt8)
    {s : Board} (h : Receiving handle total received head s) (hle : received ≤ total) :
    (receiveImage handle total received timeouts head).wp (board sha failedErase)
      (fun _ _ => True)
      (fun r t => r.1 = .ok → Receiving handle total total r.2 t ∧ checkImageHead r.2 = .ok) s := by
  induction received, timeouts, head using receiveImage.induct total generalizing s with
  | case1 received timeouts head hmore ihretry ihdata =>
      rw [receiveImage, dif_pos hmore, wp_bind, recv, wp_perform]
      refine ⟨trivial, fun answer t ht => ?_⟩
      cases answer with
      | timeout =>
          obtain rfl : t = s := ht
          by_cases hretry : timeouts < fwUploadRecvRetries
          · simpa [hretry] using ihretry hretry h hle
          · simp [hretry]
      | failed => simp
      | data chunk =>
          obtain ⟨hwanted, rfl⟩ := ht
          by_cases hclosed : chunk.length = 0
          · simp [hclosed]
          simp only [hclosed, dite_false]
          rw [wp_ite]
          split
          · -- The head was rejected.
            rename_i hreject
            rw [wp_bind]
            exact wp_mono (wp_trivial _ _) fun _ _ _ hok => absurd hok hreject
          rename_i haccept
          rw [ne_eq, not_not] at haccept
          rw [wp_bind, wp_perform]
          refine ⟨trivial, fun err t ht => ?_⟩
          rw [wp_ite]
          split
          · -- The write failed.
            rw [wp_bind]
            refine wp_mono (wp_trivial _ _) fun _ _ _ hok => ?_
            revert hok
            split <;> simp
          rename_i herr
          obtain ⟨-, session, hsession, -, rfl⟩ | ⟨herr', -⟩ := ht
          · rw [wp_bind, wp_perform]
            refine ⟨trivial, fun _ t ht => ?_⟩
            obtain rfl : t = _ := ht
            obtain rfl : ⟨handle, total, s.received⟩ = session :=
              Option.some.inj (h.session.symm.trans hsession)
            exact ihdata chunk hclosed (h.write haccept) (by omega)
          · exact absurd herr' herr
  | case2 received timeouts head hdone =>
      rw [receiveImage, dif_neg hdone]
      obtain rfl : received = total := by omega
      intro hok
      by_cases hshort : head.length < fwImageHeadLen
      · simp [if_pos hshort, checkImageHead_short hshort] at hok
      · refine ⟨h, h.checked ?_⟩
        have hlen : head.length = min fwImageHeadLen s.received.length := by
          rw [h.buffer, List.length_take]
        have := h.length
        omega

/-! ## The whole upload -/

/-- The board after `esp_ota_begin()` on an erased sector 0. -/
def Board.opening (s : Board) (handle : UInt32) (total : Nat) (content : Content) : Board :=
  { s.erased with
    ota := content
    session := some ⟨handle, total, []⟩
    opened := s.opened ++ [handle] }

/-- The board after `esp_ota_end()` accepted the image. -/
def Board.accepting (t : Board) (handle : UInt32) (total : Nat) : Board :=
  { t with
    session := none
    closed := t.closed ++ [handle]
    accepted := t.accepted ++ [⟨total, t.received, t.ota⟩] }

theorem wp_runUpload {G : FwCall → Board → Prop} {Q : UploadResult × Option UInt32 → Board → Prop}
    {s : Board} {partition : OtaPartition} {total : Nat} (hreceived : s.received = [])
    (hG : ∀ c, G c s) (hsize : Q (.rejectSize, none) s)
    (hnone : s.hasFwMeta = false → Q (.rejectFlash, none) s)
    (hfail : ∀ err content, err ≠ .ok →
      SameOutside s.fwMeta content fwMetaRecordOffset fwMetaSectorBytes →
      (∀ i, failedErase (s.fwMeta i) (content i)) →
      Q (.rejectFlash, none) { s with fwMeta := content, eraseLog := s.eraseLog ++ [err] })
    (herased : s.hasFwMeta = true → (∀ c, G c s.erased) ∧
      ∀ content, Q (.rejectFlash, none) { s.erased with ota := content })
    (hopened : s.hasFwMeta = true → ∀ handle content t,
      SameButBody (s.opening handle total content) t → (∀ c, G c t) ∧
        (∀ result, result ≠ .ok → Q (result, some handle) t) ∧
        (∀ content', Q (.rejectVerify, none)
          { t with ota := content', session := none, closed := t.closed ++ [handle] }) ∧
        ∀ head, total ≤ partition.size.toNat → Receiving handle total total head t →
          checkImageHead head = .ok →
          (commitMetaRecord partition.size total head).wp (board sha failedErase) G
            (fun result => Q (result, none)) (t.accepting handle total)) :
    (runUpload (some partition) total).wp (board sha failedErase) G Q s := by
  rw [runUpload, wp_ite]
  split
  · exact hsize
  rename_i hfits
  rw [wp_bind]
  refine wp_eraseFwMetaRecord hG hnone ?_ ?_
  · intro hfound
    obtain ⟨hG₁, hbegin⟩ := herased hfound
    rw [if_neg (by simp), wp_bind, wp_perform]
    refine ⟨hG₁ _, fun _ t ht => ?_⟩
    obtain rfl : t = _ := ht
    rw [wp_bind, wp_perform]
    refine ⟨hG₁ _, fun opened t ht => ?_⟩
    obtain ⟨hok, content, rfl⟩ | ⟨hne, content, rfl⟩ := ht
    · rw [if_neg (by simp [hok]), wp_bind]
      have hstages := hopened hfound opened.2 content
      have hbody : Receiving opened.2 total 0 [] (s.opening opened.2 total content) :=
        .start rfl hreceived
      refine wp_conseq (wp_and (Only.wp (receiveImage_only opened.2 total 0 0 [])
        (R := SameButBody) SameButBody.trans bodyCall_step (.refl _))
        (wp_receiveImage opened.2 total 0 0 [] hbody (Nat.zero_le _))) ?_ ?_
      · exact fun c t ht => (hstages t ht.1.2).1 c
      rintro received t ⟨hsame, hfull⟩
      obtain ⟨hG₂, hreject, hverify, hcommit⟩ := hstages t hsame
      rw [wp_ite]
      split
      · exact hreject _ ‹_›
      rename_i hreceived'
      obtain ⟨hwhole, hchecked⟩ := hfull (not_not.mp hreceived')
      rw [wp_bind, wp_perform]
      refine ⟨hG₂ _, fun err u hu => ?_⟩
      obtain ⟨rfl, session, hsession, -, rfl⟩ | ⟨herr, content', rfl⟩ := hu
      · obtain rfl : _ = session := Option.some.inj (hwhole.session.symm.trans hsession)
        rw [if_neg (by simp), wp_bind]
        exact hcommit received.2 (by omega) hwhole hchecked
      · rw [if_pos herr]
        exact hverify content'
    · rw [if_pos hne]
      exact hbegin content
  · intro err content herr hsame hbytes
    rw [if_pos herr]
    exact hfail err content herr hsame hbytes

end StripTuner.Updater
