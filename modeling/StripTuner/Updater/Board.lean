import StripTuner.FwMeta.Flash
import StripTuner.Lib.Flash

/-!
# The board

The two flash areas an update touches, the OTA session, and a record of what happened: the images
that `esp_ota_end()` accepted, the handles opened and closed, the erases of sector 0 and the
replies. Every call may fail. A read that returns `ESP_OK` gives the stored bytes, an erase that
returns `ESP_OK` leaves the range erased, and `esp_ota_write()` that returns `ESP_OK` has appended
its bytes; a write to the record partition may leave anything in its range.
-/

namespace StripTuner.Updater

open ByteLayout DeviceCalls DeviceCalls.Prog FlashRegion FwMeta

/-- An open OTA handle and the bytes written through it so far. -/
structure OtaSession where
  handle : UInt32
  size : Nat
  written : List UInt8

/-- What `esp_ota_end()` accepted: the size given to `esp_ota_begin()`, the bytes written, and the
content of `ota_0`. -/
structure Image where
  size : Nat
  body : List UInt8
  content : Content

/-- The image was written in full and is what `ota_0` starts with. -/
structure Image.Complete (image : Image) : Prop where
  length : image.body.length = image.size
  prefix_eq : FlashRegion.read image.content 0 image.body.length = image.body

structure Board where
  fwMeta : Content
  ota : Content
  otaPartition : Option OtaPartition
  hasFwMeta : Bool
  session : Option OtaSession
  received : List UInt8
  accepted : List Image
  opened : List UInt32
  closed : List UInt32
  eraseLog : List EspErr
  replies : List (String × String)

/-- The metadata record sector is erased. -/
def Board.Sector0Erased (s : Board) : Prop := Erased s.fwMeta 0 fwMetaSectorBytes

section Device

variable (sha : Content → Option (Vector UInt8 fwSha256Len)) (failedErase : UInt8 → UInt8 → Prop)

/-- What each call may answer and do. `sha` is the digest of a content, if it has one;
`failedErase` relates a byte before and after an erase that returned an error. -/
def board : Device FwCall FwCall.Answer Board
  | .findOta => fun s r t => r = s.otaPartition ∧ t = s
  | .findFwMeta => fun s r t => r = s.hasFwMeta ∧ t = s
  | .metaRead off len => fun s r t => (r.1 = .ok → r.2 = read s.fwMeta off len) ∧ t = s
  | .metaErase off len => fun s err t =>
    let eraseLog := if off = 0 then s.eraseLog ++ [err] else s.eraseLog
    (err = .ok ∧ t = { s with fwMeta := erase s.fwMeta off len, eraseLog := eraseLog }) ∨
      (err ≠ .ok ∧ ∃ content, SameOutside s.fwMeta content off len ∧
        (∀ i, failedErase (s.fwMeta i) (content i)) ∧
        t = { s with fwMeta := content, eraseLog := eraseLog })
  | .metaWrite off bytes => fun s _ t =>
    ∃ content, SameOutside s.fwMeta content off bytes.length ∧ t = { s with fwMeta := content }
  | .otaRead off len => fun s r t => (r.1 = .ok → r.2 = read s.ota off len) ∧ t = s
  | .otaSha256 => fun s r t => (r.1 = .ok → sha s.ota = some r.2) ∧ t = s
  | .otaBegin size => fun s r t =>
    (r.1 = .ok ∧ ∃ content, t = { s with
      ota := content
      session := some ⟨r.2, size, []⟩
      opened := s.opened ++ [r.2] }) ∨
      (r.1 ≠ .ok ∧ ∃ content, t = { s with ota := content })
  | .otaWrite handle bytes => fun s err t =>
    (err = .ok ∧ ∃ session, s.session = some session ∧ session.handle = handle ∧
      t = { s with
        ota := write s.ota session.written.length bytes
        session := some { session with written := session.written ++ bytes } }) ∨
      (err ≠ .ok ∧ ∃ content, t = { s with ota := content })
  | .otaEnd handle => fun s err t =>
    (err = .ok ∧ ∃ session, s.session = some session ∧ session.handle = handle ∧
      t = { s with
        session := none
        closed := s.closed ++ [handle]
        accepted := s.accepted ++ [⟨session.size, session.written, s.ota⟩] }) ∨
      (err ≠ .ok ∧ ∃ content, t = { s with
        ota := content
        session := none
        closed := s.closed ++ [handle] })
  | .otaAbort handle => fun s _ t => t = { s with session := none, closed := s.closed ++ [handle] }
  | .recv wanted => fun s r t =>
    match r with
    | .data bytes => bytes.length ≤ wanted ∧ t = { s with received := s.received ++ bytes }
    | .timeout | .failed => t = s
  | .sendText status body => fun s _ t => t = { s with replies := s.replies ++ [(status, body)] }
  | .startCounters _ => fun s _ t => t = { s with received := [] }
  | .asyncComplete | .setReceived _ | .setUploadState _ | .setInstalledVersion _
  | .copyInstalledVersion | .resetReason | .updateRtcRetainMem _ _ | .rtcRetainPartition
  | .enableTimerWakeup | .startRestartTimer | .startUpdaterAp | .startUpdaterHttp _ _ _ =>
    fun s _ t => t = s
  | .deepSleepStart | .restart => fun _ _ _ => False

end Device

/-- An erase only sets bits, also when it returns an error. -/
def SetsBits (before after : UInt8) : Prop := before &&& after = before

/-- An erase that returns an error has changed nothing. -/
def ErasesNothing (before after : UInt8) : Prop := after = before

/-! ## What calls keep -/

/-- The call only reads flash or asks for a fact. -/
def ReadCall : FwCall → Prop
  | .findOta | .findFwMeta | .metaRead _ _ | .otaRead _ _ | .otaSha256 | .resetReason => True
  | _ => False

/-- The call changes nothing but the control record, at most. -/
def QuietCall : FwCall → Prop
  | .metaErase off _ | .metaWrite off _ => fwMetaSectorBytes ≤ off
  | .otaBegin _ | .otaWrite _ _ | .otaEnd _ | .otaAbort _ | .recv _ | .sendText _ _
  | .startCounters _ => False
  | _ => True

/-- The call changes nothing but the record partition, at most. -/
def MetaCall : FwCall → Prop
  | .metaErase _ _ | .metaWrite _ _ => True
  | c => QuietCall c

/-- The call does not touch sector 0, `ota_0` or the accepted images. -/
def Harmless : FwCall → Prop
  | .metaErase off _ | .metaWrite off _ => fwMetaSectorBytes ≤ off
  | .otaBegin _ | .otaWrite _ _ | .otaEnd _ => False
  | _ => True

/-- The call does not touch `ota_0` or the accepted images. -/
def KeepsOta : FwCall → Prop
  | .otaBegin _ | .otaWrite _ _ | .otaEnd _ => False
  | _ => True

/-- The boards differ at most in the control record. -/
def SameButCtrl (s t : Board) : Prop :=
  ∃ content, (∀ i < fwMetaSectorBytes, content i = s.fwMeta i) ∧ t = { s with fwMeta := content }

/-- The boards differ at most in the record partition and the log of its erases. -/
def SameButMeta (s t : Board) : Prop :=
  ∃ content log, t = { s with fwMeta := content, eraseLog := log }

/-- Sector 0, `ota_0` and the accepted images are the same. -/
structure SameImage (s t : Board) : Prop where
  sector0 : ∀ i < fwMetaSectorBytes, t.fwMeta i = s.fwMeta i
  ota : t.ota = s.ota
  accepted : t.accepted = s.accepted

/-- `ota_0` and the accepted images are the same. -/
structure SameOta (s t : Board) : Prop where
  ota : t.ota = s.ota
  accepted : t.accepted = s.accepted

theorem SameImage.refl (s : Board) : SameImage s s := ⟨fun _ _ => rfl, rfl, rfl⟩

theorem SameImage.trans {s t u : Board} (h : SameImage s t) (h' : SameImage t u) :
    SameImage s u :=
  ⟨fun i hi => (h'.sector0 i hi).trans (h.sector0 i hi), h'.ota.trans h.ota,
    h'.accepted.trans h.accepted⟩

theorem SameImage.sector0Erased {s t : Board} (h : SameImage s t) (he : s.Sector0Erased) :
    t.Sector0Erased := fun i hi hi' => by
  rw [h.sector0 i (by omega), he i hi hi']

theorem SameOta.refl (s : Board) : SameOta s s := ⟨rfl, rfl⟩

theorem SameOta.trans {s t u : Board} (h : SameOta s t) (h' : SameOta t u) : SameOta s u :=
  ⟨h'.ota.trans h.ota, h'.accepted.trans h.accepted⟩

theorem SameButCtrl.refl (s : Board) : SameButCtrl s s := ⟨s.fwMeta, fun _ _ => rfl, rfl⟩

theorem SameButCtrl.trans {s t u : Board} (h : SameButCtrl s t) (h' : SameButCtrl t u) :
    SameButCtrl s u := by
  obtain ⟨content, hsame, rfl⟩ := h
  obtain ⟨content', hsame', rfl⟩ := h'
  exact ⟨content', fun i hi => (hsame' i hi).trans (hsame i hi), rfl⟩

theorem SameButMeta.refl (s : Board) : SameButMeta s s := ⟨s.fwMeta, s.eraseLog, rfl⟩

theorem SameButMeta.trans {s t u : Board} (h : SameButMeta s t) (h' : SameButMeta t u) :
    SameButMeta s u := by
  obtain ⟨content, log, rfl⟩ := h
  obtain ⟨content', log', rfl⟩ := h'
  exact ⟨content', log', rfl⟩

theorem ReadCall.quiet {c : FwCall} (hc : ReadCall c) : QuietCall c := by
  cases c <;> first | exact hc.elim | trivial

theorem QuietCall.harmless {c : FwCall} (hc : QuietCall c) : Harmless c := by
  cases c <;> first | exact hc.elim | exact hc

theorem QuietCall.meta {c : FwCall} (hc : QuietCall c) : MetaCall c := by
  cases c <;> trivial

theorem MetaCall.keepsOta {c : FwCall} (hc : MetaCall c) : KeepsOta c := by
  cases c <;> first | exact hc.elim | trivial

theorem ReadCall.harmless {c : FwCall} (hc : ReadCall c) : Harmless c := by
  cases c <;> first | exact hc.elim | trivial

theorem Harmless.keepsOta {c : FwCall} (hc : Harmless c) : KeepsOta c := by
  cases c <;> first | exact hc.elim | trivial

section Steps

variable {sha : Content → Option (Vector UInt8 fwSha256Len)} {failedErase : UInt8 → UInt8 → Prop}

theorem readCall_step (c : FwCall) (hc : ReadCall c) (s : Board) (r : c.Answer) (t : Board)
    (h : board sha failedErase c s r t) : t = s := by
  cases c with
  | findOta | findFwMeta | metaRead _ _ | otaRead _ _ | otaSha256 => exact h.2
  | resetReason => exact h
  | _ => exact hc.elim

theorem quietCall_step (c : FwCall) (hc : QuietCall c) (s : Board) (r : c.Answer) (t : Board)
    (h : board sha failedErase c s r t) : SameButCtrl s t := by
  cases c with
  | otaBegin _ | otaWrite _ _ | otaEnd _ | otaAbort _ | recv _ | sendText _ _ | startCounters _ =>
      exact hc.elim
  | findOta | findFwMeta | metaRead _ _ | otaRead _ _ | otaSha256 =>
      obtain rfl := h.2
      exact .refl _
  | metaErase off len =>
      have hoff : fwMetaSectorBytes ≤ off := hc
      have hne : off ≠ 0 := by
        rintro rfl
        exact absurd hoff (by decide)
      obtain ⟨-, rfl⟩ | ⟨-, content, hsame, -, rfl⟩ := h
      · refine ⟨_, fun i hi => ?_, by rw [if_neg hne]⟩
        exact sameOutside_erase s.fwMeta off len i (.inl (by omega))
      · exact ⟨content, fun i hi => hsame i (.inl (by omega)), by rw [if_neg hne]⟩
  | metaWrite off bytes =>
      have hoff : fwMetaSectorBytes ≤ off := hc
      obtain ⟨content, hsame, rfl⟩ := h
      exact ⟨content, fun i hi => hsame i (.inl (by omega)), rfl⟩
  | deepSleepStart | restart => exact r.elim
  | _ =>
      obtain rfl := h
      exact .refl _

theorem metaCall_step (c : FwCall) (hc : MetaCall c) (s : Board) (r : c.Answer) (t : Board)
    (h : board sha failedErase c s r t) : SameButMeta s t := by
  have hquiet : ∀ {u}, SameButCtrl s u → SameButMeta s u := by
    rintro u ⟨content, -, rfl⟩
    exact ⟨content, s.eraseLog, rfl⟩
  cases c with
  | metaErase off len =>
      obtain ⟨-, rfl⟩ | ⟨-, content, -, -, rfl⟩ := h
      · exact ⟨_, _, rfl⟩
      · exact ⟨_, _, rfl⟩
  | metaWrite off bytes =>
      obtain ⟨content, -, rfl⟩ := h
      exact ⟨content, s.eraseLog, rfl⟩
  | _ =>
      apply hquiet
      apply quietCall_step _ _ s r t h
      exact hc

theorem keepsOta_step (c : FwCall) (hc : KeepsOta c) (s : Board) (r : c.Answer) (t : Board)
    (h : board sha failedErase c s r t) : SameOta s t := by
  cases c with
  | otaBegin _ | otaWrite _ _ | otaEnd _ => exact hc.elim
  | findOta | findFwMeta | metaRead _ _ | otaRead _ _ | otaSha256 =>
      obtain rfl := h.2
      exact .refl _
  | metaErase off len =>
      obtain ⟨-, rfl⟩ | ⟨-, content, -, -, rfl⟩ := h <;> exact ⟨rfl, rfl⟩
  | metaWrite off bytes =>
      obtain ⟨content, -, rfl⟩ := h
      exact ⟨rfl, rfl⟩
  | recv wanted =>
      cases r with
      | data bytes =>
          obtain ⟨-, rfl⟩ := h
          exact ⟨rfl, rfl⟩
      | timeout | failed =>
          obtain rfl : t = s := h
          exact .refl _
  | deepSleepStart | restart => exact r.elim
  | _ =>
      obtain rfl := h
      exact ⟨rfl, rfl⟩

theorem harmless_step (c : FwCall) (hc : Harmless c) (s : Board) (r : c.Answer) (t : Board)
    (h : board sha failedErase c s r t) : SameImage s t := by
  have hota := keepsOta_step c hc.keepsOta s r t h
  refine ⟨?_, hota.ota, hota.accepted⟩
  cases c with
  | otaBegin _ | otaWrite _ _ | otaEnd _ => exact hc.elim
  | findOta | findFwMeta | metaRead _ _ | otaRead _ _ | otaSha256 =>
      obtain rfl := h.2
      exact fun _ _ => rfl
  | metaErase off len =>
      have hoff : fwMetaSectorBytes ≤ off := hc
      obtain ⟨-, rfl⟩ | ⟨-, content, hsame, -, rfl⟩ := h
      · exact fun i hi => sameOutside_erase s.fwMeta off len i (.inl (by omega))
      · exact fun i hi => hsame i (.inl (by omega))
  | metaWrite off bytes =>
      have hoff : fwMetaSectorBytes ≤ off := hc
      obtain ⟨content, hsame, rfl⟩ := h
      exact fun i hi => hsame i (.inl (by omega))
  | recv wanted =>
      cases r with
      | data bytes =>
          obtain ⟨-, rfl⟩ := h
          exact fun _ _ => rfl
      | timeout | failed =>
          obtain rfl : t = s := h
          exact fun _ _ => rfl
  | deepSleepStart | restart => exact r.elim
  | _ =>
      obtain rfl := h
      exact fun _ _ => rfl

/-! ## The record functions -/

theorem readFwMetaRecord_only : readFwMetaRecord.Only ReadCall :=
  Only.bind ⟨trivial, fun _ => trivial⟩ fun _ => Only.ite trivial
    (Only.bind ⟨trivial, fun _ => trivial⟩ fun _ => Only.ite trivial trivial)

theorem readFwCtrlRecord_only : readFwCtrlRecord.Only ReadCall :=
  Only.bind ⟨trivial, fun _ => trivial⟩ fun _ => Only.ite trivial
    (Only.bind ⟨trivial, fun _ => trivial⟩ fun _ => Only.ite trivial trivial)

theorem writeFwCtrlRecord_only (record : FwCtrlRecord) :
    (writeFwCtrlRecord record).Only QuietCall :=
  Only.bind ⟨trivial, fun _ => trivial⟩ fun _ => Only.ite trivial
    (Only.bind ⟨Nat.le_refl _, fun _ => trivial⟩ fun _ =>
      Only.ite trivial ⟨Nat.le_refl _, fun _ => trivial⟩)

theorem eraseFwMetaRecord_only : eraseFwMetaRecord.Only MetaCall :=
  Only.bind ⟨trivial, fun _ => trivial⟩ fun _ => Only.ite trivial ⟨trivial, fun _ => trivial⟩

theorem writeFwMetaRecord_only (record : FwMetaRecord) : (writeFwMetaRecord record).Only MetaCall :=
  Only.bind ⟨trivial, fun _ => trivial⟩ fun _ => Only.ite trivial ⟨trivial, fun _ => trivial⟩

/-- A program that only reads leaves the board as it is. -/
theorem wp_readOnly {α : Type} {p : Fw α} (hp : p.Only ReadCall) (s : Board) :
    p.wp (board sha failedErase) (fun _ t => t = s) (fun _ t => t = s) s :=
  wp_conseq (Only.wp hp (R := fun s t => t = s) (fun h h' => h'.trans h) readCall_step rfl)
    (fun _ _ h => h.2) (fun _ _ h => h)

/-- The record `ReadFwMetaRecord()` gives: the stored one, or the erased one after an error. -/
def ReadRecord (s : Board) (record : FwMetaRecord) : Prop :=
  record = .erased ∨ record = .ofBytes (read s.fwMeta 0 fwMetaRecordSize)

theorem wp_readFwMetaRecord (s : Board) :
    readFwMetaRecord.wp (board sha failedErase) (fun _ _ => True)
      (fun answer t => t = s ∧ ReadRecord s answer.2 ∧
        (answer.1 = .ok → answer.2 = .ofBytes (read s.fwMeta 0 fwMetaRecordSize))) s := by
  rw [readFwMetaRecord, findFwMeta, wp_bind, wp_perform]
  refine ⟨trivial, fun found t ht => ?_⟩
  obtain ⟨-, rfl⟩ := ht
  rw [wp_ite]
  split
  · exact ⟨rfl, .inl rfl, fun h => by cases h⟩
  rw [metaRead, wp_bind, wp_perform]
  refine ⟨trivial, fun answer u hu => ?_⟩
  obtain ⟨hread, rfl⟩ := hu
  rw [wp_ite]
  split
  · rename_i hne
    exact ⟨rfl, .inl rfl, fun h => absurd h hne⟩
  · rename_i hok
    rw [hread (not_not.mp hok)]
    exact ⟨rfl, .inr rfl, fun _ => rfl⟩

theorem readRecord_of_erased {s : Board} {record : FwMetaRecord} (h : ReadRecord s record)
    (he : s.Sector0Erased) : record = .erased := by
  rcases h with rfl | rfl
  · rfl
  · rw [FwMetaRecord.erased, read_erased he (by decide)]

/-- The board after an erase of sector 0. -/
def Board.erased (s : Board) : Board :=
  { s with
    fwMeta := erase s.fwMeta fwMetaRecordOffset fwMetaSectorBytes
    eraseLog := s.eraseLog ++ [.ok] }

theorem Board.erased_sector0 (s : Board) : s.erased.Sector0Erased := erased_erase _ _ _

/-- The three ways an erase of sector 0 ends: no partition, erased, or an error. -/
theorem wp_eraseFwMetaRecord {G : FwCall → Board → Prop} {Q : EspErr → Board → Prop} {s : Board}
    (hG : ∀ c, G c s) (hnone : s.hasFwMeta = false → Q .notFound s)
    (hok : s.hasFwMeta = true → Q .ok s.erased)
    (hfail : ∀ err content, err ≠ .ok →
      SameOutside s.fwMeta content fwMetaRecordOffset fwMetaSectorBytes →
      (∀ i, failedErase (s.fwMeta i) (content i)) →
      Q err { s with fwMeta := content, eraseLog := s.eraseLog ++ [err] }) :
    eraseFwMetaRecord.wp (board sha failedErase) G Q s := by
  rw [eraseFwMetaRecord, findFwMeta, wp_bind, wp_perform]
  refine ⟨hG _, fun found t ht => ?_⟩
  obtain ⟨rfl, rfl⟩ := ht
  rw [wp_ite]
  split
  · rename_i hfound
    exact hnone (by simpa using hfound)
  rename_i hfound
  rw [metaErase, wp_perform]
  refine ⟨hG _, fun err u hu => ?_⟩
  obtain ⟨rfl, rfl⟩ | ⟨herr, content, hsame, hbytes, rfl⟩ := hu
  · exact hok (by simpa using hfound)
  · exact hfail err content herr hsame hbytes

/-- No call changes the partition table. -/
theorem board_otaPartition {c : FwCall} {s t : Board} {r : c.Answer}
    (h : board sha failedErase c s r t) : t.otaPartition = s.otaPartition := by
  cases c with
  | findOta | findFwMeta | metaRead _ _ | otaRead _ _ | otaSha256 => exact h.2 ▸ rfl
  | metaErase off len =>
      obtain ⟨-, rfl⟩ | ⟨-, content, -, -, rfl⟩ := h <;> rfl
  | metaWrite off bytes =>
      obtain ⟨content, -, rfl⟩ := h
      rfl
  | otaBegin _ =>
      obtain ⟨-, content, rfl⟩ | ⟨-, content, rfl⟩ := h <;> rfl
  | otaWrite _ _ =>
      obtain ⟨-, session, -, -, rfl⟩ | ⟨-, content, rfl⟩ := h <;> rfl
  | otaEnd _ =>
      obtain ⟨-, session, -, -, rfl⟩ | ⟨-, content, rfl⟩ := h <;> rfl
  | recv wanted =>
      cases r with
      | data bytes =>
          obtain ⟨-, rfl⟩ := h
          rfl
      | timeout | failed =>
          obtain rfl := h
          rfl
  | deepSleepStart | restart => exact r.elim
  | _ =>
      obtain rfl := h
      rfl

end Steps

end StripTuner.Updater
