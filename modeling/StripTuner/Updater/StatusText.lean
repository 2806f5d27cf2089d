import Mathlib.Data.List.Infix
import StripTuner.Updater.Sessions

/-!
# What the status text tells the page

The upload page looks for `state=uploading` and `state=done` anywhere in the status text. It finds
them exactly when an upload runs or the restart is pending, since no installed version can contain
them; and the reply to each request tells of a moment since the request arrived.
-/

namespace StripTuner.Updater

open ByteLayout DeviceCalls DeviceCalls.Prog FlashRegion FwMeta

variable {sha : Content → Option (Vector UInt8 fwSha256Len)} {failedErase : UInt8 → UInt8 → Prop}

/-! ## The test of the page -/

/-- `/state=(uploading|done)/.test()` of the page. -/
def blocks (text : String) : Bool :=
  "state=uploading".toList <:+: text.toList || "state=done".toList <:+: text.toList

theorem blocks_iff (text : String) : blocks text = true ↔
    "state=uploading".toList <:+: text.toList ∨ "state=done".toList <:+: text.toList := by
  unfold blocks
  rw [Bool.or_eq_true]
  exact or_congr decide_eq_true_iff decide_eq_true_iff

/-- The bytes of the version are not after the digits. -/
def Plain (installed : Version) : Prop := ∀ byte ∈ installed.toList, byte < 0x3A

/-- The two places of a character that occurs twice. -/
theorem split_of_two {α : Type} {x : α} {B C before D : List α} (hB : x ∉ B) (hC : x ∉ C)
    (hD : x :: B ++ x :: C = before ++ x :: D) :
    before = [] ∧ D = B ++ x :: C ∨ D = C := by
  cases before with
  | nil => exact .inl ⟨rfl, (List.cons.inj hD).2.symm⟩
  | cons y before =>
      obtain ⟨-, hrest⟩ := List.cons.inj hD
      rcases List.append_eq_append_iff.1 hrest with ⟨middle, rfl, hx⟩ | ⟨middle, rfl, hx⟩
      · cases middle with
        | nil => exact .inr (List.cons.inj hx).2.symm
        | cons z middle =>
            obtain ⟨-, rfl⟩ := List.cons.inj hx
            exact absurd (List.mem_append_right _ List.mem_cons_self) hC
      · cases middle with
        | nil => exact .inr (List.cons.inj hx).2
        | cons z middle =>
            obtain ⟨rfl, -⟩ := List.cons.inj hx
            exact absurd (List.mem_append_right _ List.mem_cons_self) hB

/-- The text between the two places where a match could start. -/
def statusMiddle (state : UploadState) (received total : Nat) : List Char :=
  "tate=".toList ++ (uploadStateName state).toList ++ "&received=".toList ++ received.repr.toList ++
    "&total=".toList ++ total.repr.toList ++ "&in".toList

theorem statusBody_toList (state : UploadState) (received total : Nat) (installed : Version) :
    (statusBody state received total installed).toList =
      's' :: statusMiddle state received total ++
        's' :: ("talled=".toList ++ (versionText installed).toList) := by
  unfold statusBody statusMiddle
  simp only [String.toList_append]
  simp

theorem notMem_repr {character : Char} (h : character.isDigit = false) (n : Nat) :
    character ∉ n.repr.toList := by
  intro hmem
  rw [Nat.toList_repr] at hmem
  have hdigit := Nat.isDigit_of_mem_toDigits (by decide) (by decide) hmem
  rw [h] at hdigit
  cases hdigit

theorem notMem_statusMiddle (state : UploadState) (received total : Nat) :
    's' ∉ statusMiddle state received total := by
  have hname : 's' ∉ (uploadStateName state).toList := by cases state <;> decide
  have hdigits := notMem_repr (show 's'.isDigit = false by decide)
  unfold statusMiddle
  simp only [List.mem_append, not_or]
  exact ⟨⟨⟨⟨⟨⟨by decide, hname⟩, by decide⟩, hdigits _⟩, by decide⟩, hdigits _⟩, by decide⟩

theorem notMem_versionText {installed : Version} (h : Plain installed) :
    's' ∉ (versionText installed).toList := by
  unfold versionText
  split
  · decide
  · rw [String.toList_ofList]
    intro hmem
    obtain ⟨byte, hbyte, hchar⟩ := List.mem_map.1 hmem
    have hsub := List.takeWhile_sublist (l := installed.toList) fun x => decide (x ≠ 0)
    have hlt := UInt8.lt_iff_toNat_lt.1 (h byte (hsub.subset hbyte))
    have hlimit : (0x3A : UInt8).toNat = 0x3A := by decide
    have hcode : (Char.ofNat byte.toNat).toNat = byte.toNat := by
      rw [Char.ofNat, dif_pos (.inl (by omega))]
      rfl
    rw [hchar] at hcode
    have hs : 's'.toNat = 0x73 := by decide
    omega

/-- Where a match of the page's test can start. -/
theorem match_statusBody {state : UploadState} {received total : Nat} {installed : Version}
    (h : Plain installed) {pattern : List Char}
    (hmatch : 's' :: pattern <:+: (statusBody state received total installed).toList) :
    pattern <+: statusMiddle state received total ++
        's' :: ("talled=".toList ++ (versionText installed).toList) ∨
      pattern <+: "talled=".toList ++ (versionText installed).toList := by
  obtain ⟨before, after, hsplit⟩ := hmatch
  rw [statusBody_toList, List.append_assoc, List.cons_append] at hsplit
  have hlast : 's' ∉ "talled=".toList ++ (versionText installed).toList := by
    rw [List.mem_append, not_or]
    exact ⟨by decide, notMem_versionText h⟩
  rcases split_of_two (notMem_statusMiddle state received total) hlast hsplit.symm with
    ⟨-, hfirst⟩ | hsecond
  · exact .inl ⟨after, hfirst⟩
  · exact .inr ⟨after, hsecond⟩

/-- The names of the states differ in their first characters. -/
def stateInitial : UploadState → Char
  | .idle => 'i'
  | .uploading => 'u'
  | .done => 'd'
  | .error => 'e'

theorem uploadStateName_toList (state : UploadState) :
    ∃ rest, (uploadStateName state).toList = stateInitial state :: rest := by
  cases state with
  | idle => exact ⟨"dle".toList, by decide⟩
  | uploading => exact ⟨"ploading".toList, by decide⟩
  | done => exact ⟨"one".toList, by decide⟩
  | error => exact ⟨"rror".toList, by decide⟩

/-- A match at the second place would spell `talled` as `tate=`; one at the first tells the state. -/
theorem stateInitial_of_match {state : UploadState} {received total : Nat} {installed : Version}
    (h : Plain installed) {initial : Char} {word : List Char}
    (hmatch : 's' :: 't' :: 'a' :: 't' :: 'e' :: '=' :: initial :: word <:+:
      (statusBody state received total installed).toList) : stateInitial state = initial := by
  have hequals : "tate=".toList = ['t', 'a', 't', 'e', '='] := by decide
  have htalled : "talled=".toList = ['t', 'a', 'l', 'l', 'e', 'd', '='] := by decide
  obtain ⟨rest, hname⟩ := uploadStateName_toList state
  rcases match_statusBody h hmatch with hfirst | hsecond
  · unfold statusMiddle at hfirst
    simp only [hequals, hname, List.cons_append, List.nil_append, List.cons_prefix_cons,
      true_and] at hfirst
    exact hfirst.1.symm
  · simp only [htalled, List.cons_append, List.nil_append, List.cons_prefix_cons,
      true_and] at hsecond
    exact absurd hsecond.1 (by decide)

/-- The page's test finds the state in the status text, and nothing else. -/
theorem blocks_statusBody (state : UploadState) (received total : Nat) {installed : Version}
    (h : Plain installed) : blocks (statusBody state received total installed) = true ↔
      state = .uploading ∨ state = .done := by
  have huploading : "state=uploading".toList =
      's' :: 't' :: 'a' :: 't' :: 'e' :: '=' :: 'u' :: "ploading".toList := by decide
  have hdone : "state=done".toList =
      's' :: 't' :: 'a' :: 't' :: 'e' :: '=' :: 'd' :: "one".toList := by decide
  rw [blocks_iff, huploading, hdone]
  constructor
  · rintro (hmatch | hmatch)
    · have hinitial := stateInitial_of_match h hmatch
      cases state <;> first | exact .inl rfl | exact absurd hinitial (by decide)
    · have hinitial := stateInitial_of_match h hmatch
      cases state <;> first | exact .inr rfl | exact absurd hinitial (by decide)
  · have hbegin (name : String) (hname : uploadStateName state = name) :
        "state=".toList ++ name.toList <+:
          (statusBody state received total installed).toList := by
      unfold statusBody
      simp only [String.toList_append, List.append_assoc, hname]
      exact (List.prefix_append_right_inj _).2 (List.prefix_append _ _)
    rintro (rfl | rfl)
    · have hsplit : "state=".toList ++ "uploading".toList =
          's' :: 't' :: 'a' :: 't' :: 'e' :: '=' :: 'u' :: "ploading".toList := by decide
      exact .inl (hsplit ▸ (hbegin _ rfl).isInfix)
    · have hsplit : "state=".toList ++ "done".toList =
          's' :: 't' :: 'a' :: 't' :: 'e' :: '=' :: 'd' :: "one".toList := by decide
      exact .inr (hsplit ▸ (hbegin _ rfl).isInfix)

/-! ## The installed version -/

theorem plain_of_valid {version : Version} (h : isValidFwVersion version = true) : Plain version := by
  unfold isValidFwVersion at h
  rw [Bool.and_eq_true, List.all_eq_true, decide_eq_true_eq] at h
  intro byte hbyte
  obtain ⟨i, hi, rfl⟩ := List.getElem_of_mem hbyte
  rw [Vector.length_toList] at hi
  rw [Vector.getElem_toList]
  by_cases hlast : i < fwVersionLen
  · have hdigit := h.1 ⟨i, hlast⟩ (List.mem_finRange _)
    dsimp only at hdigit
    split at hdigit
    · rw [Bool.and_eq_true, decide_eq_true_eq, decide_eq_true_eq] at hdigit
      exact UInt8.lt_of_le_of_lt hdigit.2 (by decide)
    · rw [decide_eq_true_eq] at hdigit
      exact hdigit ▸ (by decide)
  · have hsize : fwVersionFieldLen = fwVersionLen + 1 := rfl
    obtain rfl : i = fwVersionLen := by omega
    rw [h.2]
    decide

theorem plain_storedVersion {version : Option Version}
    (h : ∀ v, version = some v → isValidFwVersion v = true) : Plain (storedVersion version) := by
  cases version with
  | none =>
      intro byte hbyte
      rw [storedVersion, Vector.toList_replicate] at hbyte
      rw [List.eq_of_mem_replicate hbyte]
      decide
  | some version =>
      intro byte hbyte
      rw [storedVersion, Vector.toList_set] at hbyte
      rcases List.mem_or_eq_of_mem_set hbyte with hold | rfl
      · exact plain_of_valid (h version rfl) byte hold
      · decide

/-- The calls of the worker: it stores valid versions, and its replies are those of the table. -/
def WorkerFw : FwCall → Prop
  | .setInstalledVersion version => ∀ v, version = some v → isValidFwVersion v = true
  | .sendText status body => ∃ result,
    status = (uploadReplies result).status ∧ body = (uploadReplies result).body
  | _ => True

theorem FlashWork.workerFw {c : FwCall} (hc : FlashWork c) : WorkerFw c := by
  cases c <;> first | exact hc.elim | trivial

theorem BodyCall.workerFw {c : FwCall} (hc : BodyCall c) : WorkerFw c := by
  cases c <;> first | exact hc.elim | trivial

theorem AfterResult.workerFw {result : UploadResult} {c : FwCall} (hc : AfterResult result c) :
    WorkerFw c := by
  cases c <;> first | exact hc.elim | trivial | exact ⟨result, hc⟩

/-- A head that the loop returns as accepted has passed the check. -/
theorem receiveImage_yields (handle : UInt32) (total received timeouts : Nat) (head : List UInt8)
    (h : fwImageHeadLen ≤ head.length → checkImageHead head = .ok) :
    (receiveImage handle total received timeouts head).Yields
      (fun r => r.1 = .ok → checkImageHead r.2 = .ok) := by
  have hany {α : Type} (p : Fw α) : p.Yields fun _ => True := .of_forall (fun _ => trivial) p
  induction received, timeouts, head using receiveImage.induct total with
  | case1 received timeouts head hmore ihretry ihdata =>
      rw [receiveImage, dif_pos hmore]
      refine (hany _).bind fun answer _ => ?_
      cases answer with
      | timeout =>
          by_cases hretry : timeouts < fwUploadRecvRetries
          · simpa [hretry] using ihretry hretry h
          · simp only [hretry, dite_false]
            intro hok
            cases hok
      | failed =>
          intro hok
          cases hok
      | data chunk =>
          by_cases hclosed : chunk.length = 0
          · simp only [hclosed, dite_true]
            intro hok
            cases hok
          simp only [hclosed, dite_false]
          split
          · -- The head was rejected.
            rename_i hreject
            exact (hany _).bind fun _ _ hok => absurd hok hreject
          rename_i haccept
          refine (hany _).bind fun err _ => ?_
          split
          · -- The write failed.
            refine (hany _).bind fun _ _ hok => ?_
            by_cases hvalidate : err = EspErr.otaValidateFailed
            · cases (if_pos hvalidate).symm.trans hok
            · cases (if_neg hvalidate).symm.trans hok
          refine (hany _).bind fun _ _ => ihdata chunk hclosed fun hfull => ?_
          by_cases hshort : head.length < fwImageHeadLen
          · have hfilled : (fillHead head chunk).length = fwImageHeadLen := by
              rw [fillHead, if_pos hshort, List.length_append, List.length_take] at hfull ⊢
              omega
            rwa [checkFilledHead, if_pos ⟨hshort, hfilled⟩, ne_eq, not_not] at haccept
          · rw [fillHead, if_neg hshort]
            exact h (Nat.not_lt.1 hshort)
  | case2 received timeouts head hdone =>
      rw [receiveImage, dif_neg hdone]
      intro hok
      by_cases hshort : head.length < fwImageHeadLen
      · simp [if_pos hshort, checkImageHead_short hshort] at hok
      · exact h (Nat.not_lt.1 hshort)

theorem valid_of_checkImageHead {head : List UInt8} (h : checkImageHead head = .ok) :
    isValidFwVersion (headVersion head) = true := by
  have hmeta := checkFwEmbeddedMeta_of_head h
  unfold checkFwEmbeddedMeta at hmeta
  split at hmeta
  · cases hmeta
  split at hmeta
  · cases hmeta
  split at hmeta
  · cases hmeta
  split at hmeta
  · cases hmeta
  rename_i hvalid
  rw [Bool.not_eq_true, Bool.not_eq_false'] at hvalid
  exact hvalid

theorem commitMetaRecord_workerFw (otaSize : UInt32) (total : Nat) {head : List UInt8}
    (h : checkImageHead head = .ok) :
    (commitMetaRecord otaSize total head).Only WorkerFw := by
  have hflash {α : Type} {p : Fw α} (hp : p.Only FlashWork) : p.Only WorkerFw :=
    Only.mono hp fun _ => FlashWork.workerFw
  refine Only.bind ⟨trivial, fun _ => trivial⟩ fun sha256 => Only.ite trivial ?_
  refine Only.bind (hflash (writeAndCheckMetaRecord_work _ _)) fun isCommitted =>
    Only.ite ?_ ?_
  · exact Only.bind (hflash eraseFwMetaRecord_work) fun _ => trivial
  · refine Only.bind ⟨?_, fun _ => trivial⟩ fun _ =>
      Only.bind (hflash clearCrashCount_work) fun _ => trivial
    intro version hversion
    obtain rfl := Option.some.inj hversion
    exact valid_of_checkImageHead h

theorem runUpload_workerFw (ota : Option OtaPartition) (total : Nat) :
    (runUpload ota total).Only WorkerFw := by
  cases ota with
  | none => trivial
  | some partition =>
      have herase := Only.mono eraseFwMetaRecord_work fun _ => FlashWork.workerFw
      refine Only.ite trivial ?_
      refine Only.bind herase fun err => Only.ite trivial ?_
      refine Only.bind ⟨fun _ h => (by cases h), fun _ => trivial⟩ fun _ => ?_
      refine Only.bind ⟨trivial, fun _ => trivial⟩ fun opened => Only.ite trivial ?_
      have hyields := receiveImage_yields opened.2 total 0 0 [] (by decide)
      have hbody := Only.mono (receiveImage_only opened.2 total 0 0 []) fun _ => BodyCall.workerFw
      refine hyields.only hbody fun received haccepted => ?_
      split
      · trivial
      rename_i hok
      refine Only.bind ⟨trivial, fun _ => trivial⟩ fun err => Only.ite trivial ?_
      exact Only.bind (commitMetaRecord_workerFw _ _ (haccepted (not_not.1 hok))) fun _ => trivial

/-! ## What the replies tell -/

/-- An upload runs, or the restart after one is pending. -/
def Moment.IsBusy (m : Moment) : Prop := m.state = .uploading ∨ m.state = .done

/-- The reply has the status and the text of an outcome. -/
def IsOutcome (status body : String) : Prop :=
  ∃ result, status = (uploadReplies result).status ∧ body = (uploadReplies result).body

/-- What a reply of the server task tells of the moments since its request arrived. -/
def Observes (request : UpdaterRequest) (status body : String) (moments : List Moment) : Prop :=
  match request.path with
  | .status => ∃ m ∈ moments, (blocks body = true ↔ m.IsBusy)
  | .update => IsOutcome status body ∨ body = "Upload in progress" ∧ ∃ m ∈ moments, m.IsBusy

theorem observes_status {request : UpdaterRequest} (hpath : request.path = .status)
    (status body : String) (moments : List Moment) :
    Observes request status body moments ↔ ∃ m ∈ moments, (blocks body = true ↔ m.IsBusy) := by
  unfold Observes
  rw [hpath]

theorem observes_update {request : UpdaterRequest} (hpath : request.path = .update)
    (status body : String) (moments : List Moment) : Observes request status body moments ↔
      IsOutcome status body ∨ body = "Upload in progress" ∧ ∃ m ∈ moments, m.IsBusy := by
  unfold Observes
  rw [hpath]

/-- What holds between any two calls. -/
structure Telling (s : Shared) : Prop where
  installed : Plain s.installed
  queued : ∀ r ∈ s.queue, r.path = .update
  replies : ∀ reply ∈ s.replies, Observes reply.request reply.status reply.body reply.moments

/-- The state now was seen since the request arrived. -/
def Seen (s : Shared) : Prop := ∃ m ∈ s.moments, m.state = s.state

/-- What the invariant needs of a call. -/
def TellGuard (c : UpdaterCall) (s : Shared) : Prop :=
  match c with
  | .fw _ c => WorkerFw c
  | .queueSend r => r.path = .update
  | .respond r status body => Observes r status body s.moments
  | _ => True

section Tell

variable {s t : Shared}

theorem Seen.observe (s : Shared) : Seen s.observe :=
  ⟨s.moment, List.mem_append_right _ (List.mem_singleton_self _), rfl⟩

theorem Telling.observe (h : Telling s) : Telling s.observe := ⟨h.installed, h.queued, h.replies⟩

theorem act_queue (s : Shared) (r : UpdaterRequest) (c : FwCall) :
    (s.act r c).queue = s.queue := by
  cases c with
  | startCounters | setReceived | setUploadState | asyncComplete | setInstalledVersion => rfl
  | _ =>
      unfold Shared.act
      dsimp only
      split <;> rfl

theorem Telling.call (h : Telling s) {c : UpdaterCall} (hc : TellGuard c s) {a : c.Answer}
    (hcall : tasks sha failedErase c s a t) : Telling t := by
  cases c with
  | fw r c =>
      obtain ⟨b, -, -, rfl⟩ := hcall
      apply Telling.observe
      refine ⟨?_, ?_, ?_⟩
      · by_cases hset : ∀ version, c ≠ .setInstalledVersion version
        · rw [act_installed _ r hset]
          exact h.installed
        · simp only [ne_eq, not_forall, not_not] at hset
          obtain ⟨version, rfl⟩ := hset
          exact plain_storedVersion hc
      · rw [act_queue]
        exact h.queued
      · rw [(act_sameLog { s with board := b } r c).replies]
        exact h.replies
  | claim r =>
      obtain ⟨-, rfl⟩ := hcall
      split
      · exact h
      · exact Telling.observe ⟨h.installed, h.queued, h.replies⟩
  | queueSend r =>
      dsimp only [tasks] at hcall
      split at hcall
      · obtain ⟨-, rfl⟩ := hcall
        refine ⟨h.installed, fun q hq => ?_, h.replies⟩
        rcases List.mem_append.1 hq with hold | hlast
        · exact h.queued q hold
        · rw [List.mem_singleton.1 hlast]
          exact hc
      · obtain ⟨-, rfl⟩ := hcall
        exact h
  | queueReceive =>
      obtain ⟨rest, hqueue, rfl⟩ := hcall
      refine ⟨h.installed, fun q hq => h.queued q ?_, h.replies⟩
      rw [hqueue]
      exact List.mem_cons_of_mem _ hq
  | respond r status body =>
      obtain rfl := hcall
      refine ⟨h.installed, h.queued, fun reply hreply => ?_⟩
      rcases List.mem_append.1 hreply with hold | hlast
      · exact h.replies reply hold
      · rw [List.mem_singleton.1 hlast]
        exact hc
  | readStatus =>
      obtain ⟨-, rfl⟩ := hcall
      exact h
  | asyncBegin | setHdr | sendError =>
      obtain rfl := hcall
      exact h

/-- A call that answers no request keeps the moments, and adds what it changes. -/
theorem Seen.call (h : Seen s) {c : UpdaterCall} {a : c.Answer}
    (hcall : tasks sha failedErase c s a t) : Seen t ∧ ∀ m ∈ s.moments, m ∈ t.moments := by
  cases c with
  | fw r c =>
      obtain ⟨b, -, -, rfl⟩ := hcall
      refine ⟨.observe _, fun m hm => List.mem_append_left _ ?_⟩
      rw [(act_kept { s with board := b } r c).2]
      exact hm
  | claim r =>
      obtain ⟨-, rfl⟩ := hcall
      split
      · exact ⟨h, fun _ hm => hm⟩
      · exact ⟨.observe _, fun m hm => List.mem_append_left _ hm⟩
  | queueSend r =>
      dsimp only [tasks] at hcall
      split at hcall <;> obtain ⟨-, rfl⟩ := hcall <;> exact ⟨h, fun _ hm => hm⟩
  | queueReceive =>
      obtain ⟨rest, -, rfl⟩ := hcall
      exact ⟨h, fun _ hm => hm⟩
  | readStatus =>
      obtain ⟨-, rfl⟩ := hcall
      exact ⟨h, fun _ hm => hm⟩
  | asyncBegin | setHdr | sendError | respond =>
      obtain rfl := hcall
      exact ⟨h, fun _ hm => hm⟩

theorem Telling.arrive (h : Telling s) : Telling s.arrive := ⟨h.installed, h.queued, h.replies⟩

theorem Seen.arrive (s : Shared) : Seen s.arrive := ⟨s.moment, List.mem_singleton_self _, rfl⟩

end Tell

/-! ### What each task relies on -/

/-- What the worker does, as the server task sees it. -/
structure ServerHears (s t : Shared) : Prop where
  telling : Telling s → Telling t
  seen : Seen s → Seen t
  moments : ∀ m ∈ s.moments, m ∈ t.moments

/-- The worker works on an upload. -/
def WorkerTells : UpdaterCall → Prop
  | .fw r c => r.path = .update ∧ WorkerFw c
  | .queueReceive => True
  | _ => False

def tellRely : UpdaterTask → Shared → Shared → Prop
  | .server => ServerHears
  | .worker => fun s t => Telling s → Telling t

def tellGuard (task : UpdaterTask) (c : UpdaterCall) (s : Shared) : Prop :=
  Telling s ∧ TellGuard c s ∧ (task = .worker → WorkerTells c)

section Hears

variable {s : Shared} {r : UpdaterRequest} {ota : Option OtaPartition}

/-- What the server task knows while it works on a request. -/
def Informed (s : Shared) : Prop := Telling s ∧ Seen s

theorem Informed.rely {t : Shared} (h : Informed s) (ht : ServerHears s t) : Informed t :=
  ⟨ht.telling h.1, ht.seen h.2⟩

theorem Informed.call {t : Shared} (h : Informed s) {c : UpdaterCall} (hc : TellGuard c s)
    {a : c.Answer} (hcall : tasks sha failedErase c s a t) : Informed t :=
  ⟨h.1.call hc hcall, (h.2.call hcall).1⟩

/-- The weakest precondition for the server task, as far as the texts are concerned. -/
abbrev TellWp (sha : Content → Option (Vector UInt8 fwSha256Len))
    (failedErase : UInt8 → UInt8 → Prop) (p : Task EspErr) (s : Shared) : Prop :=
  p.wp (Interfered ServerHears (tasks sha failedErase)) (tellGuard .server) (fun _ => Telling) s

/-- The calls of `HandleUpload()` after the claim. -/
def ClaimedCall (r : UpdaterRequest) : UpdaterCall → Prop
  | .respond q status body => q = r ∧ IsOutcome status body
  | .fw _ c => WorkerFw c
  | .queueSend q => q = r
  | _ => True

theorem ClaimedCall.guard {c : UpdaterCall} (hc : ClaimedCall r c) (hpath : r.path = .update)
    (s : Shared) : TellGuard c s := by
  cases c with
  | fw q c => exact hc
  | queueSend q =>
      obtain rfl : q = r := hc
      exact hpath
  | respond q status body =>
      obtain ⟨rfl, houtcome⟩ := hc
      exact (observes_update hpath _ _ _).2 (.inl houtcome)
  | _ => trivial

theorem refuse_claimed (r : UpdaterRequest) (result : UploadResult) :
    (refuse r (uploadReplies result).status (uploadReplies result).body).Only (ClaimedCall r) :=
  Only.bind ⟨trivial, fun _ => trivial⟩ fun _ =>
    Only.bind ⟨⟨rfl, result, rfl, rfl⟩, fun _ => trivial⟩ fun _ => trivial

theorem wp_claimed {p : Task EspErr} (hp : p.Only (ClaimedCall r)) (hpath : r.path = .update)
    (h : Informed s) : TellWp sha failedErase p s := by
  have hwp := wp_interfered_only (R := ServerHears) (D := tasks sha failedErase)
    (G := tellGuard .server) hp h (fun _ _ ht h => h.rely ht)
    (fun c t hc ht => ⟨ht.1, hc.guard hpath t, fun h => by cases h⟩)
    fun c t a u hc ht hcall => ht.call (hc.guard hpath t) hcall
  exact wp_mono hwp fun _ _ ht => ht.1

theorem wp_handleUpload_tells (hpath : r.path = .update) (h : Informed s) :
    TellWp sha failedErase (handleUpload ota r) s := by
  have hreject (result : UploadResult) :
      (perform (UpdaterCall.fw r (.setUploadState .error)) >>= fun _ =>
        refuse r (uploadReplies result).status (uploadReplies result).body : Task EspErr).Only
        (ClaimedCall r) :=
    Only.bind ⟨trivial, fun _ => trivial⟩ fun _ => refuse_claimed r result
  apply wp_interfered h (fun _ _ ht h => h.rely ht) ⟨h.1, trivial, fun h => by cases h⟩
  intro t isBusy u ht hcall
  have hu : Informed u := ht.call (c := .claim r) trivial hcall
  obtain ⟨rfl, rfl⟩ := hcall
  rw [wp_ite]
  split
  · -- The claim is refused: it found the state busy.
    rename_i hbusy
    rw [if_pos hbusy] at hu
    obtain ⟨m, hm, hstate⟩ := ht.2
    have hfound : ∃ m ∈ t.moments, m.IsBusy := by
      refine ⟨m, hm, ?_⟩
      unfold Moment.IsBusy
      rw [hstate]
      unfold Shared.isBusy at hbusy
      rwa [Bool.or_eq_true, decide_eq_true_eq, decide_eq_true_eq] at hbusy
    have hrely (x y : Shared) (hxy : ServerHears x y)
        (hx : Informed x ∧ ∃ m ∈ x.moments, m.IsBusy) : Informed y ∧ ∃ m ∈ y.moments, m.IsBusy := by
      obtain ⟨hx, m, hm, hbusy⟩ := hx
      exact ⟨hx.rely hxy, m, hxy.moments m hm, hbusy⟩
    apply wp_interfered (A := fun x => Informed x ∧ ∃ m ∈ x.moments, m.IsBusy) ⟨hu, hfound⟩ hrely
      ⟨hu.1, trivial, fun h => by cases h⟩
    rintro x _ y hx rfl
    have hguard (z : Shared) (hz : Informed z ∧ ∃ m ∈ z.moments, m.IsBusy) :
        TellGuard (.respond r "409 Conflict" "Upload in progress") z :=
      (observes_update hpath _ _ _).2 (.inr ⟨rfl, hz.2⟩)
    apply wp_interfered (A := fun x => Informed x ∧ ∃ m ∈ x.moments, m.IsBusy) hx hrely
      ⟨hx.1.1, hguard _ hx, fun h => by cases h⟩
    intro z _ v hz hcall
    exact (hz.1.call (hguard z hz) hcall).1
  · rename_i hfree
    rw [if_neg hfree] at hu
    refine wp_claimed (r := r) ?_ hpath hu
    refine Only.ite (hreject _) (Only.bind ⟨trivial, fun _ => trivial⟩ fun err => ?_)
    refine Only.ite (hreject _) (Only.bind ⟨rfl, fun _ => trivial⟩ fun isSent => ?_)
    refine Only.ite (Only.bind ⟨trivial, fun _ => trivial⟩ fun _ => ?_) trivial
    exact Only.bind ⟨trivial, fun _ => trivial⟩ fun _ =>
      Only.bind ⟨trivial, fun _ => trivial⟩ fun _ => trivial

/-- The status handler may report an old version, but the state is one that it has read. -/
theorem wp_handleStatus_tells (hpath : r.path = .status) (h : Informed s) :
    TellWp sha failedErase (handleStatus r) s := by
  apply wp_interfered h (fun _ _ ht h => h.rely ht) ⟨h.1, trivial, fun h => by cases h⟩
  intro t installed u ht hcall
  have hu : Informed u := ht.call (c := .fw r .copyInstalledVersion) trivial hcall
  have hplain : Plain installed := by
    obtain ⟨b, -, hinstalled, -⟩ := hcall
    obtain rfl : installed = t.installed := hinstalled
    exact ht.1.installed
  apply wp_interfered hu (fun _ _ ht h => h.rely ht) ⟨hu.1, trivial, fun h => by cases h⟩
  rintro w _ v hv ⟨rfl, rfl⟩
  have htold : ∃ m ∈ v.moments,
      (blocks (statusBody v.state v.received v.total installed) = true ↔ m.IsBusy) := by
    obtain ⟨m, hm, hstate⟩ := hv.2
    refine ⟨m, hm, ?_⟩
    unfold Moment.IsBusy
    rw [hstate]
    exact blocks_statusBody _ _ _ hplain
  have hguard (x : Shared) (hx : ∃ m ∈ x.moments,
      (blocks (statusBody v.state v.received v.total installed) = true ↔ m.IsBusy)) :
      TellGuard (.respond r "200 OK" (statusBody v.state v.received v.total installed)) x :=
    (observes_status hpath _ _ _).2 hx
  apply wp_interfered (A := fun x => Informed x ∧ ∃ m ∈ x.moments,
    (blocks (statusBody v.state v.received v.total installed) = true ↔ m.IsBusy)) ⟨hv, htold⟩ ?_
    ⟨hv.1, hguard v htold, fun h => by cases h⟩
  · intro x _ y hx hcall
    exact (hx.1.call (hguard x hx.2) hcall).1
  · rintro x y hxy ⟨hx, m, hm, hbusy⟩
    exact ⟨hx.rely hxy, m, hxy.moments m hm, hbusy⟩

theorem processUpload_workerFw (ota : Option OtaPartition) (total : Nat) :
    (processUpload ota total).Only WorkerFw := by
  refine Only.bind ⟨trivial, fun _ => trivial⟩ fun _ => ?_
  refine Only.bind (runUpload_workerFw ota _) fun outcome => ?_
  have hreply := Only.mono (replyUpload_afterResult outcome) fun _ => AfterResult.workerFw
  exact Only.bind hreply fun _ => ⟨trivial, fun _ => trivial⟩

theorem WorkerTells.guard {c : UpdaterCall} (hc : WorkerTells c) (s : Shared) :
    TellGuard c s := by
  cases c with
  | fw q c => exact hc.2
  | queueReceive => trivial
  | _ => exact hc.elim

theorem wp_runUploadWorker_tells (h : Telling s) :
    (runUploadWorker ota).wp (Interfered (fun s t => Telling s → Telling t)
      (tasks sha failedErase)) (tellGuard .worker) (fun _ => Telling) s := by
  apply wp_interfered h (fun _ _ ht => ht) ⟨h, trivial, fun _ => trivial⟩
  intro t request u ht hcall
  have hu : Telling u := ht.call (c := .queueReceive) trivial hcall
  have hpath : request.path = .update := by
    obtain ⟨rest, hqueue, -⟩ := hcall
    exact ht.queued request (hqueue ▸ List.mem_cons_self)
  have honly : (forRequest request (processUpload ota request.contentLen.toNat) >>= fun _ =>
      .ret .ok : Task EspErr).Only WorkerTells := by
    refine Only.bind (only_embed ?_) fun _ => trivial
    exact Only.mono (processUpload_workerFw ota _) fun _ hc => ⟨hpath, hc⟩
  exact wp_interfered_only honly hu (fun _ _ ht => ht)
    (fun c v hc hv => ⟨hv, hc.guard v, fun _ => hc⟩)
    fun c v a w hc hv hcall => hv.call (hc.guard v) hcall

end Hears

/-! ### Runs -/

theorem tellRely_telling {task : UpdaterTask} {s t : Shared} (h : tellRely task s t)
    (hs : Telling s) : Telling t := by
  cases task with
  | server => exact ServerHears.telling h hs
  | worker => exact h hs

theorem tellGuard_rely {task : UpdaterTask} {c : UpdaterCall} {s t : Shared}
    (h : tellRely task s t) (hs : tellGuard task c s) : tellGuard task c t := by
  obtain ⟨hs, hguard, hworker⟩ := hs
  refine ⟨tellRely_telling h hs, ?_, hworker⟩
  cases task with
  | worker => exact (hworker rfl).guard t
  | server =>
      have hmoments := ServerHears.moments h
      cases c with
      | respond r status body =>
          show Observes r status body t.moments
          cases hpath : r.path with
          | status =>
              obtain ⟨m, hm, hbusy⟩ := (observes_status hpath _ _ _).1 hguard
              exact (observes_status hpath _ _ _).2 ⟨m, hmoments m hm, hbusy⟩
          | update =>
              refine (observes_update hpath _ _ _).2 ?_
              rcases (observes_update hpath _ _ _).1 hguard with houtcome | ⟨hbody, m, hm, hbusy⟩
              · exact .inl houtcome
              · exact .inr ⟨hbody, m, hmoments m hm, hbusy⟩
      | _ => exact hguard

theorem tellStart {ota : Option OtaPartition} {task : UpdaterTask} {s s' : Shared}
    {p : Task EspErr} (h : Telling s) (hnext : Serves ota s task p s') :
    p.wp (Interfered (tellRely task) (tasks sha failedErase)) (tellGuard task) (fun _ => Telling)
      s' := by
  cases hnext with
  | update contentLen => exact wp_handleUpload_tells rfl ⟨h.arrive, Seen.arrive s⟩
  | status => exact wp_handleStatus_tells rfl ⟨h.arrive, Seen.arrive s⟩
  | worker => exact wp_runUploadWorker_tells h

theorem tell_compatible {ota : Option OtaPartition} :
    Compatible (tasks sha failedErase) (fun t (_ : EspErr) s p s' => Serves ota s t p s')
      (fun _ _ _ => True) tellRely tellGuard (fun _ _ => Telling) := by
  constructor
  · intro task s
    cases task with
    | server => exact ⟨id, id, fun _ hm => hm⟩
    | worker => exact id
  · intro task s u v h h'
    cases task with
    | server =>
        obtain ⟨htelling, hseen, hmoments⟩ : ServerHears s u := h
        obtain ⟨htelling', hseen', hmoments'⟩ : ServerHears u v := h'
        exact ⟨htelling' ∘ htelling, hseen' ∘ hseen, fun m hm => hmoments' m (hmoments m hm)⟩
    | worker => exact fun hs => h' (h hs)
  · exact fun h hc => tellGuard_rely h hc
  · exact fun h hs => tellRely_telling h hs
  · intro x task other c r s hne _ hguard hcall
    have htelling := hguard.1.call hguard.2.1 hcall
    cases task with
    | server =>
        refine ⟨fun _ => htelling, fun hseen => (hseen.call hcall).1, ?_⟩
        cases other with
        | server => exact absurd rfl hne
        | worker =>
            have hworker := hguard.2.2 rfl
            cases c with
            | fw q c =>
                obtain ⟨b, -, -, rfl⟩ := hcall
                intro m hm
                refine List.mem_append_left _ ?_
                rwa [(act_kept { x.state with board := b } q c).2]
            | queueReceive =>
                obtain ⟨rest, -, rfl⟩ := hcall
                exact fun _ hm => hm
            | _ => exact hworker.elim
    | worker => exact fun _ => htelling
  · intro task other err s p s' hne hs hnext
    cases hnext with
    | update _ | status =>
        cases task with
        | server => exact absurd rfl hne
        | worker => exact Telling.arrive
    | worker =>
        cases task with
        | server => exact ⟨id, id, fun _ hm => hm⟩
        | worker => exact absurd rfl hne
  · exact tellStart

/-! ### Responses -/

/-- What a response tells: the text of an outcome, or what the shared state was at a moment since its
request arrived. -/
def Hears (s : Shared) (response : Response) : Prop :=
  response.request.path = .update ∧ IsOutcome response.status response.body ∨
    ∃ reply ∈ s.replies, reply.request = response.request ∧
      Observes response.request response.status response.body reply.moments

theorem Hears.mono {s t : Shared} {response : Response} (h : Hears s response)
    (hgrows : ∀ reply ∈ s.replies, reply ∈ t.replies) : Hears t response := by
  rcases h with houtcome | ⟨reply, hreply, h⟩
  · exact .inl houtcome
  · exact .inr ⟨reply, hgrows reply hreply, h⟩

section Wired

variable {bodies : Nat → List UInt8} {ota : Option OtaPartition} {b : Board}
  {version : Option Version} {w u : Wire} {x : WiredTasks}

/-- No call forgets a reply. -/
theorem tasks_replies {c : UpdaterCall} {r : c.Answer} {s t : Shared}
    (h : tasks sha ErasesNothing c s r t) : ∀ reply ∈ s.replies, reply ∈ t.replies := by
  cases c with
  | fw request c =>
      obtain ⟨b, -, -, rfl⟩ := h
      intro reply hreply
      show reply ∈ ({ s with board := b }.act request c).replies
      rwa [(act_sameLog { s with board := b } request c).replies]
  | claim request =>
      obtain ⟨-, rfl⟩ := h
      split <;> exact fun _ h => h
  | queueSend request =>
      dsimp only [tasks] at h
      split at h <;> obtain ⟨-, rfl⟩ := h <;> exact fun _ h => h
  | queueReceive =>
      obtain ⟨rest, -, rfl⟩ := h
      exact fun _ h => h
  | readStatus =>
      obtain ⟨-, rfl⟩ := h
      exact fun _ h => h
  | respond request status body =>
      obtain rfl := h
      exact fun _ h => List.mem_append_left _ h
  | asyncBegin _ | setHdr _ _ _ | sendError _ =>
      obtain rfl := h
      exact fun _ h => h

/-- The response of a call that its guard allows. -/
theorem hears_call {task : UpdaterTask} {c : UpdaterCall} {r : c.Answer} {response : Response}
    (hguard : tellGuard task c w.shared) (honly : task = .server → ServerCall c)
    (hcall : wired sha bodies c w r u) (h : response ∈ c.response?) :
    Hears u.shared response := by
  cases c with
  | fw request c =>
      cases c with
      | sendText status body =>
          obtain rfl := Option.some.inj h
          cases task with
          | server => exact (honly rfl).elim
          | worker => exact .inl (hguard.2.2 rfl)
      | _ => cases h
  | respond request status body =>
      obtain rfl := Option.some.inj h
      obtain ⟨hshared, -, -⟩ := hcall
      obtain hshared : u.shared = w.shared.respond request status body := hshared
      rw [hshared]
      exact .inr ⟨_, List.mem_append_right _ (List.mem_singleton_self _), rfl, hguard.2.1⟩
  | _ => cases h

theorem tellStart_wp {version : Option Version}
    (hversion : ∀ v, version = some v → isValidFwVersion v = true) (b : Board)
    (task : UpdaterTask) : ((startTasks b version).left task).wp
      (Interfered (tellRely task) (tasks sha failedErase)) (tellGuard task) (fun _ => Telling)
      (startTasks b version).state :=
  ⟨plain_storedVersion hversion, fun _ h => (by cases h), fun _ h => (by cases h)⟩

/-- In every run each response is the text of an outcome or tells of a moment since its request
arrived. -/
theorem hears_of_run (hversion : ∀ v, version = some v → isValidFwVersion v = true)
    (hrun : Relation.ReflTransGen (WiredStep sha bodies ota) (startWired b version) x) :
    ∀ response ∈ x.state.responses, Hears x.state.shared response := by
  induction hrun with
  | refl =>
      intro response h
      cases h
  | @tail x y hxy hstep ih =>
      obtain ⟨task, hstep⟩ := hstep
      intro response hresponse
      cases hstep with
      | @call c k r w hleft _ hcall =>
          have hwp := tell_compatible.of_run (tasksRun_of_wired hxy) (tellStart_wp hversion b) task
          rw [show x.tasks.left task = _ from hleft] at hwp
          have honly (h : task = .server) : ServerCall c := by
            subst h
            have hserver := server_only hxy
            rw [hleft] at hserver
            exact hserver.1
          rw [hcall.2.2] at hresponse
          rcases List.mem_append.1 hresponse with hold | hnew
          · exact (ih response hold).mono (tasks_replies hcall.1)
          · exact hears_call hwp.1 honly hcall (Option.mem_toList.1 hnew)
      | @next _ _ u hleft hnext =>
          obtain ⟨hserves, hresponses⟩ := hnext
          rw [hresponses] at hresponse
          have hreplies : u.shared.replies = x.state.shared.replies := by
            generalize u.shared = s at hserves
            cases hserves <;> rfl
          exact (ih response hresponse).mono fun reply hreply => hreplies ▸ hreply

end Wired

end StripTuner.Updater
