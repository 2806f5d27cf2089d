import StripTuner.Updater.StatusReply

/-!
# What a response is worth

The worker runs one upload after the other on the board, and nobody else uses the board. So every
response of a run keeps what `ProcessUpload()` promises for one upload, about the bytes that its own
request carries, and a success keeps it from then on.
-/

namespace StripTuner.Updater

open ByteLayout DeviceCalls DeviceCalls.Prog FlashRegion FwMeta

variable {sha : Content → Option (Vector UInt8 fwSha256Len)}

/-! ## One session -/

/-- The board with a connection that carries the body. -/
def carrying (sha : Content → Option (Vector UInt8 fwSha256Len)) (body : List UInt8) :
    Device FwCall FwCall.Answer Board :=
  fun c s r t => board sha ErasesNothing c s r t ∧ InOrder body s c r

/-- The reply names the head check that the body fails. -/
def NamesHead (body : List UInt8) (reply : String × String) : Prop :=
  ∀ result, result = .rejectMetadata ∨ result = .rejectVersion →
    reply.2 = (uploadReplies result).body → checkImageHead (body.take fwImageHeadLen) = result

/-- The reply is right about the body: a success means that it is committed. -/
structure Honest (sha : Content → Option (Vector UInt8 fwSha256Len)) (body : List UInt8)
    (contentLen : Nat) (reply : String × String) (t : Board) : Prop where
  committed : reply.1 = "200 OK" → Committed sha contentLen t ∧ t.received <+: body
  head : NamesHead body reply

section Session

variable {body : List UInt8} {s t : Board}

/-- What was received stays the beginning of the body. -/
theorem received_begins {c : FwCall} {r : c.Answer} (h : carrying sha body c s r t)
    (hs : s.received <+: body) : t.received <+: body := by
  obtain ⟨hboard, horder⟩ := h
  cases c with
  | recv wanted =>
      cases r with
      | data bytes =>
          obtain ⟨-, rfl⟩ := hboard
          exact horder
      | timeout | failed =>
          obtain rfl := hboard
          exact hs
  | findOta | findFwMeta | metaRead _ _ | otaRead _ _ | otaSha256 => exact hboard.2 ▸ hs
  | metaErase off len =>
      obtain ⟨-, rfl⟩ | ⟨-, content, -, -, rfl⟩ := hboard <;> exact hs
  | metaWrite off bytes =>
      obtain ⟨content, -, rfl⟩ := hboard
      exact hs
  | otaBegin _ | otaEnd _ =>
      obtain ⟨-, h⟩ | ⟨-, h⟩ := hboard <;> obtain ⟨_, h⟩ := h
      · first | (obtain rfl := h; exact hs) | (obtain ⟨-, -, rfl⟩ := h; exact hs)
      · obtain rfl := h
        exact hs
  | otaWrite _ _ =>
      obtain ⟨-, session, -, -, rfl⟩ | ⟨-, content, rfl⟩ := hboard <;> exact hs
  | startCounters _ =>
      obtain rfl := hboard
      exact List.nil_prefix
  | deepSleepStart | restart => exact r.elim
  | _ =>
      obtain rfl := hboard
      exact hs

/-- What holds on the board holds with the connection. -/
theorem wp_carrying {α : Type} {p : Fw α} {G : FwCall → Board → Prop} {Q : α → Board → Prop}
    (h : p.wp (board sha ErasesNothing) G Q s) : p.wp (carrying sha body) G Q s :=
  wp_mono_device h (fun _ _ => id) fun _ _ _ _ _ hcall => hcall.1

/-- A rejection of the head by the loop is one of the body's head. -/
theorem wp_receiveImage_refused (handle : UInt32) (total received timeouts : Nat)
    (head : List UInt8) (hs : s.received <+: body)
    (hhead : head = s.received.take fwImageHeadLen) :
    (receiveImage handle total received timeouts head).wp (carrying sha body) (fun _ _ => True)
      (fun r _ => r.1 = .rejectMetadata ∨ r.1 = .rejectVersion →
        checkImageHead (body.take fwImageHeadLen) = r.1) s := by
  induction received, timeouts, head using receiveImage.induct total generalizing s with
  | case1 received timeouts head hmore ihretry ihdata =>
      rw [receiveImage, dif_pos hmore, wp_bind, recv, wp_perform]
      refine ⟨trivial, fun answer t ht => ?_⟩
      have hkept := received_begins ht hs
      cases answer with
      | timeout =>
          obtain rfl : t = s := ht.1
          by_cases hretry : timeouts < fwUploadRecvRetries
          · simpa [hretry] using ihretry hretry hs hhead
          · simp [hretry]
      | failed => simp
      | data chunk =>
          obtain ⟨⟨hwanted, rfl⟩, -⟩ := ht
          by_cases hclosed : chunk.length = 0
          · simp [hclosed]
          simp only [hclosed, dite_false]
          rw [wp_ite]
          split
          · -- The head was rejected.
            rename_i hreject
            rw [wp_bind]
            refine wp_mono (wp_trivial _ _) fun _ _ _ _ => ?_
            subst hhead
            exact (checkFilledHead_begins hkept hreject).symm
          rw [wp_bind, wp_perform]
          refine ⟨trivial, fun err t ht => ?_⟩
          have hwritten := received_begins ht hkept
          rw [wp_ite]
          split
          · -- The write failed.
            rw [wp_bind]
            refine wp_mono (wp_trivial _ _) fun _ _ _ hnamed => ?_
            revert hnamed
            split <;> simp
          rename_i herr
          obtain ⟨⟨-, session, -, -, rfl⟩ | ⟨herr', -⟩, -⟩ := ht
          · rw [wp_bind, wp_perform]
            refine ⟨trivial, fun _ t ht => ?_⟩
            obtain rfl : t = _ := ht.1
            refine ihdata chunk hclosed hwritten ?_
            rw [hhead, fillHead_take]
          · exact absurd herr' herr
  | case2 received timeouts head hdone =>
      rw [receiveImage, dif_neg hdone]
      intro hnamed
      by_cases hshort : head.length < fwImageHeadLen
      · simp [if_pos hshort, checkImageHead_short hshort] at hnamed
      · simp [if_neg hshort] at hnamed

/-- A commit does not name a part of the image. -/
theorem wp_commitMetaRecord_result {D : Device FwCall FwCall.Answer Board} (otaSize : UInt32)
    (total : Nat) (head : List UInt8) (s : Board) :
    (commitMetaRecord otaSize total head).wp D (fun _ _ => True)
      (fun result _ => result = .ok ∨ result = .rejectFlash) s := by
  rw [commitMetaRecord, wp_bind]
  refine wp_mono (wp_trivial _ _) fun sha256 _ _ => ?_
  rw [wp_ite]
  split
  · exact .inr rfl
  rw [wp_bind]
  refine wp_mono (wp_trivial _ _) fun isCommitted _ _ => ?_
  rw [wp_ite]
  split
  · rw [wp_bind]
    exact wp_mono (wp_trivial _ _) fun _ _ _ => .inr rfl
  · rw [wp_bind]
    refine wp_mono (wp_trivial _ _) fun _ _ _ => ?_
    rw [wp_bind]
    exact wp_mono (wp_trivial _ _) fun _ _ _ => .inl rfl

theorem wp_runUpload_refused (ota : Option OtaPartition) (contentLen : Nat)
    (hs : s.received = []) :
    (runUpload ota contentLen).wp (carrying sha body) (fun _ _ => True)
      (fun outcome _ => outcome.1 = .rejectMetadata ∨ outcome.1 = .rejectVersion →
        checkImageHead (body.take fwImageHeadLen) = outcome.1) s := by
  cases ota with
  | none => simp [runUpload]
  | some partition =>
  rw [runUpload, wp_ite]
  split
  · simp
  rw [wp_bind]
  have herase : eraseFwMetaRecord.wp (board sha ErasesNothing) (fun _ _ => True)
      (fun _ t => t.received = []) s :=
    wp_eraseFwMetaRecord (fun _ => trivial) (fun _ => hs) (fun _ => hs) fun _ _ _ _ _ => hs
  refine wp_mono (wp_carrying herase) fun err t ht => ?_
  rw [wp_ite]
  split
  · simp
  rw [wp_bind, wp_perform]
  refine ⟨trivial, fun _ u hu => ?_⟩
  obtain rfl : u = t := hu.1
  rw [wp_bind, wp_perform]
  refine ⟨trivial, fun opened v hv => ?_⟩
  have hreceived : v.received = [] := by
    obtain ⟨⟨-, content, rfl⟩ | ⟨-, content, rfl⟩, -⟩ := hv <;> exact ht
  rw [wp_ite]
  split
  · simp
  rw [wp_bind]
  refine wp_mono (wp_receiveImage_refused opened.2 contentLen 0 0 []
    (by rw [hreceived]; exact List.nil_prefix) (by rw [hreceived]; rfl)) fun received _ hhead => ?_
  rw [wp_ite]
  split
  · exact hhead
  rw [wp_bind]
  refine wp_mono (wp_trivial _ _) fun err _ _ => ?_
  rw [wp_ite]
  split
  · simp
  rw [wp_bind]
  refine wp_mono (wp_commitMetaRecord_result _ _ _ _) fun result _ hresult => ?_
  rintro (hnamed | hnamed) <;> rcases hresult with h | h <;>
    exact absurd (h.symm.trans hnamed) (by decide)

/-- The calls that follow the result of an upload. -/
def AfterResult (result : UploadResult) : FwCall → Prop
  | .sendText status body =>
    status = (uploadReplies result).status ∧ body = (uploadReplies result).body
  | .otaAbort _ | .setUploadState _ | .copyInstalledVersion | .startRestartTimer | .restart
  | .asyncComplete => True
  | _ => False

theorem replyUpload_afterResult (outcome : UploadResult × Option UInt32) :
    (replyUpload outcome).Only (AfterResult outcome.1) := by
  have hsend : (sendReply outcome.1).Only (AfterResult outcome.1) :=
    (only_perform _).2 ⟨rfl, rfl⟩
  rw [replyUpload]
  split
  · refine Only.bind ?_ fun _ => Only.bind ⟨trivial, fun _ => trivial⟩ fun _ => hsend
    cases outcome.2 with
    | none => trivial
    | some handle => exact Only.bind ⟨trivial, fun _ => trivial⟩ fun _ => trivial
  · rename_i hok
    rw [not_not.1 hok] at hsend ⊢
    refine Only.bind ⟨trivial, fun _ => trivial⟩ fun _ =>
      Only.bind ⟨trivial, fun _ => trivial⟩ fun _ => Only.bind hsend fun _ => ?_
    exact Only.bind ⟨trivial, fun _ => trivial⟩ fun _ =>
      Only.ite (Only.bind ⟨trivial, fun _ => trivial⟩ fun never => never.elim) trivial

/-- Each outcome has a text of its own. -/
theorem uploadReplies_body_injective {a b : UploadResult}
    (h : (uploadReplies a).body = (uploadReplies b).body) : a = b := by
  cases a <;> cases b <;> first | rfl | exact absurd h (by decide)

theorem namesHead_of_refused {result : UploadResult}
    (h : result = .rejectMetadata ∨ result = .rejectVersion →
      checkImageHead (body.take fwImageHeadLen) = result) (status : String) :
    NamesHead body (status, (uploadReplies result).body) := by
  intro named hnamed hbody
  obtain rfl := uploadReplies_body_injective hbody
  exact h hnamed

/-- While an upload runs, what was received begins the body and each reply names the right check. -/
structure Tells (body : List UInt8) (t : Board) : Prop where
  received : t.received <+: body
  head : ∀ reply ∈ t.replies, NamesHead body reply

theorem Tells.call {result : UploadResult} {c : FwCall} {r : c.Answer} (h : Tells body s)
    (hresult : result = .rejectMetadata ∨ result = .rejectVersion →
      checkImageHead (body.take fwImageHeadLen) = result)
    (hc : AfterResult result c) (hcall : carrying sha body c s r t) : Tells body t := by
  refine ⟨received_begins hcall h.received, ?_⟩
  cases c with
  | sendText status text =>
      obtain ⟨rfl, rfl⟩ := hc
      obtain rfl : t = _ := hcall.1
      intro reply hreply
      rcases List.mem_append.1 hreply with hold | hnew
      · exact h.head reply hold
      · rw [List.mem_singleton.1 hnew]
        exact namesHead_of_refused hresult _
  | _ =>
      rw [board_replies hcall.1 (by simp)]
      exact h.head

/-- Each reply of an upload is right about the body of its request. -/
theorem wp_processUpload_honest {contentLen : Nat} (h : Fresh s) :
    (processUpload s.otaPartition contentLen).wp (carrying sha body)
      (fun _ t => ∀ reply ∈ t.replies, Honest sha body contentLen reply t)
      (fun _ t => ∀ reply ∈ t.replies, Honest sha body contentLen reply t) s := by
  have htells : (processUpload s.otaPartition contentLen).wp (carrying sha body)
      (fun _ t => t.replies = [] ∨ Tells body t) (fun _ t => Tells body t) s := by
    rw [processUpload, wp_bind, wp_perform]
    refine ⟨.inl h.replies, fun _ t ht => ?_⟩
    obtain rfl : t = _ := ht.1
    rw [wp_bind]
    have huploaded : (runUpload s.otaPartition contentLen).wp (carrying sha body)
        (fun _ t => t.replies = []) (Uploaded sha contentLen s) { s with received := [] } :=
      wp_carrying (wp_runUpload_uploaded h rfl)
    have hboth := wp_and huploaded (wp_runUpload_refused s.otaPartition contentLen rfl)
    have hbegins : ([] : List UInt8) <+: body := List.nil_prefix
    refine wp_conseq (wp_keep (A := fun t => t.received <+: body) hboth hbegins
      (fun _ _ hG _ => hG.1) fun _ _ _ _ _ hbegins hcall => received_begins hcall hbegins)
      (fun _ _ => .inl) ?_
    rintro outcome t ⟨⟨huploaded, hrefused⟩, hbegins⟩
    have honly : (replyUpload outcome >>= fun _ => perform FwCall.asyncComplete).Only
        (AfterResult outcome.1) :=
      Only.bind (replyUpload_afterResult outcome) fun _ => (only_perform _).2 trivial
    have hempty : Tells body t := by
      refine ⟨hbegins, fun reply hreply => ?_⟩
      rw [huploaded.replies] at hreply
      cases hreply
    exact wp_conseq (wp_keep (honly.wp_guard t) hempty (fun _ _ _ => .inr)
      fun _ _ _ _ hc htells hcall => htells.call hrefused hc hcall) (fun _ _ => id)
      fun _ _ h => h.2
  refine wp_conseq (wp_and (wp_carrying (wp_processUpload_answered h)) htells) ?_ ?_
  · rintro c t ⟨hanswered, hquiet | htold⟩ reply hreply
    · rw [hquiet] at hreply
      cases hreply
    · exact ⟨fun hok => ⟨(hanswered reply hreply).committed hok, htold.received⟩,
        htold.head reply hreply⟩
  · rintro _ t ⟨⟨sent, hsent, hanswered⟩, htold⟩ reply hreply
    have hsame := hreply
    rw [hsent, List.mem_singleton] at hsame
    subst hsame
    exact ⟨fun hok => ⟨hanswered.committed hok, htold.received⟩, htold.head reply hreply⟩

end Session

/-! ## The board over several sessions -/

/-- The board of a session, with the logs of the ones before it. -/
def Board.after (past b : Board) : Board :=
  { b with
    opened := past.opened ++ b.opened
    closed := past.closed ++ b.closed
    eraseLog := past.eraseLog ++ b.eraseLog
    replies := past.replies ++ b.replies }

/-- A session that starts now. -/
def Board.fresh (b : Board) : Board :=
  { b with opened := [], closed := [], eraseLog := [], replies := [] }

theorem after_fresh (b : Board) : b.after b.fresh = b := by
  unfold Board.after Board.fresh
  simp only [List.append_nil]

theorem fresh_isFresh (b : Board) : Fresh b.fresh := ⟨rfl, rfl, rfl, rfl⟩

section After

variable {past b t : Board}

/-- The logs of earlier sessions do not matter. -/
theorem board_after {failedErase : UInt8 → UInt8 → Prop} {c : FwCall} {r : c.Answer}
    (h : board sha failedErase c (past.after b) r t) :
    ∃ u, t = past.after u ∧ board sha failedErase c b r u := by
  cases c with
  | findOta | findFwMeta | metaRead _ _ | otaRead _ _ | otaSha256 =>
      obtain ⟨hr, rfl⟩ := h
      exact ⟨b, rfl, hr, rfl⟩
  | metaErase off len =>
      obtain ⟨hr, rfl⟩ | ⟨hr, content, hsame, hbytes, rfl⟩ := h
      · refine ⟨_, ?_, .inl ⟨hr, rfl⟩⟩
        unfold Board.after
        split <;> simp only [List.append_assoc]
      · refine ⟨_, ?_, .inr ⟨hr, content, hsame, hbytes, rfl⟩⟩
        unfold Board.after
        split <;> simp only [List.append_assoc]
  | metaWrite off bytes =>
      obtain ⟨content, hsame, rfl⟩ := h
      exact ⟨_, rfl, content, hsame, rfl⟩
  | otaBegin size =>
      obtain ⟨hr, content, rfl⟩ | ⟨hr, content, rfl⟩ := h
      · refine ⟨_, ?_, .inl ⟨hr, content, rfl⟩⟩
        unfold Board.after
        simp only [List.append_assoc]
      · exact ⟨_, rfl, .inr ⟨hr, content, rfl⟩⟩
  | otaWrite handle bytes =>
      obtain ⟨hr, session, hsession, hhandle, rfl⟩ | ⟨hr, content, rfl⟩ := h
      · exact ⟨_, rfl, .inl ⟨hr, session, hsession, hhandle, rfl⟩⟩
      · exact ⟨_, rfl, .inr ⟨hr, content, rfl⟩⟩
  | otaEnd handle =>
      obtain ⟨hr, session, hsession, hhandle, rfl⟩ | ⟨hr, content, rfl⟩ := h
      · refine ⟨_, ?_, .inl ⟨hr, session, hsession, hhandle, rfl⟩⟩
        unfold Board.after
        simp only [List.append_assoc]
      · refine ⟨_, ?_, .inr ⟨hr, content, rfl⟩⟩
        unfold Board.after
        simp only [List.append_assoc]
  | otaAbort handle | sendText _ _ =>
      obtain rfl := h
      refine ⟨_, ?_, rfl⟩
      unfold Board.after
      simp only [List.append_assoc]
  | recv wanted =>
      cases r with
      | data bytes =>
          obtain ⟨hlength, rfl⟩ := h
          exact ⟨_, rfl, hlength, rfl⟩
      | timeout | failed =>
          obtain rfl := h
          exact ⟨_, rfl, rfl⟩
  | deepSleepStart | restart => exact r.elim
  | _ =>
      obtain rfl := h
      exact ⟨_, rfl, rfl⟩

theorem inOrder_after {body : List UInt8} {c : FwCall} {r : c.Answer}
    (h : InOrder body (past.after b) c r) : InOrder body b c r := h

theorem Committed.after {contentLen : Nat} (h : Committed sha contentLen b) :
    Committed sha contentLen (past.after b) := by
  obtain ⟨hlength, hstored, digest, hb⟩ := h
  exact ⟨hlength, hstored, digest, hb.hasFwMeta, hb.stored, hb.valid, hb.notForced,
    hb.otaMatches.magic, hb.otaMatches.embeddedMagic, hb.otaMatches.version,
    hb.otaMatches.digest⟩

end After

/-! ## The tasks and what they send -/

/-- A response that was sent. -/
structure Response where
  request : UpdaterRequest
  status : String
  body : String

/-- What a call sends. -/
def UpdaterCall.response? : UpdaterCall → Option Response
  | .fw request (.sendText status body) | .respond request status body =>
    some ⟨request, status, body⟩
  | _ => none

/-- The shared state, and the responses of both tasks. -/
structure Wire where
  shared : Shared
  responses : List Response

/-- The connection of a request gives the bytes that the request carries. -/
def Carries (bodies : Nat → List UInt8) (s : Shared) : (c : UpdaterCall) → c.Answer → Prop
  | .fw request c, r => InOrder (bodies request.id) s.board c r
  | _, _ => True

/-- The device of the tasks when each request carries a body. -/
def wired (sha : Content → Option (Vector UInt8 fwSha256Len)) (bodies : Nat → List UInt8) :
    Device UpdaterCall UpdaterCall.Answer Wire :=
  fun c w r u => tasks sha ErasesNothing c w.shared r u.shared ∧ Carries bodies w.shared c r ∧
    u.responses = w.responses ++ c.response?.toList

/-- The next request, or the next upload. -/
def WireServes (ota : Option OtaPartition) (task : UpdaterTask) (_ : EspErr) (w : Wire)
    (p : Task EspErr) (u : Wire) : Prop :=
  Serves ota w.shared task p u.shared ∧ u.responses = w.responses

abbrev WiredTasks : Type := Threads UpdaterTask UpdaterCall UpdaterCall.Answer EspErr Wire

def startWired (b : Board) (version : Option Version) : WiredTasks :=
  ⟨fun _ => .ret .ok, startShared b version, []⟩

/-- A step of a task. -/
def WiredStep (sha : Content → Option (Vector UInt8 fwSha256Len)) (bodies : Nat → List UInt8)
    (ota : Option OtaPartition) : WiredTasks → WiredTasks → Prop :=
  ThreadsStep (wired sha bodies) (WireServes ota) fun _ _ _ => True

/-- The tasks without their responses. -/
def WiredTasks.tasks (x : WiredTasks) : Tasks := ⟨x.left, x.state.shared⟩

section Runs

variable {bodies : Nat → List UInt8} {ota : Option OtaPartition} {b : Board}
  {version : Option Version} {w u : Wire}

theorem tasksRun_of_wired {x y : WiredTasks}
    (hrun : Relation.ReflTransGen (WiredStep sha bodies ota) x y) :
    TasksRun sha ErasesNothing ota (fun _ _ _ => True) x.tasks y.tasks :=
  run_project Wire.shared (fun h => h.1) (fun h => h.1) hrun

/-! ### The server task -/

/-- The calls of the server task: no flash, and no success for an upload. -/
def ServerCall : UpdaterCall → Prop
  | .respond request status body => request.path = .update →
    status ≠ "200 OK" ∧ ∀ got, NamesHead got (status, body)
  | .fw _ (.setUploadState _) | .fw _ .copyInstalledVersion | .fw _ .asyncComplete => True
  | .fw _ _ | .queueReceive => False
  | _ => True

theorem namesHead_of_ne {status body : String}
    (hmetadata : body ≠ (uploadReplies .rejectMetadata).body)
    (hversion : body ≠ (uploadReplies .rejectVersion).body) (got : List UInt8) :
    NamesHead got (status, body) := by
  rintro result (rfl | rfl) hbody
  · exact absurd hbody hmetadata
  · exact absurd hbody hversion

theorem refuse_serverCall (request : UpdaterRequest) {status body : String}
    (hstatus : status ≠ "200 OK") (hmetadata : body ≠ (uploadReplies .rejectMetadata).body)
    (hversion : body ≠ (uploadReplies .rejectVersion).body) :
    (refuse request status body).Only ServerCall :=
  Only.bind ⟨trivial, fun _ => trivial⟩ fun _ =>
    Only.bind ⟨fun _ => ⟨hstatus, namesHead_of_ne hmetadata hversion⟩, fun _ => trivial⟩
      fun _ => trivial

theorem handleUpload_serverCall (request : UpdaterRequest) :
    (handleUpload ota request).Only ServerCall := by
  refine Only.bind ⟨trivial, fun _ => trivial⟩ fun isBusy => Only.ite ?_ (Only.ite ?_ ?_)
  · exact refuse_serverCall request (by decide) (by decide) (by decide)
  · exact Only.bind ⟨trivial, fun _ => trivial⟩ fun _ =>
      refuse_serverCall request (by decide) (by decide) (by decide)
  · refine Only.bind ⟨trivial, fun _ => trivial⟩ fun err => Only.ite ?_ ?_
    · exact Only.bind ⟨trivial, fun _ => trivial⟩ fun _ =>
        refuse_serverCall request (by decide) (by decide) (by decide)
    · refine Only.bind ⟨trivial, fun _ => trivial⟩ fun isSent => Only.ite ?_ trivial
      exact Only.bind ⟨trivial, fun _ => trivial⟩ fun _ =>
        Only.bind ⟨trivial, fun _ => trivial⟩ fun _ =>
          Only.bind ⟨trivial, fun _ => trivial⟩ fun _ => trivial

theorem handleStatus_serverCall {request : UpdaterRequest} (hpath : request.path = .status) :
    (handleStatus request).Only ServerCall := by
  refine Only.bind ⟨trivial, fun _ => trivial⟩ fun _ =>
    Only.bind ⟨trivial, fun _ => trivial⟩ fun _ => Only.bind ⟨?_, fun _ => trivial⟩ fun _ => trivial
  intro hupdate
  rw [hpath] at hupdate
  cases hupdate

/-- The server task makes no other calls. -/
theorem server_only {x : WiredTasks}
    (hrun : Relation.ReflTransGen (WiredStep sha bodies ota) (startWired b version) x) :
    (x.left .server).Only ServerCall := by
  refine Only.mono (only_of_run (P := fun task c => task = .server → ServerCall c) ?_ hrun
    (fun _ => trivial) .server) fun _ h => h rfl
  rintro task err w p u ⟨hserves, -⟩
  generalize u.shared = s at hserves
  cases hserves with
  | update contentLen => exact Only.mono (handleUpload_serverCall _) fun _ h _ => h
  | status => exact Only.mono (handleStatus_serverCall rfl) fun _ h _ => h
  | worker => exact only_of_forall (fun _ h => (by cases h)) _

/-! ### The worker -/

/-- Each response to an upload is right about the body of its request. -/
def Worth (sha : Content → Option (Vector UInt8 fwSha256Len)) (bodies : Nat → List UInt8)
    (w : Wire) : Prop :=
  ∀ response ∈ w.responses, response.request.path = .update →
    Honest sha (bodies response.request.id) response.request.contentLen.toNat
      (response.status, response.body) w.shared.board

/-- Each success is in the log of the board. -/
def Logged (w : Wire) : Prop :=
  ∀ response ∈ w.responses, response.request.path = .update → response.status = "200 OK" →
    (response.status, response.body) ∈ w.shared.board.replies

/-- What a session keeps at its calls and at its end. -/
def SessionHonest (sha : Content → Option (Vector UInt8 fwSha256Len)) (bodies : Nat → List UInt8)
    (request : UpdaterRequest) (t : Board) : Prop :=
  ∀ reply ∈ t.replies, Honest sha (bodies request.id) request.contentLen.toNat reply t

/-- The responses of a session are those on its board; the ones before it are no successes. -/
def FromSession (bodies : Nat → List UInt8) (request : UpdaterRequest) (b : Board)
    (response : Response) : Prop :=
  response.request = request ∧ (response.status, response.body) ∈ b.replies ∨
    response.status ≠ "200 OK" ∧
      NamesHead (bodies response.request.id) (response.status, response.body)

/-- Where the worker stands: between two uploads, or in the session of one. -/
inductive Stands (sha : Content → Option (Vector UInt8 fwSha256Len)) (bodies : Nat → List UInt8)
    (ota : Option OtaPartition) (w : Wire) : Task EspErr → Prop where
  | between {p : Task EspErr} : (∃ err, p = .ret err) ∨ p = runUploadWorker ota →
      Worth sha bodies w → Logged w → Stands sha bodies ota w p
  | within {request : UpdaterRequest} {p : Fw Unit} {past b : Board} :
      w.shared.board = past.after b →
      p.wp (carrying sha (bodies request.id)) (fun _ => SessionHonest sha bodies request)
        (fun _ => SessionHonest sha bodies request) b →
      (∀ response ∈ w.responses, response.request.path = .update →
        FromSession bodies request b response) →
      Stands sha bodies ota w (forRequest request p >>= fun _ => .ret .ok)

theorem Stands.worth {p : Task EspErr} (h : Stands sha bodies ota w p) : Worth sha bodies w := by
  cases h with
  | between _ hworth _ => exact hworth
  | @within request p past b hboard hwp hfrom =>
      have hhonest : SessionHonest sha bodies request b := by
        cases p with
        | ret _ => exact hwp
        | call c k => exact hwp.1
      intro response hresponse hpath
      rcases hfrom response hresponse hpath with ⟨rfl, hreply⟩ | ⟨hstatus, hhead⟩
      · obtain ⟨hcommitted, hhead⟩ := hhonest _ hreply
        rw [hboard]
        exact ⟨fun hok => ⟨(hcommitted hok).1.after, (hcommitted hok).2⟩, hhead⟩
      · exact ⟨fun hok => absurd hok hstatus, hhead⟩

theorem Stands.logged {p : Task EspErr} (h : Stands sha bodies ota w p) : Logged w := by
  cases h with
  | between _ _ hlogged => exact hlogged
  | within hboard _ hfrom =>
      intro response hresponse hpath hok
      rcases hfrom response hresponse hpath with ⟨-, hreply⟩ | ⟨hstatus, -⟩
      · rw [hboard]
        exact List.mem_append_right _ hreply
      · exact absurd hok hstatus

/-- A step that leaves the board alone and adds no success. -/
theorem Stands.keep {p : Task EspErr} (h : Stands sha bodies ota w p)
    (hboard : u.shared.board = w.shared.board)
    (hresponses : ∀ response ∈ u.responses, response ∈ w.responses ∨
      (response.request.path = .update → response.status ≠ "200 OK" ∧
        NamesHead (bodies response.request.id) (response.status, response.body))) :
    Stands sha bodies ota u p := by
  cases h with
  | between hp hworth hlogged =>
      refine .between hp ?_ ?_
      · intro response hresponse hpath
        rcases hresponses response hresponse with hold | hnew
        · rw [hboard]
          exact hworth response hold hpath
        · exact ⟨fun hok => absurd hok (hnew hpath).1, (hnew hpath).2⟩
      · intro response hresponse hpath hok
        rcases hresponses response hresponse with hold | hnew
        · rw [hboard]
          exact hlogged response hold hpath hok
        · exact absurd hok (hnew hpath).1
  | within hafter hwp hfrom =>
      refine .within (hboard.trans hafter) hwp fun response hresponse hpath => ?_
      rcases hresponses response hresponse with hold | hnew
      · exact hfrom response hold hpath
      · exact .inr (hnew hpath)

/-- A call of the server task leaves the board alone. -/
theorem server_board {c : UpdaterCall} {r : c.Answer} {s t : Shared} (hc : ServerCall c)
    (h : tasks sha ErasesNothing c s r t) : t.board = s.board := by
  cases c with
  | fw request c =>
      obtain ⟨b, hboard, -, rfl⟩ := h
      show ({ s with board := b }.act request c).board = s.board
      cases c with
      | setUploadState _ | asyncComplete =>
          obtain rfl : b = s.board := hboard
          rfl
      | copyInstalledVersion =>
          obtain rfl : b = s.board := hboard
          show (if request.path = .status then { s with copied := some s.installed } else s).board = _
          split <;> rfl
      | _ => exact hc.elim
  | claim request =>
      obtain ⟨-, rfl⟩ := h
      split <;> rfl
  | queueSend request =>
      dsimp only [tasks] at h
      split at h <;> obtain ⟨-, rfl⟩ := h <;> rfl
  | queueReceive => exact hc.elim
  | readStatus =>
      obtain ⟨-, rfl⟩ := h
      rfl
  | asyncBegin _ | setHdr _ _ _ | respond _ _ _ | sendError _ =>
      obtain rfl := h
      rfl

theorem server_keeps {p : Task EspErr} {c : UpdaterCall} {r : c.Answer} (hc : ServerCall c)
    (hcall : wired sha bodies c w r u) (h : Stands sha bodies ota w p) :
    Stands sha bodies ota u p := by
  obtain ⟨htasks, -, hresponses⟩ := hcall
  refine h.keep (server_board hc htasks) fun response hresponse => ?_
  rw [hresponses] at hresponse
  rcases List.mem_append.1 hresponse with hold | hnew
  · exact .inl hold
  · refine .inr fun hpath => ?_
    cases c with
    | respond request status body =>
        obtain rfl : response = _ := List.mem_singleton.1 hnew
        obtain ⟨hstatus, hhead⟩ := hc hpath
        exact ⟨hstatus, hhead _⟩
    | fw request c =>
        cases c with
        | sendText status body => exact hc.elim
        | _ => cases hnew
    | _ => cases hnew

/-- A call of a session is a call on its board. -/
theorem within_call {request : UpdaterRequest} {past b : Board} {c : FwCall} {k : c.Answer → Fw Unit}
    {r : c.Answer} (hafter : w.shared.board = past.after b)
    (hwp : (Prog.call c k).wp (carrying sha (bodies request.id))
      (fun _ => SessionHonest sha bodies request) (fun _ => SessionHonest sha bodies request) b)
    (hfrom : ∀ response ∈ w.responses, response.request.path = .update →
      FromSession bodies request b response)
    (hcall : wired sha bodies (.fw request c) w r u) :
    Stands sha bodies ota u (forRequest request (k r) >>= fun _ => .ret .ok) := by
  obtain ⟨⟨t, hboard, -, hshared⟩, horder, hresponses⟩ := hcall
  rw [hafter] at hboard
  obtain ⟨b', rfl, hstep⟩ := board_after hboard
  have hinOrder : InOrder (bodies request.id) b c r := by
    have hpast : InOrder (bodies request.id) w.shared.board c r := horder
    rw [hafter] at hpast
    exact inOrder_after hpast
  have hboard' : u.shared.board = past.after b' := by
    rw [hshared]
    exact (act_kept { w.shared with board := past.after b' } request c).1
  refine .within hboard' (hwp.2 r b' ⟨hstep, hinOrder⟩) fun response hresponse hpath => ?_
  rw [hresponses] at hresponse
  rcases List.mem_append.1 hresponse with hold | hnew
  · rcases hfrom response hold hpath with ⟨hsame, hreply⟩ | hother
    · refine .inl ⟨hsame, ?_⟩
      by_cases hsend : ∀ status body, c ≠ .sendText status body
      · rwa [board_replies hstep hsend]
      · simp only [ne_eq, not_forall, not_not] at hsend
        obtain ⟨status, body, rfl⟩ := hsend
        obtain rfl : b' = _ := hstep
        exact List.mem_append_left _ hreply
    · exact .inr hother
  · cases c with
    | sendText status body =>
        obtain rfl : response = _ := List.mem_singleton.1 hnew
        obtain rfl : b' = _ := hstep
        exact .inl ⟨rfl, List.mem_append_right _ (List.mem_singleton_self _)⟩
    | _ => cases hnew

/-- The next upload starts with no success before it. -/
theorem take_call {request : UpdaterRequest} (hsingle : Single w.shared)
    (hota : w.shared.board.otaPartition = ota) (hworth : Worth sha bodies w) (hlogged : Logged w)
    (hcall : wired sha bodies .queueReceive w request u) :
    Stands sha bodies ota u
      (forRequest request (processUpload ota request.contentLen.toNat) >>= fun _ => .ret .ok) := by
  obtain ⟨⟨rest, hqueue, hshared⟩, -, hresponses⟩ := hcall
  have hboard : u.shared.board = w.shared.board := by rw [hshared]; rfl
  have hbusy : w.shared.state = .uploading :=
    hsingle.busy_of_holding (hsingle.queued request (hqueue ▸ List.mem_cons_self))
  have hnone : u.responses = w.responses := hresponses.trans (List.append_nil _)
  subst hota
  refine .within (b := w.shared.board.fresh) (hboard.trans (after_fresh w.shared.board).symm)
    (wp_processUpload_honest (fresh_isFresh w.shared.board)) fun response hresponse hpath => ?_
  rw [hnone] at hresponse
  refine .inr ⟨fun hok => ?_, (hworth response hresponse hpath).head⟩
  have hdone := hsingle.succeeded _ (hlogged response hresponse hpath hok) hok
  rw [hbusy] at hdone
  cases hdone

theorem worker_keeps {c : UpdaterCall} {k : c.Answer → Task EspErr} {r : c.Answer}
    (hsingle : Single w.shared) (hota : w.shared.board.otaPartition = ota)
    (hcall : wired sha bodies c w r u) (h : Stands sha bodies ota w (.call c k)) :
    Stands sha bodies ota u (k r) := by
  generalize hp : Prog.call c k = p at h
  cases h with
  | between hrest hworth hlogged =>
      rcases hrest with ⟨err, rfl⟩ | rfl
      · cases hp
      · obtain ⟨rfl, hk⟩ := Prog.call.inj hp
        obtain rfl := eq_of_heq hk
        exact take_call hsingle hota hworth hlogged hcall
  | @within request p past b hafter hwp hfrom =>
      cases p with
      | ret _ => cases hp
      | call c' k' =>
          obtain ⟨rfl, hk⟩ := Prog.call.inj hp
          obtain rfl := eq_of_heq hk
          exact within_call hafter hwp hfrom hcall

/-! ### Every run -/

/-- The partition table never changes. -/
theorem tasks_otaPartition {c : UpdaterCall} {r : c.Answer} {s t : Shared}
    (h : tasks sha ErasesNothing c s r t) : t.board.otaPartition = s.board.otaPartition := by
  cases c with
  | fw request c =>
      obtain ⟨b, hboard, -, rfl⟩ := h
      show ({ s with board := b }.act request c).board.otaPartition = _
      rw [(act_kept _ request c).1]
      exact board_otaPartition hboard
  | claim request =>
      obtain ⟨-, rfl⟩ := h
      split <;> rfl
  | queueSend request =>
      dsimp only [tasks] at h
      split at h <;> obtain ⟨-, rfl⟩ := h <;> rfl
  | queueReceive =>
      obtain ⟨rest, -, rfl⟩ := h
      rfl
  | readStatus =>
      obtain ⟨-, rfl⟩ := h
      rfl
  | asyncBegin _ | setHdr _ _ _ | respond _ _ _ | sendError _ =>
      obtain rfl := h
      rfl

/-- In every run the worker stands in a session or between two, with honest responses so far. -/
theorem stands_of_run (hb : b.replies = []) (hota : b.otaPartition = ota) {x : WiredTasks}
    (hrun : Relation.ReflTransGen (WiredStep sha bodies ota) (startWired b version) x) :
    Stands sha bodies ota x.state (x.left .worker) ∧ x.state.shared.board.otaPartition = ota := by
  induction hrun with
  | refl =>
      refine ⟨.between (.inl ⟨.ok, rfl⟩) ?_ ?_, hota⟩ <;> intro response hresponse <;>
        cases hresponse
  | @tail x y hxy hstep ih =>
      obtain ⟨hstands, hpartition⟩ := ih
      have hsingle := upload_single (upload_wp hb (tasksRun_of_wired hxy) .worker)
      obtain ⟨task, hstep⟩ := hstep
      cases task with
      | server =>
          have honly := server_only hxy
          cases hstep with
          | call hleft _ hcall =>
              rw [hleft] at honly
              refine ⟨server_keeps honly.1 hcall hstands, ?_⟩
              exact (tasks_otaPartition hcall.1).trans hpartition
          | @next _ _ u hleft hnext =>
              obtain ⟨hserves, hresponses⟩ := hnext
              have hboard : u.shared.board = x.state.shared.board := by
                generalize u.shared = s at hserves
                cases hserves <;> rfl
              refine ⟨hstands.keep hboard fun response hresponse => ?_, ?_⟩
              · rw [hresponses] at hresponse
                exact .inl hresponse
              · exact (congrArg Board.otaPartition hboard).trans hpartition
      | worker =>
          cases hstep with
          | call hleft _ hcall =>
              rw [hleft] at hstands
              refine ⟨?_, (tasks_otaPartition hcall.1).trans hpartition⟩
              simpa only [Function.update_self] using worker_keeps hsingle hpartition hcall hstands
          | @next _ _ u hleft hnext =>
              obtain ⟨hserves, hresponses⟩ := hnext
              have hworth := hstands.worth
              have hlogged := hstands.logged
              obtain ⟨shared, responses⟩ := u
              obtain rfl : responses = x.state.responses := hresponses
              generalize hs : shared = s at hserves
              cases hserves
              simp only [Function.update_self]
              subst hs
              exact ⟨.between (.inr rfl) hworth hlogged, hpartition⟩

end Runs

end StripTuner.Updater
