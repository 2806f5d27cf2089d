import StripTuner.Updater.UploadPage

/-!
# The page and the updater

A page beside the tasks of the updater and all their other clients, whose requests may arrive at any
time. What the page shows of its upload is true of its own file and of the board, then and for as
long as it shows it.
-/

namespace StripTuner.Updater

open ByteLayout DeviceCalls DeviceCalls.Prog FlashRegion FwMeta Relation

variable {sha : Content → Option (Vector UInt8 fwSha256Len)} {bodies : Nat → List UInt8}
  {ota : Option OtaPartition} {b : Board} {version : Option Version}

/-! ## The site -/

/-- The server task starts to work on the request that has arrived. -/
def WiredTasks.serve (x : WiredTasks) (handler : Task EspErr) : WiredTasks :=
  ⟨Function.update x.left .server handler, x.state.shared.arrive, x.state.responses⟩

/-- The updater and the page, with the page's request that has arrived, the bytes that the page has
sent last, and the request that was answered last. -/
structure UploadSite where
  tasks : WiredTasks
  page : UploadPage
  request : Option UpdaterRequest
  posted : Option (List UInt8)
  answered : Option UpdaterRequest

/-- The bytes that the page sends. -/
def UploadPage.sending (page : UploadPage) : Option (List UInt8) :=
  match page.transfer with
  | some (.update file) => some file.content
  | _ => none

namespace UploadSite

def board (x : UploadSite) : Board := x.tasks.state.shared.board

/-- The request that arrives next. -/
def next (x : UploadSite) (path : UpdaterPath) (contentLen : UInt32) : UpdaterRequest :=
  ⟨x.tasks.state.shared.arrived, path, contentLen⟩

def ask (x : UploadSite) : UploadSite :=
  { x with
    tasks := x.tasks.serve (handleStatus (x.next .status 0))
    request := some (x.next .status 0) }

def post (ota : Option OtaPartition) (x : UploadSite) (file : UploadFile) : UploadSite :=
  let request := x.next .update (UInt32.ofNat file.content.length)
  { x with tasks := x.tasks.serve (handleUpload ota request), request := some request }

def load (x : UploadSite) (transfer : Transfer) (response : Response) : UploadSite :=
  let page := UploadPage.onLoad response.status response.body transfer
  { x with
    page := page
    request := none
    posted := page.sending.or x.posted
    answered := some response.request }

end UploadSite

/-- A step of the updater, which may serve anybody's requests, or of the page. A request of the page
arrives when the server task takes it, and may fail before that, after that or never. -/
inductive SiteStep (sha : Content → Option (Vector UInt8 fwSha256Len)) (bodies : Nat → List UInt8)
    (ota : Option OtaPartition) (x : UploadSite) : UploadSite → Prop where
  | tasks {t : WiredTasks} : WiredStep sha bodies ota x.tasks t →
      SiteStep sha bodies ota x { x with tasks := t }
  | click (file : Option UploadFile) : x.page.transfer = none →
      SiteStep sha bodies ota x { x with page := x.page.onClick file }
  | ask {file : UploadFile} {err : EspErr} : x.page.transfer = some (.status file) →
      x.request = none → x.tasks.left .server = .ret err → SiteStep sha bodies ota x x.ask
  | post {file : UploadFile} {err : EspErr} : x.page.transfer = some (.update file) →
      x.request = none → x.tasks.left .server = .ret err →
      bodies x.tasks.state.shared.arrived = file.content →
      SiteStep sha bodies ota x (x.post ota file)
  | progress {file : UploadFile} (loaded : Nat) : x.page.transfer = some (.update file) →
      loaded ≤ file.content.length →
      SiteStep sha bodies ota x { x with page := x.page.onProgress loaded file.content.length }
  | load {transfer : Transfer} {response : Response} : x.page.transfer = some transfer →
      x.request = some response.request → response ∈ x.tasks.state.responses →
      SiteStep sha bodies ota x (x.load transfer response)
  | error {transfer : Transfer} : x.page.transfer = some transfer →
      SiteStep sha bodies ota x { x with page := .onError transfer, request := none }
  | reload : SiteStep sha bodies ota x { x with page := .load, request := none }

/-- The page is loaded from an updater that has just started. -/
def startSite (b : Board) (version : Option Version) : UploadSite :=
  ⟨startWired b version, .load, none, none, none⟩

def SiteRun (sha : Content → Option (Vector UInt8 fwSha256Len)) (bodies : Nat → List UInt8)
    (ota : Option OtaPartition) (b : Board) (version : Option Version) (x : UploadSite) : Prop :=
  ReflTransGen (SiteStep sha bodies ota) (startSite b version) x

/-! ## The updater in a run of the site -/

section Tasks

variable {x y : UploadSite}

theorem wired_serve {t : WiredTasks} {err : EspErr} {handler : Task EspErr}
    (hleft : t.left .server = .ret err)
    (hserves : Serves ota t.state.shared .server handler t.state.shared.arrive) :
    WiredStep sha bodies ota t (t.serve handler) :=
  ⟨.server, .next hleft ⟨hserves, rfl⟩⟩

/-- The page is one more client of the updater. -/
theorem SiteStep.tasks_run (h : SiteStep sha bodies ota x y) :
    ReflTransGen (WiredStep sha bodies ota) x.tasks y.tasks := by
  cases h with
  | tasks hstep => exact .single hstep
  | ask _ _ hleft => exact .single (wired_serve hleft .status)
  | post _ _ hleft _ => exact .single (wired_serve hleft (.update _))
  | click | progress | load | error | reload => exact .refl

theorem SiteRun.tasks_run (h : SiteRun sha bodies ota b version x) :
    ReflTransGen (WiredStep sha bodies ota) (startWired b version) x.tasks := by
  induction h with
  | refl => exact .refl
  | tail _ hstep ih => exact ih.trans hstep.tasks_run

/-- No response is forgotten. -/
theorem wired_responses {s t : WiredTasks} (h : WiredStep sha bodies ota s t) :
    ∀ response ∈ s.state.responses, response ∈ t.state.responses := by
  obtain ⟨task, h⟩ := h
  cases h with
  | call _ _ hcall =>
      intro response hresponse
      rw [hcall.2.2]
      exact List.mem_append_left _ hresponse
  | next _ hnext =>
      intro response hresponse
      rwa [hnext.2]

end Tasks

/-! ## The page in a run of the site -/

def Transfer.file : Transfer → UploadFile
  | .status file | .update file => file

/-- The request is the one that the transfer waits for. -/
def Transfer.Asks (bodies : Nat → List UInt8) (request : UpdaterRequest) : Transfer → Prop
  | .status _ => request.path = .status
  | .update file => request.path = .update ∧ bodies request.id = file.content ∧
    request.contentLen.toNat = file.content.length

/-- The status request was answered, and the answer did not tell of an upload. -/
def Cleared (x : UploadSite) : Prop :=
  ∃ response ∈ x.tasks.state.responses, x.answered = some response.request ∧
    response.request.path = .status ∧ blocks response.body = false

/-- Where the text of the page comes from. -/
inductive Shown (bodies : Nat → List UInt8) (x : UploadSite) (text : String) : Prop where
  | own : text ∈ pageTexts → Shown bodies x text
  | progress {loaded total : Nat} : loaded ≤ total → text = uploadingText loaded total →
      Shown bodies x text
  | blocked {response : Response} : response ∈ x.tasks.state.responses →
      x.answered = some response.request → response.request.path = .status →
      blocks response.body = true → text = "Upload in progress" → Shown bodies x text
  | reply {response : Response} : response ∈ x.tasks.state.responses →
      x.answered = some response.request → response.request.path = .update →
      x.posted = some (bodies response.request.id) →
      response.request.contentLen.toNat = (bodies response.request.id).length →
      text = response.body → Shown bodies x text

/-- What holds between any two steps. -/
structure Following (bodies : Nat → List UInt8) (x : UploadSite) : Prop where
  size : ∀ transfer, x.page.transfer = some transfer →
    transfer.file.content.length ≤ uploadPageMaxBytes
  request : ∀ request, x.request = some request →
    ∃ transfer, x.page.transfer = some transfer ∧ transfer.Asks bodies request
  posted : ∀ file, x.page.transfer = some (.update file) →
    x.posted = some file.content ∧ Cleared x
  text : Shown bodies x x.page.text

section Following

variable {x y : UploadSite}

theorem Cleared.grow (h : Cleared x) (hanswered : y.answered = x.answered)
    (hgrows : ∀ response ∈ x.tasks.state.responses, response ∈ y.tasks.state.responses) :
    Cleared y := by
  obtain ⟨response, hresponse, hanswer, h⟩ := h
  exact ⟨response, hgrows response hresponse, hanswered.trans hanswer, h⟩

theorem Shown.grow {text : String} (h : Shown bodies x text) (hanswered : y.answered = x.answered)
    (hposted : y.posted = x.posted)
    (hgrows : ∀ response ∈ x.tasks.state.responses, response ∈ y.tasks.state.responses) :
    Shown bodies y text := by
  cases h with
  | own hmem => exact .own hmem
  | progress hle htext => exact .progress hle htext
  | blocked hresponse hanswer hpath hblocks htext =>
      exact .blocked (hgrows _ hresponse) (hanswered.trans hanswer) hpath hblocks htext
  | reply hresponse hanswer hpath hbody hlength htext =>
      exact .reply (hgrows _ hresponse) (hanswered.trans hanswer) hpath (hposted.trans hbody)
        hlength htext

theorem Following.grow (h : Following bodies x) (hpage : y.page = x.page)
    (hrequest : ∀ request, y.request = some request →
      ∃ transfer, x.page.transfer = some transfer ∧ transfer.Asks bodies request)
    (hanswered : y.answered = x.answered) (hposted : y.posted = x.posted)
    (hgrows : ∀ response ∈ x.tasks.state.responses, response ∈ y.tasks.state.responses) :
    Following bodies y where
  size transfer ht := h.size transfer (hpage ▸ ht)
  request request hr := by
    rw [hpage]
    exact hrequest request hr
  posted file hf := by
    obtain ⟨hsent, hcleared⟩ := h.posted file (hpage ▸ hf)
    exact ⟨hposted.trans hsent, hcleared.grow hanswered hgrows⟩
  text := by
    rw [hpage]
    exact h.text.grow hanswered hposted hgrows

/-- A page that waits for nothing. -/
theorem following_ready {tasks : WiredTasks} {text : String} {posted : Option (List UInt8)}
    {answered : Option UpdaterRequest}
    (h : Shown bodies ⟨tasks, ⟨text, none⟩, none, posted, answered⟩ text) :
    Following bodies ⟨tasks, ⟨text, none⟩, none, posted, answered⟩ where
  size transfer ht := by cases ht
  request request hr := by cases hr
  posted file hf := by cases hf
  text := h

theorem Following.ready (h : Following bodies x) (htransfer : x.page.transfer = none) :
    x.request = none := by
  cases hrequest : x.request with
  | none => rfl
  | some request =>
      obtain ⟨transfer, ht, -⟩ := h.request request hrequest
      rw [htransfer] at ht
      cases ht

theorem Following.click (h : Following bodies x) (hready : x.page.transfer = none)
    (file : Option UploadFile) : Following bodies { x with page := x.page.onClick file } := by
  have hrequest := h.ready hready
  obtain ⟨tasks, ⟨text, transfer⟩, request, posted, answered⟩ := x
  obtain rfl : transfer = none := hready
  obtain rfl : request = none := hrequest
  cases file with
  | none => exact following_ready (.own (by decide))
  | some file =>
      unfold UploadPage.onClick
      dsimp only
      split
      · exact following_ready (.own (by decide))
      split
      · exact following_ready (.own (by decide))
      rename_i hsize
      refine ⟨fun transfer ht => ?_, fun request hr => ?_, fun file hf => ?_, ?_⟩
      · obtain rfl := Option.some.inj ht
        exact Nat.not_lt.1 hsize
      · cases hr
      · cases hf
      · exact h.text.grow rfl rfl fun _ h => h

theorem Following.load (h : Following bodies x) {transfer : Transfer} {response : Response}
    (htransfer : x.page.transfer = some transfer) (hrequest : x.request = some response.request)
    (hresponse : response ∈ x.tasks.state.responses) :
    Following bodies (x.load transfer response) := by
  have hasks : transfer.Asks bodies response.request := by
    obtain ⟨other, hother, hasks⟩ := h.request response.request hrequest
    rw [htransfer] at hother
    obtain rfl := Option.some.inj hother
    exact hasks
  cases transfer with
  | status file =>
      have hpath : response.request.path = .status := hasks
      unfold UploadSite.load UploadPage.onLoad
      dsimp only
      split
      · exact following_ready (.own (by decide))
      split
      · rename_i hblocks
        exact following_ready (.blocked hresponse rfl hpath hblocks rfl)
      · rename_i hfree
        have hclear : blocks response.body = false := Bool.eq_false_iff.2 hfree
        refine ⟨fun transfer ht => ?_, fun request hr => ?_, fun other hf => ?_, ?_⟩
        · obtain rfl := Option.some.inj ht
          exact h.size (.status file) htransfer
        · cases hr
        · obtain rfl : file = other := Transfer.update.inj (Option.some.inj hf)
          exact ⟨rfl, response, hresponse, rfl, hpath, hclear⟩
        · exact .progress (Nat.zero_le 0) (uploadingText_zero 0).symm
  | update file =>
      obtain ⟨hpath, hbody, hlength⟩ := hasks
      have hposted : x.posted = some (bodies response.request.id) := by
        rw [hbody]
        exact (h.posted file htransfer).1
      exact following_ready (.reply hresponse rfl hpath hposted (by rw [hlength, hbody]) rfl)

theorem Following.step (h : Following bodies x) (hstep : SiteStep sha bodies ota x y) :
    Following bodies y := by
  cases hstep with
  | tasks hwired =>
      exact h.grow rfl h.request rfl rfl (wired_responses hwired)
  | click file hready => exact h.click hready file
  | @ask file err htransfer hnone hleft =>
      refine h.grow rfl (fun request hr => ?_) rfl rfl fun _ h => h
      obtain rfl := Option.some.inj hr
      exact ⟨_, htransfer, rfl⟩
  | @post file err htransfer hnone hleft hbody =>
      refine h.grow rfl (fun request hr => ?_) rfl rfl fun _ h => h
      obtain rfl := Option.some.inj hr
      have hsize : file.content.length ≤ uploadPageMaxBytes := h.size _ htransfer
      have hlimit : uploadPageMaxBytes < UInt32.size := by decide
      exact ⟨_, htransfer, rfl, hbody, UInt32.toNat_ofNat_of_lt' (hsize.trans_lt hlimit)⟩
  | @progress file loaded htransfer hle =>
      unfold UploadPage.onProgress
      split
      · exact h
      · exact ⟨h.size, h.request, h.posted, .progress hle rfl⟩
  | load htransfer hrequest hresponse => exact h.load htransfer hrequest hresponse
  | @error transfer htransfer =>
      cases transfer with
      | status file => exact following_ready (.own (by decide))
      | update file => exact following_ready (.own (by decide))
  | reload => exact following_ready (.own (by decide))

theorem SiteRun.following (h : SiteRun sha bodies ota b version x) : Following bodies x := by
  induction h with
  | refl => exact following_ready (.own (by decide))
  | tail _ hstep ih => exact ih.step hstep

end Following

/-! ## An upload that nothing disturbs -/

/-- After a call of a session. -/
def Wire.after (w : Wire) (request : UpdaterRequest) (c : FwCall) (b : Board) : Wire :=
  ⟨({ w.shared with board := b }.act request c).observe,
    w.responses ++ (UpdaterCall.fw request c).response?.toList⟩

theorem wired_fw {request : UpdaterRequest} {c : FwCall} {r : c.Answer} {w : Wire} {t : Board}
    (hboard : board sha ErasesNothing c w.shared.board r t) (hgives : w.shared.Gives c r)
    (horder : InOrder (bodies request.id) w.shared.board c r) :
    wired sha bodies (.fw request c) w r (w.after request c t) :=
  ⟨⟨t, hboard, hgives, rfl⟩, horder, rfl⟩

theorem after_board (w : Wire) (request : UpdaterRequest) (c : FwCall) (b : Board) :
    (w.after request c b).shared.board = b :=
  (act_kept { w.shared with board := b } request c).1

theorem after_responses {c : FwCall} (hsilent : Silent c) (w : Wire) (request : UpdaterRequest)
    (b : Board) : (w.after request c b).responses = w.responses := by
  cases c <;> first | exact hsilent.elim | exact List.append_nil _

/-- What runs on the board runs in the worker. -/
theorem exists_wired {α : Type} {request : UpdaterRequest} {p : Fw α} {s t : Board} {a : α}
    (h : Ends (delivering sha (bodies request.id)) p s a t) {w : Wire} (hw : w.shared.board = s) :
    ∃ u, Ends (fun c => wired sha bodies (.fw request c)) p w a u := by
  have hstep {c : FwCall} {v : Wire} {r : c.Answer} {b : Board}
      (hcall : delivering sha (bodies request.id) c v.shared.board r b) (_ : True) :
      ∃ y, wired sha bodies (.fw request c) v r y ∧ y.shared.board = b ∧ True := by
    obtain ⟨hsilent, horder, hboard⟩ := hcall
    have hgives : v.shared.Gives c r := by
      cases c <;> first | exact hsilent.elim | trivial
    exact ⟨v.after request c b, wired_fw (hboard ErasesNothing) hgives horder,
      after_board v request c b, trivial⟩
  obtain ⟨u, hends, -⟩ := exists_ends_lift (fun v : Wire => v.shared.board) hstep h hw trivial
  exact ⟨u, hends⟩

section Session

variable {image : List UInt8}

/-- The worker answers. -/
theorem replyUpload_ends (request : UpdaterRequest) (w : Wire) :
    ∃ u, Ends (fun c => wired sha bodies (.fw request c)) (replyUpload (.ok, none)) w () u ∧
      ⟨request, "200 OK", "Update complete, restarting"⟩ ∈ u.responses := by
  rw [replyUpload, if_neg (not_not.2 rfl)]
  let w₁ := w.after request .copyInstalledVersion w.shared.board
  let w₂ := w₁.after request (.setUploadState .done) w₁.shared.board
  let sent := FwCall.sendText "200 OK" "Update complete, restarting"
  let w₃ := w₂.after request sent
    { w₂.shared.board with
      replies := w₂.shared.board.replies ++ [("200 OK", "Update complete, restarting")] }
  let w₄ := w₃.after request .startRestartTimer w₃.shared.board
  refine ⟨w₄, ?_, ?_⟩
  · have hcopy : wired sha bodies (.fw request .copyInstalledVersion) w w.shared.installed w₁ :=
      wired_fw rfl rfl trivial
    refine .call hcopy ?_
    refine .call (t := w₂) (r := ()) (wired_fw rfl trivial trivial) ?_
    refine .call (t := w₃) (r := ()) (wired_fw rfl trivial trivial) ?_
    exact .call (t := w₄) (r := true) (wired_fw rfl trivial trivial) (.ret () w₄)
  · rw [after_responses (c := .startRestartTimer) trivial]
    exact List.mem_append_right _ (List.mem_singleton_self _)

/-- The worker commits the image and answers. -/
theorem runUploadWorker_ends (hhead : checkImageHead (image.take fwImageHeadLen) = .ok)
    {chunks : List (List UInt8)}
    (hchunks : ∀ chunk ∈ chunks, chunk ≠ [] ∧ chunk.length ≤ fwUploadChunkBytes)
    (himage : chunks.flatten = image) {partition : OtaPartition}
    (hfits : image.length ≤ partition.size.toNat) {digest : Vector UInt8 fwSha256Len}
    (hsha : ∀ content, read content 0 image.length = image → sha content = some digest)
    {request : UpdaterRequest} (hbody : bodies request.id = image)
    (hcontent : request.contentLen.toNat = image.length) {w : Wire}
    (hfound : w.shared.board.hasFwMeta = true) (hqueue : w.shared.queue = [request]) :
    ∃ u, Ends (wired sha bodies) (runUploadWorker (some partition)) w .ok u ∧
      ⟨request, "200 OK", "Update complete, restarting"⟩ ∈ u.responses := by
  subst hbody
  let b := { w.shared.board with received := [] }
  let w₁ : Wire := ⟨w.shared.take request [], w.responses⟩
  let w₂ := w₁.after request (.startCounters (bodies request.id).length) b
  have hrun : ∃ t, Ends (delivering sha (bodies request.id)) _ b _ t ∧ _ :=
    runUpload_delivers hhead hchunks himage hfits hsha hfound rfl
  obtain ⟨t, hupload, -⟩ := hrun
  have hboard : w₂.shared.board = b := after_board w₁ request _ b
  obtain ⟨u, hupload⟩ := exists_wired hupload hboard
  obtain ⟨v, hreply, hresponse⟩ := replyUpload_ends request u
  let v' := v.after request .asyncComplete v.shared.board
  refine ⟨v', ?_, ?_⟩
  · have hreceive : wired sha bodies .queueReceive w request w₁ :=
      ⟨⟨[], hqueue, rfl⟩, trivial, (List.append_nil _).symm⟩
    have hprocess : Ends (fun c => wired sha bodies (.fw request c))
        (processUpload (some partition) request.contentLen.toNat) w₁ () v' := by
      rw [hcontent]
      refine .call (t := w₂) (r := ()) (wired_fw rfl trivial trivial) ?_
      refine hupload.bind (hreply.bind ?_)
      exact .call (t := v') (r := ()) (wired_fw rfl trivial trivial) (.ret () v')
    exact .call hreceive (Ends.bind (f := fun _ => .ret EspErr.ok) (Ends.embed hprocess) (.ret _ _))
  · exact List.mem_append_left _ hresponse

end Session

/-! ### An upload from the page -/

def sampleFile : UploadFile := ⟨"firmware.bin", sampleImage⟩

theorem siteRun_tasks {x : UploadSite} {t : WiredTasks}
    (h : ReflTransGen (WiredStep sha bodies ota) x.tasks t) :
    ReflTransGen (SiteStep sha bodies ota) x { x with tasks := t } := by
  induction h with
  | refl => exact .refl
  | tail _ hstep ih => exact ih.tail (.tasks hstep)

/-- The shared state after the answer to a status request. -/
def Shared.answered (s : Shared) (request : UpdaterRequest) : Shared :=
  ((s.act request .copyInstalledVersion).observe).respond request "200 OK"
    (statusBody s.state s.received s.total s.installed)

theorem handleStatus_ends (w : Wire) (id : Nat) :
    Ends (wired sha bodies) (handleStatus ⟨id, .status, 0⟩) w .ok
      ⟨w.shared.answered ⟨id, .status, 0⟩, w.responses ++ [⟨⟨id, .status, 0⟩, "200 OK",
        statusBody w.shared.state w.shared.received w.shared.total w.shared.installed⟩]⟩ := by
  let request : UpdaterRequest := ⟨id, .status, 0⟩
  let body := statusBody w.shared.state w.shared.received w.shared.total w.shared.installed
  let w₁ := w.after request .copyInstalledVersion w.shared.board
  have hcopy : wired sha bodies (.fw request .copyInstalledVersion) w w.shared.installed w₁ :=
    wired_fw rfl rfl trivial
  have hread : wired sha bodies .readStatus w₁ (w.shared.state, w.shared.received, w.shared.total)
      w₁ := ⟨⟨rfl, rfl⟩, trivial, (List.append_nil _).symm⟩
  have hrespond : wired sha bodies (.respond request "200 OK" body) w₁ ()
      ⟨w.shared.answered request, w.responses ++ [⟨request, "200 OK", body⟩]⟩ := by
    refine ⟨rfl, trivial, ?_⟩
    rw [show w₁.responses = w.responses from List.append_nil _]
    rfl
  exact .call hcopy (.call hread (.call hrespond (.ret _ _)))

/-- The server task hands an upload to the worker. -/
theorem handOff_wired {r : UpdaterRequest} {w : Wire}
    (hsize : isSizeInvalid ota r.contentLen = false) (hfree : w.shared.isBusy = false)
    (hqueue : w.shared.queue = []) :
    Ends (wired sha bodies) (handleUpload ota r) w .ok
      ⟨(w.shared.claim r).observe.send r, w.responses⟩ := by
  have hsame := (List.append_nil w.responses).symm
  unfold handleUpload
  simp only [hsize]
  refine .call (r := false) (t := ⟨(w.shared.claim r).observe, w.responses⟩)
    ⟨⟨hfree.symm, by rw [if_neg (by simp [hfree])]⟩, trivial, hsame⟩ ?_
  refine .call (r := EspErr.ok) ⟨rfl, trivial, hsame⟩ ?_
  have hroom : (w.shared.claim r).observe.queue.length < 1 := by
    simp [Shared.claim, Shared.observe, hqueue]
  have hsend : wired sha bodies (.queueSend r) ⟨(w.shared.claim r).observe, w.responses⟩ true
      ⟨(w.shared.claim r).observe.send r, w.responses⟩ := by
    refine ⟨?_, trivial, hsame⟩
    dsimp only [tasks]
    rw [if_pos hroom]
    exact ⟨rfl, rfl⟩
  exact .call hsend (.ret _ _)

theorem onClick_asks {page : UploadPage} {file : UploadFile} (hname : isBinName file.name = true)
    (hsize : file.content.length ≤ uploadPageMaxBytes) :
    page.onClick (some file) = { page with transfer := some (.status file) } := by
  rw [UploadPage.onClick, hname, if_neg (by decide), if_neg (Nat.not_lt.2 hsize)]

theorem SiteStep.sends {x : UploadSite} {file : UploadFile} {response : Response}
    (htransfer : x.page.transfer = some (.status file))
    (hrequest : x.request = some response.request) (hresponse : response ∈ x.tasks.state.responses)
    (hstatus : isNot200 response.status = false) (hbody : blocks response.body = false) :
    SiteStep sha bodies ota x
      ⟨x.tasks, .send file, none, some file.content, some response.request⟩ := by
  have hpage : UploadPage.onLoad response.status response.body (.status file) = .send file := by
    rw [UploadPage.onLoad, hstatus, hbody]
    rfl
  have hload : SiteStep sha bodies ota x (x.load (.status file) response) :=
    .load htransfer hrequest hresponse
  rw [UploadSite.load, hpage] at hload
  exact hload

/-- The page sends an image, the updater commits it, and the page says so. -/
theorem exists_complete :
    ∃ x, SiteRun sampleSha (fun _ => sampleImage) blankBoard.otaPartition blankBoard none x ∧
      x.page.text = "Update complete, restarting" ∧ x.posted = some sampleImage := by
  let bodies : Nat → List UInt8 := fun _ => sampleImage
  let start := startSite blankBoard none
  let status : UpdaterRequest := ⟨0, .status, 0⟩
  let update : UpdaterRequest := ⟨1, .update, UInt32.ofNat sampleImage.length⟩
  let idle : Response := ⟨status, "200 OK", statusBody .idle 0 0 (storedVersion none)⟩
  -- The page asks for the status, and the updater is idle.
  have hclick : SiteStep sampleSha bodies blankBoard.otaPartition start
      { start with page := start.page.onClick (some sampleFile) } := .click (some sampleFile) rfl
  rw [onClick_asks (by decide) (by decide +kernel)] at hclick
  have hasked := (ReflTransGen.single hclick).tail (.ask rfl rfl rfl)
  have hanswered := hasked.trans (siteRun_tasks (run_of_ends (handleStatus_ends _ 0)))
  have hidle : idle ∈ [idle] := List.mem_singleton_self idle
  have hsent := hanswered.tail (.sends rfl rfl hidle (by decide) (by decide))
  -- The page posts the image, and the server task hands it to the worker.
  have hposted := hsent.tail (.post rfl rfl rfl rfl)
  have hsize : isSizeInvalid blankBoard.otaPartition update.contentLen = false := by
    decide +kernel
  have hhanded := hposted.trans (siteRun_tasks (run_of_ends (handOff_wired hsize rfl rfl)))
  have hserved := hhanded.tail (.tasks ⟨.worker, .next rfl ⟨.worker, rfl⟩⟩)
  -- The worker commits it.
  let w : Wire := ⟨((start.tasks.state.shared.arrive.answered status).arrive.claim update).observe
    |>.send update, [idle]⟩
  have hcontent : update.contentLen.toNat = sampleImage.length := by decide +kernel
  have hqueue : w.shared.queue = [update] := rfl
  have hbody : bodies update.id = sampleImage := rfl
  have hworker : ∃ u, Ends (wired sampleSha bodies)
      (runUploadWorker (some ⟨0xF0000, 0x110000⟩)) w .ok u ∧ _ :=
    runUploadWorker_ends checkImageHead_sampleImage sampleChunks_fit flatten_sampleChunks
      sampleImage_fits (fun _ => sampleSha_of_read) hbody hcontent rfl hqueue
  obtain ⟨u, hends, hresponse⟩ := hworker
  have hworked := hserved.trans (siteRun_tasks (run_of_ends hends))
  exact ⟨_, hworked.tail (.load rfl rfl hresponse), rfl, rfl⟩

/-! ## What the page tells -/

/-- What the page shows is true: of the file that it has sent, of the board as it is now, and of the
state of the updater at a moment since the answered request arrived. -/
structure Told (sha : Content → Option (Vector UInt8 fwSha256Len)) (x : UploadSite) : Prop where
  complete : x.page.text = "Update complete, restarting" → ∃ file digest, x.posted = some file ∧
    read x.board.ota 0 file.length = file ∧
    Bootable sha x.board (receivedRecord file digest) ∧ StartsFirmware sha x.board
  head : ∀ result, result = .rejectMetadata ∨ result = .rejectVersion →
    x.page.text = (uploadReplies result).body →
    ∃ file, x.posted = some file ∧ checkImageHead (file.take fwImageHeadLen) = result
  busy : x.page.text = "Upload in progress" → ∃ reply ∈ x.tasks.state.shared.replies,
    x.answered = some reply.request ∧ ∃ m ∈ reply.moments, m.IsBusy
  free : ∀ file, x.page.transfer = some (.update file) → ∃ reply ∈ x.tasks.state.shared.replies,
    x.answered = some reply.request ∧ ∃ m ∈ reply.moments, ¬ m.IsBusy
  percent : "Uploading".toList <+: x.page.text.toList →
    ∃ n ≤ 100, x.page.text = "Uploading... " ++ n.repr ++ " %"

section Told

variable {x : UploadSite} {s : Shared} {response : Response}

theorem hears_status (h : Hears s response) (hpath : response.request.path = .status) :
    ∃ reply ∈ s.replies, reply.request = response.request ∧
      ∃ m ∈ reply.moments, (blocks response.body = true ↔ m.IsBusy) := by
  rcases h with ⟨hupdate, -⟩ | ⟨reply, hreply, hrequest, hobserves⟩
  · rw [hpath] at hupdate
    cases hupdate
  · exact ⟨reply, hreply, hrequest, (observes_status hpath _ _ _).1 hobserves⟩

theorem hears_update (h : Hears s response) (hpath : response.request.path = .update) :
    IsOutcome response.status response.body ∨ response.body = "Upload in progress" ∧
      ∃ reply ∈ s.replies, reply.request = response.request ∧ ∃ m ∈ reply.moments, m.IsBusy := by
  rcases h with ⟨-, houtcome⟩ | ⟨reply, hreply, hrequest, hobserves⟩
  · exact .inl houtcome
  · rcases (observes_update hpath _ _ _).1 hobserves with houtcome | ⟨hbody, hbusy⟩
    · exact .inl houtcome
    · exact .inr ⟨hbody, reply, hreply, hrequest, hbusy⟩

theorem begins_uploadingText (loaded total : Nat) :
    "Uploading".toList <+: (uploadingText loaded total).toList := by
  have hsplit : "Uploading... ".toList = "Uploading".toList ++ "... ".toList := by decide
  unfold uploadingText
  simp only [String.toList_append, hsplit, List.append_assoc]
  exact List.prefix_append _ _

/-- A text that neither the page nor a refused claim writes is that of a reply to the file. -/
theorem reply_of_text (hfollow : Following bodies x) {text : String} (htext : x.page.text = text)
    (hown : text ∉ pageTexts) (hprogress : ¬ "Uploading".toList <+: text.toList)
    (hblocked : text ≠ "Upload in progress") :
    ∃ response ∈ x.tasks.state.responses, response.request.path = .update ∧
      x.posted = some (bodies response.request.id) ∧
      response.request.contentLen.toNat = (bodies response.request.id).length ∧
      text = response.body := by
  subst htext
  cases hfollow.text with
  | own hmem => exact absurd hmem hown
  | progress _ heq => exact absurd (heq ▸ begins_uploadingText _ _) hprogress
  | blocked _ _ _ _ heq => exact absurd heq hblocked
  | reply hresponse _ hpath hposted hlength heq =>
      exact ⟨_, hresponse, hpath, hposted, hlength, heq⟩

/-- The text of an outcome tells the outcome, and with it the status. -/
theorem status_of_body (h : Hears s response) (hpath : response.request.path = .update)
    {result : UploadResult} (hbody : response.body = (uploadReplies result).body) :
    response.status = (uploadReplies result).status := by
  rcases hears_update h hpath with ⟨other, hstatus, hother⟩ | ⟨hblocked, -⟩
  · obtain rfl := uploadReplies_body_injective (hother.symm.trans hbody)
    exact hstatus
  · have hne : (uploadReplies result).body ≠ "Upload in progress" := by
      cases result <;> decide
    exact absurd (hbody.symm.trans hblocked) hne

/-- A success is that of the whole file. -/
theorem complete_of_worth (hworth : Worth sha bodies x.tasks.state)
    (hresponse : response ∈ x.tasks.state.responses) (hpath : response.request.path = .update)
    (hlength : response.request.contentLen.toNat = (bodies response.request.id).length)
    (hstatus : response.status = "200 OK") :
    ∃ digest, read x.board.ota 0 (bodies response.request.id).length = bodies response.request.id ∧
      Bootable sha x.board (receivedRecord (bodies response.request.id) digest) ∧
      StartsFirmware sha x.board := by
  obtain ⟨hcommitted, hbegins⟩ := (hworth response hresponse hpath).committed hstatus
  obtain ⟨hreceived, hstored, digest, hbootable⟩ := hcommitted
  have hwhole : x.board.received = bodies response.request.id :=
    hbegins.eq_of_length (hreceived.trans hlength)
  refine ⟨digest, ?_, ?_, hbootable.startsFirmware⟩
  · rw [← hlength, ← hwhole]
    exact hstored
  · rw [← hwhole]
    exact hbootable

theorem told_complete (hfollow : Following bodies x)
    (hhears : ∀ response ∈ x.tasks.state.responses, Hears x.tasks.state.shared response)
    (hworth : Worth sha bodies x.tasks.state)
    (htext : x.page.text = "Update complete, restarting") : ∃ file digest, x.posted = some file ∧
      read x.board.ota 0 file.length = file ∧
      Bootable sha x.board (receivedRecord file digest) ∧ StartsFirmware sha x.board := by
  obtain ⟨response, hresponse, hpath, hposted, hlength, hbody⟩ :=
    reply_of_text hfollow htext (by decide) (by decide) (by decide)
  have hstatus := status_of_body (hhears response hresponse) hpath
    (show response.body = (uploadReplies .ok).body from hbody.symm)
  obtain ⟨digest, h⟩ := complete_of_worth hworth hresponse hpath hlength hstatus
  exact ⟨_, digest, hposted, h⟩

theorem told_head (hfollow : Following bodies x) (hworth : Worth sha bodies x.tasks.state)
    {result : UploadResult} (hresult : result = .rejectMetadata ∨ result = .rejectVersion)
    (htext : x.page.text = (uploadReplies result).body) :
    ∃ file, x.posted = some file ∧ checkImageHead (file.take fwImageHeadLen) = result := by
  have hother : (uploadReplies result).body ∉ pageTexts ∧
      ¬ "Uploading".toList <+: (uploadReplies result).body.toList ∧
      (uploadReplies result).body ≠ "Upload in progress" := by
    rcases hresult with rfl | rfl <;> decide
  obtain ⟨response, hresponse, hpath, hposted, -, hbody⟩ :=
    reply_of_text hfollow htext hother.1 hother.2.1 hother.2.2
  exact ⟨_, hposted, (hworth response hresponse hpath).head result hresult hbody.symm⟩

/-- The page knows of a busy updater from the status or from a refused claim. -/
theorem told_busy (hfollow : Following bodies x)
    (hhears : ∀ response ∈ x.tasks.state.responses, Hears x.tasks.state.shared response)
    (htext : x.page.text = "Upload in progress") : ∃ reply ∈ x.tasks.state.shared.replies,
      x.answered = some reply.request ∧ ∃ m ∈ reply.moments, m.IsBusy := by
  cases hfollow.text with
  | own hmem => exact absurd (htext ▸ hmem) (by decide)
  | progress _ heq =>
      have hbegins := heq ▸ begins_uploadingText _ _
      rw [htext] at hbegins
      exact absurd hbegins (by decide)
  | blocked hresponse hanswered hpath hblocks _ =>
      obtain ⟨reply, hreply, hrequest, m, hm, hbusy⟩ := hears_status (hhears _ hresponse) hpath
      exact ⟨reply, hreply, hanswered.trans (congrArg some hrequest.symm), m, hm, hbusy.1 hblocks⟩
  | reply hresponse hanswered hpath _ _ heq =>
      rcases hears_update (hhears _ hresponse) hpath with ⟨result, -, hbody⟩ |
        ⟨-, reply, hreply, hrequest, hbusy⟩
      · have hne : (uploadReplies result).body ≠ "Upload in progress" := by
          cases result <;> decide
        exact absurd (hbody.symm.trans (heq.symm.trans htext)) hne
      · exact ⟨reply, hreply, hanswered.trans (congrArg some hrequest.symm), hbusy⟩

theorem told_free (hfollow : Following bodies x)
    (hhears : ∀ response ∈ x.tasks.state.responses, Hears x.tasks.state.shared response)
    {file : UploadFile} (hfile : x.page.transfer = some (.update file)) :
    ∃ reply ∈ x.tasks.state.shared.replies, x.answered = some reply.request ∧
      ∃ m ∈ reply.moments, ¬ m.IsBusy := by
  obtain ⟨-, response, hresponse, hanswered, hpath, hclear⟩ := hfollow.posted file hfile
  obtain ⟨reply, hreply, hrequest, m, hm, hbusy⟩ := hears_status (hhears _ hresponse) hpath
  refine ⟨reply, hreply, hanswered.trans (congrArg some hrequest.symm), m, hm, fun h => ?_⟩
  rw [hbusy.2 h] at hclear
  cases hclear

/-- No text but that of the progress begins like it. -/
theorem told_percent (hfollow : Following bodies x)
    (hhears : ∀ response ∈ x.tasks.state.responses, Hears x.tasks.state.shared response)
    (htext : "Uploading".toList <+: x.page.text.toList) :
    ∃ n ≤ 100, x.page.text = "Uploading... " ++ n.repr ++ " %" := by
  cases hfollow.text with
  | own hmem =>
      have hnone : ∀ text ∈ pageTexts, ¬ "Uploading".toList <+: text.toList := by decide
      exact absurd htext (hnone _ hmem)
  | progress hle heq =>
      obtain ⟨n, hn, hpercent⟩ := uploadingText_eq hle
      exact ⟨n, hn, heq.trans hpercent⟩
  | blocked _ _ _ _ heq =>
      rw [heq] at htext
      exact absurd htext (by decide)
  | reply hresponse _ hpath _ _ heq =>
      rw [heq] at htext
      rcases hears_update (hhears _ hresponse) hpath with ⟨result, -, hbody⟩ | ⟨hbody, -⟩
      · rw [hbody] at htext
        have hnone : ¬ "Uploading".toList <+: (uploadReplies result).body.toList := by
          cases result <;> decide
        exact absurd htext hnone
      · rw [hbody] at htext
        exact absurd htext (by decide)

/-- In every run, whatever the other clients do and however the requests are delayed or lost, what
the page shows is true. -/
theorem uploadPage_told (hb : b.replies = []) (hota : b.otaPartition = ota)
    (hversion : ∀ v, version = some v → isValidFwVersion v = true)
    (hrun : SiteRun sha bodies ota b version x) : Told sha x := by
  have hworth := (stands_of_run hb hota hrun.tasks_run).1.worth
  have hhears := hears_of_run hversion hrun.tasks_run
  have hfollow := hrun.following
  exact ⟨told_complete hfollow hhears hworth, fun _ => told_head hfollow hworth,
    told_busy hfollow hhears, fun _ => told_free hfollow hhears, told_percent hfollow hhears⟩

theorem uploadPage_told_complete :
    ∃ x, SiteRun sampleSha (fun _ => sampleImage) blankBoard.otaPartition blankBoard none x ∧
      x.page.text = "Update complete, restarting" ∧ x.posted = some sampleImage ∧
      ∃ digest, read x.board.ota 0 sampleImage.length = sampleImage ∧
        Bootable sampleSha x.board (receivedRecord sampleImage digest) ∧
        StartsFirmware sampleSha x.board := by
  obtain ⟨x, hrun, htext, hposted⟩ := exists_complete
  have htold := uploadPage_told rfl rfl (fun _ h => by cases h) hrun
  obtain ⟨file, digest, hfile, h⟩ := htold.complete htext
  obtain rfl : file = sampleImage := Option.some.inj (hfile.symm.trans hposted)
  exact ⟨x, hrun, htext, hposted, digest, h⟩

end Told

end StripTuner.Updater
