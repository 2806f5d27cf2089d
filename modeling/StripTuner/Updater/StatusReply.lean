import StripTuner.Updater.SingleUpload

/-!
# The status reply

`HandleStatus()` reads the installed version in one critical section and the state and the counters
in a second one. The reply is what held at one moment, as long as the worker does not write the
state or a counter between the two after it has changed the installed version. Then `state=done` is
only reported of an upload that is committed, with its version.
-/

namespace StripTuner.Updater

open ByteLayout DeviceCalls DeviceCalls.Prog FlashRegion FwMeta

variable {sha : Content → Option (Vector UInt8 fwSha256Len)} {failedErase : UInt8 → UInt8 → Prop}
  {ota : Option OtaPartition}

/-! ## Moments -/

/-- The body of the request is committed, and the version in its record installed. -/
structure Finished (sha : Content → Option (Vector UInt8 fwSha256Len)) (request : UpdaterRequest)
    (m : Moment) : Prop where
  total : request.contentLen.toNat = m.total
  committed : Committed sha m.total m.board
  installed : ∃ record : FwMetaRecord,
    read m.board.fwMeta 0 fwMetaRecordSize = record.toBytes ∧
      m.installed = storedVersion (some record.version)

/-- The counters are in order, and an upload is done when it is finished. -/
structure Moment.Sound (sha : Content → Option (Vector UInt8 fwSha256Len)) (m : Moment) : Prop where
  received_le : m.received ≤ m.total
  done : m.state = .done → ∃ request, m.decided = some request ∧ Finished sha request m

/-- What the reply of `HandleStatus()` reports at the moment. -/
def Moment.body (m : Moment) : String := statusBody m.state m.received m.total m.installed

/-- The reply to a status request reports a moment since the request arrived. -/
def Reports (request : UpdaterRequest) (status body : String) (moments : List Moment) : Prop :=
  request.path = .status → status = "200 OK" ∧ ∃ m ∈ moments, body = m.body

/-- What holds between any two calls. -/
structure Consistent (sha : Content → Option (Vector UInt8 fwSha256Len))
    (ota : Option OtaPartition) (s : Shared) : Prop where
  now : s.moment.Sound sha
  moments : ∀ m ∈ s.moments, m.Sound sha
  replies : ∀ reply ∈ s.replies, Reports reply.request reply.status reply.body reply.moments ∧
    ∀ m ∈ reply.moments, m.Sound sha
  handed : ∀ r ∈ s.handed, r.path = .update
  partition : s.board.otaPartition = ota

/-- The installed version is that of the record in flash. -/
def Installed (s : Shared) : Prop :=
  ∃ record : FwMetaRecord, read s.board.fwMeta 0 fwMetaRecordSize = record.toBytes ∧
    s.installed = storedVersion (some record.version)

/-- The call leaves a committed upload and the installed version as they are. -/
def KeepsCommit : FwCall → Prop
  | .sendText _ _ => True
  | .setInstalledVersion _ => False
  | c => QuietCall c

/-- What the invariant needs of a call. -/
def StatusGuard (sha : Content → Option (Vector UInt8 fwSha256Len)) (c : UpdaterCall) (s : Shared) :
    Prop :=
  match c with
  | .fw r c =>
    (∀ received, c = .setReceived received → received ≤ s.total) ∧
      (c = .setUploadState .done → Finished sha r s.moment) ∧ (s.state = .done → KeepsCommit c)
  | .queueSend r => r.path = .update
  | .respond r status body => Reports r status body s.moments
  | _ => True

/-! ## Calls -/

section Calls

variable {s t : Shared}

theorem Consistent.observe (h : Consistent sha ota s) : Consistent sha ota s.observe := by
  refine ⟨h.now, fun m hm => ?_, h.replies, h.handed, h.partition⟩
  rcases List.mem_append.mp hm with hold | hnew
  · exact h.moments m hold
  · rw [List.mem_singleton.mp hnew]
    exact h.now

/-- What a call for a request changes of the reported values. -/
structure SameStatus (s t : Shared) : Prop where
  state : t.state = s.state
  received : t.received = s.received
  total : t.total = s.total

/-- The call writes the state or a counter. -/
def StatusWrite : FwCall → Prop
  | .startCounters _ | .setReceived _ | .setUploadState _ => True
  | _ => False

theorem act_sameStatus (s : Shared) (r : UpdaterRequest) {c : FwCall} (hc : ¬ StatusWrite c) :
    SameStatus s (s.act r c) := by
  cases c with
  | startCounters | setReceived | setUploadState => exact absurd trivial hc
  | copyInstalledVersion =>
      show SameStatus s (if r.path = .status then { s with copied := some s.installed } else s)
      split <;> exact ⟨rfl, rfl, rfl⟩
  | setInstalledVersion | asyncComplete => exact ⟨rfl, rfl, rfl⟩
  | _ =>
      unfold Shared.act
      dsimp only
      split <;> exact ⟨rfl, rfl, rfl⟩

theorem act_installed (s : Shared) (r : UpdaterRequest) {c : FwCall}
    (hc : ∀ version, c ≠ .setInstalledVersion version) :
    (s.act r c).installed = s.installed := by
  cases c with
  | setInstalledVersion version => exact absurd rfl (hc version)
  | startCounters | setReceived | setUploadState | asyncComplete => rfl
  | _ =>
      unfold Shared.act
      dsimp only
      split <;> rfl

/-- What no call for a request changes. -/
theorem act_kept (s : Shared) (r : UpdaterRequest) (c : FwCall) :
    (s.act r c).board = s.board ∧ (s.act r c).moments = s.moments := by
  cases c with
  | startCounters | setReceived | setUploadState | asyncComplete | setInstalledVersion =>
      exact ⟨rfl, rfl⟩
  | _ =>
      unfold Shared.act
      dsimp only
      split <;> exact ⟨rfl, rfl⟩

/-- Only the status handler copies the version. -/
theorem act_copied (s : Shared) {r : UpdaterRequest} (hpath : r.path = .update) (c : FwCall) :
    (s.act r c).copied = s.copied := by
  cases c with
  | startCounters | setReceived | setUploadState | asyncComplete | setInstalledVersion => rfl
  | copyInstalledVersion =>
      show (if r.path = .status then { s with copied := some s.installed } else s).copied = _
      rw [if_neg (by simp [hpath])]
  | _ =>
      unfold Shared.act
      dsimp only
      split <;> rfl

theorem act_total (s : Shared) (r : UpdaterRequest) {c : FwCall}
    (hc : ∀ total, c ≠ .startCounters total) : (s.act r c).total = s.total := by
  cases c with
  | startCounters total => exact absurd rfl (hc total)
  | setReceived | setUploadState | asyncComplete | setInstalledVersion => rfl
  | _ =>
      unfold Shared.act
      dsimp only
      split <;> rfl

/-- Only a call that sets the state sets an outcome. -/
theorem act_decided (s : Shared) (r : UpdaterRequest) {c : FwCall}
    (hc : ∀ state, c ≠ .setUploadState state) : (s.act r c).decided = s.decided := by
  cases c with
  | setUploadState state => exact absurd rfl (hc state)
  | startCounters | setReceived | asyncComplete | setInstalledVersion => rfl
  | _ =>
      unfold Shared.act
      dsimp only
      split <;> rfl

theorem SameButCtrl.read_eq {b t : Board} (h : SameButCtrl b t) :
    read t.fwMeta 0 fwMetaRecordSize = read b.fwMeta 0 fwMetaRecordSize := by
  obtain ⟨content, hsame, rfl⟩ := h
  exact read_congr fun i hi =>
    hsame _ (by simp only [fwMetaRecordSize, fwMetaSectorBytes] at *; omega)

/-- A committed upload stays committed. -/
theorem KeepsCommit.step {c : FwCall} (hc : KeepsCommit c) {b t : Board} {r : c.Answer}
    (h : board sha failedErase c b r t) {total : Nat} (hb : Committed sha total b) :
    Committed sha total t ∧
      read t.fwMeta 0 fwMetaRecordSize = read b.fwMeta 0 fwMetaRecordSize := by
  have hquiet : QuietCall c → Committed sha total t ∧
      read t.fwMeta 0 fwMetaRecordSize = read b.fwMeta 0 fwMetaRecordSize := fun hq =>
    have hsame := quietCall_step c hq b r t h
    ⟨hsame.committed hb, hsame.read_eq⟩
  cases c with
  | sendText status body =>
      obtain rfl := h
      obtain ⟨hlength, hstored, digest, hboot⟩ := hb
      exact ⟨⟨hlength, hstored, digest, hboot.hasFwMeta, hboot.stored, hboot.valid,
        hboot.notForced, hboot.otaMatches.magic, hboot.otaMatches.embeddedMagic,
        hboot.otaMatches.version, hboot.otaMatches.digest⟩, rfl⟩
  | setInstalledVersion version => exact hc.elim
  | _ => exact hquiet hc

/-- So does a finished one. -/
theorem Finished.call {request : UpdaterRequest} (h : Finished sha request s.moment)
    {r : UpdaterRequest} {c : FwCall} (hc : KeepsCommit c) {a : c.Answer}
    (hcall : tasks sha failedErase (.fw r c) s a t) : Finished sha request t.moment := by
  obtain ⟨b, hboard, -, rfl⟩ := hcall
  obtain ⟨htotal, hcommitted, record, hread, hinstalled⟩ := h
  obtain ⟨hcommitted', hread'⟩ := hc.step hboard hcommitted
  have hboard' := (act_kept { s with board := b } r c).1
  have htotal' := act_total { s with board := b } r (c := c) (by rintro n rfl; exact hc)
  have hversion := act_installed { s with board := b } r (c := c) (by rintro v rfl; exact hc)
  refine ⟨htotal.trans htotal'.symm, ?_, record, ?_, hversion.trans hinstalled⟩
  · show Committed sha ({ s with board := b }.act r c).total ({ s with board := b }.act r c).board
    rw [htotal', hboard']
    exact hcommitted'
  · show read ({ s with board := b }.act r c).board.fwMeta 0 fwMetaRecordSize = _
    rw [hboard']
    exact hread'.trans hread

/-- A call that leaves sector 0 and the installed version alone. -/
theorem Installed.call (h : Installed s) {r : UpdaterRequest} {c : FwCall} (hc : Harmless c)
    (hversion : ∀ version, c ≠ .setInstalledVersion version) {a : c.Answer}
    (hcall : tasks sha failedErase (.fw r c) s a t) : Installed t := by
  obtain ⟨b, hboard, -, rfl⟩ := hcall
  obtain ⟨record, hread, hinstalled⟩ := h
  have hsector := (harmless_step c hc s.board a b hboard).sector0
  refine ⟨record, ?_, ?_⟩
  · show read ({ s with board := b }.act r c).board.fwMeta 0 fwMetaRecordSize = _
    rw [(act_kept { s with board := b } r c).1, ← hread]
    apply read_congr
    intro i hi
    exact hsector _ (by simp only [fwMetaRecordSize, fwMetaSectorBytes] at *; omega)
  · exact (act_installed { s with board := b } r hversion).trans hinstalled

/-- A call for a request keeps the reported values in order. -/
theorem Consistent.now_fw (h : Consistent sha ota s) {r : UpdaterRequest} {c : FwCall}
    (hc : StatusGuard sha (.fw r c) s) {a : c.Answer}
    (hcall : tasks sha failedErase (.fw r c) s a t) : t.moment.Sound sha := by
  obtain ⟨hreceived, hdone, hkept⟩ := hc
  have hfinished (hstate : s.state = .done) : ∃ request, s.moment.decided = some request ∧
      Finished sha request t.moment := by
    obtain ⟨request, hlast, hfinished⟩ := h.now.done hstate
    exact ⟨request, hlast, hfinished.call (hkept hstate) hcall⟩
  by_cases hwrite : StatusWrite c
  · have hcall' := hcall
    obtain ⟨b, hboard, -, rfl⟩ := hcall
    cases c with
    | startCounters total => exact ⟨Nat.zero_le _, hfinished⟩
    | setReceived received => exact ⟨hreceived received rfl, hfinished⟩
    | setUploadState state =>
        refine ⟨h.now.received_le, fun hstate => ⟨r, ?_, ?_⟩⟩
        · exact List.getLast?_concat
        · obtain rfl : state = .done := hstate
          exact Finished.call (c := .setUploadState .done) (hdone rfl) trivial hcall'
    | _ => exact hwrite.elim
  · have hcall' := hcall
    obtain ⟨b, hboard, -, rfl⟩ := hcall
    have hsame := act_sameStatus { s with board := b } r hwrite
    have hdecided := act_decided { s with board := b } r (c := c)
      (by rintro state rfl; exact hwrite trivial)
    refine ⟨?_, fun hstate => ?_⟩
    · show ({ s with board := b }.act r c).received ≤ ({ s with board := b }.act r c).total
      rw [hsame.received, hsame.total]
      exact h.now.received_le
    · obtain ⟨request, hlast, hfinished⟩ := hfinished (hsame.state.symm.trans hstate)
      exact ⟨request, (congrArg List.getLast? hdecided).trans hlast, hfinished⟩

/-- Every call that its guard allows keeps the invariant. -/
theorem Consistent.call (h : Consistent sha ota s) {c : UpdaterCall} (hc : StatusGuard sha c s)
    {a : c.Answer} (hcall : tasks sha failedErase c s a t) : Consistent sha ota t := by
  cases c with
  | fw r c =>
      have hnow := h.now_fw hc hcall
      obtain ⟨b, hboard, -, rfl⟩ := hcall
      have hlog := act_sameLog { s with board := b } r c
      have hkept := act_kept { s with board := b } r c
      apply Consistent.observe
      refine ⟨hnow, ?_, ?_, ?_, ?_⟩
      · rw [hkept.2]
        exact h.moments
      · rw [hlog.replies]
        exact h.replies
      · rw [hlog.handed]
        exact h.handed
      · rw [hkept.1]
        exact (board_otaPartition hboard).trans h.partition
  | claim r =>
      obtain ⟨-, rfl⟩ := hcall
      by_cases hbusy : s.isBusy
      · rw [if_pos hbusy]
        exact h
      · rw [if_neg hbusy]
        apply Consistent.observe
        exact ⟨⟨h.now.received_le, fun hdone => by cases hdone⟩, h.moments, h.replies, h.handed,
          h.partition⟩
  | queueSend r =>
      dsimp only [tasks] at hcall
      split at hcall
      · obtain ⟨-, rfl⟩ := hcall
        refine ⟨h.now, h.moments, h.replies, fun q hq => ?_, h.partition⟩
        rcases List.mem_append.mp hq with hold | hlast
        · exact h.handed q hold
        · rw [List.mem_singleton.mp hlast]
          exact hc
      · obtain ⟨-, rfl⟩ := hcall
        exact h
  | queueReceive =>
      obtain ⟨rest, -, rfl⟩ := hcall
      exact ⟨h.now, h.moments, h.replies, h.handed, h.partition⟩
  | respond r status body =>
      obtain rfl := hcall
      refine ⟨h.now, h.moments, fun reply hreply => ?_, h.handed, h.partition⟩
      rcases List.mem_append.mp hreply with hold | hlast
      · exact h.replies reply hold
      · rw [List.mem_singleton.mp hlast]
        exact ⟨hc, h.moments⟩
  | readStatus =>
      obtain ⟨-, rfl⟩ := hcall
      exact h
  | asyncBegin | setHdr | sendError =>
      obtain rfl := hcall
      exact h

end Calls

/-! ## What each task relies on -/

/-- The version that the status handler has copied was installed at some moment together with what
is the state now. -/
def Sampled (version : Version) (s : Shared) : Prop :=
  ∃ m ∈ s.moments, m.installed = version ∧ m.state = s.state ∧ m.received = s.received ∧
    m.total = s.total

/-- What the worker does, as the server task sees it. -/
structure ServerSees (sha : Content → Option (Vector UInt8 fwSha256Len))
    (ota : Option OtaPartition) (s t : Shared) : Prop where
  consistent : Consistent sha ota s → Consistent sha ota t
  copied : t.copied = s.copied
  moments : ∀ m ∈ s.moments, m ∈ t.moments
  sampled : ∀ version, s.copied = some version → Sampled version s → Sampled version t

/-- What the server task does, as the worker sees it. -/
structure WorkerSees (sha : Content → Option (Vector UInt8 fwSha256Len))
    (ota : Option OtaPartition) (s t : Shared) : Prop where
  consistent : Consistent sha ota s → Consistent sha ota t
  board : t.board = s.board
  total : t.total = s.total
  installed : t.installed = s.installed
  done : t.state = .done → s.state = .done

def statusGuard (sha : Content → Option (Vector UInt8 fwSha256Len)) (ota : Option OtaPartition)
    (c : UpdaterCall) (s : Shared) : Prop :=
  Consistent sha ota s ∧ StatusGuard sha c s

def statusRely (sha : Content → Option (Vector UInt8 fwSha256Len)) (ota : Option OtaPartition) :
    UpdaterTask → Shared → Shared → Prop
  | .server => ServerSees sha ota
  | .worker => WorkerSees sha ota

/-- The worker does not write the state or a counter while the version that the status handler has
copied is no longer the installed one. -/
def StatusUndisturbed (x : Tasks) (_ : UpdaterTask) (c : UpdaterCall) : Prop :=
  ∀ r fc, c = .fw r fc → StatusWrite fc → ∀ version, x.state.copied = some version →
    x.state.installed = version

section Sees

variable {s t : Shared}

theorem ServerSees.refl (s : Shared) : ServerSees sha ota s s :=
  ⟨id, rfl, fun _ hm => hm, fun _ _ h => h⟩

theorem WorkerSees.refl (s : Shared) : WorkerSees sha ota s s := ⟨id, rfl, rfl, rfl, id⟩

theorem ServerSees.trans {u : Shared} (h : ServerSees sha ota s t) (h' : ServerSees sha ota t u) :
    ServerSees sha ota s u := by
  refine ⟨fun hs => h'.consistent (h.consistent hs), h'.copied.trans h.copied,
    fun m hm => h'.moments m (h.moments m hm), fun version hcopied hsampled => ?_⟩
  exact h'.sampled version (h.copied.trans hcopied) (h.sampled version hcopied hsampled)

theorem WorkerSees.trans {u : Shared} (h : WorkerSees sha ota s t) (h' : WorkerSees sha ota t u) :
    WorkerSees sha ota s u :=
  ⟨fun hs => h'.consistent (h.consistent hs), h'.board.trans h.board, h'.total.trans h.total,
    h'.installed.trans h.installed, fun hdone => h.done (h'.done hdone)⟩

/-- A call of the worker in an undisturbed run. -/
theorem serverSees_of_worker {x : Tasks} {c : UpdaterCall} {a : c.Answer}
    (hallowed : StatusUndisturbed x .worker c) (hupload : uploadGuard .worker c x.state)
    (hstatus : statusGuard sha ota c x.state) (hcall : tasks sha failedErase c x.state a t) :
    ServerSees sha ota x.state t := by
  have hconsistent : Consistent sha ota t := hstatus.1.call hstatus.2 hcall
  obtain ⟨hsingle, hguard⟩ := hupload
  cases c with
  | fw r c =>
      have hpath : r.path = .update := by
        apply hstatus.1.handed
        rw [hsingle.handed, hguard.1]
        simp
      obtain ⟨b, -, -, rfl⟩ := hcall
      let y := { x.state with board := b }.act r c
      have hmoments : y.moments = x.state.moments := (act_kept { x.state with board := b } r c).2
      have hold : ∀ m ∈ x.state.moments, m ∈ y.observe.moments := by
        intro m hm
        rw [← hmoments] at hm
        exact List.mem_append_left _ hm
      refine ⟨fun _ => hconsistent, act_copied { x.state with board := b } hpath c, hold,
        fun version hversion hsampled => ?_⟩
      · by_cases hwrite : StatusWrite c
        · -- The copied version is still installed: this moment is the new sample.
          refine ⟨y.moment, List.mem_append_right _ (List.mem_singleton_self _), ?_, rfl, rfl, rfl⟩
          have hinstalled : y.installed = x.state.installed :=
            act_installed { x.state with board := b } r (by rintro v rfl; exact hwrite)
          exact hinstalled.trans (hallowed r c rfl hwrite version hversion)
        · have hsame := act_sameStatus { x.state with board := b } r hwrite
          obtain ⟨m, hm, hinstalled, hstate, hreceived, htotal⟩ := hsampled
          exact ⟨m, hold m hm, hinstalled,
            hstate.trans hsame.state.symm, hreceived.trans hsame.received.symm,
            htotal.trans hsame.total.symm⟩
  | queueReceive =>
      obtain ⟨rest, -, rfl⟩ := hcall
      exact ⟨fun _ => hconsistent, rfl, fun _ hm => hm, fun _ _ h => h⟩
  | _ => exact hguard.elim

/-- A call of the server task. -/
theorem workerSees_of_server {c : UpdaterCall} {a : c.Answer}
    (hupload : uploadGuard .server c s) (hstatus : statusGuard sha ota c s)
    (hcall : tasks sha failedErase c s a t) : WorkerSees sha ota s t := by
  have hconsistent : Consistent sha ota t := hstatus.1.call hstatus.2 hcall
  obtain ⟨hsingle, hguard⟩ := hupload
  cases c with
  | fw r c =>
      cases c with
      | setUploadState state =>
          obtain ⟨b, hboard, -, rfl⟩ := hcall
          obtain rfl : b = s.board := hboard
          obtain ⟨rfl, -, -⟩ := hguard
          exact ⟨fun _ => hconsistent, rfl, rfl, rfl, fun hdone => by cases hdone⟩
      | copyInstalledVersion =>
          obtain ⟨b, hboard, -, rfl⟩ := hcall
          obtain rfl : b = s.board := hboard
          have hsame := act_sameStatus s r (c := .copyInstalledVersion) id
          exact ⟨fun _ => hconsistent, (act_kept s r _).1, hsame.total,
            act_installed s r (by simp), fun hdone => hsame.state.symm.trans hdone⟩
      | _ => exact hguard.elim
  | claim r =>
      obtain ⟨-, rfl⟩ := hcall
      by_cases hbusy : s.isBusy
      · rw [if_pos hbusy] at hconsistent ⊢
        exact .refl _
      · rw [if_neg hbusy] at hconsistent ⊢
        exact ⟨fun _ => hconsistent, rfl, rfl, rfl, fun hdone => by cases hdone⟩
  | queueSend r =>
      dsimp only [tasks] at hcall
      split at hcall
      · obtain ⟨-, rfl⟩ := hcall
        exact ⟨fun _ => hconsistent, rfl, rfl, rfl, id⟩
      · obtain ⟨-, rfl⟩ := hcall
        exact .refl _
  | respond r status body =>
      obtain rfl := hcall
      exact ⟨fun _ => hconsistent, rfl, rfl, rfl, id⟩
  | readStatus =>
      obtain ⟨-, rfl⟩ := hcall
      exact .refl _
  | asyncBegin | setHdr =>
      obtain rfl := hcall
      exact .refl _
  | queueReceive | sendError => exact hguard.elim

end Sees

/-! ## The server task -/

section ServerTask

variable {s : Shared} {r : UpdaterRequest}

/-- The weakest precondition for the server task, as far as the status is concerned. -/
abbrev StatusServerWp (sha : Content → Option (Vector UInt8 fwSha256Len))
    (failedErase : UInt8 → UInt8 → Prop) (ota : Option OtaPartition) (p : Task EspErr)
    (s : Shared) : Prop :=
  p.wp (Interfered (ServerSees sha ota) (tasks sha failedErase)) (statusGuard sha ota)
    (fun _ => Consistent sha ota) s

/-- The calls of `HandleUpload()`. -/
def HandleCall (r : UpdaterRequest) : UpdaterCall → Prop
  | .claim q | .asyncBegin q | .queueSend q | .setHdr q _ _ | .respond q _ _ | .sendError q =>
    q = r
  | .fw q c => q = r ∧ (c = .setUploadState .error ∨ c = .asyncComplete)
  | .queueReceive | .readStatus => False

theorem refuse_only (r : UpdaterRequest) (status body : String) :
    (refuse r status body).Only (HandleCall r) :=
  Only.bind ⟨rfl, fun _ => trivial⟩ fun _ => Only.bind ⟨rfl, fun _ => trivial⟩ fun _ => trivial

theorem handleUpload_only (ota : Option OtaPartition) (r : UpdaterRequest) :
    (handleUpload ota r).Only (HandleCall r) := by
  have hrefused (status body : String) :
      (perform (UpdaterCall.fw r (.setUploadState .error)) >>= fun _ =>
        refuse r status body : Task EspErr).Only (HandleCall r) :=
    Only.bind ⟨⟨rfl, .inl rfl⟩, fun _ => trivial⟩ fun _ => refuse_only r status body
  refine Only.bind ⟨rfl, fun _ => trivial⟩ fun isBusy => Only.ite (refuse_only r _ _) ?_
  refine Only.ite (hrefused _ _) ?_
  refine Only.bind ⟨rfl, fun _ => trivial⟩ fun err => Only.ite (hrefused _ _) ?_
  refine Only.bind ⟨rfl, fun _ => trivial⟩ fun isSent => Only.ite ?_ trivial
  refine Only.bind ⟨⟨rfl, .inl rfl⟩, fun _ => trivial⟩ fun _ => ?_
  exact Only.bind ⟨rfl, fun _ => trivial⟩ fun _ =>
    Only.bind ⟨⟨rfl, .inr rfl⟩, fun _ => trivial⟩ fun _ => trivial

theorem HandleCall.guard {c : UpdaterCall} (hc : HandleCall r c) (hpath : r.path = .update)
    (s : Shared) : StatusGuard sha c s := by
  cases c with
  | fw q c =>
      obtain ⟨-, rfl | rfl⟩ := hc
      · exact ⟨by simp, by simp, fun _ => trivial⟩
      · exact ⟨by simp, by simp, fun _ => trivial⟩
  | queueSend q =>
      obtain rfl : q = r := hc
      exact hpath
  | respond q status body =>
      obtain rfl : q = r := hc
      intro hstatus
      rw [hpath] at hstatus
      cases hstatus
  | _ => trivial

theorem wp_handleUpload_status (hpath : r.path = .update) (h : Consistent sha ota s) :
    StatusServerWp sha failedErase ota (handleUpload ota r) s := by
  apply wp_interfered_only (handleUpload_only ota r) h (fun _ _ ht h => ht.consistent h)
  · exact fun c t hc ht => ⟨ht, hc.guard hpath t⟩
  · exact fun c t a u hc ht hcall => ht.call (hc.guard hpath t) hcall

/-- The status handler reports what held when it copied the version, or later. -/
theorem wp_handleStatus_status (hpath : r.path = .status) (h : Consistent sha ota s) :
    StatusServerWp sha failedErase ota (handleStatus r) s := by
  have hguard {t : Shared} : StatusGuard sha (.fw r .copyInstalledVersion) t :=
    ⟨by simp, by simp, fun _ => trivial⟩
  apply wp_interfered h (fun _ _ ht h => ht.consistent h) ⟨h, hguard⟩
  intro t installed u ht hcall
  have hu : Consistent sha ota u := ht.call hguard hcall
  have hcopied : u.copied = some installed ∧ Sampled installed u := by
    obtain ⟨b, -, hinstalled, rfl⟩ := hcall
    obtain rfl : installed = t.installed := hinstalled
    let y := { t with board := b }.act r .copyInstalledVersion
    have hact : y = { t with board := b, copied := some t.installed } := if_pos hpath
    have hsame : y.installed = t.installed := act_installed { t with board := b } r (by simp)
    refine ⟨congrArg Shared.copied hact, y.moment, ?_, hsame, rfl, rfl, rfl⟩
    exact List.mem_append_right _ (List.mem_singleton_self _)
  apply wp_interfered (A := fun v => Consistent sha ota v ∧ v.copied = some installed ∧
    Sampled installed v) ⟨hu, hcopied⟩ ?_ ⟨hu, trivial⟩
  · rintro _ status v ⟨hv, -, m, hm, hinstalled, hstate, hreceived, htotal⟩ ⟨rfl, rfl⟩
    have hreports : ∃ m ∈ v.moments,
        statusBody v.state v.received v.total installed = m.body :=
      ⟨m, hm, by rw [Moment.body, hinstalled, hstate, hreceived, htotal]⟩
    apply wp_interfered (A := fun w => Consistent sha ota w ∧ ∃ m ∈ w.moments,
      statusBody v.state v.received v.total installed = m.body) ⟨hv, hreports⟩ ?_
      ⟨hv, fun _ => ⟨rfl, hreports⟩⟩
    · rintro w _ x ⟨hw, hbody⟩ hcall
      have hresponds : StatusGuard sha (.respond r "200 OK"
          (statusBody v.state v.received v.total installed)) w := fun _ => ⟨rfl, hbody⟩
      exact hw.call hresponds hcall
    · rintro w x hwx ⟨hw, m, hm, hbody⟩
      exact ⟨hwx.consistent hw, m, hwx.moments m hm, hbody⟩
  · rintro v w hvw ⟨hv, hcopied, hsampled⟩
    exact ⟨hvw.consistent hv, hvw.copied.trans hcopied, hvw.sampled _ hcopied hsampled⟩

end ServerTask

/-! ## The worker -/

section Worker

variable {s : Shared} {r : UpdaterRequest} {total : Nat}

/-- A function of the worker that works on the request, as far as the status is concerned. -/
abbrev StatusFwWp {α : Type} (sha : Content → Option (Vector UInt8 fwSha256Len))
    (failedErase : UInt8 → UInt8 → Prop) (ota : Option OtaPartition) (r : UpdaterRequest)
    (p : Fw α) (Q : α → Shared → Prop) (s : Shared) : Prop :=
  p.wp (fun c => Interfered (fun s t => WorkerRely s t ∧ WorkerSees sha ota s t)
    (tasks sha failedErase) (.fw r c)) (fun c => statusGuard sha ota (.fw r c)) Q s

/-- The worker processes an upload of the given size. -/
structure Filling (sha : Content → Option (Vector UInt8 fwSha256Len)) (ota : Option OtaPartition)
    (r : UpdaterRequest) (total : Nat) (s : Shared) : Prop where
  processing : Processing r s
  consistent : Consistent sha ota s
  content : r.contentLen.toNat = total
  total : s.total = total

theorem Filling.rely {t : Shared} (h : Filling sha ota r total s)
    (ht : WorkerRely s t ∧ WorkerSees sha ota s t) : Filling sha ota r total t :=
  ⟨h.processing.rely ht.1, ht.2.consistent h.consistent, h.content, ht.2.total.trans h.total⟩

theorem Installed.rely {t : Shared} (h : Installed s) (ht : WorkerSees sha ota s t) :
    Installed t := by
  obtain ⟨record, hread, hinstalled⟩ := h
  exact ⟨record, by rw [ht.board, hread], ht.installed.trans hinstalled⟩

/-- The server task leaves what an upload has committed. -/
theorem Finished.rely {t : Shared} (h : Finished sha r s.moment) (ht : WorkerSees sha ota s t) :
    Finished sha r t.moment := by
  obtain ⟨htotal, hcommitted, record, hread, hinstalled⟩ := h
  refine ⟨htotal.trans ht.total.symm, ?_, record, ?_, ht.installed.trans hinstalled⟩
  · show Committed sha t.total t.board
    rw [ht.board, ht.total]
    exact hcommitted
  · show read t.board.fwMeta 0 fwMetaRecordSize = _
    rw [ht.board]
    exact hread

/-- What the upload has committed is finished with its version installed. -/
theorem Filling.finished (h : Filling sha ota r total s) (hcommitted : Committed sha total s.board)
    (hinstalled : Installed s) : Finished sha r s.moment := by
  refine ⟨h.content.trans h.total.symm, ?_, hinstalled⟩
  show Committed sha s.total s.board
  rw [h.total]
  exact hcommitted

/-- What the worker calls between the start of the counters and the outcome. -/
def FillWork (total : Nat) (c : FwCall) : Prop :=
  UploadWork c ∧ (∀ received, c = .setReceived received → received ≤ total) ∧
    ∀ total, c ≠ .startCounters total

theorem Filling.guard (h : Filling sha ota r total s) {c : FwCall} (hc : FillWork total c) :
    StatusGuard sha (.fw r c) s := by
  refine ⟨fun received heq => ?_, fun heq => ?_, fun hdone => ?_⟩
  · rw [h.total]
    exact hc.2.1 received heq
  · rw [heq] at hc
    exact hc.1.elim
  · -- The claim is held, so the upload is not done.
    have hbusy := h.processing.1.single.busy_of_holding h.processing.2
    rw [hdone] at hbusy
    cases hbusy

theorem Filling.call {t : Shared} (h : Filling sha ota r total s) {c : FwCall} (hc : FillWork total c)
    {a : c.Answer} (hcall : tasks sha failedErase (.fw r c) s a t) : Filling sha ota r total t := by
  refine ⟨h.processing.call hc.1 hcall, h.consistent.call (h.guard hc) hcall, h.content, ?_⟩
  obtain ⟨b, -, -, rfl⟩ := hcall
  exact (act_total { s with board := b } r hc.2.2).trans h.total

/-- What such a function does on the board. -/
theorem wp_onBoard {α : Type} {p : Fw α} {G : FwCall → Board → Prop} {Q : α → Board → Prop}
    (hp : p.wp (board sha failedErase) G Q s.board) :
    p.wp (fun c => Interfered (fun s t => WorkerRely s t ∧ WorkerSees sha ota s t)
      (tasks sha failedErase) (.fw r c)) (fun c t => G c t.board) (fun a t => Q a t.board) s := by
  refine wp_project Shared.board ?_ hp
  rintro c t a u ⟨v, hv, b, hboard, -, rfl⟩
  show board sha failedErase c t.board a ({ v with board := b }.act r c).board
  rw [(act_kept { v with board := b } r c).1, ← hv.2.board]
  exact hboard

/-- The same, with what its calls keep. -/
theorem wp_filling_keep {α : Type} {p : Fw α} {P : FwCall → Prop} {Q : α → Board → Prop}
    {I : Shared → Prop} (hP : ∀ c, P c → FillWork total c)
    (hrely : ∀ s t, WorkerSees sha ota s t → I s → I t)
    (hcall : ∀ {c : FwCall} {a : c.Answer} {s t}, P c → I s →
      tasks sha failedErase (.fw r c) s a t → I t)
    (hp : p.wp (board sha failedErase) (fun c _ => P c) Q s.board) (h : Filling sha ota r total s)
    (hI : I s) :
    StatusFwWp sha failedErase ota r p (fun a t => Q a t.board ∧ Filling sha ota r total t ∧ I t)
      s := by
  apply wp_keep (wp_onBoard hp) ⟨h, hI⟩
  · exact fun c t hc ht => ⟨ht.1.consistent, ht.1.guard (hP c hc)⟩
  · rintro c t a u hc ⟨ht, hIt⟩ ⟨v, hv, hstep⟩
    exact ⟨(ht.rely hv).call (hP c hc) hstep, hcall hc (hrely t v hv.2 hIt) hstep⟩

theorem wp_filling {α : Type} {p : Fw α} {Q : α → Board → Prop}
    (hp : p.wp (board sha failedErase) (fun c _ => FillWork total c) Q s.board)
    (h : Filling sha ota r total s) :
    StatusFwWp sha failedErase ota r p (fun a t => Q a t.board ∧ Filling sha ota r total t) s :=
  wp_mono (wp_filling_keep (I := fun _ => True) (fun _ hc => hc) (fun _ _ _ _ => trivial)
    (fun _ _ _ => trivial) hp h trivial) fun _ _ ht => ⟨ht.1, ht.2.1⟩

theorem FlashWork.fillWork {c : FwCall} (hc : FlashWork c) (total : Nat) : FillWork total c := by
  refine ⟨hc.uploadWork, ?_, ?_⟩ <;> rintro n rfl <;> exact hc.elim

theorem wp_flashWork {α : Type} {p : Fw α} (hp : p.Only FlashWork) (h : Filling sha ota r total s) :
    StatusFwWp sha failedErase ota r p (fun _ t => Filling sha ota r total t) s :=
  wp_mono (wp_filling (Only.wp_guard (Only.mono hp fun _ hc => hc.fillWork total) _) h)
    fun _ _ ht => ht.2

/-- One call of the worker. -/
theorem wp_fillCall {c : FwCall} (hc : FillWork total c) (h : Filling sha ota r total s)
    {Q : c.Answer → Shared → Prop}
    (hQ : ∀ t a u, WorkerSees sha ota s t → Filling sha ota r total u →
      tasks sha failedErase (.fw r c) t a u → Q a u) :
    StatusFwWp sha failedErase ota r (perform c) Q s := by
  refine ⟨⟨h.consistent, h.guard hc⟩, ?_⟩
  rintro a u ⟨t, ht, hcall⟩
  exact hQ t a u ht.2 ((h.rely ht).call hc hcall) hcall

/-- A committed record is in flash, and its version installed. -/
theorem wp_commitMetaRecord_status (otaSize : UInt32) (head : List UInt8)
    (h : Filling sha ota r total s) :
    StatusFwWp sha failedErase ota r (commitMetaRecord otaSize total head)
      (fun result t => Filling sha ota r total t ∧ (result = .ok → Installed t)) s := by
  rw [commitMetaRecord, StatusFwWp, wp_bind]
  refine wp_mono (wp_flashWork (p := computeFwImageSha256) ⟨trivial, fun _ => trivial⟩ h) ?_
  intro sha256 t ht
  rw [wp_ite]
  split
  · exact ⟨ht, by simp⟩
  rw [wp_bind]
  let record := buildFwMetaRecord (headVersion head) (UInt32.ofNat total) sha256.2
  have hwork : (writeAndCheckMetaRecord otaSize record).Only (FillWork total) :=
    Only.mono (writeAndCheckMetaRecord_work otaSize record) fun _ hc => hc.fillWork total
  have hstored := wp_and (Only.wp_guard (D := board sha failedErase) hwork t.board)
    (wp_writeAndCheckMetaRecord otaSize record t.board)
  refine wp_mono (wp_filling (wp_conseq hstored (fun _ _ hc => hc.1) (fun _ _ hq => hq.2)) ht) ?_
  rintro isCommitted u ⟨⟨content, hcontent, hread⟩, hu⟩
  rw [wp_ite]
  split
  · rw [wp_bind]
    refine wp_mono (wp_flashWork eraseFwMetaRecord_work hu) fun _ v hv => ?_
    exact ⟨hv, by simp⟩
  rename_i hcommitted
  rw [wp_bind]
  have hset : FillWork total (.setInstalledVersion (some record.version)) :=
    ⟨trivial, by simp, by simp⟩
  apply wp_fillCall hset hu
  rintro v _ w hv hw hcall
  have hinstalled : Installed w := by
    obtain ⟨b, hboard, -, rfl⟩ := hcall
    obtain rfl : b = v.board := hboard
    refine ⟨record, ?_, rfl⟩
    show read v.board.fwMeta 0 fwMetaRecordSize = record.toBytes
    rw [hv.board, hcontent]
    exact (hread (by simpa using hcommitted)).1
  rw [wp_bind]
  have hclear := wp_and (Only.wp_guard (D := board sha failedErase) clearCrashCount_work w.board)
    (Only.wp_guard clearCrashCount_only w.board)
  refine wp_mono (wp_filling_keep (P := fun c => FlashWork c ∧ QuietCall c)
    (fun c hc => hc.1.fillWork total) (fun _ _ hxy hx => hx.rely hxy) ?_ hclear hw hinstalled) ?_
  · intro c a x y hc hx hcall
    exact Installed.call hx hc.2.harmless (by rintro version rfl; exact hc.1) hcall
  · exact fun _ x hx => ⟨hx.2.1, fun _ => hx.2.2⟩

/-- The counter of received bytes stays below the size of the upload. -/
theorem wp_receiveImage_bounded (handle : UInt32) (received timeouts : Nat) (head : List UInt8)
    (b : Board) (hle : received ≤ total) :
    (receiveImage handle total received timeouts head).wp (board sha failedErase)
      (fun c _ => FillWork total c) (fun _ _ => True) b := by
  have hrecv (wanted : Nat) : FillWork total (.recv wanted) := ⟨trivial, by simp, by simp⟩
  induction received, timeouts, head using receiveImage.induct total generalizing b with
  | case1 received timeouts head hmore ihretry ihdata =>
      rw [receiveImage, dif_pos hmore, wp_bind, recv, wp_perform]
      refine ⟨hrecv _, fun answer t ht => ?_⟩
      cases answer with
      | timeout =>
          by_cases hretry : timeouts < fwUploadRecvRetries
          · simpa [hretry] using ihretry hretry t hle
          · simp [hretry]
      | failed => trivial
      | data chunk =>
          obtain ⟨hwanted, -⟩ := ht
          by_cases hclosed : chunk.length = 0
          · simp [hclosed]
          simp only [hclosed, dite_false]
          have hdiscard (u : Board) (result : UploadResult × List UInt8) :
              (discardBody (total - received - chunk.length) 0 >>= fun _ =>
                (pure result : Fw (UploadResult × List UInt8))).wp (board sha failedErase)
                (fun c _ => FillWork total c) (fun _ _ => True) u := by
            apply Only.wp_guard
            exact (discardBody_only hrecv _ _).bind fun _ => only_pure result
          rw [wp_ite]
          split
          · exact hdiscard t _
          rw [wp_bind, wp_perform]
          refine ⟨⟨trivial, by simp, by simp⟩, fun err u _ => ?_⟩
          rw [wp_ite]
          split
          · exact hdiscard u _
          have hnext : received + chunk.length ≤ total := by
            have := hwanted.trans (Nat.min_le_left _ _)
            omega
          rw [wp_bind, wp_perform]
          refine ⟨⟨trivial, ?_, by simp⟩, fun _ v _ => ihdata chunk hclosed v hnext⟩
          intro n hn
          obtain rfl : received + chunk.length = n := FwCall.setReceived.inj hn
          exact hnext
  | case2 received timeouts head hdone =>
      rw [receiveImage, dif_neg hdone]
      trivial

/-- An upload that succeeds has installed the version of a record. -/
theorem wp_runUpload_installed (h : Filling sha ota r total s) :
    StatusFwWp sha failedErase ota r (runUpload ota total)
      (fun outcome t => Filling sha ota r total t ∧ (outcome.1 = .ok → Installed t)) s := by
  cases ota with
  | none => exact ⟨h, by simp⟩
  | some partition =>
      rw [runUpload, StatusFwWp, wp_ite]
      split
      · exact ⟨h, by simp⟩
      rw [wp_bind]
      refine wp_mono (wp_flashWork eraseFwMetaRecord_work h) fun err t ht => ?_
      rw [wp_ite]
      split
      · exact ⟨ht, by simp⟩
      rw [wp_bind]
      apply wp_fillCall (c := .setInstalledVersion none) ⟨trivial, by simp, by simp⟩ ht
      intro _ _ u _ hu _
      rw [wp_bind]
      apply wp_fillCall (c := .otaBegin total) ⟨trivial, by simp, by simp⟩ hu
      intro _ opened v _ hv _
      rw [wp_ite]
      split
      · exact ⟨hv, by simp⟩
      rw [wp_bind]
      refine wp_mono (wp_filling (wp_receiveImage_bounded opened.2 0 0 [] v.board
        (Nat.zero_le _)) hv) ?_
      rintro received w ⟨-, hw⟩
      rw [wp_ite]
      split
      · rename_i hrejected
        exact ⟨hw, fun hok => absurd hok hrejected⟩
      rw [wp_bind]
      apply wp_fillCall (c := .otaEnd opened.2) ⟨trivial, by simp, by simp⟩ hw
      intro _ err x _ hx _
      rw [wp_ite]
      split
      · exact ⟨hx, by simp⟩
      rw [wp_bind]
      exact wp_commitMetaRecord_status partition.size received.2 hx

/-- It has committed the body. -/
theorem wp_runUpload_status (h : Filling sha ota r total s) (hreceived : s.board.received = []) :
    StatusFwWp sha failedErase ota r (runUpload ota total) (fun outcome t =>
      Filling sha ota r total t ∧ (outcome.1 = .ok → Finished sha r t.moment)) s := by
  have hcommitted := @wp_runUpload_committed sha failedErase s.board ota total hreceived
    h.consistent.partition
  refine wp_conseq (wp_and (wp_onBoard hcommitted) (wp_runUpload_installed h)) (fun _ _ hc => hc.2) ?_
  rintro outcome t ⟨hcommitted, ht, hinstalled⟩
  exact ⟨ht, fun hok => ht.finished (hcommitted hok) (hinstalled hok)⟩

/-- What the worker calls once the outcome is set. -/
def AfterOutcome : FwCall → Prop
  | .sendText _ _ | .startRestartTimer | .restart | .asyncComplete => True
  | _ => False

theorem AfterOutcome.guard {c : FwCall} (hc : AfterOutcome c) (s : Shared) :
    StatusGuard sha (.fw r c) s := by
  cases c with
  | sendText | startRestartTimer | restart | asyncComplete =>
      exact ⟨by simp, by simp, fun _ => trivial⟩
  | _ => exact hc.elim

theorem wp_afterOutcome {p : Fw Unit} (hp : p.Only AfterOutcome) (h : Consistent sha ota s) :
    StatusFwWp sha failedErase ota r p (fun _ => Consistent sha ota) s := by
  refine wp_mono (wp_keep (A := Consistent sha ota) (Only.wp_guard hp s) h ?_ ?_) fun _ _ ht => ht.2
  · exact fun c t hc ht => ⟨ht, hc.guard t⟩
  · rintro c t a u hc ht ⟨v, hv, hcall⟩
    exact (hv.2.consistent ht).call (hc.guard v) hcall

theorem wp_replyUpload_status (outcome : UploadResult × Option UInt32)
    (h : Filling sha ota r total s) (hok : outcome.1 = .ok → Finished sha r s.moment) :
    StatusFwWp sha failedErase ota r
      (replyUpload outcome >>= fun _ => perform FwCall.asyncComplete)
      (fun _ => Consistent sha ota) s := by
  have hsend (result : UploadResult) : (sendReply result).Only AfterOutcome :=
    ⟨trivial, fun _ => trivial⟩
  have hcomplete : (perform FwCall.asyncComplete : Fw Unit).Only AfterOutcome :=
    ⟨trivial, fun _ => trivial⟩
  unfold replyUpload
  rw [ite_bind, StatusFwWp, wp_ite]
  split
  · simp only [bind_assoc]
    have habort : (abortIfOpen outcome.2).Only (FillWork total) := by
      cases outcome.2 with
      | none => trivial
      | some handle =>
          exact Only.bind ⟨⟨trivial, by simp, by simp⟩, fun _ => trivial⟩ fun _ => trivial
    rw [wp_bind]
    refine wp_mono (wp_filling (Only.wp_guard habort _) h) ?_
    rintro _ t ⟨-, ht⟩
    have hguard {u : Shared} (hu : Filling sha ota r total u) :
        StatusGuard sha (.fw r (.setUploadState .error)) u :=
      ⟨by simp, by simp, fun _ => trivial⟩
    rw [wp_bind, wp_perform]
    refine ⟨⟨ht.consistent, hguard ht⟩, ?_⟩
    rintro _ u ⟨v, hv, hcall⟩
    have hu : Consistent sha ota u := (ht.rely hv).consistent.call (hguard (ht.rely hv)) hcall
    exact wp_afterOutcome ((hsend _).bind fun _ => hcomplete) hu
  · rename_i hdone
    simp only [bind_assoc]
    rw [wp_bind, wp_perform]
    have hcopy : FillWork total .copyInstalledVersion := ⟨trivial, by simp, by simp⟩
    refine ⟨⟨h.consistent, h.guard hcopy⟩, ?_⟩
    rintro version t ⟨v, hv, hcall⟩
    have ht : Filling sha ota r total t := (h.rely hv).call hcopy hcall
    have hfinished : Finished sha r t.moment :=
      Finished.call (c := .copyInstalledVersion) ((hok (not_not.mp hdone)).rely hv.2) trivial hcall
    have hguard {u : Shared} (hu : Finished sha r u.moment) :
        StatusGuard sha (.fw r (.setUploadState .done)) u :=
      ⟨by simp, fun _ => hu, fun _ => trivial⟩
    rw [wp_bind, wp_perform]
    refine ⟨⟨ht.consistent, hguard hfinished⟩, ?_⟩
    rintro _ u ⟨w, hw, hset⟩
    have hu : Consistent sha ota u :=
      (ht.rely hw).consistent.call (hguard (hfinished.rely hw.2)) hset
    have hrestart : scheduleRestart.Only AfterOutcome :=
      Only.bind ⟨trivial, fun _ => trivial⟩ fun _ =>
        Only.ite (Only.bind ⟨trivial, fun _ => trivial⟩ fun never => never.elim) trivial
    exact wp_afterOutcome ((hsend _).bind fun _ => hrestart.bind fun _ => hcomplete) hu

theorem wp_runUploadWorker_status (h : Single s) (htaken : s.taken = s.completed)
    (hs : Consistent sha ota s) :
    (runUploadWorker ota).wp (Interfered (fun s t => WorkerRely s t ∧ WorkerSees sha ota s t)
      (tasks sha failedErase)) (statusGuard sha ota) (fun _ => Consistent sha ota) s := by
  apply wp_interfered (A := fun u => (Single u ∧ u.taken = u.completed) ∧ Consistent sha ota u)
    ⟨⟨h, htaken⟩, hs⟩ ?_ ⟨hs, trivial⟩
  · rintro t r u ⟨⟨ht, htaken⟩, hct⟩ hcall
    have hcu : Consistent sha ota u := hct.call (c := .queueReceive) trivial hcall
    have hu : Processing r u := ht.received htaken hcall
    rw [forRequest, wp_bind, wp_embed, processUpload, wp_bind, wp_perform]
    have hstart {v : Shared} (hv : Processing r v) :
        StatusGuard sha (.fw r (.startCounters r.contentLen.toNat)) v := by
      refine ⟨by simp, by simp, fun hdone => ?_⟩
      -- The claim is held, so the upload is not done.
      have hbusy := hv.1.single.busy_of_holding hv.2
      rw [hdone] at hbusy
      cases hbusy
    refine ⟨⟨hcu, hstart hu⟩, ?_⟩
    rintro _ v ⟨w, hw, hcall⟩
    have hv : Filling sha ota r r.contentLen.toNat v := by
      have hwork : UploadWork (.startCounters r.contentLen.toNat) := trivial
      refine ⟨(hu.rely hw.1).call hwork hcall,
        (hw.2.consistent hcu).call (hstart (hu.rely hw.1)) hcall, rfl, ?_⟩
      obtain ⟨b, -, -, rfl⟩ := hcall
      rfl
    have hreceived : v.board.received = [] := by
      obtain ⟨b, hboard, -, rfl⟩ := hcall
      obtain rfl : b = _ := hboard
      rfl
    rw [wp_bind]
    refine wp_mono (wp_runUpload_status hv hreceived) ?_
    rintro outcome x ⟨hx, hok⟩
    exact wp_replyUpload_status outcome hx hok
  · rintro t u htu ⟨⟨ht, htaken⟩, hct⟩
    refine ⟨⟨htu.1.single ht, ?_⟩, htu.2.consistent hct⟩
    rw [htu.1.taken, htu.1.completed, htaken]

end Worker

/-! ## Runs -/

section Both

variable (sha : Content → Option (Vector UInt8 fwSha256Len)) (ota : Option OtaPartition)

/-- The rely of a task: for the single upload and for the status. -/
def bothRely (task : UpdaterTask) (s t : Shared) : Prop :=
  uploadRely task s t ∧ statusRely sha ota task s t

def bothGuard (task : UpdaterTask) (c : UpdaterCall) (s : Shared) : Prop :=
  uploadGuard task c s ∧ statusGuard sha ota c s

def bothPost (task : UpdaterTask) (err : EspErr) (s : Shared) : Prop :=
  uploadPost task err s ∧ Consistent sha ota s

end Both

theorem statusRely_consistent {task : UpdaterTask} {s t : Shared}
    (h : statusRely sha ota task s t) (hs : Consistent sha ota s) : Consistent sha ota t := by
  cases task with
  | server => exact ServerSees.consistent h hs
  | worker => exact WorkerSees.consistent h hs

theorem bothGuard_rely {task : UpdaterTask} {c : UpdaterCall} {s t : Shared}
    (h : bothRely sha ota task s t) (hs : bothGuard sha ota task c s) :
    bothGuard sha ota task c t := by
  refine ⟨uploadGuard_rely h.1 hs.1, statusRely_consistent h.2 hs.2.1, ?_⟩
  obtain ⟨hupload, -, hguard⟩ := hs
  cases task with
  | server =>
      have hsees : ServerSees sha ota s t := h.2
      cases c with
      | fw r c =>
          cases c with
          | setUploadState state =>
              obtain ⟨rfl, -⟩ := hupload.2
              exact ⟨by simp, by simp, fun _ => trivial⟩
          | copyInstalledVersion => exact ⟨by simp, by simp, fun _ => trivial⟩
          | _ => exact hupload.2.elim
      | respond r status body =>
          intro hpath
          obtain ⟨hok, m, hm, hbody⟩ := hguard hpath
          exact ⟨hok, m, hsees.moments m hm, hbody⟩
      | _ => exact hguard
  | worker =>
      have hsees : WorkerSees sha ota s t := h.2
      cases c with
      | fw r c =>
          obtain ⟨hreceived, hset, hdone⟩ := hguard
          refine ⟨?_, fun heq => (hset heq).rely hsees, fun hstate => hdone (hsees.done hstate)⟩
          rw [hsees.total]
          exact hreceived
      | queueReceive => trivial
      | _ => exact hupload.2.elim

theorem Consistent.arrive {s : Shared} (h : Consistent sha ota s) :
    Consistent sha ota s.arrive := by
  refine ⟨h.now, fun m hm => ?_, h.replies, h.handed, h.partition⟩
  rw [List.mem_singleton.mp hm]
  exact h.now

theorem bothStart {task : UpdaterTask} {err : EspErr} {s s' : Shared} {p : Task EspErr}
    (h : bothPost sha ota task err s) (hnext : Serves ota s task p s') :
    p.wp (Interfered (bothRely sha ota task) (tasks sha failedErase)) (bothGuard sha ota task)
      (bothPost sha ota task) s' := by
  have hupload : p.wp (Interfered (bothRely sha ota task) (tasks sha failedErase))
      (uploadGuard task)
      (uploadPost task) s' :=
    wp_mono_device (uploadStart h.1 hnext) (fun _ _ hc => hc)
      fun _ _ _ _ _ ⟨u, hu, hcall⟩ => ⟨u, hu.1, hcall⟩
  have hstatus : p.wp (Interfered (bothRely sha ota task) (tasks sha failedErase))
      (statusGuard sha ota) (fun _ => Consistent sha ota) s' := by
    cases hnext with
    | update contentLen =>
        exact wp_mono_device (wp_handleUpload_status rfl h.2.arrive) (fun _ _ hc => hc)
          fun _ _ _ _ _ ⟨u, hu, hcall⟩ => ⟨u, hu.2, hcall⟩
    | status =>
        exact wp_mono_device (wp_handleStatus_status rfl h.2.arrive) (fun _ _ hc => hc)
          fun _ _ _ _ _ ⟨u, hu, hcall⟩ => ⟨u, hu.2, hcall⟩
    | worker => exact wp_runUploadWorker_status h.1.1 h.1.2 h.2
  exact wp_conseq (wp_and hupload hstatus) (fun _ _ hc => hc) fun _ _ hq => hq

theorem status_compatible :
    Compatible (tasks sha failedErase) (fun t (_ : EspErr) s p s' => Serves ota s t p s')
      StatusUndisturbed (bothRely sha ota) (bothGuard sha ota) (bothPost sha ota) := by
  have hupload : Compatible (tasks sha failedErase)
    (fun t (_ : EspErr) s p s' => Serves ota s t p s') StatusUndisturbed uploadRely uploadGuard
    uploadPost := upload_compatible
  constructor
  · intro task s
    refine ⟨hupload.refl task s, ?_⟩
    cases task with
    | server => exact ServerSees.refl s
    | worker => exact WorkerSees.refl s
  · intro task s u v h h'
    refine ⟨hupload.trans h.1 h'.1, ?_⟩
    cases task with
    | server => exact ServerSees.trans h.2 h'.2
    | worker => exact WorkerSees.trans h.2 h'.2
  · exact fun h hc => bothGuard_rely h hc
  · exact fun h hq => ⟨uploadPost_rely h.1 hq.1, statusRely_consistent h.2 hq.2⟩
  · intro x task other c r s hne hallowed hguard hcall
    refine ⟨hupload.call hne hallowed hguard.1 hcall, ?_⟩
    cases task <;> cases other
    · exact absurd rfl hne
    · exact serverSees_of_worker hallowed hguard.1 hguard.2 hcall
    · exact workerSees_of_server hguard.1 hguard.2 hcall
    · exact absurd rfl hne
  · intro task other err s p s' hne hpost hnext
    refine ⟨hupload.next hne hpost.1 hnext, ?_⟩
    cases hnext with
    | update _ | status =>
        cases task with
        | server => exact absurd rfl hne
        | worker => exact ⟨Consistent.arrive, rfl, rfl, rfl, id⟩
    | worker =>
        cases task with
        | server => exact ServerSees.refl _
        | worker => exact absurd rfl hne
  · exact bothStart

theorem consistent_start {b : Board} (hota : b.otaPartition = ota) (version : Option Version) :
    Consistent sha ota (startShared b version) := by
  refine ⟨⟨Nat.le_refl 0, fun hdone => by cases hdone⟩, ?_, ?_, ?_, hota⟩ <;> simp [startShared]

/-- The installed version of a finished upload is that of its body. -/
theorem Finished.record {request : UpdaterRequest} {m : Moment} (h : Finished sha request m) :
    ∃ digest, Bootable sha m.board (receivedRecord m.board.received digest) ∧
      m.installed = storedVersion (some (headVersion m.board.received)) := by
  obtain ⟨digest, hboot⟩ := h.committed.bootable
  obtain ⟨record, hread, hinstalled⟩ := h.installed
  refine ⟨digest, hboot, ?_⟩
  have hrecord : record = receivedRecord m.board.received digest := by
    rw [← FwMetaRecord.ofBytes_toBytes record, ← hread, hboot.stored,
      FwMetaRecord.ofBytes_toBytes]
  rw [hinstalled, hrecord]
  rfl

theorem copyVersion_step {r : UpdaterRequest} (hpath : r.path = .status) (s : Shared) :
    tasks sha failedErase (.fw r .copyInstalledVersion) s s.installed
      { s with copied := some s.installed }.observe :=
  ⟨s.board, rfl, rfl, by rw [Shared.act, if_pos hpath]⟩

/-! ### A status while an upload runs, and one after it -/

theorem undisturbed_of_none {left : UpdaterTask → Task EspErr} {s : Shared} (hs : s.copied = none)
    (task : UpdaterTask) (c : UpdaterCall) : StatusUndisturbed ⟨left, s⟩ task c := by
  intro r fc _ _ version hcopied
  rw [hs] at hcopied
  cases hcopied

/-- After a call of the worker that leaves the board in this state. -/
def Shared.after (s : Shared) (r : UpdaterRequest) (c : FwCall) (b : Board) : Shared :=
  ({ s with board := b }.act r c).observe

theorem after_state {c : FwCall} (hc : ¬ StatusWrite c) (s : Shared) (r : UpdaterRequest)
    (b : Board) : (s.after r c b).state = s.state :=
  (act_sameStatus { s with board := b } r hc).state

/-- The worker is at work, no status request runs, and these are the replies so far. -/
structure Between (replies : List ServerReply) (b : Board) (s : Shared) : Prop where
  stands : s.board = b
  copied : s.copied = none
  replies : s.replies = replies

theorem Between.after {replies : List ServerReply} {b t : Board} {s : Shared}
    (h : Between replies b s) {r : UpdaterRequest} (hpath : r.path = .update) (c : FwCall) :
    Between replies t (s.after r c t) :=
  ⟨(act_kept _ r c).1, (act_copied _ hpath c).trans h.copied, (act_sameLog _ r c).replies.trans
    h.replies⟩

/-- A call of the worker then. -/
theorem Between.call {replies : List ServerReply} {b t : Board} {s : Shared}
    (h : Between replies b s) {r : UpdaterRequest} {c : FwCall} {a : c.Answer}
    (hboard : board sha failedErase c b a t) (hgives : s.Gives c a) :
    allowedCalls (tasks sha failedErase) StatusUndisturbed .worker (.fw r c) s a
      (s.after r c t) :=
  ⟨⟨t, h.stands ▸ hboard, hgives, rfl⟩, fun _ => undisturbed_of_none h.copied _ _⟩

variable (failedErase) in
/-- What is delivered to the board is delivered to the worker. -/
theorem Between.delivers {α : Type} {replies : List ServerReply} {b t : Board} {s : Shared}
    (h : Between replies b s) {r : UpdaterRequest} (hpath : r.path = .update) {body : List UInt8}
    {p : Fw α} {a : α} (hends : Ends (delivering sha body) p b a t) :
    ∃ u, Ends (fun c => allowedCalls (tasks sha failedErase) StatusUndisturbed .worker (.fw r c))
      p s a u ∧ Between replies t u := by
  have hstep {c : FwCall} {v : Shared} {a : c.Answer} {w : Board}
      (hcall : delivering sha body c v.board a w) (hv : v.copied = none ∧ v.replies = replies) :
      ∃ y, allowedCalls (tasks sha failedErase) StatusUndisturbed .worker (.fw r c) v a y ∧
        y.board = w ∧ y.copied = none ∧ y.replies = replies := by
    obtain ⟨hsilent, -, hboard⟩ := hcall
    have hbetween : Between replies v.board v := ⟨rfl, hv.1, hv.2⟩
    have hgives : v.Gives c a := by
      cases c <;> first | exact hsilent.elim | trivial
    have hafter := hbetween.after (t := w) hpath c
    exact ⟨_, hbetween.call (hboard failedErase) hgives, hafter.stands, hafter.copied,
      hafter.replies⟩
  obtain ⟨u, hends, hu, hcopied, hreplies⟩ :=
    exists_ends_lift Shared.board hstep hends h.stands ⟨h.copied, h.replies⟩
  exact ⟨u, hends, hu, hcopied, hreplies⟩

/-- The worker sets the outcome and answers. -/
theorem Between.answers {replies : List ServerReply} {b : Board} {s : Shared}
    (h : Between replies b s) {r : UpdaterRequest} (hpath : r.path = .update) :
    ∃ u, Ends (fun c => allowedCalls (tasks sha failedErase) StatusUndisturbed .worker (.fw r c))
        (replyUpload (.ok, none) >>= fun _ => perform FwCall.asyncComplete) s () u ∧
      u.copied = none ∧ u.replies = replies ∧ u.state = .done ∧ u.board.received = b.received := by
  let sent := { b with replies := b.replies ++ [("200 OK", "Update complete, restarting")] }
  let reply := FwCall.sendText "200 OK" "Update complete, restarting"
  let s₁ := s.after r .copyInstalledVersion b
  let s₂ := s₁.after r (.setUploadState .done) b
  let s₃ := s₂.after r reply sent
  let s₄ := s₃.after r .startRestartTimer sent
  let s₅ := s₄.after r .asyncComplete sent
  have h₁ : Between replies b s₁ := h.after hpath _
  have h₂ : Between replies b s₂ := h₁.after hpath _
  have h₃ : Between replies sent s₃ := h₂.after hpath _
  have h₄ : Between replies sent s₄ := h₃.after hpath _
  have h₅ : Between replies sent s₅ := h₄.after hpath _
  refine ⟨s₅, ?_, h₅.copied, h₅.replies, ?_, by rw [h₅.stands]⟩
  · rw [replyUpload, if_neg (not_not.2 rfl)]
    refine .call (h.call (c := .copyInstalledVersion) rfl rfl) ?_
    refine .call (r := ()) (h₁.call (c := .setUploadState .done) rfl trivial) ?_
    refine .call (r := ()) (h₂.call (c := reply) rfl trivial) ?_
    refine .call (r := true) (h₃.call (c := .startRestartTimer) rfl trivial) ?_
    exact .call (r := ()) (h₄.call (c := .asyncComplete) rfl trivial) (.ret () s₅)
  · have hset : s₂.state = .done := rfl
    have hsent : s₃.state = s₂.state := after_state id s₂ r sent
    have hrestart : s₄.state = s₃.state := after_state id s₃ r sent
    have hcompleted : s₅.state = s₄.state := after_state id s₄ r sent
    rw [hcompleted, hrestart, hsent, hset]

/-- A status request that nothing interrupts. -/
theorem exists_statusRun {x : Tasks} (hleft : x.left .server = .ret .ok) :
    ∃ y reply, TasksRun sha failedErase ota StatusUndisturbed x y ∧
      y.state.replies = x.state.replies ++ [reply] ∧ reply.request.path = .status ∧
      ∀ m ∈ reply.moments, m = x.state.moment := by
  let status : UpdaterRequest := ⟨x.state.arrived, .status, 0⟩
  have hcopy : tasks sha failedErase (.fw status .copyInstalledVersion) x.state.arrive
      x.state.installed _ := copyVersion_step rfl _
  have hrun₁ : TasksRun sha failedErase ota StatusUndisturbed x _ :=
    .single ⟨.server, .next hleft .status⟩
  have hrun₂ := hrun₁.trans <|
    run_allowed (by rintro r fc ⟨⟩ hwrite; exact hwrite.elim) hcopy
  have hrun₃ := hrun₂.trans <|
    run_allowed (r := (x.state.state, x.state.received, x.state.total)) (by rintro r fc ⟨⟩)
      ⟨rfl, rfl⟩
  have hrun₄ := hrun₃.trans <| run_allowed (r := ()) (by rintro r fc ⟨⟩) rfl
  refine ⟨_, _, hrun₄, rfl, rfl, ?_⟩
  intro m hm
  rcases List.mem_cons.mp hm with rfl | hlast
  · rfl
  · rw [List.mem_singleton.mp hlast]
    rfl

def sampleUpload : UpdaterRequest := ⟨0, .update, 352⟩

/-- The worker after it has started the counters. -/
def afterCounters : Task EspErr :=
  forRequest sampleUpload (runUpload blankBoard.otaPartition sampleUpload.contentLen.toNat >>=
    fun outcome => replyUpload outcome >>= fun _ => perform FwCall.asyncComplete) >>=
    fun _ => pure .ok

/-- The upload is handed over, and the worker starts its counters while a status request runs. -/
theorem exists_statusDuring :
    ∃ x reply, TasksRun sampleSha ErasesNothing blankBoard.otaPartition StatusUndisturbed
        (startTasks blankBoard none) x ∧ x.left .server = .ret .ok ∧ x.left .worker = afterCounters ∧
      Between [reply] blankBoard x.state ∧ reply.request.path = .status ∧
      reply.body = "state=uploading&received=0&total=352&installed=none" := by
  let s₁ := ((startShared blankBoard none).arrive.claim sampleUpload).observe
  let s₂ := (s₁.send sampleUpload).arrive
  let s₃ := { s₂ with copied := some s₂.installed }.observe
  let s₄ := (s₃.take sampleUpload []).after sampleUpload (.startCounters 352) blankBoard
  let status : UpdaterRequest := ⟨1, .status, 0⟩
  let s₅ := s₄.respond status "200 OK" (statusBody .uploading 0 352 s₂.installed)
  have hnext : TasksRun sampleSha ErasesNothing blankBoard.otaPartition StatusUndisturbed
      (startTasks blankBoard none) _ := .single ⟨.server, .next rfl (.update 352)⟩
  have hclaimed := hnext.trans <|
    run_allowed (u := s₁) (r := false) (by rintro r fc ⟨⟩) ⟨rfl, rfl⟩
  have hbegun := hclaimed.trans <|
    run_allowed (u := s₁) (r := EspErr.ok) (by rintro r fc ⟨⟩) rfl
  have hqueued := hbegun.trans <|
    run_allowed (u := s₁.send sampleUpload) (r := true) (by rintro r fc ⟨⟩) ⟨rfl, rfl⟩
  have hasked := hqueued.tail ⟨.server, .next rfl .status⟩
  have hcopied := hasked.trans <|
    run_allowed (u := s₃) (by rintro r fc ⟨⟩ hwrite; exact hwrite.elim) (copyVersion_step rfl s₂)
  have hworker := hcopied.tail ⟨.worker, .next rfl .worker⟩
  have htaken := hworker.trans <|
    run_allowed (u := s₃.take sampleUpload []) (r := sampleUpload) (by rintro r fc ⟨⟩)
      ⟨[], rfl, rfl⟩
  have hstarted := htaken.trans <|
    run_allowed (u := s₄) (r := ()) (by rintro r fc - - version ⟨⟩; rfl)
      ⟨blankBoard, rfl, trivial, rfl⟩
  have hread := hstarted.tail
    ⟨.server, .call (s := s₄) (r := (.uploading, 0, 352)) rfl (by rintro r fc ⟨⟩) ⟨rfl, rfl⟩⟩
  have hanswered := hread.tail
    ⟨.server, .call (s := s₅) (r := ()) rfl (by rintro r fc ⟨⟩) rfl⟩
  exact ⟨_, _, hanswered, rfl, rfl, ⟨rfl, rfl, rfl⟩, rfl, by decide⟩

/-- Firmware version 01.02.03. -/
def shownVersion : Version := #v[0x30, 0x31, 0x2E, 0x30, 0x32, 0x2E, 0x30, 0x33, 0]

end StripTuner.Updater
