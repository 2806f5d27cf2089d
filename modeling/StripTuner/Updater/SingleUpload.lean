import StripTuner.Updater.Reply
import StripTuner.Updater.Server

/-!
# One upload at a time

The claim: at most one request holds it, from the critical section of `HandleUpload()` to the one
that sets the outcome. Whoever is about to use the queue, set the outcome or touch flash holds the
claim or has the request in its hands, whatever the other task does in between.
-/

namespace StripTuner.Updater

open ByteLayout DeviceCalls DeviceCalls.Prog FlashRegion FwMeta

variable {sha : Content → Option (Vector UInt8 fwSha256Len)} {failedErase : UInt8 → UInt8 → Prop}

/-! ## The invariant -/

/-- What holds between any two calls. -/
structure Single (s : Shared) : Prop where
  handed : s.handed = s.taken ++ s.queue
  ordered : s.handed.Pairwise fun q r => q.id < r.id
  replied : s.replies.Pairwise fun q r => q.request.id < r.request.id
  apart : ∀ q ∈ s.handed, ∀ reply ∈ s.replies, q.id ≠ reply.request.id
  holding : s.holding.length ≤ 1
  uploading : s.state = .uploading ↔ s.holding ≠ []
  queued : ∀ r ∈ s.queue, r ∈ s.holding
  outcome : ∀ r ∈ s.handed, r ∈ s.holding ∨ r ∈ s.decided
  touched : ∀ r ∈ s.touched, r ∈ s.taken
  working : s.taken = s.completed ∨ ∃ r, s.taken = s.completed ++ [r]
  succeeded : ∀ reply ∈ s.board.replies, reply.1 = "200 OK" → s.state = .done

/-- Later than every request handed over or answered. -/
structure Newest (r : UpdaterRequest) (s : Shared) : Prop where
  handed : ∀ q ∈ s.handed, q.id < r.id
  replied : ∀ reply ∈ s.replies, reply.request.id < r.id

/-- What the invariant needs of a call for a request. -/
def FwGuard (r : UpdaterRequest) (c : FwCall) (s : Shared) : Prop :=
  match c with
  | .setUploadState state => state ≠ .uploading ∧ r ∈ s.holding ∧ r ∉ s.queue
  | .asyncComplete => s.taken = s.completed ++ [r]
  | .sendText status _ => status = "200 OK" → s.state = .done
  | _ => Touches c → r ∈ s.taken

/-- What the invariant needs of a call. -/
def CallGuard (c : UpdaterCall) (s : Shared) : Prop :=
  match c with
  | .fw r c => FwGuard r c s
  | .queueSend r => r ∈ s.holding ∧ Newest r s
  | .queueReceive => s.taken = s.completed
  | .respond r _ _ => Newest r s
  | _ => True

section Steps

variable {s t : Shared}

theorem Single.holding_eq (h : Single s) {r : UpdaterRequest} (hr : r ∈ s.holding) :
    s.holding = [r] := by
  obtain ⟨q, hq⟩ := List.length_eq_one_iff.mp
    (Nat.le_antisymm h.holding (List.length_pos_of_mem hr))
  rw [hq] at hr ⊢
  rw [List.mem_singleton.mp hr]

theorem Single.busy_of_holding (h : Single s) {r : UpdaterRequest} (hr : r ∈ s.holding) :
    s.state = .uploading :=
  h.uploading.mpr (List.ne_nil_of_mem hr)

theorem Single.queue_nil (h : Single s) (hs : s.state ≠ .uploading) : s.queue = [] := by
  apply List.eq_nil_iff_forall_not_mem.mpr
  intro r hr
  exact hs (h.busy_of_holding (h.queued r hr))

/-- A request that holds the claim and was not handed over finds the queue empty. -/
theorem Single.queue_empty (h : Single s) {r : UpdaterRequest} (hr : r ∈ s.holding)
    (hnew : Newest r s) : s.queue = [] := by
  apply List.eq_nil_iff_forall_not_mem.mpr
  intro q hq
  have hheld := h.queued q hq
  rw [h.holding_eq hr, List.mem_singleton] at hheld
  have hlt := hnew.handed q (h.handed ▸ List.mem_append_right _ hq)
  rw [hheld] at hlt
  exact Nat.lt_irrefl _ hlt

theorem board_replies {c : FwCall} {b b' : Board} {r : c.Answer}
    (h : board sha failedErase c b r b') (hc : ∀ status body, c ≠ .sendText status body) :
    b'.replies = b.replies := by
  cases c with
  | sendText status body => exact absurd rfl (hc status body)
  | findOta | findFwMeta | metaRead _ _ | otaRead _ _ | otaSha256 => exact h.2 ▸ rfl
  | metaErase off len =>
      obtain ⟨-, rfl⟩ | ⟨-, content, -, -, rfl⟩ := h <;> rfl
  | metaWrite off bytes =>
      obtain ⟨content, -, rfl⟩ := h
      rfl
  | otaBegin _ | otaEnd _ =>
      obtain ⟨-, h⟩ | ⟨-, h⟩ := h <;> obtain ⟨_, h⟩ := h
      · first | (obtain rfl := h; rfl) | (obtain ⟨-, -, rfl⟩ := h; rfl)
      · obtain rfl := h
        rfl
  | otaWrite _ _ =>
      obtain ⟨-, session, -, -, rfl⟩ | ⟨-, content, rfl⟩ := h <;> rfl
  | otaAbort _ | startCounters _ =>
      obtain rfl := h
      rfl
  | recv wanted =>
      cases r with
      | data bytes =>
          obtain ⟨-, rfl⟩ := h
          rfl
      | timeout | failed =>
          obtain rfl := h
          rfl
  | deepSleepStart | restart => exact r.elim
  | _ =>
      obtain rfl := h
      rfl

theorem Single.withBoard (h : Single s) {b : Board} (hb : b.replies = s.board.replies) :
    Single { s with board := b } :=
  ⟨h.handed, h.ordered, h.replied, h.apart, h.holding, h.uploading, h.queued, h.outcome,
    h.touched, h.working, hb ▸ h.succeeded⟩

theorem Single.observe (h : Single s) : Single s.observe :=
  ⟨h.handed, h.ordered, h.replied, h.apart, h.holding, h.uploading, h.queued, h.outcome,
    h.touched, h.working, h.succeeded⟩

theorem Single.touch (h : Single s) {r : UpdaterRequest} {c : FwCall}
    (hc : Touches c → r ∈ s.taken) :
    Single (if Touches c then { s with touched := s.touched ++ [r] } else s) := by
  by_cases htouch : Touches c
  · rw [if_pos htouch]
    refine ⟨h.handed, h.ordered, h.replied, h.apart, h.holding, h.uploading, h.queued, h.outcome,
      fun q hq => ?_, h.working, h.succeeded⟩
    rcases List.mem_append.mp hq with hold | hnew
    · exact h.touched q hold
    · rw [List.mem_singleton.mp hnew]
      exact hc htouch
  · rw [if_neg htouch]
    exact h

/-- The outcome is set by the one that holds the claim. -/
theorem Single.setUploadState (h : Single s) {r : UpdaterRequest} {state : UploadState}
    (hstate : state ≠ .uploading) (hr : r ∈ s.holding) (hqueue : r ∉ s.queue) :
    Single (s.act r (.setUploadState state)) := by
  have hheld := h.holding_eq hr
  have hnone : s.holding.filter (· ≠ r) = [] := by simp [hheld]
  have hempty : s.queue = [] := by
    apply List.eq_nil_iff_forall_not_mem.mpr
    intro q hq
    have hq' := h.queued q hq
    rw [hheld, List.mem_singleton] at hq'
    exact hqueue (hq' ▸ hq)
  refine ⟨h.handed, h.ordered, h.replied, h.apart, ?_, ?_, ?_, fun q hq => .inr ?_, h.touched,
    h.working, fun reply hreply hok => ?_⟩
  · show (s.holding.filter (· ≠ r)).length ≤ 1
    rw [hnone]
    exact Nat.zero_le 1
  · show state = .uploading ↔ s.holding.filter (· ≠ r) ≠ []
    rw [hnone]
    simp [hstate]
  · intro q hq
    exact absurd (hempty ▸ hq) List.not_mem_nil
  · rcases h.outcome q hq with hhold | hdecided
    · rw [hheld, List.mem_singleton] at hhold
      exact List.mem_append_right _ (List.mem_singleton.mpr hhold)
    · exact List.mem_append_left _ hdecided
  · have hdone := h.succeeded reply hreply hok
    rw [h.busy_of_holding hr] at hdone
    cases hdone

theorem Single.fw (h : Single s) {r : UpdaterRequest} {c : FwCall} (hc : FwGuard r c s)
    {a : c.Answer} {b : Board} (hboard : board sha failedErase c s.board a b) :
    Single ({ s with board := b }.act r c) := by
  cases c with
  | setUploadState state =>
      obtain rfl : b = s.board := hboard
      exact h.setUploadState hc.1 hc.2.1 hc.2.2
  | asyncComplete =>
      obtain rfl : b = s.board := hboard
      refine ⟨h.handed, h.ordered, h.replied, h.apart, h.holding, h.uploading, h.queued, h.outcome,
        h.touched, .inl hc, h.succeeded⟩
  | sendText status body =>
      obtain rfl : b = _ := hboard
      refine ⟨h.handed, h.ordered, h.replied, h.apart, h.holding, h.uploading, h.queued, h.outcome,
        h.touched, h.working, fun reply hreply hok => ?_⟩
      rcases List.mem_append.mp hreply with hold | hnew
      · exact h.succeeded reply hold hok
      · rw [List.mem_singleton.mp hnew] at hok
        exact hc hok
  | copyInstalledVersion =>
      obtain rfl : b = s.board := hboard
      show Single (if r.path = .status then { s with copied := some s.installed } else s)
      split
      · exact ⟨h.handed, h.ordered, h.replied, h.apart, h.holding, h.uploading, h.queued,
          h.outcome, h.touched, h.working, h.succeeded⟩
      · exact h
  | startCounters | setReceived | setInstalledVersion =>
      have hsame := h.withBoard (board_replies hboard (by simp))
      exact ⟨hsame.handed, hsame.ordered, hsame.replied, hsame.apart, hsame.holding,
        hsame.uploading, hsame.queued, hsame.outcome, hsame.touched, hsame.working,
        hsame.succeeded⟩
  | _ => exact (h.withBoard (board_replies hboard (by simp))).touch hc

/-- Every call that its guard allows keeps the invariant. -/
theorem Single.call (h : Single s) {c : UpdaterCall} (hc : CallGuard c s) {r : c.Answer}
    (hcall : tasks sha failedErase c s r t) : Single t := by
  cases c with
  | fw request c =>
      obtain ⟨b, hboard, -, rfl⟩ := hcall
      exact (h.fw hc hboard).observe
  | claim request =>
      obtain ⟨-, rfl⟩ := hcall
      by_cases hbusy : s.isBusy
      · rw [if_pos hbusy]
        exact h
      rw [if_neg hbusy]
      simp only [Shared.isBusy, Bool.or_eq_true, decide_eq_true_eq, not_or] at hbusy
      have hnone : s.holding = [] := by
        by_contra hheld
        exact hbusy.1 (h.uploading.mpr hheld)
      apply Single.observe
      refine ⟨h.handed, h.ordered, h.replied, h.apart, ?_, ?_, fun q hq => ?_, fun q hq => ?_,
        h.touched, h.working, fun reply hreply hok => ?_⟩
      · simp [Shared.claim, hnone]
      · simp [Shared.claim]
      · exact absurd (h.queue_nil hbusy.1 ▸ hq) List.not_mem_nil
      · rcases h.outcome q hq with hheld | hdecided
        · exact .inl (List.mem_append_left _ hheld)
        · exact .inr hdecided
      · exact absurd (h.succeeded reply hreply hok) hbusy.2
  | queueSend request =>
      obtain ⟨hheld, hnew⟩ := hc
      have hempty := h.queue_empty hheld hnew
      have hroom : s.queue.length < 1 := by simp [hempty]
      dsimp only [tasks] at hcall
      rw [if_pos hroom] at hcall
      obtain ⟨-, rfl⟩ := hcall
      refine ⟨?_, ?_, h.replied, ?_, h.holding, h.uploading, ?_, ?_, h.touched, h.working,
        h.succeeded⟩
      · simp [Shared.send, h.handed]
      · apply List.pairwise_append.mpr
        refine ⟨h.ordered, List.pairwise_singleton _ _, fun q hq r hr => ?_⟩
        rw [List.mem_singleton.mp hr]
        exact hnew.handed q hq
      · intro q hq reply hreply
        rcases List.mem_append.mp hq with hold | hlast
        · exact h.apart q hold reply hreply
        · rw [List.mem_singleton.mp hlast]
          exact Nat.ne_of_gt (hnew.replied reply hreply)
      · intro q hq
        simp only [Shared.send, hempty, List.nil_append, List.mem_singleton] at hq
        rw [hq]
        exact hheld
      · intro q hq
        rcases List.mem_append.mp hq with hold | hlast
        · exact h.outcome q hold
        · rw [List.mem_singleton.mp hlast]
          exact .inl hheld
  | queueReceive =>
      obtain ⟨rest, hqueue, rfl⟩ := hcall
      refine ⟨?_, h.ordered, h.replied, h.apart, h.holding, h.uploading, fun q hq => ?_, h.outcome,
        fun q hq => ?_, .inr ⟨r, ?_⟩, h.succeeded⟩
      · simp [Shared.take, h.handed, hqueue]
      · exact h.queued q (hqueue ▸ List.mem_cons_of_mem r hq)
      · exact List.mem_append_left _ (h.touched q hq)
      · show s.taken ++ [r] = s.completed ++ [r]
        rw [show s.taken = s.completed from hc]
  | respond request status body =>
      obtain rfl := hcall
      refine ⟨h.handed, h.ordered, ?_, ?_, h.holding, h.uploading, h.queued, h.outcome, h.touched,
        h.working, h.succeeded⟩
      · apply List.pairwise_append.mpr
        refine ⟨h.replied, List.pairwise_singleton _ _, fun q hq r hr => ?_⟩
        rw [List.mem_singleton.mp hr]
        exact hc.replied q hq
      · intro q hq reply hreply
        rcases List.mem_append.mp hreply with hold | hlast
        · exact h.apart q hq reply hold
        · rw [List.mem_singleton.mp hlast]
          exact Nat.ne_of_lt (hc.handed q hq)
  | readStatus =>
      obtain ⟨-, rfl⟩ := hcall
      exact h
  | asyncBegin | setHdr | sendError =>
      obtain rfl := hcall
      exact h

end Steps

/-! ## What each task relies on -/

/-- Answered by the server task, or handed to the worker. -/
def Settled (s : Shared) (id : Nat) : Prop :=
  (∃ reply ∈ s.replies, reply.request.id = id) ∨ ∃ r ∈ s.handed, r.id = id

/-- The server task works on its last request; the ones before it are settled. -/
structure Serving (r : UpdaterRequest) (s : Shared) : Prop where
  arrived : s.arrived = r.id + 1
  newest : Newest r s
  settled : ∀ id < r.id, Settled s id

/-- Between two requests of the server task. -/
structure Idle (s : Shared) : Prop where
  handed : ∀ r ∈ s.handed, r.id < s.arrived
  replied : ∀ reply ∈ s.replies, reply.request.id < s.arrived
  settled : ∀ id < s.arrived, Settled s id

/-- What the server task makes sure of before its calls. -/
def ServerGuard (c : UpdaterCall) (s : Shared) : Prop :=
  match c with
  | .claim r | .respond r _ _ => Serving r s
  | .fw r (.setUploadState state) => state = .error ∧ Serving r s ∧ r ∈ s.holding
  | .queueSend r => Serving r s ∧ r ∈ s.holding
  | .fw _ .copyInstalledVersion | .asyncBegin _ | .readStatus | .setHdr _ _ _ => True
  | _ => False

/-- What the worker makes sure of before its calls. -/
def WorkerGuard (c : UpdaterCall) (s : Shared) : Prop :=
  match c with
  | .queueReceive => s.taken = s.completed
  | .fw r c => s.taken = s.completed ++ [r] ∧
    match c with
    | .setUploadState state => state ≠ .uploading ∧ r ∈ s.holding
    | .sendText status _ => status = "200 OK" → s.state = .done
    | _ => True
  | _ => False

/-- What the worker does, as the server task sees it. -/
structure ServerRely (s t : Shared) : Prop where
  single : Single s → Single t
  arrived : t.arrived = s.arrived
  handed : t.handed = s.handed
  replies : t.replies = s.replies
  holding : Single s → ∀ r ∈ s.holding, Newest r s → r ∈ t.holding

/-- What the server task does, as the worker sees it. -/
structure WorkerRely (s t : Shared) : Prop where
  single : Single s → Single t
  taken : t.taken = s.taken
  completed : t.completed = s.completed
  holding : Single s → ∀ r ∈ s.holding, r ∈ s.taken → r ∈ t.holding
  done : s.state = .done → t.state = .done

def uploadGuard : UpdaterTask → UpdaterCall → Shared → Prop
  | .server, c, s => Single s ∧ ServerGuard c s
  | .worker, c, s => Single s ∧ WorkerGuard c s

def uploadRely : UpdaterTask → Shared → Shared → Prop
  | .server => ServerRely
  | .worker => WorkerRely

def uploadPost : UpdaterTask → EspErr → Shared → Prop
  | .server, _, s => Single s ∧ Idle s
  | .worker, _, s => Single s ∧ s.taken = s.completed

section Guards

variable {s t : Shared} {c : UpdaterCall} {r : c.Answer}

/-- The worker's request is not in the queue. -/
theorem Single.not_queued (h : Single s) {r : UpdaterRequest} (hr : r ∈ s.taken) :
    r ∉ s.queue := by
  intro hq
  have hordered := h.ordered
  rw [h.handed, List.pairwise_append] at hordered
  exact Nat.lt_irrefl _ (hordered.2.2 r hr r hq)

/-- The newest request is not in the queue. -/
theorem Single.newest_not_queued (h : Single s) {r : UpdaterRequest} (hnew : Newest r s) :
    r ∉ s.queue := by
  intro hq
  exact Nat.lt_irrefl _ (hnew.handed r (h.handed ▸ List.mem_append_right _ hq))

theorem ServerGuard.call (hs : Single s) (h : ServerGuard c s) : CallGuard c s := by
  cases c with
  | fw r c =>
      cases c with
      | setUploadState state =>
          obtain ⟨rfl, hserving, hheld⟩ := h
          exact ⟨by decide, hheld, hs.newest_not_queued hserving.newest⟩
      | copyInstalledVersion => exact fun htouch => htouch.elim
      | _ => exact h.elim
  | queueSend r => exact ⟨h.2, h.1.newest⟩
  | respond r => exact h.newest
  | queueReceive | sendError => exact h.elim
  | _ => trivial

theorem WorkerGuard.call (hs : Single s) (h : WorkerGuard c s) : CallGuard c s := by
  cases c with
  | fw r c =>
      obtain ⟨htaken, h⟩ := h
      have hmem : r ∈ s.taken := htaken ▸ List.mem_append_right _ (List.mem_singleton_self r)
      cases c with
      | setUploadState state => exact ⟨h.1, h.2, hs.not_queued hmem⟩
      | asyncComplete => exact htaken
      | sendText status body => exact h
      | _ => exact fun _ => hmem
  | queueReceive => exact h
  | _ => exact h.elim

/-! ### Steps of the other task -/

/-- What no call for a request changes. -/
structure SameLog (s t : Shared) : Prop where
  queue : t.queue = s.queue
  arrived : t.arrived = s.arrived
  handed : t.handed = s.handed
  taken : t.taken = s.taken
  replies : t.replies = s.replies

theorem act_sameLog (s : Shared) (r : UpdaterRequest) (c : FwCall) : SameLog s (s.act r c) := by
  unfold Shared.act
  split
  · exact ⟨rfl, rfl, rfl, rfl, rfl⟩
  · exact ⟨rfl, rfl, rfl, rfl, rfl⟩
  · exact ⟨rfl, rfl, rfl, rfl, rfl⟩
  · exact ⟨rfl, rfl, rfl, rfl, rfl⟩
  · split <;> exact ⟨rfl, rfl, rfl, rfl, rfl⟩
  · exact ⟨rfl, rfl, rfl, rfl, rfl⟩
  · split <;> exact ⟨rfl, rfl, rfl, rfl, rfl⟩

theorem act_state (s : Shared) (r : UpdaterRequest) {c : FwCall}
    (hc : ∀ state, c ≠ .setUploadState state) :
    (s.act r c).state = s.state ∧ (s.act r c).holding = s.holding := by
  unfold Shared.act
  split
  · exact ⟨rfl, rfl⟩
  · exact ⟨rfl, rfl⟩
  · exact absurd rfl (hc _)
  · exact ⟨rfl, rfl⟩
  · split <;> exact ⟨rfl, rfl⟩
  · exact ⟨rfl, rfl⟩
  · split <;> exact ⟨rfl, rfl⟩

theorem act_completed (s : Shared) (r : UpdaterRequest) {c : FwCall} (hc : c ≠ .asyncComplete) :
    (s.act r c).completed = s.completed := by
  unfold Shared.act
  split
  · rfl
  · rfl
  · rfl
  · rfl
  · split <;> rfl
  · exact absurd rfl hc
  · split <;> rfl

/-- A worker's call is a step that the server task relies on. -/
theorem WorkerGuard.rely (hs : Single s) (h : WorkerGuard c s)
    (hcall : tasks sha failedErase c s r t) : ServerRely s t := by
  have hsingle : Single t := hs.call (h.call hs) hcall
  cases c with
  | fw q c =>
      obtain ⟨b, -, -, rfl⟩ := hcall
      have hlog := act_sameLog { s with board := b } q c
      refine ⟨fun _ => hsingle, hlog.arrived, hlog.handed, hlog.replies, fun _ p hp hnew => ?_⟩
      have hmem : q ∈ s.handed := by
        rw [hs.handed, h.1]
        simp
      show p ∈ ({ s with board := b }.act q c).holding
      by_cases hset : ∀ state, c ≠ .setUploadState state
      · rw [(act_state _ q hset).2]
        exact hp
      · simp only [ne_eq, not_forall, not_not] at hset
        obtain ⟨state, rfl⟩ := hset
        have hne : p ≠ q := by
          rintro rfl
          exact Nat.lt_irrefl _ (hnew.handed p hmem)
        simp [Shared.act, hp, hne]
  | queueReceive =>
      obtain ⟨rest, -, rfl⟩ := hcall
      exact ⟨fun _ => hsingle, rfl, rfl, rfl, fun _ _ hp _ => hp⟩
  | _ => exact h.elim

/-- A call of the server task is a step that the worker relies on. -/
theorem ServerGuard.rely (hs : Single s) (h : ServerGuard c s)
    (hcall : tasks sha failedErase c s r t) : WorkerRely s t := by
  have hsingle : Single t := hs.call (h.call hs) hcall
  cases c with
  | fw q c =>
      obtain ⟨b, -, -, rfl⟩ := hcall
      have hlog := act_sameLog { s with board := b } q c
      cases c with
      | setUploadState state =>
          obtain ⟨rfl, hserving, hheld⟩ := h
          refine ⟨fun _ => hsingle, rfl, rfl, fun _ p hp htaken => ?_, fun hdone => ?_⟩
          · rw [hs.holding_eq hheld, List.mem_singleton] at hp
            have hlt := hserving.newest.handed p (hs.handed ▸ List.mem_append_left _ htaken)
            exact absurd hlt (hp ▸ Nat.lt_irrefl _)
          · rw [hs.busy_of_holding hheld] at hdone
            cases hdone
      | copyInstalledVersion =>
          have hstate := act_state { s with board := b } q (c := .copyInstalledVersion) (by simp)
          have hcompleted := act_completed { s with board := b } q
            (c := .copyInstalledVersion) (by simp)
          refine ⟨fun _ => hsingle, hlog.taken, hcompleted, fun _ p hp _ => ?_, fun hdone => ?_⟩
          · show p ∈ ({ s with board := b }.act q .copyInstalledVersion).holding
            rw [hstate.2]
            exact hp
          · exact hstate.1.trans hdone
      | _ => exact h.elim
  | claim q =>
      obtain ⟨-, rfl⟩ := hcall
      by_cases hbusy : s.isBusy
      · rw [if_pos hbusy] at hsingle ⊢
        exact ⟨fun _ => hsingle, rfl, rfl, fun _ _ hp _ => hp, id⟩
      · rw [if_neg hbusy] at hsingle ⊢
        refine ⟨fun _ => hsingle, rfl, rfl, fun _ p hp _ => List.mem_append_left _ hp, ?_⟩
        intro hdone
        simp [Shared.isBusy, hdone] at hbusy
  | queueSend q =>
      have hroom : s.queue.length < 1 := by simp [hs.queue_empty h.2 h.1.newest]
      dsimp only [tasks] at hcall
      rw [if_pos hroom] at hcall
      obtain ⟨-, rfl⟩ := hcall
      exact ⟨fun _ => hsingle, rfl, rfl, fun _ _ hp _ => hp, id⟩
  | readStatus =>
      obtain ⟨-, rfl⟩ := hcall
      exact ⟨id, rfl, rfl, fun _ _ hp _ => hp, id⟩
  | respond q status body =>
      obtain rfl := hcall
      exact ⟨fun _ => hsingle, rfl, rfl, fun _ _ hp _ => hp, id⟩
  | asyncBegin | setHdr =>
      obtain rfl := hcall
      exact ⟨id, rfl, rfl, fun _ _ hp _ => hp, id⟩
  | queueReceive | sendError => exact h.elim

end Guards

/-! ## The server task -/

section ServerTask

variable {s t : Shared} {r : UpdaterRequest}

/-- The server task works on the request. -/
def OnRequest (r : UpdaterRequest) (s : Shared) : Prop := Single s ∧ Serving r s

/-- The server task has claimed the upload for the request. -/
def Claimed (r : UpdaterRequest) (s : Shared) : Prop := OnRequest r s ∧ r ∈ s.holding

theorem Serving.rely (h : Serving r s) (ht : ServerRely s t) : Serving r t := by
  refine ⟨ht.arrived.trans h.arrived, ⟨?_, ?_⟩, fun id hid => ?_⟩
  · rw [ht.handed]
    exact h.newest.handed
  · rw [ht.replies]
    exact h.newest.replied
  · unfold Settled
    rw [ht.handed, ht.replies]
    exact h.settled id hid

theorem OnRequest.rely (h : OnRequest r s) (ht : ServerRely s t) : OnRequest r t :=
  ⟨ht.single h.1, h.2.rely ht⟩

theorem Claimed.rely (h : Claimed r s) (ht : ServerRely s t) : Claimed r t :=
  ⟨h.1.rely ht, ht.holding h.1.1 r h.2 h.1.2.newest⟩

theorem Idle.rely (h : Idle s) (ht : ServerRely s t) : Idle t := by
  refine ⟨?_, ?_, fun id hid => ?_⟩
  · rw [ht.handed, ht.arrived]
    exact h.handed
  · rw [ht.replies, ht.arrived]
    exact h.replied
  · unfold Settled
    rw [ht.handed, ht.replies]
    exact h.settled id (ht.arrived ▸ hid)

/-- The weakest precondition for the server task. -/
abbrev ServerWp (sha : Content → Option (Vector UInt8 fwSha256Len))
    (failedErase : UInt8 → UInt8 → Prop) (p : Task EspErr) (s : Shared) : Prop :=
  p.wp (Interfered ServerRely (tasks sha failedErase)) (uploadGuard .server)
    (uploadPost .server) s

/-- A call that leaves the log alone. -/
theorem OnRequest.same (h : OnRequest r s) (hsingle : Single t) (hlog : SameLog s t) :
    OnRequest r t := by
  refine ⟨hsingle, hlog.arrived.trans h.2.arrived, ⟨?_, ?_⟩, fun id hid => ?_⟩
  · rw [hlog.handed]
    exact h.2.newest.handed
  · rw [hlog.replies]
    exact h.2.newest.replied
  · unfold Settled
    rw [hlog.handed, hlog.replies]
    exact h.2.settled id hid

theorem wp_respond (h : OnRequest r s) (status body : String) (result : EspErr) :
    ServerWp sha failedErase
      (perform (UpdaterCall.respond r status body) >>= fun _ => pure result) s := by
  apply wp_interfered h (fun _ _ ht h => h.rely ht) ⟨h.1, h.2⟩
  rintro t _ u ht hu
  have hsingle : Single u := ht.1.call (c := .respond r status body) ht.2.newest hu
  obtain rfl := hu
  refine ⟨hsingle, fun q hq => ?_, fun reply hreply => ?_, fun id hid => ?_⟩
  · show q.id < t.arrived
    rw [ht.2.arrived]
    exact Nat.lt_succ_of_lt (ht.2.newest.handed q hq)
  · show reply.request.id < t.arrived
    rw [ht.2.arrived]
    rcases List.mem_append.mp hreply with hold | hnew
    · exact Nat.lt_succ_of_lt (ht.2.newest.replied reply hold)
    · rw [List.mem_singleton.mp hnew]
      exact Nat.lt_succ_self _
  · have hid' : id < r.id + 1 := ht.2.arrived ▸ hid
    rcases Nat.lt_succ_iff_lt_or_eq.mp hid' with hlt | rfl
    · rcases ht.2.settled id hlt with ⟨reply, hreply, hsame⟩ | hhanded
      · exact .inl ⟨reply, List.mem_append_left _ hreply, hsame⟩
      · exact .inr hhanded
    · exact .inl ⟨_, List.mem_append_right _ (List.mem_singleton_self _), rfl⟩

theorem wp_refuse (h : OnRequest r s) (status body : String) :
    ServerWp sha failedErase (refuse r status body) s := by
  apply wp_interfered h (fun _ _ ht h => h.rely ht) ⟨h.1, trivial⟩
  rintro t _ u ht rfl
  exact wp_respond ht status body .fail

/-- The claim is given up. -/
theorem wp_setUploadState_error (h : Claimed r s) {rest : Task EspErr}
    (hrest : ∀ t, OnRequest r t → ServerWp sha failedErase rest t) :
    ServerWp sha failedErase
      (perform (UpdaterCall.fw r (.setUploadState .error)) >>= fun _ => rest) s := by
  apply wp_interfered h (fun _ _ ht h => h.rely ht) ⟨h.1.1, rfl, h.1.2, h.2⟩
  rintro t _ u ht ⟨b, hboard, -, rfl⟩
  have hqueue := ht.1.1.newest_not_queued ht.1.2.newest
  have hfw := ht.1.1.fw (c := .setUploadState .error) ⟨by decide, ht.2, hqueue⟩ hboard
  apply hrest
  have hlog := act_sameLog { t with board := b } r (.setUploadState .error)
  exact ht.1.same hfw.observe ⟨hlog.1, hlog.2, hlog.3, hlog.4, hlog.5⟩

/-- The hand-off to the worker never fails. -/
theorem wp_handOff (h : Claimed r s) {f : Bool → Task EspErr} (hf : f true = pure .ok) :
    ServerWp sha failedErase (perform (UpdaterCall.queueSend r) >>= f) s := by
  apply wp_interfered h (fun _ _ ht h => h.rely ht) ⟨h.1.1, h.1.2, h.2⟩
  intro t isSent u ht hu
  have hsingle : Single u := ht.1.1.call (c := .queueSend r) ⟨ht.2, ht.1.2.newest⟩ hu
  have hroom : t.queue.length < 1 := by simp [ht.1.1.queue_empty ht.2 ht.1.2.newest]
  dsimp only [tasks] at hu
  rw [if_pos hroom] at hu
  obtain ⟨rfl, rfl⟩ := hu
  rw [hf]
  refine ⟨hsingle, fun q hq => ?_, fun reply hreply => ?_, fun id hid => ?_⟩
  · show q.id < t.arrived
    rw [ht.1.2.arrived]
    rcases List.mem_append.mp hq with hold | hnew
    · exact Nat.lt_succ_of_lt (ht.1.2.newest.handed q hold)
    · rw [List.mem_singleton.mp hnew]
      exact Nat.lt_succ_self _
  · show reply.request.id < t.arrived
    rw [ht.1.2.arrived]
    exact Nat.lt_succ_of_lt (ht.1.2.newest.replied reply hreply)
  · have hid' : id < r.id + 1 := ht.1.2.arrived ▸ hid
    rcases Nat.lt_succ_iff_lt_or_eq.mp hid' with hlt | rfl
    · rcases ht.1.2.settled id hlt with hreplied | ⟨q, hq, hsame⟩
      · exact .inl hreplied
      · exact .inr ⟨q, List.mem_append_left _ hq, hsame⟩
    · exact .inr ⟨r, List.mem_append_right _ (List.mem_singleton_self _), rfl⟩

theorem wp_handleUpload (ota : Option OtaPartition) (h : OnRequest r s) :
    ServerWp sha failedErase (handleUpload ota r) s := by
  apply wp_interfered h (fun _ _ ht h => h.rely ht) ⟨h.1, h.2⟩
  rintro t isBusy u ht hclaim
  have hsingle : Single u := ht.1.call (c := .claim r) trivial hclaim
  obtain ⟨rfl, rfl⟩ := hclaim
  by_cases hbusy : t.isBusy
  · simp only [hbusy, if_true]
    exact wp_refuse ht _ _
  simp only [hbusy, if_false, Bool.false_eq_true] at hsingle ⊢
  have hclaimed : Claimed r (t.claim r).observe := by
    refine ⟨ht.same hsingle ⟨rfl, rfl, rfl, rfl, rfl⟩, ?_⟩
    exact List.mem_append_right _ (List.mem_singleton_self _)
  apply (wp_ite _ _ _ _).mpr
  split
  · exact wp_setUploadState_error hclaimed fun v hv => wp_refuse hv _ _
  · apply wp_interfered hclaimed (fun _ _ ht h => h.rely ht) ⟨hclaimed.1.1, trivial⟩
    rintro v err _ hv rfl
    apply (wp_ite _ _ _ _).mpr
    split
    · exact wp_setUploadState_error hv fun w hw => wp_refuse hw _ _
    · exact wp_handOff hv rfl

theorem wp_handleStatus (h : OnRequest r s) : ServerWp sha failedErase (handleStatus r) s := by
  apply wp_interfered h (fun _ _ ht h => h.rely ht) ⟨h.1, trivial⟩
  rintro t installed _ ht ⟨b, hboard, -, rfl⟩
  have hlog := act_sameLog { t with board := b } r .copyInstalledVersion
  have hguard : FwGuard r .copyInstalledVersion t := fun htouch => htouch.elim
  have hfw := ht.1.fw hguard hboard
  have hsame := ht.same hfw.observe ⟨hlog.1, hlog.2, hlog.3, hlog.4, hlog.5⟩
  apply wp_interfered hsame (fun _ _ ht h => h.rely ht) ⟨hsame.1, trivial⟩
  rintro v status _ hv ⟨-, rfl⟩
  exact wp_respond hv _ _ .ok

end ServerTask

/-! ## The worker -/

/-- What the worker calls while it holds the claim. -/
def UploadWork : FwCall → Prop
  | .setUploadState _ | .sendText _ _ | .asyncComplete => False
  | _ => True

/-- The call reads or writes flash and nothing else. -/
def FlashWork : FwCall → Prop
  | .findOta | .findFwMeta | .metaRead _ _ | .metaErase _ _ | .metaWrite _ _ | .otaRead _ _
  | .otaSha256 => True
  | _ => False

theorem FlashWork.uploadWork {c : FwCall} (hc : FlashWork c) : UploadWork c := by
  cases c <;> first | exact hc.elim | trivial

theorem BodyCall.uploadWork {c : FwCall} (hc : BodyCall c) : UploadWork c := by
  cases c <;> first | exact hc.elim | trivial

theorem eraseFwMetaRecord_work : eraseFwMetaRecord.Only FlashWork :=
  Only.bind ⟨trivial, fun _ => trivial⟩ fun _ => Only.ite trivial ⟨trivial, fun _ => trivial⟩

theorem writeAndCheckMetaRecord_work (otaSize : UInt32) (record : FwMetaRecord) :
    (writeAndCheckMetaRecord otaSize record).Only FlashWork := by
  have hwrite : (writeFwMetaRecord record).Only FlashWork :=
    Only.bind ⟨trivial, fun _ => trivial⟩ fun _ => Only.ite trivial ⟨trivial, fun _ => trivial⟩
  have hread : readFwMetaRecord.Only FlashWork :=
    Only.bind ⟨trivial, fun _ => trivial⟩ fun _ => Only.ite trivial
      (Only.bind ⟨trivial, fun _ => trivial⟩ fun _ => Only.ite trivial trivial)
  exact Only.bind hwrite fun _ => Only.ite trivial (Only.bind hread fun _ => trivial)

theorem clearCrashCount_work : clearCrashCount.Only FlashWork := by
  have hread : readFwCtrlRecord.Only FlashWork :=
    Only.bind ⟨trivial, fun _ => trivial⟩ fun _ => Only.ite trivial
      (Only.bind ⟨trivial, fun _ => trivial⟩ fun _ => Only.ite trivial trivial)
  have hwrite (record : FwCtrlRecord) : (writeFwCtrlRecord record).Only FlashWork :=
    Only.bind ⟨trivial, fun _ => trivial⟩ fun _ => Only.ite trivial
      (Only.bind ⟨trivial, fun _ => trivial⟩ fun _ =>
        Only.ite trivial ⟨trivial, fun _ => trivial⟩)
  exact Only.bind hread fun _ => Only.ite trivial (Only.bind (hwrite _) fun _ => trivial)

theorem commitMetaRecord_work (otaSize : UInt32) (total : Nat) (head : List UInt8) :
    (commitMetaRecord otaSize total head).Only UploadWork := by
  have hflash {α : Type} {p : Fw α} (hp : p.Only FlashWork) : p.Only UploadWork :=
    Only.mono hp fun _ => FlashWork.uploadWork
  refine Only.bind ⟨trivial, fun _ => trivial⟩ fun sha256 => Only.ite trivial ?_
  refine Only.bind (hflash (writeAndCheckMetaRecord_work _ _)) fun isCommitted =>
    Only.ite ?_ ?_
  · exact Only.bind (hflash eraseFwMetaRecord_work) fun _ => trivial
  · exact Only.bind ⟨trivial, fun _ => trivial⟩ fun _ =>
      Only.bind (hflash clearCrashCount_work) fun _ => trivial

theorem runUpload_work (ota : Option OtaPartition) (total : Nat) :
    (runUpload ota total).Only UploadWork := by
  cases ota with
  | none => trivial
  | some partition =>
      have hbody (handle : UInt32) :=
        Only.mono (receiveImage_only handle total 0 0 []) fun _ => BodyCall.uploadWork
      refine Only.ite trivial ?_
      have herase := Only.mono eraseFwMetaRecord_work fun _ => FlashWork.uploadWork
      refine Only.bind herase fun err => Only.ite trivial ?_
      refine Only.bind ⟨trivial, fun _ => trivial⟩ fun _ => ?_
      refine Only.bind ⟨trivial, fun _ => trivial⟩ fun opened => Only.ite trivial ?_
      refine Only.bind (hbody _) fun received => Only.ite trivial ?_
      refine Only.bind ⟨trivial, fun _ => trivial⟩ fun err => Only.ite trivial ?_
      exact Only.bind (commitMetaRecord_work _ _ _) fun _ => trivial

section Worker

variable {s t : Shared} {r : UpdaterRequest}

/-- The worker works on the request. -/
structure Working (r : UpdaterRequest) (s : Shared) : Prop where
  single : Single s
  taken : s.taken = s.completed ++ [r]

/-- The outcome of the worker's request is not set. -/
def Processing (r : UpdaterRequest) (s : Shared) : Prop := Working r s ∧ r ∈ s.holding

theorem Working.rely (h : Working r s) (ht : WorkerRely s t) : Working r t :=
  ⟨ht.single h.single, by rw [ht.taken, ht.completed, h.taken]⟩

theorem Working.mem_taken (h : Working r s) : r ∈ s.taken := by
  rw [h.taken]
  exact List.mem_append_right _ (List.mem_singleton_self r)

theorem Processing.rely (h : Processing r s) (ht : WorkerRely s t) : Processing r t :=
  ⟨h.1.rely ht, ht.holding h.1.single r h.2 h.1.mem_taken⟩

/-- The weakest precondition for the worker. -/
abbrev WorkerWp (sha : Content → Option (Vector UInt8 fwSha256Len))
    (failedErase : UInt8 → UInt8 → Prop) (p : Task EspErr) (s : Shared) : Prop :=
  p.wp (Interfered WorkerRely (tasks sha failedErase)) (uploadGuard .worker)
    (uploadPost .worker) s

theorem UploadWork.guard {c : FwCall} (hc : UploadWork c) (h : Working r s) :
    WorkerGuard (.fw r c) s := by
  refine ⟨h.taken, ?_⟩
  cases c <;> first | exact hc.elim | trivial

/-- A call of the worker that is not the completion. -/
theorem Working.call (h : Working r s) {c : FwCall} (hc : WorkerGuard (.fw r c) s)
    (hcomplete : c ≠ .asyncComplete) {a : c.Answer}
    (hcall : tasks sha failedErase (.fw r c) s a t) : Working r t := by
  have hsingle : Single t := h.single.call (hc.call h.single) hcall
  obtain ⟨b, -, -, rfl⟩ := hcall
  refine ⟨hsingle, ?_⟩
  show ({ s with board := b }.act r c).taken = ({ s with board := b }.act r c).completed ++ [r]
  rw [(act_sameLog _ r c).taken, act_completed _ r hcomplete]
  exact h.taken

theorem Processing.call (h : Processing r s) {c : FwCall} (hc : UploadWork c) {a : c.Answer}
    (hcall : tasks sha failedErase (.fw r c) s a t) : Processing r t := by
  have hworking : Working r t :=
    h.1.call (hc.guard h.1) (by rintro rfl; exact hc) hcall
  obtain ⟨b, -, -, rfl⟩ := hcall
  refine ⟨hworking, ?_⟩
  show r ∈ ({ s with board := b }.act r c).holding
  rw [(act_state _ r (by rintro state rfl; exact hc)).2]
  exact h.2

/-- The rest of the worker's iteration, from some point of a function that works on the request. -/
abbrev RestWp (sha : Content → Option (Vector UInt8 fwSha256Len))
    (failedErase : UInt8 → UInt8 → Prop) (r : UpdaterRequest) (p : Fw Unit) (s : Shared) : Prop :=
  WorkerWp sha failedErase (forRequest r p >>= fun _ => pure .ok) s

/-- A function that works on the request, at an assertion that its calls keep. -/
theorem wp_uploadWork {A : Shared → Prop} (hA : ∀ t, A t → Working r t)
    (hrely : ∀ s t, WorkerRely s t → A s → A t)
    (hcall : ∀ {c : FwCall} {a : c.Answer} {s t}, UploadWork c → A s →
      tasks sha failedErase (.fw r c) s a t → A t)
    {α : Type} {p : Fw α} (hp : p.Only UploadWork) (h : A s) {rest : α → Fw Unit}
    (hrest : ∀ a t, A t → RestWp sha failedErase r (rest a) t) :
    RestWp sha failedErase r (p >>= rest) s := by
  have hwork : (forRequest r p).Only fun c => ∃ fc, c = .fw r fc ∧ UploadWork fc :=
    only_embed (Only.mono hp fun c hc => ⟨c, rfl, hc⟩)
  rw [RestWp, forRequest, embed_bind, bind_assoc, WorkerWp, wp_bind]
  refine wp_mono (wp_interfered_only hwork h hrely ?_ ?_) hrest
  · rintro _ u ⟨c, rfl, hc⟩ hu
    exact ⟨(hA u hu).single, hc.guard (hA u hu)⟩
  · rintro _ u a v ⟨c, rfl, hc⟩ hu hstep
    exact hcall hc hu hstep

/-- One call for the request. -/
theorem wp_fwCall {A : Shared → Prop} {c : FwCall} (h : A s)
    (hrely : ∀ s t, WorkerRely s t → A s → A t) (hguard : Single s ∧ WorkerGuard (.fw r c) s)
    {rest : c.Answer → Fw Unit}
    (hrest : ∀ t a u, A t → tasks sha failedErase (.fw r c) t a u →
      RestWp sha failedErase r (rest a) u) :
    RestWp sha failedErase r (perform c >>= rest) s := by
  have hwp := wp_interfered (G := uploadGuard .worker) (Q := uploadPost .worker)
    (f := fun a => forRequest r (rest a) >>= fun _ => pure EspErr.ok) h hrely hguard hrest
  exact hwp

/-- The end of a request, once its outcome is set. -/
theorem wp_asyncComplete (h : Working r s) :
    RestWp sha failedErase r (perform FwCall.asyncComplete) s := by
  apply wp_interfered h (fun _ _ ht h => h.rely ht) ⟨h.single, h.taken, trivial⟩
  intro t a u ht hcall
  have hsingle : Single u := ht.single.call (c := .fw r .asyncComplete) ht.taken hcall
  obtain ⟨b, -, -, rfl⟩ := hcall
  exact ⟨hsingle, ht.taken⟩

/-- The outcome is set. -/
theorem wp_setOutcome {state : UploadState} (hstate : state ≠ .uploading) (h : Processing r s)
    {rest : Fw Unit}
    (hrest : ∀ t, Working r t → t.state = state → RestWp sha failedErase r rest t) :
    RestWp sha failedErase r (perform (FwCall.setUploadState state) >>= fun _ => rest) s := by
  have hguard {t : Shared} (ht : Processing r t) : WorkerGuard (.fw r (.setUploadState state)) t :=
    ⟨ht.1.taken, hstate, ht.2⟩
  apply wp_fwCall h (fun _ _ ht h => h.rely ht) ⟨h.1.single, hguard h⟩
  intro t a u ht hcall
  have hu : Working r u := ht.1.call (hguard ht) (by simp) hcall
  obtain ⟨b, -, -, rfl⟩ := hcall
  exact hrest _ hu rfl

theorem wp_replyUpload (outcome : UploadResult × Option UInt32) (h : Processing r s) :
    RestWp sha failedErase r (replyUpload outcome >>= fun _ => perform FwCall.asyncComplete) s := by
  unfold replyUpload
  rw [ite_bind]
  split
  · -- The claim is released before the reply is sent.
    rename_i hfailed
    simp only [bind_assoc]
    have habort : (abortIfOpen outcome.2).Only UploadWork := by
      cases outcome.2 with
      | none => trivial
      | some handle => exact Only.bind ⟨trivial, fun _ => trivial⟩ fun _ => trivial
    apply wp_uploadWork (fun _ ht => ht.1) (fun _ _ ht h => h.rely ht)
      (fun hc ht hcall => ht.call hc hcall) habort h
    intro _ t ht
    apply wp_setOutcome (by decide) ht
    intro t ht _
    have hguard {u : Shared} (hu : Working r u) : WorkerGuard (.fw r (.sendText
        (uploadReplies outcome.1).status (uploadReplies outcome.1).body)) u :=
      ⟨hu.taken, fun hok => absurd (uploadReplies_status_ok.mp hok) hfailed⟩
    apply wp_fwCall ht (fun _ _ ht h => h.rely ht) ⟨ht.single, hguard ht⟩
    intro u _ v hu hcall
    exact wp_asyncComplete (hu.call (hguard hu) (by simp) hcall)
  · simp only [bind_assoc]
    apply wp_uploadWork (fun _ ht => ht.1) (fun _ _ ht h => h.rely ht)
      (fun hc ht hcall => ht.call hc hcall) 
      ((only_perform FwCall.copyInstalledVersion).mpr trivial) h
    intro _ t ht
    apply wp_setOutcome (by decide) ht
    intro t ht hdone
    have hguard {u : Shared} (hu : Working r u) (hdone : u.state = .done) :
        WorkerGuard (.fw r (.sendText (uploadReplies .ok).status (uploadReplies .ok).body)) u :=
      ⟨hu.taken, fun _ => hdone⟩
    apply wp_fwCall (A := fun u => Working r u ∧ u.state = .done) ⟨ht, hdone⟩
      (fun _ _ ht h => ⟨h.1.rely ht, ht.done h.2⟩) ⟨ht.single, hguard ht hdone⟩
    intro u _ v hu hcall
    have hv : Working r v := hu.1.call (hguard hu.1 hu.2) (by simp) hcall
    have hrestart : scheduleRestart.Only UploadWork :=
      Only.bind ⟨trivial, fun _ => trivial⟩ fun _ =>
        Only.ite (Only.bind ⟨trivial, fun _ => trivial⟩ fun never => never.elim) trivial
    apply wp_uploadWork (fun _ ht => ht) (fun _ _ ht h => h.rely ht)
      (fun hc ht hcall => ht.call (hc.guard ht) (by rintro rfl; exact hc) hcall) hrestart hv
    intro _ w hw
    exact wp_asyncComplete hw

/-- The request that the worker receives holds the claim. -/
theorem Single.received {t : Shared} (h : Single s) (htaken : s.taken = s.completed)
    (hcall : tasks sha failedErase .queueReceive s r t) : Processing r t := by
  have hsingle : Single t := h.call (c := .queueReceive) htaken hcall
  obtain ⟨rest, hqueue, rfl⟩ := hcall
  refine ⟨⟨hsingle, congrArg (· ++ [r]) htaken⟩, ?_⟩
  exact h.queued r (hqueue ▸ List.mem_cons_self)

theorem wp_runUploadWorker (ota : Option OtaPartition) (h : Single s)
    (htaken : s.taken = s.completed) :
    WorkerWp sha failedErase (runUploadWorker ota) s := by
  have hrely (u v : Shared) (huv : WorkerRely u v) (hu : Single u ∧ u.taken = u.completed) :
      Single v ∧ v.taken = v.completed :=
    ⟨huv.single hu.1, by rw [huv.taken, huv.completed, hu.2]⟩
  apply wp_interfered ⟨h, htaken⟩ hrely ⟨h, htaken⟩
  rintro t r u ⟨ht, htaken⟩ hcall
  have hu : Processing r u := ht.received htaken hcall
  have hstart : (perform (FwCall.startCounters r.contentLen.toNat) : Fw Unit).Only UploadWork :=
    (only_perform _).mpr trivial
  apply wp_uploadWork (fun _ ht => ht.1) (fun _ _ ht h => h.rely ht)
    (fun hc ht hcall => ht.call hc hcall) hstart hu
  intro _ v hv
  apply wp_uploadWork (fun _ ht => ht.1) (fun _ _ ht h => h.rely ht)
    (fun hc ht hcall => ht.call hc hcall) (runUpload_work ota _) hv
  intro outcome w hw
  exact wp_replyUpload outcome hw

end Worker

/-! ## Runs -/

theorem ServerRely.refl (s : Shared) : ServerRely s s := ⟨id, rfl, rfl, rfl, fun _ _ hr _ => hr⟩

theorem WorkerRely.refl (s : Shared) : WorkerRely s s := ⟨id, rfl, rfl, fun _ _ hr _ => hr, id⟩

theorem ServerRely.trans {s t u : Shared} (h : ServerRely s t) (h' : ServerRely t u) :
    ServerRely s u := by
  refine ⟨fun hs => h'.single (h.single hs), h'.arrived.trans h.arrived,
    h'.handed.trans h.handed, h'.replies.trans h.replies, fun hs r hr hnew => ?_⟩
  apply h'.holding (h.single hs) r (h.holding hs r hr hnew)
  exact ⟨by rw [h.handed]; exact hnew.handed, by rw [h.replies]; exact hnew.replied⟩

theorem WorkerRely.trans {s t u : Shared} (h : WorkerRely s t) (h' : WorkerRely t u) :
    WorkerRely s u := by
  refine ⟨fun hs => h'.single (h.single hs), h'.taken.trans h.taken,
    h'.completed.trans h.completed, fun hs r hr htaken => ?_, fun hdone => h'.done (h.done hdone)⟩
  exact h'.holding (h.single hs) r (h.holding hs r hr htaken) (h.taken ▸ htaken)

theorem uploadGuard_rely {task : UpdaterTask} {c : UpdaterCall} {s t : Shared}
    (h : uploadRely task s t) (hs : uploadGuard task c s) : uploadGuard task c t := by
  cases task with
  | server =>
      obtain ⟨hsingle, hguard⟩ := hs
      have hrely : ServerRely s t := h
      refine ⟨hrely.single hsingle, ?_⟩
      cases c with
      | fw r c =>
          cases c with
          | setUploadState state =>
              obtain ⟨hstate, hserving, hheld⟩ := hguard
              exact ⟨hstate, hserving.rely hrely,
                hrely.holding hsingle r hheld hserving.newest⟩
          | _ => exact hguard
      | claim r => exact Serving.rely hguard hrely
      | respond r status body => exact Serving.rely hguard hrely
      | queueSend r =>
          exact ⟨hguard.1.rely hrely, hrely.holding hsingle r hguard.2 hguard.1.newest⟩
      | _ => exact hguard
  | worker =>
      obtain ⟨hsingle, hguard⟩ := hs
      have hrely : WorkerRely s t := h
      refine ⟨hrely.single hsingle, ?_⟩
      cases c with
      | fw r c =>
          obtain ⟨htaken, hguard⟩ := hguard
          have hmem : r ∈ s.taken := htaken ▸ List.mem_append_right _ (List.mem_singleton_self r)
          refine ⟨by rw [hrely.taken, hrely.completed, htaken], ?_⟩
          cases c with
          | setUploadState state => exact ⟨hguard.1, hrely.holding hsingle r hguard.2 hmem⟩
          | sendText status body => exact fun hok => hrely.done (hguard hok)
          | _ => trivial
      | queueReceive =>
          show t.taken = t.completed
          rw [hrely.taken, hrely.completed]
          exact hguard
      | _ => exact hguard.elim

theorem uploadPost_rely {task : UpdaterTask} {err : EspErr} {s t : Shared}
    (h : uploadRely task s t) (hs : uploadPost task err s) : uploadPost task err t := by
  cases task with
  | server =>
      obtain ⟨hsingle, hpost⟩ := hs
      have hrely : ServerRely s t := h
      exact ⟨hrely.single hsingle, Idle.rely hpost hrely⟩
  | worker =>
      obtain ⟨hsingle, hpost⟩ := hs
      have hrely : WorkerRely s t := h
      refine ⟨hrely.single hsingle, ?_⟩
      rw [hrely.taken, hrely.completed]
      exact hpost

theorem Single.arrive {s : Shared} (h : Single s) : Single s.arrive :=
  ⟨h.handed, h.ordered, h.replied, h.apart, h.holding, h.uploading, h.queued, h.outcome,
    h.touched, h.working, h.succeeded⟩

/-- The next request is the server task's. -/
theorem Idle.arrive {s : Shared} (h : Idle s) (r : UpdaterRequest) (hr : r.id = s.arrived) :
    Serving r s.arrive := by
  refine ⟨?_, ⟨fun q hq => ?_, fun reply hreply => ?_⟩, fun id hid => ?_⟩
  · rw [hr]
    rfl
  · rw [hr]
    exact h.handed q hq
  · rw [hr]
    exact h.replied reply hreply
  · rw [hr] at hid
    exact h.settled id hid

theorem uploadStart {ota : Option OtaPartition} {task : UpdaterTask} {err : EspErr}
    {s s' : Shared} {p : Task EspErr} (h : uploadPost task err s) (hnext : Serves ota s task p s') :
    p.wp (Interfered (uploadRely task) (tasks sha failedErase)) (uploadGuard task)
      (uploadPost task) s' := by
  cases hnext with
  | update contentLen => exact wp_handleUpload ota ⟨h.1.arrive, Idle.arrive h.2 _ rfl⟩
  | status => exact wp_handleStatus ⟨h.1.arrive, Idle.arrive h.2 _ rfl⟩
  | worker => exact wp_runUploadWorker ota h.1 h.2

theorem upload_compatible {ota : Option OtaPartition}
    {Allowed : Tasks → UpdaterTask → UpdaterCall → Prop} :
    Compatible (tasks sha failedErase) (fun t (_ : EspErr) s p s' => Serves ota s t p s') Allowed
      uploadRely uploadGuard uploadPost where
  refl task s := by
    cases task with
    | server => exact ServerRely.refl s
    | worker => exact WorkerRely.refl s
  trans {task _ _ _} h h' := by
    cases task with
    | server => exact ServerRely.trans h h'
    | worker => exact WorkerRely.trans h h'
  guard := uploadGuard_rely
  post := uploadPost_rely
  call {_ task other _ _ _} hne _ hguard hcall := by
    cases task <;> cases other
    · exact absurd rfl hne
    · exact WorkerGuard.rely hguard.1 hguard.2 hcall
    · exact ServerGuard.rely hguard.1 hguard.2 hcall
    · exact absurd rfl hne
  next {task other _ _ _ _} hne hpost hnext := by
    cases hnext with
    | update _ | status =>
        cases task with
        | server => exact absurd rfl hne
        | worker => exact ⟨Single.arrive, rfl, rfl, fun _ _ hr _ => hr, id⟩
    | worker =>
        cases task with
        | server => exact ServerRely.refl _
        | worker => exact absurd rfl hne
  start := uploadStart

theorem single_start (b : Board) (version : Option Version) (hb : b.replies = []) :
    Single (startShared b version) := by
  constructor <;> simp [startShared, hb]

theorem uploadStart_wp (b : Board) (version : Option Version) (hb : b.replies = [])
    (task : UpdaterTask) :
    ((startTasks b version).left task).wp (Interfered (uploadRely task) (tasks sha failedErase))
      (uploadGuard task) (uploadPost task) (startTasks b version).state := by
  have hsingle := single_start b version hb
  cases task with
  | server =>
      refine ⟨hsingle, ?_⟩
      constructor <;> simp [startTasks, startShared]
  | worker => exact ⟨hsingle, rfl⟩

/-- Where each task stands, in every run. -/
theorem upload_wp {ota : Option OtaPartition} {Allowed : Tasks → UpdaterTask → UpdaterCall → Prop}
    {b : Board} {version : Option Version} (hb : b.replies = []) {x : Tasks}
    (hrun : TasksRun sha failedErase ota Allowed (startTasks b version) x) (task : UpdaterTask) :
    (x.left task).wp (Interfered (uploadRely task) (tasks sha failedErase)) (uploadGuard task)
      (uploadPost task) x.state :=
  upload_compatible.of_run hrun (uploadStart_wp b version hb) task

theorem upload_single {p : Task EspErr} {task : UpdaterTask} {s : Shared}
    (h : p.wp (Interfered (uploadRely task) (tasks sha failedErase)) (uploadGuard task)
      (uploadPost task) s) : Single s := by
  cases task with
  | server =>
      cases p with
      | ret err => exact h.1
      | call c k => exact h.1.1
  | worker =>
      cases p with
      | ret err => exact h.1
      | call c k => exact h.1.1

theorem upload_callGuard {c : UpdaterCall} {s : Shared} {task : UpdaterTask}
    (h : uploadGuard task c s) : CallGuard c s := by
  cases task with
  | server => exact h.2.call h.1
  | worker => exact h.2.call h.1

/-- After a success nothing more is handed over or taken. -/
structure AfterSuccess (s t : Shared) : Prop where
  state : t.state = .done
  handed : t.handed = s.handed
  taken : t.taken = s.taken

theorem Single.call_done {s t : Shared} (h : Single s) (hdone : s.state = .done) {c : UpdaterCall}
    (hc : CallGuard c s) {r : c.Answer} (hcall : tasks sha failedErase c s r t) :
    AfterSuccess s t := by
  have hfree : ∀ q, q ∉ s.holding := by
    intro q hq
    have hbusy := h.busy_of_holding hq
    rw [hdone] at hbusy
    cases hbusy
  cases c with
  | fw q c =>
      obtain ⟨b, -, -, rfl⟩ := hcall
      have hlog := act_sameLog { s with board := b } q c
      refine ⟨?_, hlog.handed, hlog.taken⟩
      by_cases hset : ∀ state, c ≠ .setUploadState state
      · exact (act_state { s with board := b } q hset).1.trans hdone
      · simp only [ne_eq, not_forall, not_not] at hset
        obtain ⟨state, rfl⟩ := hset
        exact absurd hc.2.1 (hfree q)
  | claim q =>
      obtain ⟨-, rfl⟩ := hcall
      have hbusy : s.isBusy = true := by simp [Shared.isBusy, hdone]
      rw [if_pos hbusy]
      exact ⟨hdone, rfl, rfl⟩
  | queueSend q => exact absurd hc.1 (hfree q)
  | queueReceive =>
      obtain ⟨rest, hqueue, -⟩ := hcall
      have hempty := h.queue_nil (by simp [hdone])
      rw [hempty] at hqueue
      cases hqueue
  | readStatus =>
      obtain ⟨-, rfl⟩ := hcall
      exact ⟨hdone, rfl, rfl⟩
  | asyncBegin | setHdr | sendError | respond =>
      obtain rfl := hcall
      exact ⟨hdone, rfl, rfl⟩

theorem done_of_run {ota : Option OtaPartition}
    {Allowed : Tasks → UpdaterTask → UpdaterCall → Prop} {b : Board} {version : Option Version}
    (hb : b.replies = []) {x y : Tasks}
    (hx : TasksRun sha failedErase ota Allowed (startTasks b version) x)
    (hy : TasksRun sha failedErase ota Allowed x y) (hdone : x.state.state = .done) :
    AfterSuccess x.state y.state := by
  induction hy with
  | refl => exact ⟨hdone, rfl, rfl⟩
  | @tail y z hxy hstep ih =>
      obtain ⟨task, hstep⟩ := hstep
      have hwp := upload_wp hb (hx.trans hxy) task
      cases hstep with
      | call hleft _ hcall =>
          rw [hleft] at hwp
          have hguard := upload_callGuard hwp.1
          have hz := (upload_single hwp).call_done ih.state hguard hcall
          exact ⟨hz.state, hz.handed.trans ih.handed, hz.taken.trans ih.taken⟩
      | next _ hnext => cases hnext <;> exact ⟨ih.state, ih.handed, ih.taken⟩

/-! ## Single upload -/

/-- At most one request is claimed, queued or processed, until its outcome is set. -/
structure OneClaim (s : Shared) : Prop where
  holding : s.holding.length ≤ 1
  uploading : s.state = .uploading ↔ s.holding ≠ []
  queued : ∀ r ∈ s.queue, r ∈ s.holding
  outcome : ∀ r ∈ s.handed, r ∈ s.holding ∨ r ∈ s.decided

/-- Every request is answered or handed to the worker, once, and completed once; only those the
worker has received have their body read, or flash or OTA accessed. -/
structure Accounted (x : Tasks) : Prop where
  answeredOrHanded : ∀ err, x.left .server = .ret err → ∀ id < x.state.arrived,
    (∃ reply ∈ x.state.replies, reply.request.id = id) ↔ ¬ ∃ r ∈ x.state.handed, r.id = id
  answeredOnce : (x.state.replies.map fun reply => reply.request.id).Nodup
  handedOnce : (x.state.handed.map UpdaterRequest.id).Nodup
  handed : x.state.handed = x.state.taken ++ x.state.queue
  taken : x.state.taken = x.state.completed ∨ ∃ r, x.state.taken = x.state.completed ++ [r]
  completed : ∀ err, x.left .worker = .ret err → x.state.taken = x.state.completed
  touched : ∀ r ∈ x.state.touched, r ∈ x.state.taken

theorem Single.oneClaim {s : Shared} (h : Single s) : OneClaim s :=
  ⟨h.holding, h.uploading, h.queued, h.outcome⟩

theorem Single.accounted {x : Tasks} (h : Single x.state)
    (hserver : ∀ err, x.left .server = .ret err → Idle x.state)
    (hworker : ∀ err, x.left .worker = .ret err → x.state.taken = x.state.completed) :
    Accounted x where
  answeredOrHanded := by
    intro err hleft id hid
    constructor
    · rintro ⟨reply, hreply, rfl⟩ ⟨r, hr, hsame⟩
      exact h.apart r hr reply hreply hsame
    · exact fun hnone => ((hserver err hleft).settled id hid).resolve_right hnone
  answeredOnce := by
    apply List.pairwise_map.mpr
    exact h.replied.imp fun hlt => Nat.ne_of_lt hlt
  handedOnce := by
    apply List.pairwise_map.mpr
    exact h.ordered.imp fun hlt => Nat.ne_of_lt hlt
  handed := h.handed
  taken := h.working
  completed := hworker
  touched := h.touched

theorem single_upload {ota : Option OtaPartition} {b : Board} {version : Option Version}
    (hb : b.replies = []) {x y : Tasks}
    (hx : TasksRun sha failedErase ota (fun _ _ _ => True) (startTasks b version) x)
    (hy : TasksRun sha failedErase ota (fun _ _ _ => True) x y) :
    OneClaim x.state ∧ Accounted x ∧
      (∀ task r isSent s, (x.left task).next? = some (.queueSend r) →
        tasks sha failedErase (.queueSend r) x.state isSent s → isSent = true) ∧
      (∀ reply ∈ x.state.board.replies, reply.1 = "200 OK" → x.state.state = .done) ∧
      (x.state.state = .done → AfterSuccess x.state y.state) := by
  have hwp := upload_wp hb hx
  have hsingle := upload_single (hwp .server)
  refine ⟨hsingle.oneClaim, hsingle.accounted ?_ ?_, ?_, hsingle.succeeded, done_of_run hb hx hy⟩
  · intro err hleft
    have hserver := hwp .server
    rw [hleft] at hserver
    exact hserver.2
  · intro err hleft
    have hworker := hwp .worker
    rw [hleft] at hworker
    exact hworker.2
  · intro task r isSent s hnext hcall
    have htask := hwp task
    cases hleft : x.left task with
    | ret err => simp [hleft, Prog.next?] at hnext
    | call c k =>
        rw [hleft] at htask
        obtain rfl : c = .queueSend r := by simpa [hleft, Prog.next?] using hnext
        have hguard : r ∈ x.state.holding ∧ Newest r x.state := upload_callGuard htask.1
        have hroom : x.state.queue.length < 1 := by simp [hsingle.queue_empty hguard.1 hguard.2]
        dsimp only [tasks] at hcall
        rw [if_pos hroom] at hcall
        exact hcall.1

/-! ### Two uploads at once -/

def firstUpload : UpdaterRequest := ⟨0, .update, 1⟩

def secondUpload : UpdaterRequest := ⟨1, .update, 1⟩

theorem handOff_ends {r : UpdaterRequest} {s : Shared}
    (hsize : isSizeInvalid blankBoard.otaPartition r.contentLen = false)
    (hfree : s.isBusy = false) (hqueue : s.queue = []) :
    Ends (tasks sha failedErase) (handleUpload blankBoard.otaPartition r) s .ok
      ((s.claim r).observe.send r) := by
  unfold handleUpload
  simp only [hsize]
  refine .call (r := false) ⟨hfree.symm, by rw [if_neg (by simp [hfree])]⟩ ?_
  refine .call (r := EspErr.ok) rfl ?_
  refine .call (r := true) ?_ (.ret _ _)
  have hroom : (s.claim r).observe.queue.length < 1 := by
    simp [Shared.claim, Shared.observe, hqueue]
  dsimp only [tasks]
  rw [if_pos hroom]
  exact ⟨rfl, rfl⟩

/-- The first upload is handed to the worker. -/
theorem firstUpload_run (version : Option Version) :
    TasksRun sha failedErase blankBoard.otaPartition (fun _ _ _ => True)
      (startTasks blankBoard version) ⟨Function.update (fun _ => .ret .ok) .server (.ret .ok),
        ((startShared blankBoard version).arrive.claim firstUpload).observe.send firstUpload⟩ :=
  run_next rfl (.update 1) (handOff_ends rfl rfl rfl)

/-- The worker has set the outcome of the first upload and not yet replied; the second one is
queued. -/
theorem overlapping_run :
    ∃ x, TasksRun (fun _ => none) ErasesNothing blankBoard.otaPartition (fun _ _ _ => True)
        (startTasks blankBoard none) x ∧ x.state.taken = [firstUpload] ∧
      x.state.completed = [] ∧ x.state.queue = [secondUpload] ∧
      x.state.holding = [secondUpload] ∧ x.state.board.replies = [] := by
  have hrun₁ : TasksRun (fun _ => none) ErasesNothing blankBoard.otaPartition (fun _ _ _ => True)
      (startTasks blankBoard none) _ := firstUpload_run none
  -- It cannot erase sector 0.
  have hrun₂ := (Relation.ReflTransGen.tail hrun₁ ⟨.worker, .next rfl .worker⟩).trans <|
    (run_call (r := firstUpload) ⟨[], rfl, rfl⟩).trans <|
    (run_call (r := ()) ⟨_, rfl, trivial, rfl⟩).trans <|
    (run_call (r := true) ⟨_, ⟨rfl, rfl⟩, trivial, rfl⟩).trans <|
    (run_call (r := EspErr.fail) ⟨_, .inr ⟨by decide, blankBoard.fwMeta, fun _ _ => rfl,
      fun _ => rfl, rfl⟩, trivial, rfl⟩).trans <|
    (run_call (r := ()) ⟨_, rfl, trivial, rfl⟩)
  have hrun₃ := hrun₂.trans <| run_next rfl (.update 1)
    (handOff_ends (r := secondUpload) rfl rfl rfl)
  exact ⟨_, hrun₃, rfl, rfl, rfl, rfl, rfl⟩

/-- The second upload is the only one that holds the claim. -/
theorem single_upload_overlapping :
    ∃ x, TasksRun (fun _ => none) ErasesNothing blankBoard.otaPartition (fun _ _ _ => True)
        (startTasks blankBoard none) x ∧ x.state.queue = [secondUpload] ∧ OneClaim x.state ∧
      Accounted x := by
  obtain ⟨x, hx, -, -, hqueue, -⟩ := overlapping_run
  have hsingle := single_upload rfl hx .refl
  exact ⟨x, hx, hqueue, hsingle.1, hsingle.2.1⟩

/-- Claimed, queued or being processed. -/
def Shared.InProgress (s : Shared) (r : UpdaterRequest) : Prop :=
  r ∈ s.holding ∨ r ∈ s.queue ∨ r ∈ s.taken ∧ r ∉ s.completed

/-- The next upload is claimed and queued while the worker still has to answer the last one. -/
theorem uploads_overlap :
    ¬ ∀ x, TasksRun (fun _ => none) ErasesNothing blankBoard.otaPartition (fun _ _ _ => True)
        (startTasks blankBoard none) x →
      ∀ q r, x.state.InProgress q → x.state.InProgress r → q = r := by
  intro hone
  obtain ⟨x, hx, htaken, hcompleted, hqueue, -⟩ := overlapping_run
  have hfirst : x.state.InProgress firstUpload := by simp [Shared.InProgress, htaken, hcompleted]
  have hsecond : x.state.InProgress secondUpload := by simp [Shared.InProgress, hqueue]
  exact absurd (hone x hx _ _ hfirst hsecond) (by decide)

end StripTuner.Updater
