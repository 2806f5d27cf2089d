import Mathlib.Data.List.Forall2
import StripTuner.Logging.Queue

/-!
# Sending, discarding and sending again

The three queue operations of `LogWrite()` are atomic each, but not together. A record is placed, and
only the oldest one of a full queue is given up, as long as no task takes a record while another is
about to discard one, or sends while another is about to send again.
-/

namespace StripTuner.Logging

open DeviceCalls DeviceCalls.Prog Relation

variable {τ : Type} [DecidableEq τ] {hasTimestamp : Bool}

/-! ## Undisturbed calls -/

/-- The call takes a record from the queue. -/
def LogCall.Takes : LogCall → Prop
  | .discard | .receive => True
  | _ => False

/-- The call sends a record to the queue. -/
def LogCall.Sends : LogCall → Prop
  | .send _ | .sendAgain _ => True
  | _ => False

/-- Nothing is taken while another task is about to discard, and nothing is sent while another task
is about to send again. -/
def Undisturbed (x : LogTasks τ) (t : Option τ) (c : LogCall) : Prop :=
  (c.Takes → ∀ u ≠ t, (x.left u).next? ≠ some .discard) ∧
    (c.Sends → ∀ u ≠ t, ∀ entry, (x.left u).next? ≠ some (.sendAgain entry))

abbrev LogStep (hasTimestamp : Bool) (Allowed : LogTasks τ → Option τ → LogCall → Prop) :
    LogTasks τ → LogTasks τ → Prop :=
  ThreadsStep logDevice (LogNext hasTimestamp) Allowed

/-! ## Assertions -/

/-- A placed record is in the queue, was taken by the log writer task, or was the oldest one of a
full queue. -/
structure LogState.Accounted (s : LogState) : Prop where
  isInitialized : s.isInitialized = true
  length : s.queue.length ≤ logQueueDepth
  placed : ∀ entry ∈ s.placed, entry ∈ s.queue ∨ entry ∈ s.received ∨
    ∃ queue ∈ s.discards, queue.length = logQueueDepth ∧ queue.head? = some entry

/-- A task discards from a full queue, and sends again when there is room. -/
def logPre (c : LogCall) (s : LogState) : Prop :=
  s.Accounted ∧ (c = .discard → s.isFull = true) ∧
    ∀ entry, c = .sendAgain entry → s.isFull = false

/-- The record of a call that has returned is placed. -/
def logPost (a : Option LogEntry) (s : LogState) : Prop :=
  s.Accounted ∧ ∀ entry, a = some entry → entry ∈ s.placed

section Operations

variable {s t : LogState} {entry : LogEntry}

theorem LogState.Accounted.place (h : s.Accounted) (hroom : s.isFull = false) :
    (s.place entry).Accounted where
  isInitialized := h.isInitialized
  length := by
    simp [LogState.isFull, logQueueDepth] at hroom
    simp [LogState.place, logQueueDepth]
    omega
  placed := by
    intro placed hplaced
    simp only [LogState.place, List.mem_append, List.mem_singleton] at hplaced ⊢
    rcases hplaced with hold | rfl
    · rcases h.placed placed hold with hqueue | hrest
      · exact .inl (.inl hqueue)
      · exact .inr hrest
    · exact .inl (.inr rfl)

theorem LogState.Accounted.send (h : s.Accounted) {r : Bool} (hsend : (r, t) = sendEntry s entry) :
    t.Accounted := by
  unfold sendEntry at hsend
  split at hsend
  · obtain ⟨rfl, rfl⟩ := Prod.mk.inj hsend
    exact h
  · rename_i hroom
    obtain ⟨rfl, rfl⟩ := Prod.mk.inj hsend
    exact h.place (by simpa using hroom)

/-- The oldest record of a full queue is discarded. -/
theorem LogState.Accounted.discard (h : s.Accounted) (hfull : s.isFull = true)
    {rest : List LogEntry} (hqueue : s.queue = entry :: rest) :
    { s with queue := rest, discards := s.discards ++ [s.queue] }.Accounted where
  isInitialized := h.isInitialized
  length := by
    have hlength := h.length
    rw [hqueue, List.length_cons] at hlength
    show rest.length ≤ logQueueDepth
    omega
  placed := by
    intro placed hplaced
    have hdepth : s.queue.length = logQueueDepth :=
      Nat.le_antisymm h.length (of_decide_eq_true hfull)
    rcases h.placed placed hplaced with hin | hreceived | ⟨queue, hqueue', hdiscarded⟩
    · rw [hqueue, List.mem_cons] at hin
      rcases hin with rfl | hrest
      · refine .inr (.inr ⟨s.queue, by simp, hdepth, ?_⟩)
        rw [hqueue, List.head?_cons]
      · exact .inl hrest
    · exact .inr (.inl hreceived)
    · exact .inr (.inr ⟨queue, by simp [hqueue'], hdiscarded⟩)

/-- The log writer task takes the oldest record. -/
theorem LogState.Accounted.receive (h : s.Accounted) {rest : List LogEntry}
    (hqueue : s.queue = entry :: rest) :
    { s with queue := rest, received := s.received ++ [entry] }.Accounted where
  isInitialized := h.isInitialized
  length := by
    have hlength := h.length
    rw [hqueue, List.length_cons] at hlength
    show rest.length ≤ logQueueDepth
    omega
  placed := by
    intro placed hplaced
    rcases h.placed placed hplaced with hin | hreceived | hdiscarded
    · rw [hqueue, List.mem_cons] at hin
      rcases hin with rfl | hrest
      · exact .inr (.inl (by simp))
      · exact .inl hrest
    · exact .inr (.inl (by simp [hreceived]))
    · exact .inr (.inr hdiscarded)

theorem sendEntry_true (h : (true, t) = sendEntry s entry) : entry ∈ t.placed := by
  unfold sendEntry at h
  split at h
  · simp at h
  · obtain ⟨-, rfl⟩ := Prod.mk.inj h
    simp [LogState.place]

theorem sendEntry_false (h : (false, t) = sendEntry s entry) : s.isFull = true ∧ t = s := by
  unfold sendEntry at h
  split at h
  · exact ⟨‹_›, (Prod.mk.inj h).2⟩
  · simp at h

/-- A discard from a full queue makes room. -/
theorem room_of_discard {r : Option LogEntry} (h : s.Accounted) (hfull : s.isFull = true)
    (hd : logDevice .discard s r t) : t.isFull = false := by
  have hlength := h.length
  simp only [logDevice] at hd
  split at hd
  · rename_i hqueue
    simp [LogState.isFull, hqueue] at hfull
  · rename_i hqueue
    obtain ⟨-, rfl⟩ := hd
    simp [hqueue, logQueueDepth] at hlength
    simp [LogState.isFull, logQueueDepth]
    omega

/-- Every call keeps the account, when it is made under its assertion. -/
theorem LogState.Accounted.call {c : LogCall} {r : c.Answer} (h : logPre c s)
    (hd : logDevice c s r t) : t.Accounted := by
  cases c with
  | isInitialized =>
      obtain ⟨-, rfl⟩ := hd
      exact h.1
  | send entry | sendAgain entry => exact h.1.send hd
  | discard =>
      simp only [logDevice] at hd
      split at hd
      · obtain ⟨-, rfl⟩ := hd
        exact h.1
      · rename_i hqueue
        obtain ⟨-, rfl⟩ := hd
        exact h.1.discard (h.2.1 rfl) hqueue
  | receive =>
      obtain ⟨rest, hqueue, rfl⟩ := hd
      exact h.1.receive hqueue
  | uptime =>
      obtain rfl := hd
      exact h.1
  | uartWrite line =>
      obtain rfl := hd
      exact ⟨h.1.isInitialized, h.1.length, h.1.placed⟩

/-- No call takes back what was placed. -/
theorem placed_mono {c : LogCall} {r : c.Answer} (hd : logDevice c s r t)
    (hplaced : entry ∈ s.placed) : entry ∈ t.placed := by
  cases c with
  | isInitialized =>
      obtain ⟨-, rfl⟩ := hd
      exact hplaced
  | send sent | sendAgain sent =>
      simp only [logDevice, sendEntry] at hd
      split at hd
      · obtain ⟨-, rfl⟩ := Prod.mk.inj hd
        exact hplaced
      · obtain ⟨-, rfl⟩ := Prod.mk.inj hd
        exact List.mem_append_left _ hplaced
  | discard =>
      simp only [logDevice] at hd
      split at hd <;> obtain ⟨-, rfl⟩ := hd <;> exact hplaced
  | receive =>
      obtain ⟨rest, -, rfl⟩ := hd
      exact hplaced
  | uptime | uartWrite =>
      obtain rfl := hd
      exact hplaced

/-- A full queue is only left by a call that takes. -/
theorem isFull_mono {c : LogCall} {r : c.Answer} (hd : logDevice c s r t) (htakes : ¬ c.Takes)
    (hfull : s.isFull = true) : t.isFull = true := by
  cases c with
  | isInitialized =>
      obtain ⟨-, rfl⟩ := hd
      exact hfull
  | send sent | sendAgain sent =>
      simp only [logDevice, sendEntry, hfull] at hd
      obtain ⟨-, rfl⟩ := Prod.mk.inj hd
      exact hfull
  | discard | receive => exact absurd trivial htakes
  | uptime | uartWrite =>
      obtain rfl := hd
      exact hfull

/-- Room is only used up by a call that sends. -/
theorem isFull_false_mono {c : LogCall} {r : c.Answer} (hd : logDevice c s r t)
    (hsends : ¬ c.Sends) (hroom : s.isFull = false) : t.isFull = false := by
  cases c with
  | isInitialized =>
      obtain ⟨-, rfl⟩ := hd
      exact hroom
  | send sent | sendAgain sent => exact absurd trivial hsends
  | discard =>
      simp only [logDevice] at hd
      split at hd
      · obtain ⟨-, rfl⟩ := hd
        exact hroom
      · rename_i hqueue
        obtain ⟨-, rfl⟩ := hd
        simp [LogState.isFull, hqueue, logQueueDepth] at hroom ⊢
        omega
  | receive =>
      obtain ⟨rest, hqueue, rfl⟩ := hd
      simp [LogState.isFull, hqueue, logQueueDepth] at hroom ⊢
      omega
  | uptime | uartWrite =>
      obtain rfl := hd
      exact hroom

end Operations

/-! ## Outlines -/

theorem outline_sendAgain (entry : LogEntry) {s : LogState} (h : s.Accounted)
    (hroom : s.isFull = false) :
    (do let _ ← (perform (LogCall.sendAgain entry) : LogTask Bool)
        return some entry).Outline logDevice logPre logPost s := by
  refine ⟨⟨h, nofun, fun _ _ => hroom⟩, fun s isSent t hpre hd => ?_⟩
  refine ⟨LogState.Accounted.call hpre hd, fun entry' heq => ?_⟩
  obtain rfl := Option.some.inj heq
  cases isSent with
  | true => exact sendEntry_true hd
  | false =>
      have hfull := (sendEntry_false hd).1
      rw [hpre.2.2 _ rfl] at hfull
      exact nomatch hfull

theorem outline_queueRecord (entry : LogEntry) {s : LogState} (h : s.Accounted) :
    (queueRecord entry >>= fun _ => pure (some entry)).Outline logDevice logPre logPost s := by
  refine ⟨⟨h, nofun, nofun⟩, fun s isSent t hpre hd => ?_⟩
  have haccounted := LogState.Accounted.call hpre hd
  cases isSent with
  | true =>
      refine ⟨haccounted, fun entry' heq => ?_⟩
      obtain rfl := Option.some.inj heq
      exact sendEntry_true hd
  | false =>
      obtain ⟨hfull, rfl⟩ := sendEntry_false hd
      refine ⟨⟨haccounted, fun _ => hfull, nofun⟩, fun s _ t hpre hd => ?_⟩
      exact outline_sendAgain entry (LogState.Accounted.call hpre hd)
        (room_of_discard hpre.1 (hpre.2.1 rfl) hd)

theorem outline_logWrite (entry : LogEntry) {s : LogState} (h : s.Accounted) :
    (logWrite entry >>= fun _ => pure (some entry)).Outline logDevice logPre logPost s := by
  refine ⟨⟨h, nofun, nofun⟩, fun s isInitialized t hpre hd => ?_⟩
  obtain ⟨rfl, rfl⟩ := hd
  simp only [hpre.1.isInitialized]
  exact outline_queueRecord entry hpre.1

theorem outline_writeRecord {s : LogState} (h : s.Accounted) :
    (writeRecord hasTimestamp >>= fun _ => pure none).Outline logDevice logPre logPost s := by
  have hwrite : ∀ line (s : LogState), s.Accounted →
      (do (perform (LogCall.uartWrite line) : LogTask Unit)
          return none).Outline logDevice logPre logPost s := fun line s h =>
    ⟨⟨h, nofun, nofun⟩, fun s _ t hpre hd => ⟨LogState.Accounted.call hpre hd, nofun⟩⟩
  refine ⟨⟨h, nofun, nofun⟩, fun s entry t hpre hd => ?_⟩
  have haccounted := LogState.Accounted.call hpre hd
  cases hasTimestamp with
  | false => exact hwrite _ t haccounted
  | true =>
      refine ⟨⟨haccounted, nofun, nofun⟩, fun s uptimeMs t hpre hd => ?_⟩
      exact hwrite _ t (LogState.Accounted.call hpre hd)

/-! ## The log writer task -/

/-- What the log writer task has left to do, and the record that it has taken and is about to
print. -/
inductive Writing (hasTimestamp : Bool) : LogTask (Option LogEntry) → Option LogEntry → Prop where
  | idle (a : Option LogEntry) : Writing hasTimestamp (.ret a) none
  | receive : Writing hasTimestamp (writeRecord hasTimestamp >>= fun _ => pure none) none
  | stamp (entry : LogEntry) :
      Writing hasTimestamp
        (.call .uptime fun ms => .call (.uartWrite (formatRecord (some ms) entry.record))
          fun _ => .ret none) (some entry)
  | write (uptimeMs : Option Int) (entry : LogEntry) :
      Writing hasTimestamp
        (.call (.uartWrite (formatRecord uptimeMs entry.record)) fun _ => .ret none) (some entry)

/-- The line of a record, with some uptime. -/
def IsLineOf (entry : LogEntry) (line : List UInt8) : Prop :=
  ∃ uptimeMs, line = formatRecord uptimeMs entry.record

/-- The log writer task has printed the record (it was taken as the `i`-th one, and the `i`-th line is
its own), or is about to. -/
def Printed (hasTimestamp : Bool) (x : LogTasks τ) (entry : LogEntry) : Prop :=
  (∃ (i : Nat) (line : List UInt8), x.state.received[i]? = some entry ∧
    x.state.lines[i]? = some line ∧ IsLineOf entry line) ∨
    Writing hasTimestamp (x.left none) (some entry)

/-- The calls of `LogWrite()`. -/
def LogCall.Writes : LogCall → Prop
  | .isInitialized | .send _ | .discard | .sendAgain _ => True
  | _ => False

omit [DecidableEq τ] in
theorem logNext_only {t : Option τ} {a : Option LogEntry} {s s' : LogState}
    {p : LogTask (Option LogEntry)} (hnext : LogNext hasTimestamp t a s p s') :
    p.Only fun c => t ≠ none → c.Writes := by
  cases hnext with
  | loop a s =>
      refine ⟨(absurd rfl ·), fun entry => ?_⟩
      cases hasTimestamp with
      | false => exact ⟨(absurd rfl ·), fun _ => trivial⟩
      | true => exact ⟨(absurd rfl ·), fun _ => ⟨(absurd rfl ·), fun _ => trivial⟩⟩
  | write t a s level moduleName text =>
      refine ⟨fun _ => trivial, fun isInitialized => ?_⟩
      cases isInitialized with
      | false => trivial
      | true =>
          refine ⟨fun _ => trivial, fun isSent => ?_⟩
          cases isSent with
          | true => trivial
          | false => exact ⟨fun _ => trivial, fun _ => ⟨fun _ => trivial, fun _ => trivial⟩⟩

/-- A call of `LogWrite()` takes nothing for the log writer task, and prints nothing. -/
theorem same_of_writes {c : LogCall} {s t : LogState} {r : c.Answer} (h : c.Writes)
    (hd : logDevice c s r t) : t.received = s.received ∧ t.lines = s.lines := by
  cases c with
  | isInitialized =>
      obtain ⟨-, rfl⟩ := hd
      exact ⟨rfl, rfl⟩
  | send entry | sendAgain entry =>
      simp only [logDevice, sendEntry] at hd
      split at hd <;> obtain ⟨-, rfl⟩ := Prod.mk.inj hd <;> exact ⟨rfl, rfl⟩
  | discard =>
      simp only [logDevice] at hd
      split at hd <;> obtain ⟨-, rfl⟩ := hd <;> exact ⟨rfl, rfl⟩
  | receive | uptime | uartWrite => exact h.elim

/-- The records taken by the log writer task are printed in their order, except the one in its
hands. -/
def Prints (taken : Option LogEntry) (s : LogState) : Prop :=
  ∃ printed, s.received = printed ++ taken.toList ∧ List.Forall₂ IsLineOf printed s.lines

def Printing (hasTimestamp : Bool) (x : LogTasks τ) : Prop :=
  ∃ taken, Writing hasTimestamp (x.left none) taken ∧ Prints taken x.state

/-- What the log writer task does next. -/
theorem Writing.call {c : LogCall} {k : c.Answer → LogTask (Option LogEntry)}
    {taken : Option LogEntry} {s t : LogState} {r : c.Answer}
    (h : Writing hasTimestamp (.call c k) taken) (hd : logDevice c s r t)
    (hprints : Prints taken s) :
    ∃ taken', Writing hasTimestamp (k r) taken' ∧ Prints taken' t := by
  generalize hp : (Prog.call c k : LogTask (Option LogEntry)) = p at h
  obtain ⟨printed, hreceived, hlines⟩ := hprints
  cases h with
  | idle a => exact nomatch hp
  | receive =>
      cases hp
      obtain ⟨rest, -, rfl⟩ := hd
      refine ⟨some r, ?_, printed, ?_, hlines⟩
      · cases hasTimestamp with
        | false => exact .write none r
        | true => exact .stamp r
      · show s.received ++ [r] = _
        rw [hreceived, Option.toList_none, List.append_nil]
        rfl
  | stamp entry =>
      cases hp
      obtain rfl := hd
      exact ⟨some entry, .write (some r) entry, printed, hreceived, hlines⟩
  | write uptimeMs entry =>
      cases hp
      obtain rfl := hd
      refine ⟨none, .idle none, printed ++ [entry], ?_, ?_⟩
      · show s.received = _
        rw [hreceived, Option.toList_none, List.append_nil]
        rfl
      · exact List.rel_append hlines (.cons ⟨uptimeMs, rfl⟩ .nil)

theorem printing {Allowed : LogTasks τ → Option τ → LogCall → Prop} {x : LogTasks τ}
    (hrun : ReflTransGen (LogStep hasTimestamp Allowed) (LogTasks.start τ) x) :
    Printing hasTimestamp x := by
  induction hrun with
  | refl => exact ⟨none, .idle none, [], rfl, .nil⟩
  | @tail x y hprefix hstep ih =>
      obtain ⟨taken, hwriting, hprints⟩ := ih
      obtain ⟨t, ht⟩ := hstep
      have honly := only_of_run (fun h => logNext_only h) hprefix (fun _ => trivial) t
      cases ht with
      | @call c k r s hleft _ hd =>
          rw [hleft] at honly
          by_cases heq : t = none
          · subst heq
            rw [hleft] at hwriting
            obtain ⟨taken', hnext, hprints'⟩ := hwriting.call hd hprints
            exact ⟨taken', by simpa using hnext, hprints'⟩
          · obtain ⟨hreceived, hlines⟩ := same_of_writes (honly.1 heq) hd
            refine ⟨taken, ?_, ?_⟩
            · simpa [Function.update_of_ne (Ne.symm heq)] using hwriting
            · simpa only [Prints, hreceived, hlines] using hprints
      | next hleft hnext =>
          cases hnext with
          | loop a =>
              rw [hleft] at hwriting
              cases hwriting with
              | idle => exact ⟨none, by simpa using .receive, hprints⟩
          | write u a s level moduleName text => exact ⟨taken, by simpa using hwriting, hprints⟩

omit [DecidableEq τ] in
/-- A record that was taken is printed, or in the hands of the log writer task. -/
theorem Printing.printed {x : LogTasks τ} (h : Printing hasTimestamp x) {entry : LogEntry}
    (hentry : entry ∈ x.state.received) : Printed hasTimestamp x entry := by
  obtain ⟨taken, hwriting, printed, hreceived, hlines⟩ := h
  rw [hreceived, List.mem_append, Option.mem_toList] at hentry
  rcases hentry with hprinted | rfl
  · obtain ⟨i, hi, rfl⟩ := List.getElem_of_mem hprinted
    have hline : i < x.state.lines.length := by rwa [← hlines.length_eq]
    refine .inl ⟨i, x.state.lines[i], ?_, List.getElem?_eq_getElem hline, hlines.get hi hline⟩
    rw [hreceived, List.getElem?_append_left hi, List.getElem?_eq_getElem hi]
  · exact .inr hwriting

/-! ## Runs -/

omit [DecidableEq τ] in
/-- An undisturbed call keeps the assertion at which another task stands. -/
theorem at_of_undisturbed {x : LogTasks τ} {t u : Option τ} {c : LogCall} {r : c.Answer}
    {s : LogState} (hne : u ≠ t) (hpre : logPre c x.state) (hallowed : Undisturbed x t c)
    (hd : logDevice c x.state r s) (hat : (x.left u).At logPre logPost x.state) :
    (x.left u).At logPre logPost s := by
  have haccounted := LogState.Accounted.call hpre hd
  cases hleft : x.left u with
  | ret a =>
      rw [hleft] at hat
      exact ⟨haccounted, fun entry heq => placed_mono hd (hat.2 entry heq)⟩
  | call c' k =>
      rw [hleft] at hat
      refine ⟨haccounted, fun hdiscard => ?_, fun entry hsend => ?_⟩
      · apply isFull_mono hd ?_ (hat.2.1 hdiscard)
        exact fun htakes => hallowed.1 htakes u hne (by rw [hleft]; exact congrArg some hdiscard)
      · apply isFull_false_mono hd ?_ (hat.2.2 entry hsend)
        exact fun hsends => hallowed.2 hsends u hne entry (by rw [hleft]; exact congrArg some hsend)

theorem logOutlined : Outlined logDevice (LogNext hasTimestamp) (Undisturbed (τ := τ))
    (fun _ => logPre) fun _ => logPost where
  next := by
    intro t a s p s' ⟨h, _⟩ hnext
    cases hnext with
    | write t a s level moduleName text =>
        exact outline_logWrite _ ⟨h.isInitialized, h.length, h.placed⟩
    | loop => exact outline_writeRecord h
  others := by
    intro x t y u hat hstep hne
    cases hstep with
    | call hleft hallowed hd =>
        have hpre := hat t
        rw [hleft] at hpre
        exact at_of_undisturbed hne hpre hallowed hd (hat u)
    | next hleft hnext =>
        have hu := hat u
        cases hnext with
        | loop => exact hu
        | write =>
            cases hcall : x.left u with
            | ret a =>
                rw [hcall] at hu
                exact ⟨⟨hu.1.isInitialized, hu.1.length, hu.1.placed⟩, hu.2⟩
            | call c k =>
                rw [hcall] at hu
                exact ⟨⟨hu.1.isInitialized, hu.1.length, hu.1.placed⟩, hu.2⟩

/-- A call that has returned has placed its record, and a record is only given up as the oldest one
of a full queue. -/
theorem log_write_places {x : LogTasks τ}
    (hrun : ReflTransGen (LogStep hasTimestamp Undisturbed) (LogTasks.start τ) x) :
    (∀ (t : τ) entry, x.left (some t) = .ret (some entry) → entry ∈ x.state.placed) ∧
      ∀ entry ∈ x.state.placed, entry ∈ x.state.queue ∨ Printed hasTimestamp x entry ∨
        ∃ queue ∈ x.state.discards, queue.length = logQueueDepth ∧ queue.head? = some entry := by
  have hstart : LogState.start.Accounted := ⟨rfl, Nat.zero_le _, by simp [LogState.start]⟩
  have houtline := logOutlined.of_run hrun fun t => ⟨hstart, nofun⟩
  refine ⟨fun t entry hleft => ?_, ?_⟩
  · have hpost := houtline (some t)
    rw [hleft] at hpost
    exact hpost.2 entry rfl
  · intro entry hentry
    have haccounted : x.state.Accounted := by
      have hat := (houtline none).at
      cases hleft : x.left none <;> rw [hleft] at hat <;> exact hat.1
    rcases haccounted.placed entry hentry with hqueue | hreceived | hdiscarded
    · exact .inl hqueue
    · exact .inr (.inl ((printing hrun).printed hreceived))
    · exact .inr (.inr hdiscarded)

/-! ### A full queue -/

section Full

/-- A call that finds room. -/
theorem ends_logWrite {s : LogState} (entry : LogEntry) (hinitialized : s.isInitialized = true)
    (hroom : s.isFull = false) :
    Ends logDevice (logWrite entry >>= fun _ => pure (some entry)) s (some entry)
      (s.place entry) := by
  refine .call ⟨hinitialized.symm, rfl⟩ (.call (r := true) ?_ (.ret _ _))
  show _ = sendEntry s entry
  rw [sendEntry, hroom]
  rfl

theorem send_full {s : LogState} {entry : LogEntry} (hfull : s.isFull = true) :
    logDevice (.send entry) s false s := by
  show _ = sendEntry s entry
  rw [sendEntry, hfull]
  rfl

/-- The oldest record is discarded. -/
def LogState.discarding (s : LogState) (rest : List LogEntry) : LogState :=
  { s with queue := rest, discards := s.discards ++ [s.queue] }

theorem isFull_discarding {s : LogState} {oldest : LogEntry} {rest : List LogEntry}
    (hlength : s.queue.length = logQueueDepth) (hqueue : s.queue = oldest :: rest) :
    (s.discarding rest).isFull = false := by
  rw [hqueue, List.length_cons] at hlength
  exact decide_eq_false (show ¬logQueueDepth ≤ rest.length by omega)

/-- A call that finds none. -/
theorem ends_logWrite_full {s : LogState} (entry : LogEntry) {oldest : LogEntry}
    {rest : List LogEntry} (hinitialized : s.isInitialized = true)
    (hlength : s.queue.length = logQueueDepth) (hqueue : s.queue = oldest :: rest) :
    Ends logDevice (logWrite entry >>= fun _ => pure (some entry)) s (some entry)
      ((s.discarding rest).place entry) := by
  have hfull : s.isFull = true := by simp [LogState.isFull, hlength]
  have hdiscard : logDevice .discard s (some oldest) (s.discarding rest) := by
    simp [logDevice, hqueue, LogState.discarding]
  refine .call ⟨hinitialized.symm, rfl⟩ (.call (send_full hfull) (.call hdiscard ?_))
  refine .call (r := true) ?_ (.ret _ _)
  show _ = sendEntry (s.discarding rest) entry
  rw [sendEntry, isFull_discarding hlength hqueue]
  rfl

/-- A task that runs while no other one is writing is undisturbed. -/
theorem run_alone {left : Option τ → LogTask (Option LogEntry)} {t : Option τ}
    (hothers : ∀ u ≠ t, ∃ a, left u = .ret a) {p : LogTask (Option LogEntry)} {s s' : LogState}
    {a : Option LogEntry} (h : Ends logDevice p s a s') :
    ReflTransGen (LogStep hasTimestamp Undisturbed) ⟨Function.update left t p, s⟩
      ⟨Function.update left t (.ret a), s'⟩ := by
  induction h with
  | ret a s => exact .refl
  | call hd _ ih =>
      refine (run_allowed ⟨fun _ u hne => ?_, fun _ u hne entry => ?_⟩ hd).trans ih <;>
      · obtain ⟨b, hb⟩ := hothers u hne
        show (Function.update left t _ u).next? ≠ _
        rw [Function.update_of_ne hne, hb]
        nofun

/-- No task is writing, and so many records are queued, in the order of the calls. -/
structure Filled (n : Nat) (x : LogTasks Bool) : Prop where
  runs : ReflTransGen (LogStep false Undisturbed) (LogTasks.start Bool) x
  left : ∀ t, ∃ a, x.left t = .ret a
  isInitialized : x.state.isInitialized = true
  calls : x.state.calls = n
  numbers : x.state.queue.map LogEntry.number = List.range n
  placed : x.state.placed = x.state.queue
  received : x.state.received = []

theorem Filled.length {n : Nat} {x : LogTasks Bool} (h : Filled n x) : x.state.queue.length = n := by
  rw [← List.length_map LogEntry.number, h.numbers, List.length_range]

theorem filled (n : Nat) (hn : n ≤ logQueueDepth) : ∃ x, Filled n x := by
  induction n with
  | zero => exact ⟨_, .refl, fun _ => ⟨none, rfl⟩, rfl, rfl, rfl, rfl, rfl⟩
  | succ n ih =>
      obtain ⟨x, h⟩ := ih (by omega)
      obtain ⟨a, hleft⟩ := h.left (some false)
      let entry : LogEntry := ⟨x.state.calls, buildRecord .info [] []⟩
      let called : LogState := { x.state with calls := x.state.calls + 1 }
      have hroom : called.isFull = false := by
        simp [LogState.isFull, called, h.length]
        omega
      have hstarted := h.runs.tail ⟨some false, .next hleft (.write false a x.state .info [] [])⟩
      have hwritten := hstarted.trans
        (run_alone (fun u _ => h.left u) (ends_logWrite entry h.isInitialized hroom))
      refine ⟨_, hwritten, fun t => ?_, h.isInitialized, congrArg (· + 1) h.calls, ?_, ?_,
        h.received⟩
      · by_cases ht : t = some false
        · simp [ht]
        · simpa [ht] using h.left t
      · show (x.state.queue ++ [entry]).map LogEntry.number = _
        rw [List.map_append, h.numbers, List.range_succ]
        exact congrArg (fun number => List.range n ++ [number]) h.calls
      · show x.state.placed ++ [entry] = x.state.queue ++ [entry]
        rw [h.placed]

/-- One task has filled the queue; the call of another one discards the oldest record. -/
theorem log_write_places_full :
    ∃ (x : LogTasks Bool) (entry oldest : LogEntry),
      ReflTransGen (LogStep false Undisturbed) (LogTasks.start Bool) x ∧
      x.left (some true) = .ret (some entry) ∧ entry ∈ x.state.placed ∧
      oldest ∈ x.state.placed ∧ oldest ∉ x.state.queue ∧
      ∃ queue ∈ x.state.discards, queue.length = logQueueDepth ∧ queue.head? = some oldest := by
  obtain ⟨x, h⟩ := filled 16 (by decide)
  obtain ⟨a, hleft⟩ := h.left (some true)
  obtain ⟨oldest, rest, hqueue⟩ := List.exists_cons_of_length_pos (l := x.state.queue) (by
    rw [h.length]
    decide)
  let entry : LogEntry := ⟨x.state.calls, buildRecord .error [] []⟩
  let called : LogState := { x.state with calls := x.state.calls + 1 }
  have hstarted := h.runs.tail ⟨some true, .next hleft (.write true a x.state .error [] [])⟩
  have hrun := hstarted.trans (run_alone (fun u _ => h.left u)
    (ends_logWrite_full (s := called) entry h.isInitialized h.length hqueue))
  obtain ⟨hreturned, hplaced⟩ := log_write_places hrun
  have hleft' : Function.update x.left (some true) (.ret (some entry)) (some true) =
      .ret (some entry) := Function.update_self ..
  have hentry := hreturned true entry hleft'
  have holdest : oldest ∈ ((called.discarding rest).place entry).placed := by
    refine List.mem_append_left _ ?_
    show oldest ∈ x.state.placed
    rw [h.placed, hqueue]
    exact List.mem_cons_self
  have hnumbers : oldest.number :: rest.map LogEntry.number = List.range 16 := by
    rw [← h.numbers, hqueue, List.map_cons]
  have hgone : oldest ∉ ((called.discarding rest).place entry).queue := by
    show oldest ∉ rest ++ [entry]
    have hdistinct : (oldest.number :: rest.map LogEntry.number).Nodup :=
      hnumbers ▸ List.nodup_range
    have hlast : oldest.number < 16 := by
      rw [← List.mem_range, ← hnumbers]
      exact List.mem_cons_self
    rw [List.mem_append, List.mem_singleton]
    rintro (hrest | rfl)
    · exact (List.nodup_cons.1 hdistinct).1 (List.mem_map_of_mem hrest)
    · exact absurd hlast (by simp [entry, h.calls])
  refine ⟨_, entry, oldest, hrun, hleft', hentry, holdest, hgone, ?_⟩
  obtain hqueued | hprinted | hdiscarded := hplaced oldest holdest
  · exact absurd hqueued hgone
  · obtain ⟨i, line, hreceived, -⟩ | hwriting := hprinted
    · have hnone : x.state.received[i]? = some oldest := hreceived
      rw [h.received] at hnone
      cases hnone
    · obtain ⟨b, hidle⟩ := h.left none
      have hwriter : Function.update x.left (some true) (.ret (some entry)) none = .ret b :=
        (Function.update_of_ne (by decide) _ _).trans hidle
      have hwriting' : Writing false (.ret b) (some oldest) := hwriter ▸ hwriting
      cases hwriting'
  · exact hdiscarded

end Full

/-! ## A lost record -/

section Lost

/-- The first task finds the queue full and discards; the second one sends; the first one cannot
send again. -/
theorem run_race {left : Option Bool → LogTask (Option LogEntry)} {b : Option LogEntry}
    {s : LogState} (entry : LogEntry) {oldest : LogEntry} {rest : List LogEntry}
    (hinitialized : s.isInitialized = true) (hlength : s.queue.length = logQueueDepth)
    (hqueue : s.queue = oldest :: rest) (hother : left (some true) = .ret b) :
    ∃ x : LogTasks Bool, ReflTransGen (LogStep false fun _ _ _ => True)
        ⟨Function.update left (some false) (logWrite entry >>= fun _ => pure (some entry)), s⟩ x ∧
      x.left (some false) = .ret (some entry) ∧
      x.state.placed = s.placed ++ [⟨s.calls, buildRecord .info [] []⟩] := by
  have hfull : s.isFull = true := by simp [LogState.isFull, hlength]
  let discarded := s.discarding rest
  have hdiscard : logDevice .discard s (some oldest) discarded := by
    simp [logDevice, hqueue, discarded, LogState.discarding]
  have hfirst : ReflTransGen (LogStep false fun _ _ _ => True)
      ⟨Function.update left (some false) (logWrite entry >>= fun _ => pure (some entry)), s⟩
      ⟨Function.update left (some false) (do
        let _ ← (perform (LogCall.sendAgain entry) : LogTask Bool)
        return some entry), discarded⟩ :=
    (run_call ⟨hinitialized.symm, rfl⟩).trans ((run_call (send_full hfull)).trans (run_call hdiscard))
  have hrest : rest.length + 1 = logQueueDepth := by
    rw [← hlength, hqueue, List.length_cons]
  have hroom : ({ discarded with calls := s.calls + 1 } : LogState).isFull = false :=
    isFull_discarding hlength hqueue
  let other : LogEntry := ⟨s.calls, buildRecord .info [] []⟩
  let sent := ({ discarded with calls := s.calls + 1 } : LogState).place other
  have hsecond : ReflTransGen (LogStep false fun _ _ _ => True)
      ⟨Function.update left (some false) (do
        let _ ← (perform (LogCall.sendAgain entry) : LogTask Bool)
        return some entry), discarded⟩
      ⟨Function.update (Function.update left (some false) (do
        let _ ← (perform (LogCall.sendAgain entry) : LogTask Bool)
        return some entry)) (some true) (.ret (some other)), sent⟩ :=
    run_next (by simpa using hother) (.write true b discarded .info [] [])
      (ends_logWrite other hinitialized hroom)
  have hagain : logDevice (.sendAgain entry) sent false sent := by
    have hsent : sent.isFull = true := by
      simp [LogState.isFull, sent, LogState.place, discarded, LogState.discarding]
      omega
    show _ = sendEntry sent entry
    rw [sendEntry, hsent]
    rfl
  rw [Function.update_comm (show some false ≠ some true by decide)] at hsecond
  have hthird : ReflTransGen (LogStep false fun _ _ _ => True) _
      ⟨Function.update (Function.update left (some true) (.ret (some other))) (some false)
        (.ret (some entry)), sent⟩ :=
    run_call (k := fun _ => .ret (some entry)) hagain
  refine ⟨_, hfirst.trans (hsecond.trans hthird), ?_, rfl⟩
  simp only [Function.update_self]

/-- A record is neither placed nor printed. -/
theorem log_record_lost :
    ∃ (x : LogTasks Bool) (entry : LogEntry),
      ReflTransGen (LogStep false fun _ _ _ => True) (LogTasks.start Bool) x ∧
        x.left (some false) = .ret (some entry) ∧ entry ∉ x.state.placed := by
  obtain ⟨x, h⟩ := filled 16 (by decide)
  obtain ⟨a, hleft⟩ := h.left (some false)
  obtain ⟨b, hother⟩ := h.left (some true)
  obtain ⟨oldest, rest, hqueue⟩ := List.exists_cons_of_length_pos (l := x.state.queue) (by
    rw [h.length]
    decide)
  have hfilled : ReflTransGen (LogStep false fun _ _ _ => True) (LogTasks.start Bool) x :=
    run_mono (fun _ => trivial) h.runs
  have hstarted : ReflTransGen (LogStep false fun _ _ _ => True) x _ :=
    .single ⟨some false, .next hleft (.write false a x.state .info [] [])⟩
  obtain ⟨y, hrace, hy, hplaced⟩ := run_race ⟨x.state.calls, buildRecord .info [] []⟩
    (s := { x.state with calls := x.state.calls + 1 }) h.isInitialized h.length hqueue hother
  refine ⟨y, _, hfilled.trans (hstarted.trans hrace), hy, ?_⟩
  rw [hplaced, List.mem_append, List.mem_singleton]
  rintro (hold | hnew)
  · have hnumber := List.mem_map_of_mem (f := LogEntry.number) (h.placed ▸ hold)
    rw [h.numbers, List.mem_range] at hnumber
    exact absurd hnumber (by simp [h.calls])
  · simp at hnew

end Lost

end StripTuner.Logging
