import StripTuner.HttpPortal.PageScript
import StripTuner.HttpPortal.ResultQuery

/-!
# A page and the portal

One tuner page, loaded in a browser, beside the portal and all of its other clients. The page's
requests are answered at any later time and in any order, or fail at any time. What the status line
says of a measurement is about the page's latest click.
-/

namespace StripTuner.HttpPortal

open DeviceCalls PulseMonitor Relation Ws2812

/-! ## Sessions -/

/-- What the user asked for. -/
inductive Wish where
  | send (b0h b0p b1h b1p rst : Int)
  | read

/-- A click, and how many requests had been answered before it. -/
structure Click where
  wish : Wish
  since : Nat

/-- The portal and the page. Each job of the script has the number of requests that had been
answered when it was started. The latest click since the last edit, and the polls with their
generations, are history. -/
structure Session where
  server : Serving Unit × Portal
  script : Script
  jobs : List (Job × Nat)
  click : Option Click
  polls : List (Nat × String)

namespace Session

/-- The answered requests of all clients. -/
def answered (s : Session) : List (Exchange × TunerReply) := s.server.2.server.answered

/-- The integers that the inputs hold. -/
def wishSend (s : Session) : Wish :=
  let page := s.script.inputs
  .send page.b0h.value page.b0p.value page.b1h.value page.b1p.value page.rst.value

/-- The job is started now. -/
def start (s : Session) (job : Option Job) : List (Job × Nat) :=
  job.toList.map fun job => (job, s.answered.length)

/-- The number that a job polls for. -/
def pollOf : Job → Option (Nat × String)
  | .awaiting k (.result n _ _) => some (k, n)
  | _ => none

/-- The browser loads the page at some time. -/
def load (server : Serving Unit × Portal) : Session := ⟨server, .load, [], none, []⟩

end Session

/-- What can happen: the portal goes on, the user does something, a timer ends, a reply arrives or a
request fails. -/
inductive SessionStep (s : Session) : Session → Prop where
  | server {c : Serving Unit × Portal} :
      LoopStep portal (fun _ => Serve) Publish s.server c → SessionStep s { s with server := c }
  | input (field : PageField) (value : Int) :
      SessionStep s { s with script := s.script.onInput field value, click := none }
  | reset : SessionStep s { s with script := s.script.onReset, click := none }
  | send :
      SessionStep s
        { s with
          script := s.script.onSendClick.1
          jobs := s.jobs ++ s.start s.script.onSendClick.2
          click := some ⟨s.wishSend, s.answered.length⟩ }
  | read :
      SessionStep s
        { s with
          script := s.script.onReadClick.1
          jobs := s.jobs ++ s.start s.script.onReadClick.2
          click := some ⟨.read, s.answered.length⟩ }
  | timer (before after : List (Job × Nat)) {k i since : Nat} {n : String} {set : SetTimes} :
      s.jobs = before ++ (.timer k n i set, since) :: after →
      SessionStep s
        { s with
          jobs := before ++ after ++ s.start (s.script.onTimer k n i set)
          polls := s.polls ++ (s.script.onTimer k n i set).toList.filterMap Session.pollOf }
  | reply (before after : List (Job × Nat)) (place : Nat) {k since : Nat} {fetch : Fetch}
      {e : Exchange} {reply : TunerReply} :
      s.jobs = before ++ (.awaiting k fetch, since) :: after → since ≤ place →
      s.answered[place]? = some (e, reply) → fetch.Sends e.request →
      SessionStep s
        { s with
          script := (s.script.onReply k reply fetch).1
          jobs := before ++ after ++ s.start (s.script.onReply k reply fetch).2 }
  | failure (before after : List (Job × Nat)) {k since : Nat} {fetch : Fetch} :
      s.jobs = before ++ (.awaiting k fetch, since) :: after →
      SessionStep s { s with script := s.script.onFailure k fetch, jobs := before ++ after }

/-- A page that was loaded from the portal at some moment after boot. -/
def SessionRun (s : Session) : Prop :=
  ∃ c, PortalRun c ∧ ReflTransGen SessionStep (.load c) s

/-! ## What the status line may say -/

/-- The texts that say nothing of a measurement. -/
def notices : List String :=
  ["", "Invalid values", "Bit 0 duty must be less than bit 1 duty", "Sending...", "Reading...",
    "Sent", "Sent\n" ++ notAvailable, "Read\n" ++ notAvailable, "Send failed, check connection",
    "Read failed, check connection"]

/-- The high times that the wish sets. -/
def Wish.set : Wish → SetTimes
  | .send b0h _ b1h _ _ => some (b0h.repr, b1h.repr)
  | .read => none

/-- The operation that was called for the wish. -/
def Wish.Operates (wish : Wish) (n : UInt32) (e : Exchange) : Prop :=
  match wish with
  | .send b0h b0p b1h b1p rst =>
    ∃ timing, timingValues timing = (b0h, b0p, b1h, b1p, rst) ∧
      e.operations = [.applyLedTiming timing n]
  | .read => e.operations = [.requestPulseRead n]

section Explained

variable (clicked : Option Click) (answered : List (Exchange × TunerReply))

/-- After the click, its request was answered with the number. -/
def NumberedFor (click : Click) (n : UInt32) : Prop :=
  ∃ place e reply, click.since ≤ place ∧ answered[place]? = some (e, reply) ∧
    reply.tunerSeq = some n.toNat.repr ∧ click.wish.Operates n e

/-- What the status line says, and why. -/
inductive Explained (status : List UInt8) : Prop where
  | notice {text : String} : text ∈ notices → status = ascii text → Explained status
  | refused {click : Click} {place : Nat} {e : Exchange} {reply : TunerReply} :
      clicked = some click → click.since ≤ place → answered[place]? = some (e, reply) →
      reply.status ≠ "200 OK" → e.operations = [] → status = ascii reply.body → Explained status
  | outcome {click : Click} {n : UInt32} {p : Exchange × TunerReply} {record : Ws2812Measurement} :
      clicked = some click → NumberedFor answered click n → p ∈ answered →
      lastPublished n p.1.published = some record →
      status = ascii (heading click.wish.set ++
        shownText click.wish.set (outcomeState record.state) record) → Explained status
  | superseded {click : Click} {n : UInt32} {p : Exchange × TunerReply}
      {record : Ws2812Measurement} :
      clicked = some click → NumberedFor answered click n → p ∈ answered →
      record ∈ p.1.published → n < record.submitSeq →
      status = ascii (heading click.wish.set ++ "Superseded by a newer send") → Explained status

end Explained

/-! ## Answers to the page -/

/-- What an answer is, whatever the portal did since. -/
inductive Verdict (e : Exchange) : TunerReply → Prop where
  | refused {status text : String} : status ∈ ["400 Bad Request", "403 Forbidden"] →
      e.operations = [] → Verdict e (tunerReply status text)
  | sent {timing : Ws2812Timing} (n : UInt32) : e.request.path = .submit →
      decideSubmission e.request e.received = .ok timing →
      e.operations = [.applyLedTiming timing n] → Verdict e (numberedReply n "Sent")
  | reading (n : UInt32) : e.request.path = .read → e.operations = [.requestPulseRead n] →
      Verdict e (numberedReply n "Reading")
  | result {n : UInt32} (last : UInt32) : e.request.path = .result →
      requestedSeq e.request = some n →
      Verdict e (tunerReply "200 OK" (resultBody n last e.published))

theorem verdict_of_answer {x y : Server} {e : Exchange} {reply : TunerReply}
    (h : Answer x e reply y) : y.answered = x.answered ++ [(e, reply)] ∧ Verdict e reply := by
  cases h with
  | forbidden _ _ _ hnone => exact ⟨rfl, .refused (by simp) hnone⟩
  | rejected _ _ _ hnone => exact ⟨rfl, .refused (by simp) hnone⟩
  | sent hpath _ hdecide honce => exact ⟨rfl, .sent _ hpath hdecide honce⟩
  | reading hpath honce => exact ⟨rfl, .reading _ hpath honce⟩
  | malformed _ _ hnone => exact ⟨rfl, .refused (by simp) hnone⟩
  | result hpath hseq _ _ _ => exact ⟨rfl, .result _ hpath hseq⟩

theorem PortalRun.verdict {c : Serving Unit × Portal} (hrun : PortalRun c) :
    ∀ p ∈ c.2.server.answered, Verdict p.1 p.2 := by
  refine (hrun.holds (I := fun x => ∀ p ∈ x.answered, Verdict p.1 p.2) ?_ ?_ (fun _ h => h) ?_).2
  · exact fun _ h => absurd h List.not_mem_nil
  · intro x e reply y h hanswer p hp
    obtain ⟨hanswered, hverdict⟩ := verdict_of_answer hanswer
    rcases List.mem_append.mp (hanswered ▸ hp) with hold | hnew
    · exact h p hold
    · obtain rfl := List.mem_singleton.mp hnew
      exact hverdict
  · intro x y hopen h
    rwa [hopen.answered]

/-- Of each request, what was received is a part of its body. -/
def ReceivedInOrder (s : Portal) : Prop :=
  s.server.current.received <+: s.server.current.request.body ∧
    ∀ p ∈ s.server.answered, p.1.received <+: p.1.request.body

/-- A call answers at most one request, and receives in order. -/
theorem portal_call {s t : Portal} {c : PortalCall} {r : c.Answer} (h : portal c s r t) :
    s.server.answered <+: t.server.answered ∧ (ReceivedInOrder s → ReceivedInOrder t) := by
  cases c with
  | recv wanted =>
      cases r with
      | timeout | failed =>
          obtain rfl := h
          exact ⟨List.prefix_rfl, id⟩
      | data bytes =>
          obtain ⟨-, hextends, rfl⟩ := h
          exact ⟨List.prefix_rfl, fun hs => ⟨hextends, hs.2⟩⟩
  | readIdentity | readResult | nextSeq | lastSeq =>
      obtain ⟨-, rfl⟩ := h
      exact ⟨List.prefix_rfl, id⟩
  | applyLedTiming | requestPulseRead =>
      obtain rfl := h
      exact ⟨List.prefix_rfl, id⟩
  | send reply =>
      obtain rfl := h
      refine ⟨List.prefix_append _ _, fun hs => ⟨hs.1, fun p hp => ?_⟩⟩
      rcases List.mem_append.mp hp with hold | hnew
      · exact hs.2 p hold
      · obtain rfl := List.mem_singleton.mp hnew
        exact hs.1

/-- So does every step of the portal. -/
theorem portal_step {c d : Serving Unit × Portal}
    (h : LoopStep portal (fun _ => Serve) Publish c d) :
    c.2.server.answered <+: d.2.server.answered ∧ (ReceivedInOrder c.2 → ReceivedInOrder d.2) := by
  cases h with
  | call hd => exact portal_call hd
  | next hserve =>
      cases hserve with
      | request => exact ⟨List.prefix_rfl, fun hs => ⟨List.nil_prefix, hs.2⟩⟩
      | portal isStarted | station isStarted =>
          cases isStarted <;> exact ⟨List.prefix_rfl, id⟩
      | stop => exact ⟨List.prefix_rfl, id⟩
  | other hpublish =>
      cases hpublish with
      | result measurement => cases measurement <;> exact ⟨List.prefix_rfl, id⟩
      | identity => exact ⟨List.prefix_rfl, id⟩

theorem PortalRun.receivedInOrder {c : Serving Unit × Portal} (hrun : PortalRun c) :
    ReceivedInOrder c.2 := by
  unfold PortalRun at hrun
  induction hrun with
  | refl => exact ⟨List.nil_prefix, fun _ h => absurd h List.not_mem_nil⟩
  | tail _ hstep ih => exact (portal_step hstep).2 ih

/-- A length that fits is received as it is. -/
theorem bodyLength_ofNat {request : TunerRequest} {n : Nat} (hpos : 0 < n) (hle : n ≤ tunerBodyMax)
    (h : request.contentLen = UInt32.ofNat n) : bodyLength request = some n := by
  have hall : ∀ n < tunerBodyMax + 1, (UInt32.ofNat n).toInt32.toInt = n := by decide +kernel
  rw [bodyLength, h, hall n (Nat.lt_succ_of_le hle), if_neg (by omega), Int.toNat_natCast]

section Sent

variable {b0h b0p b1h b1p rst : Int}

/-- The firmware reads a posted body as a whole. -/
theorem timing_of_sent {c : Serving Unit × Portal} (hrun : PortalRun c) {e : Exchange}
    {reply : TunerReply} (hmem : (e, reply) ∈ c.2.server.answered) {timing : Ws2812Timing}
    (haccepted : Accepted b0h b0p b1h b1p rst)
    (hbody : e.request.body = ascii (bodyText b0h b0p b1h b1p rst))
    (hlength : e.request.contentLen =
      UInt32.ofNat (ascii (bodyText b0h b0p b1h b1p rst)).length)
    (hdecide : decideSubmission e.request e.received = .ok timing) :
    timingValues timing = (b0h, b0p, b1h, b1p, rst) := by
  have hfits := length_bodyText_le haccepted
  obtain ⟨expected, hvalues, hparsed⟩ := exists_timing haccepted
  have hin : e.received <+: e.request.body := hrun.receivedInOrder.2 _ hmem
  have hpos : 0 < (ascii (bodyText b0h b0p b1h b1p rst)).length := by
    rw [bodyText, ascii_append, ascii_append, ascii_append, ascii_append, ascii_append,
      ascii_append, ascii_append, ascii_append, ascii_append]
    simp [ascii]
  have hcontent := bodyLength_ofNat hpos hfits hlength
  have hwhole : e.received = e.request.body := by
    rw [decideSubmission, hcontent] at hdecide
    dsimp only at hdecide
    split at hdecide
    · cases hdecide
    · rename_i hlong
      rw [hbody] at hin ⊢
      exact hin.eq_of_length_le (Nat.not_lt.mp hlong)
  have hread := (decideSubmission_ok hdecide).1
  rw [hwhole, hbody, hparsed] at hread
  obtain rfl := Option.some.inj hread
  exact hvalues

end Sent

/-- The number of a poll is read back from its query. -/
theorem requestedSeq_poll {request : TunerRequest} {n : UInt32}
    (h : request.query = some (ascii ("seq=" ++ n.toNat.repr))) : requestedSeq request = some n := by
  have hfield : ascii ("seq=" ++ n.toNat.repr) =
      UrlEncoded.field (ascii "seq") (Decimal.digits n.toNat) := by
    rw [ascii_append, ascii_repr]
    rfl
  have hplain : UrlEncoded.ampersand ∉
      UrlEncoded.field (ascii "seq") (Decimal.digits n.toNat) := by
    rw [UrlEncoded.field, List.mem_append, List.mem_cons, not_or, not_or]
    exact ⟨by decide, by decide, (plain_digits n.toNat).1⟩
  have hname : UrlEncoded.fieldName (UrlEncoded.field (ascii "seq") (Decimal.digits n.toNat)) =
      ascii "seq" := UrlEncoded.fieldName_field (by decide)
  have hlength : (UrlEncoded.field (ascii "seq") (Decimal.digits n.toNat)).length <
      tunerResultQueryMax := by
    have hdigits := length_repr_le n
    rw [String.length_toList] at hdigits
    rw [UrlEncoded.field, List.length_append, List.length_cons, ← ascii_repr, length_ascii,
      length_ascii]
    have hkey : "seq".length = 3 := by decide
    have hmax : tunerResultQueryMax = 32 := rfl
    omega
  rw [requestedSeq, h, hfield, Option.filter_some, if_pos (decide_eq_true hlength),
    Option.bind_some, parseTunerResultSeq_eq_some_iff]
  refine ⟨_, ?_, isSeqText_digits n, (Decimal.value_digits n.toNat).symm⟩
  rw [UrlEncoded.firstNamed_of_notMem hplain, if_pos hname]

/-- What the body of a result says of its number. -/
theorem resultBody_cases (n last : UInt32) (published : List Ws2812Measurement) :
    ∃ state record, resultBody n last published = resultText state record ∧
      (state = .pending ∨ state = .unknown ∨
        (state = .superseded ∧ record ∈ published ∧ n < record.submitSeq) ∨
        (state = outcomeState record.state ∧ lastPublished n published = some record)) := by
  refine ⟨_, _, formatTunerResult_eq _ _, ?_⟩
  unfold getTunerResultState
  by_cases hunissued : n = 0 ∨ n > last
  · exact .inr (.inl (if_pos hunissued))
  have hpos : n ≠ 0 := fun hzero => hunissued (.inl hzero)
  rw [if_neg hunissued]
  cases hstored : stored published with
  | none =>
      have hne : ¬ zeroMeasurement.submitSeq = n := fun h => hpos h.symm
      have hle : ¬ zeroMeasurement.submitSeq > n := UInt32.not_lt.mpr UInt32.zero_le
      rw [Option.getD_none, if_neg hne, if_neg hle]
      exact .inl rfl
  | some record =>
      rw [Option.getD_some]
      by_cases hsame : record.submitSeq = n
      · rw [if_pos hsame]
        exact .inr (.inr (.inr ⟨rfl, hsame ▸ stored_last hstored⟩))
      by_cases hgreater : record.submitSeq > n
      · rw [if_neg hsame, if_pos hgreater]
        exact .inr (.inr (.inl ⟨rfl, mem_of_stored hstored, hgreater⟩))
      · rw [if_neg hsame, if_neg hgreater]
        exact .inl rfl

/-! ## What a job is for -/

/-- The job belongs to the latest click. -/
def BelongsTo (clicked : Option Click) (answered : List (Exchange × TunerReply)) (since : Nat) :
    Job → Prop
  | .awaiting _ (.send body h0 h1) =>
    ∃ b0h b0p b1h b1p rst, clicked = some ⟨.send b0h b0p b1h b1p rst, since⟩ ∧
      Accepted b0h b0p b1h b1p rst ∧ body = bodyText b0h b0p b1h b1p rst ∧
      h0 = b0h.repr ∧ h1 = b1h.repr
  | .awaiting _ .read => clicked = some ⟨.read, since⟩
  | .awaiting _ (.result n _ set) | .timer _ n _ set =>
    ∃ click seq, clicked = some click ∧ NumberedFor answered click seq ∧ n = seq.toNat.repr ∧
      set = click.wish.set

section Grows

variable {clicked : Option Click} {answered later : List (Exchange × TunerReply)}

theorem getElem?_grow (h : answered <+: later) {place : Nat} {p : Exchange × TunerReply}
    (hp : answered[place]? = some p) : later[place]? = some p := by
  obtain ⟨rest, rfl⟩ := h
  rw [List.getElem?_append_left (List.getElem?_eq_some_iff.mp hp).1]
  exact hp

theorem NumberedFor.grow (h : answered <+: later) {click : Click} {n : UInt32}
    (hn : NumberedFor answered click n) : NumberedFor later click n := by
  obtain ⟨place, e, reply, hle, hat, hseq, hoperates⟩ := hn
  exact ⟨place, e, reply, hle, getElem?_grow h hat, hseq, hoperates⟩

theorem Explained.grow (h : answered <+: later) {status : List UInt8}
    (hs : Explained clicked answered status) : Explained clicked later status := by
  cases hs with
  | notice htext hstatus => exact .notice htext hstatus
  | refused hclick hle hat hne hnone hstatus =>
      exact .refused hclick hle (getElem?_grow h hat) hne hnone hstatus
  | outcome hclick hn hp hlast hstatus =>
      exact .outcome hclick (hn.grow h) (h.subset hp) hlast hstatus
  | superseded hclick hn hp hrecord hgreater hstatus =>
      exact .superseded hclick (hn.grow h) (h.subset hp) hrecord hgreater hstatus

theorem BelongsTo.grow (h : answered <+: later) {since : Nat} {job : Job}
    (hj : BelongsTo clicked answered since job) : BelongsTo clicked later since job := by
  cases job with
  | timer k n i set =>
      obtain ⟨click, seq, hclick, hn, hrest⟩ := hj
      exact ⟨click, seq, hclick, hn.grow h, hrest⟩
  | awaiting k fetch =>
      cases fetch with
      | send | read => exact hj
      | result n i set =>
          obtain ⟨click, seq, hclick, hn, hrest⟩ := hj
          exact ⟨click, seq, hclick, hn.grow h, hrest⟩

end Grows

/-! ## The inputs -/

/-- The inputs of the page with some values, and whether the script has marked a bit's inputs. -/
def formPage (b0h b0p b1h b1p rst : Int) (bad0 bad1 : Bool) : TunerPage where
  b0h := ⟨100, 1200, 25, b0h, bad0⟩
  b0p := ⟨800, 2000, 25, b0p, bad0⟩
  b1h := ⟨100, 1200, 25, b1h, bad1⟩
  b1p := ⟨800, 2000, 25, b1p, bad1⟩
  rst := ⟨50, 800, 10, rst, false⟩

def IsForm (page : TunerPage) : Prop :=
  ∃ b0h b0p b1h b1p rst bad0 bad1, page = formPage b0h b0p b1h b1p rst bad0 bad1

section Form

variable {page : TunerPage}

theorem isForm_default : IsForm defaultPage := ⟨400, 1250, 800, 1250, 280, false, false, rfl⟩

theorem IsForm.setValue (h : IsForm page) (value : Int) (field : PageField) :
    IsForm (page.setValue value field) := by
  obtain ⟨b0h, b0p, b1h, b1p, rst, bad0, bad1, rfl⟩ := h
  cases field with
  | b0h => exact ⟨value, b0p, b1h, b1p, rst, bad0, bad1, rfl⟩
  | b0p => exact ⟨b0h, value, b1h, b1p, rst, bad0, bad1, rfl⟩
  | b1h => exact ⟨b0h, b0p, value, b1p, rst, bad0, bad1, rfl⟩
  | b1p => exact ⟨b0h, b0p, b1h, value, rst, bad0, bad1, rfl⟩
  | rst => exact ⟨b0h, b0p, b1h, b1p, value, bad0, bad1, rfl⟩

theorem IsForm.reset (h : IsForm page) : IsForm page.reset := by
  obtain ⟨b0h, b0p, b1h, b1p, rst, bad0, bad1, rfl⟩ := h
  exact isForm_default

theorem IsForm.valid (h : IsForm page) : IsForm (valid page).1 := by
  obtain ⟨b0h, b0p, b1h, b1p, rst, bad0, bad1, rfl⟩ := h
  exact ⟨b0h, b0p, b1h, b1p, rst, _, _, rfl⟩

/-- Marks from an earlier Send make no difference. -/
theorem valid_formPage (b0h b0p b1h b1p rst : Int) (bad0 bad1 : Bool) :
    valid (formPage b0h b0p b1h b1p rst bad0 bad1) = valid (tunerPage b0h b0p b1h b1p rst) := by
  have hlow (h p : Int) (bad : Bool) :
      isLowTooShort ⟨100, 1200, 25, h, bad⟩ ⟨800, 2000, 25, p, bad⟩ =
        isLowTooShort ⟨100, 1200, 25, h, false⟩ ⟨800, 2000, 25, p, false⟩ := by
    simp only [isLowTooShort, NumberInput.number]
  simp only [valid, formPage, tunerPage, hlow b0h b0p bad0, hlow b1h b1p bad1,
    NumberInput.setCustomValidity]

theorem IsForm.onSend (h : IsForm page) :
    onSend page = onSend (tunerPage page.b0h.value page.b0p.value page.b1h.value page.b1p.value
      page.rst.value) := by
  obtain ⟨b0h, b0p, b1h, b1p, rst, bad0, bad1, rfl⟩ := h
  simp only [HttpPortal.onSend, valid_formPage]
  rfl

end Form

theorem refused_mem {page : TunerPage} {text : String} (h : onSend page = .refused text) :
    text ∈ notices := by
  rw [onSend_eq] at h
  split at h
  · obtain rfl := SendOutcome.refused.inj h
    decide
  · split at h
    · obtain rfl := SendOutcome.refused.inj h
      decide
    · cases h

/-! ## One event -/

namespace Script

variable (s : Script) (k : Nat) (t : List UInt8)

@[simp] theorem write_inputs : (s.write k t).inputs = s.inputs := by
  unfold write
  split <;> rfl

@[simp] theorem write_g : (s.write k t).g = s.g := by
  unfold write
  split <;> rfl

@[simp] theorem write_status : (s.write k t).status = if k = s.g then t else s.status := by
  unfold write
  split <;> rfl

end Script

/-- What an event of a job does: the inputs and `g` stay, the text changes only for the current
generation, and a job that is started is of the same generation. -/
structure Reacts (s : Script) (k : Nat) (r : Script × Option Job) : Prop where
  inputs : r.1.inputs = s.inputs
  g : r.1.g = s.g
  status : k ≠ s.g → r.1.status = s.status
  job : ∀ job, r.2 = some job → job.generation = k

theorem reacts_write (s : Script) (k : Nat) (t : List UInt8) {job : Option Job}
    (hjob : ∀ j, job = some j → j.generation = k) : Reacts s k (s.write k t, job) where
  inputs := s.write_inputs k t
  g := s.write_g k t
  status hne := by rw [Script.write_status, if_neg hne]
  job := hjob

theorem reacts_reply (s : Script) (k : Nat) (reply : TunerReply) (fetch : Fetch) :
    Reacts s k (s.onReply k reply fetch) := by
  have hnone : ∀ j, (none : Option Job) = some j → j.generation = k := fun j h => by cases h
  cases fetch with
  | send body h0 h1 =>
      simp only [Script.onReply]
      split
      · exact reacts_write s k _ hnone
      · split
        · exact reacts_write s k _ fun j h => by cases h; rfl
        · exact reacts_write s k _ hnone
  | read =>
      simp only [Script.onReply]
      split
      · exact reacts_write s k _ hnone
      · split
        · exact ⟨rfl, rfl, fun _ => rfl, fun j h => by cases h; rfl⟩
        · exact reacts_write s k _ hnone
  | result n i set =>
      simp only [Script.onReply]
      generalize (if Script.isOk reply = true then ascii reply.body else []) = t
      split
      · exact ⟨rfl, rfl, fun _ => rfl, fun j h => by cases h; rfl⟩
      · exact reacts_write s k _ hnone

theorem reacts_failure (s : Script) (k : Nat) (fetch : Fetch) :
    Reacts s k (s.onFailure k fetch, none) := by
  cases fetch <;> exact reacts_write s k _ fun j h => by cases h

theorem heading_notAvailable_mem (set : SetTimes) : heading set ++ notAvailable ∈ notices := by
  cases set with
  | none => decide
  | some times =>
      show "Sent\n" ++ notAvailable ∈ notices
      decide

/-- A failure is reported by a notice. -/
theorem failure_explained (s : Script) (fetch : Fetch) {clicked : Option Click}
    {answered : List (Exchange × TunerReply)} :
    Explained clicked answered (s.onFailure s.g fetch).status := by
  cases fetch with
  | send | read =>
      simp only [Script.onFailure, Script.write_status, if_true]
      exact .notice (by decide) rfl
  | result n i set =>
      simp only [Script.onFailure, Script.write_status, if_true]
      exact .notice (heading_notAvailable_mem set) rfl

/-! ## A reply -/

section Reply

variable {c : Serving Unit × Portal} {s : Script} {clicked : Option Click} {since place : Nat}
  {e : Exchange} {reply : TunerReply}

/-- What a reply in the current generation leaves: a text that is explained, and a job that belongs
to the click. -/
def Settles (c : Serving Unit × Portal) (clicked : Option Click) (r : Script × Option Job) : Prop :=
  Explained clicked c.2.server.answered r.1.status ∧
    ∀ job, r.2 = some job → ∀ since, BelongsTo clicked c.2.server.answered since job

theorem settles_write {t : List UInt8} (h : Explained clicked c.2.server.answered t) :
    Settles c clicked (s.write s.g t, none) := by
  refine ⟨?_, fun job hjob => by cases hjob⟩
  rwa [Script.write_status, if_pos rfl]

theorem isOk_refused {status : String} (text : String)
    (h : status ∈ ["400 Bad Request", "403 Forbidden"]) :
    Script.isOk (tunerReply status text) = false ∧ (tunerReply status text).status ≠ "200 OK" := by
  have hall : ∀ status ∈ ["400 Bad Request", "403 Forbidden"],
      status.toList.head? ≠ some '2' ∧ status ≠ "200 OK" := by decide
  exact ⟨decide_eq_false (hall status h).1, (hall status h).2⟩

theorem isOk_200 (headers : List (String × String)) (body : String) :
    Script.isOk ⟨"200 OK", headers, body⟩ = true := by
  have hhead : "200 OK".toList.head? = some '2' := by decide
  exact decide_eq_true hhead

theorem seqOf_numbered (n : UInt32) (body : String) :
    Script.isOk (numberedReply n body) = true ∧
      Script.seqOf (numberedReply n body) = some n.toNat.repr := by
  refine ⟨isOk_200 _ _, ?_⟩
  have hne : n.toNat.repr ≠ "" := by
    intro h
    have hdigits := Decimal.digits_ne_nil n.toNat
    rw [← ascii_repr, h] at hdigits
    exact hdigits rfl
  rw [Script.seqOf, numberedReply_tunerSeq, Option.filter_some, if_pos (decide_eq_true hne)]

theorem reply_send {body h0 h1 : String} (hrun : PortalRun c)
    (hjob : BelongsTo clicked c.2.server.answered since (.awaiting s.g (.send body h0 h1)))
    (hle : since ≤ place) (hat : c.2.server.answered[place]? = some (e, reply))
    (hsends : (Fetch.send body h0 h1).Sends e.request) :
    Settles c clicked (s.onReply s.g reply (.send body h0 h1)) := by
  obtain ⟨b0h, b0p, b1h, b1p, rst, hclick, haccepted, rfl, rfl, rfl⟩ := hjob
  obtain ⟨hpath, hbody, hlength⟩ := hsends
  have hmem := List.mem_of_getElem? hat
  have hverdict : Verdict e reply := hrun.verdict _ hmem
  cases hverdict with
  | @refused status text hstatus hnone =>
      obtain ⟨hnot, hne⟩ := isOk_refused text hstatus
      simp only [Script.onReply, hnot, Bool.not_false, if_true]
      exact settles_write (.refused hclick hle hat hne hnone rfl)
  | sent n _ hdecide honce =>
      obtain ⟨hok, hseq⟩ := seqOf_numbered n "Sent"
      simp only [Script.onReply, hok, hseq, Bool.not_true, Bool.false_eq_true, if_false]
      have hvalues := timing_of_sent hrun hmem haccepted hbody hlength hdecide
      refine ⟨?_, ?_⟩
      · rw [Script.write_status, if_pos rfl]
        exact .notice (show "Sent" ∈ notices by decide) rfl
      · rintro job hjob since'
        obtain rfl := Option.some.inj hjob
        exact ⟨_, n, hclick,
          ⟨place, e, _, hle, hat, numberedReply_tunerSeq n _, _, hvalues, honce⟩,
          rfl, rfl⟩
  | reading n hread => rw [hpath] at hread; cases hread
  | result last hresult => rw [hpath] at hresult; cases hresult

theorem reply_read (hrun : PortalRun c)
    (hshown : Explained clicked c.2.server.answered s.status)
    (hjob : BelongsTo clicked c.2.server.answered since (.awaiting s.g .read))
    (hle : since ≤ place) (hat : c.2.server.answered[place]? = some (e, reply))
    (hsends : Fetch.read.Sends e.request) :
    Settles c clicked (s.onReply s.g reply .read) := by
  have hclick : clicked = some ⟨.read, since⟩ := hjob
  have hpath : e.request.path = .read := hsends
  have hverdict : Verdict e reply := hrun.verdict _ (List.mem_of_getElem? hat)
  cases hverdict with
  | @refused status text hstatus hnone =>
      obtain ⟨hnot, hne⟩ := isOk_refused text hstatus
      simp only [Script.onReply, hnot, Bool.not_false, if_true]
      exact settles_write (.refused hclick hle hat hne hnone rfl)
  | reading n _ honce =>
      obtain ⟨hok, hseq⟩ := seqOf_numbered n "Reading"
      simp only [Script.onReply, hok, hseq, Bool.not_true, Bool.false_eq_true, if_false]
      refine ⟨hshown, ?_⟩
      rintro job hjob since'
      obtain rfl := Option.some.inj hjob
      exact ⟨_, n, hclick, ⟨place, e, _, hle, hat, numberedReply_tunerSeq n _, honce⟩, rfl, rfl⟩
  | sent n hsubmit => rw [hpath] at hsubmit; cases hsubmit
  | result last hresult => rw [hpath] at hresult; cases hresult

theorem reply_result {n : String} {i : Nat} {set : SetTimes} (hrun : PortalRun c)
    (hshown : Explained clicked c.2.server.answered s.status)
    (hjob : BelongsTo clicked c.2.server.answered since (.awaiting s.g (.result n i set)))
    (hat : c.2.server.answered[place]? = some (e, reply))
    (hsends : (Fetch.result n i set).Sends e.request) :
    Settles c clicked (s.onReply s.g reply (.result n i set)) := by
  obtain ⟨click, seq, hclick, hnumber, rfl, rfl⟩ := hjob
  obtain ⟨hpath, hquery⟩ := hsends
  have hmem := List.mem_of_getElem? hat
  have hverdict : Verdict e reply := hrun.verdict _ hmem
  have hnotice := heading_notAvailable_mem click.wish.set
  cases hverdict with
  | @refused status text hstatus hnone =>
      obtain ⟨hnot, -⟩ := isOk_refused text hstatus
      have hempty : SearchParams.get [] (ascii "state") = none := rfl
      have hna : pollText click.wish.set [] = ascii notAvailable := by
        cases click.wish.set <;> rfl
      simp only [Script.onReply, hnot, Bool.false_eq_true, if_false, hempty, reduceCtorEq,
        false_and, hna]
      refine settles_write (.notice hnotice ?_)
      rw [ascii_append]
  | sent n hsubmit => rw [hpath] at hsubmit; cases hsubmit
  | reading n hread => rw [hpath] at hread; cases hread
  | @result n' last _ hseq =>
      obtain rfl : seq = n' := Option.some.inj ((requestedSeq_poll hquery).symm.trans hseq)
      obtain ⟨state, record, hbody, hcases⟩ := resultBody_cases seq last e.published
      have hok : Script.isOk (tunerReply "200 OK" (resultText state record)) = true :=
        isOk_200 _ _
      rw [hbody]
      simp only [Script.onReply, hok, if_true, tunerReply_body, get_state, pollText_resultText,
        Option.some.injEq]
      by_cases hwait : ascii (stateName state) = ascii "pending" ∧ i < 8
      · rw [if_pos hwait]
        refine ⟨hshown, ?_⟩
        rintro job hjob since'
        obtain rfl := Option.some.inj hjob
        exact ⟨click, seq, hclick, hnumber, rfl, rfl⟩
      · rw [if_neg hwait, ← ascii_append]
        apply settles_write
        rcases hcases with rfl | rfl | ⟨rfl, hrecord, hgreater⟩ | ⟨rfl, hlast⟩
        · refine .notice hnotice ?_
          cases click.wish.set <;> rfl
        · refine .notice hnotice ?_
          cases click.wish.set <;> rfl
        · refine .superseded hclick hnumber hmem hrecord hgreater ?_
          cases click.wish.set <;> rfl
        · exact .outcome hclick hnumber hmem hlast rfl

theorem reply_settles {fetch : Fetch} (hrun : PortalRun c)
    (hshown : Explained clicked c.2.server.answered s.status)
    (hjob : BelongsTo clicked c.2.server.answered since (.awaiting s.g fetch))
    (hle : since ≤ place) (hat : c.2.server.answered[place]? = some (e, reply))
    (hsends : fetch.Sends e.request) : Settles c clicked (s.onReply s.g reply fetch) := by
  cases fetch with
  | send => exact reply_send hrun hjob hle hat hsends
  | read => exact reply_read hrun hshown hjob hle hat hsends
  | result => exact reply_result hrun hshown hjob hat hsends

end Reply

/-! ## Sessions are sound -/

/-- What every step of a session keeps. Jobs of earlier generations may be left, but only those of
the current one can write. -/
structure Sound (s : Session) : Prop where
  portal : PortalRun s.server
  form : IsForm s.script.inputs
  past : ∀ p ∈ s.jobs, p.1.generation ≤ s.script.g
  current : ∀ p ∈ s.jobs, p.1.generation = s.script.g → BelongsTo s.click s.answered p.2 p.1
  explained : Explained s.click s.answered s.script.status

section Sound

variable {s : Session} {before after : List (Job × Nat)} {job : Job} {since : Nat}

theorem mem_start {o : Option Job} {p : Job × Nat} :
    p ∈ s.start o ↔ o = some p.1 ∧ p.2 = s.answered.length := by
  cases o with
  | none => simp [Session.start]
  | some first =>
      obtain ⟨job, since⟩ := p
      simp [Session.start, eq_comm]

/-- The jobs that are left, or the one that was started. -/
theorem mem_jobs {o : Option Job} (hjobs : s.jobs = before ++ (job, since) :: after)
    {p : Job × Nat} (hp : p ∈ before ++ after ++ s.start o) :
    p ∈ s.jobs ∨ (o = some p.1 ∧ p.2 = s.answered.length) := by
  rcases List.mem_append.mp hp with hold | hnew
  · left
    rw [hjobs]
    rcases List.mem_append.mp hold with hbefore | hafter
    · exact List.mem_append_left _ hbefore
    · exact List.mem_append_right _ (List.mem_cons_of_mem _ hafter)
  · exact .inr (mem_start.mp hnew)

/-- After an edit the line is empty and no job is current. -/
theorem Sound.stopped (h : Sound s) {page : TunerPage} (hform : IsForm page) :
    Sound { s with script := { s.script.stop with inputs := page }, click := none } where
  portal := h.portal
  form := hform
  past p hp := Nat.le_succ_of_le (h.past p hp)
  current p hp hgeneration := by
    have hle := h.past p hp
    have heq : p.1.generation = s.script.g + 1 := hgeneration
    omega
  explained := .notice (show "" ∈ notices by decide) rfl

/-- A click starts a generation with at most one job. -/
theorem Sound.clicked (h : Sound s) {r : Script × Option Job} {wish : Wish}
    (hform : IsForm r.1.inputs) (hg : r.1.g = s.script.g + 1)
    (hstatus : ∃ text ∈ notices, r.1.status = ascii text)
    (hjob : ∀ job, r.2 = some job → job.generation = s.script.g + 1 ∧
      BelongsTo (some ⟨wish, s.answered.length⟩) s.answered s.answered.length job) :
    Sound
      { s with
        script := r.1
        jobs := s.jobs ++ s.start r.2
        click := some ⟨wish, s.answered.length⟩ } where
  portal := h.portal
  form := hform
  past p hp := by
    show p.1.generation ≤ r.1.g
    rw [hg]
    rcases List.mem_append.mp hp with hold | hnew
    · exact Nat.le_succ_of_le (h.past p hold)
    · exact Nat.le_of_eq (hjob p.1 (mem_start.mp hnew).1).1
  current p hp hgeneration := by
    have heq : p.1.generation = s.script.g + 1 := hgeneration.trans hg
    rcases List.mem_append.mp hp with hold | hnew
    · have hle := h.past p hold
      omega
    · obtain ⟨hsome, hsince⟩ := mem_start.mp hnew
      have hbelongs := (hjob p.1 hsome).2
      rw [← hsince] at hbelongs ⊢
      exact hbelongs
  explained := by
    obtain ⟨text, htext, hstatus⟩ := hstatus
    exact .notice htext hstatus

theorem Sound.send (h : Sound s) :
    Sound
      { s with
        script := s.script.onSendClick.1
        jobs := s.jobs ++ s.start s.script.onSendClick.2
        click := some ⟨s.wishSend, s.answered.length⟩ } := by
  have hsame := h.form.onSend
  cases hsend : onSend s.script.inputs with
  | refused text =>
      have hclick : s.script.onSendClick =
          (⟨(valid s.script.inputs).1, s.script.g + 1, ascii text⟩, none) := by
        unfold Script.onSendClick
        rw [hsend]
      rw [hclick]
      exact h.clicked h.form.valid rfl ⟨text, refused_mem hsend, rfl⟩ fun job hjob => by cases hjob
  | posted body =>
      have hclick : s.script.onSendClick =
          (⟨(valid s.script.inputs).1, s.script.g + 1, ascii "Sending..."⟩,
            some (.awaiting (s.script.g + 1) (.send body (valid s.script.inputs).1.b0h.text
              (valid s.script.inputs).1.b1h.text))) := by
        unfold Script.onSendClick
        rw [hsend]
      rw [hclick]
      refine h.clicked h.form.valid rfl ⟨"Sending...", by simp [notices], rfl⟩ ?_
      intro job hjob
      obtain rfl := Option.some.inj hjob
      obtain ⟨haccepted, hbody⟩ := (onSend_posted_iff _ _ _ _ _ body).mp (hsame ▸ hsend)
      exact ⟨rfl, _, _, _, _, _, rfl, haccepted, hbody, rfl, rfl⟩

theorem Sound.read (h : Sound s) :
    Sound
      { s with
        script := s.script.onReadClick.1
        jobs := s.jobs ++ s.start s.script.onReadClick.2
        click := some ⟨.read, s.answered.length⟩ } := by
  refine h.clicked h.form rfl ⟨"Reading...", by simp [notices], rfl⟩ ?_
  intro job hjob
  obtain rfl := Option.some.inj hjob
  exact ⟨rfl, rfl⟩

/-- An event of a job that leaves at most one other job of its generation. -/
theorem Sound.reacts (h : Sound s) (hjobs : s.jobs = before ++ (job, since) :: after)
    {r : Script × Option Job} {polls : List (Nat × String)}
    (hr : Reacts s.script job.generation r)
    (hcurrent : job.generation = s.script.g → Settles s.server s.click r) :
    Sound { s with script := r.1, jobs := before ++ after ++ s.start r.2, polls := polls } where
  portal := h.portal
  form := by
    show IsForm r.1.inputs
    rw [hr.inputs]
    exact h.form
  past p hp := by
    show p.1.generation ≤ r.1.g
    rw [hr.g]
    rcases mem_jobs hjobs hp with hold | ⟨hnew, -⟩
    · exact h.past p hold
    · rw [hr.job p.1 hnew]
      exact h.past (job, since) (by simp [hjobs])
  current p hp hgeneration := by
    have hg : p.1.generation = s.script.g := hgeneration.trans hr.g
    rcases mem_jobs hjobs hp with hold | ⟨hnew, -⟩
    · exact h.current p hold hg
    · exact (hcurrent ((hr.job p.1 hnew).symm.trans hg)).2 p.1 hnew p.2
  explained := by
    show Explained s.click s.answered r.1.status
    by_cases hg : job.generation = s.script.g
    · exact (hcurrent hg).1
    · rw [hr.status hg]
      exact h.explained

theorem reacts_timer (s : Script) (k : Nat) (n : String) (i : Nat) (set : SetTimes) :
    Reacts s k (s, s.onTimer k n i set) where
  inputs := rfl
  g := rfl
  status _ := rfl
  job job hjob := by
    unfold Script.onTimer at hjob
    split at hjob
    · cases hjob
    · obtain rfl := Option.some.inj hjob
      rfl

theorem Sound.step {t : Session} (h : Sound s) (hstep : SessionStep s t) : Sound t := by
  cases hstep with
  | server hloop =>
      obtain ⟨hgrows, -⟩ := portal_step hloop
      exact ⟨h.portal.tail hloop, h.form, h.past, fun p hp hg => (h.current p hp hg).grow hgrows,
        h.explained.grow hgrows⟩
  | input field value => exact h.stopped (h.form.setValue value field)
  | reset => exact h.stopped h.form.reset
  | send => exact h.send
  | read => exact h.read
  | @timer before after k i since n set hjobs =>
      have hmem : (Job.timer k n i set, since) ∈ s.jobs := by simp [hjobs]
      refine h.reacts (r := (s.script, _)) hjobs (reacts_timer ..) ?_
      intro hg
      refine ⟨h.explained, fun job hjob since' => ?_⟩
      have hbelongs := h.current _ hmem hg
      change Script.onTimer s.script k n i set = some job at hjob
      unfold Script.onTimer at hjob
      split at hjob
      · cases hjob
      · obtain rfl := Option.some.inj hjob
        exact hbelongs
  | @reply before after place k since fetch e reply hjobs hle hat hsends =>
      have hmem : (Job.awaiting k fetch, since) ∈ s.jobs := by simp [hjobs]
      refine h.reacts hjobs (reacts_reply s.script k reply fetch) ?_
      intro hg
      obtain rfl : k = s.script.g := hg
      exact reply_settles h.portal h.explained (h.current _ hmem rfl) hle hat hsends
  | @failure before after k since fetch hjobs =>
      have hreacts : Sound { s with script := _, jobs := _, polls := s.polls } :=
        h.reacts hjobs (reacts_failure s.script k fetch) ?_
      · simpa [Session.start] using hreacts
      intro hg
      obtain rfl : k = s.script.g := hg
      exact ⟨failure_explained s.script fetch, fun job hjob => by cases hjob⟩

end Sound

theorem SessionRun.sound {s : Session} (hrun : SessionRun s) : Sound s := by
  obtain ⟨c, hportal, hsteps⟩ := hrun
  induction hsteps with
  | refl =>
      exact ⟨hportal, isForm_default, fun p hp => absurd hp List.not_mem_nil,
        fun p hp => absurd hp List.not_mem_nil, .notice (show "" ∈ notices by decide) rfl⟩
  | tail _ hstep ih => exact ih.step hstep

theorem SessionStep.portal {s : Session} {c : Serving Unit × Portal}
    (h : ReflTransGen (LoopStep portal (fun _ => Serve) Publish) s.server c) :
    ReflTransGen SessionStep s { s with server := c } := by
  induction h with
  | refl => exact .refl
  | tail _ hstep ih => exact ih.tail (.server hstep)

/-- `POST /tuner/read` is served. -/
theorem steps_read {s : Portal} (hprofile : s.profile = .provisioning) :
    ReflTransGen (LoopStep portal (fun _ => Serve) Publish) (.ret (), s)
      (.ret (), { s with server := s.server.servedRead }) := by
  have hhandler : tunerHandler s.profile readRequest = some handleTunerReadRequest := by
    rw [hprofile]
    rfl
  apply run_of_next (.request hhandler)
  rw [hprofile]
  exact .call ⟨rfl, rfl⟩ (.call (r := ()) rfl (.call (r := ()) rfl (.ret _ _)))

/-- `GET /tuner/result` is served. -/
theorem steps_ask {s : Portal} (hprofile : s.profile = .provisioning) :
    ReflTransGen (LoopStep portal (fun _ => Serve) Publish) (.ret (), s)
      (.ret (), s.askedFor firstResult 1) := by
  have hhandler : tunerHandler s.profile firstResult =
      some (handleTunerResultRequest firstResult) := by
    rw [hprofile]
    rfl
  apply run_of_next (.request hhandler)
  unfold Portal.askedFor handleTunerResultRequest
  rw [hprofile, requestedSeq_firstResult]
  exact .call ⟨rfl, rfl⟩ (.call ⟨rfl, rfl⟩ (.call (r := ()) rfl (.ret _ _)))

theorem onReply_reading (s : Script) (n : String) (i : Nat) :
    (s.onReply s.g (tunerReply "200 OK" (formatTunerResult (getTunerResultState 1 1 sampleReading)
      sampleReading tunerResultBodyMax)) (.result n i none)).1.status =
        ascii "Read\nBit 0: high 400 ns, period 1250 ns\nBit 1: not found" := by
  have hstate : getTunerResultState 1 1 sampleReading = .read := by decide
  have hok : Script.isOk (tunerReply "200 OK" (resultText .read sampleReading)) = true :=
    isOk_200 _ _
  have hdone : ¬ (ascii (stateName .read) = ascii "pending" ∧ i < 8) :=
    fun h => absurd h.1 (by decide)
  rw [hstate, formatTunerResult_eq]
  simp only [Script.onReply, hok, if_true, tunerReply_body, get_state, pollText_resultText,
    Option.some.injEq, if_neg hdone, Script.write_status]
  decide

/-- A Read whose result is there at the first poll. -/
theorem exists_reading : ∃ s, SessionRun s ∧ s.polls = [(1, "1")] ∧
    s.script.status = ascii "Read\nBit 0: high 400 ns, period 1250 ns\nBit 1: not found" := by
  have hread : ReflTransGen SessionStep (.load (.ret (), startHttpPortal bootPortal true)) _ :=
    .single .read
  have hserved := hread.trans (SessionStep.portal (steps_read rfl))
  have hnumbered := hserved.tail (.reply [] [] 0 rfl (Nat.le_refl 0) rfl rfl)
  have hpoll := hnumbered.tail (.timer [] [] rfl)
  have hpublished := hpoll.tail (.server (.other (.result (some sampleReading))))
  have hresult := hpublished.trans (SessionStep.portal (steps_ask rfl))
  have hshown := hresult.tail (.reply [] [] 1 rfl (by decide) rfl ⟨rfl, rfl⟩)
  refine ⟨_, ⟨_, portalRun_started, hshown⟩, by decide, ?_⟩
  exact onReply_reading _ _ _

/-- In every session the status line is explained by the latest click: it shows a notice, the
refusal of the click's request, or the measurement published last with the number that the request
was given. -/
theorem tunerPage_explained {s : Session} (hrun : SessionRun s) :
    Explained s.click s.answered s.script.status := hrun.sound.explained

theorem tunerPage_explained_reading : ∃ s : Session, s.polls = [(1, "1")] ∧
    s.script.status = ascii "Read\nBit 0: high 400 ns, period 1250 ns\nBit 1: not found" ∧
    Explained s.click s.answered s.script.status := by
  obtain ⟨s, hrun, hpolls, hstatus⟩ := exists_reading
  exact ⟨s, hpolls, hstatus, tunerPage_explained hrun⟩

end StripTuner.HttpPortal
