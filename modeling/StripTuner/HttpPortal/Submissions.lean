import StripTuner.HttpPortal.Exchanges

/-!
# Submission numbers

`POST /tuner` and `POST /tuner/read` share one counter. It moves with the accepted requests only, and
each of its values goes to the one operation of the request that took it.
-/

namespace StripTuner.HttpPortal

open DeviceCalls Ws2812

/-! ## Accepted requests -/

/-- The value of the `Tuner-Seq` header. -/
def TunerReply.tunerSeq (reply : TunerReply) : Option String := reply.headers.lookup "Tuner-Seq"

/-- The answered requests for an operation with status 200. -/
def accepted (answered : List (Exchange × TunerReply)) : List (Exchange × TunerReply) :=
  answered.filter fun p => p.1.request.path ≠ .result ∧ p.2.status = "200 OK"

/-- The operations called for these requests, in order. -/
def operated (answered : List (Exchange × TunerReply)) : List TunerOperation :=
  answered.flatMap (·.1.operations)

/-- The body, as the Content-Length bounds it. -/
def TunerRequest.wholeBody (request : TunerRequest) : List UInt8 :=
  request.body.take ((bodyLength request).getD 0)

@[simp] theorem numberedReply_status (n : UInt32) (body : String) :
    (numberedReply n body).status = "200 OK" := rfl

@[simp] theorem numberedReply_tunerSeq (n : UInt32) (body : String) :
    (numberedReply n body).tunerSeq = some n.toNat.repr := by
  simp [numberedReply, TunerReply.tunerSeq, List.lookup_cons]

theorem decideBody_ok {body : List UInt8} {timing : Ws2812Timing}
    (h : decideBody body = .ok timing) :
    parseTunerForm (cString body) = some timing ∧ validateWs2812Timing timing = .ok := by
  unfold decideBody at h
  cases hparsed : parseTunerForm (cString body) with
  | none => simp [hparsed] at h
  | some parsed =>
      rw [hparsed] at h
      cases hvalid : validateWs2812Timing parsed <;> simp [hvalid] at h
      subst h
      exact ⟨rfl, hvalid⟩

theorem decideSubmission_ok {request : TunerRequest} {received : List UInt8}
    {timing : Ws2812Timing} (h : decideSubmission request received = .ok timing) :
    parseTunerForm (cString received) = some timing ∧ validateWs2812Timing timing = .ok := by
  unfold decideSubmission at h
  cases hlength : bodyLength request with
  | none => simp [hlength] at h
  | some length =>
      simp only [hlength] at h
      by_cases hshort : received.length < length
      · simp [hshort] at h
      · rw [if_neg hshort] at h
        exact decideBody_ok h

/-- A body that arrived whole is decided as such. -/
theorem decideSubmission_whole {e : Exchange} (h : Delivered e)
    (htimeouts : e.timeouts ≤ httpPortalRecvRetries) (hfailed : e.hasFailed = false) :
    decideSubmission e.request e.received = decideSubmission e.request e.request.wholeBody := by
  unfold decideSubmission TunerRequest.wholeBody
  cases hlength : bodyLength e.request with
  | none => rfl
  | some length =>
      obtain ⟨hwhole, -⟩ := h length hlength htimeouts hfailed
      rw [Option.getD_some, ← hwhole]

/-! ## One request -/

/-- What a request for an operation does, by its reply. -/
structure Operates (e : Exchange) (reply : TunerReply) : Prop where
  accepted : reply.status = "200 OK" → ∃ n, reply.tunerSeq = some n.toNat.repr ∧
    (e.request.path = .read ∧ e.operations = [.requestPulseRead n] ∨
      e.request.path = .submit ∧ ∃ timing, parseTunerForm (cString e.received) = some timing ∧
        validateWs2812Timing timing = .ok ∧ e.operations = [.applyLedTiming timing n])
  refused : reply.status ≠ "200 OK" → e.operations = []
  decided : e.request.path = .submit → reply.status ≠ "403 Forbidden" →
    e.timeouts ≤ httpPortalRecvRetries → e.hasFailed = false →
    match decideSubmission e.request e.request.wholeBody with
    | .error text => reply = tunerReply "400 Bad Request" text
    | .ok timing => ∃ n, reply = numberedReply n "Sent" ∧ e.operations = [.applyLedTiming timing n]

/-- The numbers are issued one after the other. -/
structure Numbered (answered : List (Exchange × TunerReply)) : Prop where
  replies : (accepted answered).map (·.2.tunerSeq) =
    (List.range (accepted answered).length).map fun k => some (UInt32.ofNat (k + 1)).toNat.repr
  operations : (operated answered).map (·.submitSeq) =
    (List.range (accepted answered).length).map fun k => UInt32.ofNat (k + 1)
  requests : ∀ p ∈ answered, p.1.request.path ≠ .result → Operates p.1 p.2

/-- Between two requests the counter is the number of accepted requests. -/
structure Numbering (x : Server) : Prop where
  submitSeq : x.submitSeq = UInt32.ofNat (accepted x.answered).length
  numbered : Numbered x.answered

section Answers

variable {answered : List (Exchange × TunerReply)} {e : Exchange} {reply : TunerReply}

theorem accepted_snoc (hpath : e.request.path ≠ .result) (hstatus : reply.status = "200 OK") :
    accepted (answered ++ [(e, reply)]) = accepted answered ++ [(e, reply)] := by
  simp [accepted, hpath, hstatus]

theorem accepted_refused (h : e.request.path = .result ∨ reply.status ≠ "200 OK") :
    accepted (answered ++ [(e, reply)]) = accepted answered := by
  rcases h with hpath | hstatus
  · simp [accepted, hpath]
  · simp [accepted, hstatus]

theorem operated_snoc :
    operated (answered ++ [(e, reply)]) = operated answered ++ e.operations := by
  simp [operated]

theorem Numbered.requests_snoc (h : Numbered answered)
    (hnew : e.request.path ≠ .result → Operates e reply) :
    ∀ p ∈ answered ++ [(e, reply)], p.1.request.path ≠ .result → Operates p.1 p.2 := by
  intro p hp hpath
  rcases List.mem_append.mp hp with hold | hlast
  · exact h.requests p hold hpath
  · obtain rfl := List.mem_singleton.mp hlast
    exact hnew hpath

/-- Any other answer leaves the numbers alone. -/
theorem Numbered.refuse (h : Numbered answered)
    (hrefused : e.request.path = .result ∨ reply.status ≠ "200 OK") (hnone : e.operations = [])
    (hnew : e.request.path ≠ .result → Operates e reply) :
    Numbered (answered ++ [(e, reply)]) := by
  refine ⟨?_, ?_, h.requests_snoc hnew⟩
  · rw [accepted_refused hrefused]
    exact h.replies
  · rw [accepted_refused hrefused, operated_snoc, hnone, List.append_nil]
    exact h.operations

theorem Numbered.accept (h : Numbered answered) (hpath : e.request.path ≠ .result)
    {n : UInt32} {operation : TunerOperation} {body : String}
    (hn : n = UInt32.ofNat ((accepted answered).length + 1)) (hreply : reply = numberedReply n body)
    (honce : e.operations = [operation]) (hseq : operation.submitSeq = n)
    (hnew : Operates e reply) : Numbered (answered ++ [(e, reply)]) := by
  have hstatus : reply.status = "200 OK" := by simp [hreply]
  have hsplit : accepted (answered ++ [(e, reply)]) = accepted answered ++ [(e, reply)] :=
    accepted_snoc hpath hstatus
  refine ⟨?_, ?_, h.requests_snoc fun _ => hnew⟩
  · rw [hsplit, List.length_append, List.length_singleton, List.range_succ, List.map_append,
      List.map_append, h.replies]
    simp [hreply, hn]
  · rw [hsplit, List.length_append, List.length_singleton, List.range_succ, List.map_append,
      operated_snoc, List.map_append, h.operations]
    simp [honce, hseq, hn]

end Answers

/-! ## Runs -/

/-- The text of a rejection is not that of a foreign origin. -/
theorem operates_rejected {e : Exchange} {text : String} (hdelivered : Delivered e)
    (hdecide : decideSubmission e.request e.received = .error text) (hnone : e.operations = []) :
    Operates e (tunerReply "400 Bad Request" text) where
  accepted hstatus := by simp at hstatus
  refused _ := hnone
  decided _ _ htimeouts hfailed := by
    rw [← decideSubmission_whole hdelivered htimeouts hfailed, hdecide]

theorem operates_sent {e : Exchange} {timing : Ws2812Timing} {n : UInt32}
    (hpath : e.request.path = .submit) (hdelivered : Delivered e)
    (hdecide : decideSubmission e.request e.received = .ok timing)
    (honce : e.operations = [.applyLedTiming timing n]) :
    Operates e (numberedReply n "Sent") where
  accepted _ := by
    obtain ⟨hparsed, hvalid⟩ := decideSubmission_ok hdecide
    exact ⟨n, numberedReply_tunerSeq n _, .inr ⟨hpath, timing, hparsed, hvalid, honce⟩⟩
  refused hstatus := by simp at hstatus
  decided _ _ htimeouts hfailed := by
    rw [← decideSubmission_whole hdelivered htimeouts hfailed, hdecide]
    exact ⟨n, rfl, honce⟩

theorem operates_reading {e : Exchange} {n : UInt32} (hpath : e.request.path = .read)
    (honce : e.operations = [.requestPulseRead n]) : Operates e (numberedReply n "Reading") where
  accepted _ := ⟨n, numberedReply_tunerSeq n _, .inl ⟨hpath, honce⟩⟩
  refused hstatus := by simp at hstatus
  decided hsubmit := by simp [hpath] at hsubmit

theorem operates_forbidden {e : Exchange} (hnone : e.operations = []) :
    Operates e (tunerReply "403 Forbidden" "Forbidden origin") where
  accepted hstatus := by simp at hstatus
  refused _ := hnone
  decided _ hstatus := by simp at hstatus

theorem Numbering.answer {x y : Server} {e : Exchange} {reply : TunerReply} (h : Numbering x)
    (hanswer : Answer x e reply y) : Numbering y := by
  have hnext : x.submitSeq + 1 = UInt32.ofNat ((accepted x.answered).length + 1) := by
    rw [h.submitSeq, UInt32.ofNat_add]
    rfl
  have hrefuse : ∀ reply, e.request.path = .result ∨ reply.status ≠ "200 OK" →
      e.operations = [] → (e.request.path ≠ .result → Operates e reply) →
      Numbering (x.answer e reply) := by
    intro reply hrefused hnone hnew
    refine ⟨?_, h.numbered.refuse hrefused hnone hnew⟩
    show x.submitSeq = UInt32.ofNat (accepted (x.answered ++ [(e, reply)])).length
    rw [accepted_refused hrefused]
    exact h.submitSeq
  have haccept : ∀ body operation, e.request.path ≠ .result → e.operations = [operation] →
      operation.submitSeq = x.submitSeq + 1 → Operates e (numberedReply (x.submitSeq + 1) body) →
      Numbering (x.issue.answer e (numberedReply (x.submitSeq + 1) body)) := by
    intro body operation hpath honce hseq hnew
    refine ⟨?_, h.numbered.accept hpath hnext rfl honce hseq hnew⟩
    show x.submitSeq + 1 = UInt32.ofNat (accepted (x.answered ++ [(e, _)])).length
    rw [accepted_snoc hpath rfl, List.length_append, List.length_singleton, hnext]
  cases hanswer with
  | forbidden _ _ _ hnone =>
      exact hrefuse _ (.inr (by simp)) hnone fun _ => operates_forbidden hnone
  | rejected hpath hdelivered hdecide hnone =>
      exact hrefuse _ (.inr (by simp)) hnone fun _ => operates_rejected hdelivered hdecide hnone
  | sent hpath hdelivered hdecide honce =>
      exact haccept _ _ (by simp [hpath]) honce rfl (operates_sent hpath hdelivered hdecide honce)
  | reading hpath honce =>
      exact haccept _ _ (by simp [hpath]) honce rfl (operates_reading hpath honce)
  | malformed hpath _ hnone => exact hrefuse _ (.inl hpath) hnone fun hno => absurd hpath hno
  | result hpath _ hnone _ _ => exact hrefuse _ (.inl hpath) hnone fun hno => absurd hpath hno

theorem PortalRun.numbered {c : Serving Unit × Portal} (hrun : PortalRun c) :
    Numbered c.2.server.answered := by
  refine (hrun.holds (I := Numbering) ?_ ?_ (fun _ h => h.numbered) ?_).2
  · exact ⟨rfl, rfl, rfl, fun _ h => absurd h List.not_mem_nil⟩
  · intro x e reply y h hanswer
    exact h.answer hanswer
  · intro x y hopen h
    rw [hopen.answered]
    exact h

/-- In every run the accepted requests are numbered 1, 2, 3, ... modulo 2^32, each number goes to one
operation, and every request does what its reply says. -/
theorem submissions_numbered {c : Serving Unit × Portal} (hrun : PortalRun c) :
    (accepted c.2.server.answered).map (·.2.tunerSeq) =
        (List.range (accepted c.2.server.answered).length).map
          (fun k => some ((k + 1) % 2 ^ 32).repr) ∧
      (operated c.2.server.answered).map (·.submitSeq.toNat) =
        (List.range (accepted c.2.server.answered).length).map (fun k => (k + 1) % 2 ^ 32) ∧
      ∀ p ∈ c.2.server.answered, p.1.request.path ≠ .result → Operates p.1 p.2 := by
  obtain ⟨hreplies, hoperations, hrequests⟩ := hrun.numbered
  have hnumbers := congrArg (List.map UInt32.toNat) hoperations
  rw [List.map_map, List.map_map] at hnumbers
  exact ⟨hreplies, hnumbers, hrequests⟩

def submitRequest (body : List UInt8) : TunerRequest where
  path := .submit
  contentLen := UInt32.ofNat body.length
  body := body

/-- The form with the datasheet values. -/
def defaultForm : List UInt8 := ascii "b0h_ns=400&b0p_ns=1250&b1h_ns=800&b1p_ns=1250&rst_us=280"

/-- A form whose bit 0 is high for longer than bit 1. -/
def swappedForm : List UInt8 := ascii "b0h_ns=800&b0p_ns=1250&b1h_ns=400&b1p_ns=1250&rst_us=280"


/-- The first form after a timeout and in two pieces, the second form, and a read. -/
theorem submissions_numbered_requests :
    ∃ c, PortalRun c ∧
      c.2.server.answered.map (fun p => (p.1.timeouts, p.2.status, p.2.body)) =
        [(2, "200 OK", "Sent"), (0, "400 Bad Request", "Bit 0 duty must be less than bit 1 duty"),
          (0, "200 OK", "Reading")] ∧
      (accepted c.2.server.answered).map (·.2.tunerSeq) = [some "1", some "2"] ∧
      operated c.2.server.answered =
        [.applyLedTiming ⟨400, 1250, 800, 1250, 280⟩ 1, .requestPulseRead 2] ∧
      (operated c.2.server.answered).map (·.submitSeq.toNat) = [1, 2] ∧
      ∀ p ∈ c.2.server.answered, p.1.request.path ≠ .result → Operates p.1 p.2 := by
  have hlength : bodyLength (submitRequest defaultForm) = some 56 := by decide +kernel
  have hlength' : bodyLength (submitRequest swappedForm) = some 56 := by decide +kernel
  have hdecide : decideBody (defaultForm.take 20 ++ defaultForm.drop 20) =
      .ok ⟨400, 1250, 800, 1250, 280⟩ := by decide +kernel
  have hdecide' : decideBody swappedForm = .error "Bit 0 duty must be less than bit 1 duty" := by
    decide +kernel
  have hsent : PortalRun (.ret (), _) :=
    portalRun_started.submit rfl rfl hlength
      (receiveBody_timeout (by decide) (by decide) rfl <|
        receiveBody_data (by decide) (by decide +kernel)
          (portal_recv_data (defaultForm.take 20) (by decide +kernel) (by decide +kernel)) <|
        receiveBody_timeout (by decide +kernel) (by decide) rfl <|
        receiveBody_data (by decide +kernel) (by decide +kernel)
          (portal_recv_data (defaultForm.drop 20) (by decide +kernel) (by decide +kernel)) <|
        receiveBody_complete (by decide +kernel))
      (by
        rw [handleTunerBody_eq]
        simp only [List.nil_append, hdecide]
        exact .call (r := 1) ⟨rfl, rfl⟩ (.call (r := ()) rfl (.call (r := ()) rfl (.ret () _))))
  have hrefused : PortalRun (.ret (), _) :=
    hsent.submit rfl rfl hlength'
      (receiveBody_data (by decide) (by decide +kernel)
          (portal_recv_data swappedForm (by decide +kernel) (by decide +kernel)) <|
        receiveBody_complete (by decide +kernel))
      (by
        rw [handleTunerBody_eq]
        simp only [List.nil_append, hdecide']
        exact .call (r := ()) rfl (.ret () _))
  have hread := hrefused.read rfl
  obtain ⟨hreplies, hoperations, hrequests⟩ := submissions_numbered hread
  exact ⟨_, hread, by decide +kernel, hreplies.trans (by decide +kernel), by decide +kernel,
    hoperations.trans (by decide +kernel), hrequests⟩

/-- Any number of reads. -/
theorem exists_reads (n : Nat) : ∃ s, PortalRun (.ret (), s) ∧ s.profile = .provisioning ∧
    (accepted s.server.answered).length = n := by
  induction n with
  | zero => exact ⟨_, portalRun_started, rfl, rfl⟩
  | succ n ih =>
      obtain ⟨s, hrun, hprofile, hlength⟩ := ih
      have hpath : TunerPath.read ≠ .result := by decide
      refine ⟨_, hrun.read hprofile, hprofile, ?_⟩
      show (accepted (s.server.answered ++ [_])).length = n + 1
      rw [accepted_snoc hpath rfl, List.length_append, hlength]
      rfl

/-- After 4,294,967,295 accepted requests the next one is numbered 0. -/
theorem submissions_wrap : ¬ ∀ c, PortalRun c →
    (accepted c.2.server.answered).map (·.2.tunerSeq) =
      (List.range (accepted c.2.server.answered).length).map fun k => some (k + 1).repr := by
  intro hclaim
  obtain ⟨s, hrun, -, hlength⟩ := exists_reads (2 ^ 32)
  have hsame := hrun.numbered.replies.symm.trans (hclaim _ hrun)
  have hlast : 2 ^ 32 - 1 ∈ List.range (accepted s.server.answered).length := by
    rw [hlength, List.mem_range]
    omega
  have hwrong := Option.some.inj (List.map_inj_left.mp hsame _ hlast)
  exact absurd hwrong (by decide)

end StripTuner.HttpPortal
