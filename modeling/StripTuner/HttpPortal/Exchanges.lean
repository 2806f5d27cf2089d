import StripTuner.HttpPortal.Portal

/-!
# Exchanges

What each handler does with one request, whatever the orchestrator publishes meanwhile: the ways in
which it is answered, and the rule that carries a property of the server task over a whole run.
-/

namespace StripTuner.HttpPortal

open DeviceCalls DeviceCalls.Prog FwMeta PulseMonitor Ws2812

/-! ## The decision on a submission -/

/-- The accepted timing of a body, or the text of its rejection. -/
def decideBody (body : List UInt8) : Except String Ws2812Timing :=
  match parseTunerForm (cString body) with
  | none => .error "Invalid request"
  | some timing =>
    match validateWs2812Timing timing with
    | .outOfRange => .error "Value out of range"
    | .badCombination => .error "Invalid combination"
    | .badDutyOrder => .error "Bit 0 duty must be less than bit 1 duty"
    | .ok => .ok timing

theorem handleTunerBody_eq (body : List UInt8) :
    handleTunerBody body =
      match decideBody body with
      | .error text => respondTunerRejected text
      | .ok timing => (do
        let submitSeq ← (perform PortalCall.nextSeq : Serving UInt32)
        perform (PortalCall.applyLedTiming timing submitSeq)
        send (numberedReply submitSeq "Sent")) := by
  unfold handleTunerBody decideBody
  cases parseTunerForm (cString body) with
  | none => rfl
  | some timing =>
      dsimp only
      cases validateWs2812Timing timing <;> rfl

/-- The length of a body that is received. -/
def bodyLength (request : TunerRequest) : Option Nat :=
  let length : Int := request.contentLen.toInt32.toInt
  if length ≤ 0 ∨ length > tunerBodyMax then none else some length.toNat

/-- The decision on a request, from the bytes of it that arrived. -/
def decideSubmission (request : TunerRequest) (received : List UInt8) :
    Except String Ws2812Timing :=
  match bodyLength request with
  | none => .error "Invalid request"
  | some length =>
    if received.length < length then .error "Invalid request" else decideBody received

/-- Without more timeouts than are waited for, and without an error, the whole body arrives. -/
def Delivered (e : Exchange) : Prop :=
  ∀ length, bodyLength e.request = some length → e.timeouts ≤ httpPortalRecvRetries →
    e.hasFailed = false → e.received = e.request.body.take length ∧ e.received.length = length

/-! ## The server task alone -/

/-- The record that the publications leave. -/
def stored (published : List Ws2812Measurement) : Option Ws2812Measurement :=
  published.foldl (fun result measurement => some (storeResult result measurement)) none

theorem stored_snoc (published : List Ws2812Measurement) (measurement : Ws2812Measurement) :
    stored (published ++ [measurement]) = some (storeResult (stored published) measurement) := by
  rw [stored, List.foldl_append]
  rfl

/-- The publications that earlier requests saw come first. -/
def Server.Saw (x : Server) (published : List Ws2812Measurement) : Prop :=
  ∀ e ∈ x.answered, e.1.published <+: published

/-- The calls, as far as they concern the server task: what the orchestrator writes is unknown, but
for the history of the publications. -/
def alone : Device PortalCall PortalCall.Answer Server
  | .recv wanted, x, r, y =>
    match r with
    | .timeout => y = x.timeOut
    | .failed => y = x.fail
    | .data bytes =>
      bytes.length ≤ wanted ∧ x.current.received ++ bytes <+: x.current.request.body ∧
        y = x.receive bytes
  | .readIdentity, x, _, y => y = x
  | .readResult, x, r, y => ∃ published, x.Saw published ∧ r = stored published ∧ y = x.look published
  | .nextSeq, x, r, y => r = x.submitSeq + 1 ∧ y = x.issue
  | .lastSeq, x, r, y => r = x.submitSeq ∧ y = x
  | .applyLedTiming timing submitSeq, x, _, y => y = x.operate (.applyLedTiming timing submitSeq)
  | .requestPulseRead submitSeq, x, _, y => y = x.operate (.requestPulseRead submitSeq)
  | .send reply, x, _, y => y = x.reply reply

/-- The server task's part of the portal, and what the rest of it has to do with the history. -/
structure ServerOf (s : Portal) (x : Server) : Prop where
  server : s.server = x
  result : s.result = stored s.published
  saw : x.Saw s.published
  current : x.current.published <+: s.published

theorem ServerOf.publish {s t : Portal} {x : Server} (h : ServerOf s x) (hstep : Publish s t) :
    ServerOf t x := by
  cases hstep with
  | result measurement =>
      cases measurement with
      | none => exact h
      | some measurement =>
          refine ⟨h.server, ?_, fun e he => ?_, ?_⟩
          · show some (storeResult s.result measurement) = stored (s.published ++ [measurement])
            rw [stored_snoc, h.result]
          · exact (h.saw e he).trans (List.prefix_append _ _)
          · exact h.current.trans (List.prefix_append _ _)
  | identity => exact ⟨h.server, h.result, h.saw, h.current⟩

theorem ServerOf.call {s t : Portal} {x : Server} (h : ServerOf s x) {c : PortalCall} {r : c.Answer}
    (hcall : portal c s r t) : ∃ y, alone c x r y ∧ ServerOf t y := by
  obtain ⟨hserver, hresult, hsaw, hcurrent⟩ := h
  subst hserver
  cases c with
  | recv wanted =>
      cases r with
      | timeout | failed =>
          obtain rfl := hcall
          exact ⟨_, rfl, rfl, hresult, hsaw, hcurrent⟩
      | data bytes =>
          obtain ⟨hlength, hextends, rfl⟩ := hcall
          exact ⟨_, ⟨hlength, hextends, rfl⟩, rfl, hresult, hsaw, hcurrent⟩
  | readIdentity =>
      obtain ⟨-, rfl⟩ := hcall
      exact ⟨_, rfl, rfl, hresult, hsaw, hcurrent⟩
  | readResult =>
      obtain ⟨rfl, rfl⟩ := hcall
      exact ⟨_, ⟨s.published, hsaw, hresult, rfl⟩, rfl, hresult, hsaw, List.prefix_rfl⟩
  | nextSeq | lastSeq =>
      obtain ⟨rfl, rfl⟩ := hcall
      exact ⟨_, ⟨rfl, rfl⟩, rfl, hresult, hsaw, hcurrent⟩
  | applyLedTiming | requestPulseRead =>
      obtain rfl := hcall
      exact ⟨_, rfl, rfl, hresult, hsaw, hcurrent⟩
  | send reply =>
      obtain rfl := hcall
      refine ⟨_, rfl, rfl, hresult, fun e he => ?_, hcurrent⟩
      rcases List.mem_append.mp he with hold | hnew
      · exact hsaw e hold
      · obtain rfl := List.mem_singleton.mp hnew
        exact hcurrent

theorem portal_simulates (G : PortalCall → Server → Prop) :
    Simulates portal Publish ServerOf alone G where
  call h _ hcall := h.call hcall
  other h hstep := h.publish hstep

/-! ## Answers -/

/-- The exchange is answered. -/
def Server.answer (x : Server) (e : Exchange) (reply : TunerReply) : Server :=
  { x with current := e, answered := x.answered ++ [(e, reply)] }

/-- The body of the result, from the record and the number of submissions when it was read. -/
def resultBody (requestSeq lastIssuedSeq : UInt32) (published : List Ws2812Measurement) : String :=
  let record := (stored published).getD zeroMeasurement
  formatTunerResult (getTunerResultState requestSeq lastIssuedSeq record) record tunerResultBodyMax

/-- The ways in which a request is answered, and what the server task leaves. -/
inductive Answer (x : Server) (e : Exchange) : TunerReply → Server → Prop where
  | forbidden :
      e.profile = .station → e.request.path ≠ .result → e.received = [] → e.operations = [] →
      Answer x e (tunerReply "403 Forbidden" "Forbidden origin")
        (x.answer e (tunerReply "403 Forbidden" "Forbidden origin"))
  | rejected {text : String} :
      e.request.path = .submit → Delivered e →
      decideSubmission e.request e.received = .error text → e.operations = [] →
      Answer x e (tunerReply "400 Bad Request" text)
        (x.answer e (tunerReply "400 Bad Request" text))
  | sent {timing : Ws2812Timing} :
      e.request.path = .submit → Delivered e →
      decideSubmission e.request e.received = .ok timing →
      e.operations = [.applyLedTiming timing (x.submitSeq + 1)] →
      Answer x e (numberedReply (x.submitSeq + 1) "Sent")
        (x.issue.answer e (numberedReply (x.submitSeq + 1) "Sent"))
  | reading :
      e.request.path = .read → e.operations = [.requestPulseRead (x.submitSeq + 1)] →
      Answer x e (numberedReply (x.submitSeq + 1) "Reading")
        (x.issue.answer e (numberedReply (x.submitSeq + 1) "Reading"))
  | malformed :
      e.request.path = .result → requestedSeq e.request = none → e.operations = [] →
      Answer x e (tunerReply "400 Bad Request" "Invalid request")
        (x.answer e (tunerReply "400 Bad Request" "Invalid request"))
  | result {requestSeq : UInt32} :
      e.request.path = .result → requestedSeq e.request = some requestSeq → e.operations = [] →
      x.Saw e.published → e.issued = x.issued →
      Answer x e (tunerReply "200 OK" (resultBody requestSeq x.submitSeq e.published))
        (x.answer e (tunerReply "200 OK" (resultBody requestSeq x.submitSeq e.published)))

/-- The request is answered once. -/
def Completes (x : Server) (profile : HttpProfile) (request : TunerRequest) (y : Server) : Prop :=
  ∃ e reply, e.profile = profile ∧ e.request = request ∧ Answer x e reply y

/-- Nothing is answered, and no number is taken back. -/
structure Unanswered (x y : Server) : Prop where
  answered : y.answered = x.answered
  issued : x.issued ≤ y.issued

theorem Unanswered.same {x y : Server} (hanswered : y.answered = x.answered)
    (hissued : y.issued = x.issued) : Unanswered x y := ⟨hanswered, Nat.le_of_eq hissued.symm⟩

theorem Unanswered.numbered {x y : Server} (hanswered : y.answered = x.answered)
    (hissued : y.issued = x.issued + 1) : Unanswered x y := ⟨hanswered, by omega⟩

/-- Until its reply a handler answers nothing; the reply is an answer to the request. -/
abbrev Handles (x : Server) (profile : HttpProfile) (request : TunerRequest)
    (handler : Serving Unit) (y : Server) : Prop :=
  handler.wp alone (fun _ => Unanswered x) (fun _ => Completes x profile request) y

/-! ## The receive loop -/

/-- The request with what has been received of it. -/
def Server.during (x : Server) (received : List UInt8) (timeouts : Nat) (hasFailed : Bool) :
    Server :=
  { x with current :=
    { x.current with received := received, timeouts := timeouts, hasFailed := hasFailed } }

/-- How the receive loop ends. -/
inductive Receives (request : TunerRequest) (length : Nat) (received : List UInt8)
    (timeouts : Nat) (hasFailed : Bool) : Option (List UInt8) → Prop where
  | complete :
      received <+: request.body → received.length = length →
      Receives request length received timeouts hasFailed (some received)
  | given :
      received.length < length → httpPortalRecvRetries < timeouts ∨ hasFailed = true →
      Receives request length received timeouts hasFailed none

theorem wp_receiveBody {x₀ x : Server} {length : Nat} (hopen : Unanswered x₀ x)
    (received : List UInt8) (timeouts : Nat) (hextends : received <+: x.current.request.body)
    (hlength : received.length ≤ length) :
    (receiveBody length received timeouts).wp alone (fun _ => Unanswered x₀)
      (fun answer y => ∃ bytes n isFailed, y = x.during bytes n isFailed ∧
        Receives x.current.request length bytes n isFailed answer)
      (x.during received timeouts false) := by
  induction received, timeouts using receiveBody.induct length with
  | case1 received timeouts hmore ihretry ihdata =>
      rw [receiveBody, dif_pos hmore, wp_bind, wp_perform]
      refine ⟨⟨hopen.answered, hopen.issued⟩, fun part y hpart => ?_⟩
      cases part with
      | timeout =>
          obtain rfl := hpart
          by_cases hretry : timeouts < httpPortalRecvRetries
          · simp only [dif_pos hretry]
            exact ihretry hretry hextends hlength
          · simp only [dif_neg hretry, wp_pure]
            refine ⟨received, timeouts + 1, false, rfl, .given hmore (.inl ?_)⟩
            omega
      | failed =>
          obtain rfl := hpart
          exact ⟨received, timeouts, true, rfl, .given hmore (.inr rfl)⟩
      | data bytes =>
          obtain ⟨hwanted, hnext, rfl⟩ := hpart
          by_cases hclosed : bytes = []
          · subst hclosed
            simp only [dite_true, wp_pure]
            refine ⟨received, timeouts, true, ?_, .given hmore (.inr rfl)⟩
            simp [Server.receive, Server.during]
          · have hstate : (x.during received timeouts false).receive bytes =
                x.during (received ++ bytes) timeouts false := by
              simp [Server.receive, Server.during, hclosed]
            simp only [dif_neg hclosed]
            rw [hstate]
            apply ihdata bytes hclosed hnext
            rw [List.length_append]
            omega
  | case2 received timeouts hdone =>
      rw [receiveBody, dif_neg hdone]
      exact ⟨received, timeouts, false, rfl, .complete hextends (by omega)⟩

/-! ## The handlers -/

section Handlers

variable {x y : Server} {profile : HttpProfile} {request : TunerRequest}

theorem handles_send {reply : TunerReply} (hopen : Unanswered x y)
    (h : Completes x profile request (y.reply reply)) :
    Handles x profile request (send reply) y := by
  rw [Handles, send, wp_perform]
  refine ⟨hopen, fun _ z hz => ?_⟩
  obtain rfl := hz
  exact h

theorem handles_nextSeq {rest : UInt32 → Serving Unit} (hopen : Unanswered x y)
    (h : Handles x profile request (rest (y.submitSeq + 1)) y.issue) :
    Handles x profile request (perform PortalCall.nextSeq >>= rest) y := by
  rw [Handles, wp_bind, wp_perform]
  refine ⟨hopen, fun n z hz => ?_⟩
  obtain ⟨rfl, rfl⟩ := hz
  exact h

theorem handles_operate {c : PortalCall} {operation : TunerOperation}
    {rest : c.Answer → Serving Unit} (hopen : Unanswered x y)
    (hcall : ∀ r z, alone c y r z → z = y.operate operation)
    (h : ∀ r, Handles x profile request (rest r) (y.operate operation)) :
    Handles x profile request (perform c >>= rest) y := by
  rw [Handles, wp_bind, wp_perform]
  refine ⟨hopen, fun r z hz => ?_⟩
  obtain rfl := hcall r z hz
  exact h r

theorem handles_read (hpath : request.path = .read) :
    Handles x profile request handleTunerReadRequest (x.accept profile request) := by
  refine handles_nextSeq (.same rfl rfl) ?_
  refine handles_operate (.numbered rfl rfl) (fun _ _ h => h) fun _ => ?_
  refine handles_send (.numbered rfl rfl) ?_
  exact ⟨_, _, rfl, rfl, .reading hpath rfl⟩

/-- The decision on a body that has arrived. -/
theorem handles_body {received : List UInt8} {timeouts length : Nat} {hasFailed : Bool}
    (hpath : request.path = .submit) (hlength : bodyLength request = some length)
    (hreceives : Receives request length received timeouts hasFailed (some received)) :
    Handles x profile request (handleTunerBody received)
      ((x.accept profile request).during received timeouts hasFailed) := by
  cases hreceives with
  | complete hextends hcomplete =>
  have hdelivered : ∀ operations, Delivered
      { ((x.accept profile request).during received timeouts hasFailed).current with
        operations := operations } := by
    intro operations n hn _ _
    obtain rfl : length = n := Option.some.inj (hlength.symm.trans hn)
    refine ⟨?_, hcomplete⟩
    rw [← hcomplete]
    exact List.prefix_iff_eq_take.mp hextends
  have hdecide : decideSubmission request received = decideBody received := by
    unfold decideSubmission
    simp [hlength, hcomplete]
  rw [handleTunerBody_eq]
  cases hbody : decideBody received with
  | error text =>
      refine handles_send (.same rfl rfl) ?_
      exact ⟨_, _, rfl, rfl, .rejected hpath (hdelivered []) (hdecide.trans hbody) rfl⟩
  | ok timing =>
      refine handles_nextSeq (.same rfl rfl) ?_
      refine handles_operate (.numbered rfl rfl) (fun _ _ h => h) fun _ => ?_
      refine handles_send (.numbered rfl rfl) ?_
      exact ⟨_, _, rfl, rfl, .sent hpath (hdelivered _) (hdecide.trans hbody) rfl⟩

theorem handles_submit (hpath : request.path = .submit) :
    Handles x profile request (handleTunerSubmitRequest request) (x.accept profile request) := by
  have hreject : ∀ received timeouts hasFailed,
      Delivered ((x.accept profile request).during received timeouts hasFailed).current →
      decideSubmission request received = .error "Invalid request" →
      Handles x profile request (respondTunerRejected "Invalid request")
        ((x.accept profile request).during received timeouts hasFailed) := by
    intro received timeouts hasFailed hdelivered herror
    refine handles_send (.same rfl rfl) ?_
    exact ⟨_, _, rfl, rfl, .rejected hpath hdelivered herror rfl⟩
  unfold handleTunerSubmitRequest
  dsimp only
  by_cases hsize : request.contentLen.toInt32.toInt ≤ 0 ∨
      request.contentLen.toInt32.toInt > tunerBodyMax
  · have hlength : bodyLength request = none := by
      unfold bodyLength
      simp only [hsize, if_true]
    rw [if_pos hsize]
    apply hreject [] 0 false
    · intro length hsome
      have hnone : none = some length := hlength.symm.trans hsome
      cases hnone
    · simp [decideSubmission, hlength]
  · have hlength : bodyLength request = some request.contentLen.toInt32.toInt.toNat := by
      unfold bodyLength
      simp only [hsize, if_false]
    rw [if_neg hsize, Handles, wp_bind]
    have hopen : Unanswered x (x.accept profile request) := .same rfl rfl
    apply wp_mono (wp_receiveBody hopen [] 0 List.nil_prefix (Nat.zero_le _))
    rintro answer y ⟨received, timeouts, hasFailed, rfl, hreceives⟩
    cases answer with
    | none =>
        cases hreceives with
        | given hshort hwhy =>
        apply hreject received timeouts hasFailed
        · intro length hsome htimeouts hfailed
          rcases hwhy with hmany | hbroken
          · exact absurd htimeouts (Nat.not_le.mpr hmany)
          · exact absurd (hbroken.symm.trans hfailed) (by decide)
        · unfold decideSubmission
          rw [hlength]
          exact if_pos hshort
    | some body =>
        obtain rfl : received = body := by cases hreceives; rfl
        exact handles_body hpath hlength hreceives

theorem handles_result (hpath : request.path = .result) :
    Handles x profile request (handleTunerResultRequest request) (x.accept profile request) := by
  unfold handleTunerResultRequest
  cases hseq : requestedSeq request with
  | none =>
      refine handles_send (.same rfl rfl) ?_
      exact ⟨_, _, rfl, rfl, .malformed hpath hseq rfl⟩
  | some requestSeq =>
      rw [Handles, wp_bind, wp_perform]
      refine ⟨.same rfl rfl, ?_⟩
      rintro _ y ⟨published, hsaw, rfl, rfl⟩
      rw [wp_bind, wp_perform]
      refine ⟨.same rfl rfl, ?_⟩
      rintro _ z ⟨rfl, rfl⟩
      refine handles_send (.same rfl rfl) ?_
      exact ⟨_, _, rfl, rfl, .result hpath hseq rfl hsaw rfl⟩

/-- The check of the origin, before anything else. -/
theorem handles_station {handler : Serving Unit} (hpath : request.path ≠ .result)
    (h : Handles x .station request handler (x.accept .station request)) :
    Handles x .station request
      (isStationOriginAllowed request >>= fun isAllowed =>
        if !isAllowed then respondForbiddenOrigin else handler)
      (x.accept .station request) := by
  have hdecided : ∀ isAllowed : Bool, Handles x .station request
      (if !isAllowed then respondForbiddenOrigin else handler) (x.accept .station request) := by
    intro isAllowed
    cases isAllowed
    · refine handles_send (.same rfl rfl) ?_
      exact ⟨_, _, rfl, rfl, .forbidden rfl hpath rfl rfl⟩
    · exact h
  rw [Handles, wp_bind]
  unfold isStationOriginAllowed
  split
  · exact hdecided false
  · rw [wp_bind, wp_perform]
    refine ⟨.same rfl rfl, fun identity y hy => ?_⟩
    obtain rfl := hy
    cases identity <;> exact hdecided _

theorem handles {handler : Serving Unit} (h : tunerHandler profile request = some handler) :
    Handles x profile request handler (x.accept profile request) := by
  cases profile with
  | none => cases h
  | provisioning =>
      cases hpath : request.path <;> simp only [tunerHandler, hpath, Option.some.injEq] at h <;>
        subst h
      · exact handles_submit hpath
      · exact handles_read hpath
      · exact handles_result hpath
  | station =>
      cases hpath : request.path <;> simp only [tunerHandler, hpath, Option.some.injEq] at h <;>
        subst h
      · exact handles_station (by simp [hpath]) (handles_submit hpath)
      · exact handles_station (by simp [hpath]) (handles_read hpath)
      · exact handles_result hpath

end Handlers

/-! ## Runs -/

/-- A request is served while the orchestrator waits. -/
theorem PortalRun.serve {s t : Portal} {request : TunerRequest} {handler : Serving Unit}
    (hrun : PortalRun (.ret (), s)) (hhandler : tunerHandler s.profile request = some handler)
    (hends : Ends portal handler { s with server := s.server.accept s.profile request } () t) :
    PortalRun (.ret (), t) :=
  hrun.trans (run_of_next (.request hhandler) hends)

theorem PortalRun.publish {p : Serving Unit} {s t : Portal} (hrun : PortalRun (p, s))
    (hstep : Publish s t) : PortalRun (p, t) :=
  hrun.tail (.other hstep)

def readRequest : TunerRequest where
  path := .read

/-- `POST /tuner/read` in the provisioning profile. -/
def Server.servedRead (x : Server) : Server :=
  ((x.accept .provisioning readRequest).issue.operate (.requestPulseRead (x.submitSeq + 1))).reply
    (numberedReply (x.submitSeq + 1) "Reading")

theorem PortalRun.read {s : Portal} (hrun : PortalRun (.ret (), s))
    (hprofile : s.profile = .provisioning) :
    PortalRun (.ret (), { s with server := s.server.servedRead }) := by
  have hhandler : tunerHandler s.profile readRequest = some handleTunerReadRequest := by
    rw [hprofile]
    rfl
  apply hrun.serve hhandler
  rw [hprofile]
  exact .call ⟨rfl, rfl⟩ (.call (r := ()) rfl (.call (r := ()) rfl (.ret _ _)))

theorem portalRun_started : PortalRun (.ret (), startHttpPortal bootPortal true) :=
  .single (.next (.portal true))

section Receiving

variable {S : Type} {D : Device PortalCall PortalCall.Answer S} {s t u : S} {length timeouts : Nat}
  {received : List UInt8} {answer : Option (List UInt8)}

theorem receiveBody_timeout (hmore : received.length < length)
    (hretry : timeouts < httpPortalRecvRetries)
    (hcall : D (.recv (length - received.length)) s RecvResult.timeout t)
    (h : Ends D (receiveBody length received (timeouts + 1)) t answer u) :
    Ends D (receiveBody length received timeouts) s answer u := by
  rw [receiveBody, dif_pos hmore]
  refine .call hcall ?_
  change Ends _ (if _ : timeouts < httpPortalRecvRetries then _ else _) _ _ _
  rwa [dif_pos hretry]

theorem receiveBody_data {bytes : List UInt8} (hmore : received.length < length) (hne : bytes ≠ [])
    (hcall : D (.recv (length - received.length)) s (RecvResult.data bytes) t)
    (h : Ends D (receiveBody length (received ++ bytes) timeouts) t answer u) :
    Ends D (receiveBody length received timeouts) s answer u := by
  rw [receiveBody, dif_pos hmore]
  refine .call hcall ?_
  change Ends _ (if _ : bytes = [] then _ else _) _ _ _
  rwa [dif_neg hne]

theorem receiveBody_complete (hfull : received.length = length) :
    Ends D (receiveBody length received timeouts) s (some received) s := by
  rw [receiveBody, dif_neg (by omega)]
  exact .ret _ s

end Receiving

theorem portal_recv_data {s : Portal} {wanted : Nat} (bytes : List UInt8)
    (hwanted : bytes.length ≤ wanted)
    (hextends : s.server.current.received ++ bytes <+: s.server.current.request.body) :
    portal (.recv wanted) s (RecvResult.data bytes) { s with server := s.server.receive bytes } :=
  ⟨hwanted, hextends, rfl⟩

/-- A submission in the provisioning profile whose body arrives. -/
theorem PortalRun.submit {s t u : Portal} {length : Nat} {request : TunerRequest} {body : List UInt8}
    (hrun : PortalRun (.ret (), s)) (hprofile : s.profile = .provisioning)
    (hpath : request.path = .submit) (hlength : bodyLength request = some length)
    (hreceive : Ends portal (receiveBody length [] 0)
      { s with server := s.server.accept s.profile request } (some body) t)
    (hhandled : Ends portal (handleTunerBody body) t () u) : PortalRun (.ret (), u) := by
  have hhandler : tunerHandler s.profile request = some (handleTunerSubmitRequest request) := by
    rw [hprofile, tunerHandler, hpath]
  apply hrun.serve hhandler
  unfold bodyLength at hlength
  unfold handleTunerSubmitRequest
  dsimp only at hlength ⊢
  split at hlength
  · cases hlength
  · rename_i hbounds
    obtain rfl := Option.some.inj hlength
    rw [if_neg hbounds]
    refine Ends.bind hreceive ?_
    exact hhandled

theorem serverOf_boot : ServerOf bootPortal bootPortal.server where
  server := rfl
  result := rfl
  saw _ h := nomatch h
  current := List.nil_prefix

/-- The start of a request, or a change of the profile. -/
theorem ServerOf.serve {s t : Portal} {x : Server} {p : Serving Unit} (h : ServerOf s x)
    (hserve : Serve s p t) :
    (p = .ret () ∧ ServerOf t x) ∨
      ∃ profile request, ServerOf t (x.accept profile request) ∧
        Handles x profile request p (x.accept profile request) := by
  obtain ⟨rfl, hresult, hsaw, hcurrent⟩ := h
  cases hserve with
  | request hhandler =>
      exact .inr ⟨_, _, ⟨rfl, hresult, hsaw, List.nil_prefix⟩, handles hhandler⟩
  | portal isStarted | station isStarted =>
      cases isStarted <;> exact .inl ⟨rfl, rfl, hresult, hsaw, hcurrent⟩
  | stop => exact .inl ⟨rfl, rfl, hresult, hsaw, hcurrent⟩

/-- What every answer keeps holds between two requests; what it says of the answered requests holds
all along. -/
theorem PortalRun.holds {I J : Server → Prop} (hboot : I bootPortal.server)
    (hanswer : ∀ {x e reply y}, I x → Answer x e reply y → I y) (hJ : ∀ x, I x → J x)
    (hopen : ∀ x y, Unanswered x y → J x → J y) {c : Serving Unit × Portal}
    (hrun : PortalRun c) : ServerOf c.2 c.2.server ∧ J c.2.server := by
  have hloop : ∃ x, ServerOf c.2 x ∧ c.1.wp alone (fun _ => J) (fun _ => I) x := by
    refine (portal_simulates fun _ => J).wp_of_run ?_ hrun ⟨_, serverOf_boot, hboot⟩
    intro _ s x p t hserver hI hserve
    rcases hserver.serve hserve with ⟨rfl, hserver⟩ | ⟨profile, request, hserver, hhandles⟩
    · exact ⟨x, hserver, hI⟩
    · refine ⟨_, hserver, wp_conseq hhandles ?_ ?_⟩
      · intro _ y hy
        exact hopen x y hy (hJ x hI)
      · rintro _ y ⟨e, reply, -, -, h⟩
        exact hanswer hI h
  obtain ⟨x, hserver, hx⟩ := hloop
  obtain rfl := hserver.server
  refine ⟨hserver, ?_⟩
  cases hleft : c.1 with
  | ret =>
      rw [hleft] at hx
      exact hJ _ hx
  | call =>
      rw [hleft] at hx
      exact hx.1

end StripTuner.HttpPortal
