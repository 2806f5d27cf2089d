import StripTuner.HttpPortal.Exchanges
import StripTuner.HttpPortal.ScanList
import StripTuner.WifiManager.ScanNetworks

/-!
# The setup server

The setup handlers, one request after the other, with the scans of the radio under them. A pair of
credentials only leaves the server as it was sent, and only if it suits the networks that the radio
heard in the latest scan.
-/

namespace StripTuner.HttpPortal

open CredentialStore DeviceCalls DeviceCalls.Prog FwMeta Json Relation WifiManager

/-! ## Requests -/

/-- A request with what the client sends. -/
inductive SetupRequest where
  | scan
  | submit (contentLen : UInt32) (body : List UInt8)

def SetupRequest.body : SetupRequest → List UInt8
  | .scan => []
  | .submit _ body => body

/-- What was done for a request: the records of its scan with the list made of them, the bytes
received, the calls of `submit_credentials`, and the replies. -/
structure SetupExchange where
  request : SetupRequest
  heard : Option (List WifiApRecord) := none
  listed : Option (List WifiScanEntry) := none
  received : List UInt8 := []
  timeouts : Nat := 0
  hasFailed : Bool := false
  handedOver : List (WifiCredentials × Bool) := []
  sent : List SetupReply := []

/-- `s_raw_entries`, and the request that is served. -/
structure SetupBoard where
  raw : List WifiScanEntry
  exchange : SetupExchange

namespace SetupBoard

def receive (b : SetupBoard) (bytes : List UInt8) : SetupBoard :=
  { b with exchange :=
    { b.exchange with
      received := b.exchange.received ++ bytes
      hasFailed := b.exchange.hasFailed || bytes.isEmpty } }

def timeOut (b : SetupBoard) : SetupBoard :=
  { b with exchange := { b.exchange with timeouts := b.exchange.timeouts + 1 } }

def fail (b : SetupBoard) : SetupBoard :=
  { b with exchange := { b.exchange with hasFailed := true } }

def scan (b : SetupBoard) (raw : List WifiScanEntry) (heard : Option (List WifiApRecord))
    (listed : Option (List WifiScanEntry)) : SetupBoard :=
  ⟨raw, { b.exchange with heard := heard, listed := listed }⟩

def handOver (b : SetupBoard) (credentials : WifiCredentials) (isStarted : Bool) : SetupBoard :=
  { b with exchange :=
    { b.exchange with handedOver := b.exchange.handedOver ++ [(credentials, isStarted)] } }

def reply (b : SetupBoard) (reply : SetupReply) : SetupBoard :=
  { b with exchange := { b.exchange with sent := b.exchange.sent ++ [reply] } }

end SetupBoard

/-- The calls: the radio is scanned, the bytes of a form arrive in order, in any portions, and
`submit_credentials` returns anything. -/
def setupBoard : Device SetupCall SetupCall.Answer SetupBoard
  | .portal (.recv wanted), b, r, c =>
    match r with
    | .timeout => c = b.timeOut
    | .failed => c = b.fail
    | .data bytes =>
      bytes.length ≤ wanted ∧ b.exchange.received ++ bytes <+: b.exchange.request.body ∧
        c = b.receive bytes
  | .portal _, _, _, _ => False
  | .scanNetworks, b, r, c => ∃ raw heard,
    Ends radio (scanWifiNetworks b.raw (UInt16.ofNat wifiScanMaxEntries)) none (r, raw) heard ∧
      c = b.scan raw heard r
  | .submitCredentials credentials, b, r, c => c = b.handOver credentials r
  | .setHttpPortalStatus _, b, _, c => c = b
  | .send reply, b, _, c => c = b.reply reply

/-! ## Runs -/

/-- The variables of the setup handlers, and the requests served since the portal was started. -/
structure SetupServer where
  state : SetupState
  raw : List WifiScanEntry
  answered : List SetupExchange

/-- The handlers registered for the two paths. -/
def setupHandler (state : SetupState) : SetupRequest → Setup SetupState
  | .scan => handleScanRequest state
  | .submit contentLen _ => do
    handleSubmitRequest state.entries contentLen
    return state

/-- The server task serves a request, or `StartHttpPortal()` starts the server anew: it clears
`s_entry_count`. -/
inductive SetupStep (s : SetupServer) : SetupServer → Prop where
  | serve (request : SetupRequest) {state : SetupState} {b : SetupBoard} :
      Ends setupBoard (setupHandler s.state request) ⟨s.raw, { request := request }⟩ state b →
      SetupStep s ⟨state, b.raw, s.answered ++ [b.exchange]⟩
  | start : SetupStep s ⟨{ s.state with entries := [] }, s.raw, []⟩

/-- Zeroed buffers. -/
def bootSetup : SetupServer where
  state := ⟨[], List.replicate httpPortalJsonMax 0⟩
  raw := List.replicate wifiScanRawMax ⟨Vector.replicate _ 0, 0, false, false⟩
  answered := []

def SetupRun (s : SetupServer) : Prop := ReflTransGen SetupStep bootSetup s

/-! ## The specification -/

/-- The list of the latest scan that had one. -/
def latestList (answered : List SetupExchange) : List WifiScanEntry :=
  (answered.filterMap SetupExchange.listed).getLast?.getD []

/-- The replies. -/
def scanUnavailable : SetupReply := ⟨"503 Service Unavailable", [], ascii "Scan unavailable"⟩

def badRequest (message : String) : SetupReply := ⟨"400 Bad Request", [], ascii message⟩

def connectingReply : SetupReply :=
  ⟨"200 OK", [("Content-Type", "text/plain"), ("Cache-Control", "no-store")],
    ascii "Connecting..."⟩

/-- The network of the pair can be joined with its password, as far as the list tells. -/
structure Suits (listed : List WifiScanEntry) (pair : WifiCredentials) : Prop where
  known : ∀ entry ∈ listed, ssidText entry = cString pair.ssid.toList →
    entry.isUnsupported = false ∧ (entry.isOpen = true ↔ cString pair.password.toList = [])
  unknown : cString pair.ssid.toList ∉ listed.map ssidText → cString pair.password.toList ≠ []

/-- The form has arrived as it was sent, up to its length. -/
structure HasForm (e : SetupExchange) (contentLen : UInt32) : Prop where
  length : 0 < contentLen.toNat ∧ contentLen.toNat ≤ httpPortalFormMax
  received : e.received = e.request.body.take contentLen.toNat ∧
    e.received.length = contentLen.toNat

/-- The form is not complete: its length is refused, or the client was too slow or failed. -/
def LacksForm (e : SetupExchange) (contentLen : UInt32) : Prop :=
  (contentLen.toInt32.toInt ≤ 0 ∨ contentLen.toInt32.toInt > httpPortalFormMax) ∨
    httpPortalRecvRetries < e.timeouts ∨ e.hasFailed = true

/-- What is done for a request, with the list that there was before it. -/
inductive SoundExchange (listed : List WifiScanEntry) (e : SetupExchange) : Prop where
  | unavailable : e.request = .scan → e.listed = none → e.handedOver = [] →
      e.sent = [scanUnavailable] → SoundExchange listed e
  | scanned {records : List WifiApRecord} {entries : List WifiScanEntry} {n : Nat}
      {reply : SetupReply} : e.request = .scan → e.heard = some records →
      Lists records wifiScanMaxEntries entries → e.listed = some entries → e.handedOver = [] →
      e.sent = [reply] → reply.status = "200 OK" →
      (∀ value, Denotes reply.body value ↔ value = .array ((entries.take n).map entryValue)) →
      (∀ m ≤ entries.length, (listText (entries.take m)).length < httpPortalJsonMax → m ≤ n) →
      SoundExchange listed e
  | incomplete {contentLen : UInt32} {body : List UInt8} : e.request = .submit contentLen body →
      e.listed = none → LacksForm e contentLen → e.handedOver = [] →
      e.sent = [badRequest "Invalid form"] → SoundExchange listed e
  | rejected {contentLen : UInt32} {body : List UInt8} : e.request = .submit contentLen body →
      e.listed = none → HasForm e contentLen →
      (∀ pair, decodeSubmission (cString e.received) = some pair →
        isCredentialsValid pair = true → ¬Suits listed pair) →
      e.handedOver = [] → e.sent = [badRequest "Invalid credentials"] → SoundExchange listed e
  | submitted {contentLen : UInt32} {body : List UInt8} {pair : WifiCredentials}
      {isStarted : Bool} : e.request = .submit contentLen body → e.listed = none →
      HasForm e contentLen → decodeSubmission (cString e.received) = some pair →
      isCredentialsValid pair = true → Suits listed pair → e.handedOver = [(pair, isStarted)] →
      e.sent = [if isStarted then connectingReply else badRequest "Busy, try again"] →
      SoundExchange listed e

/-! ## The check of a submission -/

/-- With one entry for each name, the check is that the network can be joined. -/
theorem validateSubmission_iff {listed : List WifiScanEntry} (hnodup : (listed.map ssidText).Nodup)
    {pair : WifiCredentials} : validateSubmission pair listed = true ↔
      isCredentialsValid pair = true ∧ Suits listed pair := by
  have hempty : (pair.password.toList.getD 0 0 = 0) ↔ cString pair.password.toList = [] := by
    rw [cString, List.takeWhile_eq_nil_iff]
    simp
  rw [validateSubmission]
  by_cases hvalid : isCredentialsValid pair = true
  · simp only [hvalid, Bool.not_true, Bool.false_eq_true, if_false, true_and, hempty]
    cases hfind : findScanEntry listed (cString pair.ssid.toList) with
    | none =>
        have hnone : cString pair.ssid.toList ∉ listed.map ssidText := by
          intro hmem
          obtain ⟨entry, hentry, hname⟩ := List.mem_map.1 hmem
          rw [findScanEntry, List.find?_eq_none] at hfind
          exact hfind entry hentry (decide_eq_true hname)
        simp only [Bool.not_eq_true', decide_eq_false_iff_not]
        constructor
        · intro hne
          exact ⟨fun entry hentry hname => absurd (List.mem_map.2 ⟨entry, hentry, hname⟩) hnone,
            fun _ => hne⟩
        · exact fun h => h.unknown hnone
    | some found =>
        rw [findScanEntry] at hfind
        have hmem := List.mem_of_find?_eq_some hfind
        have hfound := List.find?_some hfind
        have hname : ssidText found = cString pair.ssid.toList := of_decide_eq_true hfound
        have hsame : ∀ entry ∈ listed, ssidText entry = cString pair.ssid.toList → entry = found :=
          fun entry hentry heq => List.inj_on_of_nodup_map hnodup hentry hmem (heq.trans hname.symm)
        have hiff : Suits listed pair ↔ found.isUnsupported = false ∧
            (found.isOpen = true ↔ cString pair.password.toList = []) := by
          constructor
          · exact fun h => h.known found hmem hname
          · intro h
            refine ⟨fun entry hentry heq => by rwa [hsame entry hentry heq], fun hunlisted => ?_⟩
            exact absurd (List.mem_map.2 ⟨found, hmem, hname⟩) hunlisted
        rw [hiff]
        cases hsupported : found.isUnsupported <;> cases hopen : found.isOpen <;>
          simp [hsupported, hopen]
  · simp [hvalid]

/-! ## One request -/

section Handlers

variable {listed : List WifiScanEntry} {b : SetupBoard}

/-- Until the end no reply has been sent and no pair handed over. -/
structure Fresh (e : SetupExchange) : Prop where
  handedOver : e.handedOver = []
  sent : e.sent = []

/-- How a handler leaves the board. -/
abbrev ServesSetup (listed : List WifiScanEntry) (handler : Setup Unit) (b : SetupBoard) : Prop :=
  handler.wp setupBoard (fun _ _ => True)
    (fun _ c => c.raw = b.raw ∧ SoundExchange listed c.exchange ∧
      c.exchange.listed = b.exchange.listed) b

theorem servesSetup_send {reply : SetupReply} (h : SoundExchange listed (b.reply reply).exchange) :
    ServesSetup listed (sendSetup reply) b := by
  rw [ServesSetup, sendSetup, wp_perform]
  refine ⟨trivial, ?_⟩
  rintro _ _ rfl
  exact ⟨rfl, h, rfl⟩

/-- The form has arrived. -/
theorem servesSetup_form {contentLen : UInt32} {body : List UInt8}
    (hnodup : (listed.map ssidText).Nodup) (hfresh : Fresh b.exchange)
    (hrequest : b.exchange.request = .submit contentLen body) (hlisted : b.exchange.listed = none)
    (hform : HasForm b.exchange contentLen) :
    ServesSetup listed (handleForm listed b.exchange.received) b := by
  obtain ⟨hhanded, hsent⟩ := hfresh
  unfold handleForm
  cases hdecode : (decodeSubmission (cString b.exchange.received)).filter
      (validateSubmission · listed) with
  | none =>
      have hreply : (b.reply (badRequest "Invalid credentials")).exchange.sent =
          [badRequest "Invalid credentials"] := by
        simp [SetupBoard.reply, hsent]
      refine servesSetup_send (.rejected hrequest hlisted ⟨hform.length, hform.received⟩ ?_ hhanded
        hreply)
      intro pair hpair hvalid hsuits
      have hrejected := Option.filter_eq_none_iff.1 hdecode pair hpair
      exact hrejected ((validateSubmission_iff hnodup).2 ⟨hvalid, hsuits⟩)
  | some pair =>
      obtain ⟨hpair, haccepted⟩ := Option.filter_eq_some_iff.1 hdecode
      obtain ⟨hvalid, hsuits⟩ := (validateSubmission_iff hnodup).1 haccepted
      rw [ServesSetup, wp_bind, wp_perform]
      refine ⟨trivial, ?_⟩
      rintro isStarted _ rfl
      have hhanded' : (b.handOver pair isStarted).exchange.handedOver = [(pair, isStarted)] := by
        simp [SetupBoard.handOver, hhanded]
      have hsubmitted : ∀ reply,
          reply = (if isStarted then connectingReply else badRequest "Busy, try again") →
          SoundExchange listed ((b.handOver pair isStarted).reply reply).exchange := by
        rintro reply rfl
        exact .submitted hrequest hlisted ⟨hform.length, hform.received⟩ hpair hvalid hsuits
          hhanded' (by simp [SetupBoard.reply, SetupBoard.handOver, hsent])
      cases isStarted with
      | false => exact servesSetup_send (hsubmitted _ rfl)
      | true =>
          rw [Bool.not_true, if_neg Bool.false_ne_true, wp_bind, wp_perform]
          refine ⟨trivial, ?_⟩
          rintro _ _ rfl
          exact servesSetup_send (hsubmitted _ rfl)

/-- The receive loop sees the exchange as it sees one of the tuner. -/
def SetupBoard.toServer (b : SetupBoard) : Server where
  submitSeq := 0
  issued := 0
  current :=
    { profile := .provisioning
      request := { path := .submit, body := b.exchange.request.body }
      received := b.exchange.received
      timeouts := b.exchange.timeouts
      hasFailed := b.exchange.hasFailed }
  answered := []

theorem alone_toServer (c : PortalCall) (b : SetupBoard) (r : c.Answer) (b' : SetupBoard)
    (h : setupBoard (.portal c) b r b') : alone c b.toServer r b'.toServer := by
  cases c with
  | recv wanted =>
      cases r with
      | timeout | failed =>
          obtain rfl := h
          rfl
      | data bytes =>
          obtain ⟨hlength, hextends, rfl⟩ := h
          exact ⟨hlength, hextends, rfl⟩
  | readIdentity | readResult | nextSeq | lastSeq | applyLedTiming | requestPulseRead | send =>
      exact absurd h (fun h => h)

/-- What the receive loop changes. -/
structure Receiving (b c : SetupBoard) : Prop where
  raw : c.raw = b.raw
  request : c.exchange.request = b.exchange.request
  listed : c.exchange.listed = b.exchange.listed
  handedOver : c.exchange.handedOver = b.exchange.handedOver
  sent : c.exchange.sent = b.exchange.sent

theorem receiving_of_portal {c : PortalCall} {b b' : SetupBoard} {r : c.Answer}
    (h : setupBoard (.portal c) b r b') : Receiving b b' := by
  cases c with
  | recv wanted =>
      cases r with
      | timeout | failed =>
          obtain rfl := h
          exact ⟨rfl, rfl, rfl, rfl, rfl⟩
      | data bytes =>
          obtain ⟨-, -, rfl⟩ := h
          exact ⟨rfl, rfl, rfl, rfl, rfl⟩
  | readIdentity | readResult | nextSeq | lastSeq | applyLedTiming | requestPulseRead | send =>
      exact absurd h (fun h => h)

theorem wp_receiveForm {contentLen : UInt32} {body : List UInt8} (length : Nat)
    (hstart : b.exchange = { request := .submit contentLen body }) :
    (receiveBody length [] 0).wp (fun c => setupBoard (.portal c)) (fun _ _ => True)
      (fun answer c => (∃ bytes n isFailed, c.toServer = b.toServer.during bytes n isFailed ∧
        Receives b.toServer.current.request length bytes n isFailed answer) ∧ Receiving b c) b := by
  have hopen : Unanswered b.toServer b.toServer := .same rfl rfl
  have hduring : b.toServer.during [] 0 false = b.toServer := by
    simp [SetupBoard.toServer, Server.during, hstart]
  have hreceive := @wp_receiveBody _ _ length hopen [] 0 List.nil_prefix (Nat.zero_le _)
  rw [hduring] at hreceive
  have hprojected := wp_project (E := fun c => setupBoard (.portal c)) SetupBoard.toServer
    alone_toServer hreceive
  refine wp_keep hprojected ⟨rfl, rfl, rfl, rfl, rfl⟩ (fun _ _ _ _ => trivial) ?_
  intro c d r e _ hkept hcall
  have hstep := receiving_of_portal hcall
  exact ⟨hstep.raw.trans hkept.raw, hstep.request.trans hkept.request,
    hstep.listed.trans hkept.listed, hstep.handedOver.trans hkept.handedOver,
    hstep.sent.trans hkept.sent⟩

/-- A length that is accepted is the one that was sent. -/
theorem toNat_contentLen {contentLen : UInt32} (hpos : 0 < contentLen.toInt32.toInt) :
    contentLen.toInt32.toInt.toNat = contentLen.toNat := by
  have hlt := contentLen.toNat_lt
  have hint : contentLen.toInt32.toInt = (contentLen.toNat : Int).bmod (2 ^ 32) :=
    BitVec.toInt_eq_toNat_bmod contentLen.toBitVec
  rw [hint, Int.bmod_def] at hpos ⊢
  omega

/-- `HandleSubmitRequest()`. -/
theorem serves_submit {contentLen : UInt32} {body : List UInt8}
    (hnodup : (listed.map ssidText).Nodup)
    (hstart : b.exchange = { request := .submit contentLen body }) :
    ServesSetup listed (handleSubmitRequest listed contentLen) b := by
  have hfresh : Fresh b.exchange := by
    rw [hstart]
    exact ⟨rfl, rfl⟩
  have hrequest : b.exchange.request = .submit contentLen body := by rw [hstart]
  have hlisted : b.exchange.listed = none := by rw [hstart]
  unfold handleSubmitRequest
  dsimp only
  by_cases hlength : contentLen.toInt32.toInt ≤ 0 ∨ contentLen.toInt32.toInt > httpPortalFormMax
  · rw [if_pos hlength]
    refine servesSetup_send (.incomplete hrequest hlisted (.inl hlength) hfresh.handedOver ?_)
    simp [SetupBoard.reply, hfresh.sent, badRequest]
  · rw [if_neg hlength, ServesSetup, wp_bind, wp_embed]
    rw [not_or, Int.not_le, gt_iff_lt, Int.not_lt] at hlength
    refine wp_mono (wp_receiveForm _ hstart) ?_
    rintro answer c ⟨⟨bytes, n, isFailed, hserver, hreceives⟩, hkept⟩
    have hcurrent := congrArg Server.current hserver
    have hfresh' : Fresh c.exchange :=
      ⟨hkept.handedOver.trans hfresh.handedOver, hkept.sent.trans hfresh.sent⟩
    have hrequest' := hkept.request.trans hrequest
    have hlisted' := hkept.listed.trans hlisted
    have hreceived : c.exchange.received = bytes := congrArg Exchange.received hcurrent
    have htimeouts : c.exchange.timeouts = n := congrArg Exchange.timeouts hcurrent
    have hfailed : c.exchange.hasFailed = isFailed := congrArg Exchange.hasFailed hcurrent
    cases hreceives with
    | given _ hwhy =>
        rw [← htimeouts, ← hfailed] at hwhy
        have hreply : (c.reply (badRequest "Invalid form")).exchange.sent =
            [badRequest "Invalid form"] := by
          simp [SetupBoard.reply, hfresh'.sent]
        exact wp_mono (servesSetup_send
          (.incomplete hrequest' hlisted' (.inr hwhy) hfresh'.handedOver hreply))
          fun _ d hd => ⟨hd.1.trans hkept.raw, hd.2.1, hd.2.2.trans hkept.listed⟩
    | complete hextends hcomplete =>
        rw [toNat_contentLen hlength.1] at hcomplete
        have hbound : contentLen.toNat ≤ httpPortalFormMax := by
          rw [← toNat_contentLen hlength.1]
          omega
        have hbody : b.toServer.current.request.body = c.exchange.request.body := by
          rw [hrequest', ← hrequest]
          rfl
        have hform : HasForm c.exchange contentLen := by
          refine ⟨⟨?_, hbound⟩, ?_, ?_⟩
          · rw [← toNat_contentLen hlength.1]
            omega
          · rw [hreceived, ← hcomplete, ← hbody]
            exact List.prefix_iff_eq_take.mp hextends
          · rw [hreceived, hcomplete]
        rw [← hreceived]
        exact wp_mono (servesSetup_form hnodup hfresh' hrequest' hlisted' hform)
          fun _ d hd => ⟨hd.1.trans hkept.raw, hd.2.1, hd.2.2.trans hkept.listed⟩

end Handlers

/-! ## A scan -/

section Scan

variable {entries : List WifiScanEntry} {state : SetupState}

theorem isListed_of_lists {records : List WifiApRecord} {limit : Nat}
    (h : Lists records limit entries) : ∀ entry ∈ entries, IsListed entry := by
  intro entry hentry
  obtain ⟨record, -, hname, rfl⟩ := h.strongest entry hentry
  have htext : entryName (rawEntry record) = apName record := ssidText_rawEntry record
  rw [IsListed, htext]
  exact ⟨List.length_pos_iff.2 hname, (apName_spec record).2⟩

theorem length_formatScan {json : List UInt8} (hjson : json.length = httpPortalJsonMax)
    (hlisted : ∀ entry ∈ entries, IsListed entry) :
    (formatScan json entries).1.length = httpPortalJsonMax := by
  have hset : (json.set 0 0x5B).length = httpPortalJsonMax := by rw [List.length_set, hjson]
  have hroom : 1 + 2 ≤ httpPortalJsonMax := by decide
  obtain ⟨n, h⟩ := formatEntries_formatted 0 hset hroom hlisted
  rw [formatScan, List.length_set, List.length_set, h.length]

/-- The body of a list. -/
theorem scanReply_some (hjson : state.json.length = httpPortalJsonMax)
    (hlisted : ∀ entry ∈ entries, IsListed entry) :
    ∃ n ≤ entries.length, (scanReply state (some entries)).1.body = listText (entries.take n) ∧
      ∀ m ≤ entries.length, (listText (entries.take m)).length < httpPortalJsonMax → m ≤ n := by
  obtain ⟨n, hn, hused, -, htext, hlongest⟩ := formatScan_eq hjson hlisted
  refine ⟨n, hn, ?_, hlongest⟩
  have htake := congrArg (List.take (listText (entries.take n)).length) htext
  rw [List.take_take, Nat.min_eq_left (Nat.le_succ _), List.take_left] at htake
  rw [scanReply, hused]
  exact htake

/-- What a handler leaves: its request served, and the variables for the next one. -/
structure Leaves (state : SetupState) (state' : SetupState) (b : SetupBoard) : Prop where
  raw : b.raw.length = wifiScanRawMax
  sound : SoundExchange state.entries b.exchange
  json : state'.json.length = httpPortalJsonMax
  entries : state'.entries = b.exchange.listed.getD state.entries
  nodup : ∀ entries, b.exchange.listed = some entries → (entries.map ssidText).Nodup

/-- `HandleScanRequest()`. -/
theorem wp_handleScanRequest {raw : List WifiScanEntry} (hraw : raw.length = wifiScanRawMax)
    (hjson : state.json.length = httpPortalJsonMax) :
    (handleScanRequest state).wp setupBoard (fun _ _ => True) (Leaves state)
      ⟨raw, { request := .scan }⟩ := by
  unfold handleScanRequest
  rw [wp_bind, wp_perform]
  refine ⟨trivial, ?_⟩
  rintro listed _ ⟨raw', heard, hends, rfl⟩
  obtain ⟨hraw', -, hlists⟩ := wp_ends (wp_scanWifiNetworks hraw _ none) hends
  rw [wp_bind, sendSetup, wp_perform]
  refine ⟨trivial, ?_⟩
  rintro _ _ rfl
  cases listed with
  | none =>
      exact ⟨hraw', .unavailable rfl rfl rfl rfl, hjson, rfl, fun _ h => by cases h⟩
  | some entries =>
      obtain ⟨records, rfl, hentries⟩ := hlists entries rfl
      have hlisted := isListed_of_lists hentries
      obtain ⟨n, -, hbody, hlongest⟩ := scanReply_some hjson hlisted
      refine ⟨hraw', .scanned rfl rfl hentries rfl rfl rfl rfl ?_ hlongest,
        length_formatScan hjson hlisted, rfl, ?_⟩
      · intro value
        rw [hbody]
        constructor
        · exact fun h => h.unique (denotes_listText _)
        · rintro rfl
          exact denotes_listText _
      · rintro _ ⟨⟩
        exact hentries.nodup

theorem wp_setupHandler {raw : List WifiScanEntry} (hraw : raw.length = wifiScanRawMax)
    (hjson : state.json.length = httpPortalJsonMax) (hnodup : (state.entries.map ssidText).Nodup)
    (request : SetupRequest) :
    (setupHandler state request).wp setupBoard (fun _ _ => True) (Leaves state)
      ⟨raw, { request := request }⟩ := by
  cases request with
  | scan => exact wp_handleScanRequest hraw hjson
  | submit contentLen body =>
      rw [setupHandler, wp_bind]
      refine wp_mono (serves_submit hnodup rfl) ?_
      rintro _ c ⟨hraw', hsound, hlisted⟩
      have hnone : c.exchange.listed = none := hlisted
      refine ⟨hraw'.symm ▸ hraw, hsound, hjson, ?_, ?_⟩
      · rw [hnone]
        rfl
      · intro entries hentries
        rw [hnone] at hentries
        cases hentries

end Scan

/-! ## All requests -/

theorem latestList_snoc (answered : List SetupExchange) (e : SetupExchange) :
    latestList (answered ++ [e]) = e.listed.getD (latestList answered) := by
  unfold latestList
  cases hlisted : e.listed with
  | none => simp [hlisted]
  | some entries => simp [hlisted]

/-- What holds between two requests. -/
structure SetupInvariant (s : SetupServer) : Prop where
  raw : s.raw.length = wifiScanRawMax
  json : s.state.json.length = httpPortalJsonMax
  entries : s.state.entries = latestList s.answered
  nodup : (s.state.entries.map ssidText).Nodup
  sound : ∀ before e after, s.answered = before ++ e :: after → SoundExchange (latestList before) e

theorem setupInvariant_boot : SetupInvariant bootSetup where
  raw := List.length_replicate
  json := List.length_replicate
  entries := rfl
  nodup := List.nodup_nil
  sound before e after h := by simp [bootSetup] at h

theorem SetupInvariant.step {s t : SetupServer} (h : SetupInvariant s) (hstep : SetupStep s t) :
    SetupInvariant t := by
  cases hstep with
  | start => exact ⟨h.raw, h.json, rfl, List.nodup_nil, fun before e after hsplit => by simp at hsplit⟩
  | @serve request state b hends =>
      have hleaves := wp_ends (wp_setupHandler h.raw h.json h.nodup request) hends
      refine ⟨hleaves.raw, hleaves.json, ?_, ?_, ?_⟩
      · rw [hleaves.entries, latestList_snoc, h.entries]
      · rw [hleaves.entries]
        cases hlisted : b.exchange.listed with
        | none => exact h.nodup
        | some entries => exact hleaves.nodup entries hlisted
      · intro before e after hsplit
        rcases List.eq_nil_or_concat after with rfl | ⟨after', last, rfl⟩
        · obtain ⟨rfl, hlast⟩ := List.append_inj' hsplit rfl
          obtain rfl := List.singleton_inj.1 hlast
          rw [← h.entries]
          exact hleaves.sound
        · have hinit : s.answered = before ++ e :: after' := by
            have hshift :
                before ++ e :: (after' ++ [last]) = (before ++ e :: after') ++ [last] := by
              simp
            rw [List.concat_eq_append, hshift] at hsplit
            exact (List.append_inj' hsplit rfl).1
          exact h.sound before e after' hinit

theorem SetupRun.invariant {s : SetupServer} (hrun : SetupRun s) : SetupInvariant s := by
  induction hrun with
  | refl => exact setupInvariant_boot
  | tail _ hstep ih => exact ih.step hstep

/-- In every run of the setup server, started any number of times, whatever the radio hears, the
clients send and `submit_credentials` returns: a scan is answered with the longest prefix that fits
of the strongest networks heard, as a JSON array; a pair is handed over only when the form that
holds it has arrived as a whole, and it is valid and suits the latest list; and each request has one
reply, which says what was done. -/
theorem setupServer_sound {s : SetupServer} (hrun : SetupRun s) {before after : List SetupExchange}
    {e : SetupExchange} (hsplit : s.answered = before ++ e :: after) :
    SoundExchange (latestList before) e :=
  hrun.invariant.sound before e after hsplit

/-- Whatever is heard can be listed. -/
theorem exists_scan (raw : List WifiScanEntry) {records : List WifiApRecord}
    (hlength : records.length ≤ wifiScanRawMax) (maxEntries : UInt16) :
    ∃ entries raw', Ends radio (scanWifiNetworks raw maxEntries) none (some entries, raw')
      (some records) := by
  obtain ⟨kept, rest, hnormalize, -, -⟩ := @normalize_records records (raw.drop records.length)
    (if maxEntries < UInt16.ofNat wifiScanMaxEntries then maxEntries
      else UInt16.ofNat wifiScanMaxEntries) hlength
  refine ⟨(kept ++ rest).take kept.length, kept ++ rest,
    .call (r := EspErr.ok) rfl (.call (r := (EspErr.ok, records)) ⟨hlength, rfl⟩ ?_)⟩
  dsimp only [Prog.bind]
  rw [if_neg (not_not.2 rfl), if_pos rfl, hnormalize]
  exact .ret _ _

theorem SetupRun.scan {s : SetupServer} (hrun : SetupRun s) {records : List WifiApRecord}
    (hlength : records.length ≤ wifiScanRawMax) :
    ∃ t e entries, SetupRun t ∧ t.answered = s.answered ++ [e] ∧ e.request = .scan ∧
      e.heard = some records ∧ e.listed = some entries := by
  obtain ⟨entries, raw', hscan⟩ :=
    exists_scan s.raw hlength (UInt16.ofNat wifiScanMaxEntries)
  have hserve : Ends setupBoard (setupHandler s.state .scan) ⟨s.raw, { request := .scan }⟩ _ _ :=
    .call (r := some entries) ⟨raw', some records, hscan, rfl⟩
      (.call (r := ()) rfl (.ret (scanReply s.state (some entries)).2 _))
  exact ⟨_, _, entries, hrun.tail (.serve .scan hserve), rfl, rfl, rfl, rfl⟩

/-- The length of a body that is not too long for a browser. -/
theorem toInt_contentLen {length : Nat} (hlength : length < 2 ^ 31) :
    (UInt32.ofNat length).toInt32.toInt = length := by
  have hlen : (UInt32.ofNat length).toNat = length := by
    rw [UInt32.toNat_ofNat_of_lt' (by unfold UInt32.size; omega)]
  have hint : (UInt32.ofNat length).toInt32.toInt =
      ((UInt32.ofNat length).toNat : Int).bmod (2 ^ 32) :=
    BitVec.toInt_eq_toNat_bmod (UInt32.ofNat length).toBitVec
  rw [hint, hlen, Int.bmod_def]
  omega

/-- A form that arrives at once. -/
theorem SetupRun.submit {s : SetupServer} (hrun : SetupRun s) {body : List UInt8}
    (hpos : 0 < body.length) (hle : body.length ≤ httpPortalFormMax) {b c : SetupBoard}
    (hb : b = ⟨s.raw, { request := .submit (UInt32.ofNat body.length) body, received := body }⟩)
    (hform : Ends setupBoard (handleForm s.state.entries body) b () c) :
    SetupRun ⟨s.state, c.raw, s.answered ++ [c.exchange]⟩ := by
  subst hb
  have hne : body ≠ [] := List.length_pos_iff.1 hpos
  let request : SetupRequest := .submit (UInt32.ofNat body.length) body
  let started : SetupBoard := ⟨s.raw, { request := request }⟩
  let arrived : SetupBoard := ⟨s.raw, { request := request, received := body }⟩
  have hopen : (false || body.isEmpty) = false := by simpa using hne
  have harrived : started.receive body = arrived := by
    simp only [SetupBoard.receive, started, arrived, hopen, List.nil_append]
  have hreceive : Ends (fun c => setupBoard (.portal c)) (receiveBody body.length [] 0) started
      (some body) arrived := by
    have hcall : setupBoard (.portal (.recv (body.length - 0))) started (RecvResult.data body)
        arrived := ⟨Nat.le_refl _, List.prefix_rfl, harrived.symm⟩
    exact receiveBody_data hpos hne hcall (receiveBody_complete rfl)
  have hhandler : Ends setupBoard (handleSubmitRequest s.state.entries (UInt32.ofNat body.length))
      started () c := by
    unfold handleSubmitRequest
    rw [toInt_contentLen (Nat.lt_of_le_of_lt hle (by decide))]
    dsimp only
    rw [if_neg (by omega), Int.toNat_natCast]
    exact hreceive.embed.bind hform
  have hserve : Ends setupBoard (setupHandler s.state request) started s.state c :=
    hhandler.bind (.ret _ _)
  exact hrun.tail (.serve _ hserve)

/-- A protected network. -/
def homeRecord : WifiApRecord where
  ssid := ByteLayout.field (ascii "home") 0 33
  rssi := -50
  authmode := .authWpa2Psk

/-- A single network is listed. -/
theorem eq_of_lists_home {entries : List WifiScanEntry}
    (h : Lists [homeRecord] wifiScanMaxEntries entries) : entries = [rawEntry homeRecord] := by
  have hall : ∀ entry ∈ entries, entry = rawEntry homeRecord := by
    intro entry hentry
    obtain ⟨record, ⟨hrecord, -⟩, -, rfl⟩ := h.strongest entry hentry
    rw [List.mem_singleton.1 hrecord]
  have hone : entries.length ≤ 1 := by
    have hnodup := h.nodup
    rwa [List.eq_replicate_of_mem hall, List.map_replicate, List.nodup_replicate] at hnodup
  cases entries with
  | nil =>
      have hfull := (h.complete homeRecord List.mem_cons_self (by decide) List.not_mem_nil).1
      exact absurd hfull (by decide)
  | cons entry rest =>
      have hempty : rest.length ≤ 0 := Nat.le_of_succ_le_succ hone
      have hrest : rest = [] := List.length_eq_zero_iff.1 (Nat.le_zero.1 hempty)
      rw [hrest, hall entry List.mem_cons_self]

/-- A scan that hears it. -/
theorem exists_homeScan :
    ∃ s e, SetupRun s ∧ s.answered = [e] ∧ e.request = .scan ∧ e.heard = some [homeRecord] ∧
      e.listed = some [rawEntry homeRecord] ∧ s.state.entries = [rawEntry homeRecord] := by
  have hboot : SetupRun bootSetup := .refl
  obtain ⟨s, e, entries, hrun, hanswered, hrequest, hheard, hlisted⟩ :=
    hboot.scan (by decide : [homeRecord].length ≤ wifiScanRawMax)
  have hentries : s.state.entries = entries := by
    rw [hrun.invariant.entries, hanswered, latestList_snoc, hlisted]
    rfl
  refine ⟨s, e, hrun, hanswered, hrequest, hheard, ?_⟩
  cases hrun.invariant.sound [] e [] hanswered with
  | unavailable _ hnone =>
      rw [hlisted] at hnone
      cases hnone
  | incomplete hsubmit | rejected hsubmit | submitted hsubmit =>
      rw [hrequest] at hsubmit
      cases hsubmit
  | @scanned records entries' n reply _ hheard' hlists hlisted' =>
      obtain rfl := Option.some.inj (hheard'.symm.trans hheard)
      obtain rfl := eq_of_lists_home hlists
      obtain rfl := Option.some.inj (hlisted'.symm.trans hlisted)
      exact ⟨hlisted, hentries⟩

def homeForm : List UInt8 := ascii "ssid=home&password=password1"

def homePair : WifiCredentials := credentialPair (ascii "home") (ascii "password1")

/-- The form for that network, after the scan. -/
theorem exists_homeSubmit {s : SetupServer} (hrun : SetupRun s)
    (hentries : s.state.entries = [rawEntry homeRecord]) :
    ∃ t e, SetupRun t ∧ t.answered = s.answered ++ [e] ∧
      e.request = .submit (UInt32.ofNat homeForm.length) homeForm ∧ e.timeouts = 0 ∧
      e.hasFailed = false ∧ e.handedOver = [(homePair, true)] ∧ e.sent = [connectingReply] := by
  let exchange : SetupExchange :=
    { request := .submit (UInt32.ofNat homeForm.length) homeForm, received := homeForm }
  have hdecode : (decodeSubmission (cString homeForm)).filter
      (validateSubmission · [rawEntry homeRecord]) = some homePair := by decide +kernel
  let b : SetupBoard := ⟨s.raw, exchange⟩
  let c := (b.handOver homePair true).reply connectingReply
  have hform : Ends setupBoard (handleForm s.state.entries homeForm) b () c := by
    rw [hentries, handleForm, hdecode]
    refine .call (r := true) rfl ?_
    rw [Prog.bind, Bool.not_true, if_neg Bool.false_ne_true]
    exact .call (r := ()) rfl (.call (r := ()) rfl (.ret () c))
  exact ⟨_, c.exchange, hrun.submit (by decide) (by decide) rfl hform, rfl, rfl, rfl, rfl, rfl, rfl⟩

theorem setupServer_sound_submit :
    ∃ s scan submit, SetupRun s ∧ s.answered = [scan, submit] ∧ SoundExchange [] scan ∧
      scan.heard = some [homeRecord] ∧ SoundExchange (latestList [scan]) submit ∧
      submit.handedOver = [(homePair, true)] ∧ submit.sent = [connectingReply] := by
  obtain ⟨s, scan, hrun, hanswered, -, hheard, -, hentries⟩ := exists_homeScan
  obtain ⟨t, submit, hrun', hanswered', -, -, -, hhanded, hsent⟩ := exists_homeSubmit hrun hentries
  rw [hanswered] at hanswered'
  have hfirst : s.answered = [] ++ scan :: [] := hanswered
  have hsecond : t.answered = [scan] ++ submit :: [] := hanswered'
  exact ⟨t, scan, submit, hrun', hanswered', setupServer_sound hrun hfirst, hheard,
    setupServer_sound hrun' hsecond, hhanded, hsent⟩

end StripTuner.HttpPortal
