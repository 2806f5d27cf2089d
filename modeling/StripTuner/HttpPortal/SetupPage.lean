import StripTuner.HttpPortal.SetupServer
import StripTuner.Lib.SearchParams
import StripTuner.Lib.Utf8

/-!
# The setup page

What the script of `s_page` makes of a scan, and what it sends for a selected network: the network
and the password get to `submit_credentials` as the radio heard the one and the user typed the
other.
-/

namespace StripTuner.HttpPortal

open CredentialStore DeviceCalls DeviceCalls.Prog FwMeta Json UrlEncoded WifiManager

/-! ## The script -/

/-- An `Option` of the list. -/
structure SetupOption where
  text : String
  value : String
  isDisabled : Bool

/-- The option for an element of the scan. The browser decodes the reply, so that a name that is no
UTF-8 is shown and sent with replacement characters. -/
def setupOption : Value → Option SetupOption
  | .object members =>
    match members.lookup (ascii "ssid"), members.lookup (ascii "rssi"),
      members.lookup (ascii "open"), members.lookup (ascii "uns") with
    | some (.string ssid), some (.number rssi 0), some (.bool isOpen), some (.bool isUnsupported) =>
      some
        { text := Utf8.decode ssid ++ " (" ++ toString rssi ++ " dBm)" ++
            (if isOpen then " open" else "") ++ if isUnsupported then " - not supported" else ""
          value := Utf8.decode ssid
          isDisabled := isUnsupported }
    | _, _, _, _ => none
  | _ => none

/-- The options of a scan. -/
def setupOptions : Value → List SetupOption
  | .array elements => elements.filterMap setupOption
  | _ => []

/-- The body of `onsubmit`, with the value of the selected option. -/
def submitBody (value password : String) : List UInt8 :=
  form [field (ascii "ssid") (SearchParams.encode (Utf8.encode value)),
    field (ascii "password") (SearchParams.encode (Utf8.encode password))]

/-! ## What the server reads -/

section Body

variable {value password : String}

theorem encodesPair_submitBody (value password : String) :
    EncodesPair (Utf8.encode value) (Utf8.encode password) [] (submitBody value password) := by
  have hssid := SearchParams.encodes_encode (Utf8.encode value)
  have hpassword := SearchParams.encodes_encode (Utf8.encode password)
  exact @EncodesPair.ssidFirst _ _ [] [] [] _ _ hssid hpassword

/-- No byte of the body ends it. -/
theorem cString_submitBody (value password : String) :
    cString (submitBody value password) = submitBody value password := by
  have hzero : 0 ∉ submitBody value password := by
    have hfield (name : List UInt8) (text : String) (hname : 0 ∉ name) :
        0 ∉ field name (SearchParams.encode (Utf8.encode text)) := by
      rw [field, List.mem_append, List.mem_cons, not_or, not_or]
      exact ⟨hname, by decide, SearchParams.zero_notMem_encode _⟩
    have hform : submitBody value password =
        field (ascii "ssid") (SearchParams.encode (Utf8.encode value)) ++ ampersand ::
          field (ascii "password") (SearchParams.encode (Utf8.encode password)) := by
      simp [submitBody, form, List.intercalate]
    rw [hform, List.mem_append, List.mem_cons, not_or, not_or]
    exact ⟨hfield _ _ (by decide), by decide, hfield _ _ (by decide)⟩
  rw [cString, List.takeWhile_eq_self_iff]
  intro byte hbyte
  rw [decide_eq_true_eq]
  rintro rfl
  exact hzero hbyte

/-- A field of the body holds what was put in, if it has room for it. -/
theorem getFormField_submitBody {name bytes text : List UInt8} {room : Nat}
    (hname : 0 < name.length ∧ name.length < formNameMax)
    (hfirst : firstText name (submitBody value password) = some text)
    (hencodes : Encodes bytes text) {typed : List UInt8} :
    getFormField (cString (submitBody value password)) name (room + 1) = some typed ↔
      (0 ∉ bytes ∧ bytes.length ≤ room) ∧ typed = bytes := by
  rw [cString_submitBody, getFormField_eq_some_iff hname]
  constructor
  · rintro ⟨text', htext, hencodes', hzero, hlt⟩
    obtain rfl := Option.some.inj (hfirst.symm.trans htext)
    obtain rfl := hencodes'.unique hencodes
    exact ⟨⟨hzero, Nat.le_of_lt_succ hlt⟩, rfl⟩
  · rintro ⟨⟨hzero, hle⟩, rfl⟩
    exact ⟨text, hfirst, hencodes, hzero, Nat.lt_succ_of_le hle⟩

/-- The pair that the body decodes to. -/
theorem decodeSubmission_submitBody {pair : WifiCredentials} :
    decodeSubmission (cString (submitBody value password)) = some pair ↔
      (0 ∉ Utf8.encode value ∧ (Utf8.encode value).length ≤ credentialSsidMax) ∧
        (0 ∉ Utf8.encode password ∧ (Utf8.encode password).length ≤ credentialPasswordMax) ∧
        pair = credentialPair (Utf8.encode value) (Utf8.encode password) := by
  obtain ⟨ssidText, passwordText, hssid, hpass, hfirst, hsecond⟩ :=
    (encodesPair_submitBody value password).firstText (fun _ h => absurd h List.not_mem_nil)
  have hvalue {typed : List UInt8} := @getFormField_submitBody value password _ _ _
    credentialSsidMax (by decide) hfirst hssid typed
  have htyped {typed : List UInt8} := @getFormField_submitBody value password _ _ _
    credentialPasswordMax (by decide) hsecond hpass typed
  unfold decodeSubmission
  cases hname : getFormField (cString (submitBody value password)) (ascii "ssid")
      (credentialSsidMax + 1) with
  | none =>
      refine iff_of_false nofun ?_
      rintro ⟨hroom, -⟩
      rw [hvalue.2 ⟨hroom, rfl⟩] at hname
      cases hname
  | some name =>
      obtain ⟨hroom, rfl⟩ := hvalue.1 hname
      dsimp only
      cases hfield : getFormField (cString (submitBody value password)) (ascii "password")
          (credentialPasswordMax + 1) with
      | none =>
          refine iff_of_false nofun ?_
          rintro ⟨-, hroom', -⟩
          rw [htyped.2 ⟨hroom', rfl⟩] at hfield
          cases hfield
      | some typed =>
          obtain ⟨hroom', rfl⟩ := htyped.1 hfield
          dsimp only
          rw [Option.some.injEq, eq_comm, and_iff_right hroom, and_iff_right hroom']

end Body

/-! ## From the radio to the pair -/

/-- The page shows this option: it is one of the latest list that the server has sent. -/
structure Shows (before : List SetupExchange) (records : List WifiApRecord)
    (option : SetupOption) : Prop where
  scanned : ∃ older scan newer reply value, before = older ++ scan :: newer ∧
    scan.request = .scan ∧ scan.heard = some records ∧ scan.sent = [reply] ∧
    reply.status = "200 OK" ∧ Denotes reply.body value ∧ option ∈ setupOptions value ∧
    ∀ e ∈ newer, e.listed = none

theorem setupOption_entryValue {entry : WifiScanEntry} {option : SetupOption}
    (h : setupOption (entryValue entry) = some option) :
    option.value = Utf8.decode (entryName entry) ∧ option.isDisabled = entry.isUnsupported := by
  have hread : setupOption (entryValue entry) = some _ := rfl
  obtain rfl := Option.some.inj (hread.symm.trans h)
  exact ⟨rfl, rfl⟩

theorem latestList_append_of_none {older newer : List SetupExchange} {scan : SetupExchange}
    {entries : List WifiScanEntry} (hlisted : scan.listed = some entries)
    (hnone : ∀ e ∈ newer, e.listed = none) :
    latestList (older ++ scan :: newer) = entries := by
  have hnewer : newer.filterMap SetupExchange.listed = [] :=
    List.filterMap_eq_nil_iff.2 hnone
  unfold latestList
  rw [List.filterMap_append, List.filterMap_cons_some hlisted, hnewer]
  simp

/-- An option stands for the strongest record of its network. -/
theorem Shows.strongest {s : SetupServer} (hrun : SetupRun s) {before rest : List SetupExchange}
    (hsplit : s.answered = before ++ rest) {records : List WifiApRecord} {option : SetupOption}
    (h : Shows before records option) :
    Lists records wifiScanMaxEntries (latestList before) ∧
      ∃ record, Strongest records record ∧ rawEntry record ∈ latestList before ∧
        option.value = Utf8.decode (apName record) ∧
        option.isDisabled = !isSupportedAuth record.authmode := by
  obtain ⟨older, scan, newer, reply, value, rfl, hscan, hheard, hsent, hstatus, hdenotes, hoption,
    hnone⟩ := h.scanned
  rw [List.append_assoc, List.cons_append] at hsplit
  have hsound := hrun.invariant.sound older scan (newer ++ rest) hsplit
  cases hsound with
  | unavailable _ _ _ hunavailable =>
      rw [hsent] at hunavailable
      obtain rfl := List.singleton_inj.1 hunavailable
      exact absurd hstatus (by decide)
  | incomplete hrequest | rejected hrequest | submitted hrequest =>
      rw [hscan] at hrequest
      cases hrequest
  | @scanned records' entries n reply' _ hheard' hlists hlisted _ hsent' _ hvalues _ =>
      obtain rfl := Option.some.inj (hheard'.symm.trans hheard)
      obtain rfl := List.singleton_inj.1 (hsent'.symm.trans hsent)
      rw [latestList_append_of_none hlisted hnone]
      refine ⟨hlists, ?_⟩
      obtain rfl := (hvalues value).1 hdenotes
      obtain ⟨element, helement, hread⟩ := List.mem_filterMap.1 hoption
      obtain ⟨entry, hentry, rfl⟩ := List.mem_map.1 helement
      obtain ⟨hname, hdisabled⟩ := setupOption_entryValue hread
      have hmem := List.mem_of_mem_take hentry
      obtain ⟨record, hstrongest, -, rfl⟩ := hlists.strongest entry hmem
      have hentryName : entryName (rawEntry record) = apName record := ssidText_rawEntry record
      exact ⟨record, hstrongest, hmem, hentryName ▸ hname, hdisabled⟩

/-- The password fits the network: there is none for an open one, and one for any other. -/
def Fits (record : WifiApRecord) (password : String) : Prop :=
  record.authmode = .authOpen ↔ Utf8.encode password = []

/-- The network can be joined with this password. -/
structure Joinable (record : WifiApRecord) (password : String) : Prop where
  valid : isCredentialsValid (credentialPair (apName record) (Utf8.encode password)) = true
  supported : isSupportedAuth record.authmode = true
  fits : Fits record password

/-- A listed network suits its pair exactly with a password that fits. -/
theorem suits_iff {records : List WifiApRecord} {listed : List WifiScanEntry} {limit : Nat}
    (hlists : Lists records limit listed) {record : WifiApRecord} (hmem : rawEntry record ∈ listed)
    {value password : String} (hname : apName record = Utf8.encode value)
    (hpassword : 0 ∉ Utf8.encode password)
    (hlength : (Utf8.encode password).length ≤ credentialPasswordMax) :
    Suits listed (credentialPair (Utf8.encode value) (Utf8.encode password)) ↔
      isSupportedAuth record.authmode = true ∧ Fits record password := by
  obtain ⟨hzero, hshort⟩ := apName_spec record
  have hssid : cString (credentialPair (Utf8.encode value) (Utf8.encode password)).ssid.toList =
      ssidText (rawEntry record) := by
    rw [ssidText_rawEntry, ← hname]
    exact (cString_field hzero).trans (List.take_of_length_le (by omega))
  have htyped : cString (credentialPair (Utf8.encode value) (Utf8.encode password)).password.toList =
      Utf8.encode password :=
    (cString_field hpassword).trans (List.take_of_length_le (by omega))
  have hiff : ((rawEntry record).isUnsupported = false ∧
      ((rawEntry record).isOpen = true ↔ Utf8.encode password = [])) ↔
        isSupportedAuth record.authmode = true ∧ Fits record password := by
    simp [rawEntry, Fits]
  rw [← hiff]
  constructor
  · intro h
    have hknown := h.known (rawEntry record) hmem hssid.symm
    rwa [htyped] at hknown
  · intro h
    refine ⟨fun entry hentry hsame => ?_, fun hunknown => ?_⟩
    · obtain rfl := List.inj_on_of_nodup_map hlists.nodup hentry hmem (hsame.trans hssid)
      rwa [htyped]
    · rw [hssid] at hunknown
      exact absurd (List.mem_map_of_mem hmem) hunknown

/-- What has arrived of a request is what was sent. -/
theorem HasForm.whole {e : SetupExchange} {body : List UInt8} (hlength : body.length < 2 ^ 31)
    (hrequest : e.request = .submit (UInt32.ofNat body.length) body)
    (hform : HasForm e (UInt32.ofNat body.length)) : e.received = body := by
  have hlen : (UInt32.ofNat body.length).toNat = body.length := by
    rw [UInt32.toNat_ofNat_of_lt' (by unfold UInt32.size; omega)]
  have hreceived := hform.received.1
  rw [hrequest, hlen] at hreceived
  exact hreceived.trans List.take_length

/-- A form that has arrived is only refused for its length if it is too long. -/
theorem LacksForm.long {e : SetupExchange} {body : List UInt8} (hlength : body.length < 2 ^ 31)
    (hpos : 0 < body.length) (harrived : e.timeouts ≤ httpPortalRecvRetries ∧ e.hasFailed = false)
    (h : LacksForm e (UInt32.ofNat body.length)) : httpPortalFormMax < body.length := by
  rcases h with hbound | hlate | hfailed
  · rw [toInt_contentLen hlength] at hbound
    omega
  · omega
  · rw [harrived.2] at hfailed
    cases hfailed

/-- A pair is only handed over if the body decodes to it. -/
theorem SoundExchange.decodes {listed : List WifiScanEntry} {e : SetupExchange}
    (h : SoundExchange listed e) {body : List UInt8} (hlength : body.length < 2 ^ 31)
    (hrequest : e.request = .submit (UInt32.ofNat body.length) body) {pair : WifiCredentials}
    {isStarted : Bool} (hhanded : (pair, isStarted) ∈ e.handedOver) :
    decodeSubmission (cString body) = some pair := by
  cases h with
  | unavailable _ _ hnone | scanned _ _ _ _ hnone | incomplete _ _ _ hnone
  | rejected _ _ _ _ hnone =>
      rw [hnone] at hhanded
      cases hhanded
  | submitted hsame _ hform hpair _ _ hone =>
      rw [hrequest] at hsame
      cases hsame
      rw [hform.whole hlength hrequest] at hpair
      rw [hone, List.mem_singleton] at hhanded
      obtain ⟨rfl, rfl⟩ := Prod.mk.inj hhanded
      exact hpair

def homeOption : SetupOption := ⟨"home (-50 dBm)", "home", false⟩

theorem setupOption_home : setupOption (entryValue (rawEntry homeRecord)) = some homeOption := by
  have hname : entryName (rawEntry homeRecord) = Utf8.encode "home" := by decide +kernel
  have hread : setupOption (entryValue (rawEntry homeRecord)) = some _ := rfl
  rw [hread, hname, Utf8.decode_encode]
  rfl

theorem exists_shown :
    ∃ s e, SetupRun s ∧ s.answered = [e] ∧ s.state.entries = [rawEntry homeRecord] ∧
      Shows [e] [homeRecord] homeOption := by
  obtain ⟨s, e, hrun, hanswered, hrequest, hheard, hlisted, hentries⟩ := exists_homeScan
  refine ⟨s, e, hrun, hanswered, hentries, ?_⟩
  cases hrun.invariant.sound [] e [] hanswered with
  | unavailable _ hnone =>
      rw [hlisted] at hnone
      cases hnone
  | incomplete hsubmit | rejected hsubmit | submitted hsubmit =>
      rw [hrequest] at hsubmit
      cases hsubmit
  | @scanned _ entries n reply _ _ _ hlisted' _ hsent hstatus hvalues hlongest =>
      obtain rfl := Option.some.inj (hlisted.symm.trans hlisted')
      have hone : 1 ≤ n := hlongest 1 (Nat.le_refl 1) (by decide)
      rw [List.take_of_length_le hone] at hvalues
      exact ⟨[], e, [], reply, _, rfl, hrequest, hheard, hsent, hstatus, (hvalues _).2 rfl,
        List.mem_filterMap.2 ⟨_, List.mem_cons_self, setupOption_home⟩, nofun⟩

end StripTuner.HttpPortal
