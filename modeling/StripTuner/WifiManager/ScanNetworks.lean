import StripTuner.Esp
import StripTuner.HttpPortal.FormFields
import StripTuner.Lib.Prog
import StripTuner.WifiManager.Normalize

/-!
# A scan

`ScanWifiNetworks()`: the records that the driver has of a scan become entries, of which the
strongest one of each network is returned.
-/

namespace StripTuner.WifiManager

open CredentialStore DeviceCalls DeviceCalls.Prog HttpPortal Ranking

/-! ## The source -/

/-- `WIFI_SCAN_RAW_MAX`. -/
abbrev wifiScanRawMax : Nat := 40

/-- The values of `wifi_auth_mode_t` that the code names. -/
inductive WifiAuthMode where
  | authOpen
  | authWpa2Psk
  | authWpaWpa2Psk
  | authWpa3Psk
  | authWpa2Wpa3Psk
  | other (mode : Nat)
deriving DecidableEq

/-- What the code reads of a `wifi_ap_record_t`. -/
structure WifiApRecord where
  ssid : Vector UInt8 (credentialSsidMax + 1)
  rssi : Int8
  authmode : WifiAuthMode

/-- `IsSupportedAuth()`. -/
def isSupportedAuth (authmode : WifiAuthMode) : Bool :=
  authmode = .authOpen || authmode = .authWpa2Psk || authmode = .authWpaWpa2Psk ||
    authmode = .authWpa3Psk || authmode = .authWpa2Wpa3Psk

/-- What `strncpy()` copies of a name. -/
def apName (record : WifiApRecord) : List UInt8 :=
  (cString record.ssid.toList).take credentialSsidMax

/-- The zeroed entry with a record written into it. -/
def rawEntry (record : WifiApRecord) : WifiScanEntry where
  ssid := ByteLayout.field (apName record) 0 (credentialSsidMax + 1)
  rssiDbm := record.rssi
  isOpen := record.authmode = .authOpen
  isUnsupported := !isSupportedAuth record.authmode

/-- The driver's calls of a scan. -/
inductive ScanCall where
  | scanStart
  | scanGetApRecords (capacity : Nat)

abbrev ScanCall.Answer : ScanCall → Type
  | .scanStart => EspErr
  | .scanGetApRecords _ => EspErr × List WifiApRecord

/-- `ScanWifiNetworks()`, from and to `s_raw_entries`; nothing for -1. -/
def scanWifiNetworks (rawEntries : List WifiScanEntry) (maxEntries : UInt16) :
    Prog ScanCall ScanCall.Answer (Option (List WifiScanEntry) × List WifiScanEntry) := do
  let err ← (perform ScanCall.scanStart : Prog ScanCall ScanCall.Answer EspErr)
  if err ≠ .ok then return (none, rawEntries)
  else do
    let answer ← (perform (ScanCall.scanGetApRecords wifiScanRawMax) :
      Prog ScanCall ScanCall.Answer (EspErr × List WifiApRecord))
    if answer.1 ≠ .ok then return (none, rawEntries)
    else
      let rawEntries := answer.2.map rawEntry ++ rawEntries.drop answer.2.length
      let limit :=
        if maxEntries < UInt16.ofNat wifiScanMaxEntries then maxEntries
        else UInt16.ofNat wifiScanMaxEntries
      match normalizeWifiScanEntries rawEntries (UInt16.ofNat answer.2.length) limit with
      | some (kept, rawEntries) => return (some (rawEntries.take kept), rawEntries)
      | none => return (none, rawEntries)

/-- The driver has at most as many records as it is asked for; the state is the records that it had
last. -/
def radio : Device ScanCall ScanCall.Answer (Option (List WifiApRecord))
  | .scanStart, heard, _, heard' => heard' = heard
  | .scanGetApRecords capacity, heard, answer, heard' =>
    answer.2.length ≤ capacity ∧ heard' = if answer.1 = .ok then some answer.2 else heard

/-! ## The specification -/

/-- No record of the same name is stronger. -/
def Strongest (records : List WifiApRecord) (record : WifiApRecord) : Prop :=
  record ∈ records ∧ ∀ other ∈ records, apName other = apName record → other.rssi ≤ record.rssi

/-- The entries of the strongest networks with a name, strongest first: all of them, or as many as
there may be. -/
structure Lists (records : List WifiApRecord) (limit : Nat) (entries : List WifiScanEntry) :
    Prop where
  descending : entries.Pairwise fun x y => y.rssiDbm ≤ x.rssiDbm
  nodup : (entries.map ssidText).Nodup
  strongest : ∀ entry ∈ entries, ∃ record, Strongest records record ∧ apName record ≠ [] ∧
    rawEntry record = entry
  length_le : entries.length ≤ limit
  complete : ∀ record ∈ records, apName record ≠ [] → apName record ∉ entries.map ssidText →
    entries.length = limit ∧ ∀ entry ∈ entries, record.rssi ≤ entry.rssiDbm

/-! ## Names -/

theorem apName_spec (record : WifiApRecord) :
    0 ∉ apName record ∧ (apName record).length ≤ credentialSsidMax := by
  constructor
  · intro hmem
    have hzero := List.mem_takeWhile_imp (List.mem_of_mem_take hmem)
    simp at hzero
  · rw [apName, List.length_take]
    exact Nat.min_le_left _ _

@[simp] theorem ssidText_rawEntry (record : WifiApRecord) :
    ssidText (rawEntry record) = apName record := by
  obtain ⟨hzero, hlength⟩ := apName_spec record
  have htext := cString_field (n := credentialSsidMax + 1) hzero
  rw [List.take_of_length_le (by omega)] at htext
  exact htext

/-! ## The entries that are returned -/

section Kept

variable {raw sorted : List WifiScanEntry} {limit : Nat}

/-- What the two loops leave in front, of the entries of some records. -/
theorem lists_networks {records : List WifiApRecord}
    (hsorted : IsStableSort signal (records.map rawEntry) sorted) :
    Lists records limit ((networks sorted).take limit) := by
  have hmem : ∀ entry, entry ∈ sorted.filter hasSsid ↔
      (∃ record ∈ records, rawEntry record = entry) ∧ ssidText entry ≠ [] := by
    intro entry
    rw [List.mem_filter, hsorted.mem_iff, hasSsid, decide_eq_true_iff, List.mem_map]
  have hdescending : (sorted.filter hasSsid).Pairwise fun x y => signal y ≤ signal x :=
    hsorted.descending.sublist List.filter_sublist
  have hkept : ((networks sorted).take limit).Sublist (sorted.filter hasSsid) :=
    (List.take_sublist ..).trans firstOfEach_sublist
  refine ⟨(hdescending.sublist hkept).imp signal_le_iff.1,
    nodup_firstOfEach.sublist ((List.take_sublist ..).map ssidText), ?_, List.length_take_le .., ?_⟩
  · intro entry hentry
    obtain ⟨⟨record, hrecord, rfl⟩, hname⟩ := (hmem entry).1 (hkept.subset hentry)
    rw [ssidText_rawEntry] at hname
    refine ⟨record, ⟨hrecord, ?_⟩, hname, rfl⟩
    intro other hother hsame
    have hlisted := (hmem (rawEntry other)).2 ⟨⟨other, hother, rfl⟩, by simpa [hsame] using hname⟩
    exact signal_le_iff.1 (le_of_mem_firstOfEach hdescending (List.mem_of_mem_take hentry) hlisted
      (by simpa using hsame))
  · intro record hrecord hname hcut
    rw [← ssidText_rawEntry record] at hname hcut
    have hlisted := (hmem (rawEntry record)).2 ⟨⟨record, hrecord, rfl⟩, hname⟩
    constructor
    · by_contra hshort
      have hall : (networks sorted).take limit = networks sorted :=
        List.take_of_length_le (by rw [List.length_take] at hshort; omega)
      rw [hall] at hcut
      exact hcut ((map_firstOfEach _).2 (List.mem_map_of_mem hlisted))
    · intro entry hentry
      exact signal_le_iff.1 (le_of_notMem_take hdescending hlisted hcut hentry)

/-- The normalization of the entries of some records, with stale ones behind them. -/
theorem normalize_records {records : List WifiApRecord} {stale : List WifiScanEntry}
    {maxEntries : UInt16} (hlength : records.length ≤ wifiScanRawMax) :
    ∃ kept rest, normalizeWifiScanEntries (records.map rawEntry ++ stale)
        (UInt16.ofNat records.length) maxEntries = some (kept.length, kept ++ rest) ∧
      kept.length + rest.length = records.length + stale.length ∧
      Lists records maxEntries.toNat kept := by
  have hcount : (UInt16.ofNat records.length).toNat = records.length := by
    rw [UInt16.toNat_ofNat_of_lt' (Nat.lt_of_le_of_lt hlength (by decide))]
  have hle : records.length ≤ (records.map rawEntry ++ stale).length := by simp
  obtain ⟨sorted, hsorted, hsortedLength, hsort⟩ := sortEntries_eq hle
  rw [List.take_left' (List.length_map _)] at hsorted
  rw [List.drop_left' (List.length_map _)] at hsort
  obtain ⟨gap, hgap, hcompact⟩ := compactEntries_eq maxEntries.toNat sorted [] [] stale
    (Nat.zero_le _) rfl
  rw [@List.nil_append _ sorted] at hgap hcompact
  rw [hsortedLength] at hcompact hgap
  refine ⟨_, gap ++ stale, ?_, ?_, lists_networks hsorted⟩
  · rw [normalizeWifiScanEntries, hcount, hsort, Option.bind_eq_bind, Option.bind_some]
    exact hcompact
  · rw [List.length_append, ← hgap]
    omega

end Kept

theorem toNat_limit (maxEntries : UInt16) :
    (if maxEntries < UInt16.ofNat wifiScanMaxEntries then maxEntries
      else UInt16.ofNat wifiScanMaxEntries).toNat = min maxEntries.toNat wifiScanMaxEntries := by
  have hlt : maxEntries < UInt16.ofNat wifiScanMaxEntries ↔ maxEntries.toNat < wifiScanMaxEntries :=
    UInt16.lt_iff_toNat_lt
  by_cases h : maxEntries.toNat < wifiScanMaxEntries
  · rw [if_pos (hlt.2 h), Nat.min_eq_left (Nat.le_of_lt h)]
  · rw [if_neg (mt hlt.1 h), Nat.min_eq_right (Nat.not_lt.1 h)]
    rfl

/-- What a call of `ScanWifiNetworks()` returns of what the driver has heard. -/
theorem wp_scanWifiNetworks {raw : List WifiScanEntry} (hraw : raw.length = wifiScanRawMax)
    (maxEntries : UInt16) (heard : Option (List WifiApRecord)) :
    (scanWifiNetworks raw maxEntries).wp radio (fun _ _ => True) (fun result heard' =>
      result.2.length = wifiScanRawMax ∧
        (result.1 = none → heard' = heard) ∧
        ∀ entries, result.1 = some entries → ∃ records, heard' = some records ∧
          Lists records (min maxEntries.toNat wifiScanMaxEntries) entries) heard := by
  unfold scanWifiNetworks
  rw [wp_bind, wp_perform]
  refine ⟨trivial, ?_⟩
  rintro err _ rfl
  by_cases herr : err = .ok
  · rw [if_neg (not_not.2 herr), wp_bind, wp_perform]
    refine ⟨trivial, ?_⟩
    rintro ⟨err, records⟩ _ ⟨hlength, rfl⟩
    by_cases hok : err = .ok
    · obtain ⟨kept, rest, hnormalize, htotal, hlists⟩ := normalize_records hlength
      rw [toNat_limit] at hlists
      rw [if_neg (not_not.2 hok), if_pos hok]
      dsimp only
      rw [hnormalize]
      refine ⟨?_, (fun hnone => by cases hnone), ?_⟩
      · rw [List.length_append, htotal, List.length_drop, hraw]
        exact Nat.add_sub_cancel' hlength
      · rintro entries ⟨⟩
        exact ⟨records, rfl, by rwa [List.take_left]⟩
    · rw [if_pos hok]
      exact ⟨hraw, fun _ => if_neg hok, fun entries hentries => by cases hentries⟩
  · rw [if_pos herr]
    exact ⟨hraw, fun _ => rfl, fun entries hentries => by cases hentries⟩

end StripTuner.WifiManager
