import StripTuner.Lib.Ranking
import StripTuner.WifiManager.Scan

/-!
# The networks in range

`NormalizeWifiScanEntries()` sorts the raw entries in place and then moves those that it keeps to
the front: the strongest entry of each network.
-/

namespace StripTuner.WifiManager

open Ranking

/-! ## The source -/

/-- What `strcmp()` compares of an entry. -/
def ssidText (entry : WifiScanEntry) : List UInt8 := entry.ssid.toList.takeWhile (· ≠ 0)

/-- The entry is moved down while the one before it is weaker. Outside of the array there is
nothing to read. -/
def insertEntry (current : WifiScanEntry) : Nat → List WifiScanEntry → Option (List WifiScanEntry)
  | 0, entries => some (entries.set 0 current)
  | position + 1, entries => do
    let before ← entries[position]?
    if before.rssiDbm < current.rssiDbm then
      insertEntry current position (entries.set (position + 1) before)
    else
      some (entries.set (position + 1) current)

/-- The first loop of `NormalizeWifiScanEntries()`. -/
def sortEntries (entries : List WifiScanEntry) (count : Nat) : Option (List WifiScanEntry) :=
  (List.range' 1 (count - 1)).foldlM (fun entries index => do
    let current ← entries[index]?
    insertEntry current index entries) entries

/-- The second loop, with the number of indices that are left, the index and `kept`. -/
def compactEntries (maxEntries : Nat) :
    Nat → Nat → Nat → List WifiScanEntry → Option (Nat × List WifiScanEntry)
  | 0, _, kept, entries => some (kept, entries)
  | remaining + 1, index, kept, entries =>
    if kept < maxEntries then do
      let entry ← entries[index]?
      if entry.ssid[0] = 0 then
        compactEntries maxEntries remaining (index + 1) kept entries
      else
        let isDuplicate := (entries.take kept).any fun seen => ssidText seen = ssidText entry
        if isDuplicate then
          compactEntries maxEntries remaining (index + 1) kept entries
        else
          compactEntries maxEntries remaining (index + 1) (kept + 1) (entries.set kept entry)
    else some (kept, entries)

/-- `NormalizeWifiScanEntries()`: what it returns, and the array behind it. -/
def normalizeWifiScanEntries (entries : List WifiScanEntry) (count maxEntries : UInt16) :
    Option (Nat × List WifiScanEntry) := do
  let entries ← sortEntries entries count.toNat
  compactEntries maxEntries.toNat count.toNat 0 0 entries

/-! ## Sorting -/

/-- The signal strength that entries are sorted by. -/
def signal (entry : WifiScanEntry) : Int := entry.rssiDbm.toInt

theorem signal_lt_iff {x y : WifiScanEntry} : signal x < signal y ↔ x.rssiDbm < y.rssiDbm :=
  Int8.lt_iff_toInt_lt.symm

theorem signal_le_iff {x y : WifiScanEntry} : signal x ≤ signal y ↔ x.rssiDbm ≤ y.rssiDbm :=
  Int8.le_iff_toInt_le.symm

variable {entries raw sorted rest : List WifiScanEntry}

/-- The entry at the hole goes where the entries before the hole want it. -/
theorem insertEntry_append (current hole : WifiScanEntry) (before rest : List WifiScanEntry) :
    insertEntry current before.length (before ++ hole :: rest) =
      some (insertAfter signal current before ++ rest) := by
  induction before using List.reverseRecOn generalizing hole rest with
  | nil => rfl
  | append_singleton before last ih =>
      have hread : (before ++ [last] ++ hole :: rest)[before.length]? = some last := by simp
      have hset : ∀ entry, (before ++ [last] ++ hole :: rest).set (before.length + 1) entry =
          before ++ last :: entry :: rest := by
        intro entry
        rw [List.append_assoc, List.set_append_right _ _ (by omega)]
        simp
      rw [List.length_append, List.length_singleton, insertEntry, hread, Option.bind_eq_bind,
        Option.bind_some, hset, hset]
      by_cases hweaker : last.rssiDbm < current.rssiDbm
      · rw [if_pos hweaker, ih, insertAfter_concat_of_lt (signal_lt_iff.2 hweaker)]
        simp
      · rw [if_neg hweaker, insertAfter_concat_of_le (not_lt.1 (mt signal_lt_iff.1 hweaker))]
        simp

/-- A few more iterations of the first loop. -/
theorem foldlM_insertEntry (n : Nat) (hsorted : IsStableSort signal raw sorted)
    (hn : n ≤ rest.length) :
    ∃ sorted', IsStableSort signal (raw ++ rest.take n) sorted' ∧
      sorted'.length = sorted.length + n ∧
      (List.range' sorted.length n).foldlM (fun entries index => do
        let current ← entries[index]?
        insertEntry current index entries) (sorted ++ rest) = some (sorted' ++ rest.drop n) := by
  induction n generalizing raw sorted rest with
  | zero => exact ⟨sorted, by simpa using hsorted, rfl, rfl⟩
  | succ n ih =>
      cases rest with
      | nil => simp at hn
      | cons current rest =>
          have hread : (sorted ++ current :: rest)[sorted.length]? = some current := by simp
          have hlength : (insertAfter signal current sorted).length = sorted.length + 1 :=
            length_insertAfter current
          obtain ⟨sorted', hsorted', hlength', hfold⟩ :=
            ih (hsorted.insertAfter current) (Nat.le_of_succ_le_succ hn)
          refine ⟨sorted', ?_, by omega, ?_⟩
          · simpa using hsorted'
          · rw [List.range'_succ, List.foldlM_cons, hread, Option.bind_eq_bind, Option.bind_eq_bind,
              Option.bind_some, insertEntry_append, Option.bind_some, ← hlength,
              List.drop_succ_cons]
            exact hfold

/-- The first loop leaves the stable sort of its entries, and others alone. -/
theorem sortEntries_eq {count : Nat} (h : count ≤ entries.length) :
    ∃ sorted, IsStableSort signal (entries.take count) sorted ∧ sorted.length = count ∧
      sortEntries entries count = some (sorted ++ entries.drop count) := by
  cases count with
  | zero => exact ⟨[], .nil, rfl, rfl⟩
  | succ n =>
      cases entries with
      | nil => simp at h
      | cons first rest =>
          have hfirst : IsStableSort signal [first] [first] := IsStableSort.nil.insertAfter first
          obtain ⟨sorted, hsorted, hlength, hfold⟩ :=
            foldlM_insertEntry n hfirst (Nat.le_of_succ_le_succ h)
          refine ⟨sorted, by simpa using hsorted, ?_, ?_⟩
          · rw [hlength, List.length_singleton, Nat.add_comm]
          · simpa [sortEntries] using hfold

/-! ## Keeping one of each -/

theorem ssidText_eq_nil {entry : WifiScanEntry} : ssidText entry = [] ↔ entry.ssid[0] = 0 := by
  rw [ssidText, List.takeWhile_eq_nil_iff]
  simp

def hasSsid (entry : WifiScanEntry) : Bool := ssidText entry ≠ []

/-- The first entry of each network with a name. -/
def networks (entries : List WifiScanEntry) : List WifiScanEntry :=
  firstOfEach ssidText (entries.filter hasSsid)

theorem networks_concat_of_not_hasSsid {entry : WifiScanEntry} (h : ¬hasSsid entry) :
    networks (entries ++ [entry]) = networks entries := by
  simp [networks, h]

theorem networks_concat_of_hasSsid {entry : WifiScanEntry} (h : hasSsid entry) :
    networks (entries ++ [entry]) =
      if ∃ seen ∈ networks entries, ssidText seen = ssidText entry then networks entries
      else networks entries ++ [entry] := by
  have hseen : (∃ seen ∈ networks entries, ssidText seen = ssidText entry) ↔
      ssidText entry ∈ (entries.filter hasSsid).map ssidText := by
    rw [← map_firstOfEach, List.mem_map]
    rfl
  have hfilter : (entries ++ [entry]).filter hasSsid = entries.filter hasSsid ++ [entry] := by
    simp [h]
  by_cases hmem : ssidText entry ∈ (entries.filter hasSsid).map ssidText
  · rw [if_pos (hseen.2 hmem), networks, hfilter, firstOfEach_concat_of_mem hmem, networks]
  · rw [if_neg (mt hseen.1 hmem), networks, hfilter, firstOfEach_concat_of_notMem hmem, networks]

theorem isPrefix_networks (entries rest : List WifiScanEntry) :
    networks entries <+: networks (entries ++ rest) := by
  rw [networks, networks, List.filter_append, firstOfEach_append]
  exact List.prefix_append ..

/-- The second loop, where it has seen some entries and kept the first of each network. What it
overwrites is not behind the index, so the entries to come are still those of the sorted array. -/
theorem compactEntries_eq (maxEntries : Nat) (rest seen gap tail : List WifiScanEntry)
    (hlimit : (networks seen).length ≤ maxEntries)
    (hgap : (networks seen).length + gap.length = seen.length) :
    ∃ gap', ((networks (seen ++ rest)).take maxEntries).length + gap'.length =
        (seen ++ rest).length ∧
      compactEntries maxEntries rest.length seen.length (networks seen).length
        (networks seen ++ (gap ++ (rest ++ tail))) =
          some (((networks (seen ++ rest)).take maxEntries).length,
            (networks (seen ++ rest)).take maxEntries ++ (gap' ++ tail)) := by
  induction rest generalizing seen gap with
  | nil =>
      refine ⟨gap, ?_, ?_⟩
      · rw [List.append_nil, List.take_of_length_le hlimit, hgap]
      · rw [List.append_nil, List.take_of_length_le hlimit]
        rfl
  | cons entry rest ih =>
      have hlength : (seen ++ [entry]).length = seen.length + 1 := by simp
      have hassoc : seen ++ entry :: rest = seen ++ [entry] ++ rest := by simp
      by_cases hroom : (networks seen).length < maxEntries
      · have hread : (networks seen ++ (gap ++ (entry :: rest ++ tail)))[seen.length]? =
            some entry := by
          rw [← List.append_assoc, List.getElem?_append_right (by simp [hgap])]
          simp [hgap]
        have hskip : networks (seen ++ [entry]) = networks seen →
            ∃ gap', ((networks (seen ++ entry :: rest)).take maxEntries).length + gap'.length =
              (seen ++ entry :: rest).length ∧
            compactEntries maxEntries rest.length (seen.length + 1) (networks seen).length
              (networks seen ++ (gap ++ (entry :: rest ++ tail))) =
                some (((networks (seen ++ entry :: rest)).take maxEntries).length,
                  (networks (seen ++ entry :: rest)).take maxEntries ++ (gap' ++ tail)) := by
          intro hsame
          have hnext := ih (seen ++ [entry]) (gap ++ [entry]) (by rwa [hsame])
            (by rw [hsame, List.length_append, hlength, List.length_singleton]; omega)
          rw [hsame, hlength, ← hassoc] at hnext
          simpa using hnext
        rw [List.length_cons, compactEntries, if_pos hroom, hread, Option.bind_eq_bind,
          Option.bind_some]
        by_cases hempty : entry.ssid[0] = 0
        · rw [if_pos hempty]
          exact hskip (networks_concat_of_not_hasSsid (by simp [hasSsid, ssidText_eq_nil, hempty]))
        · rw [if_neg hempty, List.take_left]
          have hconcat := @networks_concat_of_hasSsid seen entry (by simp [hasSsid, ssidText_eq_nil, hempty])
          by_cases hduplicate : ∃ kept ∈ networks seen, ssidText kept = ssidText entry
          · rw [if_pos hduplicate] at hconcat
            rw [if_pos (by simpa using hduplicate)]
            exact hskip hconcat
          · rw [if_neg hduplicate] at hconcat
            rw [if_neg (by simpa using hduplicate)]
            -- the entry goes to the front of the gap, which gets one longer at its end
            have hset : (networks seen ++ (gap ++ (entry :: rest ++ tail))).set
                (networks seen).length entry =
                  networks (seen ++ [entry]) ++ ((gap ++ [entry]).tail ++ (rest ++ tail)) := by
              rw [List.set_append_right _ _ le_rfl, Nat.sub_self, hconcat]
              cases gap <;> simp
            have hkept : (networks (seen ++ [entry])).length = (networks seen).length + 1 := by
              rw [hconcat, List.length_append, List.length_singleton]
            have hnext := ih (seen ++ [entry]) (gap ++ [entry]).tail (by omega)
              (by rw [hkept, hlength, List.length_tail, List.length_append, List.length_singleton]
                  omega)
            rw [hlength, ← hassoc, hkept] at hnext
            rw [hset]
            exact hnext
      · have hfull : (networks (seen ++ entry :: rest)).take maxEntries = networks seen := by
          have hmax : maxEntries = (networks seen).length := by omega
          rw [hmax, ← List.prefix_iff_eq_take.1 (isPrefix_networks seen (entry :: rest))]
        refine ⟨gap ++ entry :: rest, ?_, ?_⟩
        · rw [hfull, List.length_append, List.length_append]
          omega
        · rw [List.length_cons, compactEntries, if_neg hroom, hfull]
          simp

theorem length_networks (h : IsStableSort signal entries sorted) :
    (networks sorted).length = ((entries.map ssidText).toFinset.erase []).card := by
  rw [networks, length_firstOfEach]
  congr 1
  ext text
  simp only [hasSsid, List.mem_toFinset, List.mem_map, List.mem_filter, Finset.mem_erase, h.mem_iff]
  grind

/-- The two loops never leave the array: its front is the strongest entries of the networks in
range, strongest first, as many as there are or as are asked for. -/
theorem normalizeWifiScanEntries_spec (entries : List WifiScanEntry) (count maxEntries : UInt16)
    (hcount : count.toNat ≤ entries.length) :
    ∃ sorted kept gap,
      IsStableSort signal (entries.take count.toNat) sorted ∧
      (∀ other, IsStableSort signal (entries.take count.toNat) other → other = sorted) ∧
      normalizeWifiScanEntries entries count maxEntries =
        some (kept.length, kept ++ gap ++ entries.drop count.toNat) ∧
      kept.length + gap.length = count.toNat ∧
      kept = (firstOfEach ssidText (sorted.filter (ssidText · ≠ []))).take maxEntries.toNat ∧
      kept.length = min maxEntries.toNat
        (((entries.take count.toNat).map ssidText).toFinset.erase []).card ∧
      kept.Pairwise (fun x y => y.rssiDbm ≤ x.rssiDbm) ∧ (kept.map ssidText).Nodup ∧
      (∀ entry ∈ kept, ssidText entry ≠ [] ∧ entry ∈ entries.take count.toNat ∧
        ∀ other ∈ entries.take count.toNat, ssidText other = ssidText entry →
          other.rssiDbm ≤ entry.rssiDbm) ∧
      (∀ other ∈ entries.take count.toNat, ssidText other ≠ [] →
        ssidText other ∉ kept.map ssidText → ∀ entry ∈ kept, other.rssiDbm ≤ entry.rssiDbm) := by
  obtain ⟨sorted, hsorted, hlength, hsort⟩ := sortEntries_eq hcount
  obtain ⟨gap, hgap, hcompact⟩ := compactEntries_eq maxEntries.toNat sorted [] []
    (entries.drop count.toNat) (Nat.zero_le _) rfl
  rw [@List.nil_append _ sorted] at hgap hcompact
  have hdescending : (sorted.filter hasSsid).Pairwise fun x y => signal y ≤ signal x :=
    hsorted.descending.sublist List.filter_sublist
  have hmem : ∀ entry, entry ∈ sorted.filter hasSsid ↔
      entry ∈ entries.take count.toNat ∧ ssidText entry ≠ [] := by
    intro entry
    rw [List.mem_filter, hsorted.mem_iff, hasSsid, decide_eq_true_iff]
  have hkept : ((networks sorted).take maxEntries.toNat).Sublist (sorted.filter hasSsid) :=
    (List.take_sublist ..).trans firstOfEach_sublist
  refine ⟨sorted, _, gap, hsorted, fun other hother => hother.unique hsorted, ?_,
    hgap.trans hlength, rfl, ?_, ?_, ?_, ?_, ?_⟩
  · rw [hlength] at hcompact
    rw [normalizeWifiScanEntries, hsort, Option.bind_eq_bind, Option.bind_some, List.append_assoc]
    exact hcompact
  · rw [List.length_take, ← length_networks hsorted]
  · exact (hdescending.sublist hkept).imp signal_le_iff.1
  · exact nodup_firstOfEach.sublist ((List.take_sublist ..).map ssidText)
  · intro entry hentry
    obtain ⟨hraw, hname⟩ := (hmem entry).1 (hkept.subset hentry)
    refine ⟨hname, hraw, ?_⟩
    intro other hother hsame
    apply signal_le_iff.1
    exact le_of_mem_firstOfEach hdescending (List.mem_of_mem_take hentry)
      ((hmem other).2 ⟨hother, hsame ▸ hname⟩) hsame
  · intro other hother hname hcut entry hentry
    apply signal_le_iff.1
    exact le_of_notMem_take hdescending ((hmem other).2 ⟨hother, hname⟩) hcut hentry

/-- An open network with a name of at most one letter. -/
def openNetwork (letter : UInt8) (rssiDbm : Int8) : WifiScanEntry where
  ssid := (Vector.replicate 33 0).set 0 letter
  rssiDbm := rssiDbm
  isOpen := true
  isUnsupported := false

/-- A network twice, one without a name, and another one. -/
theorem normalizeWifiScanEntries_spec_twice : ∃ kept gap,
    normalizeWifiScanEntries
      [openNetwork 0x41 (-70), openNetwork 0 (-30), openNetwork 0x41 (-40), openNetwork 0x42 (-60)]
      4 20 = some (2, kept ++ gap) ∧ kept.length = 2 ∧ (kept.map ssidText).Nodup := by
  obtain ⟨sorted, kept, gap, -, -, heq, -, -, hlength, -, hnodup, -⟩ :=
    normalizeWifiScanEntries_spec [openNetwork 0x41 (-70), openNetwork 0 (-30),
      openNetwork 0x41 (-40), openNetwork 0x42 (-60)] 4 20 (by decide)
  have htwo : kept.length = 2 := hlength.trans (by decide)
  rw [htwo, List.append_assoc] at heq
  exact ⟨kept, _, heq, htwo, hnodup⟩

end StripTuner.WifiManager
