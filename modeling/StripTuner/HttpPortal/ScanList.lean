import StripTuner.HttpPortal.Setup
import StripTuner.Lib.Json

/-!
# The scan list

The body that `HandleScanRequest()` sends is the longest prefix of the scan that fits the buffer, as
a JSON array, whatever bytes the names of the networks consist of.
-/

namespace StripTuner.HttpPortal

open ByteMemory CredentialStore Hexadecimal Json WifiManager

/-! ## The specification -/

/-- The name of a network. -/
def entryName (entry : WifiScanEntry) : List UInt8 := cString entry.ssid.toList

/-- An entry of the list that the page reads. -/
def entryValue (entry : WifiScanEntry) : Value :=
  .object [(ascii "ssid", .string (entryName entry)),
    (ascii "rssi", .number entry.rssiDbm.toInt 0), (ascii "open", .bool entry.isOpen),
    (ascii "uns", .bool entry.isUnsupported)]

/-- The entries from an index on, with their commas. -/
def entriesText : Nat → List WifiScanEntry → List UInt8
  | _, [] => []
  | index, entry :: entries =>
    entryText index ((entryName entry).flatMap escapeCharacter) entry ++
      entriesText (index + 1) entries

/-- The text of a whole list. -/
def listText (entries : List WifiScanEntry) : List UInt8 := 0x5B :: (entriesText 0 entries ++ [0x5D])

/-- A byte that a page may hold as it is: no control character, and none of `<`, `>`, `&`, `'`. -/
def isHarmless (byte : UInt8) : Bool :=
  0x20 ≤ byte && byte ≠ 0x3C && byte ≠ 0x3E && byte ≠ 0x26 && byte ≠ 0x27

/-! ## Escaping -/

section Escaping

variable {bytes text rest : List UInt8}

theorem hexValue_hexDigits : ∀ n < 16, hexValue (hexDigits.getD n 0) = some n := by decide

/-- The two halves of a byte. -/
theorem toNat_halves (byte : UInt8) : (byte >>> 4).toNat = byte.toNat / 16 ∧
    (byte &&& 0x0F).toNat = byte.toNat % 16 := by
  have hmask : (0x0F : UInt8).toNat = 2 ^ 4 - 1 := by decide
  have hshift : (4 : UInt8).toNat % 8 = 4 := by decide
  constructor
  · rw [UInt8.toNat_shiftRight, hshift, Nat.shiftRight_eq_div_pow]
  · rw [UInt8.toNat_and, hmask, Nat.and_two_pow_sub_one_eq_mod]

theorem needsUnicode_lt {byte : UInt8} (h : needsUnicode byte = true) : byte.toNat < 0x80 := by
  simp only [needsUnicode, Bool.or_eq_true, decide_eq_true_eq] at h
  rcases h with (((hlt | rfl) | rfl) | rfl) | rfl
  · have hnat := UInt8.lt_iff_toNat_lt.1 hlt
    have hspace : (0x20 : UInt8).toNat = 32 := by decide
    omega
  · decide
  · decide
  · decide
  · decide

/-- An escaped byte is read back. -/
theorem readsString_escapeCharacter (byte : UInt8) (h : ReadsString bytes text rest) :
    ReadsString (byte :: bytes) (escapeCharacter byte ++ text) rest := by
  rw [escapeCharacter]
  by_cases hunicode : needsUnicode byte = true
  · have hlt := needsUnicode_lt hunicode
    obtain ⟨hhigh, hlow⟩ := toNat_halves byte
    have hword : hexWord 0x30 0x30 (hexDigits.getD (byte >>> 4).toNat 0)
        (hexDigits.getD (byte &&& 0x0F).toNat 0) = some byte.toNat := by
      have hzero : hexValue 0x30 = some 0 := by decide
      have hhigh' := hexValue_hexDigits (byte.toNat / 16) (by omega)
      have hlow' := hexValue_hexDigits (byte.toNat % 16) (by omega)
      rw [hexWord, hzero, hhigh, hlow, hhigh', hlow']
      exact congrArg some (by omega)
    have hbyte : utf8 byte.toNat = [byte] := by
      rw [utf8, if_pos hlt, Nat.toUInt8, UInt8.ofNat_toNat]
    have hreads := ReadsString.unicode hword (by omega) h
    rw [hbyte] at hreads
    rw [if_pos hunicode]
    exact hreads
  · rw [if_neg hunicode]
    by_cases hescape : byte = 0x22 ∨ byte = 0x5C
    · rw [if_pos hescape]
      rcases hescape with rfl | rfl
      · exact .escape rfl h
      · exact .escape rfl h
    · rw [if_neg hescape]
      rw [not_or] at hescape
      refine .plain ?_ hescape.1 hescape.2 h
      simp only [needsUnicode, Bool.or_eq_true, decide_eq_true_eq, not_or] at hunicode
      exact UInt8.not_lt.1 hunicode.1.1.1.1

theorem readsString_escape (bytes rest : List UInt8) :
    ReadsString bytes (bytes.flatMap escapeCharacter ++ quote :: rest) rest := by
  induction bytes with
  | nil => exact .close
  | cons byte bytes ih =>
      rw [List.flatMap_cons, List.append_assoc]
      exact readsString_escapeCharacter byte ih

theorem length_escapeCharacter (byte : UInt8) :
    1 ≤ (escapeCharacter byte).length ∧ (escapeCharacter byte).length ≤ 6 := by
  have hstart : (ascii "\\u00").length = 4 := by decide
  rw [escapeCharacter]
  split
  · simp [hstart]
  · split
    · simp
    · simp

theorem length_escape (bytes : List UInt8) :
    bytes.length ≤ (bytes.flatMap escapeCharacter).length ∧
      (bytes.flatMap escapeCharacter).length ≤ 6 * bytes.length := by
  induction bytes with
  | nil => simp
  | cons byte bytes ih =>
      have hbyte := length_escapeCharacter byte
      rw [List.flatMap_cons, List.length_append, List.length_cons]
      omega

/-- With six bytes of room for each byte, nothing is too long. -/
theorem escapeLoop_eq {size : Nat} {input output : List UInt8}
    (h : output.length + 6 * input.length < size) :
    escapeLoop size input output = output ++ input.flatMap escapeCharacter := by
  induction input generalizing output with
  | nil => rw [escapeLoop, if_neg (by omega), List.flatMap_nil, List.append_nil]
  | cons byte input ih =>
      have hbyte := length_escapeCharacter byte
      rw [List.length_cons] at h
      rw [escapeLoop, if_neg (by omega), ih (by rw [List.length_append]; omega), List.flatMap_cons,
        List.append_assoc]

theorem escapeJsonString_eq {size : Nat} {input : List UInt8} (h : 6 * input.length < size) :
    escapeJsonString input size = input.flatMap escapeCharacter := by
  rw [escapeJsonString, escapeLoop_eq (by simpa using h), List.nil_append]

end Escaping

/-! ## One entry -/

section Entry

variable {rest : List UInt8}

/-- A signal strength is read back. -/
theorem reads_formatInt (x : Int) (rest : List UInt8) :
    Reads (.value (.number x 0)) (formatInt x ++ comma :: rest) (comma :: rest) := by
  have hdigits (n : Nat) : ∀ b ∈ Decimal.digits n, isNumberByte b = true := by
    intro b hb
    have hdigit := List.all_eq_true.1 (Decimal.all_isDigit_digits n) b hb
    rw [isNumberByte, hdigit]
    rfl
  have hcomma : isNumberByte comma = false := by decide
  rw [formatInt]
  by_cases hneg : x < 0
  · have hx : -(x.natAbs : Int) = x := by omega
    have hvalue := numberValue_neg_digits x.natAbs
    rw [hx] at hvalue
    rw [if_pos hneg]
    refine reads_number ?_ hcomma hvalue
    intro b hb
    cases List.mem_cons.1 hb with
    | inl heq =>
        rw [heq]
        decide
    | inr hmem => exact hdigits _ b hmem
  · have hx : (x.natAbs : Int) = x := by omega
    have hvalue := numberValue_digits x.natAbs
    rw [hx] at hvalue
    rw [if_neg hneg]
    exact reads_number (hdigits _) hcomma hvalue

theorem reads_formatBool (b : Bool) (rest : List UInt8) :
    Reads (.value (.bool b)) (formatBool b ++ rest) rest := by
  cases b with
  | false => exact .falseText
  | true => exact .trueText

/-- An entry without the comma in front of it. -/
def entryBody (entry : WifiScanEntry) : List UInt8 :=
  entryText 0 ((entryName entry).flatMap escapeCharacter) entry

/-- An entry is read back. -/
theorem reads_entryBody (entry : WifiScanEntry) (rest : List UInt8) :
    Reads (.value (entryValue entry)) (entryBody entry ++ rest) rest := by
  have hplain (name : List UInt8) (h : name.all fun b => 0x20 ≤ b ∧ b ≠ quote ∧ b ≠ backslash) :
      ∀ b ∈ name, 0x20 ≤ b ∧ b ≠ quote ∧ b ≠ backslash := by
    simpa using h
  have huns := reads_lastMember (hplain (ascii "uns") (by decide))
    (reads_formatBool entry.isUnsupported (0x7D :: rest))
  have hopen := reads_member (hplain (ascii "open") (by decide))
    (reads_formatBool entry.isOpen (comma :: _)) huns
  have hrssi := reads_member (hplain (ascii "rssi") (by decide))
    (reads_formatInt entry.rssiDbm.toInt _) hopen
  have hssid := reads_member (hplain (ascii "ssid") (by decide))
    (.string (readsString_escape (entryName entry) (comma :: _))) hrssi
  have hopening : ascii "\x7b\"ssid\":\"" =
      0x7B :: quote :: (ascii "ssid" ++ [quote, colon, quote]) := by decide
  have hrssiText : ascii "\",\"rssi\":" =
      quote :: comma :: quote :: (ascii "rssi" ++ [quote, colon]) := by decide
  have hopenText : ascii ",\"open\":" = comma :: quote :: (ascii "open" ++ [quote, colon]) := by
    decide
  have hunsText : ascii ",\"uns\":" = comma :: quote :: (ascii "uns" ++ [quote, colon]) := by decide
  have hclosing : ascii "\x7d" = [0x7D] := by decide
  have htext := Reads.object hssid
  rw [entryBody, entryText, if_neg (Nat.lt_irrefl 0), hopening, hrssiText, hopenText, hunsText,
    hclosing]
  simp only [List.append_assoc, List.cons_append, List.nil_append] at htext ⊢
  exact htext

end Entry

/-! ## The list -/

theorem entryText_succ (index : Nat) (escaped : List UInt8) (entry : WifiScanEntry) :
    entryText (index + 1) escaped entry = comma :: entryText 0 escaped entry := by
  have hcomma : ascii "," = [comma] := by decide
  rw [entryText, entryText, if_pos (Nat.succ_pos index), if_neg (Nat.lt_irrefl 0), hcomma,
    List.cons_append, List.nil_append]

theorem entriesText_succ (index : Nat) (entries : List WifiScanEntry) :
    entriesText (index + 1) entries = entries.flatMap fun entry => comma :: entryBody entry := by
  induction entries generalizing index with
  | nil => rfl
  | cons entry entries ih => rw [entriesText, entryText_succ, ih, List.flatMap_cons, entryBody]

/-- A list is read back. -/
theorem denotes_listText (entries : List WifiScanEntry) :
    Denotes (listText entries) (.array (entries.map entryValue)) := by
  cases entries with
  | nil => exact ⟨[], .noElements rfl, rfl⟩
  | cons entry entries =>
      have helements := reads_elements reads_entryBody entry entries []
      refine ⟨[], .array ?_, rfl⟩
      rw [entriesText, entriesText_succ, List.append_assoc]
      exact helements

/-! ## Harmless bytes -/

/-- Each quote stands behind a backslash. -/
def QuotesEscaped (text : List UInt8) : Prop :=
  ∀ before after, text = before ++ quote :: after → before.getLast? = some backslash

theorem QuotesEscaped.append {left right : List UInt8} (hleft : QuotesEscaped left)
    (hright : QuotesEscaped right) : QuotesEscaped (left ++ right) := by
  intro before after h
  rw [List.append_eq_append_iff] at h
  rcases h with ⟨middle, rfl, hmiddle⟩ | ⟨middle, hmiddle, hafter⟩
  · have hlast := hright middle after hmiddle
    have hne : middle ≠ [] := by
      rintro rfl
      cases hlast
    rw [List.getLast?_append_of_ne_nil _ hne, hlast]
  · cases middle with
    | nil =>
        have hlast := hright [] after hafter.symm
        cases hlast
    | cons byte middle =>
        cases hafter
        exact hleft before middle hmiddle

theorem quotesEscaped_of_notMem {text : List UInt8} (h : quote ∉ text) : QuotesEscaped text := by
  rintro before after rfl
  simp at h

theorem harmless_hexDigits :
    ∀ n < 16, isHarmless (hexDigits.getD n 0) = true ∧ hexDigits.getD n 0 ≠ quote := by decide

theorem harmless_escapeCharacter (byte : UInt8) :
    (escapeCharacter byte).all isHarmless = true ∧ QuotesEscaped (escapeCharacter byte) := by
  obtain ⟨hhigh, hlow⟩ := toNat_halves byte
  rw [escapeCharacter]
  by_cases hunicode : needsUnicode byte = true
  · have hlt := needsUnicode_lt hunicode
    obtain ⟨hhighHarmless, hhighQuote⟩ := harmless_hexDigits (byte.toNat / 16) (by omega)
    obtain ⟨hlowHarmless, hlowQuote⟩ := harmless_hexDigits (byte.toNat % 16) (by omega)
    have hstart : (ascii "\\u00").all isHarmless = true ∧ quote ∉ ascii "\\u00" := by decide
    rw [if_pos hunicode, hhigh, hlow]
    constructor
    · rw [List.all_append, hstart.1, List.all_cons, hhighHarmless, List.all_cons, hlowHarmless]
      rfl
    · apply quotesEscaped_of_notMem
      rw [List.mem_append, List.mem_cons, List.mem_singleton, not_or, not_or]
      exact ⟨hstart.2, hhighQuote.symm, hlowQuote.symm⟩
  · rw [if_neg hunicode]
    have hharmless : isHarmless byte = true := by
      simp only [needsUnicode, Bool.or_eq_true, decide_eq_true_eq, not_or] at hunicode
      obtain ⟨⟨⟨⟨hspace, hless⟩, hgreater⟩, hand⟩, happ⟩ := hunicode
      simp [isHarmless, UInt8.not_lt.1 hspace, hless, hgreater, hand, happ]
    have hbackslash : isHarmless 0x5C = true := by decide
    by_cases hescape : byte = 0x22 ∨ byte = 0x5C
    · rw [if_pos hescape]
      constructor
      · rw [List.all_cons, List.all_cons, hbackslash, hharmless]
        rfl
      · intro before after h
        rcases before with _ | ⟨first, _ | ⟨second, before⟩⟩
        · cases h
        · cases h
          rfl
        · have hlength := congrArg List.length h
          simp at hlength
    · rw [if_neg hescape]
      rw [not_or] at hescape
      constructor
      · rw [List.all_cons, hharmless]
        rfl
      · apply quotesEscaped_of_notMem
        rw [List.mem_singleton]
        exact Ne.symm hescape.1

theorem harmless_escape (bytes : List UInt8) :
    (bytes.flatMap escapeCharacter).all isHarmless = true ∧
      QuotesEscaped (bytes.flatMap escapeCharacter) := by
  induction bytes with
  | nil => exact ⟨rfl, quotesEscaped_of_notMem (by simp)⟩
  | cons byte bytes ih =>
      obtain ⟨hbyte, hquote⟩ := harmless_escapeCharacter byte
      rw [List.flatMap_cons, List.all_append, hbyte, ih.1]
      exact ⟨rfl, hquote.append ih.2⟩

theorem harmless_of_isDigit {byte : UInt8} (h : Decimal.isDigit byte = true) :
    isHarmless byte = true := by
  have hdigit := Decimal.isDigit_iff.1 h
  have hle : 0x20 ≤ byte := by
    rw [UInt8.le_iff_toNat_le]
    exact Nat.le_trans (by decide) hdigit.1
  have hne (other : UInt8) (hother : other.toNat < 48 ∨ 57 < other.toNat) : byte ≠ other := by
    rintro rfl
    omega
  simp [isHarmless, hle, hne 0x3C (by decide), hne 0x3E (by decide), hne 0x26 (by decide),
    hne 0x27 (by decide)]

theorem harmless_entryBody (entry : WifiScanEntry) : (entryBody entry).all isHarmless = true := by
  have hdigits (n : Nat) : (Decimal.digits n).all isHarmless = true := by
    rw [List.all_eq_true]
    intro b hb
    exact harmless_of_isDigit (List.all_eq_true.1 (Decimal.all_isDigit_digits n) b hb)
  have hint (x : Int) : (formatInt x).all isHarmless = true := by
    rw [formatInt]
    split
    · rw [List.all_cons, hdigits]
      decide
    · exact hdigits _
  have hbool (b : Bool) : (formatBool b).all isHarmless = true := by
    cases b with
    | false => decide
    | true => decide
  have htexts : (ascii "\x7b\"ssid\":\"").all isHarmless = true ∧
      (ascii "\",\"rssi\":").all isHarmless = true ∧ (ascii ",\"open\":").all isHarmless = true ∧
      (ascii ",\"uns\":").all isHarmless = true ∧ (ascii "\x7d").all isHarmless = true := by decide
  obtain ⟨hopening, hrssi, hopen, huns, hclosing⟩ := htexts
  rw [entryBody, entryText, if_neg (Nat.lt_irrefl 0)]
  simp only [List.all_append, List.all_nil, hopening, hrssi, hopen, huns, hclosing, hint, hbool,
    (harmless_escape _).1, Bool.and_self]

theorem harmless_listText (entries : List WifiScanEntry) :
    (listText entries).all isHarmless = true := by
  have hrest (entries : List WifiScanEntry) :
      (entries.flatMap fun entry => comma :: entryBody entry).all isHarmless = true := by
    induction entries with
    | nil => rfl
    | cons entry entries ih =>
        rw [List.flatMap_cons, List.all_append, ih, List.all_cons, harmless_entryBody]
        decide
  cases entries with
  | nil => decide
  | cons entry entries =>
      have hentry := harmless_entryBody entry
      rw [entryBody] at hentry
      rw [listText, entriesText, entriesText_succ, List.all_cons, List.all_append, List.all_append,
        hentry, hrest]
      decide

/-! ## The buffer -/

section Buffer

variable {buffer text : List UInt8} {index : Nat}

theorem length_snprintf (h : index < buffer.length) :
    (snprintf buffer index text).length = buffer.length := by
  simp only [snprintf, overwrite, List.length_append, List.length_take, List.length_drop,
    List.length_singleton]
  omega

/-- What was in front of the index stays. -/
theorem take_snprintf (h : index < buffer.length) :
    (snprintf buffer index text).take index = buffer.take index := by
  have hlength : (buffer.take index).length = index := by
    rw [List.length_take]
    omega
  rw [snprintf, overwrite, List.append_assoc, List.take_left' hlength]

/-- A text that fits is there as a whole. -/
theorem take_snprintf_add (h : index + text.length < buffer.length) :
    (snprintf buffer index text).take (index + text.length) = buffer.take index ++ text := by
  have hlength : (buffer.take index ++ text).length = index + text.length := by
    rw [List.length_append, List.length_take]
    omega
  have hwhole : text.take (buffer.length - index - 1) = text := List.take_of_length_le (by omega)
  rw [snprintf, overwrite, hwhole, ← List.append_assoc, List.append_assoc, List.take_left' hlength]

theorem take_set_succ {byte : UInt8} (h : index < buffer.length) :
    (buffer.set index byte).take (index + 1) = buffer.take index ++ [byte] := by
  rw [List.take_succ_eq_append_getElem (by rwa [List.length_set]), List.getElem_set_self,
    List.take_set_of_le (Nat.le_refl index)]

end Buffer

/-- What the loop leaves in the buffer: the longest prefix that leaves room for the end. -/
structure Formatted (entries : List WifiScanEntry) (index : Nat) (json : List UInt8) (used : Nat)
    (result : List UInt8 × Nat) (n : Nat) : Prop where
  le : n ≤ entries.length
  length : result.1.length = httpPortalJsonMax
  filled : result.2 = used + (entriesText index (entries.take n)).length
  room : result.2 + 2 ≤ httpPortalJsonMax
  text : result.1.take result.2 = json.take used ++ entriesText index (entries.take n)
  longest : ∀ m ≤ entries.length,
    used + (entriesText index (entries.take m)).length + 2 ≤ httpPortalJsonMax → m ≤ n

/-- The name of a listed network is not empty and fits an SSID. -/
def IsListed (entry : WifiScanEntry) : Prop :=
  1 ≤ (entryName entry).length ∧ (entryName entry).length ≤ credentialSsidMax

theorem escapeJsonString_entryName {entry : WifiScanEntry} (h : IsListed entry) :
    escapeJsonString (entryName entry) httpPortalEscapedSsidMax =
      (entryName entry).flatMap escapeCharacter := by
  apply escapeJsonString_eq
  have hle : (entryName entry).length ≤ 32 := h.2
  simp only [httpPortalEscapedSsidMax]
  omega

theorem formatEntries_formatted {entries : List WifiScanEntry} (index : Nat) {json : List UInt8}
    {used : Nat} (hjson : json.length = httpPortalJsonMax)
    (hused : used + 2 ≤ httpPortalJsonMax) (hlisted : ∀ entry ∈ entries, IsListed entry) :
    ∃ n, Formatted entries index json used (formatEntries entries index json used) n := by
  induction entries generalizing index json used with
  | nil => exact ⟨0, by simp, hjson, rfl, hused, (List.append_nil _).symm, fun m hm _ => hm⟩
  | cons entry entries ih =>
      have hentry := hlisted entry List.mem_cons_self
      have hescaped := escapeJsonString_entryName hentry
      rw [entryName] at hescaped
      have hne : ((entryName entry).flatMap escapeCharacter).length ≠ 0 := by
        have hlength := (length_escape (entryName entry)).1
        have hpos := hentry.1
        omega
      rw [formatEntries, hescaped, ← entryName, if_neg hne]
      generalize hwritten : entryText index ((entryName entry).flatMap escapeCharacter) entry = written
      have hindex : used < json.length := by omega
      by_cases hcut : written.length + 2 > httpPortalJsonMax - used
      · rw [if_pos hcut]
        refine ⟨0, Nat.zero_le _, (length_snprintf hindex).trans hjson, rfl, hused, ?_, ?_⟩
        · rw [take_snprintf hindex]
          exact (List.append_nil _).symm
        · intro m _ hfits
          cases m with
          | zero => exact Nat.le_refl 0
          | succ m =>
              rw [List.take_succ_cons, entriesText, hwritten, List.length_append] at hfits
              omega
      · rw [if_neg hcut]
        have hroom : used + written.length + 2 ≤ httpPortalJsonMax := by omega
        obtain ⟨n, h⟩ := ih (index + 1) ((length_snprintf hindex).trans hjson) hroom
          fun entry hmem => hlisted entry (List.mem_cons_of_mem _ hmem)
        have htext := h.text
        rw [take_snprintf_add (by omega)] at htext
        refine ⟨n + 1, Nat.succ_le_succ h.le, h.length, ?_, h.room, ?_, ?_⟩
        · rw [h.filled, List.take_succ_cons, entriesText, hwritten, List.length_append, Nat.add_assoc]
        · rw [htext, List.take_succ_cons, entriesText, hwritten, List.append_assoc]
        · intro m hm hfits
          cases m with
          | zero => exact Nat.zero_le _
          | succ m =>
              rw [List.take_succ_cons, entriesText, hwritten, List.length_append, ← Nat.add_assoc]
                at hfits
              exact Nat.succ_le_succ (h.longest m (Nat.le_of_succ_le_succ hm) hfits)

/-- The list that a scan is answered with is the longest prefix that fits. -/
theorem formatScan_eq {json : List UInt8} {entries : List WifiScanEntry}
    (hjson : json.length = httpPortalJsonMax) (hlisted : ∀ entry ∈ entries, IsListed entry) :
    ∃ n ≤ entries.length,
      (formatScan json entries).2 = (listText (entries.take n)).length ∧
      (listText (entries.take n)).length + 1 ≤ httpPortalJsonMax ∧
      (formatScan json entries).1.take ((listText (entries.take n)).length + 1) =
        listText (entries.take n) ++ [0] ∧
      ∀ m ≤ entries.length, (listText (entries.take m)).length + 1 ≤ httpPortalJsonMax → m ≤ n := by
  have hlengthText (entries : List WifiScanEntry) :
      (listText entries).length = 1 + (entriesText 0 entries).length + 1 := by
    rw [listText, List.length_cons, List.length_append, List.length_singleton]
    omega
  have hset : (json.set 0 0x5B).length = httpPortalJsonMax := by rw [List.length_set, hjson]
  have hroom : 1 + 2 ≤ httpPortalJsonMax := by decide
  obtain ⟨n, h⟩ := formatEntries_formatted 0 hset hroom hlisted
  have hfirst : (json.set 0 0x5B).take 1 = [0x5B] := by
    cases json with
    | nil => cases hjson
    | cons byte json => rfl
  have hused : (formatEntries entries 0 (json.set 0 0x5B) 1).2 + 1 =
      (listText (entries.take n)).length := by
    rw [h.filled, hlengthText]
  have htext := h.text
  rw [hfirst] at htext
  have hfill := h.room
  refine ⟨n, h.le, hused, by omega, ?_, ?_⟩
  · have hend : (formatEntries entries 0 (json.set 0 0x5B) 1).2 + 1 <
        (formatEntries entries 0 (json.set 0 0x5B) 1).1.length := by
      rw [h.length]
      omega
    rw [formatScan, ← hused, take_set_succ (by rwa [List.length_set]), take_set_succ (by omega),
      htext, listText]
    rfl
  · intro m hm hfits
    rw [hlengthText] at hfits
    exact h.longest m hm (by omega)

/-- The reply to a scan is the longest prefix of its list that fits the buffer, as a JSON array. Its
names hold no control character of JSON, no markup, and no quote without its backslash. -/
theorem scanReply_spec (state : SetupState) (entries : List WifiScanEntry)
    (hjson : state.json.length = httpPortalJsonMax)
    (hlisted : ∀ entry ∈ entries, IsListed entry) :
    ∃ n ≤ entries.length,
      let body := (scanReply state (some entries)).1.body
      body.length + 1 ≤ httpPortalJsonMax ∧
      (scanReply state (some entries)).2.json.take (body.length + 1) = body ++ [0] ∧
      (∀ value, Denotes body value ↔ value = .array ((entries.take n).map entryValue)) ∧
      (∀ m ≤ entries.length, (listText (entries.take m)).length + 1 ≤ httpPortalJsonMax → m ≤ n) ∧
      body = listText (entries.take n) ∧ body.all isHarmless = true ∧
      ∀ entry ∈ entries,
        QuotesEscaped (escapeJsonString (entryName entry) httpPortalEscapedSsidMax) := by
  obtain ⟨n, hn, hused, hfits, htext, hlongest⟩ := formatScan_eq hjson hlisted
  have hbody : (scanReply state (some entries)).1.body = listText (entries.take n) := by
    have htake := congrArg (List.take (listText (entries.take n)).length) htext
    rw [List.take_take, Nat.min_eq_left (Nat.le_succ _), List.take_left] at htake
    rw [scanReply, hused]
    exact htake
  refine ⟨n, hn, ?_⟩
  intro body
  have hbody' : body = listText (entries.take n) := hbody
  rw [hbody']
  refine ⟨hfits, htext, ?_, hlongest, rfl, harmless_listText _, ?_⟩
  · intro value
    constructor
    · intro h
      exact h.unique (denotes_listText _)
    · rintro rfl
      exact denotes_listText _
  · intro entry hentry
    rw [escapeJsonString_entryName (hlisted entry hentry)]
    exact (harmless_escape _).2

/-- A network whose name would close the string and open a tag. -/
def hostileEntry : WifiScanEntry where
  ssid := ByteLayout.field [0x22, 0x3C, 0x01, 0xFF] 0 (credentialSsidMax + 1)
  rssiDbm := -50
  isOpen := true
  isUnsupported := false

/-- A network whose name consists of tag openers. -/
def taggedEntry : WifiScanEntry :=
  { hostileEntry with
    ssid := ByteLayout.field (List.replicate credentialSsidMax 0x3C) 0 (credentialSsidMax + 1) }

def hostileList : List WifiScanEntry := hostileEntry :: List.replicate 19 taggedEntry

/-- Of 20 such networks the buffer takes 17. -/
theorem scanReply_spec_hostile :
    ∃ reply, (scanReply ⟨[], List.replicate httpPortalJsonMax 0⟩ (some hostileList)).1 = reply ∧
      Denotes reply.body (.array ((hostileList.take 17).map entryValue)) ∧
      reply.body.all isHarmless = true ∧ reply.body.length + 1 ≤ httpPortalJsonMax ∧
      httpPortalJsonMax < (listText (hostileList.take 18)).length + 1 := by
  have hlisted : ∀ entry ∈ hostileList, IsListed entry := by
    unfold IsListed
    decide +kernel
  obtain ⟨n, hn, hfits, -, hdenotes, hlongest, htext, hharmless, -⟩ :=
    scanReply_spec ⟨[], List.replicate httpPortalJsonMax 0⟩ hostileList List.length_replicate hlisted
  have hcut : ∀ m ≤ 20, 17 < m →
      httpPortalJsonMax < (listText (hostileList.take m)).length + 1 := by
    decide +kernel
  have hn17 : n = 17 := by
    apply le_antisymm
    · by_contra hmore
      rw [htext] at hfits
      exact absurd hfits (Nat.not_le_of_lt (hcut n hn (Nat.lt_of_not_le hmore)))
    · exact hlongest 17 (by decide) (by decide +kernel)
  subst hn17
  exact ⟨_, rfl, (hdenotes _).2 rfl, hharmless, hfits, hcut 18 (by decide) (by decide)⟩

end StripTuner.HttpPortal
