import StripTuner.HttpPortal.FormFields
import StripTuner.HttpPortal.Results
import StripTuner.HttpPortal.Setup

/-!
# The result body

A body that fits is written as a whole, and a reader who splits it at `&` and `=` finds the state and
the values of the record again.
-/

namespace StripTuner.HttpPortal

open ByteMemory PulseMonitor UrlEncoded Ws2812

/-- `FormatTunerResult()`: what it returns, and the buffer behind it. -/
def formatTunerResultInto (state : TunerResultState) (record : Ws2812Measurement)
    (body : List UInt8) : Nat × List UInt8 :=
  if body.length = 0 then (0, body)
  else
    let text := ascii (resultText state record)
    let written := text.length
    let body := snprintf body 0 text
    if written ≥ body.length then (0, overwrite body 0 [0]) else (written, body)

/-! ## The buffer -/

theorem length_snprintf_zero {buffer text : List UInt8} (h : buffer ≠ []) :
    (snprintf buffer 0 text).length = buffer.length := by
  have hpos := List.length_pos_iff.mpr h
  simp only [snprintf, overwrite, List.length_append, List.length_take, List.length_drop,
    List.length_cons, List.length_nil]
  omega

/-- A text that fits is in the buffer up to its terminator. -/
theorem cString_snprintf_zero {buffer text : List UInt8} (h : text.length < buffer.length)
    (hzero : 0 ∉ text) : cString (snprintf buffer 0 text) = text := by
  have hwhole : text.take (buffer.length - 0 - 1) = text := List.take_of_length_le (by omega)
  have hkeep : ∀ byte ∈ text, decide (byte ≠ 0) = true := by
    intro byte hbyte
    rw [decide_eq_true_iff]
    rintro rfl
    exact hzero hbyte
  rw [cString, snprintf, overwrite, hwhole, List.take_zero, List.nil_append, List.append_assoc,
    List.takeWhile_append_of_pos hkeep]
  simp

/-! ## The fields of a body -/

/-- What `FormatReadValue()` writes. -/
def readValue (valueNs highNs : UInt32) : List UInt8 :=
  if highNs = 0 then ascii "n/a" else Decimal.digits valueNs.toNat

/-- The fields behind the state. -/
def valueFields (state : TunerResultState) (record : Ws2812Measurement) :
    List (List UInt8 × List UInt8) :=
  match state with
  | .read =>
    [(ascii "b0h", readValue record.bit0HighAvgNs record.bit0HighAvgNs),
      (ascii "b0p", readValue record.bit0PeriodAvgNs record.bit0HighAvgNs),
      (ascii "b1h", readValue record.bit1HighAvgNs record.bit1HighAvgNs),
      (ascii "b1p", readValue record.bit1PeriodAvgNs record.bit1HighAvgNs)]
  | .done =>
    [(ascii "b0", Decimal.digits record.bit0HighAvgNs.toNat),
      (ascii "b1", Decimal.digits record.bit1HighAvgNs.toNat),
      (ascii "match",
        if record.matchAvailable then Decimal.digits record.matchCount.toNat else ascii "n/a")]
  | _ => []

/-- The fields of a body. -/
def resultFields (state : TunerResultState) (record : Ws2812Measurement) :
    List (List UInt8 × List UInt8) :=
  (ascii "state", ascii (stateName state)) :: valueFields state record

theorem ascii_formatReadValue (valueNs highNs : UInt32) :
    ascii (formatReadValue valueNs highNs) = readValue valueNs highNs := by
  rw [formatReadValue, readValue]
  by_cases h : highNs = 0
  · rw [if_pos h, if_pos h]
  · rw [if_neg h, if_neg h, ascii_repr]

/-- The body is the form of its fields. -/
theorem ascii_resultText (state : TunerResultState) (record : Ws2812Measurement) :
    ascii (resultText state record) =
      form ((resultFields state record).map fun pair => field pair.1 pair.2) := by
  cases state with
  | read =>
      have h0 : ascii "state=read&b0h=" =
          field (ascii "state") (ascii "read") ++ ampersand :: field (ascii "b0h") [] := by decide
      have h1 : ascii "&b0p=" = ampersand :: field (ascii "b0p") [] := by decide
      have h2 : ascii "&b1h=" = ampersand :: field (ascii "b1h") [] := by decide
      have h3 : ascii "&b1p=" = ampersand :: field (ascii "b1p") [] := by decide
      simp [resultText, resultFields, valueFields, stateName, ascii_append, ascii_formatReadValue,
        form_cons_cons, h0, h1, h2, h3, field]
  | done =>
      have h0 : ascii "state=done&b0=" =
          field (ascii "state") (ascii "done") ++ ampersand :: field (ascii "b0") [] := by decide
      have h1 : ascii "&b1=" = ampersand :: field (ascii "b1") [] := by decide
      have h2 : ascii "&match=" = ampersand :: field (ascii "match") [] := by decide
      have h3 : ascii "&match=n/a" = ampersand :: field (ascii "match") (ascii "n/a") := by decide
      by_cases havailable : record.matchAvailable = true
      · simp [resultText, resultFields, valueFields, stateName, ascii_append, ascii_repr,
          form_cons_cons, havailable, h0, h1, h2, field]
      · simp [resultText, resultFields, valueFields, stateName, ascii_append, ascii_repr,
          form_cons_cons, havailable, h0, h1, h3, field]
  | pending | timeout | countError | notMeasured | superseded | unknown =>
      have hstate : ascii "state=" = ascii "state" ++ [equalsSign] := by decide
      simp [resultText, resultFields, valueFields, ascii_append, hstate, field]

/-- A number as it stands in a body, unless it is `n/a`. -/
def valueOf (text : List UInt8) : Option Nat :=
  if text = ascii "n/a" then none else some (Decimal.value text)

theorem valueOf_digits (n : Nat) : valueOf (Decimal.digits n) = some n := by
  have hne : Decimal.digits n ≠ ascii "n/a" := by
    intro h
    have hall := Decimal.all_isDigit_digits n
    rw [h] at hall
    exact absurd hall (by decide)
  rw [valueOf, if_neg hne, Decimal.value_digits]

theorem valueOf_readValue (valueNs highNs : UInt32) :
    valueOf (readValue valueNs highNs) = if highNs = 0 then none else some valueNs.toNat := by
  rw [readValue]
  by_cases h : highNs = 0
  · rw [if_pos h, if_pos h]
    rfl
  · rw [if_neg h, if_neg h, valueOf_digits]

/-- A text that a body can hold: it neither splits a field nor ends the body. -/
def IsBodyText (text : List UInt8) : Prop := 0 ∉ text ∧ Plain text

instance (text : List UInt8) : Decidable (IsBodyText text) := inferInstanceAs (Decidable (_ ∧ _))

theorem isBodyText_digits (n : Nat) : IsBodyText (Decimal.digits n) := by
  refine ⟨?_, plain_digits n⟩
  intro hmem
  exact absurd (List.all_eq_true.1 (Decimal.all_isDigit_digits n) 0 hmem) (by decide)

theorem isBodyText_readValue (valueNs highNs : UInt32) : IsBodyText (readValue valueNs highNs) := by
  rw [readValue]
  by_cases h : highNs = 0
  · rw [if_pos h]
    decide
  · rw [if_neg h]
    exact isBodyText_digits _

theorem isBodyText_resultFields (state : TunerResultState) (record : Ws2812Measurement) :
    ∀ pair ∈ resultFields state record, IsBodyText pair.1 ∧ IsBodyText pair.2 := by
  have hname : IsBodyText (ascii (stateName state)) := by cases state <;> decide
  have hkeys : ∀ key ∈ ["state", "b0", "b1", "match", "b0h", "b0p", "b1h", "b1p"],
      IsBodyText (ascii key) := by decide
  rw [resultFields, List.forall_mem_cons]
  refine ⟨⟨hkeys "state" (by decide), hname⟩, ?_⟩
  cases state with
  | read =>
      simp only [valueFields, List.forall_mem_cons]
      exact ⟨⟨hkeys "b0h" (by decide), isBodyText_readValue ..⟩,
        ⟨hkeys "b0p" (by decide), isBodyText_readValue ..⟩,
        ⟨hkeys "b1h" (by decide), isBodyText_readValue ..⟩,
        ⟨hkeys "b1p" (by decide), isBodyText_readValue ..⟩, by simp⟩
  | done =>
      have hcount : IsBodyText (if record.matchAvailable then
          Decimal.digits record.matchCount.toNat else ascii "n/a") := by
        by_cases havailable : record.matchAvailable = true
        · rw [if_pos havailable]
          exact isBodyText_digits _
        · rw [if_neg havailable]
          decide
      simp only [valueFields, List.forall_mem_cons]
      exact ⟨⟨hkeys "b0" (by decide), isBodyText_digits _⟩,
        ⟨hkeys "b1" (by decide), isBodyText_digits _⟩, ⟨hkeys "match" (by decide), hcount⟩, by simp⟩
  | pending | timeout | countError | notMeasured | superseded | unknown => simp [valueFields]

theorem splitForm_resultText (state : TunerResultState) (record : Ws2812Measurement) :
    splitForm (ascii (resultText state record)) =
      [ascii "state", ascii (stateName state)] ::
        (valueFields state record).map fun pair => [pair.1, pair.2] := by
  have hplain : ∀ pair ∈ resultFields state record, Plain pair.1 ∧ Plain pair.2 := by
    intro pair hpair
    obtain ⟨hkey, hvalue⟩ := isBodyText_resultFields state record pair hpair
    exact ⟨hkey.2, hvalue.2⟩
  rw [ascii_resultText, splitForm_form (by simp [resultFields]) hplain]
  rfl

theorem stateName_injective {state state' : TunerResultState}
    (h : ascii (stateName state) = ascii (stateName state')) : state = state' := by
  revert h
  cases state <;> cases state' <;> decide

/-! ## The call -/

theorem length_ascii (text : String) : (ascii text).length = text.length := by
  rw [ascii, List.length_map, String.length_toList]

/-- A body holds no terminator. -/
theorem zero_notMem_resultText (state : TunerResultState) (record : Ws2812Measurement) :
    0 ∉ ascii (resultText state record) := by
  rw [ascii_resultText]
  apply notMem_form (by decide)
  intro entry hentry
  obtain ⟨pair, hpair, rfl⟩ := List.mem_map.1 hentry
  obtain ⟨hkey, hvalue⟩ := isBodyText_resultFields state record pair hpair
  rw [field, List.mem_append, List.mem_cons, not_or, not_or]
  exact ⟨hkey.1, by decide, hvalue.1⟩

/-- The call writes what `formatTunerResult` says, and returns its length. -/
theorem formatTunerResultInto_eq (state : TunerResultState) (record : Ws2812Measurement)
    (buffer : List UInt8) :
    (formatTunerResultInto state record buffer).1 =
        (formatTunerResult state record buffer.length).length ∧
      cString (formatTunerResultInto state record buffer).2 =
        ascii (formatTunerResult state record buffer.length) ∧
      (formatTunerResultInto state record buffer).2.length = buffer.length := by
  rw [formatTunerResultInto, formatTunerResult]
  by_cases hempty : buffer = []
  · subst hempty
    simp [cString, ascii]
  · have hpos := List.length_pos_iff.mpr hempty
    have hlength := @length_snprintf_zero buffer (ascii (resultText state record)) hempty
    rw [if_neg (by omega)]
    dsimp only
    rw [hlength, length_ascii]
    by_cases hfits : (resultText state record).length ≥ buffer.length
    · rw [if_pos hfits, if_pos hfits]
      refine ⟨rfl, by simp [overwrite, cString, ascii], ?_⟩
      simp only [overwrite, List.length_append, List.length_take, List.length_drop, hlength,
        List.length_cons, List.length_nil]
      omega
    · rw [if_neg hfits, if_neg hfits]
      refine ⟨rfl, cString_snprintf_zero ?_ (zero_notMem_resultText state record), hlength⟩
      rw [length_ascii]
      omega

/-- The body is written as a whole exactly if it fits the buffer with its terminator, as it does the
one of the handler, and its parts say what the record does. -/
theorem formatTunerResult_spec (state : TunerResultState) (record : Ws2812Measurement)
    (buffer : List UInt8) :
    (resultText state record).length < tunerResultBodyMax ∧
    (formatTunerResultInto state record buffer).2.length = buffer.length ∧
    ((resultText state record).length < buffer.length →
      (formatTunerResultInto state record buffer).1 = (resultText state record).length ∧
      cString (formatTunerResultInto state record buffer).2 = ascii (resultText state record)) ∧
    (buffer.length ≤ (resultText state record).length →
      cString (formatTunerResultInto state record buffer).2 = []) ∧
    ((formatTunerResultInto state record buffer).1 = 0 ↔
      buffer.length ≤ (resultText state record).length) ∧
    ∃ fields, splitForm (ascii (resultText state record)) =
        [ascii "state", ascii (stateName state)] :: fields ∧
      (∀ other, ascii (stateName other) = ascii (stateName state) → other = state) ∧
      (state = .done → ∃ bit0 bit1 count,
        fields = [[ascii "b0", bit0], [ascii "b1", bit1], [ascii "match", count]] ∧
        valueOf bit0 = some record.bit0HighAvgNs.toNat ∧
        valueOf bit1 = some record.bit1HighAvgNs.toNat ∧
        valueOf count = if record.matchAvailable then some record.matchCount.toNat else none) ∧
      (state = .read → ∃ high0 period0 high1 period1,
        fields = [[ascii "b0h", high0], [ascii "b0p", period0], [ascii "b1h", high1],
          [ascii "b1p", period1]] ∧
        (valueOf high0 = if record.bit0HighAvgNs = 0 then none
          else some record.bit0HighAvgNs.toNat) ∧
        (valueOf period0 = if record.bit0HighAvgNs = 0 then none
          else some record.bit0PeriodAvgNs.toNat) ∧
        (valueOf high1 = if record.bit1HighAvgNs = 0 then none
          else some record.bit1HighAvgNs.toNat) ∧
        (valueOf period1 = if record.bit1HighAvgNs = 0 then none
          else some record.bit1PeriodAvgNs.toNat)) ∧
      (state ≠ .done → state ≠ .read → fields = []) := by
  obtain ⟨hreturned, hwritten, hlength⟩ := formatTunerResultInto_eq state record buffer
  have hpos : 0 < (resultText state record).length := by
    rw [← length_ascii, ascii_resultText, resultFields, List.map_cons]
    cases (valueFields state record).map fun pair => field pair.1 pair.2 with
    | nil => simp [field]
    | cons second rest => simp [form_cons_cons, field]
  have hfits : (resultText state record).length < buffer.length →
      formatTunerResult state record buffer.length = resultText state record :=
    fun h => if_neg (Nat.not_le.mpr h)
  have hcut : buffer.length ≤ (resultText state record).length →
      formatTunerResult state record buffer.length = "" := fun h => if_pos h
  refine ⟨length_resultText_lt state record, hlength, ?_, ?_, ?_, _,
    splitForm_resultText state record, fun other h => stateName_injective h, ?_, ?_, ?_⟩
  · intro h
    rw [hreturned, hwritten, hfits h]
    exact ⟨rfl, rfl⟩
  · intro h
    rw [hwritten, hcut h]
    rfl
  · rw [hreturned]
    constructor
    · intro hzero
      by_contra h
      rw [hfits (Nat.not_le.mp h)] at hzero
      omega
    · intro h
      rw [hcut h]
      rfl
  · rintro rfl
    refine ⟨_, _, _, rfl, valueOf_digits _, valueOf_digits _, ?_⟩
    by_cases havailable : record.matchAvailable = true
    · rw [if_pos havailable, if_pos havailable, valueOf_digits]
    · rw [if_neg havailable, if_neg havailable]
      rfl
  · rintro rfl
    exact ⟨_, _, _, _, rfl, valueOf_readValue .., valueOf_readValue .., valueOf_readValue ..,
      valueOf_readValue ..⟩
  · intro hdone hread
    cases state with
    | done => exact absurd rfl hdone
    | read => exact absurd rfl hread
    | pending | timeout | countError | notMeasured | superseded | unknown => rfl

end StripTuner.HttpPortal
