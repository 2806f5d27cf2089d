import Mathlib.Algebra.Order.Field.Rat
import Mathlib.Tactic.Positivity
import StripTuner.HttpPortal.FormFields
import StripTuner.Lib.Decimal

/-!
# The tuner form

Which bodies `ParseTunerForm()` accepts and what it reads from them, and which timings pass
`ValidateWs2812Timing()` then.
-/

namespace StripTuner.HttpPortal

open UrlEncoded Ws2812

/-- `ParseTunerForm()` with the timing that it writes to. -/
def parseTunerFormInto (body : List UInt8) (timing : Ws2812Timing) : Bool × Ws2812Timing :=
  match parseTunerForm body with
  | some parsed => (true, parsed)
  | none => (false, timing)

/-! ## One value -/

/-- One to four digits. -/
structure IsTunerValue (text : List UInt8) : Prop where
  nonempty : 1 ≤ text.length
  length_le : text.length ≤ 4
  all : text.all isDigit = true

theorem extractDigitField_eq_some_iff {key body text : List UInt8} :
    extractDigitField key body = some text ↔ firstText key body = some text ∧ IsTunerValue text := by
  have hscan : ∀ body, extractDigitField key body = (firstText key body).bind fun value =>
      if value.length < 1 ∨ value.length > tunerValueDigitsMax then none
      else if value.all isDigit then some value
      else none := by
    apply ScansFields.eq
    intro body
    rw [extractDigitField]
    rfl
  rw [hscan, Option.bind_eq_some_iff]
  constructor
  · rintro ⟨value, hvalue, htext⟩
    by_cases hlength : value.length < 1 ∨ value.length > tunerValueDigitsMax
    · rw [if_pos hlength] at htext
      cases htext
    · rw [if_neg hlength] at htext
      by_cases hall : value.all isDigit = true
      · rw [if_pos hall] at htext
        obtain rfl := Option.some.inj htext
        rw [not_or, tunerValueDigitsMax] at hlength
        exact ⟨hvalue, by omega, by omega, hall⟩
      · rw [if_neg hall] at htext
        cases htext
  · rintro ⟨hvalue, hnonempty, hlength, hall⟩
    refine ⟨text, hvalue, ?_⟩
    rw [if_neg (by rw [tunerValueDigitsMax]; omega), if_pos hall]

/-- `DigitsToUint16()` gives the value of the digits, modulo the width. -/
theorem digitsToUint16_eq {digits : List UInt8} (h : digits.all isDigit = true) :
    digitsToUint16 digits = UInt16.ofNat (Decimal.value digits) := by
  have hfold : ∀ (n : Nat), digits.foldl
      (fun value digit => value * 10 + (digit.toUInt16 - 0x30)) (UInt16.ofNat n) =
        UInt16.ofNat (digits.foldl (fun value digit => 10 * value + (digit.toNat - 0x30)) n) := by
    induction digits with
    | nil => exact fun n => rfl
    | cons digit digits ih =>
        intro n
        rw [List.all_cons, Bool.and_eq_true] at h
        have hdigit := Decimal.isDigit_iff.mp h.1
        have hstep : UInt16.ofNat n * 10 + (digit.toUInt16 - 0x30) =
            UInt16.ofNat (10 * n + (digit.toNat - 0x30)) := by
          have hle : (0x30 : UInt16) ≤ digit.toUInt16 := by
            rw [UInt16.le_iff_toNat_le, UInt8.toNat_toUInt16]
            exact hdigit.1
          rw [← UInt16.toNat_inj, UInt16.toNat_add, UInt16.toNat_mul,
            UInt16.toNat_sub_of_le _ _ hle, UInt8.toNat_toUInt16, UInt16.toNat_ofNat',
            UInt16.toNat_ofNat']
          have h10 : (10 : UInt16).toNat = 10 := rfl
          have h48 : (0x30 : UInt16).toNat = 48 := rfl
          rw [h10, h48]
          omega
        rw [List.foldl_cons, List.foldl_cons, hstep, ih h.2]
  exact hfold 0

/-- Four digits do not overflow. -/
theorem toNat_digitsToUint16 {text : List UInt8} (h : IsTunerValue text) :
    (digitsToUint16 text).toNat = Decimal.value text := by
  have hlt := Decimal.value_lt h.all
  have hpow : 10 ^ text.length ≤ 10 ^ 4 := Nat.pow_le_pow_right (by decide) h.length_le
  rw [digitsToUint16_eq h.all, UInt16.toNat_ofNat', Nat.mod_eq_of_lt (by omega)]

/-! ## The form -/

/-- The keys of the form, each with the value it sets. -/
def tunerFields : List (List UInt8 × (Ws2812Timing → UInt16)) :=
  [(ascii "b0h_ns", Ws2812Timing.bit0HighNs), (ascii "b0p_ns", Ws2812Timing.bit0PeriodNs),
    (ascii "b1h_ns", Ws2812Timing.bit1HighNs), (ascii "b1p_ns", Ws2812Timing.bit1PeriodNs),
    (ascii "rst_us", Ws2812Timing.resetUs)]

/-- The form is parsed exactly if each key has a value, and to these values. -/
theorem parseTunerForm_eq_some_iff {body : List UInt8} {parsed : Ws2812Timing} :
    parseTunerForm body = some parsed ↔ ∀ entry ∈ tunerFields, ∃ text,
      firstText entry.1 body = some text ∧ IsTunerValue text ∧
        (entry.2 parsed).toNat = Decimal.value text := by
  have hread : ∀ key value, (∃ text, firstText key body = some text ∧ IsTunerValue text ∧
      value.toNat = Decimal.value text) ↔
        ∃ text, extractDigitField key body = some text ∧ digitsToUint16 text = value := by
    intro key value
    constructor
    · rintro ⟨text, hfirst, htext, hvalue⟩
      refine ⟨text, extractDigitField_eq_some_iff.2 ⟨hfirst, htext⟩, ?_⟩
      rw [← UInt16.toNat_inj, toNat_digitsToUint16 htext, hvalue]
    · rintro ⟨text, hextract, rfl⟩
      obtain ⟨hfirst, htext⟩ := extractDigitField_eq_some_iff.1 hextract
      exact ⟨text, hfirst, htext, toNat_digitsToUint16 htext⟩
  simp only [tunerFields, List.forall_mem_cons, hread]
  simp only [parseTunerForm, Option.bind_eq_bind, Option.bind_eq_some_iff, Option.pure_def,
    Option.some.injEq]
  constructor
  · rintro ⟨bit0High, h0, bit0Period, p0, bit1High, h1, bit1Period, p1, reset, hr, rfl⟩
    exact ⟨⟨_, h0, rfl⟩, ⟨_, p0, rfl⟩, ⟨_, h1, rfl⟩, ⟨_, p1, rfl⟩, ⟨_, hr, rfl⟩, by simp⟩
  · rintro ⟨⟨bit0High, h0, e0⟩, ⟨bit0Period, p0, f0⟩, ⟨bit1High, h1, e1⟩, ⟨bit1Period, p1, f1⟩,
      ⟨reset, hr, er⟩, -⟩
    refine ⟨bit0High, h0, bit0Period, p0, bit1High, h1, bit1Period, p1, reset, hr, ?_⟩
    cases parsed
    simp only [Ws2812Timing.mk.injEq]
    exact ⟨e0, f0, e1, f1, er⟩

/-- Some timing takes the values that the keys have. -/
theorem exists_parsed {body : List UInt8} (h : ∀ entry ∈ tunerFields, ∃ text,
    firstText entry.1 body = some text ∧ IsTunerValue text) :
    ∃ parsed, parseTunerForm body = some parsed := by
  have hread : ∀ entry ∈ tunerFields, ∃ text, extractDigitField entry.1 body = some text := by
    intro entry hentry
    obtain ⟨text, htext⟩ := h entry hentry
    exact ⟨text, extractDigitField_eq_some_iff.2 htext⟩
  simp only [tunerFields, List.forall_mem_cons] at hread
  obtain ⟨⟨_, h0⟩, ⟨_, p0⟩, ⟨_, h1⟩, ⟨_, p1⟩, ⟨_, hr⟩, -⟩ := hread
  rw [parseTunerForm, h0, p0, h1, p1, hr]
  exact ⟨_, rfl⟩

/-! ## The duty cycles -/

/-- The part of the period for which a bit is high. -/
def duty (highNs periodNs : UInt16) : ℚ := highNs.toNat / periodNs.toNat

/-- The comparison of the products compares the duty cycles themselves. -/
theorem dutyOrdered_iff_duty {timing : Ws2812Timing} (h : OnSteps timing) : DutyOrdered timing ↔
    duty timing.bit0HighNs timing.bit0PeriodNs < duty timing.bit1HighNs timing.bit1PeriodNs := by
  have h0 : (0 : ℚ) < timing.bit0PeriodNs.toNat := by
    have hmin := h.bit0Period.1
    exact_mod_cast (by omega : 0 < timing.bit0PeriodNs.toNat)
  have h1 : (0 : ℚ) < timing.bit1PeriodNs.toNat := by
    have hmin := h.bit1Period.1
    exact_mod_cast (by omega : 0 < timing.bit1PeriodNs.toNat)
  rw [duty, duty, div_lt_div_iff₀ h0 h1, DutyOrdered]
  norm_cast

/-- A form is accepted exactly if the first field of each key has one to four digits, and then it sets
their values; the first rule that a set violates is the one reported. -/
theorem parseTunerForm_spec (body : List UInt8) (timing : Ws2812Timing) :
    ((parseTunerFormInto body timing).1 = true ↔ ∀ entry ∈ tunerFields, ∃ text,
      firstText entry.1 body = some text ∧ IsTunerValue text) ∧
    ((parseTunerFormInto body timing).1 = true → ∀ entry ∈ tunerFields, ∀ text,
      firstText entry.1 body = some text →
        (entry.2 (parseTunerFormInto body timing).2).toNat = Decimal.value text) ∧
    ((parseTunerFormInto body timing).1 = false → (parseTunerFormInto body timing).2 = timing) ∧
    ∀ set : Ws2812Timing,
      (validateWs2812Timing set = .outOfRange ↔ ¬ OnSteps set) ∧
      (validateWs2812Timing set = .badCombination ↔ OnSteps set ∧ ¬ LongLows set) ∧
      (validateWs2812Timing set = .badDutyOrder ↔ OnSteps set ∧ LongLows set ∧
        ¬ duty set.bit0HighNs set.bit0PeriodNs < duty set.bit1HighNs set.bit1PeriodNs) ∧
      (validateWs2812Timing set = .ok ↔ OnSteps set ∧ LongLows set ∧
        duty set.bit0HighNs set.bit0PeriodNs < duty set.bit1HighNs set.bit1PeriodNs) ∧
      (set.bit0HighNs.toUInt32 * set.bit1PeriodNs.toUInt32).toNat =
        set.bit0HighNs.toNat * set.bit1PeriodNs.toNat ∧
      (set.bit1HighNs.toUInt32 * set.bit0PeriodNs.toUInt32).toNat =
        set.bit1HighNs.toNat * set.bit0PeriodNs.toNat := by
  have hrules : ∀ set : Ws2812Timing, OnSteps set → (DutyOrdered set ↔
      duty set.bit0HighNs set.bit0PeriodNs < duty set.bit1HighNs set.bit1PeriodNs) :=
    fun set h => dutyOrdered_iff_duty h
  refine ⟨?_, ?_, ?_, ?_⟩
  · rw [parseTunerFormInto]
    constructor
    · intro h
      cases hparse : parseTunerForm body with
      | none =>
          rw [hparse] at h
          cases h
      | some parsed =>
          intro entry hentry
          obtain ⟨text, hfirst, htext, -⟩ := parseTunerForm_eq_some_iff.1 hparse entry hentry
          exact ⟨text, hfirst, htext⟩
    · intro h
      obtain ⟨parsed, hparsed⟩ := exists_parsed h
      rw [hparsed]
  · rw [parseTunerFormInto]
    cases hparse : parseTunerForm body with
    | none =>
        intro h
        cases h
    | some parsed =>
        intro _ entry hentry text hfirst
        obtain ⟨text', hfirst', -, hvalue⟩ := parseTunerForm_eq_some_iff.1 hparse entry hentry
        rw [Option.some.inj (hfirst.symm.trans hfirst')]
        exact hvalue
  · rw [parseTunerFormInto]
    cases parseTunerForm body with
    | none => exact fun _ => rfl
    | some parsed =>
        intro h
        cases h
  · intro set
    rw [dutyProduct_toNat, dutyProduct_toNat]
    by_cases hsteps : OnSteps set
    · rw [← hrules set hsteps]
      by_cases hlows : LongLows set
      · by_cases hduty : DutyOrdered set
        · simp [validate_ok hsteps hlows hduty, hsteps, hlows, hduty]
        · simp [validate_badDutyOrder hsteps hlows hduty, hsteps, hlows, hduty]
      · simp [validate_badCombination hsteps hlows, hsteps, hlows]
    · simp [validate_outOfRange hsteps, hsteps]

end StripTuner.HttpPortal
