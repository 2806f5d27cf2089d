import Mathlib.Tactic.Common

/-!
# WS2812 timing

The five timing values and their validation, from `ws2812_timing.c`. The comparison of the duty
cycles is a comparison of products, so it also accepts inverted high times.
-/

namespace StripTuner.Ws2812

abbrev tunerStepNs : UInt16 := 25
abbrev tunerRstStepUs : UInt16 := 10
abbrev tunerMinLowNs : Int := 100
abbrev tunerHighMinNs : UInt16 := 100
abbrev tunerHighMaxNs : UInt16 := 1200
abbrev tunerPeriodMinNs : UInt16 := 800
abbrev tunerPeriodMaxNs : UInt16 := 2000
abbrev tunerResetMinUs : UInt16 := 50
abbrev tunerResetMaxUs : UInt16 := 800

/-- `ws2812_timing_t`. -/
structure Ws2812Timing where
  bit0HighNs : UInt16
  bit0PeriodNs : UInt16
  bit1HighNs : UInt16
  bit1PeriodNs : UInt16
  resetUs : UInt16
deriving DecidableEq

/-- `ws2812_timing_result_t`. -/
inductive Ws2812TimingResult where
  | ok
  | outOfRange
  | badCombination
  | badDutyOrder
deriving DecidableEq

/-- `IsOnStep()`. -/
def isOnStep (value min max step : UInt16) : Bool :=
  value ≥ min && value ≤ max && value % step = 0

/-- `ValidateWs2812Timing()`. -/
def validateWs2812Timing (timing : Ws2812Timing) : Ws2812TimingResult :=
  let isInRange :=
    isOnStep timing.bit0HighNs tunerHighMinNs tunerHighMaxNs tunerStepNs &&
    isOnStep timing.bit0PeriodNs tunerPeriodMinNs tunerPeriodMaxNs tunerStepNs &&
    isOnStep timing.bit1HighNs tunerHighMinNs tunerHighMaxNs tunerStepNs &&
    isOnStep timing.bit1PeriodNs tunerPeriodMinNs tunerPeriodMaxNs tunerStepNs &&
    isOnStep timing.resetUs tunerResetMinUs tunerResetMaxUs tunerRstStepUs
  if !isInRange then .outOfRange
  else
    let bit0LowNs : Int := (timing.bit0PeriodNs.toNat : Int) - timing.bit0HighNs.toNat
    let bit1LowNs : Int := (timing.bit1PeriodNs.toNat : Int) - timing.bit1HighNs.toNat
    if bit0LowNs < tunerMinLowNs ∨ bit1LowNs < tunerMinLowNs then .badCombination
    else
      let bit0DutyProduct := timing.bit0HighNs.toUInt32 * timing.bit1PeriodNs.toUInt32
      let bit1DutyProduct := timing.bit1HighNs.toUInt32 * timing.bit0PeriodNs.toUInt32
      if bit0DutyProduct ≥ bit1DutyProduct then .badDutyOrder else .ok

theorem isOnStep_iff {value min max step : UInt16} :
    isOnStep value min max step = true ↔
      min.toNat ≤ value.toNat ∧ value.toNat ≤ max.toNat ∧ value.toNat % step.toNat = 0 := by
  unfold isOnStep
  rw [Bool.and_eq_true, Bool.and_eq_true, decide_eq_true_eq, decide_eq_true_eq, decide_eq_true_eq,
    and_assoc]
  refine and_congr UInt16.le_iff_toNat_le (and_congr UInt16.le_iff_toNat_le ?_)
  rw [← UInt16.toNat_inj, UInt16.toNat_mod]
  rfl

/-- The products of the duty comparison do not wrap, whatever the values are. -/
theorem dutyProduct_toNat (x y : UInt16) :
    (x.toUInt32 * y.toUInt32).toNat = x.toNat * y.toNat := by
  have hle : x.toNat * y.toNat ≤ 65535 * 65535 :=
    Nat.mul_le_mul (Nat.le_of_lt_succ x.toNat_lt) (Nat.le_of_lt_succ y.toNat_lt)
  rw [UInt32.toNat_mul, UInt16.toNat_toUInt32, UInt16.toNat_toUInt32, Nat.mod_eq_of_lt (by omega)]

/-! ## The rules in their order -/

/-- Rules V1 and V2: each value is in its range and on its step. -/
structure OnSteps (timing : Ws2812Timing) : Prop where
  bit0High : 100 ≤ timing.bit0HighNs.toNat ∧ timing.bit0HighNs.toNat ≤ 1200 ∧
    timing.bit0HighNs.toNat % 25 = 0
  bit0Period : 800 ≤ timing.bit0PeriodNs.toNat ∧ timing.bit0PeriodNs.toNat ≤ 2000 ∧
    timing.bit0PeriodNs.toNat % 25 = 0
  bit1High : 100 ≤ timing.bit1HighNs.toNat ∧ timing.bit1HighNs.toNat ≤ 1200 ∧
    timing.bit1HighNs.toNat % 25 = 0
  bit1Period : 800 ≤ timing.bit1PeriodNs.toNat ∧ timing.bit1PeriodNs.toNat ≤ 2000 ∧
    timing.bit1PeriodNs.toNat % 25 = 0
  reset : 50 ≤ timing.resetUs.toNat ∧ timing.resetUs.toNat ≤ 800 ∧ timing.resetUs.toNat % 10 = 0

/-- Rule V3: both bits are low for at least 100 ns. -/
structure LongLows (timing : Ws2812Timing) : Prop where
  bit0 : timing.bit0HighNs.toNat + 100 ≤ timing.bit0PeriodNs.toNat
  bit1 : timing.bit1HighNs.toNat + 100 ≤ timing.bit1PeriodNs.toNat

/-- Rule V4, as a comparison of products. -/
def DutyOrdered (timing : Ws2812Timing) : Prop :=
  timing.bit0HighNs.toNat * timing.bit1PeriodNs.toNat <
    timing.bit1HighNs.toNat * timing.bit0PeriodNs.toNat

section Rules

variable {timing : Ws2812Timing}

theorem onSteps_iff : OnSteps timing ↔
    (isOnStep timing.bit0HighNs tunerHighMinNs tunerHighMaxNs tunerStepNs &&
      isOnStep timing.bit0PeriodNs tunerPeriodMinNs tunerPeriodMaxNs tunerStepNs &&
      isOnStep timing.bit1HighNs tunerHighMinNs tunerHighMaxNs tunerStepNs &&
      isOnStep timing.bit1PeriodNs tunerPeriodMinNs tunerPeriodMaxNs tunerStepNs &&
      isOnStep timing.resetUs tunerResetMinUs tunerResetMaxUs tunerRstStepUs) = true := by
  simp only [Bool.and_eq_true, isOnStep_iff]
  constructor
  · rintro ⟨h0, p0, h1, p1, hr⟩
    exact ⟨⟨⟨⟨h0, p0⟩, h1⟩, p1⟩, hr⟩
  · rintro ⟨⟨⟨⟨h0, p0⟩, h1⟩, p1⟩, hr⟩
    exact ⟨h0, p0, h1, p1, hr⟩

theorem longLows_iff : LongLows timing ↔
    ¬ ((timing.bit0PeriodNs.toNat : Int) - timing.bit0HighNs.toNat < tunerMinLowNs ∨
      (timing.bit1PeriodNs.toNat : Int) - timing.bit1HighNs.toNat < tunerMinLowNs) := by
  rw [tunerMinLowNs, not_or]
  constructor
  · rintro ⟨h0, h1⟩
    omega
  · rintro ⟨h0, h1⟩
    exact ⟨by omega, by omega⟩

theorem dutyOrdered_iff : DutyOrdered timing ↔
    ¬ timing.bit0HighNs.toUInt32 * timing.bit1PeriodNs.toUInt32 ≥
      timing.bit1HighNs.toUInt32 * timing.bit0PeriodNs.toUInt32 := by
  rw [ge_iff_le, UInt32.le_iff_toNat_le, dutyProduct_toNat, dutyProduct_toNat, Nat.not_le]
  rfl

theorem validate_outOfRange (h : ¬ OnSteps timing) :
    validateWs2812Timing timing = .outOfRange := by
  rw [onSteps_iff, Bool.not_eq_true] at h
  rw [validateWs2812Timing, h]
  rfl

theorem validate_badCombination (hsteps : OnSteps timing) (h : ¬ LongLows timing) :
    validateWs2812Timing timing = .badCombination := by
  rw [longLows_iff, not_not] at h
  rw [validateWs2812Timing, onSteps_iff.1 hsteps, if_neg (by decide)]
  exact if_pos h

theorem validate_badDutyOrder (hsteps : OnSteps timing) (hlows : LongLows timing)
    (h : ¬ DutyOrdered timing) : validateWs2812Timing timing = .badDutyOrder := by
  rw [dutyOrdered_iff, not_not] at h
  rw [validateWs2812Timing, onSteps_iff.1 hsteps, if_neg (by decide), if_neg (longLows_iff.1 hlows)]
  exact if_pos h

theorem validate_ok (hsteps : OnSteps timing) (hlows : LongLows timing) (h : DutyOrdered timing) :
    validateWs2812Timing timing = .ok := by
  rw [validateWs2812Timing, onSteps_iff.1 hsteps, if_neg (by decide), if_neg (longLows_iff.1 hlows)]
  exact if_neg (dutyOrdered_iff.1 h)

/-- A set is accepted exactly if no rule is violated. -/
theorem validate_eq_ok_iff :
    validateWs2812Timing timing = .ok ↔ OnSteps timing ∧ LongLows timing ∧ DutyOrdered timing := by
  constructor
  · intro h
    by_cases hsteps : OnSteps timing
    · by_cases hlows : LongLows timing
      · by_cases hduty : DutyOrdered timing
        · exact ⟨hsteps, hlows, hduty⟩
        · rw [validate_badDutyOrder hsteps hlows hduty] at h
          cases h
      · rw [validate_badCombination hsteps hlows] at h
        cases h
    · rw [validate_outOfRange hsteps] at h
      cases h
  · rintro ⟨hsteps, hlows, hduty⟩
    exact validate_ok hsteps hlows hduty

end Rules

/-- A bit's high time and period are on the 25 ns grid and in range, with a low of at least 100 ns. -/
structure BitInRange (highNs periodNs : UInt16) : Prop where
  highMin : 100 ≤ highNs.toNat
  highMax : highNs.toNat ≤ 1200
  highStep : highNs.toNat % 25 = 0
  periodMax : periodNs.toNat ≤ 2000
  periodStep : periodNs.toNat % 25 = 0
  lowMin : highNs.toNat + 100 ≤ periodNs.toNat

/-- What an accepted timing set satisfies. -/
structure InRange (timing : Ws2812Timing) : Prop where
  bit0 : BitInRange timing.bit0HighNs timing.bit0PeriodNs
  bit1 : BitInRange timing.bit1HighNs timing.bit1PeriodNs
  resetMin : 50 ≤ timing.resetUs.toNat
  resetMax : timing.resetUs.toNat ≤ 800

theorem inRange_of_valid {timing : Ws2812Timing} (h : validateWs2812Timing timing = .ok) :
    InRange timing := by
  obtain ⟨hsteps, hlows, -⟩ := validate_eq_ok_iff.1 h
  obtain ⟨hmin0, hmax0, hstep0⟩ := hsteps.bit0High
  obtain ⟨-, pmax0, pstep0⟩ := hsteps.bit0Period
  obtain ⟨hmin1, hmax1, hstep1⟩ := hsteps.bit1High
  obtain ⟨-, pmax1, pstep1⟩ := hsteps.bit1Period
  exact ⟨⟨hmin0, hmax0, hstep0, pmax0, pstep0, hlows.bit0⟩,
    ⟨hmin1, hmax1, hstep1, pmax1, pstep1, hlows.bit1⟩, hsteps.reset.1, hsteps.reset.2.1⟩

end StripTuner.Ws2812
