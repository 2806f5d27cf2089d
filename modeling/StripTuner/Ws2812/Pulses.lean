import Mathlib.Algebra.Order.BigOperators.Group.List
import Mathlib.Algebra.Order.Ring.Nat
import Mathlib.Algebra.Group.Action.Defs
import StripTuner.Ws2812.Symbols

/-!
# Measured pulses

The pure functions of `rmt_pulse_monitor.c`: the class of a captured symbol, the statistics of a
capture of the own frame, and the analysis of a foreign one.
-/

namespace StripTuner.Ws2812

/-- `RMT_PULSE_MONITOR_TICK_NS`. -/
abbrev rmtPulseMonitorTickNs : UInt32 := 25

/-- `RMT_PULSE_MONITOR_IDLE_NS`. -/
abbrev rmtPulseMonitorIdleNs : Nat := 25000

/-- `RMT_PULSE_MONITOR_DATA_SYMBOLS`. -/
abbrev rmtPulseMonitorDataSymbols : Nat := 144

/-! ## One symbol -/

/-- `ws2812_symbol_class_t`. -/
inductive Ws2812SymbolClass where
  | bit0
  | bit1
  | invalid
deriving DecidableEq

/-- `Ws2812TicksToNs()`. -/
def ws2812TicksToNs (ticks tickNs : UInt32) : UInt32 := ticks * tickNs

/-- A duration field as the integer it is promoted to. -/
def fieldTicks (duration : BitVec 15) : UInt32 := UInt32.ofNat duration.toNat

/-- `DecodeWs2812Symbol()`. -/
def decodeWs2812Symbol (symbol : RmtSymbol) (bit0HighNs bit1HighNs tickNs : UInt32) :
    Ws2812SymbolClass :=
  if symbol.level0 ≠ true then .invalid
  else
    let highNs := ws2812TicksToNs (fieldTicks symbol.duration0) tickNs
    let bit0DistanceNs := if highNs > bit0HighNs then highNs - bit0HighNs else bit0HighNs - highNs
    let bit1DistanceNs := if highNs > bit1HighNs then highNs - bit1HighNs else bit1HighNs - highNs
    if bit0DistanceNs ≤ bit1DistanceNs then .bit0 else .bit1

/-! ## A capture of the own frame -/

/-- The variables that `AggregateWs2812Pulses()` keeps for one of the two bits. -/
structure ClassTotals where
  firstHighNs : UInt32
  firstLowNs : UInt32
  hasExample : Bool
  sumNs : UInt64
  count : UInt32
  minNs : UInt32
  maxNs : UInt32

def ClassTotals.zero : ClassTotals where
  firstHighNs := 0
  firstLowNs := 0
  hasExample := false
  sumNs := 0
  count := 0
  minNs := 0xFFFFFFFF
  maxNs := 0

/-- One symbol of the class. -/
structure PulseSample where
  highNs : UInt32
  lowNs : UInt32
  hasLowTime : Bool

/-- The branch of the loop for one of the two bits. -/
def ClassTotals.add (totals : ClassTotals) (sample : PulseSample) : ClassTotals :=
  let isExample := !totals.hasExample && sample.hasLowTime
  { firstHighNs := if isExample then sample.highNs else totals.firstHighNs
    firstLowNs := if isExample then sample.lowNs else totals.firstLowNs
    hasExample := if isExample then true else totals.hasExample
    sumNs := totals.sumNs + sample.highNs.toUInt64
    count := totals.count + 1
    minNs := if sample.highNs < totals.minNs then sample.highNs else totals.minNs
    maxNs := if sample.highNs > totals.maxNs then sample.highNs else totals.maxNs }

def ClassTotals.highMinNs (totals : ClassTotals) : UInt32 :=
  if totals.count > 0 then totals.minNs else 0

def ClassTotals.highAvgNs (totals : ClassTotals) : UInt32 :=
  if totals.count > 0 then
    ((totals.sumNs + (totals.count / 2).toUInt64) / totals.count.toUInt64).toUInt32
  else 0

/-- `ws2812_pulse_stats_t`. -/
structure Ws2812PulseStats where
  bit0FirstHighNs : UInt32
  bit0FirstLowNs : UInt32
  bit1FirstHighNs : UInt32
  bit1FirstLowNs : UInt32
  bit0HighMinNs : UInt32
  bit0HighMaxNs : UInt32
  bit0HighAvgNs : UInt32
  bit1HighMinNs : UInt32
  bit1HighMaxNs : UInt32
  bit1HighAvgNs : UInt32
  matchCount : UInt32
  matchAvailable : Bool

/-- The variables of the loop. -/
structure PulseTotals where
  bit0 : ClassTotals
  bit1 : ClassTotals
  matchCount : UInt32

/-- The bit of the expected buffer at a symbol index; 0 behind its end. -/
def expectedBit (expectedPixelGrb : List UInt8) (index : Nat) : Bool :=
  index / 8 < expectedPixelGrb.length &&
    (expectedPixelGrb.getD (index / 8) 0).toNat.testBit (7 - index % 8)

def isMatchAvailable (timing : Ws2812Timing) : Bool := timing.bit0HighNs ≠ timing.bit1HighNs

def symbolClass (timing : Ws2812Timing) (tickNs : UInt32) (symbol : RmtSymbol) :
    Ws2812SymbolClass :=
  decodeWs2812Symbol symbol timing.bit0HighNs.toUInt32 timing.bit1HighNs.toUInt32 tickNs

/-- The bit whose statistics a valid symbol goes to. -/
def statsBit (timing : Ws2812Timing) (expectedPixelGrb : List UInt8) (tickNs : UInt32)
    (symbol : RmtSymbol) (index : Nat) : Bool :=
  if isMatchAvailable timing then symbolClass timing tickNs symbol = .bit1
  else expectedBit expectedPixelGrb index

/-- The last symbol has no low time: its `duration1` is the end marker. -/
def pulseSample (tickNs : UInt32) (symbol : RmtSymbol) (index : Nat) : PulseSample where
  highNs := ws2812TicksToNs (fieldTicks symbol.duration0) tickNs
  lowNs := ws2812TicksToNs (fieldTicks symbol.duration1) tickNs
  hasLowTime := index + 1 < rmtPulseMonitorDataSymbols

/-- One iteration of the loop of `AggregateWs2812Pulses()`. -/
def aggregateStep (timing : Ws2812Timing) (expectedPixelGrb : List UInt8) (tickNs : UInt32)
    (totals : PulseTotals) (entry : RmtSymbol × Nat) : PulseTotals :=
  let symbol := entry.1
  let index := entry.2
  if symbolClass timing tickNs symbol = .invalid then totals
  else
    let decodedBit : Bool := symbolClass timing tickNs symbol = .bit1
    let isMatch := isMatchAvailable timing && decodedBit = expectedBit expectedPixelGrb index
    let matchCount := if isMatch then totals.matchCount + 1 else totals.matchCount
    if !statsBit timing expectedPixelGrb tickNs symbol index then
      { totals with
        bit0 := totals.bit0.add (pulseSample tickNs symbol index)
        matchCount := matchCount }
    else
      { totals with
        bit1 := totals.bit1.add (pulseSample tickNs symbol index)
        matchCount := matchCount }

/-- `AggregateWs2812Pulses()`; `symbol_count` is the length of the list. -/
def aggregateWs2812Pulses (symbols : List RmtSymbol) (timing : Ws2812Timing)
    (expectedPixelGrb : List UInt8) (tickNs : UInt32) : Option Ws2812PulseStats :=
  if symbols.length ≠ rmtPulseMonitorDataSymbols then none
  else
    let totals := symbols.zipIdx.foldl (aggregateStep timing expectedPixelGrb tickNs)
      ⟨.zero, .zero, 0⟩
    some
      { bit0FirstHighNs := totals.bit0.firstHighNs
        bit0FirstLowNs := totals.bit0.firstLowNs
        bit1FirstHighNs := totals.bit1.firstHighNs
        bit1FirstLowNs := totals.bit1.firstLowNs
        bit0HighMinNs := totals.bit0.highMinNs
        bit0HighMaxNs := totals.bit0.maxNs
        bit0HighAvgNs := totals.bit0.highAvgNs
        bit1HighMinNs := totals.bit1.highMinNs
        bit1HighMaxNs := totals.bit1.maxNs
        bit1HighAvgNs := totals.bit1.highAvgNs
        matchCount := totals.matchCount
        matchAvailable := isMatchAvailable timing }

/-! ## A capture of a foreign frame -/

/-- `RMT_PULSE_MONITOR_READ_MIN_BITS`. -/
abbrev rmtPulseMonitorReadMinBits : UInt32 := 8

/-- `RMT_PULSE_MONITOR_READ_SPLIT_MIN_NS`. -/
abbrev rmtPulseMonitorReadSplitMinNs : UInt32 := 100

/-- `RMT_PULSE_MONITOR_READ_SINGLE_SPLIT_NS`. -/
abbrev rmtPulseMonitorReadSingleSplitNs : UInt32 := 625

/-- `ws2812_read_stats_t`. -/
structure Ws2812ReadStats where
  usableCount : UInt32
  bit0Count : UInt32
  bit0HighAvgNs : UInt32
  bit0PeriodAvgNs : UInt32
  bit1Count : UInt32
  bit1HighAvgNs : UInt32
  bit1PeriodAvgNs : UInt32

/-- `IsReadSymbolUsable()`. -/
def isReadSymbolUsable (symbol : RmtSymbol) (index symbolCount : Nat) : Bool :=
  index + 1 < symbolCount && symbol.level0 && !symbol.level1 && 0 < symbol.duration0.toNat &&
    0 < symbol.duration1.toNat

/-- The symbols that neither loop of `AnalyzeWs2812Read()` skips. -/
def usableSymbols (symbols : List RmtSymbol) : List RmtSymbol :=
  (symbols.zipIdx.filter fun entry => isReadSymbolUsable entry.1 entry.2 symbols.length).map
    Prod.fst

/-- `GetRoundedAverage()`. -/
def getRoundedAverage (sum count : UInt32) : UInt32 := if count > 0 then (sum + count / 2) / count else 0

/-- The variables of the first loop. -/
structure ReadSpread where
  minNs : UInt32
  maxNs : UInt32
  usableCount : UInt32

def ReadSpread.add (tickNs : UInt32) (spread : ReadSpread) (symbol : RmtSymbol) : ReadSpread :=
  let highNs := ws2812TicksToNs (fieldTicks symbol.duration0) tickNs
  { minNs := if highNs < spread.minNs then highNs else spread.minNs
    maxNs := if highNs > spread.maxNs then highNs else spread.maxNs
    usableCount := spread.usableCount + 1 }

/-- The variables of the second loop for one of the two bits. -/
structure ReadTotals where
  highSumNs : UInt32
  periodSumNs : UInt32
  count : UInt32

def ReadTotals.add (tickNs : UInt32) (totals : ReadTotals) (symbol : RmtSymbol) : ReadTotals where
  highSumNs := totals.highSumNs + ws2812TicksToNs (fieldTicks symbol.duration0) tickNs
  periodSumNs := totals.periodSumNs +
    ws2812TicksToNs (fieldTicks symbol.duration0 + fieldTicks symbol.duration1) tickNs
  count := totals.count + 1

/-- The class of a usable symbol: two classes split at the midpoint, or a single one. -/
def isReadBit0 (tickNs : UInt32) (spread : ReadSpread) (symbol : RmtSymbol) : Bool :=
  let highNs := ws2812TicksToNs (fieldTicks symbol.duration0) tickNs
  if spread.maxNs - spread.minNs ≥ rmtPulseMonitorReadSplitMinNs then
    2 * highNs ≤ spread.minNs + spread.maxNs
  else spread.minNs + spread.maxNs ≤ 2 * rmtPulseMonitorReadSingleSplitNs

/-- `AnalyzeWs2812Read()`: what it returns, and the measurement. -/
def analyzeWs2812Read (symbols : List RmtSymbol) (tickNs : UInt32) : Bool × Ws2812ReadStats :=
  let usable := usableSymbols symbols
  let spread := usable.foldl (ReadSpread.add tickNs) ⟨0xFFFFFFFF, 0, 0⟩
  if spread.usableCount = 0 then (false, ⟨0, 0, 0, 0, 0, 0, 0⟩)
  else
    let bit0 := (usable.filter (isReadBit0 tickNs spread)).foldl (ReadTotals.add tickNs) ⟨0, 0, 0⟩
    let bit1 := (usable.filter fun symbol => !isReadBit0 tickNs spread symbol).foldl
      (ReadTotals.add tickNs) ⟨0, 0, 0⟩
    (spread.usableCount ≥ rmtPulseMonitorReadMinBits,
      { usableCount := spread.usableCount
        bit0Count := bit0.count
        bit0HighAvgNs := getRoundedAverage bit0.highSumNs bit0.count
        bit0PeriodAvgNs := getRoundedAverage bit0.periodSumNs bit0.count
        bit1Count := bit1.count
        bit1HighAvgNs := getRoundedAverage bit1.highSumNs bit1.count
        bit1PeriodAvgNs := getRoundedAverage bit1.periodSumNs bit1.count })

/-! ## The loop as a sum over classes -/

/-- The sample that a symbol adds to one of the two bits. -/
def classSample (timing : Ws2812Timing) (expectedPixelGrb : List UInt8) (tickNs : UInt32)
    (bit : Bool) (entry : RmtSymbol × Nat) : Option PulseSample :=
  if symbolClass timing tickNs entry.1 ≠ .invalid ∧
      statsBit timing expectedPixelGrb tickNs entry.1 entry.2 = bit then
    some (pulseSample tickNs entry.1 entry.2)
  else none

/-- The symbol is decoded as the expected bit. -/
def isMatch (timing : Ws2812Timing) (expectedPixelGrb : List UInt8) (tickNs : UInt32)
    (entry : RmtSymbol × Nat) : Bool :=
  symbolClass timing tickNs entry.1 ≠ .invalid && (isMatchAvailable timing &&
    (symbolClass timing tickNs entry.1 = .bit1 : Bool) = expectedBit expectedPixelGrb entry.2)

def PulseTotals.ofBit (totals : PulseTotals) (bit : Bool) : ClassTotals :=
  if bit then totals.bit1 else totals.bit0

section Loop

variable {timing : Ws2812Timing} {expectedPixelGrb : List UInt8} {tickNs : UInt32}

theorem ofBit_aggregateStep (totals : PulseTotals) (entry : RmtSymbol × Nat) (bit : Bool) :
    (aggregateStep timing expectedPixelGrb tickNs totals entry).ofBit bit =
      match classSample timing expectedPixelGrb tickNs bit entry with
      | some sample => (totals.ofBit bit).add sample
      | none => totals.ofBit bit := by
  unfold aggregateStep classSample PulseTotals.ofBit
  by_cases hinvalid : symbolClass timing tickNs entry.1 = .invalid
  · simp [hinvalid]
  · cases hbit : statsBit timing expectedPixelGrb tickNs entry.1 entry.2 <;> cases bit <;>
      simp [hinvalid, hbit]

theorem matchCount_aggregateStep (totals : PulseTotals) (entry : RmtSymbol × Nat) :
    (aggregateStep timing expectedPixelGrb tickNs totals entry).matchCount =
      if isMatch timing expectedPixelGrb tickNs entry then totals.matchCount + 1
      else totals.matchCount := by
  unfold aggregateStep isMatch
  by_cases hinvalid : symbolClass timing tickNs entry.1 = .invalid
  · simp [hinvalid]
  · cases hbit : statsBit timing expectedPixelGrb tickNs entry.1 entry.2 <;>
      simp [hinvalid, hbit]

/-- Each class is the sum of its own samples. -/
theorem ofBit_foldl (entries : List (RmtSymbol × Nat)) (totals : PulseTotals) (bit : Bool) :
    (entries.foldl (aggregateStep timing expectedPixelGrb tickNs) totals).ofBit bit =
      (entries.filterMap (classSample timing expectedPixelGrb tickNs bit)).foldl ClassTotals.add
        (totals.ofBit bit) := by
  induction entries generalizing totals with
  | nil => rfl
  | cons entry entries ih =>
      rw [List.foldl_cons, ih, ofBit_aggregateStep, List.filterMap_cons]
      cases classSample timing expectedPixelGrb tickNs bit entry <;> rfl

theorem matchCount_foldl (entries : List (RmtSymbol × Nat)) (totals : PulseTotals)
    (h : totals.matchCount.toNat + entries.length < 2 ^ 32) :
    (entries.foldl (aggregateStep timing expectedPixelGrb tickNs) totals).matchCount.toNat =
      totals.matchCount.toNat + entries.countP (isMatch timing expectedPixelGrb tickNs) := by
  induction entries generalizing totals with
  | nil => rfl
  | cons entry entries ih =>
      rw [List.length_cons] at h
      have hstep : (aggregateStep timing expectedPixelGrb tickNs totals entry).matchCount = _ :=
        matchCount_aggregateStep totals entry
      rw [List.foldl_cons, List.countP_cons]
      by_cases hmatch : isMatch timing expectedPixelGrb tickNs entry = true
      · rw [if_pos hmatch] at hstep
        have hone : (totals.matchCount + 1).toNat = totals.matchCount.toNat + 1 := by
          have hlit : (1 : UInt32).toNat = 1 := rfl
          rw [UInt32.toNat_add, hlit]
          omega
        rw [ih _ (by rw [hstep, hone]; omega), hstep, hone, if_pos hmatch]
        omega
      · rw [if_neg hmatch] at hstep
        rw [ih _ (by rw [hstep]; omega), hstep, if_neg hmatch, Nat.add_zero]

end Loop

/-! ## Sums and averages -/

/-- The average, rounded half up. -/
def roundedAverage (xs : List Nat) : Nat := (xs.sum + xs.length / 2) / xs.length

/-- The average lies between the bounds of its values. -/
theorem roundedAverage_bounds {xs : List Nat} {lo hi : Nat} (hne : xs ≠ [])
    (hlo : ∀ x ∈ xs, lo ≤ x) (hhi : ∀ x ∈ xs, x ≤ hi) :
    lo ≤ roundedAverage xs ∧ roundedAverage xs ≤ hi := by
  have hpos : 0 < xs.length := List.length_pos_iff.mpr hne
  have hsumLo := List.card_nsmul_le_sum xs lo hlo
  have hsumHi := List.sum_le_card_nsmul xs hi hhi
  rw [smul_eq_mul] at hsumLo hsumHi
  unfold roundedAverage
  constructor
  · rw [Nat.le_div_iff_mul_le hpos, Nat.mul_comm]
    omega
  · rw [← Nat.lt_succ_iff, Nat.div_lt_iff_lt_mul hpos, Nat.succ_mul, Nat.mul_comm hi]
    omega

def sampleHighs (samples : List PulseSample) : List Nat := samples.map fun sample => sample.highNs.toNat

theorem sumNs_foldl (samples : List PulseSample) (totals : ClassTotals)
    (h : totals.sumNs.toNat + (sampleHighs samples).sum < 2 ^ 64) :
    (samples.foldl ClassTotals.add totals).sumNs.toNat =
      totals.sumNs.toNat + (sampleHighs samples).sum := by
  induction samples generalizing totals with
  | nil => rfl
  | cons sample samples ih =>
      unfold sampleHighs at h ih ⊢
      rw [List.map_cons, List.sum_cons] at h ⊢
      have hadd : (totals.add sample).sumNs.toNat = totals.sumNs.toNat + sample.highNs.toNat := by
        show (totals.sumNs + sample.highNs.toUInt64).toNat = _
        rw [UInt64.toNat_add, UInt32.toNat_toUInt64]
        omega
      rw [List.foldl_cons, ih _ (by rw [hadd]; omega), hadd]
      omega

theorem count_foldl (samples : List PulseSample) (totals : ClassTotals)
    (h : totals.count.toNat + samples.length < 2 ^ 32) :
    (samples.foldl ClassTotals.add totals).count.toNat = totals.count.toNat + samples.length := by
  induction samples generalizing totals with
  | nil => rfl
  | cons sample samples ih =>
      rw [List.length_cons] at h ⊢
      have hadd : (totals.add sample).count.toNat = totals.count.toNat + 1 := by
        have hlit : (1 : UInt32).toNat = 1 := rfl
        show (totals.count + 1).toNat = _
        rw [UInt32.toNat_add, hlit]
        omega
      rw [List.foldl_cons, ih _ (by rw [hadd]; omega), hadd]
      omega

/-- The average of a class is the rounded average of its high times. -/
theorem highAvgNs_foldl {samples : List PulseSample} (hne : samples ≠ [])
    (hlength : samples.length < 2 ^ 31) :
    (samples.foldl ClassTotals.add .zero).highAvgNs.toNat = roundedAverage (sampleHighs samples) := by
  have hlen : (sampleHighs samples).length = samples.length := List.length_map _
  have hpos : 0 < samples.length := List.length_pos_iff.mpr hne
  have hhigh : ∀ x ∈ sampleHighs samples, x ≤ 2 ^ 32 - 1 := by
    intro x hx
    obtain ⟨sample, -, rfl⟩ := List.mem_map.mp hx
    have hlt := sample.highNs.toNat_lt
    omega
  have hsumle := List.sum_le_card_nsmul _ _ hhigh
  rw [hlen, smul_eq_mul] at hsumle
  have hsumlt : (sampleHighs samples).sum + samples.length < 2 ^ 64 := by omega
  have hsum : (samples.foldl ClassTotals.add .zero).sumNs.toNat = (sampleHighs samples).sum := by
    have hfold := sumNs_foldl samples .zero
    have hzero : ClassTotals.zero.sumNs.toNat = 0 := rfl
    rw [hzero, Nat.zero_add] at hfold
    exact hfold (by omega)
  have hcount : (samples.foldl ClassTotals.add .zero).count.toNat = samples.length := by
    have hfold := count_foldl samples .zero
    have hzero : ClassTotals.zero.count.toNat = 0 := rfl
    rw [hzero, Nat.zero_add] at hfold
    exact hfold (by omega)
  have hcountPos : (samples.foldl ClassTotals.add .zero).count > 0 := by
    rw [gt_iff_lt, UInt32.lt_iff_toNat_lt, hcount]
    exact hpos
  have hhighs : sampleHighs samples ≠ [] := by
    rwa [ne_eq, ← List.length_eq_zero_iff, hlen, List.length_eq_zero_iff]
  have hbound : 0 ≤ roundedAverage (sampleHighs samples) ∧
      roundedAverage (sampleHighs samples) ≤ 2 ^ 32 - 1 :=
    roundedAverage_bounds hhighs (fun _ _ => Nat.zero_le _) hhigh
  have hhalf : ((samples.foldl ClassTotals.add .zero).count / 2).toNat = samples.length / 2 := by
    rw [UInt32.toNat_div, hcount]
    rfl
  unfold ClassTotals.highAvgNs
  rw [if_pos hcountPos, UInt64.toNat_toUInt32, UInt64.toNat_div, UInt64.toNat_add,
    UInt32.toNat_toUInt64, UInt32.toNat_toUInt64, hsum, hcount, hhalf,
    Nat.mod_eq_of_lt (by omega : (sampleHighs samples).sum + samples.length / 2 < 2 ^ 64)]
  unfold roundedAverage at hbound ⊢
  rw [hlen] at hbound ⊢
  exact Nat.mod_eq_of_lt (by omega)

end StripTuner.Ws2812
