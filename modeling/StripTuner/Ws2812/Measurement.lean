import StripTuner.Lib.Averages
import StripTuner.Ws2812.Agreement

/-!
# What a capture of the own frame measures

`AggregateWs2812Pulses()` against a list specification in integers: the valid symbols of each bit,
with the least, greatest and mean of their high times, and the positions decoded as expected.
-/

namespace StripTuner.Ws2812

open Averages

/-! ## The list specification -/

/-- The measured low time, in nanoseconds. -/
def RmtSymbol.lowNs (symbol : RmtSymbol) : Nat := symbol.duration1.toNat * 25

/-- The bit a valid symbol stands for: the one with the nearer high time, 0 when neither is. -/
def decodedBit (timing : Ws2812Timing) (symbol : RmtSymbol) : Option Bool :=
  if symbol.level0 then
    some (((symbol.highNs : ℤ) - timing.bit1HighNs.toNat).natAbs <
      ((symbol.highNs : ℤ) - timing.bit0HighNs.toNat).natAbs)
  else none

/-- The bit sent at a position; 0 past the buffer. -/
def sentBit (expectedPixelGrb : List UInt8) (index : Nat) : Bool :=
  (dataBits true expectedPixelGrb).getD index false

/-- The class of a position: by the decoded bit, or the bit sent when the high times are equal. -/
def measuredBit (timing : Ws2812Timing) (expectedPixelGrb : List UInt8)
    (entry : RmtSymbol × Nat) : Option Bool :=
  (decodedBit timing entry.1).map fun bit =>
    if timing.bit0HighNs = timing.bit1HighNs then sentBit expectedPixelGrb entry.2 else bit

/-- The positions of a class. -/
def classEntries (symbols : List RmtSymbol) (timing : Ws2812Timing) (expectedPixelGrb : List UInt8)
    (bit : Bool) : List (RmtSymbol × Nat) :=
  symbols.zipIdx.filter fun entry => measuredBit timing expectedPixelGrb entry = some bit

/-- A class's high times. -/
def highTimes (entries : List (RmtSymbol × Nat)) : List Nat :=
  entries.map fun entry => entry.1.highNs

/-- The first position of a class that is not the last of the capture. -/
def firstExample (entries : List (RmtSymbol × Nat)) : Option (RmtSymbol × Nat) :=
  entries.find? fun entry => entry.2 + 1 < rmtPulseMonitorDataSymbols

/-- What is reported for a class: the extremes and the mean of its high times, rounded half up, and
its first example. -/
structure Measures (entries : List (RmtSymbol × Nat))
    (firstHighNs firstLowNs highMinNs highMaxNs highAvgNs : UInt32) : Prop where
  min : highMinNs.toNat = (highTimes entries).min?.getD 0
  max : highMaxNs.toNat = (highTimes entries).max?.getD 0
  avg : (highAvgNs.toNat : ℤ) = round (mean (highTimes entries))
  ordered : highMinNs ≤ highAvgNs ∧ highAvgNs ≤ highMaxNs
  empty : entries = [] → highMinNs = 0 ∧ highMaxNs = 0 ∧ highAvgNs = 0
  firstHigh : firstHighNs.toNat = ((firstExample entries).map fun e => e.1.highNs).getD 0
  firstLow : firstLowNs.toNat = ((firstExample entries).map fun e => e.1.lowNs).getD 0

/-- The position is decoded as the bit sent, where the timing tells the bits apart. -/
def isMatched (timing : Ws2812Timing) (expectedPixelGrb : List UInt8)
    (entry : RmtSymbol × Nat) : Bool :=
  timing.bit0HighNs ≠ timing.bit1HighNs &&
    decodedBit timing entry.1 = some (sentBit expectedPixelGrb entry.2)

/-- A valid symbol that is not matched. -/
def isMismatched (timing : Ws2812Timing) (expectedPixelGrb : List UInt8)
    (entry : RmtSymbol × Nat) : Bool :=
  (decodedBit timing entry.1).isSome && !isMatched timing expectedPixelGrb entry

/-- A symbol that is no data bit. -/
def isInvalid (timing : Ws2812Timing) (entry : RmtSymbol × Nat) : Bool :=
  (decodedBit timing entry.1).isNone

/-! ## One symbol -/

section Symbol

variable {timing : Ws2812Timing} {expectedPixelGrb : List UInt8}

/-- The decoder's class is the decoded bit. -/
theorem symbolClass_eq (symbol : RmtSymbol) :
    symbolClass timing rmtPulseMonitorTickNs symbol =
      match decodedBit timing symbol with
      | none => .invalid
      | some false => .bit0
      | some true => .bit1 := by
  cases hlevel : symbol.level0 with
  | false =>
      rw [symbolClass, decodeWs2812Symbol, decodedBit, hlevel, if_pos (by decide),
        if_neg (by decide)]
  | true =>
      rw [symbolClass_of_level hlevel, decodedBit, if_pos hlevel]
      by_cases hnear : ((symbol.highNs : ℤ) - timing.bit1HighNs.toNat).natAbs <
          ((symbol.highNs : ℤ) - timing.bit0HighNs.toNat).natAbs
      · rw [if_neg (Nat.not_le.2 hnear), decide_eq_true hnear]
      · rw [if_pos (Nat.not_lt.1 hnear), decide_eq_false hnear]

theorem expectedBit_eq_sentBit (index : Nat) :
    expectedBit expectedPixelGrb index = sentBit expectedPixelGrb index := by
  rw [sentBit, List.getD_eq_getElem?_getD]
  by_cases hindex : index < 8 * expectedPixelGrb.length
  · have hbit := getElem?_dataBits hindex
    rw [hbit, Option.getD_some, expectedBit_eq hbit]
  · have hpast : ¬ index / 8 < expectedPixelGrb.length := by omega
    rw [List.getElem?_eq_none (by rw [length_dataBits]; omega), Option.getD_none, expectedBit,
      decide_eq_false hpast, Bool.false_and]

theorem isMatchAvailable_eq :
    isMatchAvailable timing = !decide (timing.bit0HighNs = timing.bit1HighNs) := by
  rw [isMatchAvailable]
  by_cases heq : timing.bit0HighNs = timing.bit1HighNs <;> simp [heq]

/-- The loop's branch for a symbol is its measured bit. -/
theorem classSample_eq (bit : Bool) (entry : RmtSymbol × Nat) :
    classSample timing expectedPixelGrb rmtPulseMonitorTickNs bit entry =
      if measuredBit timing expectedPixelGrb entry = some bit then
        some (pulseSample rmtPulseMonitorTickNs entry.1 entry.2)
      else none := by
  rw [classSample, statsBit, symbolClass_eq, isMatchAvailable_eq, measuredBit,
    expectedBit_eq_sentBit]
  cases hdecoded : decodedBit timing entry.1 with
  | none => simp
  | some decoded =>
      by_cases heq : timing.bit0HighNs = timing.bit1HighNs <;> cases decoded <;> simp [heq]

theorem isMatch_eq (entry : RmtSymbol × Nat) :
    isMatch timing expectedPixelGrb rmtPulseMonitorTickNs entry =
      isMatched timing expectedPixelGrb entry := by
  rw [isMatch, isMatched, symbolClass_eq, isMatchAvailable_eq, expectedBit_eq_sentBit]
  cases hdecoded : decodedBit timing entry.1 with
  | none => simp
  | some decoded => cases decoded <;> cases sentBit expectedPixelGrb entry.2 <;> simp

end Symbol

/-! ## One class -/

section Class

/-- The samples of a class are those of its positions. -/
theorem filterMap_classSample (symbols : List RmtSymbol) (timing : Ws2812Timing)
    (expectedPixelGrb : List UInt8) (bit : Bool) :
    symbols.zipIdx.filterMap (classSample timing expectedPixelGrb rmtPulseMonitorTickNs bit) =
      (classEntries symbols timing expectedPixelGrb bit).map fun entry =>
        pulseSample rmtPulseMonitorTickNs entry.1 entry.2 := by
  rw [classEntries]
  induction symbols.zipIdx with
  | nil => rfl
  | cons entry entries ih =>
      rw [List.filterMap_cons, List.filter_cons, classSample_eq, ih]
      by_cases hbit : measuredBit timing expectedPixelGrb entry = some bit <;> simp [hbit]

theorem sampleHighs_map (entries : List (RmtSymbol × Nat)) :
    sampleHighs (entries.map fun entry => pulseSample rmtPulseMonitorTickNs entry.1 entry.2) =
      highTimes entries := by
  rw [sampleHighs, highTimes, List.map_map]
  apply List.map_congr_left
  intro entry _
  exact toNat_ticksToNs entry.1.duration0

/-- The running minimum. -/
theorem minNs_foldl (samples : List PulseSample) (totals : ClassTotals) :
    (samples.foldl ClassTotals.add totals).minNs.toNat =
      (sampleHighs samples).foldl min totals.minNs.toNat := by
  induction samples generalizing totals with
  | nil => rfl
  | cons sample samples ih =>
      have hadd : (totals.add sample).minNs.toNat =
          min totals.minNs.toNat sample.highNs.toNat := by
        rw [ClassTotals.add, apply_ite UInt32.toNat]
        by_cases hlt : sample.highNs < totals.minNs
        · rw [if_pos hlt]
          rw [UInt32.lt_iff_toNat_lt] at hlt
          omega
        · rw [if_neg hlt]
          rw [UInt32.lt_iff_toNat_lt] at hlt
          omega
      rw [List.foldl_cons, ih, hadd, sampleHighs, sampleHighs, List.map_cons, List.foldl_cons]

/-- The running maximum. -/
theorem maxNs_foldl (samples : List PulseSample) (totals : ClassTotals) :
    (samples.foldl ClassTotals.add totals).maxNs.toNat =
      (sampleHighs samples).foldl max totals.maxNs.toNat := by
  induction samples generalizing totals with
  | nil => rfl
  | cons sample samples ih =>
      have hadd : (totals.add sample).maxNs.toNat =
          max totals.maxNs.toNat sample.highNs.toNat := by
        rw [ClassTotals.add, apply_ite UInt32.toNat]
        by_cases hgt : sample.highNs > totals.maxNs
        · rw [if_pos hgt]
          rw [gt_iff_lt, UInt32.lt_iff_toNat_lt] at hgt
          omega
        · rw [if_neg hgt]
          rw [gt_iff_lt, UInt32.lt_iff_toNat_lt] at hgt
          omega
      rw [List.foldl_cons, ih, hadd, sampleHighs, sampleHighs, List.map_cons, List.foldl_cons]

/-- The example is kept once there is one. -/
theorem example_foldl (samples : List PulseSample) (totals : ClassTotals) :
    let found := if totals.hasExample then none else samples.find? PulseSample.hasLowTime
    (samples.foldl ClassTotals.add totals).firstHighNs =
        (found.map PulseSample.highNs).getD totals.firstHighNs ∧
      (samples.foldl ClassTotals.add totals).firstLowNs =
        (found.map PulseSample.lowNs).getD totals.firstLowNs := by
  induction samples generalizing totals with
  | nil => cases totals.hasExample <;> exact ⟨rfl, rfl⟩
  | cons sample samples ih =>
      rw [List.foldl_cons]
      have hrest := ih (totals.add sample)
      cases hhas : totals.hasExample <;> cases hlow : sample.hasLowTime <;>
        simpa [ClassTotals.add, hhas, hlow] using hrest

/-- The loop's variables for one bit. -/
def classTotals (entries : List (RmtSymbol × Nat)) : ClassTotals :=
  (entries.map fun entry => pulseSample rmtPulseMonitorTickNs entry.1 entry.2).foldl
    ClassTotals.add .zero

theorem toNat_count_classTotals {entries : List (RmtSymbol × Nat)}
    (hlength : entries.length < 2 ^ 31) : (classTotals entries).count.toNat = entries.length := by
  have hzero : ClassTotals.zero.count.toNat = 0 := by decide
  rw [classTotals, count_foldl _ _ (by rw [hzero, List.length_map]; omega), hzero, List.length_map,
    Nat.zero_add]

theorem count_pos_classTotals {entries : List (RmtSymbol × Nat)} (hlength : entries.length < 2 ^ 31)
    (hne : entries ≠ []) : (classTotals entries).count > 0 := by
  rw [gt_iff_lt, UInt32.lt_iff_toNat_lt, toNat_count_classTotals hlength]
  exact List.length_pos_iff.2 hne

/-- The last of the loop's numbers for a class that is not empty. -/
theorem extremes_classTotals {entries : List (RmtSymbol × Nat)} (hlength : entries.length < 2 ^ 31)
    (hne : entries ≠ []) :
    (highTimes entries).min? = some (classTotals entries).highMinNs.toNat ∧
      (highTimes entries).max? = some (classTotals entries).maxNs.toNat ∧
      (classTotals entries).highAvgNs.toNat = roundedAverage (highTimes entries) := by
  have htop : ClassTotals.zero.minNs.toNat = 2 ^ 32 - 1 := by decide
  have hbottom : ClassTotals.zero.maxNs.toNat = 0 := by decide
  have hhighs : highTimes entries ≠ [] := by
    rwa [highTimes, ne_eq, List.map_eq_nil_iff]
  have hbelow : ∀ x ∈ highTimes entries, x ≤ 2 ^ 32 - 1 := by
    intro x hx
    obtain ⟨entry, -, rfl⟩ := List.mem_map.1 hx
    have hlt : entry.1.duration0.toNat < 2 ^ 15 := entry.1.duration0.isLt
    rw [RmtSymbol.highNs]
    omega
  have hsamples : (entries.map fun entry =>
      pulseSample rmtPulseMonitorTickNs entry.1 entry.2) ≠ [] := by
    rwa [ne_eq, List.map_eq_nil_iff]
  refine ⟨?_, ?_, ?_⟩
  · rw [ClassTotals.highMinNs, if_pos (count_pos_classTotals hlength hne), classTotals, minNs_foldl,
      sampleHighs_map, htop]
    exact foldl_min_eq hhighs hbelow
  · rw [classTotals, maxNs_foldl, sampleHighs_map, hbottom, foldl_max_eq]
    obtain ⟨most, hmost⟩ := Option.isSome_iff_exists.1 (List.isSome_max?_of_ne_nil hhighs)
    rw [hmost, Option.getD_some]
  · rw [classTotals, highAvgNs_foldl hsamples (by rwa [List.length_map]), sampleHighs_map]

/-- What the loop keeps for a class is what the class measures. -/
theorem measures_classTotals {entries : List (RmtSymbol × Nat)} (hlength : entries.length < 2 ^ 31) :
    Measures entries (classTotals entries).firstHighNs (classTotals entries).firstLowNs
      (classTotals entries).highMinNs (classTotals entries).maxNs
      (classTotals entries).highAvgNs := by
  have hexample := example_foldl (entries.map fun entry =>
    pulseSample rmtPulseMonitorTickNs entry.1 entry.2) .zero
  have hfound : (entries.map fun entry =>
      pulseSample rmtPulseMonitorTickNs entry.1 entry.2).find? PulseSample.hasLowTime =
      (firstExample entries).map fun entry =>
        pulseSample rmtPulseMonitorTickNs entry.1 entry.2 := by
    rw [List.find?_map]
    rfl
  have hnot : ClassTotals.zero.hasExample = false := by decide
  dsimp only at hexample
  rw [hnot, if_neg (by decide), hfound, Option.map_map, Option.map_map] at hexample
  have hfirstHigh : (classTotals entries).firstHighNs.toNat =
      ((firstExample entries).map fun e => e.1.highNs).getD 0 := by
    rw [classTotals, hexample.1]
    cases firstExample entries with
    | none => rfl
    | some entry => exact toNat_ticksToNs entry.1.duration0
  have hfirstLow : (classTotals entries).firstLowNs.toNat =
      ((firstExample entries).map fun e => e.1.lowNs).getD 0 := by
    rw [classTotals, hexample.2]
    cases firstExample entries with
    | none => rfl
    | some entry => exact toNat_ticksToNs entry.1.duration1
  by_cases hne : entries = []
  · subst hne
    exact ⟨by decide, by decide, by simp [highTimes, mean, classTotals, ClassTotals.highAvgNs,
      ClassTotals.zero], by decide, fun _ => by decide, hfirstHigh, hfirstLow⟩
  · obtain ⟨hmin, hmax, havg⟩ := extremes_classTotals hlength hne
    have hhighs : highTimes entries ≠ [] := by
      rwa [highTimes, ne_eq, List.map_eq_nil_iff]
    have hbounds := roundedAverage_bounds hhighs
      (fun x hx => (List.min?_eq_some_iff.1 hmin).2 x hx)
      (fun x hx => (List.max?_eq_some_iff.1 hmax).2 x hx)
    constructor
    · rw [hmin, Option.getD_some]
    · rw [hmax, Option.getD_some]
    · rw [havg, round_mean, roundedAverage]
    · rw [UInt32.le_iff_toNat_le, UInt32.le_iff_toNat_le, havg]
      exact hbounds
    · intro hempty
      exact absurd hempty hne
    · exact hfirstHigh
    · exact hfirstLow

end Class

/-! ## A whole capture -/

section Capture

variable {symbols : List RmtSymbol} {timing : Ws2812Timing} {expectedPixelGrb : List UInt8}

theorem ofBit_aggregate (bit : Bool) :
    (symbols.zipIdx.foldl (aggregateStep timing expectedPixelGrb rmtPulseMonitorTickNs)
      ⟨.zero, .zero, 0⟩).ofBit bit =
      classTotals (classEntries symbols timing expectedPixelGrb bit) := by
  rw [ofBit_foldl, filterMap_classSample, classTotals]
  cases bit <;> rfl

theorem length_classEntries_le (bit : Bool) :
    (classEntries symbols timing expectedPixelGrb bit).length ≤ symbols.length := by
  have hle := List.length_filter_le
    (fun entry => decide (measuredBit timing expectedPixelGrb entry = some bit)) symbols.zipIdx
  rwa [List.length_zipIdx] at hle

/-- Every position is matched, mismatched or invalid. -/
theorem countP_isMatched (entries : List (RmtSymbol × Nat)) :
    entries.countP (isMatched timing expectedPixelGrb) +
        entries.countP (isMismatched timing expectedPixelGrb) +
        entries.countP (isInvalid timing) = entries.length := by
  induction entries with
  | nil => rfl
  | cons entry entries ih =>
      rw [List.countP_cons, List.countP_cons, List.countP_cons, List.length_cons, ← ih]
      have hone : (if isMatched timing expectedPixelGrb entry = true then 1 else 0) +
          (if isMismatched timing expectedPixelGrb entry = true then 1 else 0) +
          (if isInvalid timing entry = true then 1 else 0) = 1 := by
        rw [isMismatched, isInvalid]
        cases hdecoded : decodedBit timing entry.1 with
        | none => simp [isMatched, hdecoded]
        | some decoded => cases isMatched timing expectedPixelGrb entry <;> simp
      omega

/-- The valid positions are those of the two classes. -/
theorem classEntries_perm :
    (classEntries symbols timing expectedPixelGrb false ++
      classEntries symbols timing expectedPixelGrb true).Perm
        (symbols.zipIdx.filter fun entry => !isInvalid timing entry) := by
  have hfalse : classEntries symbols timing expectedPixelGrb false =
      (symbols.zipIdx.filter fun entry => !isInvalid timing entry).filter fun entry =>
        measuredBit timing expectedPixelGrb entry = some false := by
    rw [classEntries, List.filter_filter]
    apply List.filter_congr
    intro entry _
    rw [measuredBit, isInvalid]
    cases decodedBit timing entry.1 <;> simp
  have htrue : classEntries symbols timing expectedPixelGrb true =
      (symbols.zipIdx.filter fun entry => !isInvalid timing entry).filter fun entry =>
        !decide (measuredBit timing expectedPixelGrb entry = some false) := by
    rw [classEntries, List.filter_filter]
    apply List.filter_congr
    intro entry _
    rw [measuredBit, isInvalid]
    cases decodedBit timing entry.1 with
    | none => simp
    | some decoded => by_cases heq : timing.bit0HighNs = timing.bit1HighNs <;> simp [heq]
  rw [hfalse, htrue]
  exact List.filter_append_perm _ _

end Capture

/-- A capture of 144 symbols is reported as its list specification: the valid positions fall into
the two classes, each is measured, and every position is matched, mismatched or invalid. -/
theorem aggregateWs2812Pulses_measures (symbols : List RmtSymbol) (timing : Ws2812Timing)
    (expectedPixelGrb : List UInt8) (hlength : symbols.length = rmtPulseMonitorDataSymbols) :
    ∃ stats, aggregateWs2812Pulses symbols timing expectedPixelGrb rmtPulseMonitorTickNs =
        some stats ∧
      (classEntries symbols timing expectedPixelGrb false ++
        classEntries symbols timing expectedPixelGrb true).Perm
          (symbols.zipIdx.filter fun entry => !isInvalid timing entry) ∧
      Measures (classEntries symbols timing expectedPixelGrb false) stats.bit0FirstHighNs
        stats.bit0FirstLowNs stats.bit0HighMinNs stats.bit0HighMaxNs stats.bit0HighAvgNs ∧
      Measures (classEntries symbols timing expectedPixelGrb true) stats.bit1FirstHighNs
        stats.bit1FirstLowNs stats.bit1HighMinNs stats.bit1HighMaxNs stats.bit1HighAvgNs ∧
      (stats.matchAvailable = true ↔ timing.bit0HighNs ≠ timing.bit1HighNs) ∧
      stats.matchCount.toNat = symbols.zipIdx.countP (isMatched timing expectedPixelGrb) ∧
      (timing.bit0HighNs = timing.bit1HighNs → stats.matchCount = 0) ∧
      stats.matchCount.toNat + symbols.zipIdx.countP (isMismatched timing expectedPixelGrb) +
        symbols.zipIdx.countP (isInvalid timing) = rmtPulseMonitorDataSymbols := by
  have hshort (bit : Bool) :
      (classEntries symbols timing expectedPixelGrb bit).length < 2 ^ 31 := by
    have hle : (classEntries symbols timing expectedPixelGrb bit).length ≤ symbols.length :=
      length_classEntries_le bit
    rw [hlength] at hle
    exact Nat.lt_of_le_of_lt hle (by decide)
  have hmatch : (symbols.zipIdx.foldl (aggregateStep timing expectedPixelGrb rmtPulseMonitorTickNs)
      ⟨.zero, .zero, 0⟩).matchCount.toNat =
        symbols.zipIdx.countP (isMatched timing expectedPixelGrb) := by
    rw [matchCount_foldl _ _ (by rw [List.length_zipIdx, hlength]; decide)]
    rw [UInt32.toNat_zero, Nat.zero_add]
    exact List.countP_congr fun entry _ => by rw [isMatch_eq]
  refine ⟨_, by rw [aggregateWs2812Pulses, if_neg (not_not_intro hlength)], classEntries_perm,
    ?_, ?_, ?_, hmatch, ?_, ?_⟩
  · have hmeasures := measures_classTotals (hshort false)
    rwa [← ofBit_aggregate] at hmeasures
  · have hmeasures := measures_classTotals (hshort true)
    rwa [← ofBit_aggregate] at hmeasures
  · exact decide_eq_true_iff
  · intro heq
    have hnone : symbols.zipIdx.countP (isMatched timing expectedPixelGrb) = 0 := by
      apply List.countP_eq_zero.2
      intro entry _
      simp [isMatched, heq]
    rw [hnone] at hmatch
    exact UInt32.toNat_inj.1 hmatch
  · rw [hmatch, countP_isMatched, List.length_zipIdx, hlength]

/-- The distorted frame, with one bit 1 captured as bit 0 and one symbol without a level. -/
def damagedCapture : List RmtSymbol :=
  (distortedCapture.set 10 ⟨16, true, 34, false⟩).set 20 ⟨32, false, 18, false⟩

theorem aggregateWs2812Pulses_measures_damaged :
    ∃ stats, aggregateWs2812Pulses damagedCapture defaultTiming samplePixels
        rmtPulseMonitorTickNs = some stats ∧
      (stats.bit0FirstHighNs.toNat = 475 ∧ stats.bit0HighMinNs.toNat = 325 ∧
        stats.bit0HighMaxNs.toNat = 475 ∧ (stats.bit0HighAvgNs.toNat : ℤ) = 402) ∧
      (stats.bit1FirstHighNs.toNat = 825 ∧ stats.bit1HighMinNs.toNat = 725 ∧
        stats.bit1HighMaxNs.toNat = 875 ∧ (stats.bit1HighAvgNs.toNat : ℤ) = 801) ∧
      stats.matchCount.toNat = 142 ∧
      142 + damagedCapture.zipIdx.countP (isMismatched defaultTiming samplePixels) +
        damagedCapture.zipIdx.countP (isInvalid defaultTiming) = 144 ∧
      damagedCapture.zipIdx.countP (isInvalid defaultTiming) = 1 := by
  obtain ⟨stats, hstats, -, hzeros, hones, -, hmatch, -, hsum⟩ :=
    aggregateWs2812Pulses_measures damagedCapture defaultTiming samplePixels (by decide +kernel)
  have hmatches : damagedCapture.zipIdx.countP (isMatched defaultTiming samplePixels) = 142 := by
    decide +kernel
  have hcount : stats.matchCount.toNat = 142 := hmatch.trans hmatches
  rw [hcount] at hsum
  have havgs := hzeros.avg
  have havg := hones.avg
  rw [round_mean] at havgs havg
  refine ⟨stats, hstats, ⟨?_, ?_, ?_, ?_⟩, ⟨?_, ?_, ?_, ?_⟩, hcount, hsum, by decide +kernel⟩
  · exact hzeros.firstHigh.trans (by decide +kernel)
  · exact hzeros.min.trans (by decide +kernel)
  · exact hzeros.max.trans (by decide +kernel)
  · exact havgs.trans (by decide +kernel)
  · exact hones.firstHigh.trans (by decide +kernel)
  · exact hones.min.trans (by decide +kernel)
  · exact hones.max.trans (by decide +kernel)
  · exact havg.trans (by decide +kernel)

end StripTuner.Ws2812
