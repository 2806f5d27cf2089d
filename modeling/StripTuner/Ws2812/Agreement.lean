import StripTuner.Ws2812.Pulses

/-!
# Transmitter and receiver agree

What is sent for an accepted timing set lies exactly on the 25 ns grid, and a capture whose high
times are off by less than half the difference of the two commanded ones is decoded as it was sent.
-/

namespace StripTuner.Ws2812

open List

/-- The measured high time, in nanoseconds. -/
def RmtSymbol.highNs (symbol : RmtSymbol) : Nat := symbol.duration0.toNat * 25

/-- A captured symbol of a sent one. -/
structure Captured (timing : Ws2812Timing) (sent got : RmtSymbol) : Prop where
  level0 : got.level0 = sent.level0
  high : 2 * ((got.highNs : Int) - sent.highNs).natAbs <
    ((timing.bit1HighNs.toNat : Int) - timing.bit0HighNs.toNat).natAbs

/-- The measured high times of the bits with a given value. -/
def bitHighs (bits : List Bool) (captured : List RmtSymbol) (bit : Bool) : List Nat :=
  ((bits.zip captured).filter fun entry => entry.1 = bit).map fun entry => entry.2.highNs

/-- The symbol of one data bit: its times are exact, not zero, and its low does not end the frame. -/
structure ExactBit (symbol : RmtSymbol) (highNs periodNs : UInt16) : Prop where
  levels : symbol.level0 = true ∧ symbol.level1 = false
  high : symbol.duration0.toNat * 25 = highNs.toNat
  low : symbol.duration1.toNat * 25 = periodNs.toNat - highNs.toNat
  highPos : 0 < symbol.duration0.toNat
  lowPos : 0 < symbol.duration1.toNat
  lowShort : symbol.duration1.toNat * 25 < rmtPulseMonitorIdleNs

theorem bitSymbol_exactBit {highNs periodNs : UInt16} (h : BitInRange highNs periodNs) :
    ExactBit (bitSymbol highNs periodNs) highNs periodNs := by
  obtain ⟨hhigh, hlow⟩ := bitSymbol_exact h
  obtain ⟨hmin, hmax, -, pmax, -, hlowMin⟩ := h
  refine ⟨⟨rfl, rfl⟩, hhigh, hlow, ?_, ?_, ?_⟩
  · omega
  · omega
  · unfold rmtPulseMonitorIdleNs
    omega

/-! ## Decoding a captured symbol -/

section Decoding

variable {timing : Ws2812Timing}

theorem toNat_ticksToNs (duration : BitVec 15) :
    (ws2812TicksToNs (fieldTicks duration) rmtPulseMonitorTickNs).toNat = duration.toNat * 25 := by
  have hlt := duration.isLt
  have htick : rmtPulseMonitorTickNs.toNat = 25 := rfl
  unfold ws2812TicksToNs fieldTicks
  rw [UInt32.toNat_mul, UInt32.toNat_ofNat_of_lt' (by unfold UInt32.size; omega), htick]
  omega

theorem toNat_distance (a b : UInt32) :
    (if a > b then a - b else b - a).toNat = ((a.toNat : Int) - b.toNat).natAbs := by
  have ha := a.toNat_lt
  have hb := b.toNat_lt
  split
  · rename_i h
    rw [gt_iff_lt, UInt32.lt_iff_toNat_lt] at h
    rw [UInt32.toNat_sub]
    omega
  · rename_i h
    rw [gt_iff_lt, UInt32.lt_iff_toNat_lt] at h
    rw [UInt32.toNat_sub]
    omega

/-- The nearer commanded high time decides. -/
theorem symbolClass_of_level {got : RmtSymbol} (h : got.level0 = true) :
    symbolClass timing rmtPulseMonitorTickNs got =
      if ((got.highNs : Int) - timing.bit0HighNs.toNat).natAbs ≤
          ((got.highNs : Int) - timing.bit1HighNs.toNat).natAbs then .bit0 else .bit1 := by
  unfold symbolClass decodeWs2812Symbol RmtSymbol.highNs
  rw [if_neg (by simp [h])]
  refine if_congr ?_ rfl rfl
  rw [UInt32.le_iff_toNat_le, toNat_distance, toNat_distance, toNat_ticksToNs,
    UInt16.toNat_toUInt32, UInt16.toNat_toUInt32]

/-- A symbol within the margin is decoded as the bit that was sent. -/
theorem symbolClass_of_captured (h : InRange timing) {bit : Bool} {got : RmtSymbol}
    (hcaptured : Captured timing (if bit then (buildBytesEncoderConfig timing).bit1
      else (buildBytesEncoderConfig timing).bit0) got) :
    symbolClass timing rmtPulseMonitorTickNs got = if bit then .bit1 else .bit0 := by
  obtain ⟨hlevel, hhigh⟩ := hcaptured
  have h0 : (buildBytesEncoderConfig timing).bit0.highNs = timing.bit0HighNs.toNat :=
    (bitSymbol_exact h.bit0).1
  have h1 : (buildBytesEncoderConfig timing).bit1.highNs = timing.bit1HighNs.toNat :=
    (bitSymbol_exact h.bit1).1
  cases bit with
  | false =>
      rw [if_neg (by decide)] at hlevel hhigh ⊢
      rw [h0] at hhigh
      rw [symbolClass_of_level hlevel, if_pos (by omega)]
  | true =>
      rw [if_pos rfl] at hlevel hhigh ⊢
      rw [h1] at hhigh
      rw [symbolClass_of_level hlevel, if_neg (by omega)]

end Decoding

/-! ## A whole capture -/

section Capture

variable {timing : Ws2812Timing} {pixels : List UInt8} {bits : List Bool}
  {captured : List RmtSymbol}

/-- Every symbol is decoded as the bit at its position. -/
abbrev DecodedAs (timing : Ws2812Timing) (bits : List Bool) (captured : List RmtSymbol) : Prop :=
  Forall₂ (fun bit got => symbolClass timing rmtPulseMonitorTickNs got =
    if bit then Ws2812SymbolClass.bit1 else .bit0) bits captured

theorem decodedAs_of_captured (h : InRange timing)
    (hcaptured : Forall₂ (Captured timing)
      (encodeBytes (buildBytesEncoderConfig timing) pixels) captured) :
    DecodedAs timing (dataBits true pixels) captured := by
  unfold encodeBytes at hcaptured
  rw [forall₂_map_left_iff] at hcaptured
  exact hcaptured.imp fun _ _ => symbolClass_of_captured h

/-- With different high times, the samples of a class are the bits of its value. -/
theorem sampleHighs_classSample (pixels : List UInt8) (h : DecodedAs timing bits captured)
    (havailable : isMatchAvailable timing = true) (k : Nat) (bit : Bool) :
    sampleHighs ((captured.zipIdx k).filterMap
      (classSample timing pixels rmtPulseMonitorTickNs bit)) = bitHighs bits captured bit := by
  induction h generalizing k with
  | nil => rfl
  | @cons sent got bits captured hclass _ ih =>
      have hvalid : symbolClass timing rmtPulseMonitorTickNs got ≠ .invalid := by
        rw [hclass]
        cases sent <;> decide
      have hstats : statsBit timing pixels rmtPulseMonitorTickNs got k = sent := by
        unfold statsBit
        rw [if_pos havailable, hclass]
        cases sent <;> decide
      have hhigh : (pulseSample rmtPulseMonitorTickNs got k).highNs.toNat = got.highNs :=
        toNat_ticksToNs got.duration0
      have hrest := ih (k + 1)
      unfold bitHighs sampleHighs at hrest ⊢
      rw [zipIdx_cons, filterMap_cons, zip_cons_cons, filter_cons]
      unfold classSample
      by_cases hbit : sent = bit
      · rw [if_pos ⟨hvalid, hstats.trans hbit⟩, if_pos (by simpa using hbit), map_cons, map_cons,
          hhigh]
        exact congrArg _ hrest
      · rw [if_neg (fun hs => hbit (hstats.symm.trans hs.2)), if_neg (by simpa using hbit)]
        exact hrest

theorem expectedBit_eq {pixels : List UInt8} {i : Nat} {bit : Bool}
    (h : (dataBits true pixels)[i]? = some bit) : expectedBit pixels i = bit := by
  have hi : i < 8 * pixels.length := by
    rw [← length_dataBits true]
    exact (List.getElem?_eq_some_iff.mp h).1
  rw [getElem?_dataBits hi] at h
  have hbyte : i / 8 < pixels.length := by omega
  rw [expectedBit, decide_eq_true hbyte, Bool.true_and]
  exact Option.some.inj h

/-- Every symbol matches. -/
theorem countP_isMatch (h : DecodedAs timing (dataBits true pixels) captured)
    (havailable : isMatchAvailable timing = true) :
    captured.zipIdx.countP (isMatch timing pixels rmtPulseMonitorTickNs) = captured.length := by
  rw [countP_eq_length.mpr, length_zipIdx]
  rintro ⟨got, i⟩ hmem
  have hgot : captured[i]? = some got := mem_zipIdx_iff_getElem?.mp hmem
  have hi : i < captured.length := (List.getElem?_eq_some_iff.mp hgot).1
  have hi' : i < (dataBits true pixels).length := h.length_eq ▸ hi
  have hbit := getElem?_eq_getElem hi'
  have hclass := h.get hi' hi
  rw [get_eq_getElem, get_eq_getElem, (List.getElem?_eq_some_iff.mp hgot).2] at hclass
  unfold isMatch
  rw [hclass, expectedBit_eq hbit, havailable]
  cases (dataBits true pixels)[i] <;> decide

/-- The average of a class that is not empty. -/
theorem highAvgNs_between (pixels : List UInt8) (h : DecodedAs timing bits captured)
    (havailable : isMatchAvailable timing = true) (hlength : captured.length = 144) (bit : Bool)
    (hne : bitHighs bits captured bit ≠ []) :
    ∃ lo hi, (bitHighs bits captured bit).min? = some lo ∧
      (bitHighs bits captured bit).max? = some hi ∧
      lo ≤ ((captured.zipIdx.foldl (aggregateStep timing pixels rmtPulseMonitorTickNs)
        ⟨.zero, .zero, 0⟩).ofBit bit).highAvgNs.toNat ∧
      ((captured.zipIdx.foldl (aggregateStep timing pixels rmtPulseMonitorTickNs)
        ⟨.zero, .zero, 0⟩).ofBit bit).highAvgNs.toNat ≤ hi := by
  have hhighs := sampleHighs_classSample pixels h havailable 0 bit
  have hzero : (⟨.zero, .zero, 0⟩ : PulseTotals).ofBit bit = .zero := by
    cases bit <;> rfl
  have hshort : (captured.zipIdx.filterMap
      (classSample timing pixels rmtPulseMonitorTickNs bit)).length < 2 ^ 31 := by
    have hle := length_filterMap_le (classSample timing pixels rmtPulseMonitorTickNs bit)
      captured.zipIdx
    rw [length_zipIdx] at hle
    omega
  have hsamples : captured.zipIdx.filterMap
      (classSample timing pixels rmtPulseMonitorTickNs bit) ≠ [] := by
    intro hnil
    rw [hnil] at hhighs
    exact hne hhighs.symm
  rw [ofBit_foldl, hzero, highAvgNs_foldl hsamples hshort, hhighs]
  obtain ⟨lo, hlo⟩ := Option.isSome_iff_exists.mp (isSome_min?_of_ne_nil hne)
  obtain ⟨hi, hhi⟩ := Option.isSome_iff_exists.mp (isSome_max?_of_ne_nil hne)
  have hbounds := roundedAverage_bounds hne
    (fun x hx => (min?_eq_some_iff.mp hlo).2 x hx) (fun x hx => (max?_eq_some_iff.mp hhi).2 x hx)
  exact ⟨lo, hi, hlo, hhi, hbounds.1, hbounds.2⟩

end Capture

/-- Transmitter and receiver agree for every accepted timing set: (a) every symbol is exact in
25 ns ticks and only the reset is longer than the idle threshold; (b) with different high times,
every capture of a frame within the margin matches in all 144 bits, and each average lies between
the extreme high times of the bits of its value. -/
theorem tx_rx_agree {timing : Ws2812Timing} {pixels : List UInt8}
    (hvalid : validateWs2812Timing timing = .ok) (hpixels : pixels.length = ledControllerPixelBytes) :
    (ExactBit (buildBytesEncoderConfig timing).bit0 timing.bit0HighNs timing.bit0PeriodNs ∧
      ExactBit (buildBytesEncoderConfig timing).bit1 timing.bit1HighNs timing.bit1PeriodNs ∧
      (buildResetSymbol timing).duration0.toNat * 25 = timing.resetUs.toNat * 1000 ∧
      rmtPulseMonitorIdleNs < (buildResetSymbol timing).duration0.toNat * 25) ∧
    (timing.bit0HighNs ≠ timing.bit1HighNs → ∀ captured,
      Forall₂ (Captured timing) (encodeBytes (buildBytesEncoderConfig timing) pixels) captured →
      ∃ stats, aggregateWs2812Pulses captured timing pixels rmtPulseMonitorTickNs = some stats ∧
        stats.matchAvailable = true ∧ stats.matchCount = 144 ∧
        (bitHighs (dataBits true pixels) captured false ≠ [] →
          ∃ lo hi, (bitHighs (dataBits true pixels) captured false).min? = some lo ∧
            (bitHighs (dataBits true pixels) captured false).max? = some hi ∧
            lo ≤ stats.bit0HighAvgNs.toNat ∧ stats.bit0HighAvgNs.toNat ≤ hi) ∧
        (bitHighs (dataBits true pixels) captured true ≠ [] →
          ∃ lo hi, (bitHighs (dataBits true pixels) captured true).min? = some lo ∧
            (bitHighs (dataBits true pixels) captured true).max? = some hi ∧
            lo ≤ stats.bit1HighAvgNs.toNat ∧ stats.bit1HighAvgNs.toNat ≤ hi)) := by
  have hrange := inRange_of_valid hvalid
  constructor
  · have hreset := buildResetSymbol_exact hrange
    have hmin := hrange.resetMin
    refine ⟨bitSymbol_exactBit hrange.bit0, bitSymbol_exactBit hrange.bit1, hreset, ?_⟩
    unfold rmtPulseMonitorIdleNs
    omega
  intro hdiffer captured hcaptured
  have hdecoded := decodedAs_of_captured hrange hcaptured
  have havailable : isMatchAvailable timing = true := decide_eq_true hdiffer
  have hlength : captured.length = 144 := by
    rw [← hdecoded.length_eq, length_dataBits, hpixels]
    rfl
  have hmatches : (captured.zipIdx.foldl (aggregateStep timing pixels rmtPulseMonitorTickNs)
      ⟨.zero, .zero, 0⟩).matchCount = 144 := by
    apply UInt32.toNat_inj.mp
    rw [matchCount_foldl _ _ (by rw [length_zipIdx, hlength]; decide),
      countP_isMatch hdecoded havailable, hlength]
    rfl
  have haverage := highAvgNs_between pixels hdecoded havailable hlength
  refine ⟨_, by rw [aggregateWs2812Pulses, if_neg (by rw [hlength]; decide)], havailable, hmatches,
    haverage false, haverage true⟩

/-- The datasheet values. -/
def defaultTiming : Ws2812Timing where
  bit0HighNs := 400
  bit0PeriodNs := 1250
  bit1HighNs := 800
  bit1PeriodNs := 1250
  resetUs := 280

/-- `0x2D` has both bits. -/
def samplePixels : List UInt8 := List.replicate 18 0x2D

/-- A high time that is off by up to 75 ns, by its position. -/
def distort (entry : RmtSymbol × Nat) : RmtSymbol :=
  { entry.1 with duration0 := entry.1.duration0 + 3 - BitVec.ofNat 15 (entry.2 % 7) }

/-- A frame with both bits, captured with distorted high times. -/
def distortedCapture : List RmtSymbol :=
  (encodeBytes (buildBytesEncoderConfig defaultTiming) samplePixels).zipIdx.map distort

instance (timing : Ws2812Timing) (sent got : RmtSymbol) : Decidable (Captured timing sent got) :=
  decidable_of_iff (got.level0 = sent.level0 ∧ 2 * ((got.highNs : Int) - sent.highNs).natAbs <
    ((timing.bit1HighNs.toNat : Int) - timing.bit0HighNs.toNat).natAbs)
    ⟨fun ⟨level0, high⟩ => ⟨level0, high⟩, fun ⟨level0, high⟩ => ⟨level0, high⟩⟩

theorem captured_distortedCapture :
    Forall₂ (Captured defaultTiming)
      (encodeBytes (buildBytesEncoderConfig defaultTiming) samplePixels) distortedCapture := by
  decide +kernel

theorem tx_rx_agree_distorted :
    ∃ stats, aggregateWs2812Pulses distortedCapture defaultTiming samplePixels
        rmtPulseMonitorTickNs = some stats ∧ stats.matchCount = 144 ∧
      (325 ≤ stats.bit0HighAvgNs.toNat ∧ stats.bit0HighAvgNs.toNat ≤ 475) ∧
      725 ≤ stats.bit1HighAvgNs.toNat ∧ stats.bit1HighAvgNs.toNat ≤ 875 := by
  have hagree := (tx_rx_agree (by decide : validateWs2812Timing defaultTiming = .ok)
    (List.length_replicate : samplePixels.length = 18)).2 (by decide)
  obtain ⟨stats, hstats, -, hmatches, hzeros, hones⟩ := hagree _ captured_distortedCapture
  have hextremes (bit : Bool) :
      (bitHighs (dataBits true samplePixels) distortedCapture bit).min? =
          some (if bit then 725 else 325) ∧
        (bitHighs (dataBits true samplePixels) distortedCapture bit).max? =
          some (if bit then 875 else 475) := by
    cases bit <;> decide +kernel
  obtain ⟨lo, hi, hlo, hhi, hzero⟩ := hzeros (by decide +kernel)
  obtain ⟨lo', hi', hlo', hhi', hone⟩ := hones (by decide +kernel)
  obtain rfl := Option.some.inj (hlo.symm.trans (hextremes false).1)
  obtain rfl := Option.some.inj (hhi.symm.trans (hextremes false).2)
  obtain rfl := Option.some.inj (hlo'.symm.trans (hextremes true).1)
  obtain rfl := Option.some.inj (hhi'.symm.trans (hextremes true).2)
  exact ⟨stats, hstats, hmatches, hzero, hone⟩

end StripTuner.Ws2812
