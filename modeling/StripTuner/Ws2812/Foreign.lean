import StripTuner.Ws2812.ReadAnalysis

/-!
# A foreign strip

The frame of another controller, with a high time for each bit and captured times that are a little
off. When the two high times are far enough apart, the split at the middle finds every bit as it was
sent, and the averages are as near as the captured times are.
-/

namespace StripTuner.Ws2812

open Averages

/-- The times of a bit that the other controller sends, in nanoseconds, and how far a captured time
may be off. -/
structure ForeignStrip where
  highNs : Bool → Nat
  periodNs : Bool → Nat
  offNs : Nat

namespace ForeignStrip

/-- A captured symbol of one bit. -/
structure Seen (strip : ForeignStrip) (bit : Bool) (symbol : RmtSymbol) : Prop where
  measurable : isMeasurable symbol = true
  high : ((symbol.highNs : ℤ) - strip.highNs bit).natAbs ≤ strip.offNs
  period : ((symbol.periodNs : ℤ) - strip.periodNs bit).natAbs ≤ strip.offNs

/-- The captured high time without a sign. -/
theorem Seen.bounds {strip : ForeignStrip} {bit : Bool} {symbol : RmtSymbol}
    (h : strip.Seen bit symbol) : strip.highNs bit ≤ symbol.highNs + strip.offNs ∧
      symbol.highNs ≤ strip.highNs bit + strip.offNs := by
  have hhigh := h.high
  omega

/-- The high times are further apart than the captured times can blur. -/
structure Apart (strip : ForeignStrip) : Prop where
  middle : strip.highNs false + 4 * strip.offNs < strip.highNs true
  spread : strip.highNs false + 100 + 2 * strip.offNs ≤ strip.highNs true

/-- The high times lie on the two sides of the fixed split, and each is narrow. -/
structure Known (strip : ForeignStrip) : Prop where
  narrow : 2 * strip.offNs < 100
  bit0 : strip.highNs false + strip.offNs ≤ 625
  bit1 : 625 + strip.offNs < strip.highNs true

/-- The bits that a capture holds can be told: both occur, or the fixed split tells the only one. -/
structure Readable (strip : ForeignStrip) (bits : List Bool) : Prop where
  apart : strip.Apart
  both : (∀ bit, bit ∈ bits) ∨ strip.Known

/-- What is reported for a bit that occurs is as near as the captured times; otherwise it is zero. -/
structure Measured (strip : ForeignStrip) (bits : List Bool) (bit : Bool)
    (highAvgNs periodAvgNs : UInt32) : Prop where
  high : bit ∈ bits → ((highAvgNs.toNat : ℤ) - strip.highNs bit).natAbs ≤ strip.offNs
  period : bit ∈ bits → ((periodAvgNs.toNat : ℤ) - strip.periodNs bit).natAbs ≤ strip.offNs
  found : highAvgNs ≠ 0 ↔ bit ∈ bits

end ForeignStrip

section Capture

variable {strip : ForeignStrip} {bits : List Bool} {symbols : List RmtSymbol}

/-- Every symbol of a foreign frame but the last of the capture is usable. -/
theorem usableSymbols_of_seen (hseen : List.Forall₂ strip.Seen bits symbols.dropLast) :
    usableSymbols symbols = symbols.dropLast := by
  rw [usableSymbols_eq, List.filter_eq_self]
  intro symbol hsymbol
  obtain ⟨i, hi, rfl⟩ := List.getElem_of_mem hsymbol
  have hbit : i < bits.length := by rwa [hseen.length_eq]
  exact (hseen.get hbit hi).measurable

/-- A symbol is seen for a bit of the frame, and each bit of the frame has a symbol. -/
theorem exists_bit (hseen : List.Forall₂ strip.Seen bits symbols.dropLast) {symbol : RmtSymbol}
    (hsymbol : symbol ∈ usableSymbols symbols) : ∃ bit ∈ bits, strip.Seen bit symbol := by
  rw [usableSymbols_of_seen hseen] at hsymbol
  obtain ⟨i, hi, rfl⟩ := List.getElem_of_mem hsymbol
  have hbit : i < bits.length := by rwa [hseen.length_eq]
  exact ⟨bits[i], List.getElem_mem hbit, hseen.get hbit hi⟩

theorem exists_symbol (hseen : List.Forall₂ strip.Seen bits symbols.dropLast) {bit : Bool}
    (hbit : bit ∈ bits) : ∃ symbol ∈ usableSymbols symbols, strip.Seen bit symbol := by
  rw [usableSymbols_of_seen hseen]
  obtain ⟨i, hi, rfl⟩ := List.getElem_of_mem hbit
  have hsymbol : i < symbols.dropLast.length := by rwa [← hseen.length_eq]
  exact ⟨symbols.dropLast[i], List.getElem_mem hsymbol, hseen.get hi hsymbol⟩

/-- The split puts a symbol to the bit that it was sent for. -/
theorem isReadBit0_of_seen (hlength : symbols.length ≤ rmtPulseMonitorDataSymbols)
    (hseen : List.Forall₂ strip.Seen bits symbols.dropLast) (hreadable : strip.Readable bits)
    {symbol : RmtSymbol} (hsymbol : symbol ∈ usableSymbols symbols) {bit : Bool}
    (hbit : strip.Seen bit symbol) :
    isReadBit0 rmtPulseMonitorTickNs (readSpread symbols) symbol = !bit := by
  obtain ⟨⟨low, hlow, hlowNs⟩, ⟨high, hhigh, hhighNs⟩, hbetween⟩ :=
    exists_extremes hlength (List.ne_nil_of_mem hsymbol)
  obtain ⟨lowBit, -, hlowSeen⟩ := exists_bit hseen hlow
  obtain ⟨highBit, -, hhighSeen⟩ := exists_bit hseen hhigh
  obtain ⟨hmiddle, hspread⟩ := hreadable.apart
  have hsplit := isReadBit0_iff hlength hsymbol
  have hown := hbetween symbol hsymbol
  have hlowNear := hlowSeen.bounds
  have hhighNear := hhighSeen.bounds
  have hnear := hbit.bounds
  dsimp only at hsplit
  rw [← hlowNs, ← hhighNs] at hsplit hown
  rw [Bool.eq_iff_iff, hsplit, Bool.not_eq_true']
  rcases hreadable.both with hboth | ⟨hnarrow, hbit0, hbit1⟩
  · -- the extremes reach the high times of both bits
    obtain ⟨zero, hzero, hzeroSeen⟩ := exists_symbol hseen (hboth false)
    obtain ⟨one, hone, honeSeen⟩ := exists_symbol hseen (hboth true)
    have hzeroNear := hzeroSeen.bounds
    have honeNear := honeSeen.bounds
    have hzeroBetween := hbetween zero hzero
    have honeBetween := hbetween one hone
    rw [← hlowNs, ← hhighNs] at hzeroBetween honeBetween
    have hlow0 : strip.highNs false ≤ low.highNs + strip.offNs := by
      cases lowBit <;> omega
    have hhigh1 : high.highNs ≤ strip.highNs true + strip.offNs := by
      cases highBit <;> omega
    rw [if_pos (by omega)]
    cases bit with
    | false => exact iff_of_true (by omega) rfl
    | true => exact iff_of_false (by omega) (by decide)
  · -- extremes that are 100 ns apart belong to different bits
    cases bit with
    | false =>
        refine iff_of_true ?_ rfl
        cases lowBit <;> cases highBit <;> split <;> omega
    | true =>
        refine iff_of_false ?_ (by decide)
        cases lowBit <;> cases highBit <;> split <;> omega

/-- The split reads the bits as they were sent. -/
theorem map_isReadBit0 (hlength : symbols.length ≤ rmtPulseMonitorDataSymbols)
    (hseen : List.Forall₂ strip.Seen bits symbols.dropLast) (hreadable : strip.Readable bits) :
    (usableSymbols symbols).map (fun symbol =>
      !isReadBit0 rmtPulseMonitorTickNs (readSpread symbols) symbol) = bits := by
  have husable := usableSymbols_of_seen hseen
  apply List.ext_getElem
  · rw [List.length_map, husable, hseen.length_eq]
  · intro i hi hbit
    rw [List.length_map] at hi
    have hsymbol : i < symbols.dropLast.length := by rwa [← husable]
    have hget : (usableSymbols symbols)[i] = symbols.dropLast[i] := List.getElem_of_eq husable hi
    have hsent : strip.Seen bits[i] (usableSymbols symbols)[i] := by
      rw [hget]
      exact hseen.get hbit hsymbol
    rw [List.getElem_map, isReadBit0_of_seen hlength hseen hreadable (List.getElem_mem hi) hsent,
      Bool.not_not]

theorem length_readClass (hlength : symbols.length ≤ rmtPulseMonitorDataSymbols)
    (hseen : List.Forall₂ strip.Seen bits symbols.dropLast) (hreadable : strip.Readable bits)
    (bit : Bool) : (readClass symbols bit).length = bits.count bit := by
  rw [← map_isReadBit0 hlength hseen hreadable, List.count, List.countP_map, readClass,
    ← List.countP_eq_length_filter]
  apply List.countP_congr
  intro symbol _
  rw [Function.comp_apply]
  cases isReadBit0 rmtPulseMonitorTickNs (readSpread symbols) symbol <;> cases bit <;> decide

/-- Every symbol of a class was seen for its bit. -/
theorem seen_of_mem_readClass (hlength : symbols.length ≤ rmtPulseMonitorDataSymbols)
    (hseen : List.Forall₂ strip.Seen bits symbols.dropLast) (hreadable : strip.Readable bits)
    {bit : Bool} {symbol : RmtSymbol} (hsymbol : symbol ∈ readClass symbols bit) :
    strip.Seen bit symbol := by
  obtain ⟨husable, hclass⟩ := mem_readClass.1 hsymbol
  obtain ⟨sent, -, hsent⟩ := exists_bit hseen husable
  rw [isReadBit0_of_seen hlength hseen hreadable husable hsent] at hclass
  rwa [← Bool.not_inj hclass]

/-- The mean of values that are near a time is near it. -/
theorem round_mean_near {xs : List Nat} {time off avg : Nat} (hne : xs ≠ [])
    (hnear : ∀ x ∈ xs, ((x : ℤ) - time).natAbs ≤ off) (havg : (avg : ℤ) = round (mean xs)) :
    ((avg : ℤ) - time).natAbs ≤ off := by
  have hbelow : ∀ x ∈ xs, time - off ≤ x := fun x hx => by
    have := hnear x hx
    omega
  have habove : ∀ x ∈ xs, x ≤ time + off := fun x hx => by
    have := hnear x hx
    omega
  obtain ⟨hlo, hhi⟩ := roundedAverage_bounds hne hbelow habove
  rw [round_mean, ← roundedAverage] at havg
  omega

theorem measured_of_measuresRead (hlength : symbols.length ≤ rmtPulseMonitorDataSymbols)
    (hseen : List.Forall₂ strip.Seen bits symbols.dropLast) (hreadable : strip.Readable bits)
    {bit : Bool} {count highAvgNs periodAvgNs : UInt32}
    (h : MeasuresRead (readClass symbols bit) count highAvgNs periodAvgNs) :
    strip.Measured bits bit highAvgNs periodAvgNs := by
  have hcount := length_readClass hlength hseen hreadable bit
  have hnear : ∀ symbol ∈ readClass symbols bit, strip.Seen bit symbol :=
    fun _ => seen_of_mem_readClass hlength hseen hreadable
  have hne : bit ∈ bits → readClass symbols bit ≠ [] := by
    rw [← List.count_pos_iff, ← hcount]
    exact List.ne_nil_of_length_pos
  refine ⟨fun hbit => ?_, fun hbit => ?_, ?_, fun hbit => (h.found (hne hbit)).1⟩
  · apply round_mean_near (by simpa using hne hbit) _ h.high
    intro x hx
    obtain ⟨symbol, hsymbol, rfl⟩ := List.mem_map.1 hx
    exact (hnear symbol hsymbol).high
  · apply round_mean_near (by simpa using hne hbit) _ h.period
    intro x hx
    obtain ⟨symbol, hsymbol, rfl⟩ := List.mem_map.1 hx
    exact (hnear symbol hsymbol).period
  · intro hfound
    by_contra hbit
    rw [← List.count_eq_zero, ← hcount, List.length_eq_zero_iff] at hbit
    exact hfound (h.empty hbit).1

/-- A capture of a foreign frame: accepted from 8 bits on, with the number of each bit and times that
are as near as the captured ones. -/
theorem analyzeWs2812Read_of_seen (hlength : symbols.length ≤ rmtPulseMonitorDataSymbols)
    (hseen : List.Forall₂ strip.Seen bits symbols.dropLast) (hreadable : strip.Readable bits) :
    let result := analyzeWs2812Read symbols rmtPulseMonitorTickNs
    result.1 = decide (8 ≤ bits.length) ∧
      result.2.bit0Count.toNat = bits.count false ∧
      result.2.bit1Count.toNat = bits.count true ∧
      strip.Measured bits false result.2.bit0HighAvgNs result.2.bit0PeriodAvgNs ∧
      strip.Measured bits true result.2.bit1HighAvgNs result.2.bit1PeriodAvgNs := by
  obtain ⟨haccepted, -, hcount0, hhigh0, hperiod0, hcount1, hhigh1, hperiod1⟩ :=
    analyzeWs2812Read_eq hlength
  have hzeros := measuresRead hlength false
  have hones := measuresRead hlength true
  rw [← hhigh0, ← hperiod0, ← hcount0] at hzeros
  rw [← hhigh1, ← hperiod1, ← hcount1] at hones
  refine ⟨?_, ?_, ?_, measured_of_measuresRead hlength hseen hreadable hzeros,
    measured_of_measuresRead hlength hseen hreadable hones⟩
  · rw [haccepted, usableSymbols_of_seen hseen, hseen.length_eq]
  · rw [hzeros.count, length_readClass hlength hseen hreadable]
  · rw [hones.count, length_readClass hlength hseen hreadable]

end Capture

end StripTuner.Ws2812
