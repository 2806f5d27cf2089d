import StripTuner.Loopback
import StripTuner.Ws2812.Foreign

/-!
# Reading a foreign frame

A read listens to the frame of another controller, from any of its bits on. The page shows times that
are as near to the ones of the other controller as the captured symbols are.
-/

namespace StripTuner

open HttpPortal LedController PulseMonitor Relation Ws2812

/-- The symbols that a receive has brought. -/
def capturedSymbols (data : Received) : List RmtSymbol :=
  data.symbols.toList.take (min data.symbolCount rmtPulseMonitorSymbolCapacity)

/-- They are those of a foreign frame: a symbol for each of the bits, and a last one. -/
def CameIn (strip : ForeignStrip) (bits : List Bool) (data : Received) : Prop :=
  List.Forall₂ strip.Seen bits (capturedSymbols data).dropLast

/-- Every symbol but the last is measured, and classified as the bit that was sent. -/
structure Classified (bits : List Bool) (symbols : List RmtSymbol) : Prop where
  usable : usableSymbols symbols = symbols.dropLast
  classes : (usableSymbols symbols).map (fun symbol =>
    !isReadBit0 rmtPulseMonitorTickNs (readSpread symbols) symbol) = bits

/-- The times of the foreign strip, from 8 bits on. -/
structure ReadTimes (strip : ForeignStrip) (bits : List Bool) (submitSeq : UInt32)
    (record : Ws2812Measurement) : Prop where
  submitSeq : record.submitSeq = submitSeq
  state : record.state = if 8 ≤ bits.length then .readDone else .countError
  bit0 : 8 ≤ bits.length → strip.Measured bits false record.bit0HighAvgNs record.bit0PeriodAvgNs
  bit1 : 8 ≤ bits.length → strip.Measured bits true record.bit1HighAvgNs record.bit1PeriodAvgNs

/-- The line of a bit: times as near as the captured ones, or none when the bit did not occur. -/
structure ShownLine (strip : ForeignStrip) (bits : List Bool) (bit : Bool) (line : String) :
    Prop where
  found : bit ∈ bits → ∃ highNs periodNs : Nat,
    ((highNs : ℤ) - strip.highNs bit).natAbs ≤ strip.offNs ∧
    ((periodNs : ℤ) - strip.periodNs bit).natAbs ≤ strip.offNs ∧
    line = "Bit " ++ (if bit then "1" else "0") ++ ": high " ++ highNs.repr ++ " ns, period " ++
      periodNs.repr ++ " ns"
  absent : bit ∉ bits → line = "Bit " ++ (if bit then "1" else "0") ++ ": not found"

/-- What the page shows behind `Read`. -/
structure ShownRead (strip : ForeignStrip) (bits : List Bool) (text : List UInt8) : Prop where
  lines : 8 ≤ bits.length → ∃ line0 line1, ShownLine strip bits false line0 ∧
    ShownLine strip bits true line1 ∧ text = ascii (line0 ++ "\n" ++ line1)
  short : bits.length < 8 → text = ascii "Measurement failed: bad capture"

section Record

variable {strip : ForeignStrip} {bits : List Bool} {submitSeq : UInt32}
  {record : Ws2812Measurement}

theorem length_capturedSymbols (data : Received) :
    (capturedSymbols data).length ≤ rmtPulseMonitorDataSymbols := by
  rw [capturedSymbols, List.length_take]
  exact (Nat.min_le_left _ _).trans (Nat.min_le_right _ _)

theorem CameIn.classified {data : Received} (h : CameIn strip bits data)
    (hreadable : strip.Readable bits) : Classified bits (capturedSymbols data) :=
  ⟨usableSymbols_of_seen h, map_isReadBit0 (length_capturedSymbols data) h hreadable⟩

/-- The record of a read that a foreign frame came in for. -/
theorem readTimes_of_captureResult {armed : Snapshot} {data : Received}
    (hcameIn : CameIn strip bits data) (hreadable : strip.Readable bits)
    (hrecord : captureResult ((ArmRequest.read submitSeq).store armed) data.symbols
      data.symbolCount = some record) : ReadTimes strip bits submitSeq record := by
  have hmode : ((ArmRequest.read submitSeq).store armed).mode = .read := rfl
  unfold captureResult at hrecord
  rw [if_pos hmode] at hrecord
  obtain rfl := Option.some.inj hrecord
  unfold analyzeReadCapture
  obtain ⟨haccepted, -, -, hzeros, hones⟩ :=
    analyzeWs2812Read_of_seen (length_capturedSymbols data) hcameIn hreadable
  unfold capturedSymbols at haccepted hzeros hones
  dsimp only at haccepted hzeros hones ⊢
  rw [haccepted]
  by_cases hbits : 8 ≤ bits.length
  · rw [decide_eq_true hbits, if_neg (by decide)]
    exact ⟨rfl, (if_pos hbits).symm, fun _ => hzeros, fun _ => hones⟩
  · rw [decide_eq_false hbits, if_pos (by decide)]
    exact ⟨rfl, (if_neg hbits).symm, fun h => absurd h hbits, fun h => absurd h hbits⟩

theorem shownLine_of_measured {bit : Bool} {highAvgNs periodAvgNs : UInt32}
    (h : strip.Measured bits bit highAvgNs periodAvgNs) :
    ShownLine strip bits bit (readShown (if bit then "1" else "0") highAvgNs periodAvgNs) := by
  unfold readShown
  constructor
  · intro hbit
    have hhigh : ": high " = ": " ++ "high " := rfl
    rw [if_neg (h.found.2 hbit)]
    refine ⟨_, _, h.high hbit, h.period hbit, ?_⟩
    simp only [hhigh, String.append_assoc]
  · intro hbit
    have habsent : ": not found" = ": " ++ "not found" := rfl
    rw [if_pos (not_not.1 (h.found.not.2 hbit)), habsent]
    simp only [String.append_assoc]

/-- What the page shows of the record. -/
theorem ReadTimes.shown (h : ReadTimes strip bits submitSeq record) (hne : submitSeq ≠ 0)
    {issued : UInt32} (hle : submitSeq ≤ issued) :
    ShownRead strip bits (pollText none (ascii (formatTunerResult
      (getTunerResultState submitSeq issued record) record tunerResultBodyMax))) := by
  have hstate : getTunerResultState submitSeq issued record = outcomeState record.state := by
    unfold getTunerResultState
    rw [if_neg (by simp [hne, hle]), if_pos h.submitSeq]
  rw [hstate, formatTunerResult_eq, pollText_resultText, h.state]
  constructor
  · intro hbits
    rw [if_pos hbits]
    exact ⟨_, _, shownLine_of_measured (h.bit0 hbits), shownLine_of_measured (h.bit1 hbits), rfl⟩
  · intro hbits
    rw [if_neg (Nat.not_le.2 hbits)]
    rfl

end Record

/-! ## The pulse monitor -/

/-- The outcome is a result of the read, and a foreign frame came in for it. -/
structure ReadIn (s : State) (submitSeq : UInt32) (strip : ForeignStrip) (bits : List Bool)
    (outcome : Outcome) : Prop where
  called : s.calls[outcome.call]? = some (.read submitSeq)
  published : outcome ∈ s.published
  captured : outcome.record.state ≠ .timeout ∧ outcome.record.state ≠ .notMeasured
  cameIn : ∀ receive data, (⟨outcome.call, receive⟩ : Arm) ∈ s.arms →
    s.received receive = some data → CameIn strip bits data

section Runs

variable {s₀ s : State} {submitSeq : UInt32} {strip : ForeignStrip} {bits : List Bool}
  {outcome : Outcome}

/-- In every run of the pulse monitor whose receives start with fresh numbers: when a readable foreign
frame came in for a read, every symbol is classified as the bit that was sent, the record of the read
has the times of the foreign strip, and the page shows them. -/
theorem foreignFrame_shown (hinit : Initial s₀)
    (hmonitor : ReflTransGen (fun s t => ∃ action, FreshStart s action ∧ Step s action t) s₀ s)
    (hread : ReadIn s submitSeq strip bits outcome) (hreadable : strip.Readable bits) :
    (∃ receive data, (⟨outcome.call, receive⟩ : Arm) ∈ s.arms ∧ s.received receive = some data ∧
      Classified bits (capturedSymbols data)) ∧
    ReadTimes strip bits submitSeq outcome.record ∧
      ∀ issued, submitSeq ≠ 0 → submitSeq ≤ issued →
        ShownRead strip bits (pollText none (ascii (formatTunerResult
          (getTunerResultState submitSeq issued outcome.record) outcome.record
          tunerResultBodyMax))) := by
  have hpaired := paired_of_run hinit hmonitor
  obtain ⟨arm, receive, called, data, harm, hcalled, hreceived, hresult⟩ :=
    hpaired.published outcome hread.published hread.captured.1 hread.captured.2
  obtain rfl := Option.some.inj (hread.called.symm.trans hcalled)
  have hcameIn := hread.cameIn receive data (List.mem_of_getElem? harm) hreceived
  have htimes := readTimes_of_captureResult hcameIn hreadable (hresult ⟨defaultTiming, [], 0, .send⟩)
  exact ⟨⟨receive, data, List.mem_of_getElem? harm, hreceived, hcameIn.classified hreadable⟩, htimes,
    fun issued hne hle => htimes.shown hne hle⟩

end Runs

/-! ## A second tuner -/

/-- The strip of a tuner that sends a timing, seen without any distortion. -/
def tunerStrip (timing : Ws2812Timing) : ForeignStrip where
  highNs := setHighNs timing
  periodNs bit := (if bit then timing.bit1PeriodNs else timing.bit0PeriodNs).toNat
  offNs := 0

theorem seen_bitSymbol {strip : ForeignStrip} {bit : Bool} {highNs periodNs : UInt16}
    (hrange : BitInRange highNs periodNs) (hhigh : strip.highNs bit = highNs.toNat)
    (hperiod : strip.periodNs bit = periodNs.toNat) :
    strip.Seen bit (bitSymbol highNs periodNs) := by
  obtain ⟨⟨hlevel0, hlevel1⟩, hhighNs, hlowNs, hhighPos, hlowPos, -⟩ := bitSymbol_exactBit hrange
  have hlow := hrange.lowMin
  constructor
  · simp [isMeasurable, hlevel0, hlevel1, hhighPos, hlowPos]
  · rw [RmtSymbol.highNs, hhighNs, hhigh, sub_self]
    exact Nat.zero_le _
  · have hsum : (bitSymbol highNs periodNs).periodNs = periodNs.toNat := by
      rw [RmtSymbol.periodNs, Nat.add_mul]
      omega
    rw [hsum, hperiod, sub_self]
    exact Nat.zero_le _

/-- The data bits of a frame that a second tuner has sent. -/
theorem seen_encodeBytes {timing : Ws2812Timing} (hrange : InRange timing) (pixels : List UInt8) :
    List.Forall₂ (tunerStrip timing).Seen (dataBits true pixels)
      (encodeBytes (buildBytesEncoderConfig timing) pixels) := by
  unfold encodeBytes
  rw [List.forall₂_map_right_iff]
  refine List.forall₂_same.mpr fun bit _ => ?_
  cases bit with
  | false => exact seen_bitSymbol hrange.bit0 rfl rfl
  | true => exact seen_bitSymbol hrange.bit1 rfl rfl

/-- The bits that a capture of 144 symbols measures; it drops the last one. -/
def patternBits : List Bool := (dataBits true ledPixelPattern).dropLast

/-- A read that the frame of a tuner with the datasheet values came in for. -/
theorem exists_readIn : ∃ (s : State) (outcome : Outcome),
    ReflTransGen (fun s t => ∃ action, FreshStart s action ∧ Step s action t) startState s ∧
      ReadIn s 1 (tunerStrip defaultTiming) patternBits outcome := by
  have hcameIn : CameIn (tunerStrip defaultTiming) patternBits ⟨exactBuffer, 144⟩ := by
    have hvalid : validateWs2812Timing defaultTiming = .ok := by decide
    have hseen := seen_encodeBytes (inRange_of_valid hvalid) ledPixelPattern
    have hall : exactBuffer.toList.take 144 =
        encodeBytes (buildBytesEncoderConfig defaultTiming) ledPixelPattern :=
      List.take_of_length_le (Nat.le_of_eq Vector.length_toList)
    unfold CameIn capturedSymbols
    rw [Nat.min_self, hall, patternBits, List.dropLast_eq_take, List.dropLast_eq_take,
      hseen.length_eq]
    exact List.forall₂_take _ hseen
  obtain ⟨s, hrun, hcalls, harms, hreceived, hpublished⟩ :=
    exists_freshRun (rfl : (ArmRequest.read 1).isAccepted = true) exactBuffer 144
  refine ⟨s, ⟨0, analyzeReadCapture ((ArmRequest.read 1).store startState.armed) exactBuffer 144⟩,
    hrun, ?_, ?_, ?_, ?_⟩
  · rw [hcalls]
    rfl
  · rw [hpublished]
    exact List.mem_singleton_self _
  · unfold analyzeReadCapture
    dsimp only
    split <;> constructor <;> intro hstate <;> cases hstate
  · intro receive data hmem hdata
    rw [harms, List.mem_singleton] at hmem
    obtain ⟨-, rfl⟩ := Arm.mk.inj hmem
    obtain rfl := Option.some.inj (hdata.symm.trans hreceived)
    exact hcameIn

/-- The page of the reading tuner shows the times that the other one is set to. -/
theorem foreignFrame_shown_tuner : ∃ (s : State) (outcome : Outcome),
    ReadIn s 1 (tunerStrip defaultTiming) patternBits outcome ∧
      pollText none (ascii (formatTunerResult (getTunerResultState 1 1 outcome.record)
        outcome.record tunerResultBodyMax)) =
        ascii ("Bit 0: high 400 ns, period 1250 ns\nBit 1: high 800 ns, period 1250 ns") := by
  obtain ⟨s, outcome, hmonitor, hread⟩ := exists_readIn
  have hboth : ∀ bit, bit ∈ patternBits := by decide
  have hreadable : (tunerStrip defaultTiming).Readable patternBits :=
    ⟨⟨by decide, by decide⟩, .inl hboth⟩
  have hshown := (foreignFrame_shown startState_initial hmonitor hread hreadable).2.2 1 (by decide)
    (by decide)
  have hlong : 8 ≤ patternBits.length := by
    rw [patternBits, List.length_dropLast, length_dataBits]
    decide
  obtain ⟨line0, line1, hline0, hline1, htext⟩ := hshown.lines hlong
  obtain ⟨high0, period0, hhigh0, hperiod0, rfl⟩ := hline0.found (hboth _)
  obtain ⟨high1, period1, hhigh1, hperiod1, rfl⟩ := hline1.found (hboth _)
  have hset : (tunerStrip defaultTiming).highNs false = 400 ∧
      (tunerStrip defaultTiming).periodNs false = 1250 ∧
      (tunerStrip defaultTiming).highNs true = 800 ∧
      (tunerStrip defaultTiming).periodNs true = 1250 ∧
      (tunerStrip defaultTiming).offNs = 0 := by decide
  rw [hset.1, hset.2.2.2.2] at hhigh0
  rw [hset.2.1, hset.2.2.2.2] at hperiod0
  rw [hset.2.2.1, hset.2.2.2.2] at hhigh1
  rw [hset.2.2.2.1, hset.2.2.2.2] at hperiod1
  obtain rfl : high0 = 400 := by omega
  obtain rfl : period0 = 1250 := by omega
  obtain rfl : high1 = 800 := by omega
  obtain rfl : period1 = 1250 := by omega
  have hlines : "Bit " ++ (if false then "1" else "0") ++ ": high " ++ (400 : Nat).repr ++
      " ns, period " ++ (1250 : Nat).repr ++ " ns" ++ "\n" ++ ("Bit " ++
        (if true then "1" else "0") ++ ": high " ++ (800 : Nat).repr ++ " ns, period " ++
          (1250 : Nat).repr ++ " ns") =
      "Bit 0: high 400 ns, period 1250 ns\nBit 1: high 800 ns, period 1250 ns" := by decide
  rw [← hlines]
  exact ⟨s, outcome, hread, htext⟩

end StripTuner
