import StripTuner.HttpPortal.PageScript
import StripTuner.LedController.Frames
import StripTuner.PulseMonitor.Pairing
import StripTuner.Ws2812.Agreement

/-!
# The loopback

The data line of the strip is also the input of the receiver. A frame that the driver task has sent
for an accepted timing set comes back with high times that are a little off; the page then shows a
full match, and averages that are nearer to the time set for their bit than to the other one.
-/

namespace StripTuner

open DeviceCalls DeviceCalls.Prog HttpPortal LedController PulseMonitor Relation Ws2812

/-- The high time that is set for a bit. -/
def setHighNs (timing : Ws2812Timing) (bit : Bool) : Nat :=
  (if bit then timing.bit1HighNs else timing.bit0HighNs).toNat

/-- Off by less than half the difference of the two high times. -/
def Near (timing : Ws2812Timing) (bit : Bool) (highNs : Nat) : Prop :=
  2 * ((highNs : Int) - setHighNs timing bit).natAbs <
    ((timing.bit1HighNs.toNat : Int) - timing.bit0HighNs.toNat).natAbs

/-- What a receive has brought of a frame: a symbol for each data bit, a little off. -/
structure CameBack (timing : Ws2812Timing) (frame : Frame) (data : Received) : Prop where
  symbolCount : data.symbolCount = rmtPulseMonitorDataSymbols
  captured : List.Forall₂ (Captured timing) (frame.encoded.take rmtPulseMonitorDataSymbols)
    data.symbols.toList

/-- A full match, with each average near the time set for its bit. -/
structure FullMatch (timing : Ws2812Timing) (submitSeq : UInt32) (record : Ws2812Measurement) :
    Prop where
  submitSeq : record.submitSeq = submitSeq
  state : record.state = .done
  matchAvailable : record.matchAvailable = true
  matchCount : record.matchCount = 144
  bit0 : Near timing false record.bit0HighAvgNs.toNat
  bit1 : Near timing true record.bit1HighAvgNs.toNat

section Measured

variable {timing : Ws2812Timing} {pixels : List UInt8} {captured : List RmtSymbol} {bit : Bool}

/-- Between two values that are near, every value is. -/
theorem Near.between {lo hi highNs : Nat} (hlo : Near timing bit lo) (hhi : Near timing bit hi)
    (hle : lo ≤ highNs) (hge : highNs ≤ hi) : Near timing bit highNs := by
  unfold Near at hlo hhi ⊢
  omega

/-- The measured high times of a bit are near the one that is set. -/
theorem near_of_mem_bitHighs (hrange : InRange timing)
    (hcaptured : List.Forall₂ (Captured timing)
      (encodeBytes (buildBytesEncoderConfig timing) pixels) captured)
    {highNs : Nat} (hmem : highNs ∈ bitHighs (dataBits true pixels) captured bit) :
    Near timing bit highNs := by
  unfold encodeBytes at hcaptured
  rw [List.forall₂_map_left_iff, List.forall₂_iff_zip] at hcaptured
  unfold bitHighs at hmem
  obtain ⟨⟨sent, got⟩, hentry, rfl⟩ := List.mem_map.1 hmem
  obtain ⟨hzip, hbit⟩ := List.mem_filter.1 hentry
  obtain rfl : sent = bit := by simpa using hbit
  have hhigh := (hcaptured.2 hzip).high
  cases sent with
  | false =>
      have hset : (buildBytesEncoderConfig timing).bit0.highNs = timing.bit0HighNs.toNat :=
        (bitSymbol_exact hrange.bit0).1
      rw [if_neg (by decide), hset] at hhigh
      exact hhigh
  | true =>
      have hset : (buildBytesEncoderConfig timing).bit1.highNs = timing.bit1HighNs.toNat :=
        (bitSymbol_exact hrange.bit1).1
      rw [if_pos rfl, hset] at hhigh
      exact hhigh

/-- Each bit that occurs in the pixels has measured high times. -/
theorem bitHighs_ne_nil (hlength : captured.length = (dataBits true pixels).length)
    (hmem : bit ∈ dataBits true pixels) : bitHighs (dataBits true pixels) captured bit ≠ [] := by
  obtain ⟨i, hi, hget⟩ := List.getElem_of_mem hmem
  have hzip : (bit, captured[i]) ∈ (dataBits true pixels).zip captured := by
    rw [← hget, ← List.getElem_zip (h := by simp [hlength, hi])]
    exact List.getElem_mem _
  intro hnil
  unfold bitHighs at hnil
  rw [List.map_eq_nil_iff, List.filter_eq_nil_iff] at hnil
  exact hnil _ hzip (by simp)

end Measured

/-- The record of a frame that has come back. -/
theorem fullMatch_of_captureResult {timing : Ws2812Timing} {submitSeq : UInt32}
    {pixels : List UInt8} {symbols : SymbolBuffer} {armed : Snapshot} {record : Ws2812Measurement}
    (hvalid : validateWs2812Timing timing = .ok) (hdiffer : timing.bit0HighNs ≠ timing.bit1HighNs)
    (hbits : ∀ bit, bit ∈ dataBits true pixels)
    (hcaptured : List.Forall₂ (Captured timing)
      (encodeBytes (buildBytesEncoderConfig timing) pixels) symbols.toList)
    (hrecord : captureResult ((ArmRequest.capture timing submitSeq pixels).store armed) symbols
      rmtPulseMonitorDataSymbols = some record) : FullMatch timing submitSeq record := by
  have hrange := inRange_of_valid hvalid
  have hdecoded := decodedAs_of_captured hrange hcaptured
  have havailable : isMatchAvailable timing = true := decide_eq_true hdiffer
  have hlength : symbols.toList.length = 144 := Vector.length_toList
  have hcount : symbols.toList.length = (dataBits true pixels).length := hdecoded.length_eq.symm
  have hnear : ∀ bit, Near timing bit (((symbols.toList.zipIdx.foldl
      (aggregateStep timing pixels rmtPulseMonitorTickNs) ⟨.zero, .zero, 0⟩).ofBit
        bit).highAvgNs.toNat) := by
    intro bit
    obtain ⟨lo, hi, hlo, hhi, hle, hge⟩ := highAvgNs_between pixels hdecoded havailable hlength bit
      (bitHighs_ne_nil hcount (hbits bit))
    have hmin := (List.min?_eq_some_iff.mp hlo).1
    have hmax := (List.max?_eq_some_iff.mp hhi).1
    exact (near_of_mem_bitHighs hrange hcaptured hmin).between
      (near_of_mem_bitHighs hrange hcaptured hmax) hle hge
  have hmatches : (symbols.toList.zipIdx.foldl
      (aggregateStep timing pixels rmtPulseMonitorTickNs) ⟨.zero, .zero, 0⟩).matchCount = 144 := by
    apply UInt32.toNat_inj.mp
    rw [matchCount_foldl _ _ (by rw [List.length_zipIdx, hlength]; decide),
      countP_isMatch hdecoded havailable, hlength]
    rfl
  unfold captureResult at hrecord
  rw [if_neg (fun h => by cases h)] at hrecord
  unfold decodeCapture aggregateWs2812Pulses at hrecord
  rw [if_neg (fun h => h rfl), if_neg (fun h => h hlength)] at hrecord
  obtain rfl := Option.some.inj hrecord
  exact ⟨rfl, rfl, havailable, congrArg UInt32.toUInt16 hmatches, hnear false, hnear true⟩

/-! ## The driver task and the pulse monitor -/

section Board

variable {σ τ : Type} {rmt : RmtEncoders σ τ} {config : σ → BytesEncoderConfig}
  {bytesPosition : σ → Nat} {copyPosition : τ → Nat}

/-- A frame that is done was encoded with the timing of the request that it was armed for. -/
theorem encodedFor_of_sent (hdocumented : rmt.Documented config bytesPosition copyPosition)
    {timing : Ws2812Timing} {c : Driver Bool × Strip σ τ} (hdriver : DriverRun rmt timing c)
    {frame : Frame} (hframe : frame ∈ c.2.sent) {request : LedRequest}
    (harmed : frame.armed = some request) : frame.EncodedFor request := by
  obtain ⟨x, ⟨hmirrors, -⟩, -⟩ := (strip_simulates hdocumented).wp_of_run
    (fun hknows hidle hreceive => hknows.receive hidle hreceive) hdriver
    ⟨_, knows_bootStrip hdocumented timing, rfl, trivial, .refl _, by simp⟩
  obtain ⟨other, hother⟩ := hmirrors.sent frame hframe
  obtain rfl := Option.some.inj (harmed.symm.trans hother.1)
  exact hother

theorem take_ws2812Frame (timing : Ws2812Timing) :
    (ws2812Frame timing ledPixelPattern).take rmtPulseMonitorDataSymbols =
      encodeBytes (buildBytesEncoderConfig timing) ledPixelPattern := by
  rw [ws2812Frame_eq]
  exact List.take_left' (by unfold encodeBytes; rw [List.length_map, length_dataBits]; rfl)

theorem paired_of_run {s₀ s : State} (hinit : Initial s₀)
    (hmonitor : ReflTransGen (fun s t => ∃ action, FreshStart s action ∧ Step s action t) s₀ s) :
    Paired s := by
  induction hmonitor with
  | refl => exact hinit.paired
  | tail _ hstep ih =>
      obtain ⟨action, hok, hstep⟩ := hstep
      exact ih.step hok hstep

/-- The outcome is a result of the capture that was armed for a request, and the frame that was sent
for this request has come back. -/
structure LoopedBack (strip : Strip σ τ) (s : State) (request : LedRequest) (frame : Frame)
    (outcome : Outcome) : Prop where
  sent : frame ∈ strip.sent
  armed : frame.armed = some request
  called : s.calls[outcome.call]? =
    some (.capture request.timing request.submitSeq frame.pixelGrb)
  published : outcome ∈ s.published
  captured : outcome.record.state ≠ .timeout ∧ outcome.record.state ≠ .notMeasured
  cameBack : ∀ receive data, (⟨outcome.call, receive⟩ : Arm) ∈ s.arms →
    s.received receive = some data → CameBack request.timing frame data

section Result

variable {boot : Ws2812Timing} {c : Driver Bool × Strip σ τ} {s₀ s : State} {request : LedRequest}
  {frame : Frame} {outcome : Outcome}

theorem LoopedBack.fullMatch (h : LoopedBack c.2 s request frame outcome)
    (hdocumented : rmt.Documented config bytesPosition copyPosition)
    (hdriver : DriverRun rmt boot c) (hpaired : Paired s)
    (hvalid : validateWs2812Timing request.timing = .ok)
    (hdiffer : request.timing.bit0HighNs ≠ request.timing.bit1HighNs) :
    FullMatch request.timing request.submitSeq outcome.record := by
  obtain ⟨-, hpixels, hencoded⟩ := encodedFor_of_sent hdocumented hdriver h.sent h.armed
  obtain ⟨arm, receive, called, data, harm, hcalled, hreceived, hresult⟩ :=
    hpaired.published outcome h.published h.captured.1 h.captured.2
  obtain rfl := Option.some.inj (h.called.symm.trans hcalled)
  obtain ⟨hcount, hsymbols⟩ := h.cameBack receive data (List.mem_of_getElem? harm) hreceived
  rw [hencoded, take_ws2812Frame] at hsymbols
  have hrecord := hresult ⟨request.timing, [], 0, .send⟩
  rw [hpixels, hcount] at hrecord
  have hbits : ∀ bit, bit ∈ dataBits true ledPixelPattern := by decide
  exact fullMatch_of_captureResult hvalid hdiffer hbits hsymbols hrecord

/-- What the page shows behind `Sent` for a full match. -/
theorem FullMatch.shown {timing : Ws2812Timing} {submitSeq issued : UInt32}
    {record : Ws2812Measurement} (h : FullMatch timing submitSeq record) (hne : submitSeq ≠ 0)
    (hle : submitSeq ≤ issued) (h0 h1 : String) :
    pollText (some (h0, h1)) (ascii (formatTunerResult (getTunerResultState submitSeq issued record)
      record tunerResultBodyMax)) =
      ascii ("Bit 0: " ++ h0 ++ " ns set, " ++ record.bit0HighAvgNs.toNat.repr ++
        " ns measured\nBit 1: " ++ h1 ++ " ns set, " ++ record.bit1HighAvgNs.toNat.repr ++
        " ns measured\nGRB match 144/144") := by
  have hstate : getTunerResultState submitSeq issued record = .done := by
    unfold getTunerResultState
    rw [if_neg (by simp [hne, hle]), if_pos h.submitSeq, h.state]
    rfl
  have hcount : (144 : UInt16).toNat.repr ++ "/144" = "144/144" := by decide
  rw [hstate, formatTunerResult_eq, pollText_resultText, shownText, if_pos h.matchAvailable,
    h.matchCount, hcount]
  simp only [String.append_assoc]
  rfl

/-- For every accepted timing set with different high times, in every run of the driver task and in
every run of the pulse monitor whose receives start with fresh numbers: when the frame of a request
has come back, the record published for it is a full match, and the page shows it as one. -/
theorem loopback (hdocumented : rmt.Documented config bytesPosition copyPosition)
    (hdriver : DriverRun rmt boot c) (hinit : Initial s₀)
    (hmonitor : ReflTransGen (fun s t => ∃ action, FreshStart s action ∧ Step s action t) s₀ s)
    (hlooped : LoopedBack c.2 s request frame outcome)
    (hvalid : validateWs2812Timing request.timing = .ok)
    (hdiffer : request.timing.bit0HighNs ≠ request.timing.bit1HighNs) :
    FullMatch request.timing request.submitSeq outcome.record ∧
      ∀ issued h0 h1, request.submitSeq ≠ 0 → request.submitSeq ≤ issued →
        pollText (some (h0, h1)) (ascii (formatTunerResult
          (getTunerResultState request.submitSeq issued outcome.record) outcome.record
          tunerResultBodyMax)) =
          ascii ("Bit 0: " ++ h0 ++ " ns set, " ++ outcome.record.bit0HighAvgNs.toNat.repr ++
            " ns measured\nBit 1: " ++ h1 ++ " ns set, " ++
            outcome.record.bit1HighAvgNs.toNat.repr ++ " ns measured\nGRB match 144/144") := by
  have hpaired := paired_of_run hinit hmonitor
  have hmatch := hlooped.fullMatch hdocumented hdriver hpaired hvalid hdiffer
  exact ⟨hmatch, fun issued h0 h1 hne hle => hmatch.shown hne hle h0 h1⟩

end Result

end Board

/-! ## One frame -/

/-- The datasheet values, for the first request. -/
def firstRequest : LedRequest := ⟨defaultTiming, 1⟩

/-- The buffer behind a capture of its frame without any distortion. -/
def exactBuffer : SymbolBuffer :=
  ⟨(encodeBytes (buildBytesEncoderConfig defaultTiming) ledPixelPattern).toArray, by
    simp [encodeBytes, length_dataBits, ledPixelPattern]⟩

/-- The driver task has given its frame to the encoder, -/
theorem exists_pending :
    ∃ (p : Driver Bool) (strip : Strip (BytesEncoderConfig × Nat) Nat),
      DriverRun positionEncoders defaultTiming (p, strip) ∧
        strip.pending = [⟨some firstRequest, ledPixelPattern, [], false⟩] ∧
        AtStart Prod.fst Prod.snd id defaultTiming strip.encoder := by
  refine ⟨_, _, .head (.other (.apply firstRequest))
    (run_of_next (.request rfl) (ends_of_play strip_of_timingOut rfl)), rfl, ?_⟩
  exact ⟨rfl, rfl, rfl, rfl, rfl⟩

/-- and the interrupt has sent it. -/
theorem exists_sent : ∃ (c : Driver Bool × Strip (BytesEncoderConfig × Nat) Nat) (frame : Frame),
    DriverRun positionEncoders defaultTiming c ∧ frame ∈ c.2.sent ∧
      frame.armed = some firstRequest := by
  obtain ⟨p, strip, hdriver, hpending, hstart⟩ := exists_pending
  have hstreams := streams_encodeWs2812Frame documented_positionEncoders defaultTiming
    ledPixelPattern
  have hcall := hstreams.call (hstreams.start hstart) 145
  have hcomplete := hcall.complete_iff.2 (by simp [ws2812Frame, length_dataBits, ledPixelPattern])
  have hfilled := hdriver.tail (.other (.refill 145 hpending rfl))
  exact ⟨_, _, hfilled.tail (.other (.finish rfl hcomplete)),
    List.mem_append_right _ List.mem_cons_self, rfl⟩

/-- The frame comes back undistorted. -/
theorem cameBack_exactBuffer {frame : Frame} (hencoded : frame.EncodedFor firstRequest) :
    CameBack defaultTiming frame ⟨exactBuffer, 144⟩ := by
  refine ⟨rfl, ?_⟩
  rw [hencoded.2.2, take_ws2812Frame]
  exact List.forall₂_same.mpr fun sent _ => ⟨rfl, by rw [sub_self]; decide⟩

theorem exists_captured : ∃ (s : State) (outcome : Outcome),
    ReflTransGen (fun s t => ∃ action, FreshStart s action ∧ Step s action t) startState s ∧
      outcome ∈ s.published ∧ outcome.record.state = .done ∧
      s.calls[outcome.call]? = some (.capture defaultTiming 1 ledPixelPattern) ∧
      ∀ receive data, (⟨outcome.call, receive⟩ : Arm) ∈ s.arms → s.received receive = some data →
        data = ⟨exactBuffer, 144⟩ := by
  obtain ⟨record, hrecord, hdone⟩ := exists_captureResult_done
    (rfl : ((ArmRequest.capture defaultTiming 1 ledPixelPattern).store startState.armed).mode =
      .send) exactBuffer
  have haccepted : (ArmRequest.capture defaultTiming 1 ledPixelPattern).isAccepted = true := rfl
  obtain ⟨s, hrun, hcalls, harms, hreceived, hpublished⟩ :=
    exists_freshRun haccepted exactBuffer rmtPulseMonitorDataSymbols
  rw [hrecord] at hpublished
  refine ⟨s, ⟨0, record⟩, hrun, ?_, hdone, ?_, ?_⟩
  · rw [hpublished]
    exact List.mem_singleton_self _
  · rw [hcalls]
    rfl
  · intro receive data hmem hdata
    rw [harms, List.mem_singleton] at hmem
    obtain ⟨-, rfl⟩ := Arm.mk.inj hmem
    exact Option.some.inj (hdata.symm.trans hreceived)

/-- The frame of the first request, up to the text on the page. -/
theorem loopback_once : ∃ record, FullMatch defaultTiming 1 record ∧
    pollText (some ("400", "800")) (ascii (formatTunerResult (getTunerResultState 1 1 record) record
      tunerResultBodyMax)) =
      ascii ("Bit 0: " ++ "400" ++ " ns set, " ++ record.bit0HighAvgNs.toNat.repr ++
        " ns measured\nBit 1: " ++ "800" ++ " ns set, " ++ record.bit1HighAvgNs.toNat.repr ++
        " ns measured\nGRB match 144/144") := by
  obtain ⟨c, frame, hdriver, hsent, harmed⟩ := exists_sent
  obtain ⟨s, outcome, hmonitor, hpublished, hdone, hcalled, hdata⟩ := exists_captured
  have hencoded := encodedFor_of_sent documented_positionEncoders hdriver hsent harmed
  have hlooped : LoopedBack c.2 s firstRequest frame outcome :=
    { sent := hsent
      armed := harmed
      called := by rw [hcalled, hencoded.2.1]; rfl
      published := hpublished
      captured := by rw [hdone]; decide
      cameBack := fun receive data hmem hreceived =>
        hdata receive data hmem hreceived ▸ cameBack_exactBuffer hencoded }
  obtain ⟨hmatch, hshown⟩ := loopback documented_positionEncoders hdriver startState_initial
    hmonitor hlooped (by decide) (by decide)
  exact ⟨outcome.record, hmatch, hshown 1 "400" "800" (by decide) (by decide)⟩

end StripTuner
