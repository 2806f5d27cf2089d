import StripTuner.Lib.Streaming
import StripTuner.Ws2812.Symbols

/-!
# The frame encoder

`EncodeWs2812Frame()` of `led_controller.c` chains the bytes encoder of the RMT driver and its copy
encoder: the data symbols of a frame, then its reset symbol. Both stages stop where the symbol memory
is full and go on there in the next call.
-/

namespace StripTuner.LedController

open Streaming Ws2812

/-! ## The source -/

/-- The encoders of the RMT driver, by what their operations do to their states. -/
structure RmtEncoders (σ τ : Type) where
  newBytesEncoder : BytesEncoderConfig → σ
  bytesEncode : σ → List UInt8 → Nat → Session RmtSymbol σ
  updateConfig : σ → BytesEncoderConfig → σ
  resetBytes : σ → σ
  newCopyEncoder : τ
  copyEncode : τ → List RmtSymbol → Nat → Session RmtSymbol τ
  resetCopy : τ → τ

/-- `ws2812_encoder_t`. -/
structure Ws2812Encoder (σ τ : Type) where
  bytesEncoder : σ
  copyEncoder : τ
  state : Nat
  resetSymbol : RmtSymbol

variable {σ τ : Type} (rmt : RmtEncoders σ τ)

/-- The second stage of `EncodeWs2812Frame()`, with what the first one has emitted. -/
def encodeResetStage (self : Ws2812Encoder σ τ) (encoded : List RmtSymbol) (free : Nat) :
    Session RmtSymbol (Ws2812Encoder σ τ) :=
  if self.state = 1 then
    let session := rmt.copyEncode self.copyEncoder [self.resetSymbol] free
    { emitted := encoded ++ session.emitted
      complete := session.complete
      memFull := session.memFull
      next := { self with
        copyEncoder := session.next
        state := if session.complete then 0 else self.state } }
  else ⟨encoded, false, false, self⟩

/-- `EncodeWs2812Frame()`, with the room in the symbol memory. -/
def encodeWs2812Frame (primaryData : List UInt8) (self : Ws2812Encoder σ τ) (free : Nat) :
    Session RmtSymbol (Ws2812Encoder σ τ) :=
  if self.state = 0 then
    let session := rmt.bytesEncode self.bytesEncoder primaryData free
    let self := { self with
      bytesEncoder := session.next
      state := if session.complete then 1 else self.state }
    if session.memFull then ⟨session.emitted, false, true, self⟩
    else encodeResetStage rmt self session.emitted (free - session.emitted.length)
  else encodeResetStage rmt self [] free

/-- `ResetWs2812Encoder()`. -/
def resetWs2812Encoder (self : Ws2812Encoder σ τ) : Ws2812Encoder σ τ :=
  { self with
    bytesEncoder := rmt.resetBytes self.bytesEncoder
    copyEncoder := rmt.resetCopy self.copyEncoder
    state := 0 }

/-- `InitWs2812Encoder()`, where both encoders are created. -/
def initWs2812Encoder (timing : Ws2812Timing) : Ws2812Encoder σ τ where
  bytesEncoder := rmt.newBytesEncoder (buildBytesEncoderConfig timing)
  copyEncoder := rmt.newCopyEncoder
  state := 0
  resetSymbol := buildResetSymbol timing

/-! ## The driver's encoders -/

/-- What the driver documents: each encoder emits as many symbols as fit, keeps its position, and
reports the end of its data and of the memory. The bytes encoder has a configuration besides. -/
structure RmtEncoders.Documented (config : σ → BytesEncoderConfig) (bytesPosition : σ → Nat)
    (copyPosition : τ → Nat) : Prop where
  newBytes (c : BytesEncoderConfig) : config (rmt.newBytesEncoder c) = c ∧
    bytesPosition (rmt.newBytesEncoder c) = 0
  bytes (c : BytesEncoderConfig) (data : List UInt8) :
    Streams (fun s => rmt.bytesEncode s data) (encodeBytes c data)
      (fun s => config s = c ∧ bytesPosition s = 0)
      fun n s => (config s = c ∧ bytesPosition s = n) ∧ n ≤ (encodeBytes c data).length
  update (s : σ) (c : BytesEncoderConfig) : config (rmt.updateConfig s c) = c ∧
    bytesPosition (rmt.updateConfig s c) = bytesPosition s
  resetBytes (s : σ) : config (rmt.resetBytes s) = config s ∧ bytesPosition (rmt.resetBytes s) = 0
  newCopy : copyPosition rmt.newCopyEncoder = 0
  copy (symbols : List RmtSymbol) : Streams (fun s => rmt.copyEncode s symbols) symbols
    (fun s => copyPosition s = 0) fun n s => copyPosition s = n ∧ n ≤ symbols.length
  resetCopy (s : τ) : copyPosition (rmt.resetCopy s) = 0

/-- The symbols of a frame: those of the bits of all bytes, most significant bit first, and one
reset symbol. -/
def ws2812Frame (timing : Ws2812Timing) (data : List UInt8) : List RmtSymbol :=
  ((dataBits true data).map fun bit =>
    if bit then bitSymbol timing.bit1HighNs timing.bit1PeriodNs
    else bitSymbol timing.bit0HighNs timing.bit0PeriodNs) ++ [buildResetSymbol timing]

theorem ws2812Frame_eq (timing : Ws2812Timing) (data : List UInt8) : ws2812Frame timing data =
    encodeBytes (buildBytesEncoderConfig timing) data ++ [buildResetSymbol timing] := rfl

section Chain

variable {rmt} {config : σ → BytesEncoderConfig} {bytesPosition : σ → Nat} {copyPosition : τ → Nat}

variable (config bytesPosition copyPosition) in
/-- The encoder is configured for a timing and about to start a frame. -/
structure AtStart (timing : Ws2812Timing) (encoder : Ws2812Encoder σ τ) : Prop where
  config_eq : config encoder.bytesEncoder = buildBytesEncoderConfig timing
  reset_eq : encoder.resetSymbol = buildResetSymbol timing
  state_eq : encoder.state = 0
  bytes_eq : bytesPosition encoder.bytesEncoder = 0
  copy_eq : copyPosition encoder.copyEncoder = 0

variable (config bytesPosition copyPosition) in
/-- The encoder is configured for a timing and has emitted `n` symbols of the frame. -/
structure AtSymbol (timing : Ws2812Timing) (data : List UInt8) (n : Nat)
    (encoder : Ws2812Encoder σ τ) : Prop where
  config_eq : config encoder.bytesEncoder = buildBytesEncoderConfig timing
  reset_eq : encoder.resetSymbol = buildResetSymbol timing
  stage : (encoder.state = 0 ∧ bytesPosition encoder.bytesEncoder = n ∧
      copyPosition encoder.copyEncoder = 0 ∧
        n ≤ (encodeBytes (buildBytesEncoderConfig timing) data).length) ∨
    (encoder.state = 1 ∧ bytesPosition encoder.bytesEncoder = 0 ∧ copyPosition encoder.copyEncoder = 0 ∧
      n = (encodeBytes (buildBytesEncoderConfig timing) data).length)

variable {timing : Ws2812Timing} {data : List UInt8} {self : Ws2812Encoder σ τ}

variable (config bytesPosition copyPosition) in
/-- A call of the encoder at symbol `n` of a frame. -/
abbrev Encodes (timing : Ws2812Timing) (data : List UInt8) (n free : Nat)
    (call : Session RmtSymbol (Ws2812Encoder σ τ)) : Prop :=
  Continues (ws2812Frame timing data) (AtStart config bytesPosition copyPosition timing)
    (AtSymbol config bytesPosition copyPosition timing data) n free call

/-- The second stage, behind the data symbols that the call has emitted. -/
theorem encodeResetStage_continues (h : rmt.Documented config bytesPosition copyPosition)
    (hconfig : config self.bytesEncoder = buildBytesEncoderConfig timing)
    (hreset : self.resetSymbol = buildResetSymbol timing) (hstate : self.state = 1)
    (hbytes : bytesPosition self.bytesEncoder = 0) (hcopy : copyPosition self.copyEncoder = 0)
    {encoded : List RmtSymbol} {n : Nat}
    (hencoded : encoded = (encodeBytes (buildBytesEncoderConfig timing) data).drop n)
    (hn : n ≤ (encodeBytes (buildBytesEncoderConfig timing) data).length) (free : Nat) :
    Encodes config bytesPosition copyPosition timing data n (encoded.length + free)
      (encodeResetStage rmt self encoded free) := by
  have hsession := (h.copy [self.resetSymbol]).call ⟨hcopy, Nat.zero_le _⟩ free
  have hlength : (ws2812Frame timing data).length =
      (encodeBytes (buildBytesEncoderConfig timing) data).length + 1 := by
    rw [ws2812Frame_eq, List.length_append, List.length_singleton]
  have hsplit : n + encoded.length =
      (encodeBytes (buildBytesEncoderConfig timing) data).length := by
    rw [hencoded, List.length_drop]
    omega
  have hsingle : [self.resetSymbol].length = 1 := rfl
  rw [encodeResetStage, if_pos hstate]
  dsimp only
  refine ⟨?_, ?_, ?_, ?_, ?_⟩
  · rw [hsession.emitted, ws2812Frame_eq, List.drop_append_of_le_length hn, ← hencoded,
      List.take_length_add_append, hreset, List.drop_zero]
  · rw [hsession.complete_iff, hsingle, hlength]
    omega
  · rw [hsession.memFull_iff, hsingle, hlength]
    omega
  · intro hle
    have hcomplete := hsession.complete_iff.2 (by omega)
    exact ⟨hconfig, hreset, by rw [if_pos hcomplete], hbytes, hsession.restart (by omega)⟩
  · intro hlt
    have hopen := mt hsession.complete_iff.1 (by omega)
    have hzero : free = 0 := by omega
    have hposition := (hsession.advance (by omega)).1
    refine ⟨hconfig, hreset, Or.inr ⟨?_, hbytes, ?_, by omega⟩⟩
    · rw [if_neg hopen, hstate]
    · rw [hposition, hzero]

/-- The encoder puts out the frame. -/
theorem streams_encodeWs2812Frame (h : rmt.Documented config bytesPosition copyPosition)
    (timing : Ws2812Timing) (data : List UInt8) :
    Streams (encodeWs2812Frame rmt data) (ws2812Frame timing data)
      (AtStart config bytesPosition copyPosition timing)
      (AtSymbol config bytesPosition copyPosition timing data) where
  start := by
    rintro self ⟨hconfig, hreset, hstate, hbytes, hcopy⟩
    exact ⟨hconfig, hreset, Or.inl ⟨hstate, hbytes, hcopy, Nat.zero_le _⟩⟩
  call := by
    rintro n self ⟨hconfig, hreset, hstage⟩ free
    have hlength : (ws2812Frame timing data).length =
        (encodeBytes (buildBytesEncoderConfig timing) data).length + 1 := by
      rw [ws2812Frame_eq, List.length_append, List.length_singleton]
    rcases hstage with ⟨hstate, hbytes, hcopy, hn⟩ | ⟨hstate, hbytes, hcopy, hn⟩
    · have hsession := (h.bytes (buildBytesEncoderConfig timing) data).call
        ⟨⟨hconfig, hbytes⟩, hn⟩ free
      rw [encodeWs2812Frame, if_pos hstate]
      dsimp only
      by_cases hfull : n + free ≤ (encodeBytes (buildBytesEncoderConfig timing) data).length
      · -- the data fill the memory, perhaps with their last symbol
        rw [if_pos (hsession.memFull_iff.2 hfull)]
        refine ⟨?_, ?_, ?_, ?_, ?_⟩
        · rw [hsession.emitted, ws2812Frame_eq, List.drop_append_of_le_length hn,
            List.take_append_of_le_length]
          rw [List.length_drop]
          omega
        · simp only [Bool.false_eq_true, false_iff]
          omega
        · simp only [true_iff]
          omega
        · intro hle
          omega
        · intro _
          by_cases hlast : n + free = (encodeBytes (buildBytesEncoderConfig timing) data).length
          · have hnext := hsession.restart (Nat.le_of_eq hlast.symm)
            have hcomplete := hsession.complete_iff.2 (Nat.le_of_eq hlast.symm)
            exact ⟨hnext.1, hreset, Or.inr ⟨if_pos hcomplete, hnext.2, hcopy, hlast⟩⟩
          · have hnext := hsession.advance (by omega)
            have hopen := mt hsession.complete_iff.1 (by omega)
            refine ⟨hnext.1.1, hreset, Or.inl ⟨?_, hnext.1.2, hcopy, hnext.2⟩⟩
            rw [if_neg hopen, hstate]
      · have hnext := hsession.restart (by omega)
        have hcomplete := hsession.complete_iff.2 (by omega)
        have hencoded : (rmt.bytesEncode self.bytesEncoder data free).emitted =
            (encodeBytes (buildBytesEncoderConfig timing) data).drop n := by
          rw [hsession.emitted, List.take_of_length_le]
          rw [List.length_drop]
          omega
        have hroom : (rmt.bytesEncode self.bytesEncoder data free).emitted.length +
            (free - (rmt.bytesEncode self.bytesEncoder data free).emitted.length) = free := by
          rw [hencoded, List.length_drop]
          omega
        rw [if_neg (mt hsession.memFull_iff.1 hfull)]
        have hstage := @encodeResetStage_continues σ τ rmt config bytesPosition copyPosition timing
          data { self with
            bytesEncoder := (rmt.bytesEncode self.bytesEncoder data free).next
            state := if (rmt.bytesEncode self.bytesEncoder data free).complete then 1
              else self.state } h hnext.1 hreset (if_pos hcomplete) hnext.2 hcopy _ n hencoded hn
          (free - (rmt.bytesEncode self.bytesEncoder data free).emitted.length)
        rwa [hroom] at hstage
    · have hnil : [] = (encodeBytes (buildBytesEncoderConfig timing) data).drop n := by
        rw [hn, List.drop_length]
      rw [encodeWs2812Frame, if_neg (by omega)]
      have hstage := encodeResetStage_continues h hconfig hreset hstate hbytes hcopy hnil
        (Nat.le_of_eq hn) free
      rwa [List.length_nil, Nat.zero_add] at hstage

theorem atStart_initWs2812Encoder (h : rmt.Documented config bytesPosition copyPosition)
    (timing : Ws2812Timing) : AtStart config bytesPosition copyPosition timing
      (initWs2812Encoder rmt timing) :=
  ⟨(h.newBytes _).1, rfl, rfl, (h.newBytes _).2, h.newCopy⟩

/-- A reset keeps what the encoder is configured for. -/
theorem AtSymbol.reset (h : rmt.Documented config bytesPosition copyPosition) {n : Nat}
    (hat : AtSymbol config bytesPosition copyPosition timing data n self) :
    AtStart config bytesPosition copyPosition timing (resetWs2812Encoder rmt self) :=
  ⟨(h.resetBytes _).1.trans hat.config_eq, hat.reset_eq, rfl, (h.resetBytes _).2, h.resetCopy _⟩

/-- From its start the encoder puts out the frame, whatever room the calls find: up to the first call
that is complete, which ends with the reset symbol and is at the start again. -/
theorem encodeWs2812Frame_spec (h : rmt.Documented config bytesPosition copyPosition)
    (timing : Ws2812Timing) (data : List UInt8) :
    AtStart config bytesPosition copyPosition timing (initWs2812Encoder rmt timing) ∧
    ∀ self, AtStart config bytesPosition copyPosition timing self → ∀ sizes : List Nat,
      ((ws2812Frame timing data).length ≤ sizes.sum → ∃ used last rest,
        sizes = used ++ last :: rest ∧
        (∀ call ∈ sessions (encodeWs2812Frame rmt data) self used, call.complete = false) ∧
        (encodeWs2812Frame rmt data (after (encodeWs2812Frame rmt data) self used) last).complete =
          true ∧
        output (encodeWs2812Frame rmt data) self (used ++ [last]) = ws2812Frame timing data ∧
        AtStart config bytesPosition copyPosition timing
          (after (encodeWs2812Frame rmt data) self (used ++ [last]))) ∧
      (sizes.sum < (ws2812Frame timing data).length →
        (∀ call ∈ sessions (encodeWs2812Frame rmt data) self sizes, call.complete = false) ∧
        output (encodeWs2812Frame rmt data) self sizes =
          (ws2812Frame timing data).take sizes.sum) ∧
      AtStart config bytesPosition copyPosition timing
        (resetWs2812Encoder rmt (after (encodeWs2812Frame rmt data) self sizes)) := by
  have hstreams := streams_encodeWs2812Frame h timing data
  have hpos : 0 < (ws2812Frame timing data).length := by simp [ws2812Frame]
  refine ⟨atStart_initWs2812Encoder h timing, ?_⟩
  intro self hstart sizes
  have hat := hstreams.start hstart
  refine ⟨?_, ?_, ?_⟩
  · intro hle
    exact hstreams.completes hat hpos (by rwa [Nat.zero_add])
  · intro hlt
    obtain ⟨hcalls, houtput, -⟩ := hstreams.incomplete hat (by rwa [Nat.zero_add])
    exact ⟨hcalls, houtput⟩
  · obtain ⟨n, hn⟩ := hstreams.exists_at hat sizes
    exact hn.reset h

end Chain

/-! ## Encoders that keep their position -/

/-- Encoders whose states are a position, and for the bytes encoder its configuration. -/
def positionEncoders : RmtEncoders (BytesEncoderConfig × Nat) Nat where
  newBytesEncoder config := (config, 0)
  bytesEncode s data free :=
    let session := resume (encodeBytes s.1 data) s.2 free
    ⟨session.emitted, session.complete, session.memFull, (s.1, session.next)⟩
  updateConfig s config := (config, s.2)
  resetBytes s := (s.1, 0)
  newCopyEncoder := 0
  copyEncode position symbols free := resume symbols position free
  resetCopy _ := 0

theorem documented_positionEncoders : positionEncoders.Documented Prod.fst Prod.snd id where
  newBytes _ := ⟨rfl, rfl⟩
  bytes c data :=
    { start := by
        rintro ⟨_, _⟩ ⟨rfl, rfl⟩
        exact ⟨⟨rfl, rfl⟩, Nat.zero_le _⟩
      call := by
        rintro _ ⟨_, n⟩ ⟨⟨rfl, rfl⟩, hn⟩ free
        have hsession := (streams_resume (encodeBytes _ data)).call ⟨rfl, hn⟩ free
        exact ⟨hsession.emitted, hsession.complete_iff, hsession.memFull_iff,
          fun hle => ⟨rfl, hsession.restart hle⟩,
          fun hlt => ⟨⟨rfl, (hsession.advance hlt).1⟩, (hsession.advance hlt).2⟩⟩ }
  update _ _ := ⟨rfl, rfl⟩
  resetBytes _ := ⟨rfl, rfl⟩
  newCopy := rfl
  copy symbols := streams_resume symbols
  resetCopy _ := rfl

/-- One byte, where the memory is full behind its last bit and stays so for a call. -/
theorem encodeWs2812Frame_spec_full : ∃ used last rest, [8, 0, 1] = used ++ last :: rest ∧
    output (encodeWs2812Frame positionEncoders [0xFF])
      (initWs2812Encoder positionEncoders ⟨400, 1250, 800, 1250, 280⟩) (used ++ [last]) =
        ws2812Frame ⟨400, 1250, 800, 1250, 280⟩ [0xFF] := by
  obtain ⟨hinit, hrun⟩ := encodeWs2812Frame_spec documented_positionEncoders
    ⟨400, 1250, 800, 1250, 280⟩ [0xFF]
  obtain ⟨hcompletes, -⟩ := hrun _ hinit [8, 0, 1]
  have hlength : (ws2812Frame ⟨400, 1250, 800, 1250, 280⟩ [0xFF]).length ≤ [8, 0, 1].sum := by
    simp [ws2812Frame, length_dataBits]
  obtain ⟨used, last, rest, hsizes, -, -, houtput, -⟩ := hcompletes hlength
  exact ⟨used, last, rest, hsizes, houtput⟩

end StripTuner.LedController
