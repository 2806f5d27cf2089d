import StripTuner.Ws2812.Timing

/-!
# Transmitted symbols

The RMT symbols that `led_controller.c` builds from a timing set, and the frame the bytes encoder
makes of them. A tick is 25 ns; durations have 15 bits.
-/

namespace StripTuner.Ws2812

/-- `rmt_symbol_word_t`. -/
structure RmtSymbol where
  duration0 : BitVec 15
  level0 : Bool
  duration1 : BitVec 15
  level1 : Bool
deriving DecidableEq

/-- `rmt_bytes_encoder_config_t`. -/
structure BytesEncoderConfig where
  bit0 : RmtSymbol
  bit1 : RmtSymbol
  msbFirst : Bool

/-- `LED_CONTROLLER_TICK_NS`. -/
abbrev ledControllerTickNs : UInt32 := 25

/-- `LED_CONTROLLER_PIXEL_BYTES`. -/
abbrev ledControllerPixelBytes : Nat := 18

/-- `Ws2812NsToTicks()`. -/
def ws2812NsToTicks (durationNs tickNs : UInt32) : UInt16 :=
  ((durationNs + tickNs / 2) / tickNs).toUInt16

/-- The assignment of a tick count to a 15-bit field. -/
def ticksField (ticks : UInt16) : BitVec 15 := ticks.toBitVec.setWidth 15

/-- One bit's symbol in `BuildBytesEncoderConfig()`. -/
def bitSymbol (highNs periodNs : UInt16) : RmtSymbol where
  duration0 := ticksField (ws2812NsToTicks highNs.toUInt32 ledControllerTickNs)
  level0 := true
  duration1 :=
    ticksField (ws2812NsToTicks (periodNs.toUInt32 - highNs.toUInt32) ledControllerTickNs)
  level1 := false

/-- `BuildBytesEncoderConfig()`. -/
def buildBytesEncoderConfig (timing : Ws2812Timing) : BytesEncoderConfig where
  bit0 := bitSymbol timing.bit0HighNs timing.bit0PeriodNs
  bit1 := bitSymbol timing.bit1HighNs timing.bit1PeriodNs
  msbFirst := true

/-- `BuildResetSymbol()`. -/
def buildResetSymbol (timing : Ws2812Timing) : RmtSymbol where
  duration0 := ticksField (ws2812NsToTicks (timing.resetUs.toUInt32 * 1000) ledControllerTickNs)
  level0 := false
  duration1 := 0
  level1 := false

/-- The bits of a byte in the encoder's order. -/
def byteBits (msbFirst : Bool) (byte : UInt8) : List Bool :=
  (List.range 8).map fun i => byte.toNat.testBit (if msbFirst then 7 - i else i)

/-- The bits of a buffer in the order they are sent. -/
def dataBits (msbFirst : Bool) (data : List UInt8) : List Bool := data.flatMap (byteBits msbFirst)

/-- What the bytes encoder emits: the symbol of each bit. -/
def encodeBytes (config : BytesEncoderConfig) (data : List UInt8) : List RmtSymbol :=
  (dataBits config.msbFirst data).map fun bit => if bit then config.bit1 else config.bit0

theorem length_dataBits (msbFirst : Bool) (data : List UInt8) :
    (dataBits msbFirst data).length = 8 * data.length := by
  unfold dataBits
  induction data with
  | nil => rfl
  | cons byte data ih =>
      rw [List.flatMap_cons, List.length_append, ih, byteBits, List.length_map, List.length_range,
        List.length_cons]
      omega

/-- The bit at a position is the bit of its byte, most significant first. -/
theorem getElem?_dataBits {data : List UInt8} {i : Nat} (hi : i < 8 * data.length) :
    (dataBits true data)[i]? = some ((data.getD (i / 8) 0).toNat.testBit (7 - i % 8)) := by
  unfold dataBits
  induction data generalizing i with
  | nil => simp at hi
  | cons byte data ih =>
      have hlen : (byteBits true byte).length = 8 := by
        rw [byteBits, List.length_map, List.length_range]
      rw [List.flatMap_cons]
      by_cases hfirst : i < 8
      · have hdiv : i / 8 = 0 := by omega
        have hmod : i % 8 = i := by omega
        rw [List.getElem?_append_left (by omega), hdiv, hmod, byteBits, List.getElem?_map,
          List.getElem?_range hfirst]
        rfl
      · rw [List.length_cons] at hi
        have hdiv : i / 8 = (i - 8) / 8 + 1 := by omega
        have hmod : i % 8 = (i - 8) % 8 := by omega
        rw [List.getElem?_append_right (by omega), hlen, ih (by omega), hdiv, hmod,
          List.getD_cons_succ]

/-- On the 25 ns grid the conversion to ticks is exact. -/
theorem ticksField_ws2812NsToTicks {durationNs : UInt32} (hstep : durationNs.toNat % 25 = 0)
    (hmax : durationNs.toNat < 819200) :
    (ticksField (ws2812NsToTicks durationNs ledControllerTickNs)).toNat * 25 =
      durationNs.toNat := by
  have htick : ledControllerTickNs.toNat = 25 := rfl
  have hhalf : (ledControllerTickNs / 2).toNat = 12 := rfl
  unfold ticksField ws2812NsToTicks
  rw [BitVec.toNat_setWidth, UInt16.toNat_toBitVec, UInt32.toNat_toUInt16, UInt32.toNat_div,
    UInt32.toNat_add, htick, hhalf]
  have hsum : (durationNs.toNat + 12) % 2 ^ 32 = durationNs.toNat + 12 := by omega
  have hticks : (durationNs.toNat + 12) / 25 < 32768 := by omega
  rw [hsum, Nat.mod_eq_of_lt (by omega), Nat.mod_eq_of_lt (by omega)]
  omega

/-- The symbol of a bit stands for its high and low time exactly, and neither is zero. -/
theorem bitSymbol_exact {highNs periodNs : UInt16} (h : BitInRange highNs periodNs) :
    (bitSymbol highNs periodNs).duration0.toNat * 25 = highNs.toNat ∧
      (bitSymbol highNs periodNs).duration1.toNat * 25 = periodNs.toNat - highNs.toNat := by
  obtain ⟨hmin, hmax, hstep, pmax, pstep, hlow⟩ := h
  have hlowNs : (periodNs.toUInt32 - highNs.toUInt32).toNat = periodNs.toNat - highNs.toNat := by
    rw [UInt32.toNat_sub, UInt16.toNat_toUInt32, UInt16.toNat_toUInt32]
    omega
  constructor
  · exact ticksField_ws2812NsToTicks (by rw [UInt16.toNat_toUInt32]; exact hstep)
      (by rw [UInt16.toNat_toUInt32]; omega)
  · rw [← hlowNs]
    apply ticksField_ws2812NsToTicks
    · rw [hlowNs]
      omega
    · rw [hlowNs]
      omega

theorem buildResetSymbol_exact {timing : Ws2812Timing} (h : InRange timing) :
    (buildResetSymbol timing).duration0.toNat * 25 = timing.resetUs.toNat * 1000 := by
  have hmin := h.resetMin
  have hmax := h.resetMax
  have hns : (timing.resetUs.toUInt32 * 1000).toNat = timing.resetUs.toNat * 1000 := by
    have hthousand : (1000 : UInt32).toNat = 1000 := rfl
    rw [UInt32.toNat_mul, UInt16.toNat_toUInt32, hthousand]
    omega
  rw [← hns]
  apply ticksField_ws2812NsToTicks
  · rw [hns]
    omega
  · rw [hns]
    omega

end StripTuner.Ws2812
