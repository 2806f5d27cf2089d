import StripTuner.Esp
import StripTuner.LedController.Encoder
import StripTuner.Lib.Loop

/-!
# The driver task

`RunLedDriverTask()` of `led_controller.c`: one frame for each request that it finds in the 1-deep
queue. The transmit interrupt calls the encoder of the frame in flight at any time, so the task must
not touch the encoder before the RMT driver has reported that frame done.
-/

namespace StripTuner.LedController

open DeviceCalls DeviceCalls.Prog Relation Streaming Ws2812

/-! ## The source -/

/-- `led_request_t`. -/
structure LedRequest where
  timing : Ws2812Timing
  submitSeq : UInt32
deriving DecidableEq

/-- `LED_CONTROLLER_CHANNEL_VALUE`. -/
abbrev ledControllerChannelValue : UInt8 := 32

/-- `BuildLedPixelPattern()`. -/
def ledPixelPattern : List UInt8 :=
  [0x00, ledControllerChannelValue, 0x00, 0x00, ledControllerChannelValue, 0x00,
    ledControllerChannelValue, 0x00, 0x00, ledControllerChannelValue, 0x00, 0x00,
    0x00, 0x00, ledControllerChannelValue, 0x00, 0x00, ledControllerChannelValue]

/-- The calls of the driver task, and its assignment to the reset symbol. -/
inductive DriverCall where
  | waitAllDone
  | updateConfig (config : BytesEncoderConfig)
  | setResetSymbol (symbol : RmtSymbol)
  | armPulseCapture (timing : Ws2812Timing) (submitSeq : UInt32) (pixelGrb : List UInt8)
  | transmit (pixelGrb : List UInt8)

abbrev DriverCall.Answer : DriverCall → Type
  | .waitAllDone | .updateConfig _ | .transmit _ => EspErr
  | .setResetSymbol _ | .armPulseCapture _ _ _ => Unit

abbrev Driver (α : Type) : Type := Prog DriverCall DriverCall.Answer α

/-- `UpdateWs2812Encoder()`. -/
def updateWs2812Encoder (timing : Ws2812Timing) : Driver Bool := do
  let err ← (perform (DriverCall.updateConfig (buildBytesEncoderConfig timing)) : Driver EspErr)
  if err ≠ .ok then return false
  else do
    perform (DriverCall.setResetSymbol (buildResetSymbol timing))
    return true

/-- `WaitForPreviousFrame()`: what it returns, and `s_is_frame_in_flight` behind it. -/
def waitForPreviousFrame (isFrameInFlight : Bool) : Driver (Bool × Bool) :=
  if !isFrameInFlight then return (true, isFrameInFlight)
  else do
    let err ← (perform DriverCall.waitAllDone : Driver EspErr)
    if err ≠ .ok then return (false, isFrameInFlight) else return (true, false)

/-- `DriveFrame()` from `ArmPulseCapture()` on. -/
def transmitFrame (isFrameInFlight : Bool) (timing : Ws2812Timing) (submitSeq : UInt32) :
    Driver Bool := do
  perform (DriverCall.armPulseCapture timing submitSeq ledPixelPattern)
  let result ← (perform (DriverCall.transmit ledPixelPattern) : Driver EspErr)
  if result = .invalidState then return isFrameInFlight
  else if result ≠ .ok then return isFrameInFlight
  else do
    let result ← (perform DriverCall.waitAllDone : Driver EspErr)
    if result ≠ .ok then return true else return isFrameInFlight

/-- `DriveFrame()`, from and to `s_is_frame_in_flight`. -/
def driveFrame (isFrameInFlight : Bool) (timing : Ws2812Timing) (submitSeq : UInt32) :
    Driver Bool := do
  let (isDone, isFrameInFlight) ← waitForPreviousFrame isFrameInFlight
  if !isDone then return isFrameInFlight
  else do
    let isUpdated ← updateWs2812Encoder timing
    if !isUpdated then return isFrameInFlight
    else transmitFrame isFrameInFlight timing submitSeq

/-! ## The calls that were made -/

/-- A call with its answer. -/
inductive DriverEvent where
  | waited (err : EspErr)
  | updated (config : BytesEncoderConfig) (err : EspErr)
  | resetSymbolSet (symbol : RmtSymbol)
  | armed (request : LedRequest) (pixelGrb : List UInt8)
  | transmitted (pixelGrb : List UInt8) (err : EspErr)

/-- A request that the task has received, and its calls for it so far. -/
structure Attempt where
  request : LedRequest
  events : List DriverEvent

/-- The attempts with one more call in the newest, which is first. -/
def note (event : DriverEvent) : List Attempt → List Attempt
  | [] => []
  | attempt :: older => { attempt with events := attempt.events ++ [event] } :: older

/-- The request of the `ArmPulseCapture()` that was the last call. -/
def armedBy : List Attempt → Option LedRequest
  | [] => none
  | attempt :: _ =>
    match attempt.events.getLast? with
    | some (.armed request _) => some request
    | _ => none

/-- Whether an accepted transmission is open: `rmt_tx_wait_all_done()` has not succeeded since. -/
def flies (isOpen : Bool) : DriverEvent → Bool
  | .waited err => if err = .ok then false else isOpen
  | .transmitted _ err => if err = .ok then true else isOpen
  | _ => isOpen

def isOpen : List Attempt → Bool
  | [] => false
  | attempt :: older => attempt.events.foldl flies (isOpen older)

/-- The requests of the attempts, in the order they were received. -/
def received (attempts : List Attempt) : List LedRequest := (attempts.map Attempt.request).reverse

/-! ## The strip -/

/-- An accepted transmission, with the request that the capture was armed for and what the encoder
has emitted of it. -/
structure Frame where
  armed : Option LedRequest
  pixelGrb : List UInt8
  encoded : List RmtSymbol
  isEncoded : Bool

/-- The driver task's variables and the RMT channel, with their history: what was submitted, the
attempts, newest first, and the frames that are done. -/
structure Strip (σ τ : Type) where
  queue : Option LedRequest
  encoder : Ws2812Encoder σ τ
  pending : List Frame
  sent : List Frame
  submitted : List LedRequest
  attempts : List Attempt

section Strip

variable {σ τ : Type} (rmt : RmtEncoders σ τ)

def Strip.note (s : Strip σ τ) (event : DriverEvent) : Strip σ τ :=
  { s with attempts := LedController.note event s.attempts }

def Strip.update (s : Strip σ τ) (config : BytesEncoderConfig) : Strip σ τ :=
  { s with encoder :=
    { s.encoder with bytesEncoder := rmt.updateConfig s.encoder.bytesEncoder config } }

def Strip.setReset (s : Strip σ τ) (symbol : RmtSymbol) : Strip σ τ :=
  { s with encoder := { s.encoder with resetSymbol := symbol } }

def Strip.accept (s : Strip σ τ) (pixelGrb : List UInt8) : Strip σ τ :=
  { s with pending := s.pending ++ [⟨armedBy s.attempts, pixelGrb, [], false⟩] }

/-- The calls, with any answer: only a wait for all transmissions does not succeed before they are
done, and a transmission is accepted exactly with `ESP_OK`. -/
def strip : Device DriverCall DriverCall.Answer (Strip σ τ)
  | .waitAllDone, s, r, t => (r = EspErr.ok → s.pending = []) ∧ t = s.note (.waited r)
  | .updateConfig config, s, r, t =>
    t = (if r = EspErr.ok then s.update rmt config else s).note (.updated config r)
  | .setResetSymbol symbol, s, _, t => t = (s.setReset symbol).note (.resetSymbolSet symbol)
  | .armPulseCapture timing submitSeq pixelGrb, s, _, t =>
    t = s.note (.armed ⟨timing, submitSeq⟩ pixelGrb)
  | .transmit pixelGrb, s, r, t =>
    t = (if r = EspErr.ok then s.accept pixelGrb else s).note (.transmitted pixelGrb r)

/-- `ApplyWs2812Timing()`. -/
def applyWs2812Timing (s : Strip σ τ) (request : LedRequest) : Strip σ τ :=
  { s with queue := some request, submitted := s.submitted ++ [request] }

/-- The transmit interrupt calls the encoder for the first pending frame. -/
def refill (s : Strip σ τ) (frame : Frame) (rest : List Frame) (free : Nat) : Strip σ τ :=
  let call := encodeWs2812Frame rmt frame.pixelGrb s.encoder free
  { s with
    encoder := call.next
    pending :=
      { frame with
        encoded := frame.encoded ++ call.emitted
        isEncoded := call.complete } :: rest }

/-- What happens beside the driver task. -/
inductive Beside (s : Strip σ τ) : Strip σ τ → Prop where
  | apply (request : LedRequest) : Beside s (applyWs2812Timing s request)
  | refill {frame : Frame} {rest : List Frame} (free : Nat) : s.pending = frame :: rest →
      frame.isEncoded = false → Beside s (refill rmt s frame rest free)
  | finish {frame : Frame} {rest : List Frame} : s.pending = frame :: rest →
      frame.isEncoded = true → Beside s { s with pending := rest, sent := s.sent ++ [frame] }

/-- `RunLedDriverTask()` receives the next request. -/
inductive Receive : Bool → Strip σ τ → Driver Bool → Strip σ τ → Prop where
  | request {isFrameInFlight : Bool} {s : Strip σ τ} {request : LedRequest} :
      s.queue = some request →
      Receive isFrameInFlight s (driveFrame isFrameInFlight request.timing request.submitSeq)
        { s with queue := none, attempts := ⟨request, []⟩ :: s.attempts }

/-- The strip when `StartLedController()` has created the encoder. -/
def bootStrip (timing : Ws2812Timing) : Strip σ τ where
  queue := none
  encoder := initWs2812Encoder rmt timing
  pending := []
  sent := []
  submitted := []
  attempts := []

/-- What the task has left to do for a request, and the strip, at some moment. -/
def DriverRun (timing : Ws2812Timing) (c : Driver Bool × Strip σ τ) : Prop :=
  ReflTransGen (LoopStep (strip rmt) Receive (Beside rmt)) (.ret false, bootStrip rmt timing) c

end Strip

end StripTuner.LedController
