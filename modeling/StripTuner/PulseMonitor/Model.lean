import StripTuner.Esp
import StripTuner.Ws2812.Pulses

/-!
# The pulse monitor

`rmt_pulse_monitor.c` as a step relation over its static variables, the decode task, the calls that
arm it, the receive-done interrupt and the receive hardware. The lock sections of the decode task
are single steps; the one of an arming call is a step for each access that the interrupt can see,
since an interrupt does not take the lock.
-/

namespace StripTuner.PulseMonitor

open Ws2812

/-! ## Data -/

/-- `RMT_PULSE_MONITOR_SYMBOL_CAPACITY`. -/
abbrev rmtPulseMonitorSymbolCapacity : Nat := rmtPulseMonitorDataSymbols

/-- `RMT_PULSE_MONITOR_EXPECTED_PIXEL_MAX_BYTES`. -/
abbrev rmtPulseMonitorExpectedPixelMaxBytes : Nat := 18

/-- `s_symbol_buffer`. -/
abbrev SymbolBuffer : Type := Vector RmtSymbol rmtPulseMonitorSymbolCapacity

/-- `pulse_capture_mode_t`. -/
inductive PulseCaptureMode where
  | send
  | read
deriving DecidableEq

/-- `ws2812_measurement_state_t`. -/
inductive Ws2812MeasurementState where
  | done
  | timeout
  | countError
  | notMeasured
  | readDone
deriving DecidableEq

/-- `ws2812_measurement_t`. -/
structure Ws2812Measurement where
  submitSeq : UInt32
  state : Ws2812MeasurementState
  bit0HighAvgNs : UInt32 := 0
  bit1HighAvgNs : UInt32 := 0
  matchCount : UInt16 := 0
  matchAvailable : Bool := false
  bit0PeriodAvgNs : UInt32 := 0
  bit1PeriodAvgNs : UInt32 := 0
deriving DecidableEq

/-- The armed snapshot: `s_armed_timing`, `s_armed_pixel_grb` up to its length, `s_armed_submit_seq`
and `s_armed_mode`. -/
structure Snapshot where
  timing : Ws2812Timing
  pixelGrb : List UInt8
  submitSeq : UInt32
  mode : PulseCaptureMode

/-- A call of `ArmPulseCapture()`, without or with a null argument, or of `ArmPulseRead()`. -/
inductive ArmRequest where
  | capture (appliedTiming : Ws2812Timing) (submitSeq : UInt32) (expectedPixelGrb : List UInt8)
  | nullCapture (submitSeq : UInt32)
  | read (submitSeq : UInt32)

def ArmRequest.submitSeq : ArmRequest → UInt32
  | .capture _ submitSeq _ | .nullCapture submitSeq | .read submitSeq => submitSeq

/-- The arguments pass the checks before the lock is tried. -/
def ArmRequest.isAccepted : ArmRequest → Bool
  | .capture _ _ expectedPixelGrb => expectedPixelGrb.length ≤ rmtPulseMonitorExpectedPixelMaxBytes
  | .nullCapture _ => false
  | .read _ => true

/-- The snapshot a successful arm leaves; a read keeps the timing and the pixels. -/
def ArmRequest.store (request : ArmRequest) (armed : Snapshot) : Snapshot :=
  match request with
  | .capture appliedTiming submitSeq expectedPixelGrb =>
    ⟨appliedTiming, expectedPixelGrb, submitSeq, .send⟩
  | .nullCapture _ => armed
  | .read submitSeq => { armed with submitSeq := submitSeq, mode := .read }

/-! ## Outcomes -/

/-- The record of an outcome without statistics, from `PublishPulseResult()`. -/
def plainResult (submitSeq : UInt32) (state : Ws2812MeasurementState) : Ws2812Measurement where
  submitSeq := submitSeq
  state := state

/-- `DecodeCapture()`: the record it publishes. -/
def decodeCapture (snapshot : Snapshot) (symbols : SymbolBuffer) (symbolCount : Nat) :
    Option Ws2812Measurement :=
  if symbolCount ≠ rmtPulseMonitorDataSymbols then
    some (plainResult snapshot.submitSeq .countError)
  else
    match aggregateWs2812Pulses symbols.toList snapshot.timing snapshot.pixelGrb
      rmtPulseMonitorTickNs with
    | some stats =>
      some
        { plainResult snapshot.submitSeq .done with
          bit0HighAvgNs := stats.bit0HighAvgNs
          bit1HighAvgNs := stats.bit1HighAvgNs
          matchCount := stats.matchCount.toUInt16
          matchAvailable := stats.matchAvailable }
    | none => none

/-- `AnalyzeReadCapture()`: the record it publishes. -/
def analyzeReadCapture (snapshot : Snapshot) (symbols : SymbolBuffer) (symbolCount : Nat) :
    Ws2812Measurement :=
  let result := analyzeWs2812Read
    (symbols.toList.take (min symbolCount rmtPulseMonitorSymbolCapacity)) rmtPulseMonitorTickNs
  if !result.1 then plainResult snapshot.submitSeq .countError
  else
    { plainResult snapshot.submitSeq .readDone with
      bit0HighAvgNs := result.2.bit0HighAvgNs
      bit1HighAvgNs := result.2.bit1HighAvgNs
      bit0PeriodAvgNs := result.2.bit0PeriodAvgNs
      bit1PeriodAvgNs := result.2.bit1PeriodAvgNs }

/-- The record published for a capture, by the mode of its snapshot. -/
def captureResult (snapshot : Snapshot) (symbols : SymbolBuffer) (symbolCount : Nat) :
    Option Ws2812Measurement :=
  if snapshot.mode = .read then some (analyzeReadCapture snapshot symbols symbolCount)
  else decodeCapture snapshot symbols symbolCount

/-- A capture always has a result: the aggregation only fails for a wrong count. -/
theorem isSome_captureResult (snapshot : Snapshot) (symbols : SymbolBuffer) (symbolCount : Nat) :
    (captureResult snapshot symbols symbolCount).isSome := by
  unfold captureResult
  split
  · rfl
  unfold decodeCapture
  split
  · rfl
  unfold aggregateWs2812Pulses
  rw [if_neg (fun h => h (Vector.length_toList))]
  rfl

/-- A stored request decides the result alone; what was armed before does not matter. -/
theorem captureResult_store (request : ArmRequest) (h : request.isAccepted = true)
    (armed armed' : Snapshot) : captureResult (request.store armed) = captureResult (request.store armed') := by
  cases request with
  | capture timing submitSeq pixels => rfl
  | nullCapture submitSeq => cases h
  | read submitSeq => rfl

/-- A capture is done only if it has all symbols, -/
theorem symbolCount_of_done {snapshot : Snapshot} {symbols : SymbolBuffer} {symbolCount : Nat}
    {record : Ws2812Measurement} (h : captureResult snapshot symbols symbolCount = some record)
    (hdone : record.state = .done) : symbolCount = rmtPulseMonitorDataSymbols := by
  unfold captureResult at h
  split at h
  · obtain rfl := Option.some.inj h
    unfold analyzeReadCapture at hdone
    dsimp only at hdone
    split at hdone <;> cases hdone
  unfold decodeCapture at h
  split at h
  · obtain rfl := Option.some.inj h
    cases hdone
  · rename_i hcount
    exact not_not.mp hcount

/-- and a send capture with all symbols is done. -/
theorem exists_captureResult_done {snapshot : Snapshot} (hmode : snapshot.mode = .send)
    (symbols : SymbolBuffer) :
    ∃ record, captureResult snapshot symbols rmtPulseMonitorDataSymbols = some record ∧
      record.state = .done := by
  obtain ⟨record, hrecord⟩ := Option.isSome_iff_exists.mp
    (isSome_captureResult snapshot symbols rmtPulseMonitorDataSymbols)
  refine ⟨record, hrecord, ?_⟩
  unfold captureResult at hrecord
  rw [if_neg (by rw [hmode]; decide)] at hrecord
  unfold decodeCapture at hrecord
  rw [if_neg (fun h => h rfl)] at hrecord
  split at hrecord
  · obtain rfl := Option.some.inj hrecord
    rfl
  · cases hrecord

/-! ## State -/

/-- `capture_done_event_t`; `source` is the receive that ended, which the code does not know. -/
structure CaptureDoneEvent where
  symbolCount : Nat
  armSeq : UInt32
  source : Nat

/-- The arm that the decode task waits on: its number and `submit_seq`, and which arm that was. -/
structure Wait where
  waitSeq : UInt32
  waitSubmitSeq : UInt32
  arm : Nat

/-- The private copies of a capture that was taken, for the arm that was the latest then. -/
structure TakenCapture where
  snapshot : Snapshot
  symbols : SymbolBuffer
  symbolCount : Nat
  arm : Nat

/-- Where an arming call is that holds the lock; `started` with the receive it has started. -/
inductive ArmPhase where
  | tagged
  | receiving
  | enabling
  | retrying
  | failed
  | started (receive : Nat)
deriving DecidableEq

structure Armer where
  call : Nat
  request : ArmRequest
  armSeq : UInt32
  phase : ArmPhase

/-- Where the decode task is. -/
inductive Decoder where
  | waitArmed
  | signalled
  | waiting (wait : Wait)
  | holding (wait : Wait) (event : CaptureDoneEvent)
  | timedOut (wait : Wait)
  | restarted (wait : Wait)
  | taken (capture : TakenCapture)

/-- A successful arm: its call and the receive it started. -/
structure Arm where
  call : Nat
  receive : Nat

/-- A published record and the call it belongs to. -/
structure Outcome where
  call : Nat
  record : Ws2812Measurement

/-- The symbols and the count of a receive that ended. -/
structure Received where
  symbols : SymbolBuffer
  symbolCount : Nat

/-- The variables of the component, the receive in flight, and a history: the calls, the successful
arms, the receives started and ended, the arms matched or timed out, and the records published.
Calls, arms and receives are numbered from 0. -/
structure State where
  isStarted : Bool
  armed : Snapshot
  armedSeq : UInt32
  captureSeq : UInt32
  isReceivePending : Bool
  symbolBuffer : SymbolBuffer
  captureQueue : Option CaptureDoneEvent
  armedSem : Bool
  armer : Option Armer
  decoder : Decoder
  inFlight : Option Nat
  unpublished : List Nat
  calls : List ArmRequest
  arms : List Arm
  receives : Nat
  received : Nat → Option Received
  settled : List Nat
  published : List Outcome

/-- After `StartPulseMonitor()`. -/
structure Initial (s : State) : Prop where
  armedSeq : s.armedSeq = 0
  captureSeq : s.captureSeq = 0
  isReceivePending : s.isReceivePending = false
  captureQueue : s.captureQueue = none
  armedSem : s.armedSem = false
  armer : s.armer = none
  decoder : s.decoder = .waitArmed
  inFlight : s.inFlight = none
  unpublished : s.unpublished = []
  calls : s.calls = []
  arms : s.arms = []
  receives : s.receives = 0
  received : s.received = fun _ => none
  settled : s.settled = []
  published : s.published = []

namespace State

/-! ## Arming -/

/-- An arming call that returns without arming, before it publishes. -/
def rejectArm (s : State) (request : ArmRequest) : State :=
  { s with calls := s.calls ++ [request], unpublished := s.unpublished ++ [s.calls.length] }

/-- An arming call up to the tag of its receive. It fails at once when the component is not
started, an argument is rejected, the lock is held or a receive is pending. -/
def beginArm (s : State) (request : ArmRequest) : State :=
  if !s.isStarted || !request.isAccepted || s.armer.isSome || s.isReceivePending then
    s.rejectArm request
  else
    { s with
      calls := s.calls ++ [request]
      captureSeq := s.armedSeq + 1
      armer := some ⟨s.calls.length, request, s.armedSeq + 1, .tagged⟩ }

/-- `rmt_receive()` has started a receive. -/
def startReceive (s : State) (armer : Armer) : State :=
  { s with
    inFlight := some s.receives
    receives := s.receives + 1
    armer := some { armer with phase := .started s.receives } }

/-- The failure path of `StartTaggedReceive()` and the return without arming. -/
def failArm (s : State) (armer : Armer) : State :=
  { s with
    captureSeq := s.armedSeq
    isReceivePending := false
    armer := none
    unpublished := s.unpublished ++ [armer.call] }

/-- The snapshot after a successful receive, and the signal to the decode task. -/
def commitArm (s : State) (armer : Armer) (receive : Nat) : State :=
  { s with
    armed := armer.request.store s.armed
    armedSeq := armer.armSeq
    armedSem := true
    armer := none
    arms := s.arms ++ [⟨armer.call, receive⟩] }

/-! ## The interrupt -/

/-- `HandleRxDone()`. -/
def handleRxDone (s : State) (source symbolCount : Nat) : State :=
  { s with
    isReceivePending := false
    captureQueue := some ⟨symbolCount, s.captureSeq, source⟩
    inFlight := none
    received := Function.update s.received source (some ⟨s.symbolBuffer, symbolCount⟩) }

/-! ## The decode task -/

/-- The latest arm, as a wait. -/
def latestWait (s : State) : Wait := ⟨s.armedSeq, s.armed.submitSeq, s.arms.length - 1⟩

/-- `TakeCurrentCapture()`, and the branch on its result. -/
def takeCurrentCapture (s : State) (event : CaptureDoneEvent) : State :=
  if event.armSeq = s.armedSeq then
    { s with
      armedSem := false
      settled := s.settled ++ [s.arms.length - 1]
      decoder := .taken ⟨s.armed, s.symbolBuffer, event.symbolCount, s.arms.length - 1⟩ }
  else { s with decoder := .waiting s.latestWait }

/-- `RestartRxChannel()`, for the result of `rmt_disable()`; the result of `rmt_enable()` is only
logged. A receive survives a failed disable. -/
def restartRxChannel (s : State) (wait : Wait) (disabled : EspErr) : State :=
  if s.armedSeq ≠ wait.waitSeq then { s with decoder := .restarted wait }
  else
    { s with
      armedSem := false
      inFlight := if disabled = .ok then none else s.inFlight
      isReceivePending := false
      decoder := .restarted wait }

/-- The end of a wait: the record is published for an arm. -/
def publishFor (s : State) (arm : Nat) (record : Option Ws2812Measurement) : State :=
  { s with
    decoder := .waitArmed
    published := s.published ++
      (record.map fun r => ⟨(s.arms[arm]?.map Arm.call).getD 0, r⟩).toList }

end State

/-! ## Steps -/

/-- One step of a caller, of the decode task, of the hardware or of the interrupt. -/
inductive Action where
  | arm (request : ArmRequest)
  | armBusy (request : ArmRequest)
  | setPending
  | receive (err : EspErr)
  | enable (err : EspErr)
  | receiveAgain (err : EspErr)
  | failArm
  | commitArm
  | publishNotMeasured (call : Nat)
  | hardwareWrite (symbols : SymbolBuffer)
  | receiveDone (symbolCount : Nat)
  | takeSem
  | getArmedSeq
  | queueReceive
  | queueTimeout
  | takeCapture
  | restart (disabled : EspErr)
  | publish

/-- The phase after a call of `rmt_receive()` that returned an error. -/
def phaseAfterError (retried : Bool) (err : EspErr) : ArmPhase :=
  if err = .invalidState ∧ retried = false then .enabling else .failed

/-- `rmt_receive()` succeeds only while no receive is in flight; apart from that every return code
is possible at every call. An arming call may also find the lock held by the decode task. -/
inductive Step : State → Action → State → Prop where
  | arm (s : State) (request : ArmRequest) : Step s (.arm request) (s.beginArm request)
  | armBusy (s : State) (request : ArmRequest) : Step s (.armBusy request) (s.rejectArm request)
  | setPending {s : State} {armer : Armer} (harmer : s.armer = some armer)
      (hphase : armer.phase = .tagged) :
      Step s .setPending
        { s with isReceivePending := true, armer := some { armer with phase := .receiving } }
  | receive {s : State} {armer : Armer} (harmer : s.armer = some armer)
      (hphase : armer.phase = .receiving) (hfree : s.inFlight = none) :
      Step s (.receive .ok) (s.startReceive armer)
  | receiveError {s : State} {armer : Armer} {err : EspErr} (harmer : s.armer = some armer)
      (hphase : armer.phase = .receiving) (herr : err ≠ .ok) :
      Step s (.receive err) { s with armer := some { armer with phase := phaseAfterError false err } }
  | enable {s : State} {armer : Armer} (harmer : s.armer = some armer)
      (hphase : armer.phase = .enabling) (err : EspErr) :
      Step s (.enable err)
        { s with armer := some { armer with phase := if err = .ok then .retrying else .failed } }
  | receiveAgain {s : State} {armer : Armer} (harmer : s.armer = some armer)
      (hphase : armer.phase = .retrying) (hfree : s.inFlight = none) :
      Step s (.receiveAgain .ok) (s.startReceive armer)
  | receiveAgainError {s : State} {armer : Armer} {err : EspErr} (harmer : s.armer = some armer)
      (hphase : armer.phase = .retrying) (herr : err ≠ .ok) :
      Step s (.receiveAgain err)
        { s with armer := some { armer with phase := phaseAfterError true err } }
  | failArm {s : State} {armer : Armer} (harmer : s.armer = some armer)
      (hphase : armer.phase = .failed) : Step s .failArm (s.failArm armer)
  | commitArm {s : State} {armer : Armer} {receive : Nat} (harmer : s.armer = some armer)
      (hphase : armer.phase = .started receive) : Step s .commitArm (s.commitArm armer receive)
  | publishNotMeasured {s : State} {call : Nat} {request : ArmRequest}
      (hcall : call ∈ s.unpublished) (hrequest : s.calls[call]? = some request) :
      Step s (.publishNotMeasured call)
        { s with
          unpublished := s.unpublished.erase call
          published := s.published ++ [⟨call, plainResult request.submitSeq .notMeasured⟩] }
  | hardwareWrite {s : State} {source : Nat} (hflight : s.inFlight = some source)
      (symbols : SymbolBuffer) : Step s (.hardwareWrite symbols) { s with symbolBuffer := symbols }
  | receiveDone {s : State} {source : Nat} (hflight : s.inFlight = some source)
      (symbolCount : Nat) : Step s (.receiveDone symbolCount) (s.handleRxDone source symbolCount)
  | takeSem {s : State} (hstarted : s.isStarted = true) (hdecoder : s.decoder = .waitArmed)
      (hsem : s.armedSem = true) :
      Step s .takeSem { s with armedSem := false, decoder := .signalled }
  | getArmedSeq {s : State} (hdecoder : s.decoder = .signalled) (hlock : s.armer = none) :
      Step s .getArmedSeq { s with decoder := .waiting s.latestWait }
  | queueReceive {s : State} {wait : Wait} {event : CaptureDoneEvent}
      (hdecoder : s.decoder = .waiting wait) (hqueue : s.captureQueue = some event) :
      Step s .queueReceive { s with captureQueue := none, decoder := .holding wait event }
  | queueTimeout {s : State} {wait : Wait} (hdecoder : s.decoder = .waiting wait)
      (hqueue : s.captureQueue = none) :
      Step s .queueTimeout
        { s with settled := s.settled ++ [wait.arm], decoder := .timedOut wait }
  | takeCapture {s : State} {wait : Wait} {event : CaptureDoneEvent}
      (hdecoder : s.decoder = .holding wait event) (hlock : s.armer = none) :
      Step s .takeCapture (s.takeCurrentCapture event)
  | restart {s : State} {wait : Wait} (hdecoder : s.decoder = .timedOut wait)
      (hlock : s.armer = none) (disabled : EspErr) :
      Step s (.restart disabled) (s.restartRxChannel wait disabled)
  | publishTimeout {s : State} {wait : Wait} (hdecoder : s.decoder = .restarted wait) :
      Step s .publish (s.publishFor wait.arm (some (plainResult wait.waitSubmitSeq .timeout)))
  | publishCapture {s : State} {capture : TakenCapture} (hdecoder : s.decoder = .taken capture) :
      Step s .publish (s.publishFor capture.arm
        (captureResult capture.snapshot capture.symbols capture.symbolCount))

end StripTuner.PulseMonitor
