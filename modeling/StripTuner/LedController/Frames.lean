import StripTuner.LedController.Driver

/-!
# The frames on the strip

The driver task alone decides when the encoder is rewritten. What it knows of the strip, whatever
the interrupt and the submitters do, is that nothing is pending once a wait for all transmissions
has succeeded; its flag says whether one has since the last accepted frame.
-/

namespace StripTuner.LedController

open DeviceCalls DeviceCalls.Prog Relation Streaming Ws2812

/-! ## The task alone -/

/-- What the driver task alone changes. -/
structure View where
  attempts : List Attempt
  config : BytesEncoderConfig
  resetSymbol : RmtSymbol
  accepted : List (Option LedRequest)

def View.note (x : View) (event : DriverEvent) : View :=
  { x with attempts := LedController.note event x.attempts }

def View.accept (x : View) : View := { x with accepted := x.accepted ++ [armedBy x.attempts] }

/-- The calls, with any answer. -/
def view : Device DriverCall DriverCall.Answer View
  | .waitAllDone, x, r, y => y = x.note (.waited r)
  | .updateConfig config, x, r, y =>
    y = (if r = EspErr.ok then { x with config := config } else x).note (.updated config r)
  | .setResetSymbol symbol, x, _, y =>
    y = { x with resetSymbol := symbol }.note (.resetSymbolSet symbol)
  | .armPulseCapture timing submitSeq pixelGrb, x, _, y =>
    y = x.note (.armed ⟨timing, submitSeq⟩ pixelGrb)
  | .transmit pixelGrb, x, r, y =>
    y = (if r = EspErr.ok then x.accept else x).note (.transmitted pixelGrb r)

/-- The encoder is rewritten, and a frame transmitted, while no accepted frame is open; the frame is
that of the request that the capture was armed for just before. -/
def Allowed : DriverCall → View → Prop
  | .updateConfig _, x | .setResetSymbol _, x => isOpen x.attempts = false
  | .transmit pixelGrb, x => isOpen x.attempts = false ∧ pixelGrb = ledPixelPattern ∧
    ∃ request, armedBy x.attempts = some request ∧
      x.config = buildBytesEncoderConfig request.timing ∧
        x.resetSymbol = buildResetSymbol request.timing
  | .waitAllDone, _ | .armPulseCapture _ _ _, _ => True

/-- The frames accepted so far are those of requests in their order, and no request has made more
than six calls. -/
structure InOrder (x : View) : Prop where
  accepted : x.accepted.Sublist ((received x.attempts).map some)
  short : ∀ attempt ∈ x.attempts, attempt.events.length ≤ 6

/-- An attempt was skipped because the frame before it was still open, or the encoder was updated
for it, and if that succeeded its frame was transmitted. -/
def Attempt.Tried (wasOpen : Bool) (attempt : Attempt) : Prop :=
  (wasOpen = true ∧ ∃ err, err ≠ EspErr.ok ∧ attempt.events = [.waited err]) ∨
    ∃ err, .updated (buildBytesEncoderConfig attempt.request.timing) err ∈ attempt.events ∧
      (err = EspErr.ok → ∃ err', .transmitted ledPixelPattern err' ∈ attempt.events)

/-- The same of all attempts, newest first. -/
def AllTried : List Attempt → Prop
  | [] => True
  | attempt :: older => attempt.Tried (isOpen older) ∧ AllTried older

/-- Between two requests. -/
structure Idle (isFrameInFlight : Bool) (x : View) : Prop where
  flag : isFrameInFlight = isOpen x.attempts
  tried : AllTried x.attempts
  inOrder : InOrder x

section Task

variable {timing : Ws2812Timing} {submitSeq : UInt32} {request : LedRequest} {older : List Attempt}
  {events : List DriverEvent} {config : BytesEncoderConfig} {resetSymbol : RmtSymbol}
  {accepted : List (Option LedRequest)}

@[simp] theorem note_cons (event : DriverEvent) :
    LedController.note event (⟨request, events⟩ :: older) = ⟨request, events ++ [event]⟩ :: older :=
  rfl

theorem received_cons (attempt : Attempt) :
    received (attempt :: older) = received older ++ [attempt.request] := by
  simp [received]

theorem isOpen_append (event : DriverEvent) : isOpen (⟨request, events ++ [event]⟩ :: older) =
    flies (isOpen (⟨request, events⟩ :: older)) event := by
  simp [isOpen]

theorem armedBy_append (pixelGrb : List UInt8) :
    armedBy (⟨request, events ++ [.armed ⟨timing, submitSeq⟩ pixelGrb]⟩ :: older) =
      some ⟨timing, submitSeq⟩ := by
  simp [armedBy]

variable (hshort : ∀ attempt ∈ older, attempt.events.length ≤ 6)
  (haccepted : accepted.Sublist ((received older).map some))

include hshort haccepted in
/-- An attempt that has added no frame. -/
theorem inOrder_of_older (hevents : events.length ≤ 6) :
    InOrder ⟨⟨request, events⟩ :: older, config, resetSymbol, accepted⟩ where
  accepted := by
    rw [received_cons, List.map_append]
    exact haccepted.trans (List.sublist_append_left _ _)
  short := by
    rw [List.forall_mem_cons]
    exact ⟨hevents, hshort⟩

include hshort haccepted in
/-- An attempt that has added its frame. -/
theorem inOrder_accept (hevents : events.length ≤ 6) :
    InOrder ⟨⟨request, events⟩ :: older, config, resetSymbol, accepted ++ [some request]⟩ where
  accepted := by
    rw [received_cons, List.map_append]
    exact haccepted.append (List.Sublist.refl _)
  short := by
    rw [List.forall_mem_cons]
    exact ⟨hevents, hshort⟩

/-- What every call is made with. -/
def Guard (c : DriverCall) (x : View) : Prop := Allowed c x ∧ InOrder x

include hshort haccepted in
theorem wp_transmitFrame (hopen : isOpen (⟨⟨timing, submitSeq⟩, events⟩ :: older) = false)
    (htried : AllTried older) (hevents : events.length ≤ 3)
    (hupdated : .updated (buildBytesEncoderConfig timing) EspErr.ok ∈ events) :
    (transmitFrame false timing submitSeq).wp view Guard Idle
      ⟨⟨⟨timing, submitSeq⟩, events⟩ :: older, buildBytesEncoderConfig timing,
        buildResetSymbol timing, accepted⟩ := by
  have htriedWith : ∀ events', .updated (buildBytesEncoderConfig timing) EspErr.ok ∈ events' →
      (∃ err', .transmitted ledPixelPattern err' ∈ events') →
        AllTried (⟨⟨timing, submitSeq⟩, events'⟩ :: older) :=
    fun events' hupdated htransmitted => ⟨Or.inr ⟨_, hupdated, fun _ => htransmitted⟩, htried⟩
  have hclosed : isOpen (⟨⟨timing, submitSeq⟩,
      events ++ [.armed ⟨timing, submitSeq⟩ ledPixelPattern]⟩ :: older) = false := by
    rw [isOpen_append]
    exact hopen
  rw [transmitFrame, wp_bind, wp_perform]
  refine ⟨⟨trivial, inOrder_of_older hshort haccepted (by omega)⟩, ?_⟩
  rintro _ _ rfl
  rw [wp_bind, wp_perform]
  refine ⟨⟨⟨hclosed, rfl, _, armedBy_append _, rfl, rfl⟩,
    inOrder_of_older hshort haccepted (by simp; omega)⟩, ?_⟩
  rintro result _ rfl
  by_cases hresult : result = .ok
  · subst hresult
    rw [if_pos rfl, if_neg (by decide), if_neg (by simp), View.accept]
    dsimp only [View.note, note_cons]
    rw [armedBy_append, wp_bind, wp_perform]
    refine ⟨⟨trivial, inOrder_accept hshort haccepted (by simp; omega)⟩, ?_⟩
    rintro err _ rfl
    have htried' := htriedWith (events ++ [.armed ⟨timing, submitSeq⟩ ledPixelPattern] ++
      [.transmitted ledPixelPattern .ok] ++ [.waited err]) (by simp [hupdated]) ⟨.ok, by simp⟩
    have horder := @inOrder_accept ⟨timing, submitSeq⟩ older
      (events ++ [.armed ⟨timing, submitSeq⟩ ledPixelPattern] ++
        [.transmitted ledPixelPattern .ok] ++ [.waited err])
      (buildBytesEncoderConfig timing) (buildResetSymbol timing) accepted hshort haccepted
      (by simp; omega)
    by_cases herr : err = .ok
    · rw [if_neg (by simp [herr]), wp_pure]
      refine ⟨?_, htried', horder⟩
      show false = isOpen _
      rw [View.note, note_cons, isOpen_append, flies, if_pos herr]
    · rw [if_pos herr, wp_pure]
      refine ⟨?_, htried', horder⟩
      show true = isOpen _
      rw [View.note, note_cons, isOpen_append, isOpen_append, flies, flies, if_neg herr, if_pos rfl]
  · have hdone : ∀ p : Driver Bool, (if result = .invalidState then pure false
        else if result ≠ .ok then pure false else p) = (pure false : Driver Bool) := by
      intro p
      rw [if_pos hresult, ite_self]
    rw [if_neg hresult, hdone, wp_pure]
    refine ⟨?_, htriedWith _ (by simp [hupdated]) ⟨result, by simp⟩,
      inOrder_of_older hshort haccepted (by simp; omega)⟩
    show false = isOpen _
    rw [View.note, View.note, note_cons, note_cons, isOpen_append, flies, if_neg hresult, hclosed]

include hshort haccepted in
/-- The update of the encoder, and the frame if it succeeds. -/
theorem wp_updateAndTransmit (hopen : isOpen (⟨⟨timing, submitSeq⟩, events⟩ :: older) = false)
    (htried : AllTried older) (hevents : events.length ≤ 1) :
    (updateWs2812Encoder timing >>= fun isUpdated =>
      if !isUpdated then return false else transmitFrame false timing submitSeq).wp view Guard Idle
        ⟨⟨⟨timing, submitSeq⟩, events⟩ :: older, config, resetSymbol, accepted⟩ := by
  rw [wp_bind, updateWs2812Encoder, wp_bind, wp_perform]
  refine ⟨⟨hopen, inOrder_of_older hshort haccepted (by omega)⟩, ?_⟩
  rintro err _ rfl
  by_cases herr : err = .ok
  · subst herr
    rw [if_pos rfl, if_neg (by simp), wp_bind, wp_perform]
    dsimp only [View.note, note_cons]
    have hupdatedOpen : isOpen (⟨⟨timing, submitSeq⟩,
        events ++ [.updated (buildBytesEncoderConfig timing) .ok]⟩ :: older) = false := by
      rw [isOpen_append]
      exact hopen
    refine ⟨⟨hupdatedOpen, inOrder_of_older hshort haccepted (by simp; omega)⟩, ?_⟩
    rintro _ _ rfl
    rw [wp_pure, if_neg (by simp)]
    refine wp_transmitFrame hshort haccepted ?_ htried (by simp; omega) (by simp)
    rw [isOpen_append]
    exact hupdatedOpen
  · rw [if_neg herr, if_pos herr, wp_pure, if_pos (by simp), wp_pure]
    refine ⟨?_, ⟨Or.inr ⟨err, by simp, fun h => absurd h herr⟩, htried⟩,
      inOrder_of_older hshort haccepted (by simp; omega)⟩
    show false = isOpen _
    rw [View.note, note_cons, isOpen_append]
    exact hopen.symm

include hshort haccepted in
/-- One iteration of the task. -/
theorem wp_driveFrame {isFrameInFlight : Bool} (hflag : isFrameInFlight = isOpen older)
    (htried : AllTried older) :
    (driveFrame isFrameInFlight timing submitSeq).wp view Guard Idle
      ⟨⟨⟨timing, submitSeq⟩, []⟩ :: older, config, resetSymbol, accepted⟩ := by
  rw [driveFrame, wp_bind, waitForPreviousFrame]
  cases isFrameInFlight with
  | false =>
      rw [if_pos (by simp), wp_pure]
      exact wp_updateAndTransmit hshort haccepted hflag.symm htried (by simp)
  | true =>
      rw [if_neg (by simp), wp_bind, wp_perform]
      refine ⟨⟨trivial, inOrder_of_older hshort haccepted (by simp)⟩, ?_⟩
      rintro err _ rfl
      by_cases herr : err = .ok
      · subst herr
        rw [if_neg (by simp), wp_pure]
        refine wp_updateAndTransmit hshort haccepted ?_ htried (by simp)
        rfl
      · rw [if_pos herr, wp_pure]
        refine ⟨?_, ⟨Or.inl ⟨hflag.symm, err, herr, rfl⟩, htried⟩,
          inOrder_of_older hshort haccepted (by simp)⟩
        show true = isOpen _
        rw [View.note, note_cons, isOpen_append, flies, if_neg herr]
        exact hflag

end Task

/-! ## The strip behind it -/

section Strip

variable {σ τ : Type} {rmt : RmtEncoders σ τ} {config : σ → BytesEncoderConfig}
  {bytesPosition : σ → Nat} {copyPosition : τ → Nat}

variable (config bytesPosition copyPosition) in
/-- The encoder and the pending frames: none, and the encoder at rest; or one, which the encoder is
configured for, at the symbol that comes next. -/
inductive Channel : Ws2812Encoder σ τ → List Frame → Prop where
  | idle {encoder : Ws2812Encoder σ τ} : encoder.state = 0 →
      bytesPosition encoder.bytesEncoder = 0 → copyPosition encoder.copyEncoder = 0 →
      Channel encoder []
  | encoding {encoder : Ws2812Encoder σ τ} {request : LedRequest} {n : Nat} :
      AtSymbol config bytesPosition copyPosition request.timing ledPixelPattern n encoder →
      Channel encoder [⟨some request, ledPixelPattern,
        (ws2812Frame request.timing ledPixelPattern).take n, false⟩]
  | encoded {encoder : Ws2812Encoder σ τ} {request : LedRequest} :
      AtStart config bytesPosition copyPosition request.timing encoder →
      Channel encoder [⟨some request, ledPixelPattern,
        ws2812Frame request.timing ledPixelPattern, true⟩]

/-- A frame that was encoded with the timing of the request that it was armed for. -/
def Frame.EncodedFor (frame : Frame) (request : LedRequest) : Prop :=
  frame.armed = some request ∧ frame.pixelGrb = ledPixelPattern ∧
    frame.encoded = ws2812Frame request.timing ledPixelPattern

variable (config bytesPosition copyPosition) in
/-- The strip and what the driver task sees of it. -/
structure Mirrors (s : Strip σ τ) (x : View) : Prop where
  attempts_eq : s.attempts = x.attempts
  config_eq : config s.encoder.bytesEncoder = x.config
  resetSymbol_eq : s.encoder.resetSymbol = x.resetSymbol
  accepted_eq : (s.sent ++ s.pending).map Frame.armed = x.accepted
  submitted : (received s.attempts ++ s.queue.toList).Sublist s.submitted
  latest : (received s.attempts ++ s.queue.toList).getLast? = s.submitted.getLast?
  sent : ∀ frame ∈ s.sent, ∃ request, frame.EncodedFor request
  channel : Channel config bytesPosition copyPosition s.encoder s.pending

variable (config bytesPosition copyPosition) in
/-- Besides, nothing is pending unless an accepted frame is open. -/
structure Knows (s : Strip σ τ) (x : View) : Prop where
  mirrors : Mirrors config bytesPosition copyPosition s x
  closed : isOpen x.attempts = false → s.pending = []

variable {s : Strip σ τ} {x : View}

theorem received_note (event : DriverEvent) (attempts : List Attempt) :
    received (LedController.note event attempts) = received attempts := by
  cases attempts with
  | nil => rfl
  | cons attempt older => rw [LedController.note, received_cons, received_cons]

theorem isOpen_note {event : DriverEvent} (hevent : ∀ isOpen, flies isOpen event = isOpen)
    (attempts : List Attempt) :
    isOpen (LedController.note event attempts) = isOpen attempts := by
  cases attempts with
  | nil => rfl
  | cons attempt older =>
      obtain ⟨request, events⟩ := attempt
      rw [note_cons, isOpen_append, hevent]

theorem Mirrors.note (hmirrors : Mirrors config bytesPosition copyPosition s x)
    (event : DriverEvent) :
    Mirrors config bytesPosition copyPosition (s.note event) (x.note event) where
  attempts_eq := congrArg (LedController.note event) hmirrors.attempts_eq
  config_eq := hmirrors.config_eq
  resetSymbol_eq := hmirrors.resetSymbol_eq
  accepted_eq := hmirrors.accepted_eq
  submitted := by
    rw [Strip.note, received_note]
    exact hmirrors.submitted
  latest := by
    rw [Strip.note, received_note]
    exact hmirrors.latest
  sent := hmirrors.sent
  channel := hmirrors.channel

/-- A call that neither ends the open frame nor opens one. -/
theorem Knows.note (hknows : Knows config bytesPosition copyPosition s x) {event : DriverEvent}
    (hevent : ∀ isOpen, flies isOpen event = isOpen) :
    Knows config bytesPosition copyPosition (s.note event) (x.note event) where
  mirrors := hknows.mirrors.note event
  closed := by
    intro hopen
    rw [View.note, isOpen_note hevent] at hopen
    exact hknows.closed hopen

section Calls

variable (hdocumented : rmt.Documented config bytesPosition copyPosition)
  (hknows : Knows config bytesPosition copyPosition s x)

include hdocumented hknows in
theorem Knows.update (hopen : isOpen x.attempts = false) (newConfig : BytesEncoderConfig) :
    Knows config bytesPosition copyPosition (s.update rmt newConfig)
      { x with config := newConfig } := by
  obtain ⟨hmirrors, hclosed⟩ := hknows
  have hpending := hclosed hopen
  have hchannel := hmirrors.channel
  rw [hpending] at hchannel
  obtain ⟨hstate, hbytes, hcopy⟩ := hchannel
  obtain ⟨hconfig, hposition⟩ := hdocumented.update s.encoder.bytesEncoder newConfig
  refine ⟨{ hmirrors with config_eq := hconfig, channel := ?_ }, hclosed⟩
  show Channel config bytesPosition copyPosition _ s.pending
  rw [hpending]
  exact .idle hstate (hposition.trans hbytes) hcopy

include hknows in
theorem Knows.setReset (hopen : isOpen x.attempts = false) (symbol : RmtSymbol) :
    Knows config bytesPosition copyPosition (s.setReset symbol)
      { x with resetSymbol := symbol } := by
  obtain ⟨hmirrors, hclosed⟩ := hknows
  have hpending := hclosed hopen
  have hchannel := hmirrors.channel
  rw [hpending] at hchannel
  obtain ⟨hstate, hbytes, hcopy⟩ := hchannel
  refine ⟨{ hmirrors with resetSymbol_eq := rfl, channel := ?_ }, hclosed⟩
  show Channel config bytesPosition copyPosition _ s.pending
  rw [hpending]
  exact .idle hstate hbytes hcopy

include hdocumented hknows in
/-- The accepted frame is the only one, and the encoder is configured for it. -/
theorem Knows.accept (hopen : isOpen x.attempts = false) {request : LedRequest}
    (harmed : armedBy x.attempts = some request)
    (hconfig : x.config = buildBytesEncoderConfig request.timing)
    (hreset : x.resetSymbol = buildResetSymbol request.timing) :
    Mirrors config bytesPosition copyPosition (s.accept ledPixelPattern) x.accept := by
  obtain ⟨hmirrors, hclosed⟩ := hknows
  have hpending := hclosed hopen
  have hchannel := hmirrors.channel
  rw [hpending] at hchannel
  obtain ⟨hstate, hbytes, hcopy⟩ := hchannel
  have hstart : AtStart config bytesPosition copyPosition request.timing s.encoder :=
    ⟨hmirrors.config_eq.trans hconfig, hmirrors.resetSymbol_eq.trans hreset, hstate, hbytes, hcopy⟩
  refine { hmirrors with accepted_eq := ?_, channel := ?_ }
  · simp only [Strip.accept, View.accept, ← hmirrors.accepted_eq, hmirrors.attempts_eq,
      ← List.append_assoc, List.map_append, List.map_cons, List.map_nil]
  · show Channel config bytesPosition copyPosition s.encoder
      (s.pending ++ [⟨armedBy s.attempts, ledPixelPattern, [], false⟩])
    rw [hpending, hmirrors.attempts_eq, harmed]
    exact .encoding ((streams_encodeWs2812Frame hdocumented request.timing ledPixelPattern).start
      hstart)

include hdocumented hknows in
theorem Knows.call {c : DriverCall} {r : DriverCall.Answer c} {t : Strip σ τ} (hguard : Guard c x)
    (hcall : strip rmt c s r t) :
    ∃ y, view c x r y ∧ Knows config bytesPosition copyPosition t y := by
  obtain ⟨hallowed, -⟩ := hguard
  cases c with
  | waitAllDone =>
      obtain ⟨hdone, rfl⟩ := hcall
      refine ⟨_, rfl, hknows.mirrors.note _, ?_⟩
      by_cases hr : r = EspErr.ok
      · intro _
        exact hdone hr
      · have hsame : ∀ isOpen, flies isOpen (.waited r) = isOpen := fun _ => if_neg hr
        intro hopen
        rw [View.note, isOpen_note hsame] at hopen
        exact hknows.closed hopen
  | updateConfig newConfig =>
      obtain rfl := hcall
      refine ⟨_, rfl, ?_⟩
      by_cases hr : r = EspErr.ok
      · rw [if_pos hr, if_pos hr]
        exact (hknows.update hdocumented hallowed newConfig).note fun _ => rfl
      · rw [if_neg hr, if_neg hr]
        exact hknows.note fun _ => rfl
  | setResetSymbol symbol =>
      obtain rfl := hcall
      exact ⟨_, rfl, (hknows.setReset hallowed symbol).note fun _ => rfl⟩
  | armPulseCapture timing submitSeq pixelGrb =>
      obtain rfl := hcall
      exact ⟨_, rfl, hknows.note fun _ => rfl⟩
  | transmit pixelGrb =>
      obtain rfl := hcall
      obtain ⟨hopen, rfl, request, harmed, hconfig, hreset⟩ := hallowed
      refine ⟨_, rfl, ?_⟩
      by_cases hr : r = EspErr.ok
      · rw [if_pos hr, if_pos hr]
        refine ⟨(hknows.accept hdocumented hopen harmed hconfig hreset).note _, ?_⟩
        intro hclosed
        -- the capture was armed in an attempt, which is open now
        cases hattempts : x.attempts with
        | nil =>
            rw [hattempts] at harmed
            exact absurd harmed (by simp [armedBy])
        | cons attempt older =>
            obtain ⟨request, events⟩ := attempt
            rw [View.note, View.accept, hattempts, note_cons, isOpen_append, flies, if_pos hr]
              at hclosed
            exact absurd hclosed (by simp)
      · rw [if_neg hr, if_neg hr]
        exact hknows.note fun _ => if_neg hr

include hdocumented hknows in
/-- A call of the encoder stays in the frame, and in its timing. -/
theorem Knows.refill {frame : Frame} {rest : List Frame} (hpending : s.pending = frame :: rest)
    (hopen : frame.isEncoded = false) (free : Nat) :
    Knows config bytesPosition copyPosition (refill rmt s frame rest free) x := by
  obtain ⟨hmirrors, hclosed⟩ := hknows
  have hnotClosed : isOpen x.attempts = false → False := by
    intro hfalse
    rw [hclosed hfalse] at hpending
    exact absurd hpending (by simp)
  have hchannel := hmirrors.channel
  have haccepted := hmirrors.accepted_eq
  rw [hpending] at hchannel haccepted
  cases hchannel with
  | encoded => exact absurd hopen (by simp)
  | @encoding request n hat =>
      have hcontinues := (streams_encodeWs2812Frame hdocumented request.timing ledPixelPattern).call
        hat free
      have hencoded : (ws2812Frame request.timing ledPixelPattern).take n ++
          (encodeWs2812Frame rmt ledPixelPattern s.encoder free).emitted =
            (ws2812Frame request.timing ledPixelPattern).take (n + free) := by
        rw [hcontinues.emitted, List.take_add]
      have hnext : config (encodeWs2812Frame rmt ledPixelPattern s.encoder free).next.bytesEncoder =
            buildBytesEncoderConfig request.timing ∧
          (encodeWs2812Frame rmt ledPixelPattern s.encoder free).next.resetSymbol =
            buildResetSymbol request.timing ∧
          Channel config bytesPosition copyPosition
            (encodeWs2812Frame rmt ledPixelPattern s.encoder free).next [⟨some request,
              ledPixelPattern, (ws2812Frame request.timing ledPixelPattern).take (n + free),
              (encodeWs2812Frame rmt ledPixelPattern s.encoder free).complete⟩] := by
        by_cases hlast : (ws2812Frame request.timing ledPixelPattern).length ≤ n + free
        · have hstart := hcontinues.restart hlast
          rw [List.take_of_length_le hlast, hcontinues.complete_iff.2 hlast]
          exact ⟨hstart.config_eq, hstart.reset_eq, .encoded hstart⟩
        · have hat' := hcontinues.advance (by omega)
          rw [Bool.eq_false_iff.2 (mt hcontinues.complete_iff.1 hlast)]
          exact ⟨hat'.config_eq, hat'.reset_eq, .encoding hat'⟩
      obtain ⟨hconfig, hreset, hchannel⟩ := hnext
      refine ⟨{ hmirrors with
        config_eq := (hconfig.trans hat.config_eq.symm).trans hmirrors.config_eq
        resetSymbol_eq := (hreset.trans hat.reset_eq.symm).trans hmirrors.resetSymbol_eq
        accepted_eq := ?_
        channel := ?_ }, fun hfalse => (hnotClosed hfalse).elim⟩
      · rw [List.map_append] at haccepted
        rw [LedController.refill, List.map_append]
        exact haccepted
      · rw [LedController.refill]
        dsimp only
        rw [hencoded]
        exact hchannel

include hknows in
theorem Knows.finish {frame : Frame} {rest : List Frame} (hpending : s.pending = frame :: rest)
    (hencoded : frame.isEncoded = true) :
    Knows config bytesPosition copyPosition
      { s with pending := rest, sent := s.sent ++ [frame] } x := by
  obtain ⟨hmirrors, hclosed⟩ := hknows
  have hchannel := hmirrors.channel
  have haccepted := hmirrors.accepted_eq
  rw [hpending] at hchannel haccepted
  cases hchannel with
  | encoding => exact absurd hencoded (by simp)
  | @encoded request hstart =>
      refine ⟨{ hmirrors with
        accepted_eq := by simpa using haccepted
        sent := ?_
        channel := .idle hstart.state_eq hstart.bytes_eq hstart.copy_eq }, fun _ => rfl⟩
      intro frame hframe
      rcases List.mem_append.1 hframe with hold | hnew
      · exact hmirrors.sent frame hold
      · obtain rfl := List.mem_singleton.1 hnew
        exact ⟨request, rfl, rfl, rfl⟩

include hknows in
theorem Knows.apply (request : LedRequest) :
    Knows config bytesPosition copyPosition (applyWs2812Timing s request) x where
  mirrors :=
    { hknows.mirrors with
      submitted :=
        ((List.sublist_append_left _ _).trans hknows.mirrors.submitted).append (.refl [request])
      latest := by simp [applyWs2812Timing] }
  closed := hknows.closed

end Calls

/-- The interrupt and the submitters change nothing that the driver task sees. -/
theorem strip_simulates (hdocumented : rmt.Documented config bytesPosition copyPosition) :
    Simulates (strip rmt) (Beside rmt) (Knows config bytesPosition copyPosition) view Guard where
  call hknows hguard hcall := hknows.call hdocumented hguard hcall
  other := by
    intro s t x hknows hbeside
    cases hbeside with
    | apply request => exact hknows.apply request
    | refill free hpending hopen => exact hknows.refill hdocumented hpending hopen free
    | finish hpending hencoded => exact hknows.finish hpending hencoded

/-- The next request. -/
theorem Knows.receive {isFrameInFlight : Bool} {p : Driver Bool} {t : Strip σ τ}
    (hknows : Knows config bytesPosition copyPosition s x) (hidle : Idle isFrameInFlight x)
    (hreceive : Receive isFrameInFlight s p t) :
    ∃ y, Knows config bytesPosition copyPosition t y ∧ p.wp view Guard Idle y := by
  cases hreceive with
  | @request request hqueue =>
      obtain ⟨hmirrors, hclosed⟩ := hknows
      have hsubmitted := hmirrors.submitted
      have hlatest := hmirrors.latest
      rw [hqueue] at hsubmitted hlatest
      refine ⟨{ x with attempts := ⟨request, []⟩ :: x.attempts }, ⟨{ hmirrors with
        attempts_eq := by rw [hmirrors.attempts_eq]
        submitted := ?_
        latest := ?_ }, hclosed⟩, ?_⟩
      · rw [received_cons]
        simpa using hsubmitted
      · rw [received_cons]
        simpa using hlatest
      · exact wp_driveFrame hidle.inOrder.short hidle.inOrder.accepted hidle.flag hidle.tried

theorem knows_bootStrip (hdocumented : rmt.Documented config bytesPosition copyPosition)
    (timing : Ws2812Timing) : Knows config bytesPosition copyPosition (bootStrip rmt timing)
      ⟨[], buildBytesEncoderConfig timing, buildResetSymbol timing, []⟩ where
  mirrors :=
    { attempts_eq := rfl
      config_eq := (hdocumented.newBytes _).1
      resetSymbol_eq := rfl
      accepted_eq := rfl
      submitted := .refl []
      latest := rfl
      sent := by simp [bootStrip]
      channel := .idle rfl (hdocumented.newBytes _).2 hdocumented.newCopy }
  closed _ := rfl

/-- The calls for a request stay within the guard, and behind them the task is idle. -/
theorem inOrder_of_wp {p : Driver Bool} (hp : p.wp view Guard Idle x) : InOrder x := by
  cases p with
  | ret isFrameInFlight => exact hp.inOrder
  | call c k => exact hp.1.2

theorem Channel.frame {encoder : Ws2812Encoder σ τ} {pending : List Frame}
    (hchannel : Channel config bytesPosition copyPosition encoder pending) :
    ∀ frame ∈ pending, ∃ request, frame.armed = some request ∧ frame.pixelGrb = ledPixelPattern ∧
      frame.encoded.IsPrefix (ws2812Frame request.timing ledPixelPattern) := by
  cases hchannel with
  | idle => simp
  | @encoding request n _ =>
      rw [List.forall_mem_singleton]
      exact ⟨request, rfl, rfl, List.take_prefix _ _⟩
  | @encoded request _ =>
      rw [List.forall_mem_singleton]
      exact ⟨request, rfl, rfl, List.prefix_rfl⟩

/-- Whatever the calls answer and whenever the interrupt and the submitters come: the encoder is
rewritten with no frame pending, so a frame is encoded with the one timing its capture was armed
for; the frames follow the submissions; and every request that is not overwritten gets its attempt,
which the frame before it stops only if the wait for it fails once more. -/
theorem ledDriver_spec (hdocumented : rmt.Documented config bytesPosition copyPosition)
    {timing : Ws2812Timing} {c : Driver Bool × Strip σ τ} (hrun : DriverRun rmt timing c) :
    (∀ newConfig k, c.1 = .call (.updateConfig newConfig) k → c.2.pending = []) ∧
    (∀ symbol k, c.1 = .call (.setResetSymbol symbol) k → c.2.pending = []) ∧
    (∀ frame ∈ c.2.pending, ∃ request, frame.armed = some request ∧
      frame.pixelGrb = ledPixelPattern ∧
        frame.encoded.IsPrefix (ws2812Frame request.timing ledPixelPattern)) ∧
    (∀ frame ∈ c.2.sent, ∃ request, frame.EncodedFor request) ∧
    ((c.2.sent ++ c.2.pending).map Frame.armed).Sublist (c.2.submitted.map some) ∧
    (received c.2.attempts ++ c.2.queue.toList).Sublist c.2.submitted ∧
    (received c.2.attempts ++ c.2.queue.toList).getLast? = c.2.submitted.getLast? ∧
    (∀ attempt ∈ c.2.attempts, attempt.events.length ≤ 6) ∧
    ∀ isFrameInFlight, c.1 = .ret isFrameInFlight →
      isFrameInFlight = isOpen c.2.attempts ∧ AllTried c.2.attempts := by
  obtain ⟨x, ⟨hmirrors, hclosed⟩, hp⟩ := (strip_simulates hdocumented).wp_of_run
    (fun hknows hidle hreceive => hknows.receive hidle hreceive) hrun
    ⟨_, knows_bootStrip hdocumented timing, rfl, trivial, .refl _, by simp⟩
  have horder := inOrder_of_wp hp
  refine ⟨?_, ?_, hmirrors.channel.frame, hmirrors.sent, ?_, hmirrors.submitted, hmirrors.latest,
    ?_, ?_⟩
  · intro newConfig k hcall
    rw [hcall] at hp
    exact hclosed hp.1.1
  · intro symbol k hcall
    rw [hcall] at hp
    exact hclosed hp.1.1
  · have hreceived := ((List.sublist_append_left _ _).trans hmirrors.submitted).map some
    rw [hmirrors.attempts_eq] at hreceived
    rw [hmirrors.accepted_eq]
    exact horder.accepted.trans hreceived
  · rw [hmirrors.attempts_eq]
    exact horder.short
  · intro isFrameInFlight hret
    rw [hret] at hp
    rw [hmirrors.attempts_eq]
    exact ⟨hp.flag, hp.tried⟩

variable (rmt) in
/-- Every call succeeds but the waits, which time out. -/
def timingOut : Script DriverCall DriverCall.Answer (Strip σ τ)
  | .waitAllDone, s => some (.other 263, s.note (.waited (.other 263)))
  | .updateConfig config, s => some (.ok, (s.update rmt config).note (.updated config .ok))
  | .setResetSymbol symbol, s => some ((), (s.setReset symbol).note (.resetSymbolSet symbol))
  | .armPulseCapture timing submitSeq pixelGrb, s =>
    some ((), s.note (.armed ⟨timing, submitSeq⟩ pixelGrb))
  | .transmit pixelGrb, s => some (.ok, (s.accept pixelGrb).note (.transmitted pixelGrb .ok))

theorem strip_of_timingOut (c : DriverCall) (s : Strip σ τ) (r : DriverCall.Answer c)
    (t : Strip σ τ) (h : timingOut rmt c s = some (r, t)) : strip rmt c s r t := by
  cases c with
  | waitAllDone =>
      obtain ⟨rfl, rfl⟩ := Prod.mk.inj (Option.some.inj h)
      exact ⟨by simp, rfl⟩
  | updateConfig | setResetSymbol | armPulseCapture | transmit =>
      obtain ⟨rfl, rfl⟩ := Prod.mk.inj (Option.some.inj h)
      rfl

end Strip

/-- Two submissions, where the first frame times out and is open still for the second one. -/
theorem ledDriver_spec_timeout : ∃ s : Strip (BytesEncoderConfig × Nat) Nat,
    DriverRun positionEncoders ⟨400, 1250, 800, 1250, 280⟩ (.ret true, s) ∧
      s.submitted.length = 2 ∧ s.attempts.length = 2 ∧ AllTried s.attempts ∧
      ∃ frame request, s.pending = [frame] ∧ frame.armed = some request ∧
        frame.encoded.IsPrefix (ws2812Frame request.timing ledPixelPattern) := by
  have hrun : ∃ s : Strip (BytesEncoderConfig × Nat) Nat,
      DriverRun positionEncoders ⟨400, 1250, 800, 1250, 280⟩ (.ret true, s) ∧
        s.submitted.length = 2 ∧ s.attempts.length = 2 ∧ ∃ frame, s.pending = [frame] := by
    refine ⟨_, ReflTransGen.head (.other (.apply ⟨⟨400, 1250, 800, 1250, 280⟩, 0⟩))
      ((run_of_next (.request rfl) (ends_of_play strip_of_timingOut rfl)).trans
        (.head (.other (.apply ⟨⟨300, 1250, 900, 1250, 80⟩, 1⟩))
          (run_of_next (.request rfl) (ends_of_play strip_of_timingOut rfl)))), rfl, rfl, _, rfl⟩
  obtain ⟨s, hrun, hsubmitted, hattempts, frame, hpending⟩ := hrun
  obtain ⟨-, -, hframe, -, -, -, -, -, hidle⟩ := ledDriver_spec documented_positionEncoders hrun
  obtain ⟨-, htried⟩ := hidle true rfl
  obtain ⟨request, harmed, -, hencoded⟩ := hframe frame (by simp [hpending])
  exact ⟨s, hrun, hsubmitted, hattempts, htried, frame, request, hpending, harmed, hencoded⟩

end StripTuner.LedController
