import StripTuner.PulseMonitor.Rounds

/-!
# Captures are paired with their arm

A done event names the receive that ended by the number the interrupt finds in `s_capture_seq`. As
long as no waiting event carries a number when that number is given to a new receive, an event with
the number of the latest arm is the one of the latest receive, and the capture buffer holds its
symbols.
-/

namespace StripTuner.PulseMonitor

open Relation Ws2812

/-! ## The invariant -/

/-- The event is in the queue or in the hand of the decode task. -/
def State.Pending (s : State) (event : CaptureDoneEvent) : Prop :=
  s.captureQueue = some event ∨ ∃ wait, s.decoder = .holding wait event

/-- The record is the result of what the arm's own receive brought, with the arm's own request. -/
def State.PairedRecord (s : State) (arm : Nat) (call : Nat) (record : Ws2812Measurement) : Prop :=
  ∃ receive request data, s.arms[arm]? = some ⟨call, receive⟩ ∧ s.calls[call]? = some request ∧
    s.received receive = some data ∧
    ∀ armed, captureResult (request.store armed) data.symbols data.symbolCount = some record

/-- The request is the one of a call that was accepted. -/
def State.IsRequest (s : State) (call : Nat) (request : ArmRequest) : Prop :=
  s.calls[call]? = some request ∧ request.isAccepted = true

/-- A call that holds the lock has tagged its receive, and counts it once it is started. -/
structure State.Arming (s : State) (armer : Armer) : Prop where
  request : s.IsRequest armer.call armer.request
  armSeq : armer.armSeq = UInt32.ofNat (s.arms.length + 1)
  captureSeq : s.captureSeq = armer.armSeq
  started : ∀ receive, armer.phase = .started receive →
    receive = s.arms.length ∧ s.receives = s.arms.length + 1
  notStarted : (∀ receive, armer.phase ≠ .started receive) → s.receives = s.arms.length

structure State.Idle (s : State) : Prop where
  captureSeq : s.captureSeq = UInt32.ofNat s.arms.length
  receives : s.receives = s.arms.length

/-- What the numbers say. -/
structure Numbered (s : State) : Prop where
  armedSeq : s.armedSeq = UInt32.ofNat s.arms.length
  arming : ∀ armer, s.armer = some armer → s.Arming armer
  idle : s.armer = none → s.Idle
  receive : ∀ (arm : Nat) (entry : Arm), s.arms[arm]? = some entry → entry.receive = arm
  inFlight : ∀ receive, s.inFlight = some receive →
    receive + 1 = s.receives ∧ s.received receive = none
  notReceived : ∀ receive, s.receives ≤ receive → s.received receive = none
  armed : ∀ entry, s.arms.getLast? = some entry →
    ∃ request armed, s.IsRequest entry.call request ∧ s.armed = request.store armed

/-- What an event says. -/
structure EventPaired (s : State) (event : CaptureDoneEvent) : Prop where
  source : event.source < s.receives
  current : event.armSeq = UInt32.ofNat s.receives → event.source + 1 = s.receives
  data : event.source + 1 = s.receives → s.inFlight = none ∧
    s.received event.source = some ⟨s.symbolBuffer, event.symbolCount⟩

structure Paired (s : State) : Prop where
  numbered : Numbered s
  event : ∀ event, s.Pending event → EventPaired s event
  taken : ∀ capture, s.decoder = .taken capture → ∀ record,
    captureResult capture.snapshot capture.symbols capture.symbolCount = some record →
      ∃ call, s.PairedRecord capture.arm call record
  published : ∀ outcome ∈ s.published, outcome.record.state ≠ .timeout →
    outcome.record.state ≠ .notMeasured → ∃ arm, s.PairedRecord arm outcome.call outcome.record

theorem Initial.paired {s : State} (h : Initial s) : Paired s := by
  refine ⟨⟨?_, ?_, ?_, ?_, ?_, ?_, ?_⟩, ?_, ?_, ?_⟩
  · rw [h.armedSeq, h.arms]
    rfl
  · intro armer harmer
    rw [h.armer] at harmer
    cases harmer
  · intro _
    exact ⟨by rw [h.captureSeq, h.arms]; rfl, by rw [h.receives, h.arms]; rfl⟩
  · intro arm entry hentry
    rw [h.arms] at hentry
    cases hentry
  · intro receive hflight
    rw [h.inFlight] at hflight
    cases hflight
  · intro receive _
    rw [h.received]
  · intro entry hentry
    rw [h.arms] at hentry
    cases hentry
  · rintro event (hqueue | ⟨wait, hheld⟩)
    · rw [h.captureQueue] at hqueue
      cases hqueue
    · rw [h.decoder] at hheld
      cases hheld
  · intro capture htaken
    rw [h.decoder] at htaken
    cases htaken
  · intro outcome hmem
    rw [h.published] at hmem
    cases hmem

/-! ## What a step keeps -/

section Keeps

variable {s t : State}

/-- The history only grows, and a receive that ended keeps its data. -/
structure Grows (s t : State) : Prop where
  calls : ∃ calls, t.calls = s.calls ++ calls
  arms : ∃ arms, t.arms = s.arms ++ arms
  received : ∀ receive data, s.received receive = some data → t.received receive = some data

theorem Grows.isRequest (h : Grows s t) {call : Nat} {request : ArmRequest}
    (hr : s.IsRequest call request) : t.IsRequest call request := by
  obtain ⟨calls, hcalls⟩ := h.calls
  refine ⟨?_, hr.2⟩
  rw [hcalls, List.getElem?_append_left (List.getElem?_eq_some_iff.mp hr.1).1]
  exact hr.1

theorem Grows.pairedRecord (h : Grows s t) {arm call : Nat} {record : Ws2812Measurement}
    (hp : s.PairedRecord arm call record) : t.PairedRecord arm call record := by
  obtain ⟨receive, request, data, harm, hcall, hdata, hresult⟩ := hp
  obtain ⟨calls, hcalls⟩ := h.calls
  obtain ⟨arms, harms⟩ := h.arms
  refine ⟨receive, request, data, ?_, ?_, h.received _ _ hdata, hresult⟩
  · rw [harms, List.getElem?_append_left (List.getElem?_eq_some_iff.mp harm).1]
    exact harm
  · rw [hcalls, List.getElem?_append_left (List.getElem?_eq_some_iff.mp hcall).1]
    exact hcall

/-- Nothing of the pairing changes: the same history of receives and arms, no new event. -/
theorem Paired.grows (h : Paired s) (hgrows : Grows s t) (hnumbered : Numbered t)
    (hevent : ∀ event, t.Pending event → EventPaired t event)
    (htaken : ∀ capture, t.decoder = .taken capture → s.decoder = .taken capture)
    (hpublished : t.published = s.published) : Paired t := by
  refine ⟨hnumbered, hevent, ?_, ?_⟩
  · intro capture hcapture record hrecord
    obtain ⟨call, hp⟩ := h.taken capture (htaken capture hcapture) record hrecord
    exact ⟨call, hgrows.pairedRecord hp⟩
  · intro outcome hmem htimeout hnot
    rw [hpublished] at hmem
    obtain ⟨arm, hp⟩ := h.published outcome hmem htimeout hnot
    exact ⟨arm, hgrows.pairedRecord hp⟩

theorem Grows.of_eq (hcalls : t.calls = s.calls) (harms : t.arms = s.arms)
    (hreceived : t.received = s.received) : Grows s t :=
  ⟨⟨[], by rw [hcalls, List.append_nil]⟩, ⟨[], by rw [harms, List.append_nil]⟩,
    fun _ _ hdata => by rw [hreceived]; exact hdata⟩

theorem State.Arming.of_eq {armer : Armer} (h : s.Arming armer) (hgrows : Grows s t)
    (hseq : t.captureSeq = s.captureSeq) (harms : t.arms = s.arms)
    (hreceives : t.receives = s.receives) : t.Arming armer :=
  ⟨hgrows.isRequest h.request, by rw [harms]; exact h.armSeq, by rw [hseq]; exact h.captureSeq,
    by rw [harms, hreceives]; exact h.started, by rw [harms, hreceives]; exact h.notStarted⟩

theorem State.Idle.of_eq (h : s.Idle) (hseq : t.captureSeq = s.captureSeq)
    (harms : t.arms = s.arms) (hreceives : t.receives = s.receives) : t.Idle :=
  ⟨by rw [hseq, harms]; exact h.captureSeq, by rw [hreceives, harms]; exact h.receives⟩

theorem EventPaired.of_eq {event : CaptureDoneEvent} (h : EventPaired s event)
    (hreceives : t.receives = s.receives) (hflight : t.inFlight = s.inFlight)
    (hreceived : t.received = s.received) (hbuffer : t.symbolBuffer = s.symbolBuffer) :
    EventPaired t event :=
  ⟨by rw [hreceives]; exact h.source, by rw [hreceives]; exact h.current,
    by rw [hreceives, hflight, hreceived, hbuffer]; exact h.data⟩

/-- The decode task moves on, and whatever it now holds was pending. -/
theorem Paired.decode (h : Paired s) {decoder : Decoder} {queue : Option CaptureDoneEvent}
    {armedSem : Bool} {settled : List Nat}
    (hevent : ∀ event, (queue = some event ∨ ∃ wait, decoder = .holding wait event) →
      s.Pending event)
    (htaken : ∀ capture, decoder ≠ .taken capture) :
    Paired { s with
      decoder := decoder, captureQueue := queue, armedSem := armedSem, settled := settled } := by
  refine h.grows (.of_eq rfl rfl rfl) ⟨h.numbered.armedSeq, ?_, ?_, h.numbered.receive,
    h.numbered.inFlight, h.numbered.notReceived, h.numbered.armed⟩ ?_ ?_ rfl
  · intro armer harmer
    exact (h.numbered.arming armer harmer).of_eq (.of_eq rfl rfl rfl) rfl rfl rfl
  · intro hlock
    exact (h.numbered.idle hlock).of_eq rfl rfl rfl
  · intro event hpending
    exact (h.event event (hevent event hpending)).of_eq rfl rfl rfl rfl
  · intro capture hcapture
    exact absurd hcapture (htaken capture)

end Keeps

/-! ## Arming -/

section Arm

variable {s : State}

theorem Paired.rejectArm (h : Paired s) (request : ArmRequest) : Paired (s.rejectArm request) := by
  have hgrows : Grows s (s.rejectArm request) :=
    ⟨⟨[request], rfl⟩, ⟨[], (List.append_nil _).symm⟩, fun _ _ hdata => hdata⟩
  refine h.grows hgrows ⟨h.numbered.armedSeq, ?_, ?_, h.numbered.receive, h.numbered.inFlight,
    h.numbered.notReceived, ?_⟩ ?_ (fun _ hcapture => hcapture) rfl
  · intro armer harmer
    exact (h.numbered.arming armer harmer).of_eq hgrows rfl rfl rfl
  · intro hlock
    exact (h.numbered.idle hlock).of_eq rfl rfl rfl
  · intro entry hentry
    obtain ⟨request', armed, hr, harmed⟩ := h.numbered.armed entry hentry
    exact ⟨request', armed, hgrows.isRequest hr, harmed⟩
  · intro event hpending
    exact (h.event event hpending).of_eq rfl rfl rfl rfl

/-- The next number, as the code computes it. -/
theorem ofNat_succ (n : Nat) : UInt32.ofNat n + 1 = UInt32.ofNat (n + 1) := by
  rw [UInt32.ofNat_add]
  rfl

theorem Paired.beginArm (h : Paired s) (request : ArmRequest) : Paired (s.beginArm request) := by
  unfold State.beginArm
  split
  · exact h.rejectArm request
  rename_i hfree
  simp only [Bool.or_eq_true, Bool.not_eq_true', not_or, Bool.not_eq_false, Bool.not_eq_true,
    Option.isSome_eq_false_iff, Option.isNone_iff_eq_none] at hfree
  obtain ⟨⟨⟨-, haccepted⟩, hlock⟩, -⟩ := hfree
  have hidle := h.numbered.idle hlock
  have hseq : s.armedSeq + 1 = UInt32.ofNat (s.arms.length + 1) := by
    rw [h.numbered.armedSeq, ofNat_succ]
  have hcall : (s.calls ++ [request])[s.calls.length]? = some request := by simp
  have hgrows : Grows s
      { s with
        calls := s.calls ++ [request]
        captureSeq := s.armedSeq + 1
        armer := some ⟨s.calls.length, request, s.armedSeq + 1, .tagged⟩ } :=
    ⟨⟨[request], rfl⟩, ⟨[], (List.append_nil _).symm⟩, fun _ _ hdata => hdata⟩
  refine h.grows hgrows ⟨h.numbered.armedSeq, ?_, ?_, h.numbered.receive, h.numbered.inFlight,
    h.numbered.notReceived, ?_⟩ ?_ (fun _ hcapture => hcapture) rfl
  · intro armer harmer
    obtain rfl := Option.some.inj harmer
    refine ⟨⟨hcall, haccepted⟩, hseq, rfl, ?_, fun _ => hidle.receives⟩
    intro receive hphase
    cases hphase
  · intro hnone
    cases hnone
  · intro entry hentry
    obtain ⟨request', armed, hr, harmed⟩ := h.numbered.armed entry hentry
    exact ⟨request', armed, hgrows.isRequest hr, harmed⟩
  · intro event hpending
    exact (h.event event hpending).of_eq rfl rfl rfl rfl

variable {armer : Armer}

/-- Before a receive is started, the call only moves on. -/
theorem Paired.movePhase (h : Paired s) (harmer : s.armer = some armer)
    (hphase : ∀ receive, armer.phase ≠ .started receive) {phase : ArmPhase}
    (hphase' : ∀ receive, phase ≠ .started receive) (pending : Bool) :
    Paired { s with isReceivePending := pending, armer := some { armer with phase := phase } } := by
  obtain ⟨hr, hseq, htag, -, hnot⟩ := h.numbered.arming armer harmer
  refine h.grows (.of_eq rfl rfl rfl) ⟨h.numbered.armedSeq, ?_, ?_, h.numbered.receive,
    h.numbered.inFlight, h.numbered.notReceived, h.numbered.armed⟩ ?_ (fun _ hcapture => hcapture)
    rfl
  · intro armer' harmer'
    obtain rfl := Option.some.inj harmer'
    exact ⟨hr, hseq, htag, fun receive heq => absurd heq (hphase' receive), fun _ => hnot hphase⟩
  · intro hnone
    cases hnone
  · intro event hpending
    exact (h.event event hpending).of_eq rfl rfl rfl rfl

/-- No waiting event carries the number of the receive that is about to start. -/
def State.TagFresh (s : State) : Prop := ∀ event, s.Pending event → event.armSeq ≠ s.captureSeq

theorem Paired.startReceive (h : Paired s) (harmer : s.armer = some armer)
    (hphase : ∀ receive, armer.phase ≠ .started receive) (hfresh : s.TagFresh) :
    Paired (s.startReceive armer) := by
  obtain ⟨hr, hseq, htag, -, hnot⟩ := h.numbered.arming armer harmer
  have hreceives := hnot hphase
  refine h.grows (.of_eq rfl rfl rfl) ⟨h.numbered.armedSeq, ?_, ?_, h.numbered.receive, ?_, ?_,
    h.numbered.armed⟩ ?_ (fun _ hcapture => hcapture) rfl
  · intro armer' harmer'
    obtain rfl := Option.some.inj harmer'
    refine ⟨hr, hseq, htag, ?_, fun hne => absurd rfl (hne s.receives)⟩
    rintro receive ⟨⟩
    exact ⟨hreceives, congrArg (· + 1) hreceives⟩
  · intro hnone
    cases hnone
  · rintro receive ⟨⟩
    exact ⟨rfl, h.numbered.notReceived _ (Nat.le_refl _)⟩
  · intro receive hle
    exact h.numbered.notReceived receive (Nat.le_of_succ_le hle)
  · intro event hpending
    have he := h.event event hpending
    refine ⟨Nat.lt_succ_of_lt he.source, ?_, ?_⟩
    · intro htag'
      refine absurd ?_ (hfresh event hpending)
      rw [htag, hseq, ← hreceives]
      exact htag'
    · intro hlast
      have hlt := he.source
      exact absurd (Nat.succ.inj hlast) (Nat.ne_of_lt hlt)

theorem Paired.failArm (h : Paired s) (harmer : s.armer = some armer)
    (hphase : armer.phase = .failed) : Paired (s.failArm armer) := by
  obtain ⟨-, -, -, -, hnot⟩ := h.numbered.arming armer harmer
  refine h.grows (.of_eq rfl rfl rfl) ⟨h.numbered.armedSeq, ?_, ?_, h.numbered.receive,
    h.numbered.inFlight, h.numbered.notReceived, h.numbered.armed⟩ ?_ (fun _ hcapture => hcapture)
    rfl
  · intro armer' harmer'
    cases harmer'
  · intro _
    refine ⟨h.numbered.armedSeq, hnot ?_⟩
    intro receive heq
    rw [hphase] at heq
    cases heq
  · intro event hpending
    exact (h.event event hpending).of_eq rfl rfl rfl rfl

theorem Paired.commitArm (h : Paired s) (harmer : s.armer = some armer) {receive : Nat}
    (hphase : armer.phase = .started receive) : Paired (s.commitArm armer receive) := by
  obtain ⟨hr, hseq, htag, hstarted, -⟩ := h.numbered.arming armer harmer
  obtain ⟨hreceive, hreceives⟩ := hstarted receive hphase
  have hlength : (s.arms ++ [(⟨armer.call, receive⟩ : Arm)]).length = s.arms.length + 1 := by
    simp
  have hgrows : Grows s (s.commitArm armer receive) :=
    ⟨⟨[], (List.append_nil _).symm⟩, ⟨[⟨armer.call, receive⟩], rfl⟩, fun _ _ hdata => hdata⟩
  refine h.grows hgrows ⟨?_, ?_, ?_, ?_, h.numbered.inFlight, h.numbered.notReceived, ?_⟩ ?_
    (fun _ hcapture => hcapture) rfl
  · exact hseq.trans (by rw [← hlength]; rfl)
  · intro armer' harmer'
    cases harmer'
  · intro _
    exact ⟨htag.trans (hseq.trans (by rw [← hlength]; rfl)), hreceives.trans hlength.symm⟩
  · intro arm entry hentry
    by_cases hold : arm < s.arms.length
    · exact h.numbered.receive arm entry
        ((List.getElem?_append_left hold).symm.trans hentry)
    · have hentry' : (s.arms ++ [(⟨armer.call, receive⟩ : Arm)])[arm]? = some entry := hentry
      rw [List.getElem?_append_right (by omega), List.getElem?_singleton] at hentry'
      split at hentry'
      · obtain rfl := Option.some.inj hentry'
        show receive = arm
        omega
      · cases hentry'
  · intro entry hentry
    have hentry' : (s.arms ++ [(⟨armer.call, receive⟩ : Arm)]).getLast? = some entry := hentry
    rw [List.getLast?_concat] at hentry'
    obtain rfl := Option.some.inj hentry'
    exact ⟨armer.request, s.armed, hr, rfl⟩
  · intro event hpending
    exact (h.event event hpending).of_eq rfl rfl rfl rfl

end Arm

/-! ## The hardware and the interrupt -/

section Hardware

variable {s : State} {source : Nat}

/-- The buffer is only written while no event of the latest receive can be waiting. -/
theorem Paired.hardwareWrite (h : Paired s) (hflight : s.inFlight = some source)
    (symbols : SymbolBuffer) : Paired { s with symbolBuffer := symbols } := by
  refine h.grows (.of_eq rfl rfl rfl) ⟨h.numbered.armedSeq, ?_, ?_, h.numbered.receive,
    h.numbered.inFlight, h.numbered.notReceived, h.numbered.armed⟩ ?_ (fun _ hcapture => hcapture)
    rfl
  · intro armer harmer
    exact (h.numbered.arming armer harmer).of_eq (.of_eq rfl rfl rfl) rfl rfl rfl
  · intro hlock
    exact (h.numbered.idle hlock).of_eq rfl rfl rfl
  · intro event hpending
    have he := h.event event hpending
    refine ⟨he.source, he.current, fun hlast => ?_⟩
    have hnone := (he.data hlast).1
    rw [hflight] at hnone
    cases hnone

theorem Paired.handleRxDone (h : Paired s) (hflight : s.inFlight = some source)
    (symbolCount : Nat) : Paired (s.handleRxDone source symbolCount) := by
  obtain ⟨hlast, hnone⟩ := h.numbered.inFlight source hflight
  have hgrows : Grows s (s.handleRxDone source symbolCount) := by
    refine ⟨⟨[], (List.append_nil _).symm⟩, ⟨[], (List.append_nil _).symm⟩, ?_⟩
    intro receive data hdata
    have hne : receive ≠ source := by
      rintro rfl
      rw [hnone] at hdata
      cases hdata
    exact (Function.update_of_ne hne _ _).trans hdata
  refine h.grows hgrows ⟨h.numbered.armedSeq, ?_, ?_, h.numbered.receive, ?_, ?_, h.numbered.armed⟩
    ?_ (fun _ hcapture => hcapture) rfl
  · intro armer harmer
    exact (h.numbered.arming armer harmer).of_eq hgrows rfl rfl rfl
  · intro hlock
    exact (h.numbered.idle hlock).of_eq rfl rfl rfl
  · intro receive hflight'
    cases hflight'
  · intro receive hle
    have hle' : s.receives ≤ receive := hle
    exact (Function.update_of_ne (by omega) _ _).trans (h.numbered.notReceived receive hle')
  · rintro event (hqueue | hheld)
    · obtain rfl := Option.some.inj hqueue
      exact ⟨by show source < s.receives; omega, fun _ => hlast,
        fun _ => ⟨rfl, Function.update_self ..⟩⟩
    · have he := h.event event (.inr hheld)
      refine ⟨he.source, he.current, fun hsource => ?_⟩
      have hbusy := (he.data hsource).1
      rw [hflight] at hbusy
      cases hbusy

end Hardware

/-! ## The decode task -/

section Decode

variable {s : State}

/-- A capture is only taken for the latest arm, and then it is the one of its receive. -/
theorem Paired.takeCurrentCapture (h : Paired s) (hlock : s.armer = none)
    {event : CaptureDoneEvent} (hpending : s.Pending event) :
    Paired (s.takeCurrentCapture event) := by
  unfold State.takeCurrentCapture
  split
  swap
  · refine h.decode ?_ (fun _ hcapture => by cases hcapture)
    rintro event' (hqueue | ⟨wait, hheld⟩)
    · exact .inl hqueue
    · cases hheld
  rename_i hmatch
  have hidle := h.numbered.idle hlock
  have he := h.event event hpending
  have hlast : event.source + 1 = s.receives := by
    apply he.current
    rw [hmatch, h.numbered.armedSeq, hidle.receives]
  obtain ⟨hnone, hdata⟩ := he.data hlast
  refine ⟨⟨h.numbered.armedSeq, ?_, ?_, h.numbered.receive, h.numbered.inFlight,
    h.numbered.notReceived, h.numbered.armed⟩, ?_, ?_, h.published⟩
  · intro armer harmer
    have harmer' : s.armer = some armer := harmer
    rw [hlock] at harmer'
    cases harmer'
  · intro _
    exact ⟨hidle.1, hidle.2⟩
  · rintro event' (hqueue | ⟨wait, hheld⟩)
    · exact (h.event event' (.inl hqueue)).of_eq rfl rfl rfl rfl
    · cases hheld
  · rintro capture ⟨⟩ record hrecord
    have hpos : 0 < s.arms.length := by
      rw [← hidle.receives]
      omega
    have hentry : s.arms[s.arms.length - 1]? = some s.arms[s.arms.length - 1] :=
      List.getElem?_eq_getElem (by omega)
    have hgetLast : s.arms.getLast? = some s.arms[s.arms.length - 1] := by
      rw [List.getLast?_eq_getElem?, hentry]
    obtain ⟨request, armed, hr, harmed⟩ := h.numbered.armed _ hgetLast
    have hreceive := h.numbered.receive _ _ hentry
    have hsource : event.source = s.arms.length - 1 := by
      have hreceives := hidle.receives
      omega
    refine ⟨s.arms[s.arms.length - 1].call, s.arms[s.arms.length - 1].receive, request,
      ⟨s.symbolBuffer, event.symbolCount⟩, hentry, hr.1, ?_, ?_⟩
    · show s.received _ = _
      rw [hreceive, ← hsource]
      exact hdata
    · intro armed'
      rw [captureResult_store request hr.2 armed' armed, ← harmed]
      exact hrecord

theorem Paired.restartRxChannel (h : Paired s) (wait : Wait) (disabled : EspErr) :
    Paired (s.restartRxChannel wait disabled) := by
  have hpend : ∀ event, (s.captureQueue = some event ∨
      ∃ wait', Decoder.restarted wait = .holding wait' event) → s.Pending event := by
    rintro event (hqueue | ⟨wait', hheld⟩)
    · exact .inl hqueue
    · cases hheld
  unfold State.restartRxChannel
  split
  · exact h.decode hpend (fun _ hcapture => by cases hcapture)
  refine h.grows (.of_eq rfl rfl rfl) ⟨h.numbered.armedSeq, ?_, ?_, h.numbered.receive, ?_,
    h.numbered.notReceived, h.numbered.armed⟩ ?_ (fun _ hcapture => by cases hcapture) rfl
  · intro armer harmer
    exact (h.numbered.arming armer harmer).of_eq (.of_eq rfl rfl rfl) rfl rfl rfl
  · intro hlock
    exact (h.numbered.idle hlock).of_eq rfl rfl rfl
  · intro receive hflight
    have hflight' : (if disabled = .ok then none else s.inFlight) = some receive := hflight
    split at hflight'
    · cases hflight'
    · exact h.numbered.inFlight receive hflight'
  · intro event hpending
    have he := h.event event (hpend event hpending)
    refine ⟨he.source, he.current, fun hlast => ⟨?_, (he.data hlast).2⟩⟩
    show (if disabled = .ok then none else s.inFlight) = none
    rw [(he.data hlast).1]
    split <;> rfl

/-- A published record is paired if it is a capture's. -/
theorem Paired.publishFor (h : Paired s) {arm : Nat} {record : Option Ws2812Measurement}
    (hrecord : ∀ r, record = some r → r.state ≠ .timeout → r.state ≠ .notMeasured →
      ∃ call, s.PairedRecord arm call r) : Paired (s.publishFor arm record) := by
  have hgrows : Grows s (s.publishFor arm record) := .of_eq rfl rfl rfl
  refine ⟨⟨h.numbered.armedSeq, ?_, ?_, h.numbered.receive, h.numbered.inFlight,
    h.numbered.notReceived, h.numbered.armed⟩, ?_, ?_, ?_⟩
  · intro armer harmer
    exact (h.numbered.arming armer harmer).of_eq (.of_eq rfl rfl rfl) rfl rfl rfl
  · intro hlock
    exact (h.numbered.idle hlock).of_eq rfl rfl rfl
  · rintro event (hqueue | ⟨wait, hheld⟩)
    · exact (h.event event (.inl hqueue)).of_eq rfl rfl rfl rfl
    · cases hheld
  · intro capture hcapture
    cases hcapture
  · intro outcome hmem htimeout hnot
    rcases List.mem_append.mp hmem with hold | hnew
    · obtain ⟨arm', hp⟩ := h.published outcome hold htimeout hnot
      exact ⟨arm', hgrows.pairedRecord hp⟩
    · rw [Option.mem_toList, Option.map_eq_some_iff] at hnew
      obtain ⟨r, hr, rfl⟩ := hnew
      obtain ⟨call, hp⟩ := hrecord r hr htimeout hnot
      have hcall : (s.arms[arm]?.map Arm.call).getD 0 = call := by
        obtain ⟨receive, -, -, harm, -⟩ := hp
        rw [harm]
        rfl
      refine ⟨arm, ?_⟩
      rw [hcall]
      exact hgrows.pairedRecord hp

end Decode

/-! ## Runs -/

/-- A receive is only started when its number is fresh. -/
def FreshStart (s : State) : Action → Prop
  | .receive .ok | .receiveAgain .ok => s.TagFresh
  | _ => True

theorem Paired.step {s t : State} {action : Action} (h : Paired s) (hok : FreshStart s action)
    (hstep : Step s action t) : Paired t := by
  cases hstep with
  | arm request => exact h.beginArm request
  | armBusy request => exact h.rejectArm request
  | setPending harmer hphase =>
      exact h.movePhase harmer (fun _ heq => by rw [hphase] at heq; cases heq)
        (fun _ heq => by cases heq) true
  | receive harmer hphase hfree =>
      exact h.startReceive harmer (fun _ heq => by rw [hphase] at heq; cases heq) hok
  | @receiveError armer err harmer hphase herr =>
      refine h.movePhase harmer (fun _ heq => by rw [hphase] at heq; cases heq) ?_
        s.isReceivePending
      intro receive
      unfold phaseAfterError
      split <;> exact fun heq => by cases heq
  | enable harmer hphase err =>
      refine h.movePhase harmer (fun _ heq => by rw [hphase] at heq; cases heq) ?_
        s.isReceivePending
      intro receive
      split <;> exact fun heq => by cases heq
  | receiveAgain harmer hphase hfree =>
      exact h.startReceive harmer (fun _ heq => by rw [hphase] at heq; cases heq) hok
  | @receiveAgainError armer err harmer hphase herr =>
      refine h.movePhase harmer (fun _ heq => by rw [hphase] at heq; cases heq) ?_
        s.isReceivePending
      intro receive
      unfold phaseAfterError
      split <;> exact fun heq => by cases heq
  | failArm harmer hphase => exact h.failArm harmer hphase
  | commitArm harmer hphase => exact h.commitArm harmer hphase
  | @publishNotMeasured call request hcall hrequest =>
      refine ⟨⟨h.numbered.armedSeq, ?_, ?_, h.numbered.receive, h.numbered.inFlight,
        h.numbered.notReceived, h.numbered.armed⟩, ?_, h.taken, ?_⟩
      · intro armer harmer
        exact (h.numbered.arming armer harmer).of_eq (.of_eq rfl rfl rfl) rfl rfl rfl
      · intro hlock
        exact (h.numbered.idle hlock).of_eq rfl rfl rfl
      · intro event hpending
        exact (h.event event hpending).of_eq rfl rfl rfl rfl
      · intro outcome hmem htimeout hnot
        rcases List.mem_append.mp hmem with hold | hnew
        · exact h.published outcome hold htimeout hnot
        · obtain rfl := List.mem_singleton.mp hnew
          exact absurd rfl hnot
  | hardwareWrite hflight symbols => exact h.hardwareWrite hflight symbols
  | receiveDone hflight symbolCount => exact h.handleRxDone hflight symbolCount
  | takeSem hstarted hdecoder hsem =>
      refine h.decode ?_ (fun _ hcapture => by cases hcapture)
      rintro event (hqueue | ⟨wait, hheld⟩)
      · exact .inl hqueue
      · cases hheld
  | getArmedSeq hdecoder hlock =>
      refine h.decode ?_ (fun _ hcapture => by cases hcapture)
      rintro event (hqueue | ⟨wait, hheld⟩)
      · exact .inl hqueue
      · cases hheld
  | queueReceive hdecoder hqueue =>
      refine h.decode ?_ (fun _ hcapture => by cases hcapture)
      rintro event (hempty | ⟨wait, hheld⟩)
      · cases hempty
      · cases hheld
        exact .inl hqueue
  | queueTimeout hdecoder hqueue =>
      refine h.decode ?_ (fun _ hcapture => by cases hcapture)
      rintro event (hqueue' | ⟨wait, hheld⟩)
      · exact .inl hqueue'
      · cases hheld
  | @takeCapture wait event hdecoder hlock =>
      exact h.takeCurrentCapture hlock (.inr ⟨wait, hdecoder⟩)
  | restart hdecoder hlock disabled => exact h.restartRxChannel _ disabled
  | publishTimeout hdecoder =>
      refine h.publishFor ?_
      rintro r ⟨⟩ htimeout
      exact absurd rfl htimeout
  | publishCapture hdecoder =>
      refine h.publishFor ?_
      intro r hr _ _
      exact h.taken _ hdecoder r hr

/-- In every run in which each receive is started with a fresh number, every `done`, `read_done` and
`count_error` record is the result of the symbols and the count of the receive that its own arm
started, with that arm's own request. -/
theorem published_capture_paired {s₀ s : State} (hinit : Initial s₀)
    (hrun : ReflTransGen (fun s t => ∃ action, FreshStart s action ∧ Step s action t) s₀ s) :
    ∀ outcome ∈ s.published, outcome.record.state ≠ .timeout →
      outcome.record.state ≠ .notMeasured →
      ∃ arm, s.PairedRecord arm outcome.call outcome.record := by
  have hpaired : Paired s := by
    induction hrun with
    | refl => exact hinit.paired
    | tail _ hstep ih =>
        obtain ⟨action, hok, hstep⟩ := hstep
        exact ih.step hok hstep
  exact hpaired.published

/-- The first arm's event is in the hand of the decode task. -/
def heldState : State :=
  { startState.afterRound (sendRequest 1) rmtPulseMonitorDataSymbols with
    armedSem := false
    captureQueue := none
    decoder := .holding ⟨1, 1, 0⟩ ⟨rmtPulseMonitorDataSymbols, 1, 0⟩ }

/-- A second arm has superseded the first one, and the decode task has dropped the event. -/
def supersededState : State :=
  { heldState.afterArm (sendRequest 2) with decoder := .waiting ⟨2, 2, 1⟩ }

/-- The decode task has taken the capture of the second arm. -/
def secondState (buffer : SymbolBuffer) : State :=
  { { supersededState with symbolBuffer := buffer }.handleRxDone 1 rmtPulseMonitorDataSymbols with
    armedSem := false
    captureQueue := none
    settled := [1]
    decoder := .taken ⟨supersededState.armed, buffer, rmtPulseMonitorDataSymbols, 1⟩ }

/-- The run of the monitor in which each receive is started with a fresh number. -/
abbrev FreshRun (s t : State) : Prop :=
  ReflTransGen (fun s t => ∃ action, FreshStart s action ∧ Step s action t) s t

/-- A call arms, with a number that no waiting event carries. -/
theorem Quiet.freshArm {s : State} {request : ArmRequest} (h : Quiet s) (hrequest : request.isAccepted = true)
    (hfresh : ∀ event, s.Pending event → event.armSeq ≠ s.armedSeq + 1) :
    FreshRun s (s.afterArm request) := by
  obtain ⟨u, v, w, hbegin, hset, ⟨hseq, hqueue, hdecoder⟩, hreceive, hcommit⟩ :=
    h.arm_steps hrequest
  have htag : v.TagFresh := by
    intro event hpending
    rw [State.Pending, hqueue, hdecoder] at hpending
    rw [hseq]
    exact hfresh event hpending
  refine .head ⟨.arm request, trivial, hbegin⟩ ?_
  refine .head ⟨.setPending, trivial, hset⟩ ?_
  refine .head ⟨.receive .ok, htag, hreceive⟩ ?_
  exact .single ⟨.commitArm, trivial, hcommit⟩

theorem startState_freshArm {request : ArmRequest} (hrequest : request.isAccepted = true) :
    FreshRun startState (startState.afterArm request) :=
  startState_quiet.freshArm hrequest fun event hpending => by
    obtain h | ⟨wait, h⟩ := hpending <;> cases h

/-- The event of an older arm is dropped. -/
theorem takeCapture_stale {s : State} {wait : Wait} {event : CaptureDoneEvent}
    (hdecoder : s.decoder = .holding wait event) (hlock : s.armer = none)
    (hseq : event.armSeq ≠ s.armedSeq) :
    Step s .takeCapture { s with decoder := .waiting s.latestWait } := by
  have hstep := Step.takeCapture hdecoder hlock
  rwa [State.takeCurrentCapture, if_neg hseq] at hstep

/-- The event of the latest one is taken. -/
theorem takeCapture_current {s : State} {wait : Wait} {event : CaptureDoneEvent}
    (hdecoder : s.decoder = .holding wait event) (hlock : s.armer = none)
    (hseq : event.armSeq = s.armedSeq) :
    Step s .takeCapture
      { s with
        armedSem := false
        settled := s.settled ++ [s.arms.length - 1]
        decoder := .taken ⟨s.armed, s.symbolBuffer, event.symbolCount, s.arms.length - 1⟩ } := by
  have hstep := Step.takeCapture hdecoder hlock
  rwa [State.takeCurrentCapture, if_pos hseq] at hstep

/-- The first call of a run, with what its receive brings. -/
theorem exists_freshRun {request : ArmRequest} (hrequest : request.isAccepted = true) (buffer : SymbolBuffer)
    (symbolCount : Nat) :
    ∃ s, FreshRun startState s ∧ s.calls = [request] ∧ s.arms = [⟨0, 0⟩] ∧
      s.received 0 = some ⟨buffer, symbolCount⟩ ∧
      s.published = ((captureResult (request.store startState.armed) buffer symbolCount).map
        (Outcome.mk 0)).toList := by
  refine ⟨_, (startState_freshArm hrequest).trans <|
    .head ⟨.hardwareWrite buffer, trivial, .hardwareWrite rfl buffer⟩ <|
    .head ⟨.receiveDone symbolCount, trivial, .receiveDone rfl symbolCount⟩ <|
    .head ⟨.takeSem, trivial, .takeSem rfl rfl rfl⟩ <|
    .head ⟨.getArmedSeq, trivial, .getArmedSeq rfl rfl⟩ <|
    .head ⟨.queueReceive, trivial, .queueReceive rfl rfl⟩ <|
    .head ⟨.takeCapture, trivial, takeCapture_current rfl rfl rfl⟩ <|
    .single ⟨.publish, trivial, .publishCapture rfl⟩, rfl, rfl, rfl, rfl⟩

theorem heldState_freshRun : FreshRun startState heldState := by
  refine (startState_freshArm (sendRequest_isAccepted 1)).trans ?_
  refine .head ⟨.receiveDone rmtPulseMonitorDataSymbols, trivial, .receiveDone rfl _⟩ ?_
  refine .head ⟨.takeSem, trivial, .takeSem rfl rfl rfl⟩ ?_
  refine .head ⟨.getArmedSeq, trivial, .getArmedSeq rfl rfl⟩ ?_
  exact .single ⟨.queueReceive, trivial, .queueReceive rfl rfl⟩

theorem supersededState_freshRun : FreshRun heldState supersededState := by
  have hquiet : Quiet heldState := ⟨rfl, rfl, rfl, rfl⟩
  refine (hquiet.freshArm (sendRequest_isAccepted 2) ?_).trans ?_
  · rintro event (h | ⟨wait, h⟩)
    · cases h
    · cases h
      decide
  exact .single ⟨.takeCapture, trivial, takeCapture_stale rfl rfl (by decide)⟩

theorem secondState_freshRun (buffer : SymbolBuffer) :
    FreshRun supersededState (secondState buffer) := by
  refine .head ⟨.hardwareWrite buffer, trivial, .hardwareWrite rfl buffer⟩ ?_
  refine .head ⟨.receiveDone rmtPulseMonitorDataSymbols, trivial, .receiveDone rfl _⟩ ?_
  refine .head ⟨.queueReceive, trivial, .queueReceive rfl rfl⟩ ?_
  exact .single ⟨.takeCapture, trivial,
    @takeCapture_current _ ⟨2, 2, 1⟩ ⟨rmtPulseMonitorDataSymbols, 2, 1⟩ rfl rfl rfl⟩

/-- The event of the first arm is dropped, and what the second arm's receive brings is published. -/
theorem published_capture_paired_superseded :
    ∃ (s : State) (record : Ws2812Measurement), s.arms = [⟨0, 0⟩, ⟨1, 1⟩] ∧
      s.published = [⟨1, record⟩] ∧ record.state = .done ∧ ∃ arm, s.PairedRecord arm 1 record := by
  let buffer := startState.symbolBuffer
  obtain ⟨record, hrecord, hdone⟩ :=
    exists_captureResult_done (rfl : supersededState.armed.mode = .send) buffer
  let s := (secondState buffer).publishFor 1
    (captureResult supersededState.armed buffer rmtPulseMonitorDataSymbols)
  have hrun : FreshRun startState s :=
    ((heldState_freshRun.trans supersededState_freshRun).trans (secondState_freshRun buffer)).tail
      ⟨.publish, trivial, @Step.publishCapture (secondState buffer)
        ⟨supersededState.armed, buffer, rmtPulseMonitorDataSymbols, 1⟩ rfl⟩
  have hpublished : s.published = [⟨1, record⟩] := by
    show [] ++ ((captureResult supersededState.armed buffer rmtPulseMonitorDataSymbols).map
      (Outcome.mk 1)).toList = _
    rw [hrecord]
    rfl
  have hmem : (⟨1, record⟩ : Outcome) ∈ s.published := by
    rw [hpublished]
    exact List.mem_singleton_self _
  have hpaired := published_capture_paired startState_initial hrun _ hmem (by rw [hdone]; decide)
    (by rw [hdone]; decide)
  exact ⟨s, record, rfl, hpublished, hdone, hpaired⟩

/-- A `done` record that is not the result of the receive of its own arm. -/
def State.Mispaired (s : State) : Prop :=
  ∃ outcome ∈ s.published, outcome.record.state = .done ∧
    ¬ ∃ arm, s.PairedRecord arm outcome.call outcome.record

/-- Only receive 0 has brought a whole frame, and only call 0 has started it. -/
structure OneFrame (s : State) : Prop where
  counts : ∀ receive data, s.received receive = some data → receive ≠ 0 →
    data.symbolCount ≠ rmtPulseMonitorDataSymbols
  arms : ∀ (arm : Nat) (entry : Arm), s.arms[arm]? = some entry → entry.receive = 0 →
    entry.call = 0
  receives : 0 < s.receives

theorem OneFrame.afterRound {s : State} (h : OneFrame s) (request : ArmRequest) :
    OneFrame (s.afterRound request 0) := by
  refine ⟨?_, ?_, Nat.succ_pos _⟩
  · intro receive data hdata hne
    have hdata' : Function.update s.received s.receives (some ⟨s.symbolBuffer, 0⟩) receive =
      some data := hdata
    by_cases hlast : receive = s.receives
    · rw [hlast, Function.update_self] at hdata'
      obtain rfl := Option.some.inj hdata'
      exact Nat.zero_ne_add_one 143
    · rw [Function.update_of_ne hlast] at hdata'
      exact h.counts receive data hdata' hne
  · intro arm entry hentry hzero
    have hentry' : (s.arms ++ [(⟨s.calls.length, s.receives⟩ : Arm)])[arm]? = some entry := hentry
    rcases List.mem_append.mp (List.mem_of_getElem? hentry') with hold | hnew
    · obtain ⟨arm', harm'⟩ := List.mem_iff_getElem?.mp hold
      exact h.arms arm' entry harm' hzero
    · obtain rfl := List.mem_singleton.mp hnew
      exact absurd hzero (Nat.pos_iff_ne_zero.mp h.receives)

/-- No other arm can have a `done` record of its own. -/
theorem OneFrame.not_pairedRecord {s : State} (h : OneFrame s) {arm call : Nat}
    {record : Ws2812Measurement} (hcall : call ≠ 0) (hdone : record.state = .done) :
    ¬ s.PairedRecord arm call record := by
  rintro ⟨receive, request, data, harm, -, hdata, hresult⟩
  have hcount := symbolCount_of_done (hresult s.armed) hdone
  by_cases hzero : receive = 0
  · exact hcall (h.arms arm _ harm hzero)
  · exact h.counts receive data hdata hzero hcount

theorem heldState_quiet : Quiet heldState := ⟨rfl, rfl, rfl, rfl⟩

theorem heldState_run : ReflTransGen AtomicStep startState heldState := by
  refine (startState_quiet.round (sendRequest_isAccepted 1) rmtPulseMonitorDataSymbols).trans ?_
  refine .head (.single (.takeSem rfl rfl rfl) rfl rfl) ?_
  refine .head (.single (.getArmedSeq rfl rfl) rfl rfl) ?_
  exact .single (.single (.queueReceive rfl rfl) rfl rfl)

theorem heldState_oneFrame : OneFrame heldState := by
  refine ⟨?_, ?_, by decide⟩
  · intro receive data hdata hne
    have hdata' : Function.update (fun _ => none) 0
      (some ⟨startState.symbolBuffer, rmtPulseMonitorDataSymbols⟩) receive = some data := hdata
    rw [Function.update_of_ne hne] at hdata'
    cases hdata'
  · intro arm entry hentry _
    have hentry' : [(⟨0, 0⟩ : Arm)][arm]? = some entry := hentry
    obtain rfl := List.mem_singleton.mp (List.mem_of_getElem? hentry')
    rfl

/-- A held event of a whole frame that matches the number of a later arm. -/
theorem mispaired_of_match {t : State} {wait : Wait} {event : CaptureDoneEvent} {entry : Arm}
    (hquiet : Quiet t) (hframe : OneFrame t) (hdecoder : t.decoder = .holding wait event)
    (hseq : event.armSeq = t.armedSeq) (hcount : event.symbolCount = rmtPulseMonitorDataSymbols)
    (hmode : t.armed.mode = .send) (hlast : t.arms[t.arms.length - 1]? = some entry)
    (hcall : entry.call ≠ 0) : ∃ s, ReflTransGen AtomicStep t s ∧ s.Mispaired := by
  obtain ⟨record, hrecord, hdone⟩ := exists_captureResult_done hmode t.symbolBuffer
  rw [← hcount] at hrecord
  have hstep := takeCapture_current hdecoder hquiet.armer hseq
  refine ⟨_, .head (.single hstep hquiet.armer hquiet.armer)
    (.single (.single (.publishCapture rfl) hquiet.armer hquiet.armer)),
    ⟨entry.call, record⟩, ?_, hdone, ?_⟩
  · refine List.mem_append_right _ (Option.mem_toList.mpr ?_)
    refine (congrArg (Option.map _) hrecord).trans ?_
    show some (⟨(t.arms[t.arms.length - 1]?.map Arm.call).getD 0, record⟩ : Outcome) = _
    rw [hlast]
    rfl
  · rintro ⟨arm, hpaired⟩
    exact OneFrame.not_pairedRecord ⟨hframe.counts, hframe.arms, hframe.receives⟩ hcall hdone hpaired

/-- The first arm has timed out, and its receive has survived a failed `rmt_disable()`. -/
def survivingState : State :=
  { startState.afterArm (sendRequest 1) with
    isReceivePending := false
    armedSem := false
    settled := [0]
    published := [⟨0, plainResult 1 .timeout⟩] }

/-- It has ended while a second call, which failed, had tagged the number 2. -/
def taggedState : State :=
  { survivingState with
    calls := [sendRequest 1, sendRequest 2]
    unpublished := [1]
    captureQueue := some ⟨rmtPulseMonitorDataSymbols, 2, 0⟩
    inFlight := none
    received := Function.update (fun _ => none) 0
      (some ⟨startState.symbolBuffer, rmtPulseMonitorDataSymbols⟩) }

/-- A third call has armed with the number 2, and the decode task holds the event. -/
def retaggedState : State :=
  { taggedState.afterRound (sendRequest 3) 0 with
    armedSem := false
    decoder := .holding ⟨2, 3, 1⟩ ⟨rmtPulseMonitorDataSymbols, 2, 0⟩ }

theorem survivingState_run :
    ReflTransGen (fun s t => ∃ action, Step s action t) startState survivingState := by
  refine (startState_quiet.arm (sendRequest_isAccepted 1)).run.trans ?_
  refine .head ⟨.takeSem, .takeSem rfl rfl rfl⟩ ?_
  refine .head ⟨.getArmedSeq, .getArmedSeq rfl rfl⟩ ?_
  refine .head ⟨.queueTimeout, .queueTimeout rfl rfl⟩ ?_
  refine .head ⟨.restart .fail, .restart rfl rfl .fail⟩ ?_
  have hpublish : ∀ u : State, u.decoder = .restarted ⟨1, 1, 0⟩ →
      Step u .publish (u.publishFor 0 (some (plainResult 1 .timeout))) := fun u hu =>
    .publishTimeout hu
  exact .single ⟨.publish, hpublish _ rfl⟩

theorem taggedState_run :
    ReflTransGen (fun s t => ∃ action, Step s action t) survivingState taggedState := by
  refine .head ⟨.arm (sendRequest 2), .arm _ _⟩ ?_
  refine .head ⟨.setPending, .setPending rfl rfl⟩ ?_
  refine .head ⟨.receive .invalidState, .receiveError rfl rfl (by decide)⟩ ?_
  refine .head ⟨.enable .fail, .enable rfl rfl .fail⟩ ?_
  refine .head ⟨.receiveDone rmtPulseMonitorDataSymbols, .receiveDone rfl _⟩ ?_
  have hfail : ∀ u : State, u.armer = some ⟨1, sendRequest 2, 2, .failed⟩ →
      Step u .failArm (u.failArm ⟨1, sendRequest 2, 2, .failed⟩) := fun u hu => .failArm hu rfl
  exact .single ⟨.failArm, hfail _ rfl⟩

theorem retaggedState_run :
    ReflTransGen (fun s t => ∃ action, Step s action t) startState retaggedState := by
  have hquiet : Quiet taggedState := ⟨rfl, rfl, rfl, rfl⟩
  refine (survivingState_run.trans taggedState_run).trans ?_
  refine (hquiet.arm (sendRequest_isAccepted 3)).run.trans ?_
  refine .head ⟨.takeSem, .takeSem rfl rfl rfl⟩ ?_
  refine .head ⟨.getArmedSeq, .getArmedSeq rfl rfl⟩ ?_
  refine .head ⟨.queueReceive, .queueReceive rfl rfl⟩ ?_
  have hdone : ∀ u : State, u.inFlight = some 1 →
      Step u (.receiveDone 0) (u.handleRxDone 1 0) := fun u hu => .receiveDone hu 0
  exact .single ⟨.receiveDone 0, hdone _ rfl⟩

/-- Two ways to a wrong pairing. While the decode task holds the first arm's event, 2^32 further
arms bring its number back, with every lock section a single step. And a receive that survives a
failed `rmt_disable()` may end while a failing call has tagged the next number: its event carries
the number of the next arm. -/
theorem published_capture_mispaired :
    (∃ s, ReflTransGen AtomicStep startState s ∧ s.Mispaired) ∧
      ∃ s, ReflTransGen (fun s t => ∃ action, Step s action t) startState s ∧ s.Mispaired := by
  constructor
  · obtain ⟨u, hu, hframe, hlast, hseq⟩ := heldState_quiet.rounds_wrap (P := OneFrame)
      (sendRequest_isAccepted 2) 0 (fun u hu => hu.afterRound _) heldState_oneFrame
    have hentry : (u.arms ++ [(⟨u.calls.length, u.receives⟩ : Arm)])[(u.arms ++
        [(⟨u.calls.length, u.receives⟩ : Arm)]).length - 1]? = some ⟨u.calls.length, u.receives⟩ := by
      rw [← List.getLast?_eq_getElem?, List.getLast?_concat]
    have hcalls : 1 ≤ u.calls.length := hu.calls
    obtain ⟨s, hrun, hmispaired⟩ := mispaired_of_match hlast.quiet (hframe.afterRound _)
      hlast.decoder hseq.symm rfl rfl hentry (Nat.ne_of_gt hcalls)
    exact ⟨s, (heldState_run.trans hlast.run).trans hrun, hmispaired⟩
  · have hframe : OneFrame retaggedState := by
      refine ⟨?_, ?_, by decide⟩
      · intro receive data hdata hne
        have hdata' : Function.update (Function.update (fun _ => none) 0
          (some ⟨startState.symbolBuffer, rmtPulseMonitorDataSymbols⟩)) 1
          (some ⟨startState.symbolBuffer, 0⟩) receive = some data := hdata
        by_cases hone : receive = 1
        · rw [hone, Function.update_self] at hdata'
          obtain rfl := Option.some.inj hdata'
          exact Nat.zero_ne_add_one 143
        · rw [Function.update_of_ne hone, Function.update_of_ne hne] at hdata'
          cases hdata'
      · intro arm entry hentry hzero
        have hentry' : [(⟨0, 0⟩ : Arm), ⟨2, 1⟩][arm]? = some entry := hentry
        have hmem := List.mem_of_getElem? hentry'
        simp only [List.mem_cons, List.not_mem_nil, or_false] at hmem
        rcases hmem with rfl | rfl
        · rfl
        · cases hzero
    obtain ⟨s, hrun, hmispaired⟩ := mispaired_of_match ⟨rfl, rfl, rfl, rfl⟩ hframe
      (rfl : retaggedState.decoder = .holding ⟨2, 3, 1⟩ ⟨rmtPulseMonitorDataSymbols, 2, 0⟩) rfl rfl
      rfl (rfl : retaggedState.arms[1]? = some ⟨2, 1⟩) (by decide)
    exact ⟨s, retaggedState_run.trans (run_of_atomic hrun), hmispaired⟩

end StripTuner.PulseMonitor
