import Mathlib.Data.List.Nodup
import StripTuner.PulseMonitor.Rounds

/-!
# Every arm has its outcome

Every call is in one of four places: it holds the lock, it has yet to publish `not_measured`, it has
armed, or it has published `not_measured`. Every arm that was matched or timed out is published, or
about to be, and the semaphore tells the decode task of the latest arm that was not.
-/

namespace StripTuner.PulseMonitor

open Relation

/-! ## Outcomes of a call -/

/-- The records published for a call. -/
def State.outcomesOf (s : State) (call : Nat) : List Outcome :=
  s.published.filter fun outcome => outcome.call = call

/-- The decode task waits for the signal of an arm, and there is none. -/
structure State.Blocked (s : State) : Prop where
  decoder : s.decoder = .waitArmed
  armedSem : s.armedSem = false

/-- The call has returned without arming. -/
structure State.NotArmed (s : State) (call : Nat) : Prop where
  armer : call ∉ s.armer.map Armer.call
  unpublished : call ∉ s.unpublished
  arms : call ∉ s.arms.map Arm.call

def State.callOf (s : State) (arm : Nat) : Nat := (s.arms[arm]?.map Arm.call).getD 0

/-- The arm that was matched or timed out and whose record is next. -/
def Decoder.publishing : Decoder → Option Nat
  | .timedOut wait | .restarted wait => some wait.arm
  | .taken capture => some capture.arm
  | _ => none

/-- The record of a capture is never `not_measured`. -/
theorem measured_of_captureResult {snapshot : Snapshot} {symbols : SymbolBuffer}
    {symbolCount : Nat} {record : Ws2812Measurement}
    (h : captureResult snapshot symbols symbolCount = some record) :
    record.state ≠ .notMeasured := by
  unfold captureResult analyzeReadCapture decodeCapture at h
  dsimp only at h
  intro hstate
  split at h
  · split at h <;> obtain rfl := Option.some.inj h <;> cases hstate
  · split at h
    · obtain rfl := Option.some.inj h
      cases hstate
    · split at h
      · obtain rfl := Option.some.inj h
        cases hstate
      · cases h

/-! ## Calls -/

/-- The calls that have published `not_measured`, -/
def State.notMeasuredCalls (s : State) : List Nat :=
  (s.published.filter fun outcome => outcome.record.state = .notMeasured).map Outcome.call

/-- and those that have published anything else. -/
def State.measuredCalls (s : State) : List Nat :=
  (s.published.filter fun outcome => !decide (outcome.record.state = .notMeasured)).map Outcome.call

/-- A call is in one place, once. -/
structure CallsCounted (s : State) : Prop where
  count : ∀ call, (s.armer.map Armer.call).toList.count call + s.unpublished.count call +
    (s.arms.map Arm.call).count call + s.notMeasuredCalls.count call =
    if call < s.calls.length then 1 else 0
  notMeasured : ∀ outcome ∈ s.published, outcome.record.state = .notMeasured →
    ∃ request, s.calls[outcome.call]? = some request ∧
      outcome.record = plainResult request.submitSeq .notMeasured

theorem Initial.callsCounted {s : State} (h : Initial s) : CallsCounted s := by
  refine ⟨?_, ?_⟩
  · intro call
    simp [State.notMeasuredCalls, h.armer, h.unpublished, h.arms, h.published, h.calls]
  · intro outcome hmem
    rw [h.published] at hmem
    cases hmem

section Calls

variable {s t : State} {armer : Armer}

theorem CallsCounted.of_eq (h : CallsCounted s)
    (harmer : t.armer.map Armer.call = s.armer.map Armer.call)
    (hunpublished : t.unpublished = s.unpublished) (harms : t.arms = s.arms)
    (hpublished : t.published = s.published) (hcalls : t.calls = s.calls) : CallsCounted t := by
  refine ⟨?_, ?_⟩
  · intro call
    unfold State.notMeasuredCalls
    rw [harmer, hunpublished, harms, hpublished, hcalls]
    exact h.count call
  · rw [hpublished, hcalls]
    exact h.notMeasured

/-- A new call leaves the records of the old ones alone. -/
theorem CallsCounted.notMeasured_append (h : CallsCounted s) (request : ArmRequest) :
    ∀ outcome ∈ s.published, outcome.record.state = .notMeasured →
      ∃ request', (s.calls ++ [request])[outcome.call]? = some request' ∧
        outcome.record = plainResult request'.submitSeq .notMeasured := by
  intro outcome hmem hstate
  obtain ⟨request', hcall, hrecord⟩ := h.notMeasured outcome hmem hstate
  refine ⟨request', ?_, hrecord⟩
  rw [List.getElem?_append_left (List.getElem?_eq_some_iff.mp hcall).1]
  exact hcall

theorem CallsCounted.rejectArm (h : CallsCounted s) (request : ArmRequest) :
    CallsCounted (s.rejectArm request) := by
  refine ⟨?_, h.notMeasured_append request⟩
  intro call
  have hcount := h.count call
  show (s.armer.map Armer.call).toList.count call +
    (s.unpublished ++ [s.calls.length]).count call + (s.arms.map Arm.call).count call +
    s.notMeasuredCalls.count call = if call < (s.calls ++ [request]).length then 1 else 0
  rw [List.count_append, List.count_singleton, List.length_append, List.length_singleton]
  simp only [beq_iff_eq]
  split at hcount <;> split <;> split <;> omega

theorem CallsCounted.beginArm (h : CallsCounted s) (request : ArmRequest) :
    CallsCounted (s.beginArm request) := by
  unfold State.beginArm
  split
  · exact h.rejectArm request
  · rename_i hfree
    have hlock : s.armer = none := by
      by_contra hheld
      simp [Option.isSome_iff_ne_none, hheld] at hfree
    refine ⟨?_, h.notMeasured_append request⟩
    intro call
    have hcount := h.count call
    rw [hlock] at hcount
    show [s.calls.length].count call + s.unpublished.count call +
      (s.arms.map Arm.call).count call + s.notMeasuredCalls.count call =
      if call < (s.calls ++ [request]).length then 1 else 0
    rw [List.count_singleton, List.length_append, List.length_singleton]
    simp only [Option.map_none, Option.toList_none, List.count_nil] at hcount
    simp only [beq_iff_eq]
    split at hcount <;> split <;> split <;> omega

theorem CallsCounted.failArm (h : CallsCounted s) (harmer : s.armer = some armer) :
    CallsCounted (s.failArm armer) := by
  refine ⟨?_, h.notMeasured⟩
  intro call
  have hcount := h.count call
  rw [harmer] at hcount
  show (([] : List Nat)).count call + (s.unpublished ++ [armer.call]).count call +
    (s.arms.map Arm.call).count call + s.notMeasuredCalls.count call =
    if call < s.calls.length then 1 else 0
  rw [← hcount, List.count_append, List.count_nil]
  simp only [Option.map_some, Option.toList_some]
  omega

theorem CallsCounted.commitArm (h : CallsCounted s) (harmer : s.armer = some armer)
    (receive : Nat) : CallsCounted (s.commitArm armer receive) := by
  refine ⟨?_, h.notMeasured⟩
  intro call
  have hcount := h.count call
  rw [harmer] at hcount
  show (([] : List Nat)).count call + s.unpublished.count call +
    ((s.arms ++ [(⟨armer.call, receive⟩ : Arm)]).map Arm.call).count call +
    s.notMeasuredCalls.count call = if call < s.calls.length then 1 else 0
  rw [← hcount, List.map_append, List.count_append, List.count_nil]
  simp only [Option.map_some, Option.toList_some, List.map_cons, List.map_nil]
  omega

theorem CallsCounted.publishNotMeasured (h : CallsCounted s) {call : Nat} {request : ArmRequest}
    (hcall : call ∈ s.unpublished) (hrequest : s.calls[call]? = some request) :
    CallsCounted
      { s with
        unpublished := s.unpublished.erase call
        published := s.published ++ [⟨call, plainResult request.submitSeq .notMeasured⟩] } := by
  refine ⟨?_, ?_⟩
  · intro call'
    have hcount := h.count call'
    have hone : 0 < s.unpublished.count call := List.count_pos_iff.mpr hcall
    have hnew : ∀ s' : State, s'.published =
        s.published ++ [⟨call, plainResult request.submitSeq .notMeasured⟩] →
        s'.notMeasuredCalls = s.notMeasuredCalls ++ [call] := by
      intro s' hpublished
      unfold State.notMeasuredCalls
      rw [hpublished]
      simp [plainResult]
    rw [hnew _ rfl]
    show (s.armer.map Armer.call).toList.count call' + (s.unpublished.erase call).count call' +
      (s.arms.map Arm.call).count call' + (s.notMeasuredCalls ++ [call]).count call' =
      if call' < s.calls.length then 1 else 0
    rw [← hcount, List.count_append, List.count_singleton]
    by_cases heq : call = call'
    · subst heq
      rw [List.count_erase_self, if_pos (beq_self_eq_true call)]
      omega
    · rw [List.count_erase_of_ne (Ne.symm heq), if_neg (by simpa using heq)]
      omega
  · intro outcome hmem hstate
    rcases List.mem_append.mp hmem with hold | hnew
    · exact h.notMeasured outcome hold hstate
    · obtain rfl := List.mem_singleton.mp hnew
      exact ⟨request, hrequest, rfl⟩

/-- The decode task publishes no `not_measured`. -/
theorem CallsCounted.publishFor (h : CallsCounted s) (arm : Nat)
    {record : Option Ws2812Measurement}
    (hrecord : ∀ r, record = some r → r.state ≠ .notMeasured) :
    CallsCounted (s.publishFor arm record) := by
  cases record with
  | none =>
      refine h.of_eq rfl rfl rfl ?_ rfl
      exact List.append_nil _
  | some r =>
      have hstate := hrecord r rfl
      have hsame : (s.publishFor arm (some r)).notMeasuredCalls = s.notMeasuredCalls := by
        show ((s.published ++ [_]).filter _).map Outcome.call = _
        rw [List.filter_append, List.filter_cons_of_neg (by simpa using hstate), List.filter_nil,
          List.append_nil]
        rfl
      refine ⟨?_, ?_⟩
      · intro call
        rw [hsame]
        exact h.count call
      · intro outcome hmem hnot
        rcases List.mem_append.mp hmem with hold | hnew
        · exact h.notMeasured outcome hold hnot
        · obtain rfl := List.mem_singleton.mp hnew
          exact absurd hnot hstate

theorem CallsCounted.step {action : Action} (h : CallsCounted s) (hstep : Step s action t) :
    CallsCounted t := by
  cases hstep with
  | arm request => exact h.beginArm request
  | armBusy request => exact h.rejectArm request
  | failArm harmer hphase => exact h.failArm harmer
  | commitArm harmer hphase => exact h.commitArm harmer _
  | publishNotMeasured hcall hrequest => exact h.publishNotMeasured hcall hrequest
  | takeCapture hdecoder hlock =>
      unfold State.takeCurrentCapture
      split <;> exact h.of_eq rfl rfl rfl rfl rfl
  | restart hdecoder hlock disabled =>
      unfold State.restartRxChannel
      split <;> exact h.of_eq rfl rfl rfl rfl rfl
  | publishTimeout hdecoder =>
      refine h.publishFor _ ?_
      rintro r ⟨⟩ hstate
      cases hstate
  | publishCapture hdecoder =>
      exact h.publishFor _ fun r hr => measured_of_captureResult hr
  | setPending harmer _
  | receive harmer _ _
  | receiveError harmer _ _
  | enable harmer _ _
  | receiveAgain harmer _ _
  | receiveAgainError harmer _ _ =>
      refine h.of_eq ?_ rfl rfl rfl rfl
      rw [harmer]
      rfl
  | hardwareWrite
  | receiveDone
  | takeSem
  | getArmedSeq
  | queueReceive
  | queueTimeout =>
      exact h.of_eq rfl rfl rfl rfl rfl

end Calls

/-! ## Signals -/

/-- Of a number of arms, the latest one was neither matched nor timed out. -/
structure LatestOpen (arms : Nat) (settled : List Nat) : Prop where
  pos : 0 < arms
  lt : ∀ arm ∈ settled, arm + 1 < arms

/-- The arm waited on is the latest one, or a newer arm has signalled. -/
structure Waiting (arms : Nat) (armedSeq : UInt32) (armedSem : Bool) (wait : Wait) : Prop where
  lt : wait.arm < arms
  latest : wait.arm + 1 = arms → wait.waitSeq = armedSeq
  newer : wait.arm + 1 < arms → armedSem = true

/-- What the semaphore and the wait say of the latest arm. -/
def Signals (arms : Nat) (settled : List Nat) (armedSeq : UInt32) (armedSem : Bool) :
    Decoder → Prop
  | .waitArmed | .restarted _ | .taken _ => armedSem = true ↔ LatestOpen arms settled
  | .signalled => LatestOpen arms settled
  | .waiting wait | .holding wait _ =>
    Waiting arms armedSeq armedSem wait ∧ ∀ arm ∈ settled, arm < wait.arm
  | .timedOut wait =>
    Waiting arms armedSeq armedSem wait ∧ ∀ arm ∈ settled, arm ≤ wait.arm

/-- Arms are settled in their order, each at most once, and published in that order. -/
structure Settled (s : State) : Prop where
  sorted : s.settled.Pairwise (· < ·)
  bound : ∀ arm ∈ s.settled, arm < s.arms.length
  signals : Signals s.arms.length s.settled s.armedSeq s.armedSem s.decoder
  publishing : ∀ arm, s.decoder.publishing = some arm → arm ∈ s.settled
  measured : s.measuredCalls ++ s.decoder.publishing.toList.map s.callOf = s.settled.map s.callOf

theorem Initial.isSettled {s : State} (h : Initial s) : Settled s := by
  refine ⟨?_, ?_, ?_, ?_, ?_⟩
  · rw [h.settled]
    exact .nil
  · rw [h.settled]
    intro arm hmem
    cases hmem
  · rw [h.decoder, h.armedSem, h.arms, h.settled]
    refine ⟨fun hsem => absurd hsem Bool.false_ne_true, ?_⟩
    rintro ⟨hpos, -⟩
    cases hpos
  · rw [h.decoder]
    intro arm harm
    cases harm
  · rw [h.decoder, h.settled]
    unfold State.measuredCalls
    rw [h.published]
    rfl

section Settled

variable {s t : State} {armer : Armer} {wait : Wait} {arms arm : Nat} {settled : List Nat}
  {armedSeq : UInt32} {armedSem : Bool}

theorem LatestOpen.waiting (h : LatestOpen arms settled) (waitSubmitSeq : UInt32) :
    Waiting arms armedSeq armedSem ⟨armedSeq, waitSubmitSeq, arms - 1⟩ ∧
      ∀ arm ∈ settled, arm < arms - 1 := by
  have hpos := h.pos
  refine ⟨⟨?_, fun _ => rfl, ?_⟩, ?_⟩
  · show arms - 1 < arms
    omega
  · intro hlt
    have hlt' : arms - 1 + 1 < arms := hlt
    omega
  · intro arm hmem
    have := h.lt arm hmem
    omega

theorem Waiting.latestOpen (h : Waiting arms armedSeq armedSem wait)
    (hlt : ∀ arm ∈ settled, arm < wait.arm) : LatestOpen arms settled := by
  have harm := h.lt
  refine ⟨by omega, ?_⟩
  intro arm hmem
  have := hlt arm hmem
  omega

/-- Once the latest arm is settled it is not open any more. -/
theorem not_latestOpen (hmem : arms - 1 ∈ settled) : ¬ LatestOpen arms settled := by
  rintro ⟨hpos, hall⟩
  have := hall _ hmem
  omega

theorem Settled.of_eq (h : Settled s) (hdecoder : t.decoder = s.decoder)
    (hsem : t.armedSem = s.armedSem) (hseq : t.armedSeq = s.armedSeq) (harms : t.arms = s.arms)
    (hsettled : t.settled = s.settled) (hmeasured : t.measuredCalls = s.measuredCalls) :
    Settled t := by
  have hcallOf : t.callOf = s.callOf := by
    unfold State.callOf
    rw [harms]
  refine ⟨?_, ?_, ?_, ?_, ?_⟩
  · rw [hsettled]
    exact h.sorted
  · rw [hsettled, harms]
    exact h.bound
  · rw [hdecoder, hsem, hseq, harms, hsettled]
    exact h.signals
  · rw [hdecoder, hsettled]
    exact h.publishing
  · rw [hdecoder, hmeasured, hcallOf, hsettled]
    exact h.measured

/-- The decode task moves on, with nothing settled and nothing published. -/
theorem Settled.decode (h : Settled s) {decoder : Decoder} {armedSem : Bool}
    (hpublishing : decoder.publishing = s.decoder.publishing)
    (hsignals : Signals s.arms.length s.settled s.armedSeq armedSem decoder) :
    Settled { s with armedSem := armedSem, decoder := decoder } := by
  refine ⟨h.sorted, h.bound, hsignals, ?_, ?_⟩
  · show ∀ arm, decoder.publishing = some arm → arm ∈ s.settled
    rw [hpublishing]
    exact h.publishing
  show s.measuredCalls ++ decoder.publishing.toList.map s.callOf = _
  rw [hpublishing]
  exact h.measured

/-- An arm is settled, and its record is next. -/
theorem Settled.settle (h : Settled s) {decoder : Decoder} {armedSem : Bool}
    (hnone : s.decoder.publishing = none) (hsome : decoder.publishing = some arm)
    (hbound : arm < s.arms.length) (hlt : ∀ arm' ∈ s.settled, arm' < arm)
    (hsignals : Signals s.arms.length (s.settled ++ [arm]) s.armedSeq armedSem decoder) :
    Settled
      { s with armedSem := armedSem, settled := s.settled ++ [arm], decoder := decoder } := by
  refine ⟨?_, ?_, hsignals, ?_, ?_⟩
  · refine List.pairwise_append.mpr ⟨h.sorted, List.pairwise_singleton _ _, ?_⟩
    intro arm' hmem new hnew
    obtain rfl := List.mem_singleton.mp hnew
    exact hlt arm' hmem
  · intro arm' hmem
    rcases List.mem_append.mp hmem with hold | hnew
    · exact h.bound arm' hold
    · obtain rfl := List.mem_singleton.mp hnew
      exact hbound
  · intro arm' harm'
    obtain rfl := Option.some.inj (hsome.symm.trans harm')
    exact List.mem_append_right _ (List.mem_singleton_self _)
  · have hmeasured := h.measured
    rw [hnone] at hmeasured
    show s.measuredCalls ++ decoder.publishing.toList.map s.callOf =
      (s.settled ++ [arm]).map s.callOf
    rw [hsome, List.map_append, ← hmeasured]
    simp

theorem Settled.commitArm (h : Settled s) (armer : Armer) (receive : Nat) :
    Settled (s.commitArm armer receive) := by
  have hlength : (s.commitArm armer receive).arms.length = s.arms.length + 1 :=
    List.length_append
  have hcallOf : ∀ arm < s.arms.length, (s.commitArm armer receive).callOf arm = s.callOf arm := by
    intro arm hlt
    unfold State.callOf
    exact congrArg (fun entry : Option Arm => (entry.map Arm.call).getD 0)
      (List.getElem?_append_left hlt)
  have hopen : LatestOpen (s.arms.length + 1) s.settled :=
    ⟨Nat.succ_pos _, fun arm hmem => Nat.succ_lt_succ (h.bound arm hmem)⟩
  have hwaiting : ∀ wait, Waiting s.arms.length s.armedSeq s.armedSem wait →
      Waiting (s.arms.length + 1) armer.armSeq true wait := by
    intro wait hw
    have harm := hw.lt
    exact ⟨by omega, fun heq => by omega, fun _ => rfl⟩
  refine ⟨h.sorted, ?_, ?_, h.publishing, ?_⟩
  · intro arm hmem
    rw [hlength]
    exact Nat.lt_succ_of_lt (h.bound arm hmem)
  · rw [hlength]
    have hsignals := h.signals
    show Signals (s.arms.length + 1) s.settled armer.armSeq true s.decoder
    revert hsignals
    cases s.decoder with
    | waitArmed | restarted | taken => exact fun _ => ⟨fun _ => hopen, fun _ => rfl⟩
    | signalled => exact fun _ => hopen
    | waiting wait | holding wait event | timedOut wait =>
        exact fun ⟨hw, hall⟩ => ⟨hwaiting wait hw, hall⟩
  · have hold : ∀ arm ∈ s.settled, (s.commitArm armer receive).callOf arm = s.callOf arm :=
      fun arm hmem => hcallOf arm (h.bound arm hmem)
    show s.measuredCalls ++ s.decoder.publishing.toList.map (s.commitArm armer receive).callOf =
      s.settled.map (s.commitArm armer receive).callOf
    rw [List.map_congr_left hold, ← h.measured]
    congr 1
    refine List.map_congr_left ?_
    intro arm hmem
    exact hold arm (h.publishing arm (Option.mem_toList.mp hmem))

theorem Settled.takeCurrentCapture (h : Settled s) {event : CaptureDoneEvent}
    (hdecoder : s.decoder = .holding wait event) : Settled (s.takeCurrentCapture event) := by
  have hsignals := h.signals
  rw [hdecoder] at hsignals
  obtain ⟨hwaiting, hall⟩ := hsignals
  have hlatest := hwaiting.latestOpen hall
  unfold State.takeCurrentCapture
  split
  · refine h.settle (by rw [hdecoder]; rfl) rfl ?_ ?_ ?_
    · have := hlatest.pos
      omega
    · intro arm hmem
      have := hlatest.lt arm hmem
      omega
    · refine ⟨fun hsem => absurd hsem Bool.false_ne_true, fun hopen => absurd hopen (not_latestOpen ?_)⟩
      exact List.mem_append_right _ (List.mem_singleton_self _)
  · exact h.decode (by rw [hdecoder]; rfl) (hlatest.waiting _)

/-- A restart only clears the signal when the arm that timed out is still the latest. -/
theorem Settled.restartRxChannel (h : Settled s) (hdecoder : s.decoder = .timedOut wait)
    (disabled : EspErr) (hlatest : s.armedSeq = wait.waitSeq → wait.arm + 1 = s.arms.length) :
    Settled (s.restartRxChannel wait disabled) := by
  have hsignals := h.signals
  rw [hdecoder] at hsignals
  obtain ⟨hwaiting, hall⟩ := hsignals
  have hmem : wait.arm ∈ s.settled := h.publishing _ (by rw [hdecoder]; rfl)
  unfold State.restartRxChannel
  split
  · rename_i hnewer
    have hlt : wait.arm + 1 < s.arms.length := by
      have := hwaiting.lt
      have : wait.arm + 1 ≠ s.arms.length := fun heq => hnewer (hwaiting.latest heq).symm
      omega
    refine h.decode (by rw [hdecoder]; rfl) ⟨fun _ => ⟨by omega, ?_⟩, fun _ => hwaiting.newer hlt⟩
    intro arm harm
    have := hall arm harm
    omega
  · rename_i hsame
    have heq := hlatest (not_not.mp hsame)
    have hnot : ¬ LatestOpen s.arms.length s.settled := by
      refine not_latestOpen ?_
      rw [← heq, Nat.add_sub_cancel]
      exact hmem
    have hclear : Settled { s with armedSem := false, decoder := .restarted wait } :=
      h.decode (by rw [hdecoder]; rfl)
        ⟨fun hsem => absurd hsem Bool.false_ne_true, fun hopen => absurd hopen hnot⟩
    exact hclear.of_eq rfl rfl rfl rfl rfl rfl

/-- The record of the arm in hand goes out. -/
theorem Settled.publishFor (h : Settled s) (hpublishing : s.decoder.publishing = some arm)
    (hsignals : s.armedSem = true ↔ LatestOpen s.arms.length s.settled)
    {record : Ws2812Measurement} (hrecord : record.state ≠ .notMeasured) :
    Settled (s.publishFor arm (some record)) := by
  refine ⟨h.sorted, h.bound, hsignals, fun arm harm => (by cases harm), ?_⟩
  have hmeasured := h.measured
  rw [hpublishing] at hmeasured
  have hnew : (s.publishFor arm (some record)).measuredCalls = s.measuredCalls ++ [s.callOf arm] := by
    show ((s.published ++ [(⟨s.callOf arm, record⟩ : Outcome)]).filter _).map Outcome.call = _
    rw [List.filter_append, List.map_append, List.filter_cons_of_pos (by simpa using hrecord)]
    rfl
  rw [hnew]
  show s.measuredCalls ++ [s.callOf arm] ++ [] = s.settled.map s.callOf
  rw [List.append_nil, ← hmeasured]
  rfl

end Settled

/-! ## Runs -/

/-- When the restart after a timeout finds the number it waited on, no newer arm has succeeded. -/
def RestartsLatest (s : State) : Action → Prop
  | .restart _ => ∀ wait, s.decoder = .timedOut wait → s.armedSeq = wait.waitSeq →
      wait.arm + 1 = s.arms.length
  | _ => True

theorem Settled.step {s t : State} {action : Action} (h : Settled s) (hok : RestartsLatest s action)
    (hstep : Step s action t) : Settled t := by
  have hsignals := h.signals
  cases hstep with
  | arm request =>
      unfold State.beginArm
      split <;> exact h.of_eq rfl rfl rfl rfl rfl rfl
  | commitArm harmer hphase => exact h.commitArm _ _
  | publishNotMeasured hcall hrequest =>
      refine h.of_eq rfl rfl rfl rfl rfl ?_
      show ((s.published ++ [_]).filter _).map Outcome.call = _
      rw [List.filter_append, List.filter_cons_of_neg (by simp [plainResult]), List.filter_nil,
        List.append_nil]
      rfl
  | takeSem hstarted hdecoder hsem =>
      rw [hdecoder] at hsignals
      exact h.decode (by rw [hdecoder]; rfl) (hsignals.mp hsem)
  | getArmedSeq hdecoder hlock =>
      rw [hdecoder] at hsignals
      exact h.decode (by rw [hdecoder]; rfl) (hsignals.waiting _)
  | @queueReceive wait event hdecoder hqueue =>
      rw [hdecoder] at hsignals
      have hheld : Settled { s with decoder := .holding wait event } :=
        h.decode (by rw [hdecoder]; rfl) hsignals
      exact hheld.of_eq rfl rfl rfl rfl rfl rfl
  | queueTimeout hdecoder hqueue =>
      rw [hdecoder] at hsignals
      obtain ⟨hwaiting, hall⟩ := hsignals
      refine h.settle (by rw [hdecoder]; rfl) rfl hwaiting.lt hall ⟨hwaiting, ?_⟩
      intro arm hmem
      rcases List.mem_append.mp hmem with hold | hnew
      · exact Nat.le_of_lt (hall arm hold)
      · exact Nat.le_of_eq (List.mem_singleton.mp hnew)
  | takeCapture hdecoder hlock => exact h.takeCurrentCapture hdecoder
  | restart hdecoder hlock disabled =>
      exact h.restartRxChannel hdecoder disabled (hok _ hdecoder)
  | publishTimeout hdecoder =>
      rw [hdecoder] at hsignals
      refine h.publishFor (by rw [hdecoder]; rfl) hsignals ?_
      intro hstate
      cases hstate
  | @publishCapture capture hdecoder =>
      rw [hdecoder] at hsignals
      obtain ⟨record, hrecord⟩ := Option.isSome_iff_exists.mp
        (isSome_captureResult capture.snapshot capture.symbols capture.symbolCount)
      rw [hrecord]
      exact h.publishFor (by rw [hdecoder]; rfl) hsignals (measured_of_captureResult hrecord)
  | armBusy
  | setPending
  | receive
  | receiveError
  | enable
  | receiveAgain
  | receiveAgainError
  | failArm
  | hardwareWrite
  | receiveDone =>
      exact h.of_eq rfl rfl rfl rfl rfl rfl

section Count

variable {s : State} {call : Nat}

/-- A record is `not_measured` or it is not. -/
theorem length_outcomesOf (s : State) (call : Nat) :
    (s.outcomesOf call).length = s.notMeasuredCalls.count call + s.measuredCalls.count call := by
  unfold State.outcomesOf State.notMeasuredCalls State.measuredCalls
  rw [← List.countP_eq_length_filter, List.count_eq_countP, List.count_eq_countP, List.countP_map,
    List.countP_map]
  exact List.countP_eq_countP_filter_add _ _ _

/-- Settled arms are arms, each once. -/
theorem Settled.count_measuredCalls_le (h : Settled s) (call : Nat) :
    s.measuredCalls.count call ≤ (s.arms.map Arm.call).count call := by
  have hnodup : s.settled.Nodup := h.sorted.imp fun hlt => Nat.ne_of_lt hlt
  have hsubset : s.settled ⊆ List.range s.arms.length :=
    fun arm hmem => List.mem_range.mpr (h.bound arm hmem)
  have hrange : (List.range s.arms.length).map s.callOf = s.arms.map Arm.call := by
    refine List.ext_getElem (by simp) ?_
    intro arm hleft hright
    rw [List.length_map] at hright
    simp [State.callOf, hright]
  obtain ⟨arms, hperm, hsublist⟩ := List.subperm_of_subset hnodup hsubset
  calc s.measuredCalls.count call
      ≤ (s.settled.map s.callOf).count call := by
        rw [← h.measured, List.count_append]
        exact Nat.le_add_right _ _
    _ = (arms.map s.callOf).count call := ((hperm.map s.callOf).count_eq call).symm
    _ ≤ ((List.range s.arms.length).map s.callOf).count call := (hsublist.map s.callOf).count_le call
    _ = (s.arms.map Arm.call).count call := by rw [hrange]

/-- A call that returned without arming has published `not_measured`, and nothing else. -/
theorem outcomesOf_of_notArmed (hcalls : CallsCounted s) (hsettled : Settled s)
    {request : ArmRequest} (hcall : s.calls[call]? = some request) (hnot : s.NotArmed call) :
    s.outcomesOf call = [⟨call, plainResult request.submitSeq .notMeasured⟩] := by
  have hlock : (s.armer.map Armer.call).toList.count call = 0 :=
    List.count_eq_zero.mpr fun hmem => hnot.armer (Option.mem_toList.mp hmem)
  have harms : (s.arms.map Arm.call).count call = 0 := List.count_eq_zero.mpr hnot.arms
  have hunpublished : s.unpublished.count call = 0 := List.count_eq_zero.mpr hnot.unpublished
  have hlt : call < s.calls.length := (List.getElem?_eq_some_iff.mp hcall).1
  have hcount := hcalls.count call
  rw [if_pos hlt] at hcount
  have hmeasured := hsettled.count_measuredCalls_le call
  have hlength := length_outcomesOf s call
  obtain ⟨outcome, houtcome⟩ := List.length_eq_one_iff.mp
    (by omega : (s.outcomesOf call).length = 1)
  have hmem : outcome ∈ s.outcomesOf call := by
    rw [houtcome]
    exact List.mem_singleton_self _
  obtain ⟨hpublished, heq⟩ := List.mem_filter.mp hmem
  have heq' : outcome.call = call := of_decide_eq_true heq
  have hstate : outcome.record.state = .notMeasured := by
    by_contra hother
    have hin : call ∈ s.measuredCalls :=
      List.mem_map.mpr ⟨outcome, List.mem_filter.mpr ⟨hpublished, by simpa using hother⟩, heq'⟩
    have := List.count_pos_iff.mpr hin
    omega
  obtain ⟨request', hcall', hrecord⟩ := hcalls.notMeasured outcome hpublished hstate
  rw [heq', hcall] at hcall'
  obtain rfl := Option.some.inj hcall'
  rw [houtcome, ← heq', ← hrecord]

/-- A call that armed has published nothing twice. -/
theorem length_outcomesOf_le (hcalls : CallsCounted s) (hsettled : Settled s) {arm : Nat}
    {entry : Arm} (hentry : s.arms[arm]? = some entry) :
    (s.outcomesOf entry.call).length ≤ 1 := by
  have hpos : 0 < (s.arms.map Arm.call).count entry.call :=
    List.count_pos_iff.mpr (List.mem_map_of_mem (List.mem_of_getElem? hentry))
  have hcount := hcalls.count entry.call
  have hmeasured := hsettled.count_measuredCalls_le entry.call
  have hlength := length_outcomesOf s entry.call
  split at hcount <;> omega

theorem outcomesOf_ne_nil (h : call ∈ s.measuredCalls) : s.outcomesOf call ≠ [] := by
  have hpos := List.count_pos_iff.mpr h
  have hlength := length_outcomesOf s call
  intro hnil
  rw [hnil, List.length_nil] at hlength
  omega

theorem callOf_of_getElem? {arm : Nat} {entry : Arm} (h : s.arms[arm]? = some entry) :
    s.callOf arm = entry.call := by
  unfold State.callOf
  rw [h]
  rfl

/-- Two arms are never of one call. -/
theorem CallsCounted.callOf_injOn (h : CallsCounted s) {arm arm' : Nat}
    (hlt : arm < s.arms.length) (hlt' : arm' < s.arms.length)
    (heq : s.callOf arm = s.callOf arm') : arm = arm' := by
  have hnodup : (s.arms.map Arm.call).Nodup := by
    refine List.nodup_iff_count_le_one.mpr ?_
    intro call
    have hcount := h.count call
    split at hcount <;> omega
  have hentry := List.getElem?_eq_getElem hlt
  have hentry' := List.getElem?_eq_getElem hlt'
  rw [callOf_of_getElem? hentry, callOf_of_getElem? hentry'] at heq
  refine (List.getElem?_inj (by rw [List.length_map]; exact hlt) hnodup).mp ?_
  rw [List.getElem?_map, List.getElem?_map, hentry, hentry']
  exact congrArg some heq

/-- A settled arm is published, or about to be. -/
theorem Settled.publishing_or_outcome (hcalls : CallsCounted s) (h : Settled s) {arm : Nat}
    {entry : Arm} (hentry : s.arms[arm]? = some entry) (hmem : arm ∈ s.settled) :
    s.decoder.publishing = some arm ∨ s.outcomesOf entry.call ≠ [] := by
  have hin : s.callOf arm ∈ s.settled.map s.callOf := List.mem_map_of_mem hmem
  rw [← h.measured, callOf_of_getElem? hentry] at hin
  rcases List.mem_append.mp hin with hdone | hnext
  · exact .inr (outcomesOf_ne_nil hdone)
  · obtain ⟨arm', harm', heq⟩ := List.mem_map.mp hnext
    have hpublishing := Option.mem_toList.mp harm'
    rw [← callOf_of_getElem? hentry] at heq
    rw [← hcalls.callOf_injOn (h.bound arm' (h.publishing arm' hpublishing)) (h.bound arm hmem) heq]
    exact .inl hpublishing

end Count

/-- In every run in which a restart that finds its number finds its arm: a call that did not arm
publishes `not_measured` once, a call that armed publishes at most once, and not at all only when a
newer arm succeeded before it was matched or timed out; when the decode task is blocked, the latest
arm is published. -/
theorem outcomes_accounted {s₀ s : State} (hinit : Initial s₀)
    (hrun : ReflTransGen (fun s t => ∃ action, RestartsLatest s action ∧ Step s action t) s₀ s) :
    (∀ call request, s.calls[call]? = some request → s.NotArmed call →
      s.outcomesOf call = [⟨call, plainResult request.submitSeq .notMeasured⟩]) ∧
    (∀ arm entry, s.arms[arm]? = some entry →
      (s.outcomesOf entry.call).length ≤ 1 ∧
        (s.outcomesOf entry.call = [] → s.decoder.publishing = some arm ∨
          arm ∉ s.settled ∧ (arm + 1 < s.arms.length ∨ ¬ s.Blocked))) ∧
    (s.Blocked → ∀ entry, s.arms.getLast? = some entry →
      (s.outcomesOf entry.call).length = 1) := by
  have hboth : CallsCounted s ∧ Settled s := by
    induction hrun with
    | refl => exact ⟨hinit.callsCounted, hinit.isSettled⟩
    | tail _ hstep ih =>
        obtain ⟨action, hok, hstep⟩ := hstep
        exact ⟨ih.1.step hstep, ih.2.step hok hstep⟩
  obtain ⟨hcalls, hsettled⟩ := hboth
  have hlatest : s.Blocked → 0 < s.arms.length → s.arms.length - 1 ∈ s.settled := by
    rintro ⟨hdecoder, hsem⟩ hpos
    by_contra hopen
    have hsignals := hsettled.signals
    rw [hdecoder, hsem] at hsignals
    refine absurd (hsignals.mpr ⟨hpos, ?_⟩) Bool.false_ne_true
    intro arm hmem
    have hlt := hsettled.bound arm hmem
    have hne : arm ≠ s.arms.length - 1 := fun heq => hopen (heq ▸ hmem)
    omega
  refine ⟨fun call request hcall hnot => outcomesOf_of_notArmed hcalls hsettled hcall hnot, ?_, ?_⟩
  · intro arm entry hentry
    refine ⟨length_outcomesOf_le hcalls hsettled hentry, ?_⟩
    intro hnil
    by_cases hmem : arm ∈ s.settled
    · exact .inl ((hsettled.publishing_or_outcome hcalls hentry hmem).resolve_right
        (fun hne => hne hnil))
    · refine .inr ⟨hmem, ?_⟩
      have hlt : arm < s.arms.length := (List.getElem?_eq_some_iff.mp hentry).1
      by_cases hnewer : arm + 1 < s.arms.length
      · exact .inl hnewer
      · refine .inr fun hblocked => hmem ?_
        have heq : arm = s.arms.length - 1 := by omega
        rw [heq]
        exact hlatest hblocked (by omega)
  · intro hblocked entry hentry
    rw [List.getLast?_eq_getElem?] at hentry
    have hlt := (List.getElem?_eq_some_iff.mp hentry).1
    have hmem := hlatest hblocked (by omega)
    have hle := length_outcomesOf_le hcalls hsettled hentry
    rcases hsettled.publishing_or_outcome hcalls hentry hmem with hpublishing | hne
    · rw [hblocked.decoder] at hpublishing
      cases hpublishing
    · have := List.length_pos_iff.mpr hne
      omega

/-- A call with a null argument, and an arm that times out. -/
theorem outcomes_accounted_once :
    ∃ s : State, s.Blocked ∧ s.arms.length = 1 ∧ s.calls.length = 2 ∧
      s.outcomesOf 0 = [⟨0, plainResult 7 .notMeasured⟩] ∧
      ∀ entry, s.arms.getLast? = some entry → (s.outcomesOf entry.call).length = 1 := by
  have hpublish : ∀ u : State, u.decoder = .restarted ⟨1, 1, 0⟩ →
      Step u .publish (u.publishFor 0 (some (plainResult 1 .timeout))) := fun u hu =>
    .publishTimeout hu
  have hall := outcomes_accounted startState_initial
    (.head ⟨.arm (.nullCapture 7), trivial, .arm _ _⟩ <|
    .head ⟨.publishNotMeasured 0, trivial, .publishNotMeasured (List.mem_singleton_self 0) rfl⟩ <|
    .head ⟨.arm (sendRequest 1), trivial, .arm _ _⟩ <|
    .head ⟨.setPending, trivial, .setPending rfl rfl⟩ <|
    .head ⟨.receive .ok, trivial, .receive rfl rfl rfl⟩ <|
    .head ⟨.commitArm, trivial, .commitArm rfl rfl⟩ <|
    .head ⟨.takeSem, trivial, .takeSem rfl rfl rfl⟩ <|
    .head ⟨.getArmedSeq, trivial, .getArmedSeq rfl rfl⟩ <|
    .head ⟨.queueTimeout, trivial, .queueTimeout rfl rfl⟩ <|
    .head ⟨.restart .ok, ?_, .restart rfl rfl .ok⟩ <|
    .head ⟨.publish, trivial, hpublish _ rfl⟩ .refl)
  · refine ⟨_, ⟨rfl, rfl⟩, rfl, rfl, hall.1 0 _ rfl ⟨?_, ?_, ?_⟩, hall.2.2 ⟨rfl, rfl⟩⟩
    · exact Option.not_mem_none 0
    · exact List.not_mem_nil
    · show 0 ∉ [1]
      decide
  · rintro wait ⟨⟩ -
    rfl

/-- The first arm has timed out, and its receive has ended since. -/
def timedOutState : State :=
  { startState.afterRound (sendRequest 1) 0 with
    armedSem := false
    settled := [0]
    decoder := .timedOut ⟨1, 1, 0⟩ }

theorem timedOutState_run : ReflTransGen AtomicStep startState timedOutState := by
  have hdone : ∀ u : State, u.inFlight = some 0 →
      Step u (.receiveDone 0) (u.handleRxDone 0 0) := fun u hu => .receiveDone hu 0
  refine .head (startState_quiet.arm (sendRequest_isAccepted 1)) ?_
  refine .head (.single (.takeSem rfl rfl rfl) rfl rfl) ?_
  refine .head (.single (.getArmedSeq rfl rfl) rfl rfl) ?_
  refine .head (.single (.queueTimeout rfl rfl) rfl rfl) ?_
  exact .single (.single (hdone _ rfl) rfl rfl)

theorem timedOutState_quiet : Quiet timedOutState := ⟨rfl, rfl, rfl, rfl⟩

/-- A restart that finds its number on a later arm clears the signal of that arm: every lock section
is a single step, and the latest arm is never published. -/
theorem latest_arm_lost :
    ∃ s, ReflTransGen AtomicStep startState s ∧ s.Blocked ∧
      ∃ entry, s.arms.getLast? = some entry ∧ s.outcomesOf entry.call = [] := by
  obtain ⟨u, hu, hfirst, hlast, hseq⟩ := timedOutState_quiet.rounds_wrap
    (P := fun u => u.arms[0]? = some ⟨0, 0⟩) (sendRequest_isAccepted 2) 0
    (fun u hu => by
      show (u.arms ++ [_])[0]? = _
      rw [List.getElem?_append_left (List.getElem?_eq_some_iff.mp hu).1]
      exact hu) rfl
  have hquiet := hlast.quiet
  have hdecoder : (u.afterRound (sendRequest 2) 0).decoder = .timedOut ⟨1, 1, 0⟩ := hlast.decoder
  have hrestart := Step.restart hdecoder hquiet.armer .ok
  unfold State.restartRxChannel at hrestart
  have hsame : (u.afterRound (sendRequest 2) 0).armedSeq = (⟨1, 1, 0⟩ : Wait).waitSeq := hseq
  rw [if_neg (not_not.mpr hsame)] at hrestart
  have hpublish : ∀ v : State, v.decoder = .restarted ⟨1, 1, 0⟩ →
      Step v .publish (v.publishFor 0 (some (plainResult 1 .timeout))) := fun v hv =>
    .publishTimeout hv
  refine ⟨_, ((timedOutState_run.trans hlast.run).tail
    (.single hrestart hquiet.armer hquiet.armer)).tail
    (.single (hpublish _ rfl) hquiet.armer hquiet.armer), ⟨rfl, rfl⟩,
    ⟨u.calls.length, u.receives⟩, List.getLast?_concat, ?_⟩
  have hfirst' : (u.arms ++ [(⟨u.calls.length, u.receives⟩ : Arm)])[0]? = some ⟨0, 0⟩ := by
    rw [List.getElem?_append_left (List.getElem?_eq_some_iff.mp hfirst).1]
    exact hfirst
  have hcalls : 1 ≤ u.calls.length := hu.calls
  have hpublished : (u.afterRound (sendRequest 2) 0).published = [] := hlast.published
  show ((u.afterRound (sendRequest 2) 0).published ++
    [(⟨((u.arms ++ [(⟨u.calls.length, u.receives⟩ : Arm)])[0]?.map Arm.call).getD 0,
      plainResult 1 .timeout⟩ : Outcome)]).filter
      (fun outcome => decide (outcome.call = u.calls.length)) = []
  rw [hpublished, hfirst']
  refine List.filter_cons_of_neg ?_
  simpa using Nat.ne_of_lt hcalls

end StripTuner.PulseMonitor
