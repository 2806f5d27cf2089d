import Mathlib.Logic.Relation
import StripTuner.PulseMonitor.Model

/-!
# Rounds of arming

Runs in which the lock section of every arming call is one step, and what any number of rounds, each
a successful arm and its done interrupt, does while the decode task does not move.
-/

namespace StripTuner.PulseMonitor

open Relation

/-- The steps of a call that holds the lock. -/
def Action.IsArming : Action → Prop
  | .setPending | .receive _ | .enable _ | .receiveAgain _ | .failArm | .commitArm => True
  | _ => False

/-- A step in which no lock section is left half way: the whole section of an arming call, or a step
of something else. -/
structure AtomicStep (s t : State) : Prop where
  before : s.armer = none
  after : t.armer = none
  step : (∃ action, Step s action t) ∨ ∃ request u, Step s (.arm request) u ∧
    ReflTransGen (fun u v => ∃ action : Action, action.IsArming ∧ Step u action v) u t

theorem AtomicStep.single {s t : State} {action : Action} (hstep : Step s action t)
    (hbefore : s.armer = none) (hafter : t.armer = none) : AtomicStep s t :=
  ⟨hbefore, hafter, .inl ⟨action, hstep⟩⟩

theorem AtomicStep.run {s t : State} (h : AtomicStep s t) :
    ReflTransGen (fun s t => ∃ action, Step s action t) s t := by
  obtain ⟨action, hstep⟩ | ⟨request, u, hbegin, hrest⟩ := h.step
  · exact .single ⟨action, hstep⟩
  · exact .head ⟨_, hbegin⟩
      (ReflTransGen.mono (fun _ _ ⟨action, _, hstep⟩ => ⟨action, hstep⟩) _ _ hrest)

/-- Atomic runs are runs. -/
theorem run_of_atomic {s t : State} (h : ReflTransGen AtomicStep s t) :
    ReflTransGen (fun s t => ∃ action, Step s action t) s t := by
  induction h with
  | refl => exact .refl
  | tail _ hstep ih => exact ih.trans hstep.run

/-- An accepted call would arm. -/
structure Quiet (s : State) : Prop where
  isStarted : s.isStarted = true
  armer : s.armer = none
  isReceivePending : s.isReceivePending = false
  inFlight : s.inFlight = none

/-- After a successful arm. -/
def State.afterArm (s : State) (request : ArmRequest) : State :=
  { s with
    armed := request.store s.armed
    armedSeq := s.armedSeq + 1
    captureSeq := s.armedSeq + 1
    isReceivePending := true
    armedSem := true
    inFlight := some s.receives
    calls := s.calls ++ [request]
    arms := s.arms ++ [⟨s.calls.length, s.receives⟩]
    receives := s.receives + 1 }

/-- After a successful arm and its done interrupt. -/
def State.afterRound (request : ArmRequest) (symbolCount : Nat) (s : State) : State :=
  (s.afterArm request).handleRxDone s.receives symbolCount

section Rounds

variable {s : State} {request : ArmRequest} {symbolCount : Nat}

theorem Quiet.beginArm (h : Quiet s) (hrequest : request.isAccepted = true) :
    s.beginArm request =
      { s with
        calls := s.calls ++ [request]
        captureSeq := s.armedSeq + 1
        armer := some ⟨s.calls.length, request, s.armedSeq + 1, .tagged⟩ } := by
  unfold State.beginArm
  rw [if_neg]
  simp [h.isStarted, hrequest, h.armer, h.isReceivePending]

/-- The steps of a call that arms; up to its receive it changes nothing that waits. -/
theorem Quiet.arm_steps (h : Quiet s) (hrequest : request.isAccepted = true) :
    ∃ u v w, Step s (.arm request) u ∧ Step u .setPending v ∧
      (v.captureSeq = s.armedSeq + 1 ∧ v.captureQueue = s.captureQueue ∧ v.decoder = s.decoder) ∧
      Step v (.receive .ok) w ∧ Step w .commitArm (s.afterArm request) := by
  have hbegin := Step.arm s request
  rw [h.beginArm hrequest] at hbegin
  have hlock : s.afterArm request = { s.afterArm request with armer := none } := by
    rw [← h.armer]
    rfl
  rw [hlock]
  have hcommit : ∀ u : State,
      u.armer = some ⟨s.calls.length, request, s.armedSeq + 1, .started s.receives⟩ →
        Step u .commitArm (u.commitArm ⟨s.calls.length, request, s.armedSeq + 1,
          .started s.receives⟩ s.receives) := fun u hu => .commitArm hu rfl
  exact ⟨_, _, _, hbegin, .setPending rfl rfl, ⟨rfl, rfl, rfl⟩, .receive rfl rfl h.inFlight,
    hcommit _ rfl⟩

/-- The section of a call that arms. -/
theorem Quiet.arm (h : Quiet s) (hrequest : request.isAccepted = true) :
    AtomicStep s (s.afterArm request) := by
  obtain ⟨u, v, w, hbegin, hset, -, hreceive, hcommit⟩ := h.arm_steps hrequest
  refine ⟨h.armer, h.armer, .inr ⟨request, u, hbegin, ?_⟩⟩
  refine .head ⟨.setPending, trivial, hset⟩ ?_
  refine .head ⟨.receive .ok, trivial, hreceive⟩ ?_
  exact .single ⟨.commitArm, trivial, hcommit⟩

theorem Quiet.round (h : Quiet s) (hrequest : request.isAccepted = true) (symbolCount : Nat) :
    ReflTransGen AtomicStep s (s.afterRound request symbolCount) :=
  .head (h.arm hrequest) (.single (.single (.receiveDone rfl symbolCount) h.armer h.armer))

theorem Quiet.afterRound (h : Quiet s) : Quiet (s.afterRound request symbolCount) :=
  ⟨h.isStarted, h.armer, rfl, rfl⟩

/-- What a number of rounds does not touch, and the number they reach. -/
structure AfterRounds (s : State) (n : Nat) (u : State) : Prop where
  run : ReflTransGen AtomicStep s u
  quiet : Quiet u
  armedSeq : u.armedSeq = s.armedSeq + UInt32.ofNat n
  decoder : u.decoder = s.decoder
  published : u.published = s.published
  calls : s.calls.length ≤ u.calls.length
  arms : s.arms.length ≤ u.arms.length

theorem AfterRounds.succ {n : Nat} {u : State} (h : AfterRounds s n u)
    (hrequest : request.isAccepted = true) (symbolCount : Nat) :
    AfterRounds s (n + 1) (u.afterRound request symbolCount) := by
  refine ⟨h.run.trans (h.quiet.round hrequest symbolCount), h.quiet.afterRound, ?_, h.decoder,
    h.published, ?_, ?_⟩
  · show u.armedSeq + 1 = _
    rw [h.armedSeq, UInt32.add_assoc, UInt32.ofNat_add]
    rfl
  · show _ ≤ (u.calls ++ [request]).length
    rw [List.length_append]
    exact Nat.le_add_right_of_le h.calls
  · show _ ≤ (u.arms ++ [_]).length
    rw [List.length_append]
    exact Nat.le_add_right_of_le h.arms

/-- Any number of rounds, and what each of them keeps. -/
theorem Quiet.rounds {P : State → Prop} (h : Quiet s) (hrequest : request.isAccepted = true)
    (symbolCount : Nat) (hstep : ∀ u, P u → P (u.afterRound request symbolCount)) (hs : P s)
    (n : Nat) : ∃ u, AfterRounds s n u ∧ P u := by
  induction n with
  | zero =>
      exact ⟨s, ⟨.refl, h, (UInt32.add_zero _).symm, rfl, rfl, Nat.le_refl _, Nat.le_refl _⟩, hs⟩
  | succ n ih =>
      obtain ⟨u, hu, hp⟩ := ih
      exact ⟨_, hu.succ hrequest symbolCount, hstep u hp⟩

/-- After 2^32 rounds the number is the same again; the last of them is shown. -/
theorem Quiet.rounds_wrap {P : State → Prop} (h : Quiet s) (hrequest : request.isAccepted = true)
    (symbolCount : Nat) (hstep : ∀ u, P u → P (u.afterRound request symbolCount)) (hs : P s) :
    ∃ u, AfterRounds s (2 ^ 32 - 1) u ∧ P u ∧
      AfterRounds s (2 ^ 32) (u.afterRound request symbolCount) ∧
      (u.afterRound request symbolCount).armedSeq = s.armedSeq := by
  obtain ⟨u, hu, hp⟩ := h.rounds hrequest symbolCount hstep hs (2 ^ 32 - 1)
  have hlast : AfterRounds s (2 ^ 32) (u.afterRound request symbolCount) :=
    hu.succ hrequest symbolCount
  refine ⟨u, hu, hp, hlast, ?_⟩
  rw [hlast.armedSeq]
  exact UInt32.add_zero _

end Rounds

/-! ## A start -/

/-- After `StartPulseMonitor()`. -/
def startState : State where
  isStarted := true
  armed := ⟨⟨0, 0, 0, 0, 0⟩, [], 0, .send⟩
  armedSeq := 0
  captureSeq := 0
  isReceivePending := false
  symbolBuffer := Vector.replicate _ ⟨0, false, 0, false⟩
  captureQueue := none
  armedSem := false
  armer := none
  decoder := .waitArmed
  inFlight := none
  unpublished := []
  calls := []
  arms := []
  receives := 0
  received := fun _ => none
  settled := []
  published := []

theorem startState_initial : Initial startState :=
  ⟨rfl, rfl, rfl, rfl, rfl, rfl, rfl, rfl, rfl, rfl, rfl, rfl, rfl, rfl, rfl⟩

def sendRequest (submitSeq : UInt32) : ArmRequest :=
  .capture ⟨400, 1250, 800, 1250, 280⟩ submitSeq (List.replicate 18 0)

theorem sendRequest_isAccepted (submitSeq : UInt32) :
    (sendRequest submitSeq).isAccepted = true := rfl

theorem startState_quiet : Quiet startState := ⟨rfl, rfl, rfl, rfl⟩

end StripTuner.PulseMonitor
