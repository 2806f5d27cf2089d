import Mathlib.Data.List.Chain
import Mathlib.Algebra.Ring.Nat
import StripTuner.Lib.Ring

/-!
# The button

`ProcessButtonSample()` of `button.c` with its ring of press starts, and the list specification: all
press starts since the last reset, in times that do not wrap.
-/

namespace StripTuner.Button

open RingBuffer

/-- `FW_UPDATE_GESTURE_PRESSES`. -/
abbrev fwUpdateGesturePresses : Nat := 5

/-- `FW_UPDATE_GESTURE_WINDOW_MS`. -/
def fwUpdateGestureWindowMs : UInt32 := 3000

/-- `BUTTON_HOLD_MS`. -/
def buttonHoldMs : UInt32 := 1000

/-- `button_event_t`. -/
inductive ButtonEvent where
  | none
  | pressStarted
  | holdReached
  | updateGesture
deriving DecidableEq

/-- `button_state_t`. -/
structure ButtonState where
  isPressed : Bool
  isHoldReported : Bool
  pressStartMs : UInt32
  gestureStartsMs : Vector UInt32 fwUpdateGesturePresses
  gestureNext : Fin fwUpdateGesturePresses
  gesturePresses : UInt8
  releaseMs : UInt32
deriving DecidableEq

/-- The state before first use: all zero. -/
def ButtonState.initial : ButtonState :=
  ⟨false, false, 0, Vector.replicate fwUpdateGesturePresses 0, 0, 0, 0⟩

/-- `ResetGesture()`. -/
def resetGesture (state : ButtonState) : ButtonState :=
  { state with gesturePresses := 0, gestureNext := 0 }

/-- `IsGestureComplete()`. -/
def isGestureComplete (state : ButtonState) : Bool :=
  if state.gesturePresses < fwUpdateGesturePresses.toUInt8 then false
  else
    let oldestMs := state.gestureStartsMs.get state.gestureNext
    -- `backSlot next 0` is `(next + 5 - 1) % 5`
    let newestMs := state.gestureStartsMs.get (backSlot state.gestureNext 0)
    newestMs - oldestMs ≤ fwUpdateGestureWindowMs

/-- `ProcessGestureRelease()`. -/
def processGestureRelease (state : ButtonState) (nowMs : UInt32) : ButtonState × ButtonEvent :=
  if state.isPressed then
    let state := { state with releaseMs := nowMs }
    if !state.isHoldReported && isGestureComplete state then (resetGesture state, .updateGesture)
    else (state, .none)
  else if state.gesturePresses > 0 && nowMs - state.releaseMs ≥ fwUpdateGestureWindowMs then
    (resetGesture state, .none)
  else (state, .none)

/-- `CountGesturePress()`. -/
def countGesturePress (state : ButtonState) (nowMs : UInt32) : ButtonState :=
  { state with
    gestureStartsMs := state.gestureStartsMs.set state.gestureNext nowMs
    gestureNext := succSlot state.gestureNext
    gesturePresses :=
      if state.gesturePresses < fwUpdateGesturePresses.toUInt8 then state.gesturePresses + 1
      else state.gesturePresses }

/-- `ProcessButtonSample()`. -/
def processButtonSample (state : ButtonState) (isLow : Bool) (nowMs holdMs : UInt32) :
    ButtonState × ButtonEvent :=
  if !isLow then
    let released := processGestureRelease state nowMs
    ({ released.1 with isPressed := false, isHoldReported := false }, released.2)
  else if !state.isPressed then
    let state := { state with isPressed := true, isHoldReported := false, pressStartMs := nowMs }
    (countGesturePress state nowMs, .pressStarted)
  else if !state.isHoldReported && nowMs - state.pressStartMs ≥ holdMs then
    (resetGesture { state with isHoldReported := true }, .holdReached)
  else (state, .none)

/-- A sample at a time that does not wrap. -/
structure Sample where
  isLow : Bool
  time : Nat
deriving DecidableEq

/-- The task's samples, with the times it sees. -/
def runButton (holdMs : UInt32) (state : ButtonState) : List Sample → List ButtonEvent
  | [] => []
  | sample :: samples =>
    let step := processButtonSample state sample.isLow (UInt32.ofNat sample.time) holdMs
    step.2 :: runButton holdMs step.1 samples

/-! ## The list specification -/

/-- A press that has not been released. -/
structure Press where
  start : Nat
  isHeld : Bool

/-- The press, the starts since the last reset, and the last release. -/
structure Gesture where
  press : Option Press
  starts : List Nat
  release : Nat

def Gesture.initial : Gesture := ⟨none, [], 0⟩

/-- What a sample is reported as, with the presses it is about. -/
inductive GestureEvent where
  | none
  | pressStarted (start : Nat)
  | holdReached (start : Nat)
  | updateGesture (starts : List Nat)
deriving DecidableEq

def GestureEvent.toButtonEvent : GestureEvent → ButtonEvent
  | .none => .none
  | .pressStarted _ => .pressStarted
  | .holdReached _ => .holdReached
  | .updateGesture _ => .updateGesture

/-- The last presses, at most as many as a gesture has. -/
def lastPresses (starts : List Nat) : List Nat := starts.drop (starts.length - fwUpdateGesturePresses)

/-- At least five starts are kept and the last five span at most the window. `elapsed` is the
difference of two times. -/
def isGesture (elapsed : Nat → Nat → Nat) (starts : List Nat) : Bool :=
  fwUpdateGesturePresses ≤ starts.length &&
    elapsed (starts.getLastD 0) ((lastPresses starts).headD 0) ≤ 3000

section Specification

variable (elapsed : Nat → Nat → Nat) (hold : Nat)

/-- One sample of the specification. -/
def Gesture.step (s : Gesture) (sample : Sample) : Gesture × GestureEvent :=
  match sample.isLow, s.press with
  | true, none =>
    (⟨some ⟨sample.time, false⟩, s.starts ++ [sample.time], s.release⟩, .pressStarted sample.time)
  | true, some press =>
    if !press.isHeld && hold ≤ sample.time - press.start then
      (⟨some ⟨press.start, true⟩, [], s.release⟩, .holdReached press.start)
    else (s, .none)
  | false, some press =>
    if !press.isHeld && isGesture elapsed s.starts then
      (⟨none, [], sample.time⟩, .updateGesture (lastPresses s.starts))
    else (⟨none, s.starts, sample.time⟩, .none)
  | false, none =>
    if 3000 ≤ sample.time - s.release then (⟨none, [], s.release⟩, .none) else (s, .none)

/-- The reports for a run of samples. -/
def Gesture.run (s : Gesture) : List Sample → List GestureEvent
  | [] => []
  | sample :: samples => (s.step elapsed hold sample).2 :: (s.step elapsed hold sample).1.run samples

theorem Gesture.step_press {s : Gesture} (h : s.press = none) (time : Nat) :
    s.step elapsed hold ⟨true, time⟩ =
      (⟨some ⟨time, false⟩, s.starts ++ [time], s.release⟩, .pressStarted time) := by
  simp only [Gesture.step, h]

theorem Gesture.step_hold {s : Gesture} {press : Press} (h : s.press = some press) (time : Nat) :
    s.step elapsed hold ⟨true, time⟩ =
      if !press.isHeld && hold ≤ time - press.start then
        (⟨some ⟨press.start, true⟩, [], s.release⟩, .holdReached press.start)
      else (s, .none) := by
  simp only [Gesture.step, h]

theorem Gesture.step_release {s : Gesture} {press : Press} (h : s.press = some press)
    (time : Nat) :
    s.step elapsed hold ⟨false, time⟩ =
      if !press.isHeld && isGesture elapsed s.starts then
        (⟨none, [], time⟩, .updateGesture (lastPresses s.starts))
      else (⟨none, s.starts, time⟩, .none) := by
  simp only [Gesture.step, h]

theorem Gesture.step_idle {s : Gesture} (h : s.press = none) (time : Nat) :
    s.step elapsed hold ⟨false, time⟩ =
      (⟨none, if 3000 ≤ time - s.release then [] else s.starts, s.release⟩, .none) := by
  obtain ⟨press, starts, release⟩ := s
  cases h
  simp only [Gesture.step]
  split <;> rfl

/-- The state after a run of samples. -/
def Gesture.after (s : Gesture) (samples : List Sample) : Gesture :=
  samples.foldl (fun s sample => (s.step elapsed hold sample).1) s

@[simp]
theorem Gesture.after_nil (s : Gesture) : s.after elapsed hold [] = s := rfl

@[simp]
theorem Gesture.after_cons (s : Gesture) (sample : Sample) (samples : List Sample) :
    s.after elapsed hold (sample :: samples) =
      (s.step elapsed hold sample).1.after elapsed hold samples := rfl

theorem Gesture.length_run (s : Gesture) (samples : List Sample) :
    (s.run elapsed hold samples).length = samples.length := by
  induction samples generalizing s with
  | nil => rfl
  | cons sample samples ih => simp [Gesture.run, ih]

theorem Gesture.run_append (s : Gesture) (xs ys : List Sample) :
    s.run elapsed hold (xs ++ ys) =
      s.run elapsed hold xs ++ (s.after elapsed hold xs).run elapsed hold ys := by
  induction xs generalizing s with
  | nil => rfl
  | cons sample xs ih => simp [Gesture.run, ih]

end Specification

/-! ## Refinement -/

/-- Strictly increasing times, each less than `gap` after the one before. -/
def Spaced (gap : Nat) (samples : List Sample) : Prop :=
  samples.IsChain fun a b => a.time < b.time ∧ b.time - a.time < gap

/-- The difference of two times as the code has it. -/
def elapsed32 (b a : Nat) : Nat := (UInt32.ofNat b - UInt32.ofNat a).toNat

theorem elapsed32_eq {a b : Nat} (hle : a ≤ b) (hlt : b - a < 2 ^ 32) :
    elapsed32 b a = b - a := by
  rw [elapsed32, UInt32.toNat_sub, UInt32.toNat_ofNat', UInt32.toNat_ofNat']
  omega

/-- The two states agree. The release time counts only while released with starts kept. -/
structure Refines (state : ButtonState) (s : Gesture) : Prop where
  pressed : state.isPressed = s.press.isSome
  press : ∀ press, s.press = some press →
    state.isHoldReported = press.isHeld ∧ state.pressStartMs = UInt32.ofNat press.start
  starts : Holds state.gestureStartsMs state.gestureNext (s.starts.map UInt32.ofNat)
  presses : state.gesturePresses.toNat = min fwUpdateGesturePresses s.starts.length
  release : s.press = none → s.starts ≠ [] → state.releaseMs = UInt32.ofNat s.release

/-- The times the state compares with the next one are close enough not to wrap. -/
structure Ready (s : Gesture) (time : Nat) : Prop where
  press : ∀ press, s.press = some press →
    press.start ≤ time ∧ (press.isHeld = false → time - press.start < 2 ^ 32)
  release : s.press = none → s.starts ≠ [] → s.release ≤ time ∧ time - s.release < 2 ^ 32

theorem refines_initial : Refines .initial .initial where
  pressed := rfl
  press _ hpress := by cases hpress
  starts := holds_nil _ _
  presses := rfl
  release _ hstarts := absurd rfl hstarts

theorem ready_initial (time : Nat) : Ready .initial time where
  press _ hpress := by cases hpress
  release _ hstarts := absurd rfl hstarts

/-! ### The window of the last presses -/

/-- The count saturates at the ring's slots. -/
theorem toNat_countPresses {presses : UInt8} {n : Nat}
    (h : presses.toNat = min fwUpdateGesturePresses n) :
    (if presses < fwUpdateGesturePresses.toUInt8 then presses + 1 else presses).toNat =
      min fwUpdateGesturePresses (n + 1) := by
  have hfive : fwUpdateGesturePresses.toUInt8.toNat = 5 := by decide
  by_cases hlt : presses < fwUpdateGesturePresses.toUInt8
  · rw [UInt8.lt_iff_toNat_lt, hfive] at hlt
    rw [if_pos (by rwa [UInt8.lt_iff_toNat_lt, hfive]), UInt8.toNat_add, UInt8.toNat_one]
    simp only [fwUpdateGesturePresses] at h ⊢
    omega
  · rw [if_neg hlt, h]
    rw [UInt8.lt_iff_toNat_lt, hfive] at hlt
    simp only [fwUpdateGesturePresses] at h ⊢
    omega

/-- The first of the last five starts is the fifth from the end. -/
theorem headD_lastPresses {starts : List Nat} (h : fwUpdateGesturePresses ≤ starts.length) :
    starts.reverse[fwUpdateGesturePresses - 1]? = some ((lastPresses starts).headD 0) := by
  have hlt : starts.length - fwUpdateGesturePresses < starts.length := by
    simp only [fwUpdateGesturePresses] at h ⊢
    omega
  rw [List.getElem?_reverse (by simp only [fwUpdateGesturePresses] at h ⊢; omega), lastPresses,
    List.headD_eq_head?_getD, List.head?_drop, List.getElem?_eq_getElem hlt, Option.getD_some,
    Nat.sub_sub, Nat.add_comm 1]
  exact List.getElem?_eq_getElem hlt

theorem getLast?_eq_getLastD {starts : List Nat} (h : starts ≠ []) :
    starts.getLast? = some (starts.getLastD 0) := by
  rw [List.getLastD_eq_getLast?, List.getLast?_eq_some_getLast h, Option.getD_some]

/-- The ring's two slots are the window's two ends. -/
theorem isGestureComplete_eq {state : ButtonState} {starts : List Nat}
    (hstarts : Holds state.gestureStartsMs state.gestureNext (starts.map UInt32.ofNat))
    (hpresses : state.gesturePresses.toNat = min fwUpdateGesturePresses starts.length) :
    isGestureComplete state = isGesture elapsed32 starts := by
  have hfive : fwUpdateGesturePresses.toUInt8.toNat = 5 := by decide
  have hwindow : fwUpdateGestureWindowMs.toNat = 3000 := by decide
  by_cases hfull : fwUpdateGesturePresses ≤ starts.length
  · have hne : starts ≠ [] := by
      intro hnil
      simp [hnil] at hfull
    have holdest : state.gestureStartsMs.get state.gestureNext =
        UInt32.ofNat ((lastPresses starts).headD 0) := by
      apply hstarts.oldest
      rw [← List.map_reverse, List.getElem?_map, headD_lastPresses hfull, Option.map_some]
    have hnewest : state.gestureStartsMs.get (backSlot state.gestureNext 0) =
        UInt32.ofNat (starts.getLastD 0) := by
      apply hstarts.newest
      rw [List.getLast?_map, getLast?_eq_getLastD hne, Option.map_some]
    have hnot : ¬ state.gesturePresses < fwUpdateGesturePresses.toUInt8 := by
      rw [UInt8.lt_iff_toNat_lt, hfive, hpresses, Nat.min_eq_left hfull]
      decide
    rw [isGestureComplete, if_neg hnot, isGesture, decide_eq_true hfull, Bool.true_and]
    apply decide_eq_decide.2
    rw [holdest, hnewest, UInt32.le_iff_toNat_le, hwindow, elapsed32]
  · have hlt : state.gesturePresses < fwUpdateGesturePresses.toUInt8 := by
      rw [UInt8.lt_iff_toNat_lt, hfive, hpresses]
      simp only [fwUpdateGesturePresses] at hfull ⊢
      omega
    rw [isGestureComplete, if_pos hlt, isGesture, decide_eq_false hfull, Bool.false_and]

/-! ### One sample -/

section Step

variable {state : ButtonState} {s : Gesture} {holdMs : UInt32} {time : Nat}

/-- What one sample does to both sides. -/
def StepAgrees (holdMs : UInt32) (state : ButtonState) (s : Gesture) (sample : Sample) : Prop :=
  let code := processButtonSample state sample.isLow (UInt32.ofNat sample.time) holdMs
  let spec := s.step elapsed32 holdMs.toNat sample
  code.2 = spec.2.toButtonEvent ∧ Refines code.1 spec.1

/-- The first low sample starts a press. -/
theorem stepAgrees_press (h : Refines state s) (hpress : s.press = none) :
    StepAgrees holdMs state s ⟨true, time⟩ := by
  have hpressed : state.isPressed = false := by rw [h.pressed, hpress]; rfl
  have hcode : processButtonSample state true (UInt32.ofNat time) holdMs =
      (countGesturePress { state with
        isPressed := true, isHoldReported := false, pressStartMs := UInt32.ofNat time }
        (UInt32.ofNat time), .pressStarted) := by
    simp [processButtonSample, hpressed]
  simp only [StepAgrees, hcode, Gesture.step_press elapsed32 _ hpress]
  constructor
  · rfl
  · constructor
    · simp [countGesturePress]
    · intro press hsome
      cases hsome
      exact ⟨rfl, rfl⟩
    · rw [List.map_append]
      exact h.starts.push (UInt32.ofNat time)
    · rw [List.length_append]
      exact toNat_countPresses h.presses
    · intro hnone
      cases hnone

/-- A later low sample can only reach the hold. -/
theorem stepAgrees_hold (h : Refines state s) (hready : Ready s time) {press : Press}
    (hpress : s.press = some press) : StepAgrees holdMs state s ⟨true, time⟩ := by
  obtain ⟨hheld, hstart⟩ := h.press press hpress
  obtain ⟨hle, hclose⟩ := hready.press press hpress
  have hpressed : state.isPressed = true := by rw [h.pressed, hpress]; rfl
  by_cases hreach : press.isHeld = false ∧ holdMs.toNat ≤ time - press.start
  · obtain ⟨hnot, hreach⟩ := hreach
    have hdiff := elapsed32_eq hle (hclose hnot)
    have hge : holdMs ≤ UInt32.ofNat time - state.pressStartMs := by
      rw [UInt32.le_iff_toNat_le, hstart]
      rw [elapsed32] at hdiff
      rwa [hdiff]
    have hcode : processButtonSample state true (UInt32.ofNat time) holdMs =
        (resetGesture { state with isHoldReported := true }, .holdReached) := by
      simp [processButtonSample, hpressed, hheld, hnot, hge]
    have hspec : s.step elapsed32 holdMs.toNat ⟨true, time⟩ =
        (⟨some ⟨press.start, true⟩, [], s.release⟩, .holdReached press.start) := by
      rw [Gesture.step_hold elapsed32 _ hpress, if_pos (by simp [hnot, hreach])]
    simp only [StepAgrees, hcode, hspec]
    constructor
    · rfl
    · constructor
      · simp [resetGesture, hpressed]
      · intro other hsome
        cases hsome
        exact ⟨rfl, hstart⟩
      · exact holds_nil _ _
      · rfl
      · intro hnone
        cases hnone
  · have hlate : ¬ (state.isHoldReported = false ∧
        holdMs ≤ UInt32.ofNat time - state.pressStartMs) := by
      intro hand
      rw [hheld, hstart, UInt32.le_iff_toNat_le] at hand
      have hdiff := elapsed32_eq hle (hclose hand.1)
      rw [elapsed32] at hdiff
      rw [hdiff] at hand
      exact hreach hand
    have hcode : processButtonSample state true (UInt32.ofNat time) holdMs = (state, .none) := by
      simp only [processButtonSample, hpressed]
      simpa using hlate
    have hspec : s.step elapsed32 holdMs.toNat ⟨true, time⟩ = (s, .none) := by
      rw [Gesture.step_hold elapsed32 _ hpress, if_neg (by simpa using hreach)]
    simp only [StepAgrees, hcode, hspec]
    exact ⟨by decide, h⟩

theorem processButtonSample_high (nowMs : UInt32) :
    processButtonSample state false nowMs holdMs =
      ({ (processGestureRelease state nowMs).1 with isPressed := false, isHoldReported := false },
        (processGestureRelease state nowMs).2) := rfl

/-- The release edge looks at the starts with the release time noted. -/
theorem processGestureRelease_of_pressed (hpressed : state.isPressed = true) (nowMs : UInt32) :
    processGestureRelease state nowMs =
      if !state.isHoldReported && isGestureComplete { state with releaseMs := nowMs } then
        (resetGesture { state with releaseMs := nowMs }, .updateGesture)
      else ({ state with releaseMs := nowMs }, .none) :=
  if_pos hpressed

/-- The first high sample is the release, where a gesture is recognized. -/
theorem stepAgrees_release (h : Refines state s) {press : Press} (hpress : s.press = some press) :
    StepAgrees holdMs state s ⟨false, time⟩ := by
  obtain ⟨hheld, -⟩ := h.press press hpress
  have hpressed : state.isPressed = true := by rw [h.pressed, hpress]; rfl
  have hcomplete : isGestureComplete { state with releaseMs := UInt32.ofNat time } =
      isGesture elapsed32 s.starts := isGestureComplete_eq h.starts h.presses
  by_cases hgesture : press.isHeld = false ∧ isGesture elapsed32 s.starts = true
  · obtain ⟨hnot, hgesture⟩ := hgesture
    have hcode : processButtonSample state false (UInt32.ofNat time) holdMs =
        ({ resetGesture { state with releaseMs := UInt32.ofNat time } with
            isPressed := false, isHoldReported := false }, .updateGesture) := by
      rw [processButtonSample_high, processGestureRelease_of_pressed hpressed, hcomplete,
        hheld, hnot, hgesture, if_pos (by decide)]
    have hspec : s.step elapsed32 holdMs.toNat ⟨false, time⟩ =
        (⟨none, [], time⟩, .updateGesture (lastPresses s.starts)) := by
      rw [Gesture.step_release elapsed32 _ hpress, if_pos (by simp [hnot, hgesture])]
    simp only [StepAgrees, hcode, hspec]
    constructor
    · rfl
    · constructor
      · rfl
      · intro other hsome
        cases hsome
      · exact holds_nil _ _
      · rfl
      · intro _ hne
        exact absurd rfl hne
  · have hcode : processButtonSample state false (UInt32.ofNat time) holdMs =
        ({ state with
            releaseMs := UInt32.ofNat time, isPressed := false, isHoldReported := false },
          .none) := by
      rw [processButtonSample_high, processGestureRelease_of_pressed hpressed, hcomplete,
        hheld, if_neg (by simpa using hgesture)]
    have hspec : s.step elapsed32 holdMs.toNat ⟨false, time⟩ =
        (⟨none, s.starts, time⟩, .none) := by
      rw [Gesture.step_release elapsed32 _ hpress, if_neg (by simpa using hgesture)]
    simp only [StepAgrees, hcode, hspec]
    constructor
    · rfl
    · constructor
      · rfl
      · intro other hsome
        cases hsome
      · exact h.starts
      · exact h.presses
      · intro _ _
        rfl

/-- A later high sample drops the starts when the window after the release is over. -/
theorem stepAgrees_idle (h : Refines state s) (hready : Ready s time) (hpress : s.press = none) :
    StepAgrees holdMs state s ⟨false, time⟩ := by
  have hwindow : fwUpdateGestureWindowMs.toNat = 3000 := by decide
  have hpressed : state.isPressed = false := by rw [h.pressed, hpress]; rfl
  have hcount : 0 < state.gesturePresses ↔ s.starts ≠ [] := by
    rw [UInt8.lt_iff_toNat_lt, h.presses, UInt8.toNat_zero, ← List.length_pos_iff]
    simp only [fwUpdateGesturePresses]
    omega
  have hover (hne : s.starts ≠ []) :
      fwUpdateGestureWindowMs ≤ UInt32.ofNat time - state.releaseMs ↔ 3000 ≤ time - s.release := by
    obtain ⟨hle, hlt⟩ := hready.release hpress hne
    have hdiff := elapsed32_eq hle hlt
    rw [elapsed32] at hdiff
    rw [UInt32.le_iff_toNat_le, h.release hpress hne, hwindow, hdiff]
  have hnone (starts : List Nat) (release : Nat) :
      ∀ press, (⟨none, starts, release⟩ : Gesture).press = some press →
        false = press.isHeld ∧ state.pressStartMs = UInt32.ofNat press.start := by
    intro press hsome
    cases hsome
  by_cases hreset : s.starts ≠ [] ∧ 3000 ≤ time - s.release
  · obtain ⟨hne, hlate⟩ := hreset
    have hcode : processButtonSample state false (UInt32.ofNat time) holdMs =
        ({ resetGesture state with isPressed := false, isHoldReported := false }, .none) := by
      simp [processButtonSample_high, processGestureRelease, hpressed, hcount.2 hne,
        (hover hne).2 hlate]
    simp only [StepAgrees, hcode, Gesture.step_idle elapsed32 _ hpress, if_pos hlate]
    constructor
    · rfl
    · constructor
      · rfl
      · exact hnone [] s.release
      · exact holds_nil _ _
      · rfl
      · intro _ hne'
        exact absurd rfl hne'
  · have hkept : ¬ (0 < state.gesturePresses ∧
        fwUpdateGestureWindowMs ≤ UInt32.ofNat time - state.releaseMs) := by
      intro hand
      have hne := hcount.1 hand.1
      exact hreset ⟨hne, (hover hne).1 hand.2⟩
    have hcode : processButtonSample state false (UInt32.ofNat time) holdMs =
        ({ state with isPressed := false, isHoldReported := false }, .none) := by
      rw [processButtonSample_high, processGestureRelease, hpressed, if_neg (by decide),
        if_neg (by simpa using hkept)]
    have hstarts : (if 3000 ≤ time - s.release then [] else s.starts) = s.starts := by
      by_cases hlate : 3000 ≤ time - s.release
      · rw [if_pos hlate]
        by_contra hne
        exact hreset ⟨Ne.symm hne, hlate⟩
      · rw [if_neg hlate]
    simp only [StepAgrees, hcode, Gesture.step_idle elapsed32 _ hpress, hstarts]
    constructor
    · rfl
    · constructor
      · rfl
      · exact hnone s.starts s.release
      · exact h.starts
      · exact h.presses
      · intro _ hne
        exact h.release hpress hne

theorem stepAgrees (h : Refines state s) {sample : Sample} (hready : Ready s sample.time) :
    StepAgrees holdMs state s sample := by
  obtain ⟨isLow, time⟩ := sample
  cases isLow <;> cases hpress : s.press
  · exact stepAgrees_idle h hready hpress
  · exact stepAgrees_release h hpress
  · exact stepAgrees_press h hpress
  · exact stepAgrees_hold h hready hpress

/-- The compared times stay close when the next sample is less than half the range away. -/
theorem Ready.step {elapsed : Nat → Nat → Nat} {hold next : Nat} {sample : Sample}
    (h : Ready s sample.time) (hhold : hold ≤ 2 ^ 31) (hlt : sample.time < next)
    (hnext : next - sample.time < 2 ^ 31) : Ready (s.step elapsed hold sample).1 next := by
  obtain ⟨isLow, time⟩ := sample
  dsimp only at h hlt hnext
  cases isLow <;> cases hpress : s.press
  case true.none =>
    rw [Gesture.step_press elapsed hold hpress]
    constructor
    · intro press hsome
      cases hsome
      dsimp only
      omega
    · intro hnone
      cases hnone
  case true.some press =>
    have hbefore := h.press press hpress
    rw [Gesture.step_hold elapsed hold hpress]
    by_cases hreach : (!press.isHeld && decide (hold ≤ time - press.start)) = true
    · rw [if_pos hreach]
      constructor
      · intro other hsome
        cases hsome
        exact ⟨by dsimp only; omega, fun hnot => by cases hnot⟩
      · intro hnone
        cases hnone
    · rw [if_neg hreach]
      constructor
      · intro other hsome
        rw [hpress] at hsome
        cases hsome
        refine ⟨by omega, fun hnot => ?_⟩
        simp only [hnot, Bool.not_false, Bool.true_and, decide_eq_true_eq] at hreach
        omega
      · intro hnone
        rw [hpress] at hnone
        cases hnone
  case false.some press =>
    rw [Gesture.step_release elapsed hold hpress]
    have hreleased (starts : List Nat) : Ready ⟨none, starts, time⟩ next := by
      constructor
      · intro other hsome
        cases hsome
      · intro _ _
        dsimp only
        omega
    split
    · exact hreleased []
    · exact hreleased s.starts
  case false.none =>
    rw [Gesture.step_idle elapsed hold hpress]
    constructor
    · intro other hsome
      cases hsome
    · intro _ hne
      dsimp only at hne ⊢
      by_cases hlate : 3000 ≤ time - s.release
      · exact absurd (if_pos hlate) hne
      · rw [if_neg hlate] at hne
        have hbefore := h.release hpress hne
        omega

/-- The run of the code is the run of the specification. -/
theorem runButton_eq (h : Refines state s) (hhold : holdMs.toNat ≤ 2 ^ 31) {samples : List Sample}
    (hready : ∀ first ∈ samples.head?, Ready s first.time) (hspaced : Spaced (2 ^ 31) samples) :
    runButton holdMs state samples =
      (s.run elapsed32 holdMs.toNat samples).map GestureEvent.toButtonEvent := by
  induction samples generalizing state s with
  | nil => rfl
  | cons sample samples ih =>
      obtain ⟨hevent, hrefines⟩ := stepAgrees h (hready sample rfl)
      obtain ⟨hnext, hrest⟩ := List.isChain_cons.1 hspaced
      have hlater : ∀ first ∈ samples.head?,
          Ready (s.step elapsed32 holdMs.toNat sample).1 first.time := by
        intro first hfirst
        obtain ⟨hlt, hgap⟩ := hnext first hfirst
        exact (hready sample rfl).step hhold hlt hgap
      rw [runButton, Gesture.run, List.map_cons, ← hevent, ih hrefines hlater hrest]

end Step

end StripTuner.Button
