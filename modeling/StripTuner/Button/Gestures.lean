import StripTuner.Button.Sampling

/-!
# Gestures

What the refinement gives for the presses: none is used twice, five quick ones are recognized, and
samples that come often enough make the wrapping difference of the window the true one.
-/

namespace StripTuner.Button

section Presses

variable (elapsed : Nat → Nat → Nat) (hold : Nat) {s : Gesture}

/-! ### No press is used twice -/

/-- The press starts that an event uses up. -/
def GestureEvent.uses : GestureEvent → List Nat
  | .none => []
  | .pressStarted _ => []
  | .holdReached start => [start]
  | .updateGesture starts => starts

/-- The unreleased press is the last start kept until its hold is reported. -/
structure Coherent (s : Gesture) : Prop where
  press : ∀ press, s.press = some press → press.isHeld = false →
    s.starts.getLast? = some press.start
  held : ∀ press, s.press = some press → press.isHeld = true → s.starts = []

theorem coherent_initial : Coherent .initial where
  press _ hpress := by cases hpress
  held _ hpress := by cases hpress

theorem coherent_released (starts : List Nat) (release : Nat) :
    Coherent ⟨none, starts, release⟩ where
  press _ hpress := by cases hpress
  held _ hpress := by cases hpress

theorem Coherent.step (h : Coherent s) (sample : Sample) :
    Coherent (s.step elapsed hold sample).1 := by
  obtain ⟨isLow, time⟩ := sample
  cases isLow <;> cases hpress : s.press
  case true.none =>
    rw [Gesture.step_press elapsed hold hpress]
    constructor
    · intro press hsome _
      cases hsome
      exact List.getLast?_concat
    · intro press hsome hheld
      cases hsome
      cases hheld
  case true.some press =>
    rw [Gesture.step_hold elapsed hold hpress]
    split
    · constructor
      · intro other hsome hnot
        cases hsome
        cases hnot
      · intro other hsome _
        rfl
    · exact h
  case false.some press =>
    rw [Gesture.step_release elapsed hold hpress]
    split
    · exact coherent_released [] time
    · exact coherent_released s.starts time
  case false.none =>
    rw [Gesture.step_idle elapsed hold hpress]
    exact coherent_released _ s.release

/-- What is used and what is kept comes from what was kept and the sample's own time. -/
theorem Coherent.step_uses (h : Coherent s) (sample : Sample) :
    ((s.step elapsed hold sample).2.uses ++ (s.step elapsed hold sample).1.starts).Sublist
      (s.starts ++ [sample.time]) := by
  obtain ⟨isLow, time⟩ := sample
  have hkept : s.starts.Sublist (s.starts ++ [time]) := List.sublist_append_left _ _
  cases isLow <;> cases hpress : s.press
  case true.none =>
    rw [Gesture.step_press elapsed hold hpress]
    exact List.Sublist.refl _
  case true.some press =>
    rw [Gesture.step_hold elapsed hold hpress]
    by_cases hreach : (!press.isHeld && decide (hold ≤ time - press.start)) = true
    · have hnot : press.isHeld = false := by
        rw [Bool.and_eq_true, Bool.not_eq_true'] at hreach
        exact hreach.1
      have hmem := List.mem_of_getLast? (h.press press hpress hnot)
      rw [if_pos hreach]
      exact (List.singleton_sublist.2 hmem).trans hkept
    · rw [if_neg hreach]
      exact hkept
  case false.some press =>
    rw [Gesture.step_release elapsed hold hpress]
    split
    · rw [GestureEvent.uses, List.append_nil]
      exact (List.drop_sublist _ _).trans hkept
    · exact hkept
  case false.none =>
    rw [Gesture.step_idle elapsed hold hpress]
    split
    · exact List.nil_sublist _
    · exact hkept

/-- Over a run, what is used comes from what was kept and the times of the samples, in order. -/
theorem Coherent.run_uses (h : Coherent s) (samples : List Sample) :
    ((s.run elapsed hold samples).flatMap GestureEvent.uses).Sublist
      (s.starts ++ samples.map Sample.time) := by
  induction samples generalizing s with
  | nil => exact List.nil_sublist _
  | cons sample samples ih =>
      have hstep := h.step_uses elapsed hold sample
      have hrest := ih (h.step elapsed hold sample)
      have hboth := hstep.append (List.Sublist.refl (samples.map Sample.time))
      rw [List.append_assoc, List.append_assoc, List.singleton_append] at hboth
      rw [Gesture.run, List.flatMap_cons, List.map_cons]
      exact ((List.Sublist.refl _).append hrest).trans hboth

/-! ### Five quick presses -/

/-- The samples of one press: the first low one, the later ones, the release, the later ones. -/
structure PressRun where
  start : Nat
  lows : List Nat
  release : Nat
  highs : List Nat

def PressRun.pressed (press : PressRun) : List Sample :=
  ⟨true, press.start⟩ :: press.lows.map (⟨true, ·⟩)

def PressRun.samples (press : PressRun) : List Sample :=
  press.pressed ++ ⟨false, press.release⟩ :: press.highs.map (⟨false, ·⟩)

/-- The press never reaches the hold threshold. -/
def PressRun.IsShort (hold : Nat) (press : PressRun) : Prop :=
  ∀ time ∈ press.lows, time - press.start < hold

theorem Gesture.after_append (xs ys : List Sample) :
    s.after elapsed hold (xs ++ ys) = (s.after elapsed hold xs).after elapsed hold ys :=
  List.foldl_append

/-- The event of one sample of a run. -/
theorem Gesture.run_getElem? (xs ys : List Sample) (sample : Sample) :
    (s.run elapsed hold (xs ++ sample :: ys))[xs.length]? =
      some ((s.after elapsed hold xs).step elapsed hold sample).2 := by
  rw [Gesture.run_append, List.getElem?_append_right (by rw [Gesture.length_run]),
    Gesture.length_run, Nat.sub_self, Gesture.run, List.getElem?_cons_zero]

theorem Gesture.after_lows {start : Nat} {lows : List Nat} (hpress : s.press = some ⟨start, false⟩)
    (hshort : ∀ time ∈ lows, time - start < hold) :
    s.after elapsed hold (lows.map (⟨true, ·⟩)) = s := by
  induction lows with
  | nil => rfl
  | cons time lows ih =>
      have hlow := hshort time List.mem_cons_self
      have hnot : ¬ (!false && decide (hold ≤ time - start)) = true := by simpa using hlow
      rw [List.map_cons, Gesture.after_cons, Gesture.step_hold elapsed hold hpress, if_neg hnot]
      exact ih fun later hlater => hshort later (List.mem_cons_of_mem time hlater)

theorem Gesture.after_highs {highs : List Nat} (hpress : s.press = none)
    (hearly : ∀ time ∈ highs, time - s.release < 3000) :
    s.after elapsed hold (highs.map (⟨false, ·⟩)) = s := by
  induction highs with
  | nil => rfl
  | cons time highs ih =>
      have hhigh := hearly time List.mem_cons_self
      have hstep : (s.step elapsed hold ⟨false, time⟩).1 = s := by
        obtain ⟨press, starts, release⟩ := s
        cases hpress
        rw [Gesture.step_idle elapsed hold rfl, if_neg (Nat.not_le.2 hhigh)]
      rw [List.map_cons, Gesture.after_cons, hstep]
      exact ih fun later hlater => hearly later (List.mem_cons_of_mem time hlater)

theorem Gesture.after_pressed (hpress : s.press = none) {press : PressRun}
    (hshort : press.IsShort hold) :
    s.after elapsed hold press.pressed =
      ⟨some ⟨press.start, false⟩, s.starts ++ [press.start], s.release⟩ := by
  rw [PressRun.pressed, Gesture.after_cons, Gesture.step_press elapsed hold hpress]
  exact Gesture.after_lows elapsed hold rfl hshort

theorem PressRun.mem_samples {press : PressRun} {sample : Sample} :
    sample ∈ press.samples ↔ sample = ⟨true, press.start⟩ ∨
      sample ∈ press.lows.map (⟨true, ·⟩) ∨ sample = ⟨false, press.release⟩ ∨
        sample ∈ press.highs.map (⟨false, ·⟩) := by
  simp [PressRun.samples, PressRun.pressed]

/-- In time order, each press is released after it starts and the next starts later still. -/
theorem PressRun.start_lt_release {press : PressRun}
    (h : press.samples.Pairwise (·.time < ·.time)) : press.start < press.release := by
  rw [PressRun.samples, PressRun.pressed, List.cons_append, List.pairwise_cons] at h
  exact h.1 ⟨false, press.release⟩ (by simp)

/-- Once the starts kept together with those of the presses make a gesture, one of the presses is
released with it. -/
theorem exists_gesture (hnone : s.press = none) {presses : List PressRun} (hne : presses ≠ [])
    (hsorted : (presses.flatMap PressRun.samples).Pairwise (·.time < ·.time))
    (hshort : ∀ press ∈ presses, press.IsShort hold)
    (hclose : ∀ press ∈ presses, ∀ later ∈ presses, later.start ≤ press.start + 3000)
    (hgesture : isGesture elapsed (s.starts ++ presses.map PressRun.start) = true) :
    ∃ done press rest, presses = done ++ press :: rest ∧
      (((s.after elapsed hold (done.flatMap PressRun.samples ++ press.pressed)).step elapsed hold
        ⟨false, press.release⟩).2).toButtonEvent = .updateGesture := by
  induction presses generalizing s with
  | nil => exact absurd rfl hne
  | cons press presses ih =>
      have hafter := Gesture.after_pressed elapsed hold hnone (hshort press List.mem_cons_self)
      by_cases hnow : isGesture elapsed (s.starts ++ [press.start]) = true
      · refine ⟨[], press, presses, rfl, ?_⟩
        rw [List.flatMap_nil, List.nil_append, hafter, Gesture.step_release elapsed hold rfl,
          if_pos (by simpa using hnow)]
        rfl
      · have hmore : presses ≠ [] := by
          intro hnil
          rw [hnil] at hgesture
          exact hnow hgesture
        rw [List.flatMap_cons, List.pairwise_append] at hsorted
        obtain ⟨hfirst, hrest, hcross⟩ := hsorted
        let next : Gesture := ⟨none, s.starts ++ [press.start], press.release⟩
        have hreleased : (s.after elapsed hold press.pressed).step elapsed hold
            ⟨false, press.release⟩ = (next, .none) := by
          rw [hafter, Gesture.step_release elapsed hold rfl, if_neg (by simpa using hnow)]
        have hsamples : s.after elapsed hold press.samples = next := by
          rw [PressRun.samples, Gesture.after_append, Gesture.after_cons, hreleased]
          apply Gesture.after_highs elapsed hold rfl
          intro time htime
          obtain ⟨later, hlater⟩ := List.exists_mem_of_ne_nil presses hmore
          have hstart := hclose press List.mem_cons_self later (List.mem_cons_of_mem press hlater)
          have hlt := hcross ⟨false, time⟩
            (PressRun.mem_samples.2 (by simp [htime])) ⟨true, later.start⟩
            (List.mem_flatMap_of_mem hlater (PressRun.mem_samples.2 (by simp)))
          have hrelease := PressRun.start_lt_release hfirst
          dsimp only at hlt
          show time - press.release < 3000
          omega
        obtain ⟨done, last, rest, hpresses, hevent⟩ := ih (s := next) rfl hmore hrest
          (fun p hp => hshort p (List.mem_cons_of_mem press hp))
          (fun p hp q hq =>
            hclose p (List.mem_cons_of_mem press hp) q (List.mem_cons_of_mem press hq))
          (by rwa [List.append_assoc, List.singleton_append])
        refine ⟨press :: done, last, rest, by rw [hpresses, List.cons_append], ?_⟩
        rwa [List.flatMap_cons, List.append_assoc, Gesture.after_append, hsamples]

/-- Five presses whose starts lie in the window are a gesture, whatever was kept before. -/
theorem isGesture_append {starts kept : List Nat} (hlength : starts.length = fwUpdateGesturePresses)
    (hsorted : starts.Pairwise (· < ·))
    (hclose : ∀ a ∈ starts, ∀ b ∈ starts, a ≤ b → elapsed b a ≤ 3000) :
    isGesture elapsed (kept ++ starts) = true := by
  obtain ⟨first, rest, rfl⟩ := List.exists_cons_of_length_eq_add_one hlength
  have hlast : lastPresses (kept ++ first :: rest) = first :: rest := by
    rw [lastPresses, List.length_append, hlength, Nat.add_sub_cancel, List.drop_left]
  have hend : (kept ++ first :: rest).getLastD 0 = (first :: rest).getLastD 0 := by
    rw [List.getLastD_eq_getLast?, List.getLastD_eq_getLast?,
      List.getLast?_append_of_ne_nil kept (List.cons_ne_nil first rest)]
  have hmem : (first :: rest).getLastD 0 ∈ first :: rest := by
    rw [List.getLastD_cons]
    exact List.getLastD_mem_cons
  have hle : first ≤ (first :: rest).getLastD 0 := by
    cases List.mem_cons.1 hmem with
    | inl heq => exact Nat.le_of_eq heq.symm
    | inr hrest => exact Nat.le_of_lt ((List.pairwise_cons.1 hsorted).1 _ hrest)
  have hspan := hclose first List.mem_cons_self _ hmem hle
  rw [isGesture, hlast, hend, List.headD_cons, decide_eq_true hspan, Bool.and_true,
    List.length_append, hlength]
  simp

end Presses

/-! ### Samples that come often -/

section Often

variable {hold gap : Nat} {s : Gesture}

/-- The difference of two times. -/
def elapsedMs (b a : Nat) : Nat := b - a

/-- Before a sample at `time`: the starts kept follow each other closely, and so does `time`. -/
structure Dense (hold gap : Nat) (s : Gesture) (time : Nat) : Prop where
  starts : s.starts.IsChain fun a b => a < b ∧ b - a < hold + 3000 + 2 * gap
  press : ∀ press, s.press = some press → press.isHeld = false →
    press.start < time ∧ time - press.start < hold + gap
  release : s.press = none → ∀ last ∈ s.starts.getLast?,
    last < s.release ∧ s.release - last < hold + gap ∧
      s.release < time ∧ time - s.release < 3000 + gap

theorem dense_initial (hold gap time : Nat) : Dense hold gap .initial time where
  starts := List.isChain_nil
  press _ hpress := by cases hpress
  release _ last hlast := by cases hlast

theorem Dense.step {elapsed : Nat → Nat → Nat} {sample : Sample} {next : Nat}
    (h : Dense hold gap s sample.time) (hcoherent : Coherent s) (hlt : sample.time < next)
    (hnext : next - sample.time < gap) : Dense hold gap (s.step elapsed hold sample).1 next := by
  obtain ⟨isLow, time⟩ := sample
  dsimp only at h hlt hnext
  have hforgotten (press : Option Press) (release : Nat) (hheld : ∀ p, press = some p → p.isHeld) :
      Dense hold gap ⟨press, [], release⟩ next := by
    constructor
    · exact List.isChain_nil
    · intro p hsome hnot
      rw [hheld p hsome] at hnot
      cases hnot
    · intro _ last hlast
      cases hlast
  cases isLow <;> cases hpress : s.press
  case true.none =>
    rw [Gesture.step_press elapsed hold hpress]
    constructor
    · apply List.isChain_append.2
      refine ⟨h.starts, List.isChain_singleton time, fun last hlast start hstart => ?_⟩
      cases hstart
      have hbefore := h.release hpress last hlast
      omega
    · intro press hsome _
      cases hsome
      dsimp only
      omega
    · intro hnone
      cases hnone
  case true.some press =>
    rw [Gesture.step_hold elapsed hold hpress]
    by_cases hreach : (!press.isHeld && decide (hold ≤ time - press.start)) = true
    · rw [if_pos hreach]
      apply hforgotten
      intro p hsome
      cases hsome
      rfl
    · rw [if_neg hreach]
      constructor
      · exact h.starts
      · intro other hsome hnot
        rw [hpress] at hsome
        cases hsome
        have hbefore := h.press press hpress hnot
        rw [hnot, Bool.not_false, Bool.true_and, decide_eq_true_eq] at hreach
        omega
      · intro hnone
        rw [hpress] at hnone
        cases hnone
  case false.some press =>
    rw [Gesture.step_release elapsed hold hpress]
    split
    · exact hforgotten none time fun p hsome => by cases hsome
    · constructor
      · exact h.starts
      · intro other hsome
        cases hsome
      · intro _ last hlast
        dsimp only at hlast ⊢
        cases hheld : press.isHeld with
        | true =>
            rw [hcoherent.held press hpress hheld] at hlast
            cases hlast
        | false =>
            rw [hcoherent.press press hpress hheld] at hlast
            cases hlast
            have hbefore := h.press press hpress hheld
            omega
  case false.none =>
    rw [Gesture.step_idle elapsed hold hpress]
    by_cases hlate : 3000 ≤ time - s.release
    · rw [if_pos hlate]
      exact hforgotten none s.release fun p hsome => by cases hsome
    · rw [if_neg hlate]
      constructor
      · exact h.starts
      · intro other hsome
        cases hsome
      · intro _ last hlast
        have hbefore := h.release hpress last hlast
        dsimp only
        omega

/-- A chain of steps below `d` spans less than `d` for each. -/
theorem getLastD_le_of_isChain {d first : Nat} {rest : List Nat}
    (h : (first :: rest).IsChain fun a b => a < b ∧ b - a < d) :
    first ≤ rest.getLastD first ∧ rest.getLastD first ≤ first + rest.length * d := by
  induction rest generalizing first with
  | nil => simp
  | cons next rest ih =>
      obtain ⟨hstep, hrest⟩ := List.isChain_cons_cons.1 h
      have hspan := ih hrest
      rw [List.getLastD_cons, List.length_cons, Nat.add_mul, Nat.one_mul]
      omega

/-- Among close starts the wrapping difference of the window is the true one. -/
theorem Dense.isGesture_eq {time : Nat} (h : Dense hold gap s time)
    (hfit : 4 * (hold + 3000 + 2 * gap) < 2 ^ 32) :
    isGesture elapsed32 s.starts = isGesture elapsedMs s.starts := by
  by_cases hfull : fwUpdateGesturePresses ≤ s.starts.length
  · have hlength : (lastPresses s.starts).length = 4 + 1 := by
      rw [lastPresses, List.length_drop]
      simp only [fwUpdateGesturePresses] at hfull ⊢
      omega
    have hchain : (lastPresses s.starts).IsChain _ := h.starts.drop _
    have hend : s.starts.getLastD 0 = (lastPresses s.starts).getLastD 0 := by
      rw [List.getLastD_eq_getLast?, List.getLastD_eq_getLast?, lastPresses, List.getLast?_drop,
        if_neg]
      simp only [fwUpdateGesturePresses] at hfull ⊢
      omega
    obtain ⟨first, rest, hcons⟩ := List.exists_cons_of_length_eq_add_one hlength
    rw [hcons] at hchain hend hlength
    have hspan := getLastD_le_of_isChain hchain
    rw [List.length_cons, Nat.add_right_cancel_iff] at hlength
    rw [hlength] at hspan
    rw [isGesture, isGesture, hend, hcons, List.headD_cons, List.getLastD_cons,
      elapsed32_eq hspan.1 (by omega), elapsedMs]
  · rw [isGesture, isGesture, decide_eq_false hfull, Bool.false_and, Bool.false_and]

/-- Two differences that agree on the starts kept make the same step. -/
theorem Gesture.step_congr {elapsed other : Nat → Nat → Nat}
    (h : isGesture elapsed s.starts = isGesture other s.starts) (sample : Sample) :
    s.step elapsed hold sample = s.step other hold sample := by
  simp only [Gesture.step, h]

theorem run_elapsedMs (hfit : 4 * (hold + 3000 + 2 * gap) < 2 ^ 32) {samples : List Sample}
    (hcoherent : Coherent s) (hdense : ∀ first ∈ samples.head?, Dense hold gap s first.time)
    (hspaced : Spaced gap samples) :
    s.run elapsed32 hold samples = s.run elapsedMs hold samples := by
  induction samples generalizing s with
  | nil => rfl
  | cons sample samples ih =>
      obtain ⟨hnext, hrest⟩ := List.isChain_cons.1 hspaced
      have hhere := hdense sample rfl
      have hlater : ∀ first ∈ samples.head?,
          Dense hold gap (s.step elapsed32 hold sample).1 first.time := by
        intro first hfirst
        obtain ⟨hlt, hgap⟩ := hnext first hfirst
        exact hhere.step hcoherent hlt hgap
      rw [Gesture.run, Gesture.run, ih (hcoherent.step elapsed32 hold sample) hlater hrest,
        Gesture.step_congr (hhere.isGesture_eq hfit)]

end Often

/-! ## The button over a run -/

section Run

variable {holdMs : UInt32} {gap : Nat} {samples : List Sample}

/-- Any five presses in a row that never reach the hold, with starts in the window, are recognized
at the release of one of them. -/
def RecognizesPresses (holdMs : UInt32) (samples : List Sample) : Prop :=
  ∀ before presses after, samples = before ++ presses.flatMap PressRun.samples ++ after →
    (∀ last ∈ before.getLast?, last.isLow = false) →
    presses.length = fwUpdateGesturePresses →
    (∀ press ∈ presses, press.IsShort holdMs.toNat) →
    (∀ press ∈ presses, ∀ later ∈ presses, later.start ≤ press.start + 3000) →
    ∃ done press rest, presses = done ++ press :: rest ∧
      (runButton holdMs .initial samples)[
        (before ++ (done.flatMap PressRun.samples ++ press.pressed)).length]? = some .updateGesture

theorem Spaced.pairwise (h : Spaced gap samples) : samples.Pairwise (·.time < ·.time) := by
  have : Trans (fun a b : Sample => a.time < b.time) (fun a b : Sample => a.time < b.time)
      (fun a b : Sample => a.time < b.time) := ⟨fun hab hbc => Nat.lt_trans hab hbc⟩
  exact (h.imp fun _ _ hstep => hstep.1).pairwise

/-- The times of a run lift to the specification. -/
theorem runButton_initial (hhold : holdMs.toNat ≤ 2 ^ 31) (hspaced : Spaced (2 ^ 31) samples) :
    runButton holdMs .initial samples =
      (Gesture.initial.run elapsed32 holdMs.toNat samples).map GestureEvent.toButtonEvent :=
  runButton_eq refines_initial hhold (fun first _ => ready_initial first.time) hspaced

theorem nodup_uses (elapsed : Nat → Nat → Nat) (hold : Nat) (hspaced : Spaced gap samples) :
    ((Gesture.initial.run elapsed hold samples).flatMap GestureEvent.uses).Nodup := by
  have hsublist := coherent_initial.run_uses elapsed hold samples
  rw [show Gesture.initial.starts = [] from rfl, List.nil_append] at hsublist
  apply List.Nodup.sublist hsublist
  apply (List.pairwise_map.2 hspaced.pairwise).imp
  intro a b hlt
  exact Nat.ne_of_lt hlt

/-- Nothing is pressed after a high sample. -/
theorem press_after_eq_none (elapsed : Nat → Nat → Nat) (hold : Nat) {before : List Sample}
    (hhigh : ∀ last ∈ before.getLast?, last.isLow = false) :
    (Gesture.initial.after elapsed hold before).press = none := by
  cases hlast : before.getLast? with
  | none =>
      rw [List.getLast?_eq_none_iff.1 hlast]
      rfl
  | some last =>
      obtain ⟨earlier, rfl⟩ := List.getLast?_eq_some_iff.1 hlast
      obtain ⟨isLow, time⟩ := last
      cases hhigh _ hlast
      rw [Gesture.after_append, Gesture.after_cons, Gesture.after_nil]
      cases hpress : (Gesture.initial.after elapsed hold earlier).press with
      | none => rw [Gesture.step_idle elapsed hold hpress]
      | some press =>
          rw [Gesture.step_release elapsed hold hpress]
          split <;> rfl

theorem sublist_starts (presses : List PressRun) :
    (presses.map PressRun.start).Sublist
      ((presses.flatMap PressRun.samples).map Sample.time) := by
  induction presses with
  | nil => exact List.nil_sublist _
  | cons press presses ih =>
      rw [List.map_cons, List.flatMap_cons, List.map_append, ← List.singleton_append]
      apply List.Sublist.append _ ih
      apply List.singleton_sublist.2
      exact List.mem_map.2 ⟨_, PressRun.mem_samples.2 (Or.inl rfl), rfl⟩

theorem recognizesPresses (hhold : holdMs.toNat ≤ 2 ^ 31) (hspaced : Spaced (2 ^ 31) samples) :
    RecognizesPresses holdMs samples := by
  intro before presses after hsamples hhigh hlength hshort hclose
  have hpairwise := hspaced.pairwise
  rw [hsamples, List.append_assoc, List.pairwise_append, List.pairwise_append] at hpairwise
  have hsorted := hpairwise.2.1.1
  have hstarts : (presses.map PressRun.start).Pairwise (· < ·) :=
    (List.pairwise_map.2 hsorted).sublist (sublist_starts presses)
  have hspan : ∀ a ∈ presses.map PressRun.start, ∀ b ∈ presses.map PressRun.start,
      a ≤ b → elapsed32 b a ≤ 3000 := by
    intro a ha b hb hle
    obtain ⟨press, hpress, rfl⟩ := List.mem_map.1 ha
    obtain ⟨later, hlater, rfl⟩ := List.mem_map.1 hb
    have hnear := hclose press hpress later hlater
    rw [elapsed32_eq hle (by omega)]
    omega
  have hne : presses ≠ [] := by
    intro hnil
    rw [hnil] at hlength
    cases hlength
  obtain ⟨done, press, rest, hpresses, hevent⟩ := exists_gesture elapsed32 holdMs.toNat
    (press_after_eq_none elapsed32 holdMs.toNat hhigh) hne hsorted hshort hclose
    (isGesture_append elapsed32 (by rw [List.length_map, hlength]) hstarts hspan)
  refine ⟨done, press, rest, hpresses, ?_⟩
  have hsplit : samples = (before ++ (done.flatMap PressRun.samples ++ press.pressed)) ++
      ⟨false, press.release⟩ :: (press.highs.map (⟨false, ·⟩) ++
        (rest.flatMap PressRun.samples ++ after)) := by
    rw [hsamples, hpresses, List.flatMap_append, List.flatMap_cons, PressRun.samples]
    simp only [List.append_assoc, List.cons_append]
  rw [runButton_initial hhold hspaced, List.getElem?_map, hsplit, Gesture.run_getElem?,
    Gesture.after_append, Option.map_some, hevent]

/-- The button is its list specification, with the window as the code's 32-bit difference; no press
is used twice and five quick ones are recognized. The difference is the true one when the samples
come often enough. -/
theorem button_refines (holdMs : UInt32) (hhold : holdMs.toNat ≤ 2 ^ 31) (samples : List Sample)
    (hspaced : Spaced (2 ^ 31) samples) :
    runButton holdMs .initial samples =
        (Gesture.initial.run elapsed32 holdMs.toNat samples).map GestureEvent.toButtonEvent ∧
      ((Gesture.initial.run elapsed32 holdMs.toNat samples).flatMap GestureEvent.uses).Nodup ∧
      RecognizesPresses holdMs samples ∧
      ∀ gap, 4 * (holdMs.toNat + 3000 + 2 * gap) < 2 ^ 32 → Spaced gap samples →
        Gesture.initial.run elapsed32 holdMs.toNat samples =
          Gesture.initial.run elapsedMs holdMs.toNat samples := by
  refine ⟨runButton_initial hhold hspaced, nodup_uses _ _ hspaced,
    recognizesPresses hhold hspaced, fun gap hfit hoften => ?_⟩
  exact run_elapsedMs hfit coherent_initial (fun first _ => dense_initial _ gap first.time) hoften

/-- Five presses of 10 ms that start 0, 1, 2, 3 and 4 times 2^30 ms after the first, the last one
100 ms later still. -/
def sparsePresses : List Sample :=
  [⟨true, 0⟩, ⟨false, 10⟩, ⟨true, 2 ^ 30⟩, ⟨false, 2 ^ 30 + 10⟩, ⟨true, 2 ^ 31⟩,
    ⟨false, 2 ^ 31 + 10⟩, ⟨true, 3 * 2 ^ 30⟩, ⟨false, 3 * 2 ^ 30 + 10⟩,
    ⟨true, 2 ^ 32 + 100⟩, ⟨false, 2 ^ 32 + 110⟩]

/-- The sparse presses span more than 2^32 ms and are a gesture to the code. -/
theorem button_window_wraps : ¬ ∀ samples, Spaced (2 ^ 31) samples →
    runButton buttonHoldMs .initial samples =
      (Gesture.initial.run elapsedMs buttonHoldMs.toNat samples).map
        GestureEvent.toButtonEvent := by
  intro h
  have hsparse := h sparsePresses (by unfold Spaced sparsePresses; decide)
  revert hsparse
  decide

/-- Five quick presses across the end of the 32-bit range. -/
theorem button_refines_quick :
    runButton buttonHoldMs .initial
      [⟨true, 2 ^ 32 - 1000⟩, ⟨false, 2 ^ 32 - 900⟩, ⟨true, 2 ^ 32 - 600⟩, ⟨false, 2 ^ 32 - 500⟩,
        ⟨true, 2 ^ 32 - 50⟩, ⟨false, 2 ^ 32 + 50⟩, ⟨true, 2 ^ 32 + 400⟩, ⟨false, 2 ^ 32 + 500⟩,
        ⟨true, 2 ^ 32 + 900⟩, ⟨true, 2 ^ 32 + 910⟩, ⟨false, 2 ^ 32 + 1000⟩] =
      [.pressStarted, .none, .pressStarted, .none, .pressStarted, .none, .pressStarted, .none,
        .pressStarted, .none, .updateGesture] :=
  (button_refines buttonHoldMs (by decide) _ (by unfold Spaced; decide)).1.trans (by decide)

end Run

end StripTuner.Button
