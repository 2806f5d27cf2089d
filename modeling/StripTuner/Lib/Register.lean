import StripTuner.Lib.Traces

/-!
# An atomic register that survives power loss

A register holds one value or none. It can be written and read while power is on. A write that power
loss interrupts is decided by the next boot: it has happened as a whole, or it has not.
-/

namespace AtomicRegister

open Traces

variable {α : Type}

/-- With power the value; without, the value and the write that was interrupted, if one was. -/
inductive Register (α : Type) where
  | on (value : Option α)
  | off (value : Option α) (interrupted : Option α)

/-- What its user sees. -/
inductive Event (α : Type) where
  | loaded (value : Option α)
  | replaced (value : α) (isStored : Bool)
  | interrupted (value : α)
  | powerLost
  | booted

/-- Only some values can be stored. -/
inductive Step (Valid : α → Prop) : System (Register α) (Event α) where
  | load (value : Option α) : Step Valid (.on value) (some (.loaded value)) (.on value)
  | replace {new : α} (value : Option α) : Valid new →
      Step Valid (.on value) (some (.replaced new true)) (.on (some new))
  | reject {new : α} (value : Option α) : ¬ Valid new →
      Step Valid (.on value) (some (.replaced new false)) (.on value)
  | interrupt {new : α} (value : Option α) : Valid new →
      Step Valid (.on value) (some (.interrupted new)) (.off value (some new))
  | ignore {new : α} (value : Option α) :
      Step Valid (.on value) (some (.interrupted new)) (.off value none)
  | powerLoss (value : Option α) : Step Valid (.on value) (some .powerLost) (.off value none)
  | keep (value interrupted : Option α) :
      Step Valid (.off value interrupted) (some .booted) (.on value)
  | finish (value : Option α) (new : α) :
      Step Valid (.off value (some new)) (some .booted) (.on (some new))

/-! ## What is read back -/

/-- The value of the last write, when that write ended. -/
def lastReplaced : List (Event α) → Option α :=
  List.foldl (fun known event =>
    match event with
    | .replaced new true => some new
    | .interrupted _ => none
    | _ => known) none

theorem lastReplaced_append (events : List (Event α)) (event : Event α) :
    lastReplaced (events ++ [event]) =
      match event with
      | .replaced new true => some new
      | .interrupted _ => none
      | _ => lastReplaced events := by
  rw [lastReplaced, List.foldl_append]
  rfl

/-- The register has this value, and no boot will change it. -/
def Has (value : Option α) (r : Register α) : Prop := r = .on value ∨ r = .off value none

section Trace

variable {Valid : α → Prop} {r r' : Register α} {events : List (Event α)}

theorem Step.shows {o : Option (Event α)} (h : Step Valid r o r') : o ≠ none := by
  cases h <;> exact Option.some_ne_none _

theorem eq_of_observes_nil (h : Observes (Step Valid) r [] r') : r' = r := by
  generalize hnil : [] = events at h
  cases h with
  | refl => rfl
  | @step _ _ _ o _ hstep _ =>
      obtain ⟨event, rfl⟩ := Option.ne_none_iff_exists'.1 hstep.shows
      cases hnil

theorem has_lastReplaced (h : Observes (Step Valid) r events r') :
    ∀ new, lastReplaced events = some new → Has (some new) r' := by
  refine h.induction_on (b := [])
    (P := fun r events => ∀ new, lastReplaced events = some new → Has (some new) r) ?_
    (fun new hnew => by cases hnew)
  intro r events o r' hP hstep new hnew
  cases hstep <;> simp only [Option.toList, lastReplaced_append] at hnew
  case load => exact hP new hnew
  case replace => exact .inl (by rw [hnew])
  case reject => exact hP new hnew
  case interrupt => cases hnew
  case ignore => cases hnew
  case powerLoss value =>
      obtain h | h := hP new hnew
      · cases h
        exact .inr rfl
      · cases h
  case keep =>
      obtain h | h := hP new hnew
      · cases h
      · cases h
        exact .inl rfl
  case finish =>
      obtain h | h := hP new hnew <;> cases h

/-- A read after a write that ended gives what was written, whatever happened in between. -/
theorem loaded_eq_lastReplaced {before after : List (Event α)} {value : Option α} {new : α}
    (h : Observes (Step Valid) r (before ++ .loaded value :: after) r')
    (hnew : lastReplaced before = some new) : value = some new := by
  obtain ⟨t, hbefore, hrest⟩ := h.split
  obtain ⟨t', t'', hnone, hload, -⟩ := hrest.uncons
  obtain rfl := eq_of_observes_nil hnone
  have hhas := has_lastReplaced hbefore new hnew
  cases hload
  obtain h | h := hhas <;> cases h
  rfl

end Trace

end AtomicRegister
