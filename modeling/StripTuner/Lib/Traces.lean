import Mathlib.Tactic.Common

/-!
# Traces

What can be observed of a system that makes steps, some of which show nothing. A system simulates
another when each step of the other can be matched by steps that show the same; then every trace of
the other is one of it.
-/

namespace Traces

variable {S X O : Type}

/-- The steps of a system, each with what it shows, if anything. -/
abbrev System (S O : Type) : Type := S → Option O → S → Prop

/-- The observations on the way from one state to another. -/
inductive Observes (T : System S O) : S → List O → S → Prop where
  | refl (s : S) : Observes T s [] s
  | step {s t u : S} {o : Option O} {os : List O} :
      T s o t → Observes T t os u → Observes T s (o.toList ++ os) u

namespace Observes

variable {T : System S O} {U : System X O} {s t u : S} {o : O} {os os' : List O}

theorem single {o : Option O} (h : T s o t) : Observes T s o.toList t := by
  have hstep := Observes.step h (.refl t)
  rwa [List.append_nil] at hstep

theorem cons (h : T s (some o) t) (h' : Observes T t os u) : Observes T s (o :: os) u :=
  .step h h'

theorem trans (h : Observes T s os t) (h' : Observes T t os' u) : Observes T s (os ++ os') u := by
  induction h with
  | refl => exact h'
  | step hstep _ ih =>
      rw [List.append_assoc]
      exact .step hstep (ih h')

/-- A trace in two parts passes through a state between them. -/
theorem split (h : Observes T s (os ++ os') u) :
    ∃ t, Observes T s os t ∧ Observes T t os' u := by
  generalize hall : os ++ os' = all at h
  induction h generalizing os with
  | refl s =>
      obtain ⟨rfl, rfl⟩ := List.append_eq_nil_iff.1 hall
      exact ⟨s, .refl s, .refl s⟩
  | @step s t u o rest hstep hrest ih =>
      cases o with
      | none =>
          obtain ⟨v, hv, hv'⟩ := ih hall
          exact ⟨v, .step hstep hv, hv'⟩
      | some o =>
          cases os with
          | nil =>
              obtain rfl : os' = o :: rest := hall
              exact ⟨s, .refl s, .step hstep hrest⟩
          | cons first os =>
              obtain ⟨rfl, htail⟩ : first = o ∧ os ++ os' = rest := List.cons_eq_cons.1 hall
              obtain ⟨v, hv, hv'⟩ := ih htail
              exact ⟨v, .step hstep hv, hv'⟩

/-- The step that showed the first observation. -/
theorem uncons (h : Observes T s (o :: os) u) :
    ∃ t t', Observes T s [] t ∧ T t (some o) t' ∧ Observes T t' os u := by
  generalize hall : o :: os = all at h
  induction h with
  | refl => cases hall
  | @step s t u o' rest hstep hrest ih =>
      cases o' with
      | none =>
          obtain ⟨v, v', hv, hshown, hv'⟩ := ih hall
          exact ⟨v, v', .step hstep hv, hshown, hv'⟩
      | some o' =>
          obtain ⟨rfl, rfl⟩ := List.cons_eq_cons.1 hall
          exact ⟨s, t, .refl s, hstep, hrest⟩

/-- A property of the state and of what has been observed so far. -/
theorem induction_on {P : S → List O → Prop} {b : List O}
    (hstep : ∀ {s os o t}, P s os → T s o t → P t (os ++ o.toList)) (hs : P s b)
    (h : Observes T s os t) : P t (b ++ os) := by
  induction h generalizing b with
  | refl => rwa [List.append_nil]
  | step hfirst _ ih =>
      rw [← List.append_assoc]
      exact ih (hstep hs hfirst)

/-- A forward simulation carries over every trace. -/
theorem simulate {R : S → X → Prop}
    (hstep : ∀ {s o t x}, R s x → T s o t → ∃ y, Observes U x o.toList y ∧ R t y)
    {x : X} (hx : R s x) (h : Observes T s os t) : ∃ y, Observes U x os y ∧ R t y := by
  induction h generalizing x with
  | refl => exact ⟨x, .refl x, hx⟩
  | step hfirst _ ih =>
      obtain ⟨y, hy, hR⟩ := hstep hx hfirst
      obtain ⟨z, hz, hR'⟩ := ih hR
      exact ⟨z, hy.trans hz, hR'⟩

end Observes

end Traces
