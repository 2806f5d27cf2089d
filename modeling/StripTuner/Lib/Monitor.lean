import Mathlib.Data.List.Infix

/-!
# Monitored histories

A monitor reads the records of a history one after the other. A history obeys a rule when every
record is allowed by what the monitor has read before it.
-/

namespace DeviceCalls

variable {σ ρ : Type}

structure Monitor (σ ρ : Type) where
  init : σ
  step : σ → ρ → σ

namespace Monitor

variable (M : Monitor σ ρ) {A : σ → ρ → Prop} {records : List ρ} {r : ρ}

/-- What the monitor has read. -/
def run (records : List ρ) : σ := records.foldl M.step M.init

@[simp] theorem run_nil : M.run [] = M.init := rfl

@[simp] theorem run_snoc (records : List ρ) (r : ρ) :
    M.run (records ++ [r]) = M.step (M.run records) r := by
  simp [run]

/-- Every record is allowed by what is read before it. -/
def Obeys (A : σ → ρ → Prop) (records : List ρ) : Prop :=
  ∀ pre r, pre ++ [r] <+: records → A (M.run pre) r

theorem obeys_nil : M.Obeys A [] := by
  intro pre r hpre
  simp at hpre

theorem Obeys.snoc {M : Monitor σ ρ} (h : M.Obeys A records) (hr : A (M.run records) r) :
    M.Obeys A (records ++ [r]) := by
  intro pre r' hpre
  rcases List.prefix_concat_iff.mp hpre with heq | hold
  · obtain ⟨rfl, rfl⟩ := List.concat_inj.mp (by simpa using heq)
    exact hr
  · exact h pre r' hold

end Monitor

end DeviceCalls
