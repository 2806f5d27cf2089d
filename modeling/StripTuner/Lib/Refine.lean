import StripTuner.Lib.Loop

/-!
# Sketches of programs

A sketch of a program leaves out the calls that do not matter for a question and guesses what they
decide. A weakest precondition of the sketch, for every guess, is one of the program, on each device
on which the skipped calls change nothing.
-/

namespace DeviceCalls

open Prog

variable {Call : Type} {Answer : Call → Type} {α β γ δ S : Type}

/-- The answer of a call, or of a guess. -/
abbrev GuessAnswer (Answer : Call → Type) : Option Call → Type
  | none => Bool
  | some c => Answer c

abbrev Sketch (Call : Type) (Answer : Call → Type) : Type → Type :=
  Prog (Option Call) (GuessAnswer Answer)

namespace Sketch

def guess : Sketch Call Answer Bool := perform (none : Option Call)

def ask (c : Call) : Sketch Call Answer (Answer c) := perform (some c)

/-- A program in which nothing is skipped. -/
def ofProg : Prog Call Answer α → Sketch Call Answer α
  | .ret a => .ret a
  | .call c k => .call (some c) fun r => ofProg (k r)

/-- A guess changes nothing and may be either. -/
def guessing (D : Device Call Answer S) : Device (Option Call) (GuessAnswer Answer) S
  | none, s, _, t => t = s
  | some c, s, r, t => D c s r t

def guarding (G : Call → S → Prop) : Option Call → S → Prop
  | none, _ => True
  | some c, s => G c s

/-! ## Weakest preconditions -/

/-- The weakest precondition for every guess. -/
def wp (D : Device Call Answer S) (G : Call → S → Prop) (q : Sketch Call Answer α)
    (Q : α → S → Prop) (s : S) : Prop :=
  Prog.wp (guessing D) (guarding G) q Q s

section Rules

variable {D : Device Call Answer S} {G : Call → S → Prop} {Q : α → S → Prop} {s : S}

@[simp] theorem wp_pure (a : α) : wp D G (pure a) Q s ↔ Q a s := Iff.rfl

@[simp] theorem wp_bind (p : Sketch Call Answer β) (f : β → Sketch Call Answer α) :
    wp D G (p >>= f) Q s ↔ wp D G p (fun b t => wp D G (f b) Q t) s :=
  Prog.wp_bind p f Q

@[simp] theorem wp_map (f : β → α) (p : Sketch Call Answer β) :
    wp D G (f <$> p) Q s ↔ wp D G p (fun b t => Q (f b) t) s :=
  Prog.wp_map f p Q

@[simp] theorem wp_ite (c : Prop) [Decidable c] (p q : Sketch Call Answer α) :
    wp D G (if c then p else q) Q s ↔ (c → wp D G p Q s) ∧ (¬ c → wp D G q Q s) := by
  split <;> simp [*]

@[simp] theorem wp_guess {Q : Bool → S → Prop} :
    wp D G guess Q s ↔ Q true s ∧ Q false s := by
  show (True ∧ ∀ r t, t = s → Q r t) ↔ _
  simp [and_comm]

theorem wp_ask (c : Call) {Q : Answer c → S → Prop} :
    wp D G (ask c) Q s ↔ G c s ∧ ∀ r t, D c s r t → Q r t := Iff.rfl

theorem wp_ofProg (p : Prog Call Answer α) : wp D G (ofProg p) Q s ↔ p.wp D G Q s := by
  induction p generalizing s with
  | ret a => rfl
  | call c k ih => exact and_congr_right fun _ => forall₃_congr fun r t _ => ih r

theorem wp_mono {q : Sketch Call Answer α} {Q' : α → S → Prop} (h : wp D G q Q s)
    (hQ : ∀ a t, Q a t → Q' a t) : wp D G q Q' s :=
  Prog.wp_mono h hQ

end Rules

/-! ## Skipped calls -/

/-- Every call of the program may be skipped, and its result meets `P`. -/
def Skips (Skipped : Call → Prop) (P : α → Prop) : Prog Call Answer α → Prop
  | .ret a => P a
  | .call c k => Skipped c ∧ ∀ r, Skips Skipped P (k r)

namespace Skips

variable {Skipped : Call → Prop} {P : α → Prop} {P' : β → Prop}

theorem pure {a : α} (h : P a) : Skips Skipped P (Pure.pure a : Prog Call Answer α) := h

theorem bind {p : Prog Call Answer α} {f : α → Prog Call Answer β} (h : Skips Skipped P p)
    (hf : ∀ a, P a → Skips Skipped P' (f a)) : Skips Skipped P' (p >>= f) := by
  induction p with
  | ret a => exact hf a h
  | call c k ih => exact ⟨h.1, fun r => ih r (h.2 r)⟩

theorem ite {c : Prop} [Decidable c] {p p' : Prog Call Answer α} (h : c → Skips Skipped P p)
    (h' : ¬ c → Skips Skipped P p') : Skips Skipped P (if c then p else p') := by
  by_cases hc : c
  · rw [if_pos hc]
    exact h hc
  · rw [if_neg hc]
    exact h' hc

end Skips

/-! ## Refinement -/

/-- The program makes the calls of the sketch for some guesses, and others that may be skipped. -/
inductive Refines (Skipped : Call → Prop) (R : α → β → Prop) :
    Prog Call Answer α → Sketch Call Answer β → Prop where
  | ret {a : α} {b : β} : R a b → Refines Skipped R (.ret a) (.ret b)
  | call {c : Call} {k : Answer c → Prog Call Answer α} {k' : Answer c → Sketch Call Answer β} :
      (∀ r, Refines Skipped R (k r) (k' r)) → Refines Skipped R (.call c k) (.call (some c) k')
  | skip {c : Call} {k : Answer c → Prog Call Answer α} {q : Sketch Call Answer β} :
      Skipped c → (∀ r, Refines Skipped R (k r) q) → Refines Skipped R (.call c k) q
  | guess {p : Prog Call Answer α} {k : Bool → Sketch Call Answer β} (r : Bool) :
      Refines Skipped R p (k r) → Refines Skipped R p (.call none k)

namespace Refines

variable {Skipped : Call → Prop} {R : α → β → Prop}

/-- What holds of the sketch, for every guess, holds of the program. -/
theorem wp {p : Prog Call Answer α} {q : Sketch Call Answer β} (h : Refines Skipped R p q)
    {D : Device Call Answer S} {G : Call → S → Prop} (hquiet : ∀ c, Skipped c → ∀ s, G c s)
    (hD : ∀ c, Skipped c → ∀ s r t, D c s r t → t = s) {Q : β → S → Prop} {s : S}
    (hq : q.wp D G Q s) : p.wp D G (fun a t => ∃ b, R a b ∧ Q b t) s := by
  induction h generalizing s with
  | ret hR => exact ⟨_, hR, hq⟩
  | call _ ih => exact ⟨hq.1, fun r t hd => ih r (hq.2 r t hd)⟩
  | skip hc _ ih =>
      refine ⟨hquiet _ hc s, ?_⟩
      intro r t hd
      rw [hD _ hc s r t hd]
      exact ih r hq
  | guess r _ ih => exact ih (hq.2 r s rfl)

theorem pure {a : α} {b : β} (h : R a b) :
    Refines Skipped R (Pure.pure a : Prog Call Answer α) (Pure.pure b) := .ret h

theorem bind {R' : γ → δ → Prop} {p : Prog Call Answer α} {q : Sketch Call Answer β}
    {f : α → Prog Call Answer γ} {g : β → Sketch Call Answer δ} (h : Refines Skipped R p q)
    (hf : ∀ a b, R a b → Refines Skipped R' (f a) (g b)) :
    Refines Skipped R' (p >>= f) (q >>= g) := by
  induction h with
  | ret h => exact hf _ _ h
  | call _ ih => exact .call ih
  | skip hc _ ih => exact .skip hc ih
  | guess r _ ih => exact .guess r ih

theorem skip_bind {P : γ → Prop} {p : Prog Call Answer γ} {f : γ → Prog Call Answer α}
    {q : Sketch Call Answer β} (h : Skips Skipped P p)
    (hf : ∀ a, P a → Refines Skipped R (f a) q) : Refines Skipped R (p >>= f) q := by
  induction p with
  | ret a => exact hf a h
  | call c k ih => exact .skip h.1 fun r => ih r (h.2 r)

theorem of_skips {P : α → Prop} {p : Prog Call Answer α} {b : β} (h : Skips Skipped P p)
    (hR : ∀ a, P a → R a b) : Refines Skipped R p (Pure.pure b) := by
  induction p with
  | ret a => exact .ret (hR a h)
  | call c k ih => exact .skip h.1 fun r => ih r (h.2 r)

/-- A call that is kept. -/
theorem ask_bind {c : Call} {f : Answer c → Prog Call Answer α}
    {g : Answer c → Sketch Call Answer β} (h : ∀ r, Refines Skipped R (f r) (g r)) :
    Refines Skipped R (perform c >>= f) (ask c >>= g) := .call h

theorem guess_bind {p : Prog Call Answer α} {g : Bool → Sketch Call Answer β} (r : Bool)
    (h : Refines Skipped R p (g r)) : Refines Skipped R p (Sketch.guess >>= g) := .guess r h

theorem ofProg (p : Prog Call Answer α) : Refines Skipped Eq p (Sketch.ofProg p) := by
  induction p with
  | ret a => exact .ret rfl
  | call c k ih => exact .call ih

/-- The same condition on both sides. -/
theorem ite {c c' : Prop} [Decidable c] [Decidable c'] {p p' : Prog Call Answer α}
    {q q' : Sketch Call Answer β} (hc : c ↔ c') (h : c → Refines Skipped R p q)
    (h' : ¬ c → Refines Skipped R p' q') :
    Refines Skipped R (if c then p else p') (if c' then q else q') := by
  by_cases hif : c
  · rw [if_pos hif, if_pos (hc.mp hif)]
    exact h hif
  · rw [if_neg hif, if_neg (mt hc.mpr hif)]
    exact h' hif

/-- A condition that the sketch does not look at. -/
theorem ite_left {c : Prop} [Decidable c] {p p' : Prog Call Answer α} {q : Sketch Call Answer β}
    (h : Refines Skipped R p q) (h' : Refines Skipped R p' q) :
    Refines Skipped R (if c then p else p') q := by
  split
  · exact h
  · exact h'

end Refines

end Sketch

end DeviceCalls
