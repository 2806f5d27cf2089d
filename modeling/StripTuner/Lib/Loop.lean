import Mathlib.Logic.Relation
import StripTuner.Lib.Prog

/-!
# A thread among others

A thread runs a program call by call and starts over with what it returned. Between any two calls,
and between two iterations, others may change the state.

To reason about the thread alone, relate the state to a smaller one that others leave alone and on
which every call is a call of a smaller device. A weakest precondition proved there, where nobody
interferes, then holds of every configuration that the thread and the others reach.
-/

namespace DeviceCalls

open Relation Prog

variable {Call : Type} {Answer : Call → Type} {α S X : Type}

/-- A step from what the thread has left to run, and the state: a call, the start of the next
iteration, or a step of others. -/
inductive LoopStep (D : Device Call Answer S) (Next : α → S → Prog Call Answer α → S → Prop)
    (Other : S → S → Prop) : Prog Call Answer α × S → Prog Call Answer α × S → Prop where
  | call {c : Call} {k : Answer c → Prog Call Answer α} {s t : S} {r : Answer c} :
      D c s r t → LoopStep D Next Other (call c k, s) (k r, t)
  | next {a : α} {p : Prog Call Answer α} {s t : S} :
      Next a s p t → LoopStep D Next Other (ret a, s) (p, t)
  | other {p : Prog Call Answer α} {s t : S} : Other s t → LoopStep D Next Other (p, s) (p, t)

/-- Others keep the relation, and so does a call that the guard allows. -/
structure Simulates (D : Device Call Answer S) (Other : S → S → Prop) (R : S → X → Prop)
    (D' : Device Call Answer X) (G : Call → X → Prop) : Prop where
  call : ∀ {c s r t x}, R s x → G c x → D c s r t → ∃ x', D' c x r x' ∧ R t x'
  other : ∀ {s t x}, R s x → Other s t → R t x

section Rule

variable {D : Device Call Answer S} {Next : α → S → Prog Call Answer α → S → Prop}
  {Other : S → S → Prop} {R : S → X → Prop} {D' : Device Call Answer X} {G : Call → X → Prop}
  {Q : α → X → Prop}

/-- The weakest precondition on the smaller device holds of what is left to run, all along. -/
theorem Simulates.wp_of_run (h : Simulates D Other R D' G)
    (hnext : ∀ {a s x p t}, R s x → Q a x → Next a s p t → ∃ x', R t x' ∧ p.wp D' G Q x')
    {c₀ c : Prog Call Answer α × S} (hrun : ReflTransGen (LoopStep D Next Other) c₀ c)
    (h₀ : ∃ x, R c₀.2 x ∧ c₀.1.wp D' G Q x) : ∃ x, R c.2 x ∧ c.1.wp D' G Q x := by
  induction hrun with
  | refl => exact h₀
  | tail _ hstep ih =>
      obtain ⟨x, hR, hp⟩ := ih
      cases hstep with
      | call hd =>
          obtain ⟨hG, hk⟩ := hp
          obtain ⟨x', hd', hR'⟩ := h.call hR hG hd
          exact ⟨x', hR', hk _ x' hd'⟩
      | next hn => exact hnext hR hp hn
      | other ho => exact ⟨x, h.other hR ho, hp⟩

/-- A call, and then steps of others. -/
def amid (D : Device Call Answer S) (Other : S → S → Prop) : Device Call Answer S :=
  fun c s r t => ∃ u, D c s r u ∧ ReflTransGen Other u t

theorem run_others {p : Prog Call Answer α} {s t : S} (h : ReflTransGen Other s t) :
    ReflTransGen (LoopStep D Next Other) (p, s) (p, t) := by
  induction h with
  | refl => exact .refl
  | tail _ ho ih => exact ih.tail (.other ho)

/-- An execution with steps of others after its calls is a run. -/
theorem Prog.Ends.run_amid {p : Prog Call Answer α} {s t : S} {a : α}
    (h : Ends (amid D Other) p s a t) :
    ReflTransGen (LoopStep D Next Other) (p, s) (Prog.ret a, t) := by
  induction h with
  | ret a s => exact .refl
  | call hd _ ih =>
      obtain ⟨u, hcall, hothers⟩ := hd
      exact .head (.call hcall) ((run_others hothers).trans ih)

/-- So is one in which nobody interferes. -/
theorem Prog.Ends.run {p : Prog Call Answer α} {s t : S} {a : α} (h : Ends D p s a t) :
    ReflTransGen (LoopStep D Next Other) (p, s) (Prog.ret a, t) :=
  (h.mono fun _ _ _ _ hd => ⟨_, hd, .refl⟩).run_amid

/-- One iteration in which nobody interferes. -/
theorem run_of_next {p : Prog Call Answer α} {s t u : S} {a b : α} (hnext : Next a s p t)
    (hends : Ends D p t b u) : ReflTransGen (LoopStep D Next Other) (ret a, s) (ret b, u) :=
  .head (.next hnext) hends.run

end Rule

/-! ## Computed executions -/

/-- The answer and the effect of each call for which they are given. -/
abbrev Script (Call : Type) (Answer : Call → Type) (S : Type) : Type :=
  (c : Call) → S → Option (Answer c × S)

/-- The execution by a script, while it has an answer. -/
def Prog.play (h : Script Call Answer S) : Prog Call Answer α → S → Option (α × S)
  | ret a, s => some (a, s)
  | call c k, s => (h c s).bind fun rt => (k rt.1).play h rt.2

section Play

variable {β : Type} (h : Script Call Answer S) (s : S)

@[simp] theorem Prog.play_pure (a : α) :
    (pure a : Prog Call Answer α).play h s = some (a, s) := rfl

@[simp] theorem Prog.play_perform (c : Call) :
    (perform c : Prog Call Answer (Answer c)).play h s = h c s :=
  Option.bind_fun_some (h c s)

@[simp] theorem Prog.play_bind (p : Prog Call Answer β) (f : β → Prog Call Answer α) :
    (p >>= f).play h s = (p.play h s).bind fun bt => (f bt.1).play h bt.2 := by
  induction p generalizing s with
  | ret b => rfl
  | call c k ih =>
      rw [bind_eq, bind, play, play, Option.bind_assoc]
      exact congrArg _ (funext fun rt => ih rt.1 rt.2)

@[simp] theorem Prog.play_map (f : β → α) (p : Prog Call Answer β) :
    (f <$> p).play h s = (p.play h s).map fun bt => (f bt.1, bt.2) := by
  rw [map_eq_pure_bind, play_bind]
  exact (Option.map_eq_bind ..).symm

end Play

/-- What a script computes is an execution on every device that allows its answers. -/
theorem Prog.ends_of_play {D : Device Call Answer S} {h : Script Call Answer S}
    (hD : ∀ c s r t, h c s = some (r, t) → D c s r t) {p : Prog Call Answer α} {s t : S} {a : α}
    (hp : p.play h s = some (a, t)) : Ends D p s a t := by
  induction p generalizing s with
  | ret b =>
      obtain ⟨rfl, rfl⟩ := Prod.mk.inj (Option.some.inj hp)
      exact .ret b s
  | call c k ih =>
      obtain ⟨⟨r, u⟩, hc, hk⟩ := Option.bind_eq_some_iff.mp hp
      exact .call (hD c s r u hc) (ih r hk)

end DeviceCalls
