import Mathlib.Tactic.Common

/-!
# Programs that call a device

A program is a tree of calls: every node names a call, and has one continuation for each answer
the call can give. What a call does is not part of the program. It is given by a device, a
relation between the state before the call, the answer and the state after it.

`wp D G p Q s` is the weakest precondition of `p` on the device `D`: from `s`, every call is made
in a state that meets the guard `G`, and every execution that ends meets `Q`. A guard on all calls
is what a power cut between two calls needs, since a cut leaves the state in which some call was
about to be made.
-/

namespace DeviceCalls

/-- A program: an answer, or a call and what the program does with each of its answers. -/
inductive Prog (Call : Type) (Answer : Call → Type) (α : Type) : Type where
  | ret (a : α)
  | call (c : Call) (k : Answer c → Prog Call Answer α)

/-- What each call may answer and how it may change the state. -/
abbrev Device (Call : Type) (Answer : Call → Type) (S : Type) : Type :=
  (c : Call) → S → Answer c → S → Prop

/-- A device whose answers and effects are determined by the state. -/
abbrev Handler (Call : Type) (Answer : Call → Type) (S : Type) : Type :=
  (c : Call) → S → Answer c × S

namespace Prog

variable {Call : Type} {Answer : Call → Type} {α β S X : Type}

/-! ## Sequencing -/

/-- Run `p`, then `f` on its result. -/
def bind : Prog Call Answer α → (α → Prog Call Answer β) → Prog Call Answer β
  | ret a, f => f a
  | call c k, f => call c fun r => (k r).bind f

instance : Monad (Prog Call Answer) where
  pure := ret
  bind := bind

/-- The program that makes one call and returns its answer. -/
def perform (c : Call) : Prog Call Answer (Answer c) := call c ret

theorem bind_eq (p : Prog Call Answer α) (f : α → Prog Call Answer β) : p >>= f = p.bind f := rfl

theorem bind_ret (p : Prog Call Answer α) : p.bind ret = p := by
  induction p with
  | ret a => rfl
  | call c k ih => exact congrArg (call c) (funext ih)

instance : LawfulMonad (Prog Call Answer) := LawfulMonad.mk' _
  (fun p => bind_ret p)
  (fun _ _ => rfl)
  (fun p f g => by
    induction p with
    | ret a => rfl
    | call c k ih => exact congrArg (call c) (funext ih))

theorem ite_bind (c : Prop) [Decidable c] (p q : Prog Call Answer α)
    (f : α → Prog Call Answer β) : (if c then p else q) >>= f = if c then p >>= f else q >>= f := by
  split <;> rfl

/-! ## Executions -/

/-- An execution of the program from `s` ends with a result, in a final state. -/
inductive Ends (D : Device Call Answer S) : Prog Call Answer α → S → α → S → Prop where
  | ret (a : α) (s : S) : Ends D (ret a) s a s
  | call {c : Call} {k : Answer c → Prog Call Answer α} {s t u : S} {r : Answer c} {a : α} :
      D c s r t → Ends D (k r) t a u → Ends D (call c k) s a u

/-- An execution of the program from `s` reaches the call `c` in the state `t`. -/
inductive Reaches (D : Device Call Answer S) : Prog Call Answer α → S → Call → S → Prop where
  | here (c : Call) (k : Answer c → Prog Call Answer α) (s : S) : Reaches D (call c k) s c s
  | call {c c' : Call} {k : Answer c → Prog Call Answer α} {s t u : S} {r : Answer c} :
      D c s r t → Reaches D (k r) t c' u → Reaches D (call c k) s c' u

/-- A power cut between two calls, or after the last one, leaves the state `t`. -/
def CutAt (D : Device Call Answer S) (p : Prog Call Answer α) (s t : S) : Prop :=
  (∃ c, Reaches D p s c t) ∨ ∃ a, Ends D p s a t

theorem Ends.mono {D D' : Device Call Answer S} (hD : ∀ c s r t, D c s r t → D' c s r t)
    {p : Prog Call Answer α} {s t : S} {a : α} (h : Ends D p s a t) : Ends D' p s a t := by
  induction h with
  | ret a s => exact .ret a s
  | call hd _ ih => exact .call (hD _ _ _ _ hd) ih

theorem Ends.bind {D : Device Call Answer S} {p : Prog Call Answer β} {f : β → Prog Call Answer α}
    {s t u : S} {b : β} {a : α} (hp : Ends D p s b t) (hf : Ends D (f b) t a u) :
    Ends D (p >>= f) s a u := by
  induction hp with
  | ret b s => exact hf
  | call hd _ ih => exact .call hd (ih hf)

/-- What runs on a part of the data runs on all of them, with what each call keeps. -/
theorem exists_ends_lift {X : Type} {D : Device Call Answer S} {E : Device Call Answer X}
    (π : X → S) {I : X → Prop}
    (hcall : ∀ {c x r t}, D c (π x) r t → I x → ∃ y, E c x r y ∧ π y = t ∧ I y)
    {p : Prog Call Answer α} {s t : S} {a : α} (h : Ends D p s a t) {x : X} (hx : π x = s)
    (hI : I x) : ∃ y, Ends E p x a y ∧ π y = t ∧ I y := by
  induction h generalizing x with
  | ret a s => exact ⟨x, .ret a x, hx, hI⟩
  | call hd _ ih =>
      subst hx
      obtain ⟨y, he, hy, hIy⟩ := hcall hd hI
      obtain ⟨z, hends, hz⟩ := ih hy hIy
      exact ⟨z, .call he hends, hz⟩

/-- The execution on a device that is determined by its state. -/
def run (h : Handler Call Answer S) : Prog Call Answer α → S → α × S
  | ret a, s => (a, s)
  | call c k, s => (k (h c s).1).run h (h c s).2

/-! ## Weakest preconditions -/

/-- From `s`, every call meets the guard `G` and every end meets `Q`. -/
def wp (D : Device Call Answer S) (G : Call → S → Prop) :
    Prog Call Answer α → (α → S → Prop) → S → Prop
  | ret a, Q, s => Q a s
  | call c k, Q, s => G c s ∧ ∀ r t, D c s r t → (k r).wp D G Q t

variable {D : Device Call Answer S} {G : Call → S → Prop} {s : S}

@[simp] theorem wp_ret (a : α) (Q : α → S → Prop) :
    (ret a : Prog Call Answer α).wp D G Q s ↔ Q a s := Iff.rfl

@[simp] theorem wp_pure (a : α) (Q : α → S → Prop) :
    (pure a : Prog Call Answer α).wp D G Q s ↔ Q a s := Iff.rfl

theorem wp_call (c : Call) (k : Answer c → Prog Call Answer α) (Q : α → S → Prop) :
    (call c k).wp D G Q s ↔ G c s ∧ ∀ r t, D c s r t → (k r).wp D G Q t := Iff.rfl

theorem wp_perform (c : Call) (Q : Answer c → S → Prop) :
    (perform c : Prog Call Answer (Answer c)).wp D G Q s ↔ G c s ∧ ∀ r t, D c s r t → Q r t :=
  Iff.rfl

theorem wp_bind (p : Prog Call Answer α) (f : α → Prog Call Answer β)
    (Q : β → S → Prop) :
    (p >>= f).wp D G Q s ↔ p.wp D G (fun a t => (f a).wp D G Q t) s := by
  induction p generalizing s with
  | ret a => rfl
  | call c k ih =>
      rw [bind_eq, bind, wp_call, wp_call]
      exact and_congr_right fun _ => forall₃_congr fun r t _ => ih r

@[simp] theorem wp_map (f : α → β) (p : Prog Call Answer α) (Q : β → S → Prop) :
    (f <$> p).wp D G Q s ↔ p.wp D G (fun a t => Q (f a) t) s := by
  rw [← bind_pure_comp, wp_bind]
  rfl

theorem wp_ite (c : Prop) [Decidable c] (p q : Prog Call Answer α) (Q : α → S → Prop) :
    (if c then p else q).wp D G Q s ↔ if c then p.wp D G Q s else q.wp D G Q s := by
  split <;> rfl

theorem wp_mono {p : Prog Call Answer α} {Q Q' : α → S → Prop}
    (h : p.wp D G Q s) (hQ : ∀ a t, Q a t → Q' a t) : p.wp D G Q' s := by
  induction p generalizing s with
  | ret a => exact hQ a s h
  | call c k ih =>
      rw [wp_call] at h ⊢
      exact ⟨h.1, fun r t hd => ih r (h.2 r t hd)⟩

theorem wp_conseq {G' : Call → S → Prop} {p : Prog Call Answer α} {Q Q' : α → S → Prop}
    (h : p.wp D G Q s) (hG : ∀ c t, G c t → G' c t) (hQ : ∀ a t, Q a t → Q' a t) :
    p.wp D G' Q' s := by
  induction p generalizing s with
  | ret a => exact hQ a s h
  | call c k ih =>
      rw [wp_call] at h ⊢
      exact ⟨hG c s h.1, fun r t hd => ih r (h.2 r t hd)⟩

/-- A weaker device and a stronger guard carry over to a stronger device and a weaker guard. -/
theorem wp_mono_device {D' : Device Call Answer S} {G' : Call → S → Prop}
    {p : Prog Call Answer α} {Q : α → S → Prop} (h : p.wp D G Q s)
    (hG : ∀ c s, G c s → G' c s) (hD : ∀ c s r t, G c s → D' c s r t → D c s r t) :
    p.wp D' G' Q s := by
  induction p generalizing s with
  | ret a => exact h
  | call c k ih =>
      rw [wp_call] at h ⊢
      exact ⟨hG c s h.1, fun r t hd => ih r (h.2 r t (hD c s r t h.1 hd))⟩

/-- What holds on a part of the state carries over to the whole. -/
theorem wp_project {E : Device Call Answer X} (π : X → S)
    (hπ : ∀ c x r y, E c x r y → D c (π x) r (π y)) {p : Prog Call Answer α} {Q : α → S → Prop}
    {x : X} (h : p.wp D G Q (π x)) :
    p.wp E (fun c y => G c (π y)) (fun a y => Q a (π y)) x := by
  induction p generalizing x with
  | ret a => exact h
  | call c k ih => exact ⟨h.1, fun r y hd => ih r (h.2 r _ (hπ c x r y hd))⟩

theorem wp_trivial (p : Prog Call Answer α) (s : S) :
    p.wp D (fun _ _ => True) (fun _ _ => True) s := by
  induction p generalizing s with
  | ret a => trivial
  | call c k ih => exact ⟨trivial, fun r t _ => ih r t⟩

/-- Two specifications of one program hold together. -/
theorem wp_and {G' : Call → S → Prop} {p : Prog Call Answer α} {Q Q' : α → S → Prop}
    (h : p.wp D G Q s) (h' : p.wp D G' Q' s) :
    p.wp D (fun c t => G c t ∧ G' c t) (fun a t => Q a t ∧ Q' a t) s := by
  induction p generalizing s with
  | ret a => exact ⟨h, h'⟩
  | call c k ih =>
      rw [wp_call] at h h' ⊢
      exact ⟨⟨h.1, h'.1⟩, fun r t hd => ih r (h.2 r t hd) (h'.2 r t hd)⟩

/-- An invariant that every guarded call keeps. -/
theorem wp_keep {A : S → Prop} {G' : Call → S → Prop} {p : Prog Call Answer α} {Q : α → S → Prop}
    (h : p.wp D G Q s) (hs : A s) (hG : ∀ c t, G c t → A t → G' c t)
    (hD : ∀ c t r u, G c t → A t → D c t r u → A u) :
    p.wp D G' (fun a t => Q a t ∧ A t) s := by
  induction p generalizing s with
  | ret a => exact ⟨h, hs⟩
  | call c k ih =>
      exact ⟨hG c s h.1 hs, fun r t hd => ih r (h.2 r t hd) (hD c s r t h.1 hs hd)⟩

/-! ## Programs that make certain calls only -/

/-- Every call of the program, whatever the answers, is one of `P`. -/
def Only (P : Call → Prop) : Prog Call Answer α → Prop
  | ret _ => True
  | call c k => P c ∧ ∀ r, (k r).Only P

section Only

variable {P : Call → Prop}

@[simp] theorem only_ret (a : α) : (ret a : Prog Call Answer α).Only P := trivial

@[simp] theorem only_pure (a : α) : (pure a : Prog Call Answer α).Only P := trivial

@[simp] theorem only_perform (c : Call) :
    (perform c : Prog Call Answer (Answer c)).Only P ↔ P c :=
  ⟨fun h => h.1, fun h => ⟨h, fun _ => trivial⟩⟩

theorem Only.bind {p : Prog Call Answer α} {f : α → Prog Call Answer β} (hp : p.Only P)
    (hf : ∀ a, (f a).Only P) : (p >>= f).Only P := by
  induction p with
  | ret a => exact hf a
  | call c k ih => exact ⟨hp.1, fun r => ih r (hp.2 r)⟩

theorem Only.ite {c : Prop} [Decidable c] {p q : Prog Call Answer α} (hp : p.Only P)
    (hq : q.Only P) : (if c then p else q).Only P := by
  split
  · exact hp
  · exact hq

theorem Only.mono {P' : Call → Prop} {p : Prog Call Answer α} (hp : p.Only P)
    (h : ∀ c, P c → P' c) : p.Only P' := by
  induction p with
  | ret a => trivial
  | call c k ih => exact ⟨h c hp.1, fun r => ih r (hp.2 r)⟩

theorem only_of_forall (h : ∀ c, P c) (p : Prog Call Answer α) : p.Only P := by
  induction p with
  | ret a => trivial
  | call c k ih => exact ⟨h c, ih⟩

/-- Every result of the program, whatever the answers, is one of `Q`. -/
def Yields (Q : α → Prop) : Prog Call Answer α → Prop
  | ret a => Q a
  | call _ k => ∀ r, (k r).Yields Q

theorem Yields.bind {Q : α → Prop} {Q' : β → Prop} {p : Prog Call Answer α}
    {f : α → Prog Call Answer β} (hp : p.Yields Q) (hf : ∀ a, Q a → (f a).Yields Q') :
    (p >>= f).Yields Q' := by
  induction p with
  | ret a => exact hf a hp
  | call c k ih => exact fun r => ih r (hp r)

theorem Yields.of_forall {Q : α → Prop} (h : ∀ a, Q a) (p : Prog Call Answer α) : p.Yields Q := by
  induction p with
  | ret a => exact h a
  | call c k ih => exact ih

/-- What follows only has to deal with the results that there can be. -/
theorem Yields.only {Q : α → Prop} {p : Prog Call Answer α} {f : α → Prog Call Answer β}
    (hy : p.Yields Q) (hp : p.Only P) (hf : ∀ a, Q a → (f a).Only P) : (p >>= f).Only P := by
  induction p with
  | ret a => exact hf a hy
  | call c k ih => exact ⟨hp.1, fun r => ih r (hy r) (hp.2 r)⟩

theorem Only.wp_guard {p : Prog Call Answer α} (hp : p.Only P) (s : S) :
    p.wp D (fun c _ => P c) (fun _ _ => True) s := by
  induction p generalizing s with
  | ret a => trivial
  | call c k ih => exact ⟨hp.1, fun r t _ => ih r (hp.2 r) t⟩

/-- A relation that each of these calls keeps holds from the start to every call and to the end. -/
theorem Only.wp {p : Prog Call Answer α} (hp : p.Only P) {R : S → S → Prop}
    (htrans : ∀ {s t u}, R s t → R t u → R s u)
    (hstep : ∀ c, P c → ∀ s r t, D c s r t → R s t) {s₀ s : S} (h : R s₀ s) :
    p.wp D (fun c t => P c ∧ R s₀ t) (fun _ t => R s₀ t) s := by
  induction p generalizing s with
  | ret a => exact h
  | call c k ih =>
      exact ⟨⟨hp.1, h⟩, fun r t hd => ih r (hp.2 r) (htrans h (hstep c hp.1 s r t hd))⟩

end Only

/-! ## Soundness and completeness -/

theorem wp_ends {p : Prog Call Answer α} {Q : α → S → Prop} (h : p.wp D G Q s) {a : α} {t : S}
    (he : Ends D p s a t) : Q a t := by
  induction he with
  | ret a s => exact h
  | call hd _ ih => exact ih (h.2 _ _ hd)

theorem wp_reaches {p : Prog Call Answer α} {Q : α → S → Prop} (h : p.wp D G Q s) {c : Call}
    {t : S} (hr : Reaches D p s c t) : G c t := by
  induction hr with
  | here c k s => exact h.1
  | call hd _ ih => exact ih (h.2 _ _ hd)

theorem wp_iff {p : Prog Call Answer α} {Q : α → S → Prop} :
    p.wp D G Q s ↔ (∀ a t, Ends D p s a t → Q a t) ∧ ∀ c t, Reaches D p s c t → G c t := by
  refine ⟨fun h => ⟨fun a t => wp_ends h, fun c t => wp_reaches h⟩, ?_⟩
  induction p generalizing s with
  | ret a => exact fun h => h.1 a s (.ret a s)
  | call c k ih =>
      rintro ⟨hQ, hG⟩
      exact ⟨hG c s (.here c k s), fun r t hd =>
        ih r ⟨fun a u he => hQ a u (.call hd he), fun c' u hr => hG c' u (.call hd hr)⟩⟩

/-- When every call that meets the guard can answer, some execution ends. -/
theorem exists_ends_of_wp {p : Prog Call Answer α} {Q : α → S → Prop} (h : p.wp D G Q s)
    (hD : ∀ c s, G c s → ∃ r t, D c s r t) : ∃ a t, Ends D p s a t := by
  induction p generalizing s with
  | ret a => exact ⟨a, s, .ret a s⟩
  | call c k ih =>
      obtain ⟨r, t, hd⟩ := hD c s h.1
      obtain ⟨a, u, he⟩ := ih r (h.2 r t hd)
      exact ⟨a, u, .call hd he⟩

/-- A program whose calls can always answer has an execution. -/
theorem exists_ends_of_only {P : Call → Prop} {p : Prog Call Answer α} (hp : p.Only P)
    (hD : ∀ c s, P c → ∃ r t, D c s r t) (s : S) : ∃ a t, Ends D p s a t :=
  exists_ends_of_wp (Only.wp_guard hp s) hD

/-- A condition that every call and every end meets holds wherever the power is cut. -/
theorem wp_cutAt {C : S → Prop} {p : Prog Call Answer α}
    (h : p.wp D (fun _ => C) (fun _ => C) s) {t : S} (hc : CutAt D p s t) : C t := by
  obtain ⟨c, hr⟩ | ⟨a, he⟩ := hc
  · exact wp_reaches h hr
  · exact wp_ends h he

/-- The program ends in the state, or makes a call there that does not return. -/
def Finishes (Halts : Call → Prop) (D : Device Call Answer S) (p : Prog Call Answer α) (s t : S) :
    Prop :=
  (∃ a, Ends D p s a t) ∨ ∃ c, Halts c ∧ Reaches D p s c t

/-- A condition that every end and every call that does not return meets. -/
theorem wp_finishes {Halts : Call → Prop} {C : S → Prop} {p : Prog Call Answer α}
    (h : p.wp D (fun c t => Halts c → C t) (fun _ => C) s) {t : S} (hf : Finishes Halts D p s t) :
    C t := by
  obtain ⟨a, he⟩ | ⟨c, hc, hr⟩ := hf
  · exact wp_ends h he
  · exact wp_reaches h hr hc

/-- When every call that meets the guard can answer or does not return, the program finishes. -/
theorem exists_finishes_of_wp {Halts : Call → Prop} {p : Prog Call Answer α} {Q : α → S → Prop}
    (h : p.wp D G Q s) (hD : ∀ c s, G c s → Halts c ∨ ∃ r t, D c s r t) :
    ∃ t, Finishes Halts D p s t := by
  induction p generalizing s with
  | ret a => exact ⟨s, .inl ⟨a, .ret a s⟩⟩
  | call c k ih =>
      rcases hD c s h.1 with hhalts | ⟨r, t, hd⟩
      · exact ⟨s, .inr ⟨c, hhalts, .here c k s⟩⟩
      · obtain ⟨u, ⟨a, he⟩ | ⟨c', hc', hr⟩⟩ := ih r (h.2 r t hd)
        · exact ⟨u, .inl ⟨a, .call hd he⟩⟩
        · exact ⟨u, .inr ⟨c', hc', .call hd hr⟩⟩

/-! ## Calls of another kind -/

/-- The program on a device with more calls. -/
def embed {Call' : Type} {Answer' : Call' → Type} (f : Call → Call') :
    Prog Call (fun c => Answer' (f c)) α → Prog Call' Answer' α
  | .ret a => .ret a
  | .call c k => .call (f c) fun r => embed f (k r)

section Embed

variable {Call' : Type} {Answer' : Call' → Type} {f : Call → Call'}
  {p : Prog Call (fun c => Answer' (f c)) α}

theorem embed_bind (g : α → Prog Call (fun c => Answer' (f c)) β) :
    (embed f (p >>= g) : Prog Call' Answer' β) = embed f p >>= fun a => embed f (g a) := by
  induction p with
  | ret a => rfl
  | call c k ih => exact congrArg (call (f c)) (funext ih)

theorem wp_embed {D : Device Call' Answer' S} {G : Call' → S → Prop} {Q : α → S → Prop} {s : S} :
    (embed f p : Prog Call' Answer' α).wp D G Q s ↔
      p.wp (fun c => D (f c)) (fun c => G (f c)) Q s := by
  induction p generalizing s with
  | ret a => rfl
  | call c k ih => exact and_congr_right fun _ => forall₃_congr fun r t _ => ih r

theorem only_embed {P : Call' → Prop} (h : p.Only fun c => P (f c)) :
    (embed f p : Prog Call' Answer' α).Only P := by
  induction p with
  | ret a => trivial
  | call c k ih => exact ⟨h.1, fun r => ih r (h.2 r)⟩

theorem Ends.embed {D : Device Call' Answer' S} {s t : S} {a : α}
    (h : Ends (fun c => D (f c)) p s a t) : Ends D (embed f p : Prog Call' Answer' α) s a t := by
  induction h with
  | ret a s => exact .ret a s
  | call hd _ ih => exact .call hd ih

end Embed

/-! ## Deterministic devices -/

section Run

variable {h : Handler Call Answer S}

/-- The device that does what the handler does and nothing else. -/
def toDevice (h : Handler Call Answer S) : Device Call Answer S := fun c s r t => h c s = (r, t)

/-- One call on the device of a handler; `hc` evaluates the handler. -/
theorem wp_perform_bind_toDevice (h : Handler Call Answer S) (c : Call) {r : Answer c} {t : S}
    (hc : h c s = (r, t)) (f : Answer c → Prog Call Answer β) (Q : β → S → Prop) :
    (perform c >>= f).wp (toDevice h) G Q s ↔ G c s ∧ (f r).wp (toDevice h) G Q t := by
  rw [wp_bind, wp_perform]
  refine and_congr_right fun _ => ⟨fun hq => hq r t hc, ?_⟩
  rintro hq r' t' hrt
  obtain ⟨rfl, rfl⟩ := Prod.mk.inj (hc.symm.trans hrt)
  exact hq

theorem wp_perform_toDevice (h : Handler Call Answer S) (c : Call) {r : Answer c} {t : S}
    (hc : h c s = (r, t)) (Q : Answer c → S → Prop) :
    (perform c).wp (toDevice h) G Q s ↔ G c s ∧ Q r t :=
  wp_perform_bind_toDevice h c hc ret Q

/-- A run on a handler is an execution on every device that allows what the handler does. -/
theorem ends_run (hD : ∀ c s, D c s (h c s).1 (h c s).2) (p : Prog Call Answer α) (s : S) :
    Ends D p s (p.run h s).1 (p.run h s).2 := by
  induction p generalizing s with
  | ret a => exact .ret a s
  | call c k ih => exact .call (hD c s) (ih (h c s).1 (h c s).2)

/-- On the device of a handler, the run is the only execution. -/
theorem ends_toDevice_iff {p : Prog Call Answer α} {a : α} {t : S} :
    Ends (toDevice h) p s a t ↔ p.run h s = (a, t) := by
  constructor
  · intro he
    induction he with
    | ret a s => rfl
    | call hd _ ih => rw [run, show h _ _ = _ from hd, ih]
  · intro hr
    have he := ends_run (D := toDevice h) (fun _ _ => rfl) p s
    rwa [hr] at he

theorem ends_of_run {p : Prog Call Answer α} {a : α} (hr : (p.run h s).1 = a) :
    Ends (toDevice h) p s a (p.run h s).2 :=
  ends_toDevice_iff.2 (Prod.ext hr rfl)

/-- The call that the run makes after `n` others, and the state it is made in. -/
def callAt (h : Handler Call Answer S) : Nat → Prog Call Answer α → S → Option (Call × S)
  | _, ret _, _ => none
  | 0, call c _, s => some (c, s)
  | n + 1, call c k, s => (k (h c s).1).callAt h n (h c s).2

@[simp] theorem callAt_zero (c : Call) (f : Answer c → Prog Call Answer α) :
    (perform c >>= f).callAt h 0 s = some (c, s) := rfl

@[simp] theorem callAt_succ (n : Nat) (c : Call) (f : Answer c → Prog Call Answer α) :
    (perform c >>= f).callAt h (n + 1) s = (f (h c s).1).callAt h n (h c s).2 := rfl

/-- Power may be cut before any call of the run. -/
theorem cutAt_of_callAt (n : Nat) {p : Prog Call Answer α} {c : Call} {t : S}
    (hc : p.callAt h n s = some (c, t)) : CutAt (toDevice h) p s t := by
  refine .inl ⟨c, ?_⟩
  induction n generalizing p s with
  | zero =>
      cases p with
      | ret a => cases hc
      | call c' k =>
          obtain ⟨rfl, rfl⟩ := Prod.mk.inj (Option.some.inj hc)
          exact .here c' k s
  | succ n ih =>
      cases p with
      | ret a => cases hc
      | call c' k => exact .call rfl (ih hc)

/-- What holds of every execution holds of the run. -/
theorem run_of_wp {p : Prog Call Answer α} {Q : α → S → Prop} (hp : p.wp (toDevice h) G Q s) :
    Q (p.run h s).1 (p.run h s).2 :=
  wp_ends hp (ends_toDevice_iff.2 rfl)

end Run

end Prog

end DeviceCalls
