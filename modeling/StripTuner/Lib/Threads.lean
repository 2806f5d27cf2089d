import Mathlib.Logic.Function.Basic
import Mathlib.Logic.Relation
import StripTuner.Lib.Prog

/-!
# Threads

Threads run programs on the data they share, one call at a time and in any order. A thread whose
program has returned may start its next one.

A proof outline gives an assertion to every call that a thread may make, and to what it returns.
When each thread keeps its own assertions, and no step of one thread breaks the assertion at which
another one stands, all of them hold in every run.
-/

namespace DeviceCalls

open Prog Relation

variable {τ Call α S : Type} {Answer : Call → Type}

/-- The call that comes next. -/
def Prog.next? : Prog Call Answer α → Option Call
  | .ret _ => none
  | .call c _ => some c

/-- What each thread has left to run, and the data they share. -/
structure Threads (τ Call : Type) (Answer : Call → Type) (α S : Type) where
  left : τ → Prog Call Answer α
  state : S

section Steps

variable [DecidableEq τ] (D : Device Call Answer S)
  (Next : τ → α → S → Prog Call Answer α → S → Prop)
  (Allowed : Threads τ Call Answer α S → τ → Call → Prop)

/-- A step of one thread: an allowed call, or the start of its next program. -/
inductive ThreadStep (x : Threads τ Call Answer α S) (t : τ) : Threads τ Call Answer α S → Prop
    where
  | call {c : Call} {k : Answer c → Prog Call Answer α} {r : Answer c} {s : S} :
      x.left t = .call c k → Allowed x t c → D c x.state r s →
      ThreadStep x t ⟨Function.update x.left t (k r), s⟩
  | next {a : α} {p : Prog Call Answer α} {s : S} :
      x.left t = .ret a → Next t a x.state p s → ThreadStep x t ⟨Function.update x.left t p, s⟩

/-- The steps of all threads. -/
def ThreadsStep (x y : Threads τ Call Answer α S) : Prop := ∃ t, ThreadStep D Next Allowed x t y

end Steps

/-- A run in which less is allowed. -/
theorem run_mono [DecidableEq τ] {D : Device Call Answer S}
    {Next : τ → α → S → Prog Call Answer α → S → Prop}
    {Allowed Allowed' : Threads τ Call Answer α S → τ → Call → Prop}
    (h : ∀ {x t c}, Allowed x t c → Allowed' x t c) {x y : Threads τ Call Answer α S}
    (hrun : ReflTransGen (ThreadsStep D Next Allowed) x y) :
    ReflTransGen (ThreadsStep D Next Allowed') x y := by
  refine ReflTransGen.mono ?_ _ _ hrun
  rintro u v ⟨t, hstep⟩
  refine ⟨t, ?_⟩
  cases hstep with
  | call hleft hallowed hd => exact .call hleft (h hallowed) hd
  | next hleft hnext => exact .next hleft hnext

/-- A thread makes only the calls that its programs make. -/
theorem only_of_run [DecidableEq τ] {D : Device Call Answer S}
    {Next : τ → α → S → Prog Call Answer α → S → Prop}
    {Allowed : Threads τ Call Answer α S → τ → Call → Prop} {P : τ → Call → Prop}
    (hnext : ∀ {t a s p s'}, Next t a s p s' → p.Only (P t)) {x₀ x : Threads τ Call Answer α S}
    (hrun : ReflTransGen (ThreadsStep D Next Allowed) x₀ x) (h₀ : ∀ t, (x₀.left t).Only (P t))
    (t : τ) : (x.left t).Only (P t) := by
  induction hrun generalizing t with
  | refl => exact h₀ t
  | @tail x y _ hstep ih =>
      obtain ⟨u, hu⟩ := hstep
      have hown := ih t
      by_cases heq : t = u
      · subst heq
        cases hu with
        | call hleft _ _ =>
            rw [hleft] at hown
            simpa using hown.2 _
        | next _ hn => simpa using hnext hn
      · have hsame : y.left t = x.left t := by
          cases hu <;> exact Function.update_of_ne heq _ _
        rwa [hsame]

/-! ## Outlines -/

section Outlines

variable {D : Device Call Answer S} {Next : τ → α → S → Prog Call Answer α → S → Prop}
  {Allowed : Threads τ Call Answer α S → τ → Call → Prop} {pre : τ → Call → S → Prop}
  {Q : τ → α → S → Prop}

/-- The assertion at which a thread stands. -/
def Prog.At (pre : Call → S → Prop) (Q : α → S → Prop) : Prog Call Answer α → S → Prop
  | .ret a, s => Q a s
  | .call c _, s => pre c s

/-- The assertion at which a thread stands holds, and each call leads to the next one. -/
def Prog.Outline (D : Device Call Answer S) (pre : Call → S → Prop) (Q : α → S → Prop) :
    Prog Call Answer α → S → Prop
  | .ret a, s => Q a s
  | .call c k, s => pre c s ∧ ∀ s r t, pre c s → D c s r t → (k r).Outline D pre Q t

theorem Prog.Outline.at {pre : Call → S → Prop} {Q : α → S → Prop} {p : Prog Call Answer α} {s : S}
    (h : p.Outline D pre Q s) : p.At pre Q s := by
  cases p with
  | ret a => exact h
  | call c k => exact h.1

/-- Only the assertion at which the thread stands is about the state. -/
theorem Prog.Outline.move {pre : Call → S → Prop} {Q : α → S → Prop} {p : Prog Call Answer α}
    {s t : S} (h : p.Outline D pre Q s) (hat : p.At pre Q t) : p.Outline D pre Q t := by
  cases p with
  | ret a => exact hat
  | call c k => exact ⟨hat, h.2⟩

/-- What keeps the outlines of all threads: the next program of a thread has one, and no step of a
thread breaks the assertion at which another one stands. -/
structure Outlined [DecidableEq τ] (D : Device Call Answer S)
    (Next : τ → α → S → Prog Call Answer α → S → Prop)
    (Allowed : Threads τ Call Answer α S → τ → Call → Prop) (pre : τ → Call → S → Prop)
    (Q : τ → α → S → Prop) : Prop where
  next : ∀ {t a s p s'}, Q t a s → Next t a s p s' → p.Outline D (pre t) (Q t) s'
  others : ∀ {x t y u}, (∀ v, (x.left v).At (pre v) (Q v) x.state) →
    ThreadStep D Next Allowed x t y → u ≠ t → (x.left u).At (pre u) (Q u) y.state

theorem Outlined.of_run [DecidableEq τ] (h : Outlined D Next Allowed pre Q)
    {x₀ x : Threads τ Call Answer α S}
    (hrun : ReflTransGen (ThreadsStep D Next Allowed) x₀ x)
    (h₀ : ∀ t, (x₀.left t).Outline D (pre t) (Q t) x₀.state) (t : τ) :
    (x.left t).Outline D (pre t) (Q t) x.state := by
  induction hrun generalizing t with
  | refl => exact h₀ t
  | @tail x y _ hstep ih =>
      obtain ⟨u, hu⟩ := hstep
      by_cases heq : t = u
      · subst heq
        have hown := ih t
        cases hu with
        | call hleft _ hd =>
            rw [hleft] at hown
            simpa using hown.2 _ _ _ hown.1 hd
        | next hleft hnext =>
            rw [hleft] at hown
            simpa using h.next hown hnext
      · have hat := h.others (fun v => (ih v).at) hu heq
        have hsame : y.left t = x.left t := by
          cases hu <;> exact Function.update_of_ne heq _ _
        rw [hsame]
        exact (ih t).move hat

end Outlines

/-! ## Relies and guarantees -/

/-- Before each call the others take any steps that `R` allows. -/
def Interfered (R : S → S → Prop) (D : Device Call Answer S) : Device Call Answer S :=
  fun c s r u => ∃ t, R s t ∧ D c t r u

section Rely

variable {β : Type} {R : S → S → Prop} {D : Device Call Answer S} {G : Call → S → Prop}

/-- One call, at an assertion that the others keep. -/
theorem wp_interfered {A : S → Prop} {c : Call} {f : Answer c → Prog Call Answer β}
    {Q : β → S → Prop} {s : S} (hs : A s) (hR : ∀ s t, R s t → A s → A t) (hG : G c s)
    (hf : ∀ t r u, A t → D c t r u → (f r).wp (Interfered R D) G Q u) :
    (perform c >>= f).wp (Interfered R D) G Q s := by
  refine ⟨hG, ?_⟩
  rintro r u ⟨t, ht, hd⟩
  exact hf t r u (hR s t ht hs) hd

/-- An assertion that the others keep, and each of these calls. -/
theorem wp_interfered_only {A : S → Prop} {P : Call → Prop} {p : Prog Call Answer β} {s : S}
    (hp : p.Only P) (hs : A s) (hR : ∀ s t, R s t → A s → A t)
    (hG : ∀ c s, P c → A s → G c s) (hD : ∀ c s r t, P c → A s → D c s r t → A t) :
    p.wp (Interfered R D) G (fun _ => A) s := by
  induction p generalizing s with
  | ret b => exact hs
  | call c k ih =>
      refine ⟨hG c s hp.1 hs, ?_⟩
      rintro r u ⟨t, ht, hd⟩
      exact ih r (hp.2 r) (hD c t r u hp.1 (hR s t ht hs) hd)

/-- What the others do leaves a stable weakest precondition. -/
theorem wp_interfered_stable {p : Prog Call Answer β} {Q : β → S → Prop} {s t : S}
    (htrans : ∀ {s t u}, R s t → R t u → R s u) (hG : ∀ {c s t}, R s t → G c s → G c t)
    (hQ : ∀ {b s t}, R s t → Q b s → Q b t) (h : p.wp (Interfered R D) G Q s) (hst : R s t) :
    p.wp (Interfered R D) G Q t := by
  cases p with
  | ret b => exact hQ hst h
  | call c k =>
      refine ⟨hG hst h.1, ?_⟩
      rintro r u ⟨v, hv, hd⟩
      exact h.2 r u ⟨v, htrans hst hv, hd⟩

end Rely

/-- Each thread relies on `R` for the steps of the others, and guarantees `G` at each of its calls:
a call so guaranteed is a step that the others rely on. -/
structure Compatible [DecidableEq τ] (D : Device Call Answer S)
    (Next : τ → α → S → Prog Call Answer α → S → Prop)
    (Allowed : Threads τ Call Answer α S → τ → Call → Prop) (R : τ → S → S → Prop)
    (G : τ → Call → S → Prop) (Q : τ → α → S → Prop) : Prop where
  refl : ∀ t s, R t s s
  trans : ∀ {t s u v}, R t s u → R t u v → R t s v
  guard : ∀ {t c s u}, R t s u → G t c s → G t c u
  post : ∀ {t a s u}, R t s u → Q t a s → Q t a u
  call : ∀ {x t u c r s}, t ≠ u → Allowed x u c → G u c x.state → D c x.state r s → R t x.state s
  next : ∀ {t u a s p s'}, t ≠ u → Q u a s → Next u a s p s' → R t s s'
  start : ∀ {t a s p s'}, Q t a s → Next t a s p s' → p.wp (Interfered (R t) D) (G t) (Q t) s'

theorem Compatible.of_run [DecidableEq τ] {D : Device Call Answer S}
    {Next : τ → α → S → Prog Call Answer α → S → Prop}
    {Allowed : Threads τ Call Answer α S → τ → Call → Prop} {R : τ → S → S → Prop}
    {G : τ → Call → S → Prop} {Q : τ → α → S → Prop} (h : Compatible D Next Allowed R G Q)
    {x₀ x : Threads τ Call Answer α S} (hrun : ReflTransGen (ThreadsStep D Next Allowed) x₀ x)
    (h₀ : ∀ t, (x₀.left t).wp (Interfered (R t) D) (G t) (Q t) x₀.state) (t : τ) :
    (x.left t).wp (Interfered (R t) D) (G t) (Q t) x.state := by
  induction hrun generalizing t with
  | refl => exact h₀ t
  | @tail x y _ hstep ih =>
      obtain ⟨u, hu⟩ := hstep
      by_cases heq : t = u
      · subst heq
        have hown := ih t
        cases hu with
        | call hleft _ hd =>
            rw [hleft] at hown
            simpa using hown.2 _ _ ⟨x.state, h.refl t x.state, hd⟩
        | next hleft hnext =>
            rw [hleft] at hown
            simpa using h.start hown hnext
      · have hother : R t x.state y.state := by
          have hact := ih u
          cases hu with
          | call hleft hallowed hd =>
              rw [hleft] at hact
              exact h.call heq hallowed hact.1 hd
          | next hleft hnext =>
              rw [hleft] at hact
              exact h.next heq hact hnext
        have hsame : y.left t = x.left t := by
          cases hu <;> exact Function.update_of_ne heq _ _
        rw [hsame]
        exact wp_interfered_stable h.trans h.guard h.post (ih t) hother

/-! ## Projections -/

section Project

variable [DecidableEq τ] {X : Type} {D : Device Call Answer S} {E : Device Call Answer X}
  {Next : τ → α → S → Prog Call Answer α → S → Prop}
  {NextX : τ → α → X → Prog Call Answer α → X → Prop}

/-- A run on more data is a run on a part of it. -/
theorem run_project (π : X → S) (hcall : ∀ {c x r y}, E c x r y → D c (π x) r (π y))
    (hnext : ∀ {t a x p y}, NextX t a x p y → Next t a (π x) p (π y))
    {x y : Threads τ Call Answer α X}
    (hrun : ReflTransGen (ThreadsStep E NextX fun _ _ _ => True) x y) :
    ReflTransGen (ThreadsStep D Next fun _ _ _ => True) ⟨x.left, π x.state⟩ ⟨y.left, π y.state⟩ := by
  let part (x : Threads τ Call Answer α X) : Threads τ Call Answer α S := ⟨x.left, π x.state⟩
  refine hrun.lift part ?_
  rintro x y ⟨t, hstep⟩
  refine ⟨t, ?_⟩
  cases hstep with
  | call hleft _ hd => exact .call hleft trivial (hcall hd)
  | next hleft hn => exact .next hleft (hnext hn)

end Project

/-! ## Undisturbed executions -/

section Alone

variable [DecidableEq τ] {D : Device Call Answer S}
  {Next : τ → α → S → Prog Call Answer α → S → Prop}

/-- One call of a thread, while the others wait. -/
theorem run_allowed {Allowed : Threads τ Call Answer α S → τ → Call → Prop}
    {left : τ → Prog Call Answer α} {t : τ} {c : Call} {k : Answer c → Prog Call Answer α}
    {r : Answer c} {s u : S} (hallowed : Allowed ⟨Function.update left t (.call c k), s⟩ t c)
    (hd : D c s r u) :
    ReflTransGen (ThreadsStep D Next Allowed) ⟨Function.update left t (.call c k), s⟩
      ⟨Function.update left t (k r), u⟩ := by
  refine .single ⟨t, ?_⟩
  have hcall : ThreadStep D Next Allowed ⟨Function.update left t (.call c k), s⟩ t _ :=
    .call (Function.update_self t _ left) hallowed hd
  simpa only [Function.update_idem] using hcall

theorem run_call {left : τ → Prog Call Answer α} {t : τ} {c : Call}
    {k : Answer c → Prog Call Answer α} {r : Answer c} {s s' : S} (hd : D c s r s') :
    ReflTransGen (ThreadsStep D Next fun _ _ _ => True) ⟨Function.update left t (.call c k), s⟩
      ⟨Function.update left t (k r), s'⟩ :=
  run_allowed trivial hd

/-- The calls that a thread is allowed wherever the others stand. -/
def allowedCalls (D : Device Call Answer S) (Allowed : Threads τ Call Answer α S → τ → Call → Prop)
    (t : τ) : Device Call Answer S :=
  fun c s r s' => D c s r s' ∧ ∀ left, Allowed ⟨left, s⟩ t c

/-- A thread runs the first part of its program while the others wait. -/
theorem run_allowed_bind {Allowed : Threads τ Call Answer α S → τ → Call → Prop} {β : Type}
    {left : τ → Prog Call Answer α} {t : τ} {p : Prog Call Answer β} {f : β → Prog Call Answer α}
    {s s' : S} {b : β} (h : Ends (allowedCalls D Allowed t) p s b s') :
    ReflTransGen (ThreadsStep D Next Allowed) ⟨Function.update left t (p >>= f), s⟩
      ⟨Function.update left t (f b), s'⟩ := by
  induction h with
  | ret b s => exact .refl
  | call hd _ ih => exact (run_allowed (hd.2 _) hd.1).trans ih

theorem run_allowed_left {Allowed : Threads τ Call Answer α S → τ → Call → Prop} {β : Type}
    {x : Threads τ Call Answer α S} {t : τ} {p : Prog Call Answer β} {f : β → Prog Call Answer α}
    {s : S} {b : β} (hleft : x.left t = p >>= f)
    (h : Ends (allowedCalls D Allowed t) p x.state b s) :
    ReflTransGen (ThreadsStep D Next Allowed) x ⟨Function.update x.left t (f b), s⟩ := by
  have hrun : ReflTransGen (ThreadsStep D Next Allowed)
      ⟨Function.update x.left t (p >>= f), x.state⟩ _ := run_allowed_bind h
  rwa [← hleft, Function.update_eq_self] at hrun

/-- A thread runs its program to the end while the others wait. -/
theorem run_of_ends {left : τ → Prog Call Answer α} {t : τ} {p : Prog Call Answer α} {s s' : S}
    {a : α} (h : Ends D p s a s') :
    ReflTransGen (ThreadsStep D Next fun _ _ _ => True) ⟨Function.update left t p, s⟩
      ⟨Function.update left t (.ret a), s'⟩ := by
  induction h with
  | ret a s => exact .refl
  | call hd _ ih => exact (run_call hd).trans ih

/-- A thread starts its next program and runs it to the end while the others wait. -/
theorem run_next {x : Threads τ Call Answer α S} {t : τ} {a b : α} {p : Prog Call Answer α}
    {s s' : S} (hleft : x.left t = .ret a) (hnext : Next t a x.state p s) (h : Ends D p s b s') :
    ReflTransGen (ThreadsStep D Next fun _ _ _ => True) x
      ⟨Function.update x.left t (.ret b), s'⟩ :=
  .head ⟨t, .next hleft hnext⟩ (run_of_ends h)

end Alone

end DeviceCalls
