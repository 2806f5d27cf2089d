import Mathlib.Data.List.Basic
import Mathlib.Algebra.Ring.Nat

/-!
# Streaming encoders

An encoder is called again and again with the room that there is for symbols, and emits as much of
its output as fits. It says when the output is complete and when the room is used up; it keeps its
position between the calls, and starts over behind the end.
-/

namespace Streaming

/-- One call: what is emitted, the two flags, and the state behind it. -/
structure Session (α σ : Type) where
  emitted : List α
  complete : Bool
  memFull : Bool
  next : σ

/-- What an encoder does in a state with some room. -/
abbrev Encoder (α σ : Type) : Type := σ → Nat → Session α σ

variable {α σ : Type}

/-- The calls for the offered sizes, one after the other. -/
def sessions (encode : Encoder α σ) : σ → List Nat → List (Session α σ)
  | _, [] => []
  | s, free :: sizes => encode s free :: sessions encode (encode s free).next sizes

/-- The state behind these calls. -/
def after (encode : Encoder α σ) (s : σ) (sizes : List Nat) : σ :=
  sizes.foldl (fun s free => (encode s free).next) s

/-- What the calls emit together. -/
def output (encode : Encoder α σ) (s : σ) (sizes : List Nat) : List α :=
  (sessions encode s sizes).flatMap Session.emitted

/-- A call at position `n` of an output, with some room. -/
structure Continues (out : List α) (Start : σ → Prop) (At : Nat → σ → Prop) (n free : Nat)
    (call : Session α σ) : Prop where
  emitted : call.emitted = (out.drop n).take free
  complete_iff : call.complete = true ↔ out.length ≤ n + free
  memFull_iff : call.memFull = true ↔ n + free ≤ out.length
  restart : out.length ≤ n + free → Start call.next
  advance : n + free < out.length → At (n + free) call.next

/-- The encoder puts out a list: `Start` describes its initial states, and `At n` those in which it
has emitted the first `n` symbols. -/
structure Streams (encode : Encoder α σ) (out : List α) (Start : σ → Prop) (At : Nat → σ → Prop) :
    Prop where
  start {s : σ} : Start s → At 0 s
  call {n : Nat} {s : σ} : At n s → ∀ free, Continues out Start At n free (encode s free)

section Run

variable {encode : Encoder α σ} {out : List α} {Start : σ → Prop} {At : Nat → σ → Prop} {n : Nat}
  {s : σ}

theorem output_cons (free : Nat) (sizes : List Nat) : output encode s (free :: sizes) =
    (encode s free).emitted ++ output encode (encode s free).next sizes := rfl

theorem after_cons (free : Nat) (sizes : List Nat) :
    after encode s (free :: sizes) = after encode (encode s free).next sizes := rfl

/-- As long as the room is not enough, no call is complete. -/
theorem Streams.incomplete (h : Streams encode out Start At) (hat : At n s) {sizes : List Nat}
    (hlt : n + sizes.sum < out.length) :
    (∀ call ∈ sessions encode s sizes, call.complete = false) ∧
      output encode s sizes = (out.drop n).take sizes.sum ∧
        At (n + sizes.sum) (after encode s sizes) := by
  induction sizes generalizing n s with
  | nil => exact ⟨by simp [sessions], by simp [output, sessions], hat⟩
  | cons free sizes ih =>
      rw [List.sum_cons, ← Nat.add_assoc] at hlt
      have hopen : n + free < out.length := by omega
      obtain ⟨hcalls, houtput, hafter⟩ := ih ((h.call hat free).advance hopen) hlt
      refine ⟨?_, ?_, ?_⟩
      · rw [sessions, List.forall_mem_cons]
        refine ⟨?_, hcalls⟩
        rw [← Bool.not_eq_true, (h.call hat free).complete_iff]
        omega
      · rw [output_cons, (h.call hat free).emitted, houtput, List.sum_cons, List.take_add, List.drop_drop]
      · rw [after_cons, List.sum_cons, ← Nat.add_assoc]
        exact hafter

/-- With enough room the output is emitted once, the last call of it is the complete one, and the
encoder is back at its start. -/
theorem Streams.completes (h : Streams encode out Start At) (hat : At n s) (hn : n < out.length)
    {sizes : List Nat} (hle : out.length ≤ n + sizes.sum) :
    ∃ used last rest, sizes = used ++ last :: rest ∧
      (∀ call ∈ sessions encode s used, call.complete = false) ∧
      (encode (after encode s used) last).complete = true ∧
      output encode s (used ++ [last]) = out.drop n ∧
      Start (after encode s (used ++ [last])) := by
  induction sizes generalizing n s with
  | nil =>
      rw [List.sum_nil] at hle
      omega
  | cons free sizes ih =>
      rw [List.sum_cons, ← Nat.add_assoc] at hle
      by_cases hlast : out.length ≤ n + free
      · refine ⟨[], free, sizes, rfl, by simp [sessions], (h.call hat free).complete_iff.2 hlast, ?_,
          (h.call hat free).restart hlast⟩
        rw [List.nil_append, output_cons, (h.call hat free).emitted, List.take_of_length_le]
        · simp [output, sessions]
        · rw [List.length_drop]
          omega
      · have hopen : n + free < out.length := by omega
        obtain ⟨used, last, rest, rfl, hcalls, hcomplete, houtput, hstart⟩ :=
          ih ((h.call hat free).advance hopen) hopen hle
        refine ⟨free :: used, last, rest, rfl, ?_, hcomplete, ?_, hstart⟩
        · rw [sessions, List.forall_mem_cons]
          refine ⟨?_, hcalls⟩
          rw [← Bool.not_eq_true, (h.call hat free).complete_iff]
          omega
        · rw [List.cons_append, output_cons, (h.call hat free).emitted, houtput, ← List.drop_drop,
            List.take_append_drop]

/-- Whatever sizes are offered, the encoder is somewhere in its output. -/
theorem Streams.exists_at (h : Streams encode out Start At) (hat : At n s) (sizes : List Nat) :
    ∃ m, At m (after encode s sizes) := by
  induction sizes generalizing n s with
  | nil => exact ⟨n, hat⟩
  | cons free sizes ih =>
      rw [after_cons]
      by_cases hlast : out.length ≤ n + free
      · exact ih (h.start ((h.call hat free).restart hlast))
      · exact ih ((h.call hat free).advance (by omega))

end Run

/-! ## An encoder that keeps its position -/

/-- The encoder of a list whose state is its position. -/
def resume (out : List α) : Encoder α Nat := fun position free =>
  let wanted := out.drop position
  { emitted := wanted.take free
    complete := wanted.length ≤ free
    memFull := free ≤ wanted.length
    next := if wanted.length ≤ free then 0 else position + free }

theorem streams_resume (out : List α) :
    Streams (resume out) out (· = 0) fun n position => position = n ∧ n ≤ out.length where
  start := by
    rintro _ rfl
    exact ⟨rfl, Nat.zero_le _⟩
  call := by
    rintro _ n ⟨rfl, hn⟩ free
    have hlength : (out.drop n).length = out.length - n := List.length_drop
    rw [resume]
    refine ⟨rfl, ?_, ?_, ?_, ?_⟩
    · rw [decide_eq_true_iff, hlength]
      omega
    · rw [decide_eq_true_iff, hlength]
      omega
    · intro hle
      exact if_pos (by omega)
    · intro hlt
      exact ⟨if_neg (by omega), by omega⟩

end Streaming
