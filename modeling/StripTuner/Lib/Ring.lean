import Mathlib.Tactic.Common

/-!
# Ring buffers

The last elements written to a fixed number of slots, one after the other and around the end. The
abstract value is the list of everything written; the slots hold as much of its end as they can.
-/

namespace RingBuffer

variable {α : Type} {n : Nat}

/-- The slot after this one. -/
def succSlot (next : Fin n) : Fin n := ⟨(next + 1) % n, Nat.mod_lt _ (Fin.pos next)⟩

/-- The slot of the element written `i` writes before the last one. -/
def backSlot (next : Fin n) (i : Nat) : Fin n :=
  ⟨(next + (n - 1 - i)) % n, Nat.mod_lt _ (Fin.pos next)⟩

/-- The slots hold the end of the list, and `next` is written next. -/
def Holds (slots : Vector α n) (next : Fin n) (xs : List α) : Prop :=
  ∀ i x, i < n → xs.reverse[i]? = some x → slots.get (backSlot next i) = x

theorem holds_nil (slots : Vector α n) (next : Fin n) : Holds slots next [] := by
  intro i x _ hx
  simp at hx

theorem backSlot_succSlot_zero (next : Fin n) : backSlot (succSlot next) 0 = next := by
  have hlt := next.isLt
  have hwhole : next.val + 1 + (n - 1) = next.val + n := by omega
  apply Fin.ext
  simp only [backSlot, succSlot, Nat.sub_zero, Nat.mod_add_mod, hwhole, Nat.add_mod_right]
  exact Nat.mod_eq_of_lt hlt

theorem backSlot_succSlot_succ (next : Fin n) {i : Nat} (hi : i + 1 < n) :
    backSlot (succSlot next) (i + 1) = backSlot next i := by
  have hshift : next.val + 1 + (n - 1 - (i + 1)) = next.val + (n - 1 - i) := by omega
  apply Fin.ext
  simp only [backSlot, succSlot, Nat.mod_add_mod, hshift]

theorem backSlot_ne (next : Fin n) {i : Nat} (hi : i + 1 < n) : backSlot next i ≠ next := by
  have hlt := next.isLt
  intro heq
  have hval : (next.val + (n - 1 - i)) % n = next.val := congrArg Fin.val heq
  by_cases hwrap : next.val + (n - 1 - i) < n
  · rw [Nat.mod_eq_of_lt hwrap] at hval
    omega
  · rw [Nat.mod_eq_sub_mod (by omega), Nat.mod_eq_of_lt (by omega)] at hval
    omega

/-- The oldest element of a full ring is in the slot written next. -/
theorem backSlot_last (next : Fin n) : backSlot next (n - 1) = next := by
  apply Fin.ext
  simp only [backSlot, Nat.sub_self, Nat.add_zero]
  exact Nat.mod_eq_of_lt next.isLt

theorem get_set (slots : Vector α n) (next slot : Fin n) (x : α) :
    (slots.set next x).get slot = if next = slot then x else slots.get slot := by
  have hget (v : Vector α n) : v.get slot = v[slot.val] := rfl
  rw [hget, hget, Vector.getElem_set]
  simp only [Fin.ext_iff]

/-- Writing an element appends it. -/
theorem Holds.push {slots : Vector α n} {next : Fin n} {xs : List α} (h : Holds slots next xs)
    (x : α) : Holds (slots.set next x) (succSlot next) (xs ++ [x]) := by
  intro i y hi hy
  rw [List.reverse_append, List.reverse_singleton, List.singleton_append] at hy
  cases i with
  | zero =>
      rw [List.getElem?_cons_zero] at hy
      rw [backSlot_succSlot_zero, get_set, if_pos rfl]
      exact Option.some.inj hy
  | succ i =>
      rw [List.getElem?_cons_succ] at hy
      rw [backSlot_succSlot_succ next hi, get_set, if_neg (backSlot_ne next hi).symm]
      exact h i y (by omega) hy

/-- The newest element. -/
theorem Holds.newest {slots : Vector α n} {next : Fin n} {xs : List α} (h : Holds slots next xs)
    {x : α} (hx : xs.getLast? = some x) : slots.get (backSlot next 0) = x := by
  apply h 0 x (Fin.pos next)
  rwa [← List.head?_eq_getElem?, List.head?_reverse]

/-- The oldest of the last `n` elements. -/
theorem Holds.oldest {slots : Vector α n} {next : Fin n} {xs : List α} (h : Holds slots next xs)
    {x : α} (hx : xs.reverse[n - 1]? = some x) : slots.get next = x := by
  have hlast := h (n - 1) x (by have := Fin.pos next; omega) hx
  rwa [backSlot_last] at hlast

end RingBuffer
