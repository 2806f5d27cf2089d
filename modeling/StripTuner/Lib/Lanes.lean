import Mathlib.Algebra.Order.Ring.GeomSum
import Mathlib.Data.Nat.Bitwise
import Mathlib.Data.Nat.Choose.Basic
import Mathlib.Tactic.Ring

/-!
# Lanes

A list of words packed into one number, each in a lane with a bit for its carry. One operation on the
number is one on every word, so a property of all pairs of words is decided in a few operations for
each word.
-/

namespace Lanes

variable {w n : Nat} {xs ys : List Nat}

/-- The words in lanes of `w + 1` bits, the first lowest. -/
def pack (w : Nat) : List Nat → Nat
  | [] => 0
  | x :: xs => 2 ^ (w + 1) * pack w xs + x

/-- A one in each of `n` lanes. -/
def ones (w n : Nat) : Nat := ((2 ^ (w + 1)) ^ n - 1) / (2 ^ (w + 1) - 1)

theorem two_le_lane (w : Nat) : 2 ≤ 2 ^ (w + 1) := Nat.le_self_pow (Nat.succ_ne_zero w) 2

@[simp] theorem ones_zero (w : Nat) : ones w 0 = 0 := by simp [ones]

theorem ones_succ (w n : Nat) : ones w (n + 1) = 2 ^ (w + 1) * ones w n + 1 := by
  rw [ones, ones, ← Nat.geomSum_eq (two_le_lane w), ← Nat.geomSum_eq (two_le_lane w)]
  exact geom_sum_succ

theorem pack_append (xs ys : List Nat) :
    pack w (xs ++ ys) = (2 ^ (w + 1)) ^ xs.length * pack w ys + pack w xs := by
  induction xs with
  | nil => simp [pack]
  | cons x xs ih =>
      rw [List.cons_append, pack, ih, pack, List.length_cons, Nat.pow_succ']
      ring

/-! ## One operation on all words -/

/-- An exclusive or of numbers in two parts. -/
theorem xor_parts {k a b x y : Nat} (hx : x < 2 ^ k) (hy : y < 2 ^ k) :
    (2 ^ k * a + x) ^^^ (2 ^ k * b + y) = 2 ^ k * (a ^^^ b) + (x ^^^ y) := by
  apply Nat.eq_of_testBit_eq
  intro i
  rw [Nat.testBit_xor, Nat.testBit_two_pow_mul_add a hx, Nat.testBit_two_pow_mul_add b hy,
    Nat.testBit_two_pow_mul_add _ (Nat.xor_lt_two_pow hx hy)]
  split <;> rw [Nat.testBit_xor]

theorem and_parts {k a b x y : Nat} (hx : x < 2 ^ k) (hy : y < 2 ^ k) :
    (2 ^ k * a + x) &&& (2 ^ k * b + y) = 2 ^ k * (a &&& b) + (x &&& y) := by
  apply Nat.eq_of_testBit_eq
  intro i
  rw [Nat.testBit_land, Nat.testBit_two_pow_mul_add a hx, Nat.testBit_two_pow_mul_add b hy,
    Nat.testBit_two_pow_mul_add _ (Nat.and_lt_two_pow x hy)]
  split <;> rw [Nat.testBit_land]

theorem parts_injective {k a b x y : Nat} (hx : x < 2 ^ k) (hy : y < 2 ^ k)
    (h : 2 ^ k * a + x = 2 ^ k * b + y) : a = b ∧ x = y := by
  have hdiv := congrArg (· / 2 ^ k) h
  have hmod := congrArg (· % 2 ^ k) h
  simp only [Nat.mul_add_div (Nat.two_pow_pos k), Nat.div_eq_of_lt hx, Nat.div_eq_of_lt hy,
    Nat.add_zero] at hdiv
  simp only [Nat.mul_add_mod, Nat.mod_eq_of_lt hx, Nat.mod_eq_of_lt hy] at hmod
  exact ⟨hdiv, hmod⟩

/-- A word is added to every word. -/
theorem pack_map_xor {c : Nat} (hc : c < 2 ^ w) (hxs : ∀ x ∈ xs, x < 2 ^ w) :
    pack w (xs.map (c ^^^ ·)) = (c * ones w xs.length) ^^^ pack w xs := by
  have hlane : 2 ^ w < 2 ^ (w + 1) := Nat.pow_lt_pow_succ Nat.one_lt_two
  induction xs with
  | nil => simp [pack]
  | cons x xs ih =>
      obtain ⟨hx, hrest⟩ := List.forall_mem_cons.1 hxs
      have hones : c * ones w (x :: xs).length = 2 ^ (w + 1) * (c * ones w xs.length) + c := by
        rw [List.length_cons, ones_succ]
        ring
      rw [List.map_cons, pack, pack, hones, ih hrest, xor_parts (hc.trans hlane) (hx.trans hlane)]

/-- The carries of all lanes, when the largest word is added to each. -/
def AllSet (w n p : Nat) : Prop :=
  (p + (2 ^ w - 1) * ones w n) &&& (2 ^ w * ones w n) = 2 ^ w * ones w n

instance : Decidable (AllSet w n p) := inferInstanceAs (Decidable (_ = _))

theorem zero_notMem_of_allSet (hxs : ∀ x ∈ xs, x < 2 ^ w) (h : AllSet w xs.length (pack w xs)) :
    0 ∉ xs := by
  have hlane : 2 ^ w < 2 ^ (w + 1) := Nat.pow_lt_pow_succ Nat.one_lt_two
  induction xs with
  | nil => exact List.not_mem_nil
  | cons x xs ih =>
      obtain ⟨hx, hrest⟩ := List.forall_mem_cons.1 hxs
      have hsum : pack w (x :: xs) + (2 ^ w - 1) * ones w (x :: xs).length =
          2 ^ (w + 1) * (pack w xs + (2 ^ w - 1) * ones w xs.length) + (x + (2 ^ w - 1)) := by
        rw [pack, List.length_cons, ones_succ]
        ring
      have hcarry : 2 ^ w * ones w (x :: xs).length =
          2 ^ (w + 1) * (2 ^ w * ones w xs.length) + 2 ^ w := by
        rw [List.length_cons, ones_succ]
        ring
      have hword : x + (2 ^ w - 1) < 2 ^ (w + 1) := by
        rw [Nat.pow_succ]
        omega
      rw [AllSet, hsum, hcarry, and_parts hword hlane] at h
      obtain ⟨htail, hhead⟩ := parts_injective (Nat.and_lt_two_pow _ hlane) hlane h
      rw [List.mem_cons, not_or]
      refine ⟨?_, ih hrest htail⟩
      rintro rfl
      rw [Nat.and_two_pow, Nat.zero_add, Nat.testBit_lt_two_pow (by omega), Bool.toNat_false,
        Nat.zero_mul] at hhead
      exact absurd hhead (Nat.two_pow_pos w).ne

/-! ## Pairs -/

/-- The sums of all pairs. -/
def pairs : List Nat → List Nat
  | [] => []
  | x :: xs => xs.map (x ^^^ ·) ++ pairs xs

/-- The sums of all pairs, packed. -/
def packPairs (w : Nat) : List Nat → Nat
  | [] => 0
  | x :: xs =>
    (2 ^ (w + 1)) ^ xs.length * packPairs w xs + ((x * ones w xs.length) ^^^ pack w xs)

theorem packPairs_eq (hxs : ∀ x ∈ xs, x < 2 ^ w) : packPairs w xs = pack w (pairs xs) := by
  induction xs with
  | nil => rfl
  | cons x xs ih =>
      obtain ⟨hx, hrest⟩ := List.forall_mem_cons.1 hxs
      rw [packPairs, pairs, pack_append, ih hrest, pack_map_xor hx hrest, List.length_map]

theorem lt_of_mem_pairs (hxs : ∀ x ∈ xs, x < 2 ^ w) : ∀ p ∈ pairs xs, p < 2 ^ w := by
  induction xs with
  | nil => simp [pairs]
  | cons x xs ih =>
      obtain ⟨hx, hrest⟩ := List.forall_mem_cons.1 hxs
      intro p hp
      rcases List.mem_append.1 hp with hp | hp
      · obtain ⟨y, hy, rfl⟩ := List.mem_map.1 hp
        exact Nat.xor_lt_two_pow hx (hrest y hy)
      · exact ih hrest p hp

theorem mem_pairs {i j x y : Nat} (hx : xs[i]? = some x) (hy : xs[j]? = some y) (hij : i < j) :
    x ^^^ y ∈ pairs xs := by
  induction xs generalizing i j with
  | nil => simp at hx
  | cons z xs ih =>
      obtain ⟨j, rfl⟩ := Nat.exists_eq_succ_of_ne_zero (Nat.ne_zero_of_lt hij)
      rw [List.getElem?_cons_succ] at hy
      rw [pairs, List.mem_append]
      cases i with
      | zero =>
          obtain rfl := Option.some.inj hx
          exact .inl (List.mem_map_of_mem (List.mem_of_getElem? hy))
      | succ i => exact .inr (ih hx hy (Nat.lt_of_succ_lt_succ hij))

theorem length_pairs (xs : List Nat) : (pairs xs).length = xs.length * (xs.length - 1) / 2 := by
  induction xs with
  | nil => rfl
  | cons x xs ih =>
      rw [pairs, List.length_append, List.length_map, ih, List.length_cons, Nat.triangle_succ,
        Nat.add_comm]

/-- The word is not the sum of a pair. -/
def IsNoPair (w : Nat) (xs : List Nat) (c : Nat) : Prop :=
  AllSet w (xs.length * (xs.length - 1) / 2)
    ((c * ones w (xs.length * (xs.length - 1) / 2)) ^^^ packPairs w xs)

instance (c : Nat) : Decidable (IsNoPair w xs c) := inferInstanceAs (Decidable (AllSet ..))

theorem IsNoPair.ne {c i j x y : Nat} (h : IsNoPair w xs c) (hxs : ∀ x ∈ xs, x < 2 ^ w)
    (hc : c < 2 ^ w) (hx : xs[i]? = some x) (hy : xs[j]? = some y) (hij : i < j) :
    c ≠ x ^^^ y := by
  have hpairs := lt_of_mem_pairs hxs
  have hwords : ∀ p ∈ (pairs xs).map (c ^^^ ·), p < 2 ^ w := by
    intro p hp
    obtain ⟨q, hq, rfl⟩ := List.mem_map.1 hp
    exact Nat.xor_lt_two_pow hc (hpairs q hq)
  rw [IsNoPair, ← length_pairs, packPairs_eq hxs, ← pack_map_xor hc hpairs,
    ← List.length_map (c ^^^ ·)] at h
  rintro rfl
  apply zero_notMem_of_allSet hwords h
  rw [← Nat.xor_self (x ^^^ y)]
  exact List.mem_map_of_mem (mem_pairs hx hy hij)

end Lanes
