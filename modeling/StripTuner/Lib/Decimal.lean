import Mathlib.Tactic.Common
import Mathlib.Data.List.Induction
import Mathlib.Data.List.GetD
import Mathlib.Algebra.Ring.Nat

/-!
# Decimal texts

The decimal digits of a number as ASCII bytes, the value of a list of digits, and the lists that are
canonical: those without a leading zero.
-/

namespace Decimal

/-- An ASCII digit. -/
def isDigit (byte : UInt8) : Bool := 0x30 ≤ byte && byte ≤ 0x39

/-- The decimal digits of a number. -/
def digits (n : Nat) : List UInt8 := (Nat.toDigits 10 n).map fun c => c.toNat.toUInt8

/-- The number that a list of digits denotes. -/
def value (text : List UInt8) : Nat :=
  text.foldl (fun value digit => 10 * value + (digit.toNat - 0x30)) 0

/-- Digits without a leading zero. -/
structure Canonical (text : List UInt8) : Prop where
  nonempty : text ≠ []
  all : text.all isDigit = true
  noLeadingZero : 1 < text.length → text.getD 0 0 ≠ 0x30

theorem isDigit_iff {byte : UInt8} :
    isDigit byte = true ↔ 48 ≤ byte.toNat ∧ byte.toNat ≤ 57 := by
  rw [isDigit, Bool.and_eq_true, decide_eq_true_eq, decide_eq_true_eq, UInt8.le_iff_toNat_le,
    UInt8.le_iff_toNat_le]
  rfl

/-! ## Digits of a number -/

/-- The digit of a number below ten. -/
def digit (d : Nat) : UInt8 := (0x30 + d).toUInt8

theorem toNat_digit {d : Nat} (h : d < 10) : (digit d).toNat = 48 + d := by
  rw [digit, Nat.toUInt8, UInt8.toNat_ofNat']
  omega

theorem isDigit_digit {d : Nat} (h : d < 10) : isDigit (digit d) = true := by
  rw [isDigit_iff, toNat_digit h]
  omega

theorem digits_of_lt {n : Nat} (h : n < 10) : digits n = [digit n] := by
  have hchar : ∀ d < 10, d.digitChar.toNat.toUInt8 = digit d := by decide
  rw [digits, Nat.toDigits_of_lt_base h, List.map_singleton, hchar n h]

/-- The last digit comes off the end. -/
theorem digits_append_digit {a d : Nat} (ha : 0 < a) (hd : d < 10) :
    digits (10 * a + d) = digits a ++ [digit d] := by
  rw [digits, ← Nat.toDigits_append_toDigits (by decide) ha hd, List.map_append, ← digits, ← digits,
    digits_of_lt hd]

theorem digits_ne_nil (n : Nat) : digits n ≠ [] := by
  simp [digits]

theorem length_digits_le_iff {n k : Nat} (h : 0 < k) : (digits n).length ≤ k ↔ n < 10 ^ k := by
  rw [digits, List.length_map, Nat.length_toDigits_le_iff (by decide) h]

/-- Induction on the digits of a number. -/
theorem digits_induction {P : Nat → Prop} (hdigit : ∀ d < 10, P d)
    (happend : ∀ a d, 0 < a → d < 10 → P a → P (10 * a + d)) (n : Nat) : P n := by
  induction n using Nat.strongRecOn with
  | ind n ih =>
      by_cases hn : n < 10
      · exact hdigit n hn
      · have hsplit : 10 * (n / 10) + n % 10 = n := by omega
        rw [← hsplit]
        exact happend _ _ (by omega) (by omega) (ih _ (by omega))

theorem all_isDigit_digits (n : Nat) : (digits n).all isDigit = true := by
  induction n using digits_induction with
  | hdigit d hd => simp [digits_of_lt hd, isDigit_digit hd]
  | happend a d ha hd ih => simp [digits_append_digit ha hd, ih, isDigit_digit hd]

theorem value_append (xs ys : List UInt8) :
    value (xs ++ ys) =
      ys.foldl (fun value digit => 10 * value + (digit.toNat - 0x30)) (value xs) :=
  List.foldl_append

@[simp] theorem value_digits (n : Nat) : value (digits n) = n := by
  induction n using digits_induction with
  | hdigit d hd => simp [digits_of_lt hd, value, toNat_digit hd]
  | happend a d ha hd ih =>
      rw [digits_append_digit ha hd, value_append, ih, List.foldl_cons, List.foldl_nil,
        toNat_digit hd]
      omega

theorem canonical_digits (n : Nat) : Canonical (digits n) := by
  refine ⟨digits_ne_nil n, all_isDigit_digits n, ?_⟩
  induction n using digits_induction with
  | hdigit d hd => simp [digits_of_lt hd]
  | happend a d ha hd ih =>
      intro _
      have hpos : 0 < (digits a).length := List.length_pos_iff.mpr (digits_ne_nil a)
      rw [digits_append_digit ha hd, List.getD_append _ _ _ _ hpos]
      by_cases hone : 1 < (digits a).length
      · exact ih hone
      · have hlt : a < 10 := by
          have hle := (length_digits_le_iff (n := a) (k := 1) (by decide)).mp (by omega)
          omega
        have hne : digit a ≠ digit 0 := by
          intro heq
          have := congrArg UInt8.toNat heq
          rw [toNat_digit hlt, toNat_digit (by decide)] at this
          omega
        have hzero : (0x30 : UInt8) = digit 0 := by decide
        rw [hzero]
        simpa [digits_of_lt hlt] using hne

/-! ## Canonical texts -/

/-- A canonical text is the decimal text of its value. -/
theorem digits_value {text : List UInt8} (h : Canonical text) : digits (value text) = text := by
  induction text using List.reverseRecOn with
  | nil => exact absurd rfl h.nonempty
  | append_singleton xs byte ih =>
      have hall := h.all
      rw [List.all_append, Bool.and_eq_true, List.all_cons, Bool.and_eq_true] at hall
      have hbyte := isDigit_iff.mp hall.2.1
      have hdigit : digit (byte.toNat - 48) = byte := by
        rw [← UInt8.toNat_inj, toNat_digit (by omega)]
        omega
      rw [value_append, List.foldl_cons, List.foldl_nil]
      by_cases hxs : xs = []
      · subst hxs
        rw [value, List.foldl_nil, Nat.mul_zero, Nat.zero_add, digits_of_lt (by omega), hdigit,
          List.nil_append]
      · have hpos : 0 < xs.length := List.length_pos_iff.mpr hxs
        have hhead : xs.getD 0 0 ≠ 0x30 := by
          have hlead := h.noLeadingZero (by simp; omega)
          rwa [List.getD_append _ _ _ _ hpos] at hlead
        have htext := ih ⟨hxs, hall.1, fun _ => hhead⟩
        have hvalue : 0 < value xs := by
          by_contra hzero
          rw [Nat.eq_zero_of_not_pos hzero] at htext
          rw [← htext] at hhead
          exact hhead (by decide)
        rw [digits_append_digit hvalue (by omega), htext, hdigit]

/-- Digits are worth less than the power of ten of their number. -/
theorem value_lt {text : List UInt8} (h : text.all isDigit = true) :
    value text < 10 ^ text.length := by
  induction text using List.reverseRecOn with
  | nil => exact Nat.one_pos
  | append_singleton xs byte ih =>
      rw [List.all_append, Bool.and_eq_true, List.all_cons, Bool.and_eq_true] at h
      have hbyte := isDigit_iff.mp h.2.1
      have hxs := ih h.1
      rw [value_append, List.foldl_cons, List.foldl_nil, List.length_append, List.length_singleton,
        Nat.pow_succ]
      omega

end Decimal
