import Mathlib.Data.List.OfFn
import Mathlib.Algebra.Group.Nat.Defs
import Mathlib.Tactic.Common

/-!
# Byte layouts

Packed records are lists of bytes. A field is a slice of the list; an unsigned integer is stored
least significant byte first.
-/

namespace ByteLayout

/-! ## Fields of a byte list -/

/-- The `n` bytes at offset `off`, zero where the list ends. -/
def field (bytes : List UInt8) (off n : Nat) : Vector UInt8 n :=
  Vector.ofFn fun i => bytes.getD (off + i) 0

/-- The bytes at offsets `off` to `off + n - 1`, as many as there are. -/
def slice (bytes : List UInt8) (off n : Nat) : List UInt8 := (bytes.drop off).take n

theorem length_slice {bytes : List UInt8} {off n : Nat} (h : off + n ≤ bytes.length) :
    (slice bytes off n).length = n := by
  rw [slice, List.length_take, List.length_drop]
  omega

theorem toList_field {bytes : List UInt8} {off n : Nat} (h : off + n ≤ bytes.length) :
    (field bytes off n).toList = slice bytes off n := by
  refine List.ext_getElem (by rw [length_slice h, Vector.length_toList]) fun i hi hi' => ?_
  have hn : i < n := by simpa using hi
  simp [field, slice, show off + i < bytes.length by omega]

theorem slice_append_left {xs ys : List UInt8} {off n : Nat} (h : off + n ≤ xs.length) :
    slice (xs ++ ys) off n = slice xs off n := by
  rw [slice, slice, List.drop_append_of_le_length (by omega),
    List.take_append_of_le_length (by rw [List.length_drop]; omega)]

theorem slice_append_right {xs ys : List UInt8} {off n : Nat} (h : xs.length ≤ off) :
    slice (xs ++ ys) off n = slice ys (off - xs.length) n := by
  rw [slice, slice, List.drop_append, List.drop_eq_nil_of_le h, List.nil_append]

theorem slice_self {xs : List UInt8} {n : Nat} (h : xs.length = n) : slice xs 0 n = xs := by
  rw [slice, List.drop_zero, ← h, List.take_length]

/-- Two adjacent slices make one. -/
theorem slice_append_slice (bytes : List UInt8) (off m n : Nat) :
    slice bytes off m ++ slice bytes (off + m) n = slice bytes off (m + n) := by
  rw [slice, slice, slice, List.take_add, List.drop_drop]

theorem field_toList {n : Nat} (v : Vector UInt8 n) : field v.toList 0 n = v := by
  ext i hi
  simp [field]

theorem field_take {bytes : List UInt8} {m off n : Nat} (h : off + n ≤ m) :
    field (bytes.take m) off n = field bytes off n := by
  unfold field
  congr 1
  funext i
  have hi : off + i < m := by omega
  rw [List.getD_eq_getElem?_getD, List.getElem?_take_of_lt hi, List.getD_eq_getElem?_getD]

theorem field_append_left {xs ys : List UInt8} {off n : Nat} (h : off + n ≤ xs.length) :
    field (xs ++ ys) off n = field xs off n := by
  ext i hi
  simp [field, List.getElem?_append_left (show off + i < xs.length by omega)]

theorem field_append_right {xs ys : List UInt8} {off n : Nat} (h : xs.length ≤ off) :
    field (xs ++ ys) off n = field ys (off - xs.length) n := by
  ext i hi
  simp [field, List.getElem?_append_right (show xs.length ≤ off + i by omega),
    show off + i - xs.length = off - xs.length + i by omega]

/-! ## Little-endian integers -/

/-- The low `n` bytes of `x`, least significant first. -/
def encodeLe : Nat → Nat → List UInt8
  | 0, _ => []
  | n + 1, x => UInt8.ofNat x :: encodeLe n (x / 256)

/-- The number whose bytes, least significant first, are given. -/
def decodeLe : List UInt8 → Nat
  | [] => 0
  | b :: bytes => b.toNat + 256 * decodeLe bytes

@[simp] theorem length_encodeLe (n x : Nat) : (encodeLe n x).length = n := by
  induction n generalizing x with
  | zero => rfl
  | succ n ih => rw [encodeLe, List.length_cons, ih]

theorem decodeLe_encodeLe {n x : Nat} (h : x < 256 ^ n) : decodeLe (encodeLe n x) = x := by
  induction n generalizing x with
  | zero =>
      rw [Nat.pow_zero, Nat.lt_one_iff] at h
      rw [h, encodeLe, decodeLe]
  | succ n ih =>
      have hdiv : x / 256 < 256 ^ n := Nat.div_lt_of_lt_mul (by rwa [← Nat.pow_succ'])
      rw [encodeLe, decodeLe, ih hdiv, UInt8.toNat_ofNat']
      omega

theorem encodeLe_decodeLe (bytes : List UInt8) : encodeLe bytes.length (decodeLe bytes) = bytes := by
  induction bytes with
  | nil => rfl
  | cons b bytes ih =>
      have hb : b.toNat < 256 := b.toNat_lt
      have hhead : UInt8.ofNat (b.toNat + 256 * decodeLe bytes) = b := by
        apply UInt8.toNat_inj.mp
        rw [UInt8.toNat_ofNat']
        omega
      have htail : (b.toNat + 256 * decodeLe bytes) / 256 = decodeLe bytes := by omega
      rw [decodeLe, List.length_cons, encodeLe, hhead, htail, ih]

theorem decodeLe_lt (bytes : List UInt8) : decodeLe bytes < 256 ^ bytes.length := by
  induction bytes with
  | nil => exact Nat.one_pos
  | cons b bytes ih =>
      have hb : b.toNat < 256 := b.toNat_lt
      rw [decodeLe, List.length_cons, Nat.pow_succ]
      omega

/-- A 32-bit word as four bytes. -/
def word32 (x : UInt32) : List UInt8 := encodeLe 4 x.toNat

/-- The 32-bit word stored at an offset. -/
def readWord32 (bytes : List UInt8) (off : Nat) : UInt32 := UInt32.ofNat (decodeLe (slice bytes off 4))

@[simp] theorem length_word32 (x : UInt32) : (word32 x).length = 4 := length_encodeLe 4 _

theorem readWord32_word32 (x : UInt32) : readWord32 (word32 x) 0 = x := by
  rw [readWord32, slice_self (length_word32 x), word32, decodeLe_encodeLe x.toNat_lt,
    UInt32.ofNat_toNat]

theorem word32_readWord32 {bytes : List UInt8} {off : Nat} (h : off + 4 ≤ bytes.length) :
    word32 (readWord32 bytes off) = slice bytes off 4 := by
  have hlt := decodeLe_lt (slice bytes off 4)
  have hword := encodeLe_decodeLe (slice bytes off 4)
  rw [length_slice h] at hlt hword
  rw [word32, readWord32, UInt32.toNat_ofNat_of_lt' hlt, hword]

theorem readWord32_append_left {xs ys : List UInt8} {off : Nat} (h : off + 4 ≤ xs.length) :
    readWord32 (xs ++ ys) off = readWord32 xs off := by
  rw [readWord32, readWord32, slice_append_left h]

theorem readWord32_append_right {xs ys : List UInt8} {off : Nat} (h : xs.length ≤ off) :
    readWord32 (xs ++ ys) off = readWord32 ys (off - xs.length) := by
  rw [readWord32, readWord32, slice_append_right h]

theorem slice_four {bytes : List UInt8} {off : Nat} (h : off + 4 ≤ bytes.length) :
    slice bytes off 4 = [bytes.getD off 0, bytes.getD (off + 1) 0, bytes.getD (off + 2) 0,
      bytes.getD (off + 3) 0] := by
  refine List.ext_getElem (by rw [length_slice h]; rfl) fun i hi hi' => ?_
  have h4 : i < 4 := hi'
  match i, h4 with
  | 0, _ | 1, _ | 2, _ | 3, _ => simp [slice, show off < bytes.length by omega,
      show off + 1 < bytes.length by omega, show off + 2 < bytes.length by omega,
      show off + 3 < bytes.length by omega]

/-- Bits below a shifted number are added to it. -/
theorem or_shiftLeft_eq_add {a b k : Nat} (h : a < 2 ^ k) : a ||| b <<< k = a + 2 ^ k * b := by
  rw [Nat.or_comm, ← Nat.shiftLeft_add_eq_or_of_lt h, Nat.shiftLeft_eq, Nat.mul_comm b,
    Nat.add_comm]

end ByteLayout
