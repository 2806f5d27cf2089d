import Mathlib.Algebra.Polynomial.Div
import Mathlib.RingTheory.AdjoinRoot
import Mathlib.Data.ZMod.Basic
import Mathlib.Algebra.Field.ZMod

/-!
# Cyclic redundancy checks

A CRC is the remainder of a message polynomial over the field of two elements. A shift register
computes it bit by bit; here the register is reflected, with the highest coefficient in bit 0.
-/

namespace Crc

open Polynomial

/-! ## Bits as polynomials -/

/-- The polynomial with these coefficients, the first the highest. -/
noncomputable def bitsPoly : List Bool → (ZMod 2)[X]
  | [] => 0
  | b :: bits => (if b then X ^ bits.length else 0) + bitsPoly bits

@[simp] theorem bitsPoly_append (xs ys : List Bool) :
    bitsPoly (xs ++ ys) = X ^ ys.length * bitsPoly xs + bitsPoly ys := by
  induction xs with
  | nil => simp [bitsPoly]
  | cons b xs ih =>
      rw [List.cons_append, bitsPoly, bitsPoly, ih, List.length_append]
      cases b with
      | false => simp
      | true =>
          simp only [if_true, pow_add]
          ring

theorem bitsPoly_replicate_false (m : Nat) : bitsPoly (List.replicate m false) = 0 := by
  induction m with
  | zero => rfl
  | succ m ih => simp [List.replicate_succ, bitsPoly, ih]

theorem degree_bitsPoly_lt (bits : List Bool) : (bitsPoly bits).degree < bits.length := by
  induction bits with
  | nil => simp [bitsPoly]
  | cons b bits ih =>
      have hlt : (bits.length : WithBot ℕ) < (b :: bits).length := by
        exact_mod_cast Nat.lt_succ_self _
      have hhead : (if b then X ^ bits.length else 0 : (ZMod 2)[X]).degree ≤ bits.length := by
        split
        · exact degree_X_pow_le _
        · simp
      exact (degree_add_le _ _).trans_lt (max_lt (hhead.trans_lt hlt) (ih.trans hlt))

theorem coeff_bitsPoly_cons (b : Bool) (bits : List Bool) :
    (bitsPoly (b :: bits)).coeff bits.length = if b then 1 else 0 := by
  rw [bitsPoly, coeff_add, coeff_eq_zero_of_degree_lt (degree_bitsPoly_lt bits), add_zero]
  cases b <;> simp

/-- Bit lists of one length are their polynomials. -/
theorem bitsPoly_injective {xs ys : List Bool} (hlen : xs.length = ys.length)
    (h : bitsPoly xs = bitsPoly ys) : xs = ys := by
  induction xs generalizing ys with
  | nil => exact (List.length_eq_zero_iff.mp hlen.symm).symm
  | cons b xs ih =>
      cases ys with
      | nil => simp at hlen
      | cons c ys =>
          have hlen' : xs.length = ys.length := by simpa using hlen
          have hx := coeff_bitsPoly_cons b xs
          rw [h, hlen', coeff_bitsPoly_cons] at hx
          have hbc : b = c := by cases b <;> cases c <;> simp_all
          subst hbc
          rw [bitsPoly, bitsPoly, hlen', add_right_inj] at h
          rw [ih hlen' h]

/-- Over the field of two elements, exclusive or is addition. -/
theorem bitsPoly_zipWith_xor {xs ys : List Bool} (hlen : xs.length = ys.length) :
    bitsPoly (List.zipWith xor xs ys) = bitsPoly xs + bitsPoly ys := by
  induction xs generalizing ys with
  | nil =>
      rw [List.length_eq_zero_iff.mp hlen.symm]
      simp [bitsPoly]
  | cons b xs ih =>
      cases ys with
      | nil => simp at hlen
      | cons c ys =>
          have hlen' : xs.length = ys.length := by simpa using hlen
          rw [List.zipWith_cons_cons, bitsPoly, bitsPoly, bitsPoly, ih hlen',
            List.length_zipWith, hlen', Nat.min_self]
          have htwo : (X ^ ys.length + X ^ ys.length : (ZMod 2)[X]) = 0 :=
            CharTwo.add_self_eq_zero _
          cases b <;> cases c
          · simp
          · simp [add_left_comm]
          · simp [add_assoc]
          · simp only [Bool.xor_self, Bool.false_eq_true, if_false, if_true]
            linear_combination -htwo

/-! ## Reflected words -/

variable {w k : Nat}

/-- The bits of a word, bit 0 first. -/
def bits (x : BitVec w) : List Bool := List.ofFn fun i : Fin w => x.getLsbD i

@[simp] theorem length_bits (x : BitVec w) : (bits x).length = w := List.length_ofFn

/-- The polynomial of a reflected word. -/
noncomputable def reflected (x : BitVec w) : (ZMod 2)[X] := bitsPoly (bits x)

theorem degree_reflected_lt (x : BitVec w) : (reflected x).degree < w := by
  simpa [reflected] using degree_bitsPoly_lt (bits x)

theorem reflected_injective {x y : BitVec w} (h : reflected x = reflected y) : x = y := by
  have hbits : bits x = bits y := bitsPoly_injective (by simp) h
  apply BitVec.eq_of_getLsbD_eq
  intro i hi
  exact congrFun (List.ofFn_injective hbits) ⟨i, hi⟩

@[simp] theorem reflected_zero : reflected 0#w = 0 := by
  have hbits : bits 0#w = List.replicate w false := by
    apply List.ext_getElem (by simp)
    intro i _ _
    simp [bits]
  rw [reflected, hbits, bitsPoly_replicate_false]

theorem reflected_xor (x y : BitVec w) : reflected (x ^^^ y) = reflected x + reflected y := by
  rw [reflected, reflected, reflected, ← bitsPoly_zipWith_xor (by simp)]
  congr 1
  apply List.ext_getElem (by simp)
  intro i _ _
  simp [bits]

/-- Widening a reflected word shifts its polynomial up. -/
theorem reflected_setWidth (h : k ≤ w) (x : BitVec k) :
    reflected (x.setWidth w) = X ^ (w - k) * reflected x := by
  obtain ⟨m, rfl⟩ := Nat.exists_eq_add_of_le h
  have hbits : bits (x.setWidth (k + m)) = bits x ++ List.replicate m false := by
    rw [bits, List.ofFn_add]
    congr 1
    · apply List.ext_getElem (by simp)
      intro i _ hi
      have hlt : i < k + m := by simp at hi; omega
      simp [bits, hlt]
    · apply List.ext_getElem (by simp)
      intro i _ _
      simp
  rw [reflected, hbits, bitsPoly_append, bitsPoly_replicate_false]
  simp [reflected]

/-! ## The shift register -/

/-- The modulus, with its leading coefficient left out of the word. -/
noncomputable def modulus (g : BitVec w) : (ZMod 2)[X] := X ^ w + reflected g

/-- One bit of the register. -/
def shift (g r : BitVec w) : BitVec w := (r >>> 1) ^^^ (if r.getLsbD 0 then g else 0)

/-- A chunk of the message: its bits are added to the register, which shifts that often. -/
def feedChunk (g r : BitVec w) (chunk : BitVec k) : BitVec w :=
  Nat.repeat (shift g) k (r ^^^ chunk.setWidth w)

/-- The register after a message. -/
def feed (g init : BitVec w) (chunks : List (BitVec k)) : BitVec w :=
  chunks.foldl (feedChunk g) init

theorem monic_modulus (g : BitVec w) : (modulus g).Monic :=
  monic_X_pow_add (degree_reflected_lt g)

theorem degree_modulus (g : BitVec w) : (modulus g).degree = w := by
  rw [modulus, degree_add_eq_left_of_degree_lt] <;> rw [degree_X_pow]
  exact degree_reflected_lt g

theorem mk_X_pow (g : BitVec w) :
    AdjoinRoot.mk (modulus g) (X ^ w) = AdjoinRoot.mk (modulus g) (reflected g) := by
  rw [AdjoinRoot.mk_eq_mk, CharTwo.sub_eq_add]
  exact dvd_rfl

/-- A shift multiplies by `X` modulo the modulus. -/
theorem mk_shift (g r : BitVec w) :
    AdjoinRoot.mk (modulus g) (reflected (shift g r)) =
      AdjoinRoot.mk (modulus g) (X * reflected r) := by
  rw [shift, reflected_xor]
  cases w with
  | zero =>
      rw [BitVec.eq_nil r, BitVec.eq_nil g]
      simp [reflected, bits, bitsPoly]
  | succ n =>
      have hbits : bits r = r.getLsbD 0 :: List.ofFn fun i : Fin n => r.getLsbD (i + 1) := by
        rw [bits, List.ofFn_succ]
        simp
      have hshift : bits (r >>> 1) = (List.ofFn fun i : Fin n => r.getLsbD (i + 1)) ++ [false] := by
        rw [bits, List.ofFn_succ_last]
        simp [Nat.add_comm]
      have hr : reflected r = (if r.getLsbD 0 then X ^ n else 0) +
          bitsPoly (List.ofFn fun i : Fin n => r.getLsbD (i + 1)) := by
        rw [reflected, hbits, bitsPoly, List.length_ofFn]
      have hs : reflected (r >>> 1) =
          X * bitsPoly (List.ofFn fun i : Fin n => r.getLsbD (i + 1)) := by
        rw [reflected, hshift, bitsPoly_append]
        simp [bitsPoly]
      rw [hr, hs, mul_add, map_add, map_add,
        add_comm (AdjoinRoot.mk (modulus g) (X * bitsPoly _))]
      congr 1
      cases r.getLsbD 0 with
      | false => simp
      | true => rw [if_pos rfl, if_pos rfl, ← pow_succ', mk_X_pow]

theorem mk_repeat_shift (g r : BitVec w) (n : Nat) :
    AdjoinRoot.mk (modulus g) (reflected (Nat.repeat (shift g) n r)) =
      AdjoinRoot.mk (modulus g) (X ^ n * reflected r) := by
  induction n with
  | zero => simp [Nat.repeat]
  | succ n ih =>
      rw [Nat.repeat, mk_shift, map_mul, ih, ← map_mul, ← mul_assoc, ← pow_succ']

theorem mk_feedChunk (hk : k ≤ w) (g r : BitVec w) (chunk : BitVec k) :
    AdjoinRoot.mk (modulus g) (reflected (feedChunk g r chunk)) =
      AdjoinRoot.mk (modulus g) (X ^ w * bitsPoly (bits chunk) + X ^ k * reflected r) := by
  have hw : (X ^ w : (ZMod 2)[X]) = X ^ k * X ^ (w - k) := by
    rw [← pow_add, Nat.add_sub_cancel' hk]
  rw [feedChunk, mk_repeat_shift, reflected_xor, reflected_setWidth hk, hw, ← reflected]
  congr 1
  ring

/-- The register holds the remainder of the message after its initial value. -/
theorem mk_feed (hk : k ≤ w) (g init : BitVec w) (chunks : List (BitVec k)) :
    AdjoinRoot.mk (modulus g) (reflected (feed g init chunks)) =
      AdjoinRoot.mk (modulus g) (X ^ w * bitsPoly (chunks.flatMap bits) +
        X ^ (k * chunks.length) * reflected init) := by
  induction chunks generalizing init with
  | nil => simp [feed, bitsPoly]
  | cons chunk chunks ih =>
      have hlen : (chunks.flatMap (bits (w := k))).length = k * chunks.length := by
        simp [List.length_flatMap, Nat.mul_comm]
      have hchunk := mk_feedChunk hk g init chunk
      rw [feed, List.foldl_cons, ← feed, ih, List.flatMap_cons, bitsPoly_append, hlen,
        List.length_cons, map_add, map_mul _ (X ^ (k * chunks.length)), hchunk, ← map_mul,
        ← map_add, Nat.mul_succ, pow_add]
      congr 1
      ring

/-- A register of the modulus' width computes the remainder of the message, shifted up by the width,
and of its initial value in front of it. -/
theorem feed_eq_remainder (hk : k ≤ w) (g init : BitVec w) (chunks : List (BitVec k)) :
    reflected (feed g init chunks) = (X ^ w * bitsPoly (chunks.flatMap bits) +
      X ^ (k * chunks.length) * reflected init) %ₘ modulus g := by
  have hdvd := AdjoinRoot.mk_eq_mk.mp (mk_feed hk g init chunks).symm
  rw [modByMonic_eq_of_dvd_sub (monic_modulus g) hdvd, eq_comm,
    modByMonic_eq_self_iff (monic_modulus g), degree_modulus]
  exact degree_reflected_lt _

/-! ## The CRC-32 of IEEE 802.3 -/

/-- The generator polynomial of IEEE 802.3. -/
noncomputable def ieeePoly : (ZMod 2)[X] :=
  X ^ 32 + X ^ 26 + X ^ 23 + X ^ 22 + X ^ 16 + X ^ 12 + X ^ 11 + X ^ 10 + X ^ 8 + X ^ 7 + X ^ 5 +
    X ^ 4 + X ^ 2 + X + 1

/-- The bits of a message in the order of transmission, the lowest of each byte first. -/
def messageBits (data : List UInt8) : List Bool := data.flatMap fun byte => bits byte.toBitVec

/-- `crc` is the checksum of a message: its complement is the remainder of the message followed by
32 zeros and with 32 ones added in front, transmitted from the highest coefficient. -/
def IsIeeeCrc (data : List UInt8) (crc : BitVec 32) : Prop :=
  reflected (~~~crc) = (X ^ 32 * bitsPoly (messageBits data) +
    X ^ (8 * data.length) * bitsPoly (List.replicate 32 true)) %ₘ ieeePoly

theorem IsIeeeCrc.unique {data : List UInt8} {x y : BitVec 32} (hx : IsIeeeCrc data x)
    (hy : IsIeeeCrc data y) : x = y := by
  have hnot : ~~~x = ~~~y := reflected_injective (hx.trans hy.symm)
  rw [← BitVec.not_not (b := x), hnot, BitVec.not_not]

theorem modulus_ieee : modulus 0xEDB88320#32 = ieeePoly := by
  have hbits : bits 0xEDB88320#32 = [false, false, false, false, false, true, false, false,
      true, true, false, false, false, false, false, true, false, false, false, true, true, true,
      false, true, true, false, true, true, false, true, true, true] := by decide
  rw [modulus, reflected, hbits, ieeePoly]
  simp [bitsPoly]
  ring

/-- The register of IEEE 802.3, initialised and complemented as it says, computes its CRC. -/
theorem isIeeeCrc_feed (data : List UInt8) :
    IsIeeeCrc data (~~~(feed 0xEDB88320#32 0xFFFFFFFF#32 (data.map UInt8.toBitVec))) := by
  have hones : reflected 0xFFFFFFFF#32 = bitsPoly (List.replicate 32 true) := by
    rw [reflected]
    congr 1
  rw [IsIeeeCrc, BitVec.not_not, feed_eq_remainder (by decide), modulus_ieee, hones,
    List.length_map, List.flatMap_map, messageBits]

end Crc
