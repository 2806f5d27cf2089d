import Mathlib.Algebra.Field.ZMod
import Mathlib.Algebra.Polynomial.FieldDivision
import StripTuner.Lib.Bytes
import StripTuner.Lib.Crc

/-!
# Bursts

Two messages that differ only in a few consecutive bytes. A modulus with a constant term divides no
difference that is shorter than itself, wherever the difference stands, so of two such messages with
their checksums behind them at most one is right.
-/

namespace Crc

open ByteLayout Polynomial

/-! ## Windows -/

section Windows

variable {α : Type} {off n : Nat} {xs ys zs ws : List α}

/-- Outside of the `n` elements at offset `off` the lists are the same. -/
def AgreeOutside (off n : Nat) (xs ys : List α) : Prop :=
  ∀ j, j < off ∨ off + n ≤ j → xs[j]? = ys[j]?

theorem AgreeOutside.take_eq (h : AgreeOutside off n xs ys) : xs.take off = ys.take off := by
  apply List.ext_getElem?
  intro j
  rw [List.getElem?_take, List.getElem?_take]
  split
  · next hj => exact h j (Or.inl hj)
  · rfl

theorem AgreeOutside.drop_eq (h : AgreeOutside off n xs ys) :
    xs.drop (off + n) = ys.drop (off + n) := by
  apply List.ext_getElem?
  intro j
  rw [List.getElem?_drop, List.getElem?_drop]
  exact h _ (Or.inr (by omega))

theorem AgreeOutside.of_append (hlength : xs.length = ys.length)
    (h : AgreeOutside off n (xs ++ zs) (ys ++ ws)) : AgreeOutside off n xs ys := by
  intro j hj
  by_cases hlt : j < xs.length
  · have hj' := h j hj
    rwa [List.getElem?_append_left hlt, List.getElem?_append_left (hlength ▸ hlt)] at hj'
  · rw [List.getElem?_eq_none (by omega), List.getElem?_eq_none (by omega)]

/-- What is behind the window is the same. -/
theorem AgreeOutside.tail_eq (hlength : xs.length = ys.length) (hoff : off + n ≤ xs.length)
    (h : AgreeOutside off n (xs ++ zs) (ys ++ ws)) : zs = ws := by
  apply List.ext_getElem?
  intro j
  have hj := h (xs.length + j) (Or.inr (by omega))
  rwa [List.getElem?_append_right (by omega), List.getElem?_append_right (by omega), ← hlength,
    Nat.add_sub_cancel_left] at hj

theorem agreeOutside_append {mid mid' : List α} (hlength : mid.length = mid'.length)
    (hn : mid.length ≤ n) :
    AgreeOutside xs.length n (xs ++ (mid ++ ys)) (xs ++ (mid' ++ ys)) := by
  intro j hj
  rcases hj with hbefore | hbehind
  · rw [List.getElem?_append_left hbefore, List.getElem?_append_left hbefore]
  · rw [List.getElem?_append_right (by omega), List.getElem?_append_right (by omega),
      List.getElem?_append_right (by omega), List.getElem?_append_right (by omega), hlength]

/-- A list around its window. -/
theorem eq_window (off n : Nat) (xs : List α) :
    xs.take off ++ (xs.drop off).take n ++ xs.drop (off + n) = xs := by
  rw [← List.drop_drop, List.append_assoc, List.take_append_drop, List.take_append_drop]

end Windows

/-! ## Short differences -/

section Differences

variable {g p : (ZMod 2)[X]} {k : Nat}

/-- A modulus with a constant term has no factor `X`. -/
theorem dvd_of_dvd_X_pow_mul (hg : g.coeff 0 ≠ 0) (h : g ∣ X ^ k * p) : g ∣ p := by
  have hcoprime : IsCoprime X g := by
    rw [irreducible_X.coprime_iff_not_dvd, X_dvd_iff]
    exact hg
  exact hcoprime.pow_left.symm.dvd_of_dvd_mul_left h

/-- Two bit strings that are the same but for as many bits as the modulus is long at most. -/
theorem eq_of_dvd_sub (hg : g.coeff 0 ≠ 0) {before mid mid' behind : List Bool}
    (hlength : mid.length = mid'.length) (hshort : (mid.length : WithBot Nat) ≤ g.degree)
    (h : g ∣ bitsPoly (before ++ mid ++ behind) - bitsPoly (before ++ mid' ++ behind)) :
    mid = mid' := by
  have hsub : bitsPoly (before ++ mid ++ behind) - bitsPoly (before ++ mid' ++ behind) =
      X ^ behind.length * (bitsPoly mid - bitsPoly mid') := by
    rw [bitsPoly_append, bitsPoly_append, bitsPoly_append, bitsPoly_append, hlength]
    ring
  rw [hsub] at h
  have hdegree : (bitsPoly mid - bitsPoly mid').degree < g.degree := by
    have hmid := (degree_bitsPoly_lt mid).trans_le hshort
    have hmid' := (degree_bitsPoly_lt mid').trans_le (hlength ▸ hshort)
    exact (degree_sub_le _ _).trans_lt (max_lt hmid hmid')
  exact bitsPoly_injective hlength
    (sub_eq_zero.1 (eq_zero_of_dvd_of_degree_lt (dvd_of_dvd_X_pow_mul hg h) hdegree))

end Differences

/-! ## Messages with their checksums -/

theorem messageBits_append (xs ys : List UInt8) :
    messageBits (xs ++ ys) = messageBits xs ++ messageBits ys := List.flatMap_append

theorem length_messageBits (data : List UInt8) : (messageBits data).length = 8 * data.length := by
  simp [messageBits, List.length_flatMap, Nat.mul_comm]

theorem messageBits_injective {xs ys : List UInt8} (h : messageBits xs = messageBits ys) :
    xs = ys := by
  have hlength := congrArg List.length h
  rw [length_messageBits, length_messageBits] at hlength
  induction xs generalizing ys with
  | nil => exact (List.length_eq_zero_iff.1 (by rw [List.length_nil] at hlength; omega)).symm
  | cons x xs ih =>
      cases ys with
      | nil => simp at hlength
      | cons y ys =>
          rw [messageBits, messageBits, List.flatMap_cons, List.flatMap_cons] at h
          obtain ⟨hhead, htail⟩ := List.append_inj h (by simp)
          have hbyte : x = y := UInt8.toBitVec_inj.1 (reflected_injective (congrArg bitsPoly hhead))
          rw [hbyte, ih htail (by simpa using hlength)]

theorem bits_eq_map {w : Nat} (x : BitVec w) : bits x = (List.range w).map x.toNat.testBit := by
  apply List.ext_getElem (by simp)
  intro i _ _
  simp [bits, BitVec.getLsbD]

/-- The bits of a little-endian number, lowest first. -/
theorem messageBits_encodeLe (n x : Nat) :
    messageBits (encodeLe n x) = (List.range (8 * n)).map x.testBit := by
  induction n generalizing x with
  | zero => rfl
  | succ n ih =>
      have hbyte : bits (UInt8.ofNat x).toBitVec = (List.range 8).map x.testBit := by
        rw [bits_eq_map]
        apply List.map_congr_left
        intro i hi
        have hlt : i < 8 := List.mem_range.1 hi
        rw [UInt8.toNat_toBitVec, UInt8.toNat_ofNat', Nat.testBit_mod_two_pow]
        simp [hlt]
      have hrest : ∀ i, (x / 256).testBit i = x.testBit (8 + i) := by
        intro i
        rw [show 256 = 2 ^ 8 from rfl, Nat.testBit_div_two_pow, Nat.add_comm]
      rw [encodeLe, messageBits, List.flatMap_cons, ← messageBits, ih, hbyte, Nat.mul_succ,
        Nat.add_comm (8 * n), List.range_add, List.map_append, List.map_map]
      congr 1
      exact List.map_congr_left fun i _ => hrest i

theorem messageBits_word32 (x : UInt32) : messageBits (word32 x) = bits x.toBitVec := by
  rw [word32, messageBits_encodeLe, bits_eq_map, UInt32.toNat_toBitVec]

/-- A message with its checksum behind it is a multiple of the polynomial, but for a term that
depends on the length alone. -/
theorem IsIeeeCrc.dvd {data : List UInt8} {crc : UInt32} (h : IsIeeeCrc data crc.toBitVec) :
    ieeePoly ∣ bitsPoly (messageBits (data ++ word32 crc)) +
      (X ^ (8 * data.length) * bitsPoly (List.replicate 32 true) +
        bitsPoly (List.replicate 32 true)) := by
  have hnot : reflected (~~~crc.toBitVec) =
      reflected crc.toBitVec + bitsPoly (List.replicate 32 true) := by
    rw [← BitVec.xor_allOnes, reflected_xor]
    rfl
  have hbits : bitsPoly (messageBits (data ++ word32 crc)) =
      X ^ 32 * bitsPoly (messageBits data) + reflected crc.toBitVec := by
    rw [messageBits_append, messageBits_word32, bitsPoly_append, length_bits, reflected]
  rw [IsIeeeCrc, hnot] at h
  have hdiv := modByMonic_add_div (X ^ 32 * bitsPoly (messageBits data) +
    X ^ (8 * data.length) * bitsPoly (List.replicate 32 true)) ieeePoly
  rw [← h] at hdiv
  have htwo := CharTwo.add_self_eq_zero
    (reflected crc.toBitVec + bitsPoly (List.replicate 32 true))
  rw [hbits]
  refine ⟨(X ^ 32 * bitsPoly (messageBits data) +
    X ^ (8 * data.length) * bitsPoly (List.replicate 32 true)) /ₘ ieeePoly, ?_⟩
  linear_combination htwo - hdiv

theorem coeff_zero_ieeePoly : ieeePoly.coeff 0 ≠ 0 := by
  simp [ieeePoly]

theorem degree_ieeePoly : ieeePoly.degree = (32 : Nat) := by
  rw [← modulus_ieee, degree_modulus]

/-- Two messages with their checksums behind them that differ only within four bytes are the same. -/
theorem IsIeeeCrc.eq_of_agreeOutside {data data' : List UInt8} {crc crc' : UInt32} {off : Nat}
    (h : IsIeeeCrc data crc.toBitVec) (h' : IsIeeeCrc data' crc'.toBitVec)
    (hlength : data.length = data'.length)
    (hagree : AgreeOutside off 4 (data ++ word32 crc) (data' ++ word32 crc')) :
    data ++ word32 crc = data' ++ word32 crc' := by
  have hwindow := eq_window off 4 (data ++ word32 crc)
  have hwindow' := eq_window off 4 (data' ++ word32 crc')
  rw [← hagree.take_eq, ← hagree.drop_eq] at hwindow'
  have hdvd := dvd_sub h.dvd h'.dvd
  rw [← hlength, add_sub_add_right_eq_sub, ← hwindow, ← hwindow', messageBits_append,
    messageBits_append, messageBits_append, messageBits_append] at hdvd
  have hmid : ((data ++ word32 crc).drop off).take 4 = ((data' ++ word32 crc').drop off).take 4 := by
    apply messageBits_injective
    refine eq_of_dvd_sub coeff_zero_ieeePoly ?_ ?_ hdvd
    · simp [length_messageBits, hlength]
    · rw [degree_ieeePoly, length_messageBits, List.length_take]
      exact_mod_cast (by omega : 8 * min 4 _ ≤ 32)
  rw [← hwindow, ← hwindow', hmid]

end Crc
