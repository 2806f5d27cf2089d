import StripTuner.Lib.Burst
import StripTuner.Lib.Lanes

/-!
# Distances

Two messages that differ in a few bits, anywhere. The difference is a sum of as many powers of `X`,
and no modulus for which this is checked once divides a sum of at most four.
-/

namespace Crc

open ByteLayout Lanes Polynomial

variable {w : Nat}

/-! ## Remainders of powers -/

/-- The word of the polynomial 1. -/
def one (w : Nat) : BitVec w := BitVec.twoPow w (w - 1)

theorem reflected_one (hw : 0 < w) : reflected (one w) = 1 := by
  obtain ⟨n, rfl⟩ := Nat.exists_eq_succ_of_ne_zero hw.ne'
  have hbits : bits (one (n + 1)) = List.replicate n false ++ [true] := by
    apply List.ext_getElem (by simp)
    intro i hi _
    rw [length_bits] at hi
    simp only [bits, one, List.getElem_ofFn, BitVec.getLsbD_twoPow, List.getElem_append,
      List.length_replicate, List.getElem_replicate, List.getElem_singleton]
    by_cases hlt : i < n
    · simp [hlt, Nat.ne_of_gt hlt]
    · simp [show i = n by omega]
  rw [reflected, hbits, bitsPoly_append, bitsPoly_replicate_false]
  simp [bitsPoly]

/-- The remainder of `X ^ i`. -/
def power (g : BitVec w) (i : Nat) : BitVec w := Nat.repeat (shift g) i (one w)

theorem mk_power (hw : 0 < w) (g : BitVec w) (i : Nat) :
    AdjoinRoot.mk (modulus g) (reflected (power g i)) = AdjoinRoot.mk (modulus g) (X ^ i) := by
  rw [power, mk_repeat_shift, reflected_one hw, mul_one]

/-- The remainder of a sum of powers. -/
def sum (g : BitVec w) (exponents : List Nat) : BitVec w :=
  exponents.foldr (fun i total => power g i ^^^ total) 0#w

theorem mk_sum (hw : 0 < w) (g : BitVec w) (exponents : List Nat) :
    AdjoinRoot.mk (modulus g) (reflected (sum g exponents)) =
      AdjoinRoot.mk (modulus g) (exponents.map (X ^ ·)).sum := by
  induction exponents with
  | nil => simp [sum, reflected_zero]
  | cons i exponents ih =>
      rw [sum, List.foldr_cons, ← sum, reflected_xor, map_add, mk_power hw, ih, List.map_cons,
        List.sum_cons, map_add]

theorem dvd_iff_sum_eq_zero (hw : 0 < w) (g : BitVec w) (exponents : List Nat) :
    modulus g ∣ (exponents.map (X ^ ·)).sum ↔ sum g exponents = 0#w := by
  rw [← AdjoinRoot.mk_eq_zero, ← mk_sum hw, AdjoinRoot.mk_eq_zero]
  constructor
  · intro hdvd
    have hdegree := degree_reflected_lt (sum g exponents)
    rw [← degree_modulus g] at hdegree
    apply reflected_injective
    rw [eq_zero_of_dvd_of_degree_lt hdvd hdegree, reflected_zero]
  · intro hzero
    rw [hzero, reflected_zero]
    exact dvd_zero _

/-! ## The check -/

/-- The words after `n` shifts, as numbers. -/
def words (g : Nat) : Nat → Nat → List Nat
  | _, 0 => []
  | r, n + 1 => r :: words g ((r / 2) ^^^ (r % 2 * g)) n

theorem toNat_shift (g r : BitVec w) :
    (shift g r).toNat = (r.toNat / 2) ^^^ (r.toNat % 2 * g.toNat) := by
  have hbit : r.getLsbD 0 = decide (r.toNat % 2 = 1) := by
    rw [BitVec.getLsbD, Nat.testBit_zero]
  rw [shift, BitVec.toNat_xor, BitVec.toNat_ushiftRight, Nat.shiftRight_one, hbit]
  rcases Nat.mod_two_eq_zero_or_one r.toNat with h | h <;> simp [h]

theorem repeat_shift (g r : BitVec w) (n : Nat) :
    Nat.repeat (shift g) n (shift g r) = Nat.repeat (shift g) (n + 1) r := by
  induction n with
  | zero => rfl
  | succ n ih => exact congrArg (shift g) ih

theorem getElem?_words (g r : BitVec w) {n i : Nat} (hi : i < n) :
    (words g.toNat r.toNat n)[i]? = some (Nat.repeat (shift g) i r).toNat := by
  induction n generalizing r i with
  | zero => omega
  | succ n ih =>
      rw [words, ← toNat_shift]
      cases i with
      | zero => rfl
      | succ i =>
          rw [List.getElem?_cons_succ, ih _ (by omega), repeat_shift]

/-- The remainders of `X ^ 1` to `X ^ n`. -/
def powers (g : BitVec w) (n : Nat) : List Nat := words g.toNat (shift g (one w)).toNat n

theorem getElem?_powers (g : BitVec w) {n i : Nat} (hi : i < n) :
    (powers g n)[i]? = some (power g (i + 1)).toNat := by
  rw [powers, getElem?_words g _ hi, repeat_shift, power]

theorem lt_of_mem_words (g r : BitVec w) (n : Nat) :
    ∀ x ∈ words g.toNat r.toNat n, x < 2 ^ w := by
  induction n generalizing r with
  | zero => simp [words]
  | succ n ih =>
      rw [words, ← toNat_shift, List.forall_mem_cons]
      exact ⟨r.isLt, ih _⟩

/-- None of the sums of 1 and at most three other powers up to `X ^ n` is 0. -/
def Separated (g : BitVec w) (n : Nat) : Prop :=
  (one w).toNat ∉ powers g n ∧
    ∀ c ∈ 0 :: powers g n, IsNoPair w (powers g n) ((one w).toNat ^^^ c)

instance (g : BitVec w) (n : Nat) : Decidable (Separated g n) :=
  inferInstanceAs (Decidable (_ ∧ _))

section Separated

variable {g : BitVec w} {n : Nat}

theorem getElem?_power {i : Nat} (hpos : 0 < i) (hle : i ≤ n) :
    (powers g n)[i - 1]? = some (power g i).toNat := by
  rw [getElem?_powers g (by omega), Nat.sub_add_cancel hpos]

theorem mem_powers {i : Nat} (hpos : 0 < i) (hle : i ≤ n) : (power g i).toNat ∈ powers g n :=
  List.mem_of_getElem? (getElem?_power hpos hle)

/-- A pair of powers is not 1, nor is it 1 and another power. -/
theorem Separated.ne_pair (h : Separated g n) {r : BitVec w}
    (hr : r.toNat ∈ 0 :: powers g n) {i j : Nat} (hpos : 0 < i) (hij : i < j) (hle : j ≤ n) :
    one w ^^^ r ≠ power g i ^^^ power g j := by
  intro heq
  have hnat := congrArg BitVec.toNat heq
  rw [BitVec.toNat_xor, BitVec.toNat_xor] at hnat
  refine (h.2 _ hr).ne (lt_of_mem_words g _ n) ?_ (getElem?_power hpos (by omega))
    (getElem?_power (by omega) hle) ?_ hnat
  · rw [← BitVec.toNat_xor]
    exact BitVec.isLt _
  · omega

/-- 1 and at most three other powers. -/
theorem Separated.sum_ne_zero (hw : 0 < w) (h : Separated g n) {exponents : List Nat}
    (hsorted : exponents.Pairwise (· < ·)) (hpos : ∀ i ∈ exponents, 0 < i)
    (hle : ∀ i ∈ exponents, i ≤ n) (hlength : exponents.length ≤ 3) :
    sum g (0 :: exponents) ≠ 0#w := by
  intro hzero
  have hone : one w = sum g exponents := BitVec.xor_eq_zero_iff.1 hzero
  match exponents with
  | [] =>
      have hpoly := reflected_one hw
      rw [hone] at hpoly
      exact one_ne_zero (hpoly.symm.trans reflected_zero)
  | [i] =>
      simp only [List.forall_mem_singleton] at hpos hle
      apply h.1
      rw [hone, sum, List.foldr_cons, List.foldr_nil, BitVec.xor_zero]
      exact mem_powers hpos hle
  | [i, j] =>
      simp at hsorted hpos hle
      refine h.ne_pair (r := 0#w) List.mem_cons_self hpos.1 hsorted hle.2 ?_
      rw [BitVec.xor_zero, hone, sum, List.foldr_cons, List.foldr_cons, List.foldr_nil,
        BitVec.xor_zero]
  | [i, j, k] =>
      simp at hsorted hpos hle
      refine h.ne_pair (List.mem_cons_of_mem 0 (mem_powers hpos.1 hle.1)) hpos.2.1 hsorted.2 hle.2.2
        ?_
      rw [hone, sum, List.foldr_cons, List.foldr_cons, List.foldr_cons, List.foldr_nil,
        BitVec.xor_zero, BitVec.xor_comm, ← BitVec.xor_assoc, BitVec.xor_self, BitVec.zero_xor]

/-- A sum of one to four different powers up to `X ^ n` leaves a remainder. -/
theorem Separated.not_dvd (hw : 0 < w) (h : Separated g n) (hg : (modulus g).coeff 0 ≠ 0)
    {exponents : List Nat} (hne : exponents ≠ []) (hsorted : exponents.Pairwise (· < ·))
    (hle : ∀ i ∈ exponents, i ≤ n) (hlength : exponents.length ≤ 4) :
    ¬modulus g ∣ (exponents.map (X ^ ·)).sum := by
  obtain ⟨i, rest, rfl⟩ := List.exists_cons_of_ne_nil hne
  obtain ⟨hfirst, hrest⟩ := List.pairwise_cons.1 hsorted
  have hshift : ((i :: rest).map (X ^ · : Nat → (ZMod 2)[X])).sum =
      X ^ i * ((0 :: rest.map (· - i)).map (X ^ ·)).sum := by
    rw [List.map_cons, List.sum_cons, List.map_cons, List.sum_cons, mul_add, pow_zero, mul_one,
      List.map_map, ← List.sum_map_mul_left]
    congr 2
    apply List.map_congr_left
    intro j hj
    rw [Function.comp_apply, ← pow_add, Nat.add_sub_cancel' (hfirst j hj).le]
  rw [hshift]
  intro hdvd
  refine h.sum_ne_zero hw ?_ ?_ ?_ ?_ ((dvd_iff_sum_eq_zero hw g _).1
    (dvd_of_dvd_X_pow_mul hg hdvd))
  · rw [List.pairwise_map]
    refine hrest.imp_of_mem fun {j k} hj hk hjk => ?_
    have hij := hfirst j hj
    omega
  · simp only [List.forall_mem_map]
    intro j hj
    have hij := hfirst j hj
    omega
  · simp only [List.forall_mem_map]
    intro j hj
    have hj' := hle j (List.mem_cons_of_mem i hj)
    omega
  · rw [List.length_map]
    exact Nat.le_of_succ_le_succ hlength

end Separated

/-! ## Messages with their checksums -/

/-- In how many bits two messages of one length differ. -/
def bitDistance (xs ys : List UInt8) : Nat :=
  ((messageBits xs).zip (messageBits ys)).countP fun pair => pair.1 != pair.2

/-- The difference of two bit strings has a power for every place where they differ. -/
theorem exists_exponents {xs ys : List Bool} (hlength : xs.length = ys.length) :
    ∃ exponents : List Nat, exponents.Pairwise (· < ·) ∧ (∀ i ∈ exponents, i < xs.length) ∧
      exponents.length = ((xs.zip ys).countP fun pair => pair.1 != pair.2) ∧
        bitsPoly xs - bitsPoly ys = (exponents.map (X ^ ·)).sum := by
  induction xs generalizing ys with
  | nil =>
      obtain rfl := List.length_eq_zero_iff.1 hlength.symm
      exact ⟨[], .nil, by simp, rfl, by simp⟩
  | cons b xs ih =>
      obtain ⟨c, ys, rfl⟩ := List.exists_cons_of_length_eq_add_one hlength.symm
      have hrest : xs.length = ys.length := Nat.succ.inj hlength
      obtain ⟨exponents, hsorted, hlt, hcount, hsum⟩ := ih hrest
      rw [List.zip_cons_cons, List.countP_cons, ← hcount, bitsPoly, bitsPoly, ← hrest,
        add_sub_add_comm, hsum]
      have hlt' : ∀ i ∈ exponents, i < (b :: xs).length := fun i hi => Nat.lt_succ_of_lt (hlt i hi)
      by_cases hbc : b = c
      · exact ⟨exponents, hsorted, hlt', by simp [hbc], by simp [hbc]⟩
      · have hterm : ((if b then X ^ xs.length else 0) - if c then X ^ xs.length else 0 :
            (ZMod 2)[X]) = X ^ xs.length := by
          cases b <;> cases c <;> simp [CharTwo.neg_eq] at hbc ⊢
        refine ⟨exponents ++ [xs.length], ?_, ?_, by simp [hbc], ?_⟩
        · rw [List.pairwise_append]
          exact ⟨hsorted, List.pairwise_singleton _ _, by simpa using hlt⟩
        · simpa [or_imp, forall_and] using hlt'
        · rw [hterm, List.map_append, List.sum_append, add_comm, List.map_singleton,
            List.sum_singleton]

theorem separated_ieee : Separated 0xEDB88320#32 447 := by decide +kernel

/-- Two messages of at most 448 bits with their checksums that differ in at most four bits are the
same. -/
theorem IsIeeeCrc.eq_of_bitDistance {data data' : List UInt8} {crc crc' : UInt32}
    (h : IsIeeeCrc data crc.toBitVec) (h' : IsIeeeCrc data' crc'.toBitVec)
    (hlength : data.length = data'.length) (hshort : data.length ≤ 52)
    (hdistance : bitDistance (data ++ word32 crc) (data' ++ word32 crc') ≤ 4) :
    data ++ word32 crc = data' ++ word32 crc' := by
  have hbits : (messageBits (data ++ word32 crc)).length =
      (messageBits (data' ++ word32 crc')).length := by
    simp [length_messageBits, hlength]
  have hdvd := dvd_sub h.dvd h'.dvd
  rw [← hlength, add_sub_add_right_eq_sub, ← modulus_ieee] at hdvd
  obtain ⟨exponents, hsorted, hlt, hcount, hsum⟩ := exists_exponents hbits
  rw [hsum] at hdvd
  by_cases hne : exponents = []
  · rw [hne, List.map_nil, List.sum_nil, sub_eq_zero] at hsum
    exact messageBits_injective (bitsPoly_injective hbits hsum)
  · refine absurd hdvd (separated_ieee.not_dvd (by decide) ?_ hne hsorted ?_ ?_)
    · rw [modulus_ieee]
      exact coeff_zero_ieeePoly
    · intro i hi
      have hi' := hlt i hi
      rw [length_messageBits, List.length_append, length_word32] at hi'
      omega
    · rw [hcount]
      exact hdistance

end Crc
