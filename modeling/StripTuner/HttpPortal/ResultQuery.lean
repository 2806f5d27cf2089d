import StripTuner.HttpPortal.FormFields
import StripTuner.HttpPortal.Submissions
import StripTuner.Lib.Decimal

/-!
# The result query

`ParseTunerResultSeq()` reads the first field with the name `seq`, and reads back each number that a
reply has sent.
-/

namespace StripTuner.HttpPortal

open UrlEncoded

/-- `ParseTunerResultSeq()` with the number that it writes to. -/
def parseTunerResultSeqInto (query : List UInt8) (seq : UInt32) : Bool × UInt32 :=
  match parseTunerResultSeq query with
  | some number => (true, number)
  | none => (false, seq)

/-! ## The number -/

/-- One to ten digits of a number of 32 bits. -/
structure IsSeqText (text : List UInt8) : Prop where
  nonempty : 1 ≤ text.length
  length_le : text.length ≤ 10
  all : text.all isDigit = true
  value_le : Decimal.value text ≤ 4294967295

/-- The loop of `ParseSeqDigits()`. -/
theorem foldl_seqDigits {digits : List UInt8} (h : digits.all isDigit = true) :
    digits.foldl (fun number digit => number * 10 + (digit.toUInt64 - 0x30)) (0 : UInt64) =
      UInt64.ofNat (Decimal.value digits) := by
  have hfold : ∀ (n : Nat), digits.foldl
      (fun number digit => number * 10 + (digit.toUInt64 - 0x30)) (UInt64.ofNat n) =
        UInt64.ofNat (digits.foldl (fun value digit => 10 * value + (digit.toNat - 0x30)) n) := by
    induction digits with
    | nil => exact fun n => rfl
    | cons digit digits ih =>
        intro n
        rw [List.all_cons, Bool.and_eq_true] at h
        have hdigit := Decimal.isDigit_iff.mp h.1
        have hstep : UInt64.ofNat n * 10 + (digit.toUInt64 - 0x30) =
            UInt64.ofNat (10 * n + (digit.toNat - 0x30)) := by
          have hle : (0x30 : UInt64) ≤ digit.toUInt64 := by
            rw [UInt64.le_iff_toNat_le, UInt8.toNat_toUInt64]
            exact hdigit.1
          rw [← UInt64.toNat_inj, UInt64.toNat_add, UInt64.toNat_mul,
            UInt64.toNat_sub_of_le _ _ hle, UInt8.toNat_toUInt64, UInt64.toNat_ofNat',
            UInt64.toNat_ofNat']
          have h10 : (10 : UInt64).toNat = 10 := rfl
          have h48 : (0x30 : UInt64).toNat = 48 := rfl
          rw [h10, h48]
          omega
        rw [List.foldl_cons, List.foldl_cons, hstep, ih h.2]
  exact hfold 0

theorem parseSeqDigits_eq_some_iff {text : List UInt8} {n : UInt32} :
    parseSeqDigits text = some n ↔ IsSeqText text ∧ n.toNat = Decimal.value text := by
  rw [parseSeqDigits]
  by_cases hlength : text.length < 1 ∨ text.length > tunerResultSeqDigitsMax
  · rw [if_pos hlength]
    rw [tunerResultSeqDigitsMax] at hlength
    refine iff_of_false (by simp) ?_
    rintro ⟨⟨hnonempty, hle, -⟩, -⟩
    omega
  · rw [if_neg hlength]
    rw [tunerResultSeqDigitsMax] at hlength
    by_cases hall : text.all isDigit = true
    · have hlt := Decimal.value_lt hall
      have hpow : 10 ^ text.length ≤ 10 ^ 10 := Nat.pow_le_pow_right (by decide) (by omega)
      have hexact : (UInt64.ofNat (Decimal.value text)).toNat = Decimal.value text := by
        rw [UInt64.toNat_ofNat', Nat.mod_eq_of_lt (by omega)]
      have hmax : UInt64.ofNat (Decimal.value text) > 0xFFFFFFFF ↔
          4294967295 < Decimal.value text := by
        rw [gt_iff_lt, UInt64.lt_iff_toNat_lt, hexact]
        rfl
      rw [if_pos hall, foldl_seqDigits hall]
      dsimp only
      by_cases hlarge : 4294967295 < Decimal.value text
      · rw [if_pos (hmax.2 hlarge)]
        refine iff_of_false (by simp) ?_
        rintro ⟨⟨-, -, -, hle⟩, -⟩
        omega
      · rw [if_neg (mt hmax.1 hlarge), Option.some.injEq, ← UInt32.toNat_inj, UInt64.toNat_toUInt32,
          hexact, Nat.mod_eq_of_lt (by omega)]
        constructor
        · intro h
          exact ⟨⟨by omega, by omega, hall, by omega⟩, h.symm⟩
        · rintro ⟨-, h⟩
          exact h.symm
    · rw [if_neg hall]
      refine iff_of_false (by simp) ?_
      rintro ⟨h, -⟩
      exact hall h.all

/-! ## The query -/

section Query

variable {first tail : List UInt8}

/-- A name ends at an equals sign or with its field. -/
theorem strcspn_name (hplain : ampersand ∉ first)
    (htail : tail = [] ∨ ∃ rest, tail = ampersand :: rest) :
    strcspn (first ++ tail) [equalsSign, ampersand] = (fieldName first).length := by
  induction first with
  | nil =>
      rcases htail with rfl | ⟨rest, rfl⟩
      · rfl
      · simp [strcspn, fieldName]
  | cons byte first ih =>
      rw [List.mem_cons, not_or] at hplain
      have hrest := ih hplain.2
      rw [strcspn] at hrest ⊢
      by_cases hequals : byte = equalsSign
      · simp [hequals, fieldName]
      · have hname : fieldName (byte :: first) = byte :: fieldName first := by
          simp [fieldName, hequals]
        have hkeep : byte ∉ [equalsSign, ampersand] := by simp [hequals, Ne.symm hplain.1]
        rw [List.cons_append, List.takeWhile_cons_of_pos (by simpa using hkeep), hname,
          List.length_cons, List.length_cons, hrest]

/-- What the loop makes of a field with its name. -/
def readSeqField (entry : List UInt8) : Option UInt32 :=
  if fieldName entry = entry then none else parseSeqDigits (entry.drop 4)

/-- One round of the loop. -/
theorem parseTunerResultSeq_append (hplain : ampersand ∉ first)
    (htail : tail = [] ∨ ∃ rest, tail = ampersand :: rest) :
    parseTunerResultSeq (first ++ tail) =
      if fieldName first = ascii "seq" then readSeqField first
      else if tail = [] then none
      else parseTunerResultSeq (tail.drop 1) := by
  have hthree : (ascii "seq").length = 3 := by decide
  have hname : fieldName first <+: first := List.takeWhile_prefix _
  rw [parseTunerResultSeq, strcspn_ampersand hplain htail, strcspn_name hplain htail, hthree]
  have hkey : ((fieldName first).length = 3 ∧ (first ++ tail).take 3 = ascii "seq") ↔
      fieldName first = ascii "seq" := by
    constructor
    · rintro ⟨hlength, htake⟩
      rw [List.take_append_of_le_length (hlength ▸ hname.length_le), ← hlength,
        ← List.prefix_iff_eq_take.1 hname] at htake
      exact htake
    · intro h
      rw [h] at hname ⊢
      refine ⟨hthree, ?_⟩
      rw [List.take_append_of_le_length (hthree ▸ hname.length_le), ← hthree,
        ← List.prefix_iff_eq_take.1 hname]
  by_cases hseq : fieldName first = ascii "seq"
  · rw [if_pos (hkey.2 hseq), if_pos hseq, readSeqField]
    by_cases hbare : fieldName first = first
    · rw [if_pos (congrArg List.length hbare), if_pos hbare]
    · have hlength : (fieldName first).length ≠ first.length :=
        fun h => hbare (hname.eq_of_length h)
      have hle : 4 ≤ first.length := by
        have hlt := Nat.lt_of_le_of_ne hname.length_le hlength
        rw [hseq, hthree] at hlt
        exact hlt
      rw [if_neg hlength, if_neg hbare, List.drop_append_of_le_length hle, List.take_left']
      rw [List.length_drop]
      omega
  · rw [if_neg (mt hkey.1 hseq), if_neg hseq]
    rcases htail with rfl | ⟨rest, rfl⟩
    · rw [if_pos rfl, dif_pos (by simp)]
    · have hdrop : (first ++ ampersand :: rest).drop (first.length + 1) = rest := by
        rw [List.append_cons, List.drop_left' (by simp)]
      rw [if_neg (by simp), dif_neg (by simp), hdrop, List.drop_one, List.tail_cons]

/-- The loop stops at the first field with the name. -/
theorem parseTunerResultSeq_eq (query : List UInt8) :
    parseTunerResultSeq query = (firstNamed (ascii "seq") query).bind readSeqField := by
  induction hn : query.length using Nat.strongRecOn generalizing query with
  | ind n ih =>
      subst hn
      by_cases hlast : ampersand ∈ query
      · obtain ⟨first, rest, rfl, hplain⟩ := List.eq_append_cons_of_mem hlast
        rw [parseTunerResultSeq_append hplain (Or.inr ⟨rest, rfl⟩), firstNamed_append hplain,
          if_neg (List.cons_ne_nil _ _), List.drop_one, List.tail_cons,
          ih rest.length (by simp; omega) rest rfl]
        by_cases hseq : fieldName first = ascii "seq"
        · rw [if_pos hseq, if_pos hseq, Option.bind_some]
        · rw [if_neg hseq, if_neg hseq]
      · have hstep := parseTunerResultSeq_append hlast (Or.inl rfl)
        rw [List.append_nil, if_pos rfl] at hstep
        rw [hstep, firstNamed_of_notMem hlast]
        by_cases hseq : fieldName query = ascii "seq"
        · rw [if_pos hseq, if_pos hseq, Option.bind_some]
        · rw [if_neg hseq, if_neg hseq, Option.bind_none]

end Query

theorem readSeqField_field (text : List UInt8) :
    readSeqField (field (ascii "seq") text) = parseSeqDigits text := by
  have hname : fieldName (field (ascii "seq") text) = ascii "seq" := fieldName_field (by decide)
  have hne : ascii "seq" ≠ field (ascii "seq") text := by
    intro h
    have hlength := congrArg List.length h
    simp [field] at hlength
  rw [readSeqField, hname, if_neg hne]
  rfl

theorem parseTunerResultSeq_eq_some_iff {query : List UInt8} {n : UInt32} :
    parseTunerResultSeq query = some n ↔ ∃ text,
      firstNamed (ascii "seq") query = some (field (ascii "seq") text) ∧ IsSeqText text ∧
        n.toNat = Decimal.value text := by
  rw [parseTunerResultSeq_eq, Option.bind_eq_some_iff]
  constructor
  · rintro ⟨entry, hfirst, hread⟩
    have hname : fieldName entry = ascii "seq" := by
      simpa using List.find?_some hfirst
    rcases eq_name_or_eq_field hname with rfl | ⟨text, rfl⟩
    · rw [readSeqField, if_pos hname] at hread
      cases hread
    · rw [readSeqField_field, parseSeqDigits_eq_some_iff] at hread
      exact ⟨text, hfirst, hread⟩
  · rintro ⟨text, hfirst, hread⟩
    refine ⟨_, hfirst, ?_⟩
    rwa [readSeqField_field, parseSeqDigits_eq_some_iff]

/-- The number in a reply, sent back. -/
theorem isSeqText_digits (n : UInt32) : IsSeqText (Decimal.digits n.toNat) := by
  have hlt : n.toNat < 4294967296 := n.toNat_lt
  refine ⟨?_, ?_, Decimal.all_isDigit_digits _, ?_⟩
  · exact List.length_pos_iff.mpr (Decimal.digits_ne_nil _)
  · rw [Decimal.length_digits_le_iff (by decide)]
    omega
  · rw [Decimal.value_digits]
    omega

/-- A query names a number exactly if the first field with the name `seq` holds one. The number of a
reply is read back from its field, alone or among fields of other names. -/
theorem parseTunerResultSeq_spec :
    (∀ (query : List UInt8) (seq : UInt32),
      ((parseTunerResultSeqInto query seq).1 = true ↔ ∃ text,
        firstNamed (ascii "seq") query = some (field (ascii "seq") text) ∧ IsSeqText text) ∧
      (∀ text, firstNamed (ascii "seq") query = some (field (ascii "seq") text) → IsSeqText text →
        (parseTunerResultSeqInto query seq).2.toNat = Decimal.value text) ∧
      ((parseTunerResultSeqInto query seq).1 = false →
        (parseTunerResultSeqInto query seq).2 = seq)) ∧
    ∀ (n seq : UInt32) (body : String), ∃ text, (numberedReply n body).tunerSeq = some text ∧
      parseTunerResultSeqInto (ascii "seq=" ++ ascii text) seq = (true, n) ∧
      ∀ before after : List (List UInt8), (∀ other ∈ before ++ after, ampersand ∉ other) →
        (∀ other ∈ before ++ after, fieldName other ≠ ascii "seq") →
          parseTunerResultSeqInto (form (before ++ (ascii "seq=" ++ ascii text) :: after)) seq =
            (true, n) := by
  constructor
  · intro query seq
    rw [parseTunerResultSeqInto]
    cases hparse : parseTunerResultSeq query with
    | none =>
        have hnone : ∀ text, firstNamed (ascii "seq") query = some (field (ascii "seq") text) →
            ¬ IsSeqText text := by
          intro text hfirst htext
          have hsome : parseTunerResultSeq query = some (UInt32.ofNat (Decimal.value text)) := by
            rw [parseTunerResultSeq_eq_some_iff]
            refine ⟨text, hfirst, htext, ?_⟩
            have hle := htext.value_le
            rw [UInt32.toNat_ofNat', Nat.mod_eq_of_lt (by omega)]
          rw [hparse] at hsome
          cases hsome
        refine ⟨iff_of_false (by simp) ?_, ?_, fun _ => rfl⟩
        · rintro ⟨text, hfirst, htext⟩
          exact hnone text hfirst htext
        · intro text hfirst htext
          exact absurd htext (hnone text hfirst)
    | some n =>
        obtain ⟨text, hfirst, htext, hvalue⟩ := parseTunerResultSeq_eq_some_iff.1 hparse
        refine ⟨iff_of_true rfl ⟨text, hfirst, htext⟩, ?_, ?_⟩
        · intro text' hfirst' _
          have hsame := Option.some.inj (hfirst.symm.trans hfirst')
          rw [field, field, List.append_cancel_left_eq, List.cons.injEq] at hsame
          rw [← hsame.2]
          exact hvalue
        · intro h
          cases h
  · intro n seq body
    refine ⟨n.toNat.repr, numberedReply_tunerSeq n body, ?_⟩
    have hfield : ascii "seq=" ++ ascii n.toNat.repr =
        field (ascii "seq") (Decimal.digits n.toNat) := by
      rw [ascii_repr]
      rfl
    have hname : fieldName (field (ascii "seq") (Decimal.digits n.toNat)) = ascii "seq" :=
      fieldName_field (by decide)
    have hplain : ampersand ∉ field (ascii "seq") (Decimal.digits n.toNat) := by
      rw [field, List.mem_append, List.mem_cons, not_or, not_or]
      exact ⟨by decide, by decide, (plain_digits n.toNat).1⟩
    have hread : ∀ query, firstNamed (ascii "seq") query =
        some (field (ascii "seq") (Decimal.digits n.toNat)) →
          parseTunerResultSeqInto query seq = (true, n) := by
      intro query hfirst
      have hsome := parseTunerResultSeq_eq_some_iff.2
        ⟨_, hfirst, isSeqText_digits n, (Decimal.value_digits n.toNat).symm⟩
      rw [parseTunerResultSeqInto, hsome]
    rw [hfield]
    constructor
    · apply hread
      rw [firstNamed_of_notMem hplain, if_pos hname]
    · intro before after hothers hnames
      apply hread
      apply firstNamed_form hname
      · intro other hother
        exact hnames other (List.mem_append_left _ hother)
      · intro other hother
        rcases List.mem_append.1 hother with hother | hother
        · exact hothers other (List.mem_append_left _ hother)
        · rcases List.mem_cons.1 hother with rfl | hother
          · exact hplain
          · exact hothers other (List.mem_append_right _ hother)

end StripTuner.HttpPortal
