import Mathlib.Data.Nat.Bitwise
import StripTuner.DnsServer.Response

/-!
# What is answered

The queries that `BuildDnsResponse()` answers, and its reply as a DNS message: the query's question,
and one record with the address when the question asks for one.
-/

namespace StripTuner.DnsServer

open ByteLayout ByteMemory DnsFormat

/-- A query with exactly one question, of plain labels, with its type and class inside. -/
structure HasQuestion (query : List UInt8) (question : Question) (stop : Nat) : Prop where
  isQuery : ∃ flags, query[2]? = some flags ∧ flags.toNat.testBit 7 = false
  count : word16 query 4 = some 1
  name : LabelsAt query dnsHeaderSize question.labels (stop - 4)
  qtype : word16 query (stop - 4) = some question.qtype
  qclass : word16 query (stop - 2) = some question.qclass
  stop : 4 ≤ stop

/-- The question is for an IPv4 address. -/
def isAQuestion (question : Question) : Bool := question.qtype = 1 ∧ question.qclass = 1

/-- The reply's message. -/
def replyMessage (query : List UInt8) (question : Question) (ipAddr : UInt32) : Message where
  id := (word16 query 0).getD 0
  isResponse := true
  opcode := 0
  isAuthoritative := false
  isTruncated := false
  isRecursionDesired := (query.getD 2 0).toNat.testBit 0
  isRecursionAvailable := true
  rcode := 0
  questions := [question]
  answers := if isAQuestion question then [⟨question.labels, 1, 1, 30, word32 ipAddr⟩] else []
  authorities := []
  additionals := []

/-! ## The bytes of a query -/

theorem word16_eq_some {msg : List UInt8} {off : Nat} (h : off + 1 < msg.length) :
    word16 msg off = some ((msg.getD off 0).toNat * 256 + (msg.getD (off + 1) 0).toNat) := by
  rw [word16, List.getD_eq_getElem?_getD, List.getD_eq_getElem?_getD,
    List.getElem?_eq_getElem (by omega : off < msg.length), List.getElem?_eq_getElem h]
  rfl

theorem lt_length_of_word16 {msg : List UInt8} {off n : Nat} (h : word16 msg off = some n) :
    off + 1 < msg.length := by
  by_contra hpast
  rw [word16, List.getElem?_eq_none (Nat.not_lt.1 hpast)] at h
  cases h

theorem HasQuestion.unique {query : List UInt8} {question question' : Question} {stop stop' : Nat}
    (h : HasQuestion query question stop) (h' : HasQuestion query question' stop') :
    question = question' ∧ stop = stop' := by
  obtain ⟨hlabels, hstop⟩ := h.name.unique h'.name
  have hfour := h.stop
  have hfour' := h'.stop
  obtain rfl : stop = stop' := by omega
  obtain ⟨labels, qtype, qclass⟩ := question
  obtain ⟨labels', qtype', qclass'⟩ := question'
  have hqtype : some qtype = some qtype' := h.qtype.symm.trans h'.qtype
  have hqclass : some qclass = some qclass' := h.qclass.symm.trans h'.qclass
  dsimp only at hlabels
  rw [hlabels, Option.some.inj hqtype, Option.some.inj hqclass]
  exact ⟨rfl, rfl⟩

/-- The question ends inside the query. -/
theorem HasQuestion.bounds {query : List UInt8} {question : Question} {stop : Nat}
    (h : HasQuestion query question stop) :
    dnsHeaderSize + 5 ≤ stop ∧ stop ≤ query.length := by
  have hname : 12 < stop - 4 := h.name.lt
  have hclass := lt_length_of_word16 h.qclass
  have hfour := h.stop
  constructor
  · show 17 ≤ stop
    omega
  · omega

/-! ## The checks -/

section Checks

variable (query : Span) (mem : Memory)

/-- The loop finds the terminator of the labels, if there is one inside the query. -/
theorem skipLabels_ok (off : Nat) :
    ∃ found, skipLabels query off mem = .ok (found, mem) ∧
      ∀ stop, (found = some stop ∧ stop < query.size) ↔
        ∃ labels, LabelsAt (bytesAt mem query.addr query.size) off labels (stop + 1) := by
  induction hrest : query.size - off using Nat.strongRecOn generalizing off with
  | ind rest ih =>
      rw [skipLabels]
      by_cases hinside : off < query.size
      · have hbyte := getElem?_bytesAt mem query.addr hinside
        rw [dif_pos hinside, bind_ok (Span.load_ok hinside mem)]
        by_cases hzero : mem (query.addr + off) = 0
        · rw [hzero] at hbyte
          rw [if_pos hzero]
          refine ⟨some off, rfl, fun stop => ?_⟩
          constructor
          · rintro ⟨hstop, -⟩
            cases hstop
            exact ⟨[], .root hbyte⟩
          · rintro ⟨labels, hlabels⟩
            have hstop := (hlabels.unique (.root hbyte)).2
            obtain rfl : stop = off := by omega
            exact ⟨rfl, hinside⟩
        · have hmin : 1 ≤ (mem (query.addr + off)).toNat := by
            rw [Nat.one_le_iff_ne_zero]
            intro hnat
            exact hzero (UInt8.toNat_inj.1 hnat)
          have hmax : (63 : UInt8).toNat = 63 := by decide
          rw [if_neg hzero]
          by_cases hbad : mem (query.addr + off) > 63 ∨
              off + (mem (query.addr + off)).toNat + 1 ≥ query.size
          · rw [if_pos hbad]
            refine ⟨none, rfl, fun stop => ?_⟩
            constructor
            · rintro ⟨hstop, -⟩
              cases hstop
            · rintro ⟨labels, hlabels⟩
              cases hlabels with
              | root hroot =>
                  rw [hbyte] at hroot
                  exact absurd (Option.some.inj hroot) hzero
              | label hsize _ hle _ hmore =>
                  rw [hbyte] at hsize
                  cases hsize
                  have hlt := hmore.lt
                  have hlength := hmore.le_length
                  rw [length_bytesAt] at hlength
                  rw [gt_iff_lt, UInt8.lt_iff_toNat_lt, hmax] at hbad
                  omega
          · rw [if_neg hbad]
            rw [gt_iff_lt, UInt8.lt_iff_toNat_lt, hmax] at hbad
            obtain ⟨found, hfound, hiff⟩ := ih (query.size -
              (off + ((mem (query.addr + off)).toNat + 1))) (by omega) _ rfl
            refine ⟨found, hfound, fun stop => ?_⟩
            have hoff : off + ((mem (query.addr + off)).toNat + 1) =
                off + 1 + (mem (query.addr + off)).toNat := by omega
            rw [hiff, hoff]
            constructor
            · rintro ⟨labels, hlabels⟩
              exact ⟨_, .label hbyte hmin (by omega) (by rw [length_bytesAt]; omega) hlabels⟩
            · rintro ⟨labels, hlabels⟩
              cases hlabels with
              | root hroot =>
                  rw [hbyte] at hroot
                  exact absurd (Option.some.inj hroot) hzero
              | label hsize _ _ _ hmore =>
                  rw [hbyte] at hsize
                  cases hsize
                  exact ⟨_, hmore⟩
      · rw [dif_neg hinside]
        refine ⟨some off, rfl, fun stop => ?_⟩
        constructor
        · rintro ⟨hstop, hlt⟩
          cases hstop
          exact absurd hlt hinside
        · rintro ⟨labels, hlabels⟩
          have hlt := hlabels.lt
          have hlength := hlabels.le_length
          rw [length_bytesAt] at hlength
          omega

/-- Two bytes are their 16-bit number. -/
theorem loadWord_ok {off : Nat} (h : off + 1 < query.size) :
    ∃ word, loadWord query off mem = .ok (word, mem) ∧
      word16 (bytesAt mem query.addr query.size) off = some word.toNat := by
  refine ⟨(mem (query.addr + off)).toUInt16 <<< 8 ||| (mem (query.addr + (off + 1))).toUInt16,
    ?_, ?_⟩
  · rw [loadWord, bind_ok (Span.load_ok (by omega) mem), bind_ok (Span.load_ok h mem)]
    rfl
  · have hlow := (mem (query.addr + (off + 1))).toNat_lt
    have hhigh := (mem (query.addr + off)).toNat_lt
    have height : (8 : UInt16).toNat % 16 = 8 := by decide
    have hshift : (mem (query.addr + off)).toNat <<< 8 % 2 ^ 16 =
        (mem (query.addr + off)).toNat <<< 8 := by
      rw [Nat.shiftLeft_eq]
      omega
    rw [word16_eq_some (by rwa [length_bytesAt]), getD_bytesAt _ _ (by omega), getD_bytesAt _ _ h,
      UInt16.toNat_or, UInt16.toNat_shiftLeft, UInt8.toNat_toUInt16, UInt8.toNat_toUInt16, height,
      hshift, Nat.or_comm, or_shiftLeft_eq_add hlow]
    congr 1
    omega

/-- The QR bit. -/
theorem and_eq_zero_iff (flags : UInt8) : flags &&& 0x80 = 0 ↔ flags.toNat.testBit 7 = false := by
  have hmask : (0x80 : UInt8).toNat = 2 ^ 7 := by decide
  rw [← UInt8.toNat_inj, UInt8.toNat_and, hmask, Nat.and_two_pow, UInt8.toNat_zero]
  cases flags.toNat.testBit 7 <;> decide

/-- Either the query is answered, or it has no question that fits and nothing is written. -/
theorem buildDnsResponse_cases (query response : Span) (ipAddr : UInt32) (mem : Memory) :
    (∃ question stop, HasQuestion (bytesAt mem query.addr query.size) question stop ∧
      stop + dnsAnswerSize ≤ response.size ∧
      buildDnsResponse query ipAddr response mem =
        writeReply query ipAddr response stop (isAQuestion question) mem) ∨
    ((¬ ∃ question stop, HasQuestion (bytesAt mem query.addr query.size) question stop ∧
      stop + dnsAnswerSize ≤ response.size) ∧
      buildDnsResponse query ipAddr response mem = .ok (0, mem)) := by
  have hlength := length_bytesAt mem query.addr query.size
  rw [buildDnsResponse]
  by_cases hsmall : query.size < dnsHeaderSize + 5
  · rw [if_pos hsmall]
    refine Or.inr ⟨?_, rfl⟩
    rintro ⟨question, stop, hquestion, -⟩
    have hbounds := hquestion.bounds
    rw [hlength] at hbounds
    omega
  rw [if_neg hsmall]
  have hlarge : 17 ≤ query.size := Nat.not_lt.1 hsmall
  have hbyte (i : Nat) (hi : i < 17) : (bytesAt mem query.addr query.size)[i]? =
      some (mem (query.addr + i)) := getElem?_bytesAt mem query.addr (by omega)
  rw [bind_ok (Span.load_ok (by omega) mem)]
  by_cases hresponse : mem (query.addr + 2) &&& 0x80 ≠ 0
  · rw [if_pos hresponse]
    refine Or.inr ⟨?_, rfl⟩
    rintro ⟨question, stop, ⟨⟨flags, hflags, hquery⟩, -⟩, -⟩
    rw [hbyte 2 (by decide)] at hflags
    cases hflags
    exact hresponse ((and_eq_zero_iff _).2 hquery)
  rw [if_neg hresponse, bind_ok (Span.load_ok (by omega) mem)]
  have hcount : word16 (bytesAt mem query.addr query.size) 4 =
      some ((mem (query.addr + 4)).toNat * 256 + (mem (query.addr + 5)).toNat) := by
    rw [word16_eq_some (by rw [hlength]; omega), getD_bytesAt _ _ (by omega),
      getD_bytesAt _ _ (by omega)]
  have hone : (1 : UInt8).toNat = 1 := by decide
  have hlow := (mem (query.addr + 5)).toNat_lt
  by_cases hhigh : mem (query.addr + 4) ≠ 0
  · rw [if_pos hhigh]
    refine Or.inr ⟨?_, rfl⟩
    rintro ⟨question, stop, hquestion, -⟩
    have hsingle := hquestion.count
    rw [hcount, Option.some_inj] at hsingle
    apply hhigh
    rw [← UInt8.toNat_inj, UInt8.toNat_zero]
    omega
  rw [if_neg hhigh, bind_ok (Span.load_ok (by omega) mem)]
  have hhighNat : (mem (query.addr + 4)).toNat = 0 := by
    rw [not_not.1 hhigh]
    rfl
  rw [hhighNat] at hcount
  by_cases hmany : mem (query.addr + 5) ≠ 1
  · rw [if_pos hmany]
    refine Or.inr ⟨?_, rfl⟩
    rintro ⟨question, stop, hquestion, -⟩
    have hsingle := hquestion.count
    rw [hcount, Option.some_inj] at hsingle
    apply hmany
    rw [← UInt8.toNat_inj, hone]
    omega
  rw [if_neg hmany]
  rw [not_not.1 hmany] at hcount
  obtain ⟨found, hfound, hiff⟩ := skipLabels_ok query mem dnsHeaderSize
  rw [bind_ok hfound]
  have hstopOf {question : Question} {stop : Nat}
      (hquestion : HasQuestion (bytesAt mem query.addr query.size) question stop) :
      found = some (stop - 5) ∧ stop - 5 < query.size := by
    apply (hiff (stop - 5)).2
    have hbounds := hquestion.bounds
    refine ⟨question.labels, ?_⟩
    rw [show stop - 5 + 1 = stop - 4 by omega]
    exact hquestion.name
  cases found with
  | none =>
      refine Or.inr ⟨?_, rfl⟩
      rintro ⟨question, stop, hquestion, -⟩
      cases (hstopOf hquestion).1
  | some nameEnd =>
      dsimp only
      by_cases hreject : nameEnd ≥ query.size ∨ nameEnd + 1 + 4 > query.size ∨
          nameEnd + 1 + 4 + dnsAnswerSize > response.size
      · rw [if_pos hreject]
        refine Or.inr ⟨?_, rfl⟩
        rintro ⟨question, stop, hquestion, hfit⟩
        obtain ⟨hend, hinside⟩ := hstopOf hquestion
        have hbounds := hquestion.bounds
        rw [hlength] at hbounds
        cases hend
        omega
      · rw [if_neg hreject]
        obtain ⟨labels, hlabels⟩ := (hiff nameEnd).1 ⟨rfl, by omega⟩
        obtain ⟨type, htype, hqtype⟩ :=
          loadWord_ok query mem (show nameEnd + 1 + 1 < query.size by omega)
        obtain ⟨classIn, hclass, hqclass⟩ :=
          loadWord_ok query mem (show nameEnd + 3 + 1 < query.size by omega)
        refine Or.inl ⟨⟨labels, type.toNat, classIn.toNat⟩, nameEnd + 5, ?_, by omega, ?_⟩
        · constructor
          · exact ⟨_, hbyte 2 (by decide), (and_eq_zero_iff _).1 (not_not.1 hresponse)⟩
          · exact hcount
          · exact hlabels
          · exact hqtype
          · exact hqclass
          · omega
        · rw [bind_ok htype, bind_ok hclass]
          have hsame : isAQuestion ⟨labels, type.toNat, classIn.toNat⟩ =
              decide (type = dnsTypeA ∧ classIn = dnsClassIn) := by
            rw [isAQuestion]
            apply decide_eq_decide.2
            rw [← UInt16.toNat_inj, ← UInt16.toNat_inj]
            exact Iff.rfl
          rw [hsame]

end Checks

/-! ## The meaning of the reply -/

section Meaning

variable {query : List UInt8} {question : Question} {stop : Nat}

theorem word16_append_right {xs ys : List UInt8} {n : Nat} (h : xs.length = n) (off : Nat) :
    word16 (xs ++ ys) (n + off) = word16 ys off := by
  rw [word16, word16, List.getElem?_append_right (by omega),
    List.getElem?_append_right (by omega), ← h, Nat.add_assoc, Nat.add_sub_cancel_left,
    Nat.add_sub_cancel_left]

/-- The part of the reply before the answer, with the question in its place. -/
theorem replyBytes_question (h : HasQuestion query question stop) (ipAddr : UInt32)
    (isAQuery : Bool) :
    ∃ before, replyBytes query ipAddr stop isAQuery =
        before ++ (if isAQuery then answerHeader ++ word32 ipAddr else []) ∧
      before.length = stop ∧ ∀ i, dnsHeaderSize ≤ i → i < stop → query[i]? = before[i]? := by
  obtain ⟨hlarge, hinside⟩ := h.bounds
  have hsize : (slice query dnsHeaderSize (stop - dnsHeaderSize)).length = stop - dnsHeaderSize :=
    length_slice (by simp only [dnsHeaderSize] at hlarge ⊢; omega)
  refine ⟨_, rfl, ?_, ?_⟩
  · rw [List.length_append, hsize]
    simp only [List.length_cons, List.length_nil, dnsHeaderSize] at hlarge ⊢
    omega
  · intro i hi hlt
    rw [List.getElem?_append_right (by simpa using hi), slice, List.getElem?_take_of_lt (by
      simp only [List.length_cons, List.length_nil, dnsHeaderSize] at hi ⊢
      omega), List.getElem?_drop]
    congr 1
    simp only [List.length_cons, List.length_nil, dnsHeaderSize] at hi ⊢
    omega

theorem word16_congr {msg other : List UInt8} {off : Nat} (h : msg[off]? = other[off]?)
    (hnext : msg[off + 1]? = other[off + 1]?) : word16 msg off = word16 other off := by
  rw [word16, word16, h, hnext]

/-- A message with the question's bytes in place has the question. -/
theorem HasQuestion.questionAt (h : HasQuestion query question stop) {msg : List UInt8}
    (hsame : ∀ i, dnsHeaderSize ≤ i → i < stop → query[i]? = msg[i]?) (hsize : stop ≤ msg.length) :
    QuestionAt msg dnsHeaderSize question stop := by
  have hlarge : 17 ≤ stop := h.bounds.1
  constructor
  · exact (h.name.congr (Nat.sub_le stop 4) hsize hsame).nameAt
  · exact hlarge
  · rw [← h.qtype]
    apply word16_congr
    · rw [hsame _ (by simp only [dnsHeaderSize]; omega) (by omega)]
    · rw [hsame _ (by simp only [dnsHeaderSize]; omega) (by omega)]
  · rw [← h.qclass]
    apply word16_congr
    · rw [hsame _ (by simp only [dnsHeaderSize]; omega) (by omega)]
    · rw [hsame _ (by simp only [dnsHeaderSize]; omega) (by omega)]

/-- The answer behind the question is a record for its name, by a pointer to it. -/
theorem answerAt {before : List UInt8} (hlength : before.length = stop) (ipAddr : UInt32)
    (hquestion : QuestionAt (before ++ (answerHeader ++ word32 ipAddr)) dnsHeaderSize question
      stop) :
    RecordAt (before ++ (answerHeader ++ word32 ipAddr)) stop
      ⟨question.labels, 1, 1, 30, word32 ipAddr⟩ (stop + dnsAnswerSize) := by
  have hword := length_word32 ipAddr
  have hsize : answerHeader.length = 12 := by decide
  have hstop := hquestion.size
  have hanswer (k : Nat) : word16 (before ++ (answerHeader ++ word32 ipAddr)) (stop + k) =
      word16 (answerHeader ++ word32 ipAddr) k := word16_append_right hlength k
  constructor
  · refine ⟨stop + 2, ?_, ?_, ?_, ⟨0, 30, ?_, ?_, rfl⟩, ?_, ?_, ?_⟩
    · have hpointer := hanswer 0
      exact NameAt.pointer hpointer (show dnsHeaderSize < stop by omega) hquestion.name
    · rw [hanswer]
      rfl
    · rw [Nat.add_assoc, hanswer]
      rfl
    · rw [Nat.add_assoc, hanswer]
      rfl
    · rw [Nat.add_assoc, hanswer]
      rfl
    · rw [Nat.add_assoc, hanswer, hword]
      rfl
    · dsimp only
      rw [slice_append_right (by omega), slice_append_right (by omega), hlength, hword, hsize,
        Nat.add_assoc, Nat.add_sub_cancel_left]
      exact slice_self hword
    · rw [hword]
      show stop + 16 = stop + 2 + 10 + 4
      omega
  · rw [List.length_append, List.length_append, hlength, hword, hsize]

/-- The flags of the reply. -/
theorem toNat_replyFlags (flags : UInt8) :
    (0x80 ||| (flags &&& 0x01)).toNat = 128 + flags.toNat % 2 := by
  have hmask : (0x01 : UInt8).toNat = 1 := by decide
  have hqr : (0x80 : UInt8).toNat = 128 := by decide
  rw [UInt8.toNat_or, UInt8.toNat_and, hmask, hqr, Nat.and_one_is_mod]
  cases Nat.mod_two_eq_zero_or_one flags.toNat with
  | inl hzero => rw [hzero]; decide
  | inr hone => rw [hone]; decide

/-- The reply means the query's question with the answer it gets. -/
theorem replyBytes_means (h : HasQuestion query question stop) (ipAddr : UInt32) :
    Means (replyBytes query ipAddr stop (isAQuestion question))
      (replyMessage query question ipAddr) := by
  obtain ⟨hlarge, hinside⟩ := h.bounds
  have hlarge17 : 17 ≤ stop := hlarge
  obtain ⟨before, hreply, hlength, hsame⟩ := replyBytes_question h ipAddr (isAQuestion question)
  have hcount := h.count
  rw [word16_eq_some (by omega), Option.some_inj] at hcount
  have hquestion : QuestionAt (replyBytes query ipAddr stop (isAQuestion question)) dnsHeaderSize
      question stop := by
    rw [hreply]
    apply h.questionAt
    · intro i hi hlt
      rw [List.getElem?_append_left (by omega), hsame i hi hlt]
    · rw [List.length_append]
      omega
  constructor
  · rw [replyMessage, word16_eq_some (show 0 + 1 < query.length by omega)]
    rfl
  · refine ⟨_, _, rfl, rfl, ?_⟩
    rw [toNat_replyFlags, replyMessage]
    cases Nat.mod_two_eq_zero_or_one (query.getD 2 0).toNat with
    | inl hzero =>
        rw [hzero, Nat.testBit_zero, hzero]
        dsimp only
        decide
    | inr hone =>
        rw [hone, Nat.testBit_zero, hone]
        dsimp only
        decide
  · exact congrArg some hcount
  · rw [replyBytes, replyMessage]
    cases isAQuestion question <;> rfl
  · rfl
  · rfl
  · cases hkind : isAQuestion question with
    | false =>
        rw [hkind] at hquestion hreply
        rw [if_neg (by decide), List.append_nil] at hreply
        refine ⟨stop, stop, stop, .cons hquestion (.nil stop), ?_, .nil stop, ?_⟩
        · rw [replyMessage, hkind]
          exact .nil stop
        · rw [hreply, hlength]
          exact .nil stop
    | true =>
        rw [hkind] at hquestion hreply
        rw [if_pos rfl] at hreply
        rw [hreply] at hquestion ⊢
        have hanswer := answerAt hlength ipAddr hquestion
        have hend : (before ++ (answerHeader ++ word32 ipAddr)).length = stop + dnsAnswerSize := by
          rw [List.length_append, List.length_append, hlength, length_word32]
          rfl
        refine ⟨stop, stop + dnsAnswerSize, stop + dnsAnswerSize, .cons hquestion (.nil stop), ?_,
          .nil _, ?_⟩
        · rw [replyMessage, hkind]
          exact .cons hanswer (.nil _)
        · rw [hend]
          exact .nil _

/-- The question is the query's, byte for byte. -/
theorem slice_replyBytes (h : HasQuestion query question stop) (ipAddr : UInt32)
    (isAQuery : Bool) :
    slice (replyBytes query ipAddr stop isAQuery) dnsHeaderSize (stop - dnsHeaderSize) =
      slice query dnsHeaderSize (stop - dnsHeaderSize) := by
  have hlarge : 17 ≤ stop := h.bounds.1
  obtain ⟨before, hreply, hlength, hsame⟩ := replyBytes_question h ipAddr isAQuery
  rw [hreply]
  apply List.ext_getElem?
  intro i
  rw [slice, slice, List.getElem?_take, List.getElem?_take, List.getElem?_drop, List.getElem?_drop]
  by_cases hi : i < stop - dnsHeaderSize
  · have hlt : dnsHeaderSize + i < stop := by
      simp only [dnsHeaderSize] at hi ⊢
      omega
    rw [if_pos hi, if_pos hi, List.getElem?_append_left (by omega),
      hsame _ (Nat.le_add_right dnsHeaderSize i) hlt]
  · rw [if_neg hi, if_neg hi]

end Meaning

/-! ## The responder -/

section Responder

variable {query response : Span} {mem : Memory}

/-- A query with a question that fits gets its reply. -/
theorem buildDnsResponse_answered (halias : response.MayAlias query) {question : Question}
    {stop : Nat} (h : HasQuestion (bytesAt mem query.addr query.size) question stop)
    (hfit : stop + dnsAnswerSize ≤ response.size) (ipAddr : UInt32) :
    ∃ mem', buildDnsResponse query ipAddr response mem =
        .ok (stop + (if isAQuestion question then dnsAnswerSize else 0), mem') ∧
      bytesAt mem' response.addr (stop + (if isAQuestion question then dnsAnswerSize else 0)) =
        replyBytes (bytesAt mem query.addr query.size) ipAddr stop (isAQuestion question) ∧
      ∀ a, ¬ response.Contains a → mem' a = mem a := by
  cases buildDnsResponse_cases query response ipAddr mem with
  | inr hrejected => exact absurd ⟨question, stop, h, hfit⟩ hrejected.1
  | inl hanswered =>
      obtain ⟨question', stop', hquestion, -, hbuild⟩ := hanswered
      obtain ⟨rfl, rfl⟩ := hquestion.unique h
      have hbounds := h.bounds
      rw [length_bytesAt] at hbounds
      rw [hbuild]
      exact writeReply_ok halias hbounds.2 hbounds.1 hfit ipAddr (isAQuestion question')

/-- Everything else is dropped. -/
theorem buildDnsResponse_dropped
    (h : ¬ ∃ question stop, HasQuestion (bytesAt mem query.addr query.size) question stop ∧
      stop + dnsAnswerSize ≤ response.size) (ipAddr : UInt32) :
    buildDnsResponse query ipAddr response mem = .ok (0, mem) := by
  cases buildDnsResponse_cases query response ipAddr mem with
  | inr hdropped => exact hdropped.2
  | inl hanswered =>
      obtain ⟨question, stop, hquestion, hfit, -⟩ := hanswered
      exact absurd ⟨question, stop, hquestion, hfit⟩ h

/-- The responder ends without a fault on every query and changes its response only. It drops what
is no query with one plain question that fits with its answer; its reply is otherwise the message
for that question, the same for every placement of the two buffers. -/
theorem buildDnsResponse_spec (query response : Span) (ipAddr : UInt32) (mem : Memory)
    (halias : response.MayAlias query) :
    ∃ n mem', buildDnsResponse query ipAddr response mem = .ok (n, mem') ∧
      n ≤ response.size ∧
      (∀ a, ¬ response.Contains a → mem' a = mem a) ∧
      (n = 0 ↔ ¬ ∃ question stop, HasQuestion (bytesAt mem query.addr query.size) question stop ∧
        stop + dnsAnswerSize ≤ response.size) ∧
      (∀ question stop, HasQuestion (bytesAt mem query.addr query.size) question stop →
        stop + dnsAnswerSize ≤ response.size →
        Means (bytesAt mem' response.addr n)
            (replyMessage (bytesAt mem query.addr query.size) question ipAddr) ∧
          slice (bytesAt mem' response.addr n) dnsHeaderSize (stop - dnsHeaderSize) =
            slice (bytesAt mem query.addr query.size) dnsHeaderSize (stop - dnsHeaderSize)) ∧
      ∀ (query' response' : Span) (other : Memory), response'.MayAlias query' →
        query'.size = query.size → response'.size = response.size →
        bytesAt other query'.addr query.size = bytesAt mem query.addr query.size →
        ∃ other', buildDnsResponse query' ipAddr response' other = .ok (n, other') ∧
          bytesAt other' response'.addr n = bytesAt mem' response.addr n := by
  by_cases hexists : ∃ question stop,
      HasQuestion (bytesAt mem query.addr query.size) question stop ∧
        stop + dnsAnswerSize ≤ response.size
  · obtain ⟨question, stop, hquestion, hfit⟩ := hexists
    obtain ⟨mem', hbuild, hreply, hframe⟩ :=
      buildDnsResponse_answered halias hquestion hfit ipAddr
    have hlarge : 17 ≤ stop := hquestion.bounds.1
    refine ⟨_, mem', hbuild, ?_, hframe, ?_, ?_, ?_⟩
    · have hroom : stop + 16 ≤ response.size := hfit
      split <;> omega
    · constructor
      · intro hzero
        omega
      · intro hnone
        exact absurd ⟨question, stop, hquestion, hfit⟩ hnone
    · intro question' stop' hquestion' _
      obtain ⟨rfl, rfl⟩ := hquestion.unique hquestion'
      rw [hreply]
      exact ⟨replyBytes_means hquestion ipAddr, slice_replyBytes hquestion ipAddr _⟩
    · intro query' response' other halias' hquery hresponse hsame
      have hbytes : bytesAt other query'.addr query'.size = bytesAt mem query.addr query.size := by
        rw [hquery, hsame]
      rw [← hbytes] at hquestion
      obtain ⟨other', hbuild', hreply', -⟩ :=
        buildDnsResponse_answered halias' hquestion (by rwa [hresponse]) ipAddr
      exact ⟨other', hbuild', by rw [hreply', hreply, hbytes]⟩
  · refine ⟨0, mem, buildDnsResponse_dropped hexists ipAddr, Nat.zero_le _, fun _ _ => rfl, ?_, ?_,
      ?_⟩
    · exact iff_of_true rfl hexists
    · intro question stop hquestion hfit
      exact absurd ⟨question, stop, hquestion, hfit⟩ hexists
    · intro query' response' other _ hquery hresponse hsame
      refine ⟨other, buildDnsResponse_dropped ?_ ipAddr, rfl⟩
      rwa [hquery, hsame, hresponse]

/-- A query for `a` with type A and class IN, answered in place. -/
def sampleQuery : List UInt8 :=
  [0x12, 0x34, 1, 0, 0, 1, 0, 0, 0, 0, 0, 0, 1, 97, 0, 0, 1, 0, 1]

theorem hasQuestion_sample :
    HasQuestion (bytesAt (fun a => sampleQuery.getD a 0) 0 19) ⟨[[97]], 1, 1⟩ 19 where
  isQuery := ⟨1, rfl, rfl⟩
  count := rfl
  name := .label rfl (show 1 ≤ (1 : UInt8).toNat by decide) (show (1 : UInt8).toNat ≤ 63 by decide)
    (show 12 + 1 + (1 : UInt8).toNat ≤ 19 by decide) (.root rfl)
  qtype := rfl
  qclass := rfl
  stop := by decide

theorem buildDnsResponse_spec_sample :
    ∃ n mem', buildDnsResponse ⟨0, 19⟩ 0x0104A8C0 ⟨0, 512⟩ (fun a => sampleQuery.getD a 0) =
      .ok (n, mem') ∧
        Means (bytesAt mem' 0 n)
          (replyMessage (bytesAt (fun a => sampleQuery.getD a 0) 0 19) ⟨[[97]], 1, 1⟩
            0x0104A8C0) := by
  obtain ⟨n, mem', hbuild, -, -, -, hmeans, -⟩ := buildDnsResponse_spec ⟨0, 19⟩ ⟨0, 512⟩ 0x0104A8C0
    (fun a => sampleQuery.getD a 0) (Or.inl rfl)
  exact ⟨n, mem', hbuild, (hmeans ⟨[[97]], 1, 1⟩ 19 hasQuestion_sample (by decide)).1⟩

end Responder

end StripTuner.DnsServer
