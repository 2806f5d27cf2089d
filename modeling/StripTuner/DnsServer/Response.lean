import StripTuner.Lib.Dns
import StripTuner.Lib.Memory

/-!
# The DNS responder

`BuildDnsResponse()` of `dns_server.c` on a flat memory: the query and the response are spans, and
may be one buffer.
-/

namespace StripTuner.DnsServer

open ByteLayout ByteMemory DnsFormat

/-- `DNS_HEADER_SIZE`. -/
abbrev dnsHeaderSize : Nat := 12

/-- `DNS_ANSWER_SIZE`. -/
abbrev dnsAnswerSize : Nat := 16

/-- `DNS_TYPE_A`. -/
abbrev dnsTypeA : UInt16 := 1

/-- `DNS_CLASS_IN`. -/
abbrev dnsClassIn : UInt16 := 1

/-- `DNS_SERVER_TTL_S`. -/
abbrev dnsServerTtlS : UInt8 := 30

/-- The loop over the labels: where the terminator is, or `none` for `return 0`. -/
def skipLabels (query : Span) (nameEnd : Nat) : Access (Option Nat) :=
  if _hinside : nameEnd < query.size then do
    let labelLength ← query.load nameEnd
    if labelLength = 0 then return some nameEnd
    else if labelLength > 63 ∨ nameEnd + labelLength.toNat + 1 ≥ query.size then return none
    else skipLabels query (nameEnd + (labelLength.toNat + 1))
  else return some nameEnd
termination_by query.size - nameEnd

/-- Two bytes of the query, most significant first. -/
def loadWord (query : Span) (off : Nat) : Access UInt16 := do
  let high ← query.load off
  let low ← query.load (off + 1)
  return high.toUInt16 <<< 8 ||| low.toUInt16

/-- The constant part of the answer. -/
def answerHeader : List UInt8 :=
  [0xC0, 0x0C, 0, dnsTypeA.toUInt8, 0, dnsClassIn.toUInt8, 0, 0, 0, dnsServerTtlS, 0, 4]

/-- `memcpy()` of the question, unless the reply is built in place. -/
def copyQuestion (query response : Span) (questionEnd : Nat) : Access Unit :=
  if response.addr ≠ query.addr then response.copy query questionEnd else return ()

/-- The part of `BuildDnsResponse()` behind its checks. -/
def writeReply (query : Span) (ipAddr : UInt32) (response : Span) (questionEnd : Nat)
    (isAQuery : Bool) : Access Nat := do
  copyQuestion query response questionEnd
  let flags ← query.load 2
  response.store 2 [0x80 ||| (flags &&& 0x01)]
  response.store 3 [0x80]
  response.store 6 [0]
  response.store 7 [if isAQuery then 1 else 0]
  response.store 8 (List.replicate 4 0)
  if !isAQuery then return questionEnd
  response.store questionEnd answerHeader
  response.store (questionEnd + answerHeader.length) (word32 ipAddr)
  return questionEnd + dnsAnswerSize

/-- `BuildDnsResponse()`; the lengths are the sizes of the spans. -/
def buildDnsResponse (query : Span) (ipAddr : UInt32) (response : Span) : Access Nat := do
  if query.size < dnsHeaderSize + 5 then return 0
  if (← query.load 2) &&& 0x80 ≠ 0 then return 0
  if (← query.load 4) ≠ 0 then return 0
  if (← query.load 5) ≠ 1 then return 0
  match ← skipLabels query dnsHeaderSize with
  | none => return 0
  | some nameEnd =>
    let questionEnd := nameEnd + 1 + 4
    if nameEnd ≥ query.size ∨ questionEnd > query.size ∨
        questionEnd + dnsAnswerSize > response.size then return 0
    let type ← loadWord query (nameEnd + 1)
    let classIn ← loadWord query (nameEnd + 3)
    writeReply query ipAddr response questionEnd (type = dnsTypeA ∧ classIn = dnsClassIn)

/-! ## The reply -/

/-- The reply to a query whose question ends at `questionEnd`. -/
def replyBytes (query : List UInt8) (ipAddr : UInt32) (questionEnd : Nat) (isAQuery : Bool) :
    List UInt8 :=
  [query.getD 0 0, query.getD 1 0, 0x80 ||| (query.getD 2 0 &&& 0x01), 0x80, query.getD 4 0,
    query.getD 5 0, 0, if isAQuery then 1 else 0, 0, 0, 0, 0] ++
    slice query dnsHeaderSize (questionEnd - dnsHeaderSize) ++
    if isAQuery then answerHeader ++ word32 ipAddr else []

section Reply

variable {query response : Span} {questionEnd : Nat}

theorem copyQuestion_ok (mem : Memory) (halias : response.MayAlias query)
    (hquery : questionEnd ≤ query.size) (hresponse : questionEnd ≤ response.size) :
    ∃ mem', copyQuestion query response questionEnd mem = .ok ((), mem') ∧
      bytesAt mem' response.addr questionEnd = bytesAt mem query.addr questionEnd ∧
      (∀ a, query.Contains a → mem' a = mem a) ∧
      ∀ a, ¬ response.Contains a → mem' a = mem a := by
  by_cases hsame : response.addr = query.addr
  · refine ⟨mem, ?_, by rw [hsame], fun _ _ => rfl, fun _ _ => rfl⟩
    rw [copyQuestion, if_neg (not_not_intro hsame)]
    rfl
  · have hdisjoint : query.Disjoint response := by
      cases halias with
      | inl heq => exact absurd heq hsame
      | inr hdisjoint =>
          rw [Span.Disjoint] at hdisjoint ⊢
          exact hdisjoint.symm
    have hcopied := bytesAt_store mem response.addr (bytesAt mem query.addr questionEnd)
    rw [length_bytesAt] at hcopied
    refine ⟨_, ?_, hcopied, ?_, ?_⟩
    · rw [copyQuestion, if_pos hsame, Span.copy_ok hquery hresponse hdisjoint]
    · intro a ha
      rw [Span.Contains] at ha
      rw [Span.Disjoint] at hdisjoint
      rw [store, length_bytesAt, if_neg (by omega)]
    · intro a ha
      rw [Span.Contains] at ha
      rw [store, length_bytesAt, if_neg (by omega)]

/-- A list of at least twelve bytes by its first twelve. -/
theorem eq_header_append {bytes : List UInt8} (h : dnsHeaderSize ≤ bytes.length) :
    bytes = [bytes.getD 0 0, bytes.getD 1 0, bytes.getD 2 0, bytes.getD 3 0, bytes.getD 4 0,
      bytes.getD 5 0, bytes.getD 6 0, bytes.getD 7 0, bytes.getD 8 0, bytes.getD 9 0,
      bytes.getD 10 0, bytes.getD 11 0] ++ bytes.drop dnsHeaderSize := by
  rcases bytes with _ | ⟨b0, _ | ⟨b1, _ | ⟨b2, _ | ⟨b3, _ | ⟨b4, _ | ⟨b5, _ | ⟨b6, _ | ⟨b7, _ |
    ⟨b8, _ | ⟨b9, _ | ⟨b10, _ | ⟨b11, rest⟩⟩⟩⟩⟩⟩⟩⟩⟩⟩⟩⟩
  case cons.cons.cons.cons.cons.cons.cons.cons.cons.cons.cons.cons => rfl
  all_goals simp [dnsHeaderSize] at h

/-- The five stores into the header, on the twelve bytes they are about. -/
theorem overwrite_header (b0 b1 b2 b3 b4 b5 b6 b7 b8 b9 b10 b11 flags count : UInt8)
    (rest : List UInt8) :
    overwrite (overwrite (overwrite (overwrite (overwrite
      ([b0, b1, b2, b3, b4, b5, b6, b7, b8, b9, b10, b11] ++ rest) 2 [flags]) 3 [0x80]) 6 [0])
        7 [count]) 8 (List.replicate 4 0) =
      [b0, b1, flags, 0x80, b4, b5, 0, count, 0, 0, 0, 0] ++ rest := by
  simp [overwrite]

/-- The bytes that the stores into the header leave up to the end of the question. -/
theorem bytesAt_header {addr : Nat} {query : List UInt8} (flags count : UInt8)
    (hlength : questionEnd ≤ query.length) (hend : dnsHeaderSize + 5 ≤ questionEnd)
    (hbytes : bytesAt mem addr questionEnd = query.take questionEnd) :
    bytesAt (store (store (store (store (store mem (addr + 2) [flags]) (addr + 3) [0x80])
      (addr + 6) [0]) (addr + 7) [count]) (addr + 8) (List.replicate 4 0)) addr questionEnd =
        [query.getD 0 0, query.getD 1 0, flags, 0x80, query.getD 4 0, query.getD 5 0, 0, count,
          0, 0, 0, 0] ++ slice query dnsHeaderSize (questionEnd - dnsHeaderSize) := by
  have hlarge : 17 ≤ questionEnd := hend
  obtain ⟨rest, rfl⟩ := Nat.exists_eq_add_of_le (Nat.le_of_add_right_le hend)
  have htake : query.take (dnsHeaderSize + rest) = [query.getD 0 0, query.getD 1 0, query.getD 2 0,
      query.getD 3 0, query.getD 4 0, query.getD 5 0, query.getD 6 0, query.getD 7 0,
      query.getD 8 0, query.getD 9 0, query.getD 10 0, query.getD 11 0] ++
        slice query dnsHeaderSize (dnsHeaderSize + rest - dnsHeaderSize) := by
    have hheader := eq_header_append (Nat.le_of_add_right_le (Nat.le_trans hend hlength))
    rw [slice, Nat.add_sub_cancel_left]
    conv_lhs => rw [hheader]
    rw [List.take_append, List.take_of_length_le (by simp)]
    simp only [List.length_cons, List.length_nil, dnsHeaderSize, Nat.add_sub_cancel_left]
  rw [bytesAt_store_inside, bytesAt_store_inside, bytesAt_store_inside, bytesAt_store_inside,
    bytesAt_store_inside, hbytes, htake, overwrite_header]
  all_goals simp only [List.length_cons, List.length_nil, List.length_replicate]
  all_goals omega

/-- The answer behind the question. -/
theorem bytesAt_answer (addr : Nat) (ipAddr : UInt32) :
    bytesAt (store (store mem (addr + questionEnd) answerHeader)
      (addr + (questionEnd + answerHeader.length)) (word32 ipAddr)) addr
        (questionEnd + dnsAnswerSize) =
      bytesAt mem addr questionEnd ++ (answerHeader ++ word32 ipAddr) := by
  have hsize : answerHeader.length = 12 := by decide
  have hword := length_word32 ipAddr
  have hbefore : bytesAt (store (store mem (addr + questionEnd) answerHeader)
      (addr + (questionEnd + answerHeader.length)) (word32 ipAddr)) addr questionEnd =
        bytesAt mem addr questionEnd := by
    apply bytesAt_congr
    intro i hi
    rw [store_of_lt (by omega), store_of_lt (by omega)]
  have hfixed : bytesAt (store (store mem (addr + questionEnd) answerHeader)
      (addr + (questionEnd + answerHeader.length)) (word32 ipAddr)) (addr + questionEnd) 12 =
        answerHeader := by
    have hstored := bytesAt_store mem (addr + questionEnd) answerHeader
    rw [hsize] at hstored
    refine Eq.trans (bytesAt_congr fun i hi => ?_) hstored
    rw [store_of_lt (by omega)]
  have haddress := bytesAt_store (store mem (addr + questionEnd) answerHeader)
    (addr + (questionEnd + answerHeader.length)) (word32 ipAddr)
  rw [hword, hsize, ← Nat.add_assoc] at haddress
  have hsplit : dnsAnswerSize = 12 + 4 := by decide
  rw [hsplit, bytesAt_add, hbefore, bytesAt_add, hfixed, hsize, ← Nat.add_assoc, haddress]

theorem getD_bytesAt (mem : Memory) (addr : Nat) {n i : Nat} (h : i < n) :
    (bytesAt mem addr n).getD i 0 = mem (addr + i) := by
  rw [List.getD_eq_getElem?_getD, getElem?_bytesAt mem addr h, Option.getD_some]

/-- The reply is in the response, and only the response has changed. -/
theorem writeReply_ok (halias : response.MayAlias query) (hquery : questionEnd ≤ query.size)
    (hend : dnsHeaderSize + 5 ≤ questionEnd)
    (hresponse : questionEnd + dnsAnswerSize ≤ response.size) (ipAddr : UInt32)
    (isAQuery : Bool) :
    ∃ mem', writeReply query ipAddr response questionEnd isAQuery mem =
        .ok (questionEnd + (if isAQuery then dnsAnswerSize else 0), mem') ∧
      bytesAt mem' response.addr (questionEnd + (if isAQuery then dnsAnswerSize else 0)) =
        replyBytes (bytesAt mem query.addr query.size) ipAddr questionEnd isAQuery ∧
      ∀ a, ¬ response.Contains a → mem' a = mem a := by
  have hlarge : 17 ≤ questionEnd := hend
  have hroom : questionEnd + 16 ≤ response.size := hresponse
  obtain ⟨copied, hcopy, hbytes, hkept, hframe⟩ :=
    copyQuestion_ok mem halias hquery (by omega)
  have hflags : copied (query.addr + 2) = (bytesAt mem query.addr query.size).getD 2 0 := by
    rw [getD_bytesAt _ _ (by omega)]
    apply hkept
    rw [Span.Contains]
    omega
  have hquestion : bytesAt copied response.addr questionEnd =
      (bytesAt mem query.addr query.size).take questionEnd := by
    rw [hbytes, take_bytesAt _ _ hquery]
  have hzeros : (List.replicate 4 (0 : UInt8)).length = 4 := List.length_replicate
  have hframed : ∀ m : Memory, (∀ a, ¬ response.Contains a → m a = mem a) →
      ∀ off (bytes : List UInt8), off + bytes.length ≤ response.size →
        ∀ a, ¬ response.Contains a → store m (response.addr + off) bytes a = mem a := by
    intro m hm off bytes hfit a ha
    rw [store, if_neg (fun hin => ha ⟨by omega, by omega⟩)]
    exact hm a ha
  rw [writeReply, bind_ok hcopy, bind_ok (Span.load_ok (by omega) copied), hflags,
    bind_ok (Span.store_ok (by rw [List.length_singleton]; omega) _),
    bind_ok (Span.store_ok (by rw [List.length_singleton]; omega) _),
    bind_ok (Span.store_ok (by rw [List.length_singleton]; omega) _),
    bind_ok (Span.store_ok (by rw [List.length_singleton]; omega) _),
    bind_ok (Span.store_ok (by rw [hzeros]; omega) _)]
  have hheader := bytesAt_header (0x80 ||| ((bytesAt mem query.addr query.size).getD 2 0 &&& 0x01))
    (if isAQuery then 1 else 0) (by rwa [length_bytesAt]) hend hquestion
  have hstored := hframed _ (hframed _ (hframed _ (hframed _ (hframed _ hframe
    2 [0x80 ||| ((bytesAt mem query.addr query.size).getD 2 0 &&& 0x01)]
      (by rw [List.length_singleton]; omega))
    3 [0x80] (by rw [List.length_singleton]; omega))
    6 [0] (by rw [List.length_singleton]; omega))
    7 [if isAQuery then 1 else 0] (by rw [List.length_singleton]; omega))
    8 (List.replicate 4 0) (by rw [hzeros]; omega)
  cases isAQuery with
  | false =>
      refine ⟨_, rfl, ?_, hstored⟩
      simp only [replyBytes, Bool.false_eq_true, if_false, List.append_nil, Nat.add_zero]
        at hheader ⊢
      exact hheader
  | true =>
      have hsize : answerHeader.length = 12 := by decide
      have hword := length_word32 ipAddr
      rw [if_neg (by decide), bind_ok (Span.store_ok (by omega) _),
        bind_ok (Span.store_ok (by omega) _)]
      refine ⟨_, rfl, ?_, hframed _ (hframed _ hstored questionEnd answerHeader (by omega))
        (questionEnd + answerHeader.length) (word32 ipAddr) (by omega)⟩
      simp only [replyBytes, if_true] at hheader ⊢
      rw [bytesAt_answer, hheader]

end Reply

end StripTuner.DnsServer
