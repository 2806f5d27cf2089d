import StripTuner.Lib.Bytes

/-!
# DNS messages

The format of a DNS message as relations between its bytes and what they mean: names with
compression, questions, resource records and the header. A message is well formed when it means
something.
-/

namespace DnsFormat

open ByteLayout

/-- The big-endian 16-bit number at an offset. -/
def word16 (msg : List UInt8) (off : Nat) : Option Nat :=
  (msg[off + 1]?).bind fun low => (msg[off]?).map fun high => high.toNat * 256 + low.toNat

/-- A name without compression: labels of 1 to 63 bytes and a terminator. -/
inductive LabelsAt (msg : List UInt8) : Nat → List (List UInt8) → Nat → Prop where
  | root {off : Nat} : msg[off]? = some 0 → LabelsAt msg off [] (off + 1)
  | label {off stop : Nat} {size : UInt8} {labels : List (List UInt8)} :
      msg[off]? = some size → 1 ≤ size.toNat → size.toNat ≤ 63 →
      off + 1 + size.toNat ≤ msg.length →
      LabelsAt msg (off + 1 + size.toNat) labels stop →
      LabelsAt msg off (slice msg (off + 1) size.toNat :: labels) stop

/-- A name: labels, then a terminator or a pointer back to another name. -/
inductive NameAt (msg : List UInt8) : Nat → List (List UInt8) → Nat → Prop where
  | root {off : Nat} : msg[off]? = some 0 → NameAt msg off [] (off + 1)
  | label {off stop : Nat} {size : UInt8} {labels : List (List UInt8)} :
      msg[off]? = some size → 1 ≤ size.toNat → size.toNat ≤ 63 →
      off + 1 + size.toNat ≤ msg.length →
      NameAt msg (off + 1 + size.toNat) labels stop →
      NameAt msg off (slice msg (off + 1) size.toNat :: labels) stop
  | pointer {off target stop : Nat} {labels : List (List UInt8)} :
      word16 msg off = some (49152 + target) → target < off → NameAt msg target labels stop →
      NameAt msg off labels (off + 2)

structure Question where
  labels : List (List UInt8)
  qtype : Nat
  qclass : Nat
deriving DecidableEq

structure Record where
  labels : List (List UInt8)
  rtype : Nat
  rclass : Nat
  ttl : Nat
  rdata : List UInt8
deriving DecidableEq

/-- The question's name, type and class. -/
structure QuestionAt (msg : List UInt8) (off : Nat) (question : Question) (stop : Nat) :
    Prop where
  name : NameAt msg off question.labels (stop - 4)
  size : off + 5 ≤ stop
  qtype : word16 msg (stop - 4) = some question.qtype
  qclass : word16 msg (stop - 2) = some question.qclass

/-- The record's name, type, class, time to live and data. -/
structure RecordAt (msg : List UInt8) (off : Nat) (record : Record) (stop : Nat) : Prop where
  name : ∃ next, NameAt msg off record.labels next ∧
    word16 msg next = some record.rtype ∧
    word16 msg (next + 2) = some record.rclass ∧
    (∃ high low, word16 msg (next + 4) = some high ∧ word16 msg (next + 6) = some low ∧
      record.ttl = high * 65536 + low) ∧
    word16 msg (next + 8) = some record.rdata.length ∧
    slice msg (next + 10) record.rdata.length = record.rdata ∧
    stop = next + 10 + record.rdata.length
  inside : stop ≤ msg.length

/-- Items that follow one another. -/
inductive SeqAt {α : Type} (item : Nat → α → Nat → Prop) : Nat → List α → Nat → Prop where
  | nil (off : Nat) : SeqAt item off [] off
  | cons {off next stop : Nat} {a : α} {as : List α} :
      item off a next → SeqAt item next as stop → SeqAt item off (a :: as) stop

structure Message where
  id : Nat
  isResponse : Bool
  opcode : Nat
  isAuthoritative : Bool
  isTruncated : Bool
  isRecursionDesired : Bool
  isRecursionAvailable : Bool
  rcode : Nat
  questions : List Question
  answers : List Record
  authorities : List Record
  additionals : List Record

/-- The bytes are the message: its header, the four sections and nothing else. -/
structure Means (msg : List UInt8) (message : Message) : Prop where
  id : word16 msg 0 = some message.id
  flags : ∃ flags codes, msg[2]? = some flags ∧ msg[3]? = some codes ∧
    message.isResponse = flags.toNat.testBit 7 ∧ message.opcode = flags.toNat / 8 % 16 ∧
    message.isAuthoritative = flags.toNat.testBit 2 ∧ message.isTruncated = flags.toNat.testBit 1 ∧
    message.isRecursionDesired = flags.toNat.testBit 0 ∧
    message.isRecursionAvailable = codes.toNat.testBit 7 ∧ message.rcode = codes.toNat % 16
  questionCount : word16 msg 4 = some message.questions.length
  answerCount : word16 msg 6 = some message.answers.length
  authorityCount : word16 msg 8 = some message.authorities.length
  additionalCount : word16 msg 10 = some message.additionals.length
  sections : ∃ a b c, SeqAt (QuestionAt msg) 12 message.questions a ∧
    SeqAt (RecordAt msg) a message.answers b ∧ SeqAt (RecordAt msg) b message.authorities c ∧
    SeqAt (RecordAt msg) c message.additionals msg.length

section Names

variable {msg other : List UInt8} {off stop : Nat} {labels : List (List UInt8)}

theorem LabelsAt.nameAt (h : LabelsAt msg off labels stop) : NameAt msg off labels stop := by
  induction h with
  | root hzero => exact .root hzero
  | label hsize hmin hmax hinside _ ih => exact .label hsize hmin hmax hinside ih

theorem LabelsAt.lt (h : LabelsAt msg off labels stop) : off < stop := by
  induction h with
  | root hzero => exact Nat.lt_succ_self _
  | label hsize hmin hmax hinside _ ih => omega

theorem LabelsAt.le_length (h : LabelsAt msg off labels stop) : stop ≤ msg.length := by
  induction h with
  | root hzero => exact (List.getElem?_eq_some_iff.1 hzero).1
  | label hsize hmin hmax hinside _ ih => exact ih

/-- The labels at an offset are determined. -/
theorem LabelsAt.unique {labels' : List (List UInt8)} {stop' : Nat}
    (h : LabelsAt msg off labels stop) (h' : LabelsAt msg off labels' stop') :
    labels = labels' ∧ stop = stop' := by
  induction h generalizing labels' stop' with
  | root hzero =>
      cases h' with
      | root => exact ⟨rfl, rfl⟩
      | label hsize hmin =>
          rw [hzero] at hsize
          cases hsize
          exact absurd hmin (by decide)
  | label hsize hmin hmax hinside _ ih =>
      cases h' with
      | root hzero =>
          rw [hsize] at hzero
          cases hzero
          exact absurd hmin (by decide)
      | label hsize' hmin' hmax' hinside' hrest =>
          rw [hsize] at hsize'
          cases hsize'
          obtain ⟨rfl, rfl⟩ := ih hrest
          exact ⟨rfl, rfl⟩

/-- A name depends on its own bytes only. -/
theorem LabelsAt.congr (h : LabelsAt msg off labels stop) {size : Nat} (hle : stop ≤ size)
    (hsize : size ≤ other.length)
    (hsame : ∀ i, off ≤ i → i < size → msg[i]? = other[i]?) : LabelsAt other off labels stop := by
  induction h with
  | root hzero =>
      rename_i off
      rw [hsame off (Nat.le_refl off) (by omega)] at hzero
      exact .root hzero
  | label hbyte hmin hmax hinside hrest ih =>
      rename_i off stop size' labels
      have hstop := hrest.lt
      have hslice : slice msg (off + 1) size'.toNat = slice other (off + 1) size'.toNat := by
        apply List.ext_getElem?
        intro i
        rw [slice, slice, List.getElem?_take, List.getElem?_take, List.getElem?_drop,
          List.getElem?_drop]
        by_cases hi : i < size'.toNat
        · rw [if_pos hi, if_pos hi, hsame _ (by omega) (by omega)]
        · rw [if_neg hi, if_neg hi]
      rw [hslice]
      apply LabelsAt.label _ hmin hmax (by omega)
      · exact ih hle fun i hi => hsame i (by omega)
      · rw [← hsame off (Nat.le_refl off) (by omega), hbyte]

end Names

end DnsFormat
