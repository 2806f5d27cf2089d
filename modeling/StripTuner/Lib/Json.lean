import StripTuner.Lib.Decimal
import StripTuner.Lib.Hex

/-!
# JSON texts

The JSON grammar on bytes. A relation says which item a text begins with and what is left of the
text; each text denotes one value at most. In a string, a byte from `0x20` on other than the quote
and the backslash stands for itself, so that strings carry any bytes.
-/

namespace Json

open Decimal Hexadecimal

abbrev quote : UInt8 := 0x22
abbrev backslash : UInt8 := 0x5C
abbrev comma : UInt8 := 0x2C
abbrev colon : UInt8 := 0x3A

/-- A number is `mantissa * 10 ^ exponent`. -/
inductive Value where
  | null
  | bool (b : Bool)
  | number (mantissa exponent : Int)
  | string (bytes : List UInt8)
  | array (elements : List Value)
  | object (members : List (List UInt8 × Value))

/-! ## Numbers -/

def isNumberByte (byte : UInt8) : Bool :=
  isDigit byte || byte = 0x2D || byte = 0x2B || byte = 0x2E || byte = 0x65 || byte = 0x45

/-- The exponent part of a number, which may be missing. -/
def exponentValue (text : List UInt8) : Option Int :=
  if text = [] then some 0
  else if text.head? = some 0x65 ∨ text.head? = some 0x45 then
    let signed := text.drop 1
    let digits :=
      if signed.head? = some 0x2D ∨ signed.head? = some 0x2B then signed.drop 1 else signed
    if digits = [] ∨ !digits.all isDigit then none
    else if signed.head? = some 0x2D then some (-(value digits : Int)) else some (value digits)
  else none

/-- A number without its sign: digits without a leading zero, a fraction and an exponent. -/
def unsignedValue (text : List UInt8) : Option (Nat × Int) :=
  let whole := text.takeWhile isDigit
  let rest := text.dropWhile isDigit
  let fraction := if rest.head? = some 0x2E then (rest.drop 1).takeWhile isDigit else []
  let exponent := if rest.head? = some 0x2E then (rest.drop 1).dropWhile isDigit else rest
  if whole = [] ∨ (1 < whole.length ∧ whole.getD 0 0 = 0x30) ∨
      (rest.head? = some 0x2E ∧ fraction = []) then none
  else
    (exponentValue exponent).map fun exponent =>
      (value (whole ++ fraction), exponent - fraction.length)

/-- The number that a token denotes. -/
def numberValue (token : List UInt8) : Option (Int × Int) :=
  if token.head? = some 0x2D then
    (unsignedValue (token.drop 1)).map fun number => (-(number.1 : Int), number.2)
  else (unsignedValue token).map fun number => ((number.1 : Int), number.2)

/-! ## Strings -/

/-- The byte of an escape with one letter. -/
def shortEscape (mark : UInt8) : Option UInt8 :=
  if mark = quote ∨ mark = backslash ∨ mark = 0x2F then some mark
  else if mark = 0x62 then some 0x08
  else if mark = 0x66 then some 0x0C
  else if mark = 0x6E then some 0x0A
  else if mark = 0x72 then some 0x0D
  else if mark = 0x74 then some 0x09
  else none

/-- The number of four hexadecimal digits. -/
def hexWord (a b c d : UInt8) : Option Nat := do
  let a ← hexValue a
  let b ← hexValue b
  let c ← hexValue c
  let d ← hexValue d
  return 4096 * a + 256 * b + 16 * c + d

/-- The bytes of a code point. -/
def utf8 (code : Nat) : List UInt8 :=
  if code < 0x80 then [code.toUInt8]
  else if code < 0x800 then [(0xC0 + code / 64).toUInt8, (0x80 + code % 64).toUInt8]
  else if code < 0x10000 then
    [(0xE0 + code / 4096).toUInt8, (0x80 + code / 64 % 64).toUInt8, (0x80 + code % 64).toUInt8]
  else
    [(0xF0 + code / 262144).toUInt8, (0x80 + code / 4096 % 64).toUInt8,
      (0x80 + code / 64 % 64).toUInt8, (0x80 + code % 64).toUInt8]

/-- The bytes of a string up to its closing quote, and what is behind it. -/
inductive ReadsString : List UInt8 → List UInt8 → List UInt8 → Prop where
  | close {rest : List UInt8} : ReadsString [] (quote :: rest) rest
  | plain {byte : UInt8} {bytes text rest : List UInt8} : 0x20 ≤ byte → byte ≠ quote →
      byte ≠ backslash → ReadsString bytes text rest →
      ReadsString (byte :: bytes) (byte :: text) rest
  | escape {mark byte : UInt8} {bytes text rest : List UInt8} : shortEscape mark = some byte →
      ReadsString bytes text rest → ReadsString (byte :: bytes) (backslash :: mark :: text) rest
  | unicode {a b c d : UInt8} {code : Nat} {bytes text rest : List UInt8} :
      hexWord a b c d = some code → ¬ (0xD800 ≤ code ∧ code < 0xE000) →
      ReadsString bytes text rest →
      ReadsString (utf8 code ++ bytes) (backslash :: 0x75 :: a :: b :: c :: d :: text) rest
  | surrogates {a b c d a' b' c' d' : UInt8} {high low : Nat} {bytes text rest : List UInt8} :
      hexWord a b c d = some high → 0xD800 ≤ high → high < 0xDC00 →
      hexWord a' b' c' d' = some low → 0xDC00 ≤ low → low < 0xE000 →
      ReadsString bytes text rest →
      ReadsString (utf8 (0x10000 + 0x400 * (high - 0xD800) + (low - 0xDC00)) ++ bytes)
        (backslash :: 0x75 :: a :: b :: c :: d :: backslash :: 0x75 :: a' :: b' :: c' :: d' :: text)
        rest

/-! ## Values -/

def isSpace (byte : UInt8) : Bool := byte = 0x20 || byte = 0x09 || byte = 0x0A || byte = 0x0D

/-- The text behind its white space. -/
def skip (text : List UInt8) : List UInt8 := text.dropWhile isSpace

/-- A value, or what stands between the brackets of an array or an object that is not empty. -/
inductive Item where
  | value (value : Value)
  | elements (elements : List Value)
  | members (members : List (List UInt8 × Value))

/-- The item that a text begins with, its closing bracket included, and what is behind it. -/
inductive Reads : Item → List UInt8 → List UInt8 → Prop where
  | nullText {rest : List UInt8} :
      Reads (.value .null) (0x6E :: 0x75 :: 0x6C :: 0x6C :: rest) rest
  | trueText {rest : List UInt8} :
      Reads (.value (.bool true)) (0x74 :: 0x72 :: 0x75 :: 0x65 :: rest) rest
  | falseText {rest : List UInt8} :
      Reads (.value (.bool false)) (0x66 :: 0x61 :: 0x6C :: 0x73 :: 0x65 :: rest) rest
  | number {mantissa exponent : Int} {text : List UInt8} :
      numberValue (text.takeWhile isNumberByte) = some (mantissa, exponent) →
      Reads (.value (.number mantissa exponent)) text (text.dropWhile isNumberByte)
  | string {bytes text rest : List UInt8} : ReadsString bytes text rest →
      Reads (.value (.string bytes)) (quote :: text) rest
  | noElements {text rest : List UInt8} : skip text = 0x5D :: rest →
      Reads (.value (.array [])) (0x5B :: text) rest
  | array {elements : List Value} {text rest : List UInt8} : Reads (.elements elements) text rest →
      Reads (.value (.array elements)) (0x5B :: text) rest
  | noMembers {text rest : List UInt8} : skip text = 0x7D :: rest →
      Reads (.value (.object [])) (0x7B :: text) rest
  | object {members : List (List UInt8 × Value)} {text rest : List UInt8} :
      Reads (.members members) text rest → Reads (.value (.object members)) (0x7B :: text) rest
  | lastElement {value : Value} {text behind rest : List UInt8} :
      Reads (.value value) (skip text) behind → skip behind = 0x5D :: rest →
      Reads (.elements [value]) text rest
  | element {value : Value} {elements : List Value} {text behind text' rest : List UInt8} :
      Reads (.value value) (skip text) behind → skip behind = comma :: text' →
      Reads (.elements elements) text' rest → Reads (.elements (value :: elements)) text rest
  | lastMember {name : List UInt8} {value : Value} {text t1 t2 t3 behind rest : List UInt8} :
      skip text = quote :: t1 → ReadsString name t1 t2 → skip t2 = colon :: t3 →
      Reads (.value value) (skip t3) behind → skip behind = 0x7D :: rest →
      Reads (.members [(name, value)]) text rest
  | member {name : List UInt8} {value : Value} {members : List (List UInt8 × Value)}
      {text t1 t2 t3 behind text' rest : List UInt8} :
      skip text = quote :: t1 → ReadsString name t1 t2 → skip t2 = colon :: t3 →
      Reads (.value value) (skip t3) behind → skip behind = comma :: text' →
      Reads (.members members) text' rest →
      Reads (.members ((name, value) :: members)) text rest

/-- A whole text denotes a value. -/
def Denotes (text : List UInt8) (value : Value) : Prop :=
  ∃ rest, Reads (.value value) (skip text) rest ∧ skip rest = []

/-! ## A text denotes one value -/

theorem ReadsString.unique {bytes bytes' text rest rest' : List UInt8}
    (h : ReadsString bytes text rest) (h' : ReadsString bytes' text rest') :
    bytes = bytes' ∧ rest = rest' := by
  induction h generalizing bytes' with
  | close =>
      cases h' with
      | close => exact ⟨rfl, rfl⟩
      | plain _ hquote _ _ => exact absurd rfl hquote
  | plain _ hquote hbackslash _ ih =>
      cases h' with
      | close => exact absurd rfl hquote
      | plain _ _ _ h' => exact ⟨by rw [(ih h').1], (ih h').2⟩
      | escape _ _ => exact absurd rfl hbackslash
      | unicode _ _ _ => exact absurd rfl hbackslash
      | surrogates _ _ _ _ _ _ _ => exact absurd rfl hbackslash
  | escape hmark _ ih =>
      cases h' with
      | plain _ _ hbackslash _ => exact absurd rfl hbackslash
      | escape hmark' h' =>
          cases hmark.symm.trans hmark'
          exact ⟨by rw [(ih h').1], (ih h').2⟩
      | unicode _ _ _ => cases hmark
      | surrogates _ _ _ _ _ _ _ => cases hmark
  | unicode hcode hplain _ ih =>
      cases h' with
      | plain _ _ hbackslash _ => exact absurd rfl hbackslash
      | escape hmark _ => cases hmark
      | unicode hcode' _ h' =>
          cases hcode.symm.trans hcode'
          exact ⟨by rw [(ih h').1], (ih h').2⟩
      | surrogates hhigh hle hlt _ _ _ _ =>
          cases hcode.symm.trans hhigh
          omega
  | surrogates hhigh hle hlt hlow _ _ _ ih =>
      cases h' with
      | plain _ _ hbackslash _ => exact absurd rfl hbackslash
      | escape hmark _ => cases hmark
      | unicode hcode hplain _ =>
          cases hhigh.symm.trans hcode
          omega
      | surrogates hhigh' _ _ hlow' _ _ h' =>
          cases hhigh.symm.trans hhigh'
          cases hlow.symm.trans hlow'
          exact ⟨by rw [(ih h').1], (ih h').2⟩

/-- A number starts with a byte of a number. -/
theorem isNumberByte_of_numberValue {byte : UInt8} {text : List UInt8} {number : Int × Int}
    (h : numberValue ((byte :: text).takeWhile isNumberByte) = some number) :
    isNumberByte byte = true := by
  by_contra hbyte
  rw [List.takeWhile_cons, if_neg hbyte] at h
  cases h

/-- No value begins with a closing bracket. -/
theorem not_reads_of_close {v : Value} {byte : UInt8} {text rest : List UInt8}
    (hbyte : byte = 0x5D ∨ byte = 0x7D) : ¬ Reads (.value v) (byte :: text) rest := by
  intro h
  rcases hbyte with rfl | rfl
  · cases h with
    | number hnumber => cases isNumberByte_of_numberValue hnumber
  · cases h with
    | number hnumber => cases isNumberByte_of_numberValue hnumber

/-- Items of one kind. -/
def SameKind : Item → Item → Prop
  | .value _, .value _ | .elements _, .elements _ | .members _, .members _ => True
  | _, _ => False

theorem SameKind.value {v : Value} {item : Item} (h : SameKind (.value v) item) :
    ∃ v', item = .value v' := by
  cases item with
  | value v' => exact ⟨v', rfl⟩
  | elements _ => cases h
  | members _ => cases h

theorem SameKind.elements {elements : List Value} {item : Item}
    (h : SameKind (.elements elements) item) : ∃ elements', item = .elements elements' := by
  cases item with
  | value _ => cases h
  | elements elements' => exact ⟨elements', rfl⟩
  | members _ => cases h

theorem SameKind.members {members : List (List UInt8 × Value)} {item : Item}
    (h : SameKind (.members members) item) : ∃ members', item = .members members' := by
  cases item with
  | value _ => cases h
  | elements _ => cases h
  | members members' => exact ⟨members', rfl⟩

/-- Elements do not begin with the closing bracket. -/
theorem not_reads_elements {elements : List Value} {text rest rest' : List UInt8}
    (h : Reads (.elements elements) text rest) (hclose : skip text = 0x5D :: rest') : False := by
  cases h with
  | lastElement hvalue _ =>
      rw [hclose] at hvalue
      exact not_reads_of_close (Or.inl rfl) hvalue
  | element hvalue _ _ =>
      rw [hclose] at hvalue
      exact not_reads_of_close (Or.inl rfl) hvalue

theorem not_reads_members {members : List (List UInt8 × Value)} {text rest rest' : List UInt8}
    (h : Reads (.members members) text rest) (hclose : skip text = 0x7D :: rest') : False := by
  cases h with
  | lastMember hname _ _ _ _ => cases hname.symm.trans hclose
  | member hname _ _ _ _ _ => cases hname.symm.trans hclose

/-- Two items of one kind at the same place are the same, and end at the same place. -/
theorem Reads.unique {item item' : Item} {text rest rest' : List UInt8} (h : Reads item text rest)
    (h' : Reads item' text rest') (hkind : SameKind item item') : item = item' ∧ rest = rest' := by
  induction h generalizing item' rest' with
  | nullText =>
      obtain ⟨v', rfl⟩ := hkind.value
      cases h' with
      | nullText => exact ⟨rfl, rfl⟩
      | number hnumber => cases isNumberByte_of_numberValue hnumber
  | trueText =>
      obtain ⟨v', rfl⟩ := hkind.value
      cases h' with
      | trueText => exact ⟨rfl, rfl⟩
      | number hnumber => cases isNumberByte_of_numberValue hnumber
  | falseText =>
      obtain ⟨v', rfl⟩ := hkind.value
      cases h' with
      | falseText => exact ⟨rfl, rfl⟩
      | number hnumber => cases isNumberByte_of_numberValue hnumber
  | number hnumber =>
      obtain ⟨v', rfl⟩ := hkind.value
      cases h' with
      | number hnumber' =>
          cases hnumber.symm.trans hnumber'
          exact ⟨rfl, rfl⟩
      | nullText => cases isNumberByte_of_numberValue hnumber
      | trueText => cases isNumberByte_of_numberValue hnumber
      | falseText => cases isNumberByte_of_numberValue hnumber
      | string _ => cases isNumberByte_of_numberValue hnumber
      | noElements _ => cases isNumberByte_of_numberValue hnumber
      | array _ => cases isNumberByte_of_numberValue hnumber
      | noMembers _ => cases isNumberByte_of_numberValue hnumber
      | object _ => cases isNumberByte_of_numberValue hnumber
  | string hstring =>
      obtain ⟨v', rfl⟩ := hkind.value
      cases h' with
      | string hstring' =>
          obtain ⟨rfl, rfl⟩ := hstring.unique hstring'
          exact ⟨rfl, rfl⟩
      | number hnumber => cases isNumberByte_of_numberValue hnumber
  | noElements hclose =>
      obtain ⟨v', rfl⟩ := hkind.value
      cases h' with
      | noElements hclose' =>
          cases hclose.symm.trans hclose'
          exact ⟨rfl, rfl⟩
      | array helements => exact (not_reads_elements helements hclose).elim
      | number hnumber => cases isNumberByte_of_numberValue hnumber
  | array helements ih =>
      obtain ⟨v', rfl⟩ := hkind.value
      cases h' with
      | array helements' =>
          obtain ⟨hitem, rfl⟩ := ih helements' trivial
          cases hitem
          exact ⟨rfl, rfl⟩
      | noElements hclose => exact (not_reads_elements helements hclose).elim
      | number hnumber => cases isNumberByte_of_numberValue hnumber
  | noMembers hclose =>
      obtain ⟨v', rfl⟩ := hkind.value
      cases h' with
      | noMembers hclose' =>
          cases hclose.symm.trans hclose'
          exact ⟨rfl, rfl⟩
      | object hmembers => exact (not_reads_members hmembers hclose).elim
      | number hnumber => cases isNumberByte_of_numberValue hnumber
  | object hmembers ih =>
      obtain ⟨v', rfl⟩ := hkind.value
      cases h' with
      | object hmembers' =>
          obtain ⟨hitem, rfl⟩ := ih hmembers' trivial
          cases hitem
          exact ⟨rfl, rfl⟩
      | noMembers hclose => exact (not_reads_members hmembers hclose).elim
      | number hnumber => cases isNumberByte_of_numberValue hnumber
  | lastElement _ hclose ih =>
      obtain ⟨elements', rfl⟩ := hkind.elements
      cases h' with
      | lastElement hvalue' hclose' =>
          obtain ⟨hitem, rfl⟩ := ih hvalue' trivial
          cases hitem
          cases hclose.symm.trans hclose'
          exact ⟨rfl, rfl⟩
      | element hvalue' hcomma' _ =>
          obtain ⟨-, rfl⟩ := ih hvalue' trivial
          cases hclose.symm.trans hcomma'
  | element _ hcomma _ ih ihs =>
      obtain ⟨elements', rfl⟩ := hkind.elements
      cases h' with
      | lastElement hvalue' hclose' =>
          obtain ⟨-, rfl⟩ := ih hvalue' trivial
          cases hcomma.symm.trans hclose'
      | element hvalue' hcomma' helements' =>
          obtain ⟨hitem, rfl⟩ := ih hvalue' trivial
          cases hitem
          cases hcomma.symm.trans hcomma'
          obtain ⟨hitem, rfl⟩ := ihs helements' trivial
          cases hitem
          exact ⟨rfl, rfl⟩
  | lastMember hname hstring hcolon _ hclose ih =>
      obtain ⟨members', rfl⟩ := hkind.members
      cases h' with
      | lastMember hname' hstring' hcolon' hvalue' hclose' =>
          cases hname.symm.trans hname'
          obtain ⟨rfl, rfl⟩ := hstring.unique hstring'
          cases hcolon.symm.trans hcolon'
          obtain ⟨hitem, rfl⟩ := ih hvalue' trivial
          cases hitem
          cases hclose.symm.trans hclose'
          exact ⟨rfl, rfl⟩
      | member hname' hstring' hcolon' hvalue' hcomma' _ =>
          cases hname.symm.trans hname'
          obtain ⟨rfl, rfl⟩ := hstring.unique hstring'
          cases hcolon.symm.trans hcolon'
          obtain ⟨-, rfl⟩ := ih hvalue' trivial
          cases hclose.symm.trans hcomma'
  | member hname hstring hcolon _ hcomma _ ih ihs =>
      obtain ⟨members', rfl⟩ := hkind.members
      cases h' with
      | lastMember hname' hstring' hcolon' hvalue' hclose' =>
          cases hname.symm.trans hname'
          obtain ⟨rfl, rfl⟩ := hstring.unique hstring'
          cases hcolon.symm.trans hcolon'
          obtain ⟨-, rfl⟩ := ih hvalue' trivial
          cases hcomma.symm.trans hclose'
      | member hname' hstring' hcolon' hvalue' hcomma' hmembers' =>
          cases hname.symm.trans hname'
          obtain ⟨rfl, rfl⟩ := hstring.unique hstring'
          cases hcolon.symm.trans hcolon'
          obtain ⟨hitem, rfl⟩ := ih hvalue' trivial
          cases hitem
          cases hcomma.symm.trans hcomma'
          obtain ⟨hitem, rfl⟩ := ihs hmembers' trivial
          cases hitem
          exact ⟨rfl, rfl⟩

/-- A text denotes one value at most. -/
theorem Denotes.unique {text : List UInt8} {v v' : Value} (h : Denotes text v)
    (h' : Denotes text v') : v = v' := by
  obtain ⟨rest, hreads, -⟩ := h
  obtain ⟨rest', hreads', -⟩ := h'
  obtain ⟨hitem, -⟩ := hreads.unique hreads' trivial
  cases hitem
  rfl

/-! ## Writing -/

section Writing

variable {v : Value} {name text rest : List UInt8}

theorem unsignedValue_digits (n : Nat) : unsignedValue (digits n) = some (n, 0) := by
  have hcanonical := canonical_digits n
  have hall := List.all_eq_true.1 (all_isDigit_digits n)
  have hwhole := @List.takeWhile_append_of_pos _ _ _ [] hall
  have hrest := @List.dropWhile_append_of_pos _ _ _ [] hall
  rw [List.append_nil, List.takeWhile_nil, List.append_nil] at hwhole
  rw [List.append_nil, List.dropWhile_nil] at hrest
  rw [unsignedValue]
  simp only [hwhole, hrest, List.head?_nil, reduceCtorEq, if_false, false_and, or_false,
    List.append_nil, value_digits]
  rw [if_neg]
  · rw [exponentValue, if_pos rfl, Option.map_some]
    simp
  · rintro (hnil | ⟨hmany, hzero⟩)
    · exact hcanonical.nonempty hnil
    · exact hcanonical.noLeadingZero hmany hzero

theorem numberValue_digits (n : Nat) : numberValue (digits n) = some ((n : Int), 0) := by
  have hhead : (digits n).head? ≠ some 0x2D := by
    intro hhead
    cases List.all_eq_true.1 (all_isDigit_digits n) _ (List.mem_of_head? hhead)
  rw [numberValue, if_neg hhead, unsignedValue_digits, Option.map_some]

theorem numberValue_neg_digits (n : Nat) :
    numberValue (0x2D :: digits n) = some (-(n : Int), 0) := by
  rw [numberValue, List.head?_cons, if_pos rfl, List.drop_one, List.tail_cons,
    unsignedValue_digits, Option.map_some]

/-- A number ends where something else begins. -/
theorem reads_number {token : List UInt8} {mantissa exponent : Int} {byte : UInt8}
    (htoken : ∀ b ∈ token, isNumberByte b = true) (hbyte : isNumberByte byte = false)
    (hvalue : numberValue token = some (mantissa, exponent)) :
    Reads (.value (.number mantissa exponent)) (token ++ byte :: rest) (byte :: rest) := by
  have htake : (token ++ byte :: rest).takeWhile isNumberByte = token := by
    rw [List.takeWhile_append_of_pos htoken, List.takeWhile_cons, hbyte, if_neg (by decide),
      List.append_nil]
  have hdrop : (token ++ byte :: rest).dropWhile isNumberByte = byte :: rest := by
    rw [List.dropWhile_append_of_pos htoken, List.dropWhile_cons, hbyte, if_neg (by decide)]
  rw [← htake] at hvalue
  have hreads := Reads.number hvalue
  rwa [hdrop] at hreads

/-- A string of bytes that stand for themselves. -/
theorem readsString_plain (hname : ∀ b ∈ name, 0x20 ≤ b ∧ b ≠ quote ∧ b ≠ backslash) :
    ReadsString name (name ++ quote :: rest) rest := by
  induction name with
  | nil => exact .close
  | cons byte name ih =>
      obtain ⟨hle, hquote, hbackslash⟩ := hname byte List.mem_cons_self
      exact .plain hle hquote hbackslash (ih fun b hb => hname b (List.mem_cons_of_mem _ hb))

/-- A value begins with its own first byte. -/
theorem Reads.skip_eq (h : Reads (.value v) text rest) : skip text = text := by
  cases h with
  | number hnumber =>
      cases text with
      | nil => rfl
      | cons byte text =>
          have hbyte := isNumberByte_of_numberValue hnumber
          have hspace : isSpace byte ≠ true := by
            intro hspace
            simp only [isSpace, Bool.or_eq_true, decide_eq_true_eq] at hspace
            rcases hspace with ((rfl | rfl) | rfl) | rfl
            · cases hbyte
            · cases hbyte
            · cases hbyte
            · cases hbyte
          rw [skip, List.dropWhile_cons, if_neg hspace]
  | _ => rfl

/-- The last member of an object, without white space. -/
theorem reads_lastMember (hname : ∀ b ∈ name, 0x20 ≤ b ∧ b ≠ quote ∧ b ≠ backslash)
    (hvalue : Reads (.value v) text (0x7D :: rest)) :
    Reads (.members [(name, v)]) (quote :: (name ++ quote :: colon :: text)) rest := by
  have hskip := hvalue.skip_eq
  rw [← hskip] at hvalue
  exact .lastMember rfl (readsString_plain hname) rfl hvalue rfl

/-- A member with others behind it, without white space. -/
theorem reads_member {members : List (List UInt8 × Value)} {behind : List UInt8}
    (hname : ∀ b ∈ name, 0x20 ≤ b ∧ b ≠ quote ∧ b ≠ backslash)
    (hvalue : Reads (.value v) text (comma :: behind))
    (hmembers : Reads (.members members) behind rest) :
    Reads (.members ((name, v) :: members)) (quote :: (name ++ quote :: colon :: text)) rest := by
  have hskip := hvalue.skip_eq
  rw [← hskip] at hvalue
  exact .member rfl (readsString_plain hname) rfl hvalue rfl hmembers

/-- The elements of an array that is not empty, without white space. -/
theorem reads_elements {α : Type} {write : α → List UInt8} {meaning : α → Value}
    (hwrite : ∀ a rest, Reads (.value (meaning a)) (write a ++ rest) rest) (a : α) (as : List α)
    (rest : List UInt8) :
    Reads (.elements (meaning a :: as.map meaning))
      (write a ++ (as.flatMap (fun a => comma :: write a) ++ 0x5D :: rest)) rest := by
  induction as generalizing a with
  | nil =>
      have hvalue := hwrite a (0x5D :: rest)
      rw [← hvalue.skip_eq] at hvalue
      exact .lastElement hvalue rfl
  | cons b bs ih =>
      have hvalue := hwrite a (comma :: (write b ++ (bs.flatMap (fun a => comma :: write a) ++
        0x5D :: rest)))
      rw [← hvalue.skip_eq] at hvalue
      rw [List.flatMap_cons, List.map_cons, List.cons_append, List.cons_append, List.append_assoc]
      exact .element hvalue rfl (ih b)

end Writing

end Json
