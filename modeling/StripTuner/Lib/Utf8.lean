import Mathlib.Data.List.Basic

/-!
# UTF-8

How a browser decodes bytes: what is no character is replaced, as far as it could have become one.
A text that is encoded is decoded to itself.
-/

namespace Utf8

/-- The bytes of a text. -/
def encode (text : String) : List UInt8 := text.toList.flatMap String.utf8EncodeChar

/-- The character that the bytes begin with. -/
def first (bytes : List UInt8) : Option Char := bytes.toByteArray.utf8DecodeChar? 0

def replacementChar : Char := Char.ofNat 0xFFFD

/-- How many bytes may follow a first byte. -/
def following (lead : UInt8) : Nat :=
  if 0xC2 ≤ lead ∧ lead ≤ 0xDF then 1
  else if 0xE0 ≤ lead ∧ lead ≤ 0xEF then 2
  else if 0xF0 ≤ lead ∧ lead ≤ 0xF4 then 3
  else 0

/-- The byte may be the second one: neither an overlong form nor a surrogate nor too large. -/
def isSecond (lead byte : UInt8) : Bool :=
  (if lead = 0xE0 then 0xA0 else if lead = 0xF0 then 0x90 else 0x80) ≤ byte &&
    byte ≤ if lead = 0xED then 0x9F else if lead = 0xF4 then 0x8F else 0xBF

def isContinuation (byte : UInt8) : Bool := 0x80 ≤ byte && byte ≤ 0xBF

/-- How many of the next bytes belong to the beginning of a character. -/
def begun (lead : UInt8) (rest : List UInt8) : Nat :=
  match rest.take (following lead) with
  | [] => 0
  | second :: others =>
    if isSecond lead second then 1 + (others.takeWhile isContinuation).length else 0

/-- The characters of the bytes after the first `skip`. -/
def decodeFrom (skip : Nat) : List UInt8 → List Char
  | [] => []
  | byte :: rest =>
    match skip, first (byte :: rest) with
    | skip + 1, _ => decodeFrom skip rest
    | 0, some c => c :: decodeFrom (c.utf8Size - 1) rest
    | 0, none => replacementChar :: decodeFrom (begun byte rest) rest

/-- The text that bytes are decoded to. -/
def decode (bytes : List UInt8) : String := String.ofList (decodeFrom 0 bytes)

theorem decodeFrom_drop (skip : Nat) (bytes : List UInt8) :
    decodeFrom skip bytes = decodeFrom 0 (bytes.drop skip) := by
  induction bytes generalizing skip with
  | nil => rw [List.drop_nil, decodeFrom, decodeFrom]
  | cons byte rest ih =>
      cases skip with
      | zero => rw [List.drop_zero]
      | succ skip => rw [decodeFrom, List.drop_succ_cons, ih]

theorem first_encodeChar (c : Char) (rest : List UInt8) :
    first (String.utf8EncodeChar c ++ rest) = some c := by
  rw [first, List.toByteArray_append, ByteArray.utf8DecodeChar?_utf8EncodeChar_append]

theorem decodeFrom_encodeChar (c : Char) (rest : List UInt8) :
    decodeFrom 0 (String.utf8EncodeChar c ++ rest) = c :: decodeFrom 0 rest := by
  have hfirst := first_encodeChar c rest
  have hlength : (String.utf8EncodeChar c).length = c.utf8Size := String.length_utf8EncodeChar c
  cases hbytes : String.utf8EncodeChar c with
  | nil => exact absurd hbytes String.utf8EncodeChar_ne_nil
  | cons byte tail =>
      rw [hbytes, List.length_cons] at hlength
      rw [hbytes, List.cons_append] at hfirst
      have hdecode : decodeFrom 0 (byte :: (tail ++ rest)) =
          c :: decodeFrom (c.utf8Size - 1) (tail ++ rest) := by
        simp only [decodeFrom, hfirst]
      have htail : c.utf8Size - 1 = tail.length := by omega
      rw [List.cons_append, hdecode, htail, decodeFrom_drop, List.drop_left]

/-- A text is decoded to itself. -/
theorem decode_encode (text : String) : decode (encode text) = text := by
  have hchars (chars : List Char) :
      decodeFrom 0 (chars.flatMap String.utf8EncodeChar) = chars := by
    induction chars with
    | nil => rfl
    | cons c chars ih => rw [List.flatMap_cons, decodeFrom_encodeChar, ih]
  rw [decode, encode, hchars, String.ofList_toList]

example : decode [0x63, 0x61, 0x66, 0xE9] = "caf\uFFFD" := by decide +kernel

example : decode [0xE2, 0x82, 0x41, 0xF0, 0x80, 0xC3, 0xA9] = "\uFFFDA\uFFFD\uFFFDé" := by
  decide +kernel

/-- The bytes are those of a text. -/
def Valid (bytes : List UInt8) : Prop := ∃ text, encode text = bytes

theorem valid_iff {bytes : List UInt8} : Valid bytes ↔ encode (decode bytes) = bytes := by
  constructor
  · rintro ⟨text, rfl⟩
    rw [decode_encode]
  · exact fun h => ⟨_, h⟩

instance (bytes : List UInt8) : Decidable (Valid bytes) := decidable_of_iff _ valid_iff.symm

end Utf8
