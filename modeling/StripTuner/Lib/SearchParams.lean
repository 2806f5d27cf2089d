import StripTuner.Lib.UrlEncoded

/-!
# Search parameters

How a browser reads a URL-encoded form: an escape that is broken stands for itself, and the first
pair of a name counts. Names and values without special bytes are read as they were written. How it
writes one: every byte but a few is escaped.
-/

namespace SearchParams

open Hexadecimal UrlEncoded

/-- The byte that the two digits at the start stand for. -/
def escapedByte : List UInt8 → Option UInt8
  | high :: low :: _ => do
    let h ← hexValue high
    let l ← hexValue low
    return UInt8.ofNat (16 * h + l)
  | _ => none

/-- The bytes that a text stands for. -/
def decode : List UInt8 → List UInt8
  | [] => []
  | byte :: rest =>
    if byte = plus then space :: decode rest
    else
      match if byte = percent then escapedByte rest else none with
      | some value => value :: decode (rest.drop 2)
      | none => byte :: decode rest
termination_by text => text.length
decreasing_by all_goals simp; try omega

/-- The name and the value of an entry. -/
def readPair (entry : List UInt8) : List UInt8 × List UInt8 :=
  (decode (fieldName entry), decode ((entry.dropWhile (· ≠ equalsSign)).drop 1))

/-- The pairs of a form. -/
def pairs (text : List UInt8) : List (List UInt8 × List UInt8) :=
  ((text.splitOn ampersand).filter (· ≠ [])).map readPair

/-- `URLSearchParams.get()`. -/
def get (text name : List UInt8) : Option (List UInt8) := (pairs text).lookup name

/-! ## Texts without special bytes -/

/-- A text that stands for itself. -/
def Literal (text : List UInt8) : Prop := Plain text ∧ plus ∉ text ∧ percent ∉ text

instance (text : List UInt8) : Decidable (Literal text) := inferInstanceAs (Decidable (_ ∧ _))

section Literal

variable {name text : List UInt8}

theorem decode_literal (hplus : plus ∉ text) (hpercent : percent ∉ text) : decode text = text := by
  induction text with
  | nil => rw [decode]
  | cons byte rest ih =>
      rw [List.mem_cons, not_or] at hplus hpercent
      rw [decode, if_neg (Ne.symm hplus.1), if_neg (Ne.symm hpercent.1)]
      exact congrArg (byte :: ·) (ih hplus.2 hpercent.2)

theorem readPair_field (hname : Literal name) (htext : Literal text) :
    readPair (field name text) = (name, text) := by
  have hdrop : (field name text).dropWhile (· ≠ equalsSign) = equalsSign :: text := by
    have hkeep : ∀ byte ∈ name, decide (byte ≠ equalsSign) = true := fun byte hbyte =>
      decide_eq_true (ne_of_mem_of_not_mem hbyte hname.1.2)
    rw [field, List.dropWhile_append_of_pos hkeep, List.dropWhile_cons_of_neg (by simp)]
  rw [readPair, hdrop, fieldName_field hname.1.2, List.drop_one, List.tail_cons,
    decode_literal hname.2.1 hname.2.2, decode_literal htext.2.1 htext.2.2]

/-- The pairs that a form was made of. -/
theorem pairs_form {fields : List (List UInt8 × List UInt8)} (hne : fields ≠ [])
    (h : ∀ pair ∈ fields, Literal pair.1 ∧ Literal pair.2) :
    pairs (form (fields.map fun pair => field pair.1 pair.2)) = fields := by
  have hfield : ∀ entry ∈ fields.map fun pair => field pair.1 pair.2, ampersand ∉ entry := by
    intro entry hentry
    obtain ⟨pair, hpair, rfl⟩ := List.mem_map.1 hentry
    obtain ⟨hname, htext⟩ := h pair hpair
    rw [field, List.mem_append, List.mem_cons, not_or, not_or]
    exact ⟨hname.1.1, by decide, htext.1.1⟩
  have hentries : ∀ entry ∈ fields.map fun pair => field pair.1 pair.2,
      decide (entry ≠ []) = true := by
    intro entry hentry
    obtain ⟨pair, -, rfl⟩ := List.mem_map.1 hentry
    simp [field]
  rw [pairs, form, List.splitOn_intercalate _ hfield (by simpa using hne),
    List.filter_eq_self.2 hentries, List.map_map]
  refine (List.map_congr_left fun pair hpair => ?_).trans (List.map_id' fields)
  exact readPair_field (h pair hpair).1 (h pair hpair).2

end Literal

/-! ## Writing -/

/-- The bytes that are not escaped: letters, digits and `*-._`. -/
def isUnescaped (byte : UInt8) : Bool :=
  byte = 0x2A || byte = 0x2D || byte = 0x2E || byte = 0x5F || (0x30 ≤ byte && byte ≤ 0x39) ||
    (0x41 ≤ byte && byte ≤ 0x5A) || (0x61 ≤ byte && byte ≤ 0x7A)

def upperDigit (n : Nat) : UInt8 := if n < 10 then UInt8.ofNat (0x30 + n) else UInt8.ofNat (0x37 + n)

/-- The text of one byte. -/
def encodeByte (byte : UInt8) : List UInt8 :=
  if byte = space then [plus]
  else if isUnescaped byte then [byte]
  else [percent, upperDigit (byte.toNat / 16), upperDigit (byte.toNat % 16)]

def encode (value : List UInt8) : List UInt8 := value.flatMap encodeByte

theorem hexValue_upperDigit : ∀ n < 16, hexValue (upperDigit n) = some n := by decide

theorem isUnescaped_ne {byte : UInt8} (h : isUnescaped byte = true) :
    byte ≠ ampersand ∧ byte ≠ plus ∧ byte ≠ percent := by
  refine ⟨?_, ?_, ?_⟩ <;> rintro rfl <;> exact absurd h (by decide)

/-- What is written stands for the value. -/
theorem encodes_encode (value : List UInt8) : Encodes value (encode value) := by
  induction value with
  | nil => exact .nil
  | cons byte value ih =>
      rw [encode, List.flatMap_cons, encodeByte]
      by_cases hspace : byte = space
      · rw [if_pos hspace, hspace]
        exact .blank ih
      · rw [if_neg hspace]
        by_cases hliteral : isUnescaped byte = true
        · obtain ⟨hand, hplus, hpercent⟩ := isUnescaped_ne hliteral
          rw [if_pos hliteral]
          exact .literal hand hplus hpercent ih
        · have hlt := byte.toNat_lt
          have hbyte : UInt8.ofNat (16 * (byte.toNat / 16) + byte.toNat % 16) = byte := by
            rw [Nat.div_add_mod, UInt8.ofNat_toNat]
          have hescape := Encodes.escape (hexValue_upperDigit (byte.toNat / 16) (by omega))
            (hexValue_upperDigit (byte.toNat % 16) (by omega)) ih
          rw [hbyte] at hescape
          rw [if_neg hliteral]
          exact hescape

theorem zero_notMem_encode (value : List UInt8) : 0 ∉ encode value := by
  intro hmem
  obtain ⟨byte, -, hbyte⟩ := List.mem_flatMap.1 hmem
  have hdigit : ∀ n < 16, upperDigit n ≠ 0 := by decide
  have hlt := byte.toNat_lt
  rw [encodeByte] at hbyte
  split at hbyte
  · exact absurd (List.mem_singleton.1 hbyte) (by decide)
  · split at hbyte
    · rename_i hliteral
      rw [← List.mem_singleton.1 hbyte] at hliteral
      exact absurd hliteral (by decide)
    · simp only [List.mem_cons, List.not_mem_nil, or_false] at hbyte
      rcases hbyte with hpercent | hhigh | hlow
      · exact absurd hpercent (by decide)
      · exact hdigit _ (by omega) hhigh.symm
      · exact hdigit _ (by omega) hlow.symm

end SearchParams
