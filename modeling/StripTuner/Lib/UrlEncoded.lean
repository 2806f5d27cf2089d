import Mathlib.Data.List.GetD
import StripTuner.Lib.Hex

/-!
# URL-encoded forms

`application/x-www-form-urlencoded` on bytes: the texts that stand for a value, the texts with a
broken escape, and the value of the first field of a name.
-/

namespace UrlEncoded

open Hexadecimal

abbrev ampersand : UInt8 := 0x26
abbrev equalsSign : UInt8 := 0x3D
abbrev plus : UInt8 := 0x2B
abbrev percent : UInt8 := 0x25
abbrev space : UInt8 := 0x20

/-! ## Values -/

/-- A text stands for a value: each byte as itself where that is allowed, as `+` for a space, or as
an escape. -/
inductive Encodes : List UInt8 → List UInt8 → Prop where
  | nil : Encodes [] []
  | literal {byte : UInt8} {value text : List UInt8} : byte ≠ ampersand → byte ≠ plus →
      byte ≠ percent → Encodes value text → Encodes (byte :: value) (byte :: text)
  | blank {value text : List UInt8} : Encodes value text → Encodes (space :: value) (plus :: text)
  | escape {high low : UInt8} {h l : Nat} {value text : List UInt8} : hexValue high = some h →
      hexValue low = some l → Encodes value text →
      Encodes (UInt8.ofNat (16 * h + l) :: value) (percent :: high :: low :: text)

/-- A percent sign without two digits behind it, after a part without one. -/
def Malformed (text : List UInt8) : Prop :=
  ∃ value before rest, Encodes value before ∧ text = before ++ percent :: rest ∧
    ∀ high low rest', rest = high :: low :: rest' → hexValue high = none ∨ hexValue low = none

section Values

variable {value text : List UInt8}

theorem Encodes.length_le (h : Encodes value text) : text.length ≤ 3 * value.length := by
  induction h with
  | nil => simp
  | literal _ _ _ _ ih =>
      simp only [List.length_cons]
      omega
  | blank _ ih =>
      simp only [List.length_cons]
      omega
  | escape _ _ _ ih =>
      simp only [List.length_cons]
      omega

theorem Encodes.ampersand_notMem (h : Encodes value text) : ampersand ∉ text := by
  have hdigit {digit : UInt8} {d : Nat} (hd : hexValue digit = some d) : ampersand ≠ digit := by
    have hnone : hexValue ampersand = none := by decide
    rintro rfl
    rw [hnone] at hd
    cases hd
  have hplus : ampersand ≠ plus := by decide
  have hpercent : ampersand ≠ percent := by decide
  induction h with
  | nil => simp
  | literal hne _ _ _ ih => simp [hne.symm, ih]
  | blank _ ih => simp [hplus, ih]
  | escape hh hl _ ih => simp [hpercent, hdigit hh, hdigit hl, ih]

theorem encodes_nil_iff : Encodes value [] ↔ value = [] := by
  constructor
  · intro h
    cases h
    rfl
  · rintro rfl
    exact .nil

theorem encodes_literal_iff {byte : UInt8} (hand : byte ≠ ampersand) (hplus : byte ≠ plus)
    (hpercent : byte ≠ percent) :
    Encodes value (byte :: text) ↔ ∃ tail, value = byte :: tail ∧ Encodes tail text := by
  constructor
  · intro h
    cases h with
    | literal _ _ _ h => exact ⟨_, rfl, h⟩
    | blank _ => exact absurd rfl hplus
    | escape _ _ _ => exact absurd rfl hpercent
  · rintro ⟨tail, rfl, h⟩
    exact .literal hand hplus hpercent h

theorem encodes_plus_iff :
    Encodes value (plus :: text) ↔ ∃ tail, value = space :: tail ∧ Encodes tail text := by
  constructor
  · intro h
    cases h with
    | literal _ hplus _ _ => exact absurd rfl hplus
    | blank h => exact ⟨_, rfl, h⟩
  · rintro ⟨tail, rfl, h⟩
    exact .blank h

theorem encodes_percent_iff :
    Encodes value (percent :: text) ↔ ∃ high low h l rest tail, text = high :: low :: rest ∧
      hexValue high = some h ∧ hexValue low = some l ∧
        value = UInt8.ofNat (16 * h + l) :: tail ∧ Encodes tail rest := by
  constructor
  · intro h
    cases h with
    | literal _ _ hpercent _ => exact absurd rfl hpercent
    | escape hh hl h => exact ⟨_, _, _, _, _, _, rfl, hh, hl, rfl, h⟩
  · rintro ⟨high, low, h, l, rest, tail, rfl, hh, hl, rfl, htail⟩
    exact .escape hh hl htail

theorem encodes_escape_iff {high low : UInt8} {h l : Nat} (hh : hexValue high = some h)
    (hl : hexValue low = some l) :
    Encodes value (percent :: high :: low :: text) ↔
      ∃ tail, value = UInt8.ofNat (16 * h + l) :: tail ∧ Encodes tail text := by
  rw [encodes_percent_iff]
  constructor
  · rintro ⟨high', low', h', l', rest, tail, htext, hh', hl', rfl, htail⟩
    cases htext
    cases hh.symm.trans hh'
    cases hl.symm.trans hl'
    exact ⟨tail, rfl, htail⟩
  · rintro ⟨tail, rfl, htail⟩
    exact ⟨high, low, h, l, text, tail, rfl, hh, hl, rfl, htail⟩

/-- A text stands for one value at most. -/
theorem Encodes.unique {value' : List UInt8} (h : Encodes value text) (h' : Encodes value' text) :
    value = value' := by
  induction h generalizing value' with
  | nil => exact (encodes_nil_iff.1 h').symm
  | literal hand hplus hpercent _ ih =>
      obtain ⟨tail, rfl, htail⟩ := (encodes_literal_iff hand hplus hpercent).1 h'
      rw [ih htail]
  | blank _ ih =>
      obtain ⟨tail, rfl, htail⟩ := encodes_plus_iff.1 h'
      rw [ih htail]
  | escape hh hl _ ih =>
      obtain ⟨tail, rfl, htail⟩ := (encodes_escape_iff hh hl).1 h'
      rw [ih htail]

/-- What comes behind the text of a first part is the text of the rest. -/
theorem Encodes.of_append {head before rest : List UInt8} (hbefore : Encodes head before)
    (h : Encodes value (before ++ rest)) : ∃ tail, value = head ++ tail ∧ Encodes tail rest := by
  induction hbefore generalizing value with
  | nil => exact ⟨value, rfl, h⟩
  | literal hand hplus hpercent _ ih =>
      obtain ⟨value', rfl, h'⟩ := (encodes_literal_iff hand hplus hpercent).1 h
      obtain ⟨tail, rfl, htail⟩ := ih h'
      exact ⟨tail, rfl, htail⟩
  | blank _ ih =>
      obtain ⟨value', rfl, h'⟩ := encodes_plus_iff.1 h
      obtain ⟨tail, rfl, htail⟩ := ih h'
      exact ⟨tail, rfl, htail⟩
  | escape hh hl _ ih =>
      obtain ⟨value', rfl, h'⟩ := (encodes_escape_iff hh hl).1 h
      obtain ⟨tail, rfl, htail⟩ := ih h'
      exact ⟨tail, rfl, htail⟩

theorem Malformed.not_encodes (hmalformed : Malformed text) : ¬ Encodes value text := by
  obtain ⟨head, before, rest, hbefore, rfl, hbroken⟩ := hmalformed
  intro h
  obtain ⟨tail, -, htail⟩ := hbefore.of_append h
  obtain ⟨high, low, n, m, rest', tail', hrest, hh, hl, -⟩ := encodes_percent_iff.1 htail
  cases hbroken high low rest' hrest with
  | inl hnone =>
      rw [hh] at hnone
      cases hnone
  | inr hnone =>
      rw [hl] at hnone
      cases hnone

end Values

/-! ## Fields -/

/-- A field with a name and the text of its value. -/
def field (name text : List UInt8) : List UInt8 := name ++ equalsSign :: text

/-- The name of a field: what stands before its first `=`. -/
def fieldName (field : List UInt8) : List UInt8 := field.takeWhile (· ≠ equalsSign)

/-- The text of a field's value, if it has the name. -/
def fieldText (name field : List UInt8) : Option (List UInt8) :=
  if name ++ [equalsSign] <+: field then some (field.drop (name.length + 1)) else none

/-- The form that consists of these fields. -/
def form (fields : List (List UInt8)) : List UInt8 := [ampersand].intercalate fields

/-- The text of the first field of a name. -/
def firstText (name form : List UInt8) : Option (List UInt8) :=
  (form.splitOn ampersand).findSome? (fieldText name)

/-- The first field that has the name, with a value or without one. -/
def firstNamed (name form : List UInt8) : Option (List UInt8) :=
  (form.splitOn ampersand).find? (fieldName · = name)

/-- A form split at `&`, and each field at `=`. -/
def splitForm (form : List UInt8) : List (List (List UInt8)) :=
  (form.splitOn ampersand).map (·.splitOn equalsSign)

/-- A text without separators. -/
def Plain (text : List UInt8) : Prop := ampersand ∉ text ∧ equalsSign ∉ text

instance (text : List UInt8) : Decidable (Plain text) := inferInstanceAs (Decidable (_ ∧ _))

section Fields

variable {name text first rest : List UInt8}

/-- No field holds a separator. -/
theorem ampersand_notMem_of_mem_splitOn {form entry : List UInt8}
    (h : entry ∈ form.splitOn ampersand) : ampersand ∉ entry := by
  induction form generalizing entry with
  | nil =>
      rw [List.splitOn_nil, List.mem_singleton] at h
      simp [h]
  | cons byte form ih =>
      rw [List.splitOn_cons_eq_if_modifyHead] at h
      split at h
      · cases List.mem_cons.1 h with
        | inl hnil => simp [hnil]
        | inr hmem => exact ih hmem
      · rename_i hbyte
        obtain ⟨head, tail, hsplit⟩ :=
          List.exists_cons_of_ne_nil (List.splitOn_ne_nil ampersand form)
        rw [hsplit] at h ih
        cases List.mem_cons.1 h with
        | inl hhead =>
            have hne : ampersand ≠ byte := fun heq => hbyte (by rw [heq]; exact beq_self_eq_true _)
            rw [hhead, List.mem_cons, not_or]
            exact ⟨hne, ih List.mem_cons_self⟩
        | inr hmem => exact ih (List.mem_cons_of_mem _ hmem)

theorem fieldText_eq_some_iff {entry : List UInt8} :
    fieldText name entry = some text ↔ entry = field name text := by
  have hlength : (name ++ [equalsSign]).length = name.length + 1 := by simp
  rw [fieldText, field]
  constructor
  · intro h
    split at h
    · rename_i hstart
      rw [← Option.some.inj h, ← hlength, List.append_cons]
      exact (List.prefix_iff_eq_append.1 hstart).symm
    · cases h
  · rintro rfl
    have hsplit : name ++ equalsSign :: text = name ++ [equalsSign] ++ text := List.append_cons ..
    rw [hsplit, if_pos (List.prefix_append _ _), ← hlength, List.drop_left]

/-- The comparison of the name, byte for byte. -/
theorem fieldText_eq (name entry : List UInt8) :
    fieldText name entry =
      if entry.length > name.length ∧ entry.take name.length = name ∧
          entry.getD name.length 0 = equalsSign then some (entry.drop (name.length + 1))
      else none := by
  have hiff : name ++ [equalsSign] <+: entry ↔ entry.length > name.length ∧
      entry.take name.length = name ∧ entry.getD name.length 0 = equalsSign := by
    constructor
    · rintro ⟨text, rfl⟩
      rw [List.append_assoc, List.take_left, List.getD_append_right _ _ _ _ (Nat.le_refl _)]
      simp
    · rintro ⟨hlength, hname, hequals⟩
      refine ⟨entry.drop (name.length + 1), ?_⟩
      rw [List.getD_eq_getElem _ _ hlength] at hequals
      rw [← hequals, List.append_assoc, List.singleton_append, ← List.drop_eq_getElem_cons hlength]
      have hsplit := List.take_append_drop name.length entry
      rwa [hname] at hsplit
  rw [fieldText]
  by_cases hstart : name ++ [equalsSign] <+: entry
  · rw [if_pos hstart, if_pos (hiff.1 hstart)]
  · rw [if_neg hstart, if_neg (mt hiff.2 hstart)]

theorem fieldName_field (hname : equalsSign ∉ name) : fieldName (field name text) = name := by
  rw [fieldName, field, List.takeWhile_append_of_pos]
  · simp
  · intro byte hbyte
    simp only [ne_eq, decide_not, Bool.not_eq_true', decide_eq_false_iff_not]
    rintro rfl
    exact hname hbyte

/-- A field of another name gives no text. -/
theorem fieldText_of_fieldName_ne {entry : List UInt8} (hname : equalsSign ∉ name)
    (h : fieldName entry ≠ name) : fieldText name entry = none := by
  rw [Option.eq_none_iff_forall_ne_some]
  intro text htext
  rw [fieldText_eq_some_iff] at htext
  rw [htext, fieldName_field hname] at h
  exact h rfl

theorem firstText_of_notMem (h : ampersand ∉ first) : firstText name first = fieldText name first := by
  rw [firstText, List.splitOn_eq_singleton h, List.findSome?_singleton]

/-- The first field comes before the rest of the form. -/
theorem firstText_append (h : ampersand ∉ first) :
    firstText name (first ++ ampersand :: rest) =
      (fieldText name first).or (firstText name rest) := by
  rw [firstText, List.splitOn_append_cons_self_of_not_mem h, List.findSome?_cons]
  cases fieldText name first <;> rfl

/-- The first field of a name in a form, behind fields of other names. -/
theorem firstText_form {before after : List (List UInt8)}
    (hbefore : ∀ entry ∈ before, fieldText name entry = none)
    (hplain : ∀ entry ∈ before ++ field name text :: after, ampersand ∉ entry) :
    firstText name (form (before ++ field name text :: after)) = some text := by
  rw [firstText, form, List.splitOn_intercalate _ hplain (by simp), List.findSome?_append,
    List.findSome?_eq_none_iff.2 hbefore, Option.none_or, List.findSome?_cons,
    fieldText_eq_some_iff.2 rfl]

theorem firstNamed_of_notMem (h : ampersand ∉ first) :
    firstNamed name first = if fieldName first = name then some first else none := by
  rw [firstNamed, List.splitOn_eq_singleton h, List.find?_singleton]
  simp

theorem firstNamed_append (h : ampersand ∉ first) :
    firstNamed name (first ++ ampersand :: rest) =
      if fieldName first = name then some first else firstNamed name rest := by
  rw [firstNamed, List.splitOn_append_cons_self_of_not_mem h, List.find?_cons]
  by_cases hname : fieldName first = name
  · simp [hname]
  · simp [hname, firstNamed]

/-- The field behind others of other names. -/
theorem firstNamed_form {entry : List UInt8} {before after : List (List UInt8)}
    (hentry : fieldName entry = name) (hbefore : ∀ other ∈ before, fieldName other ≠ name)
    (hplain : ∀ other ∈ before ++ entry :: after, ampersand ∉ other) :
    firstNamed name (form (before ++ entry :: after)) = some entry := by
  have hnone : before.find? (fieldName · = name) = none := by simpa using hbefore
  rw [firstNamed, form, List.splitOn_intercalate _ hplain (by simp), List.find?_append, hnone,
    Option.none_or, List.find?_cons_of_pos (by simpa using hentry)]

theorem form_cons_cons (first second : List UInt8) (rest : List (List UInt8)) :
    form (first :: second :: rest) = first ++ ampersand :: form (second :: rest) := by
  simp [form, List.intercalate]

@[simp] theorem form_singleton (first : List UInt8) : form [first] = first := by
  simp [form, List.intercalate]

/-- What a form consists of besides ampersands stands in its fields. -/
theorem notMem_form {byte : UInt8} {fields : List (List UInt8)} (hbyte : byte ≠ ampersand)
    (h : ∀ entry ∈ fields, byte ∉ entry) : byte ∉ form fields := by
  induction fields with
  | nil => simp [form, List.intercalate]
  | cons first fields ih =>
      rw [List.forall_mem_cons] at h
      cases fields with
      | nil => simpa using h.1
      | cons second rest =>
          rw [form_cons_cons, List.mem_append, List.mem_cons, not_or, not_or]
          exact ⟨h.1, hbyte, ih h.2⟩

/-- A form of plain names and values is split into them. -/
theorem splitForm_form {pairs : List (List UInt8 × List UInt8)} (hne : pairs ≠ [])
    (hplain : ∀ pair ∈ pairs, Plain pair.1 ∧ Plain pair.2) :
    splitForm (form (pairs.map fun pair => field pair.1 pair.2)) =
      pairs.map fun pair => [pair.1, pair.2] := by
  have hfield : ∀ entry ∈ pairs.map fun pair => field pair.1 pair.2, ampersand ∉ entry := by
    intro entry hentry
    obtain ⟨pair, hpair, rfl⟩ := List.mem_map.1 hentry
    obtain ⟨hname, htext⟩ := hplain pair hpair
    rw [field, List.mem_append, List.mem_cons, not_or, not_or]
    exact ⟨hname.1, by decide, htext.1⟩
  rw [splitForm, form, List.splitOn_intercalate _ hfield (by simpa using hne), List.map_map]
  apply List.map_congr_left
  intro pair hpair
  obtain ⟨hname, htext⟩ := hplain pair hpair
  rw [Function.comp_apply, field, List.splitOn_append_cons_self_of_not_mem hname.2,
    List.splitOn_eq_singleton htext.2]

/-- A field has the name and no value, or the name and a value. -/
theorem eq_name_or_eq_field {entry : List UInt8} (h : fieldName entry = name) :
    entry = name ∨ ∃ text, entry = field name text := by
  have hsplit := List.takeWhile_append_dropWhile (p := (· ≠ equalsSign)) (l := entry)
  rw [← fieldName, h] at hsplit
  cases hrest : entry.dropWhile (· ≠ equalsSign) with
  | nil =>
      rw [hrest, List.append_nil] at hsplit
      exact Or.inl hsplit.symm
  | cons byte text =>
      have hbyte : byte = equalsSign := by
        have hne : entry.dropWhile (· ≠ equalsSign) ≠ [] := by
          rw [hrest]
          exact List.cons_ne_nil _ _
        have hhead := List.head_dropWhile_not (· ≠ equalsSign) hne
        simpa only [hrest, List.head_cons, decide_eq_false_iff_not, not_not] using hhead
      rw [hrest, hbyte] at hsplit
      exact Or.inr ⟨text, hsplit.symm⟩

/-- A value is taken from a field of the form. -/
theorem exists_field_of_firstText {form : List UInt8} (h : firstText name form = some text) :
    field name text ∈ form.splitOn ampersand := by
  obtain ⟨entry, hentry, htext⟩ := List.exists_of_findSome?_eq_some h
  rw [fieldText_eq_some_iff] at htext
  rwa [← htext]

/-- The text of a value ends where its field does. -/
theorem ampersand_notMem_of_firstText {form : List UInt8} (h : firstText name form = some text) :
    ampersand ∉ text := by
  have hplain := ampersand_notMem_of_mem_splitOn (exists_field_of_firstText h)
  rw [field, List.mem_append, List.mem_cons, not_or, not_or] at hplain
  exact hplain.2.2

end Fields

end UrlEncoded
