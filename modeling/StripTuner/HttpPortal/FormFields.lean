import StripTuner.HttpPortal.PortalForm
import StripTuner.Lib.Decimal
import StripTuner.Lib.UrlEncoded

/-!
# The fields of a form

`GetFormField()` is the inverse of the URL encoding: it decodes the first field of the name, and no
other, to the value that the field's text stands for.
-/

namespace StripTuner.HttpPortal

open CredentialStore Hexadecimal UrlEncoded

/-! ## Texts -/

theorem ascii_append (left right : String) : ascii (left ++ right) = ascii left ++ ascii right := by
  simp [ascii]

theorem ascii_repr (n : Nat) : ascii n.repr = Decimal.digits n := by
  rw [ascii, Nat.toList_repr, Decimal.digits]

/-- No digit is a separator. -/
theorem plain_digits (n : Nat) : Plain (Decimal.digits n) := by
  have hdigit : ∀ byte ∈ Decimal.digits n, Decimal.isDigit byte = true :=
    List.all_eq_true.1 (Decimal.all_isDigit_digits n)
  constructor
  · intro hmem
    exact absurd (hdigit _ hmem) (by decide)
  · intro hmem
    exact absurd (hdigit _ hmem) (by decide)

/-! ## Hexadecimal digits -/

theorem getHexValue_eq (digit : UInt8) :
    getHexValue digit = (hexValue digit).elim (-1) (fun n => (n : Int)) := by
  have hnat (bound : UInt8) : bound ≤ digit ↔ bound.toNat ≤ digit.toNat := UInt8.le_iff_toNat_le
  have h0 : (0x30 : UInt8).toNat = 48 := by decide
  have ha : (0x61 : UInt8).toNat = 97 := by decide
  have hA : (0x41 : UInt8).toNat = 65 := by decide
  simp only [getHexValue, hexValue, Bool.and_eq_true, decide_eq_true_eq]
  by_cases hdecimal : 0x30 ≤ digit ∧ digit ≤ 0x39
  · have hle := (hnat _).1 hdecimal.1
    rw [if_pos hdecimal, if_pos hdecimal, Option.elim_some]
    omega
  · rw [if_neg hdecimal, if_neg hdecimal]
    by_cases hlower : 0x61 ≤ digit ∧ digit ≤ 0x66
    · have hle := (hnat _).1 hlower.1
      rw [if_pos hlower, if_pos hlower, Option.elim_some]
      omega
    · rw [if_neg hlower, if_neg hlower]
      by_cases hupper : 0x41 ≤ digit ∧ digit ≤ 0x46
      · have hle := (hnat _).1 hupper.1
        rw [if_pos hupper, if_pos hupper, Option.elim_some]
        omega
      · rw [if_neg hupper, if_neg hupper, Option.elim_none]

theorem getHexValue_neg_iff {digit : UInt8} : getHexValue digit < 0 ↔ hexValue digit = none := by
  rw [getHexValue_eq]
  cases hexValue digit with
  | none => simp
  | some n => simp

theorem toNat_getHexValue {digit : UInt8} {n : Nat} (h : hexValue digit = some n) :
    (getHexValue digit).toNat = n := by
  rw [getHexValue_eq, h, Option.elim_some, Int.toNat_natCast]

/-- The two digits of an escape make its byte. -/
theorem escapedByte_eq {high low : UInt8} {h l : Nat} (hh : hexValue high = some h)
    (hl : hexValue low = some l) :
    ((getHexValue high).toNat <<< 4 ||| (getHexValue low).toNat).toUInt8 =
      UInt8.ofNat (16 * h + l) := by
  rw [toNat_getHexValue hh, toNat_getHexValue hl, Nat.or_comm,
    ByteLayout.or_shiftLeft_eq_add (hexValue_lt hl), Nat.add_comm]
  rfl

/-! ## One value -/

section Value

variable {size : Nat} {input output result : List UInt8}

/-- What the loop makes of the rest of the input. -/
def DecodesTo (size : Nat) (input output result : List UInt8) : Prop :=
  ∃ value, Encodes value input ∧ 0 ∉ value ∧ output.length + value.length < size ∧
    result = output ++ value

/-- One character is stored, and the loop goes on behind its text. -/
theorem storeCharacter_bind_iff {byte : UInt8} {rest : List UInt8}
    (hencodes : ∀ value, Encodes value input ↔ ∃ tail, value = byte :: tail ∧ Encodes tail rest)
    (ih : ∀ output, output.length < size →
      (decodeLoop size rest output = some result ↔ DecodesTo size rest output result)) :
    ((storeCharacter size output byte).bind fun output => decodeLoop size rest output) =
      some result ↔ DecodesTo size input output result := by
  have hlength : (output ++ [byte]).length = output.length + 1 := by simp
  rw [storeCharacter]
  by_cases hbad : byte = 0 ∨ output.length + 1 ≥ size
  · rw [if_pos hbad, Option.bind_none]
    constructor
    · intro h
      cases h
    · rintro ⟨value, hvalue, hzero, hfits, -⟩
      obtain ⟨tail, rfl, -⟩ := (hencodes value).1 hvalue
      rw [List.length_cons] at hfits
      rcases hbad with rfl | hfull
      · exact absurd List.mem_cons_self hzero
      · omega
  · rw [not_or] at hbad
    rw [if_neg (not_or.2 hbad), Option.bind_some, ih _ (by omega)]
    constructor
    · rintro ⟨tail, htail, hzero, hfits, rfl⟩
      refine ⟨byte :: tail, (hencodes _).2 ⟨tail, rfl, htail⟩, ?_, ?_, ?_⟩
      · simp [Ne.symm hbad.1, hzero]
      · rw [List.length_cons]
        omega
      · simp
    · rintro ⟨value, hvalue, hzero, hfits, rfl⟩
      obtain ⟨tail, rfl, htail⟩ := (hencodes value).1 hvalue
      rw [List.length_cons] at hfits
      refine ⟨tail, htail, ?_, by omega, by simp⟩
      intro hmem
      exact hzero (List.mem_cons_of_mem _ hmem)

/-- An escape is decoded if it has two digits. -/
theorem decodeLoop_percent_iff {rest : List UInt8}
    (ih : ∀ tail output, tail.length < rest.length → UrlEncoded.ampersand ∉ tail →
      output.length < size →
        (decodeLoop size tail output = some result ↔ DecodesTo size tail output result))
    (hrest : UrlEncoded.ampersand ∉ rest) :
    decodeLoop size (percent :: rest) output = some result ↔
      DecodesTo size (percent :: rest) output result := by
  have hshort (hlength : rest.length < 2) : ¬ DecodesTo size (percent :: rest) output result := by
    rintro ⟨value, hvalue, -⟩
    obtain ⟨high, low, -, -, tail, -, rfl, -⟩ := encodes_percent_iff.1 hvalue
    simp only [List.length_cons] at hlength
    omega
  rw [decodeLoop.eq_def]
  dsimp only
  rw [if_neg (by decide), if_pos rfl]
  rcases rest with _ | ⟨high, _ | ⟨low, rest⟩⟩
  · exact iff_of_false (by simp) (hshort (by simp))
  · exact iff_of_false (by simp) (hshort (by simp))
  · dsimp only
    simp only [List.mem_cons, not_or] at hrest
    by_cases hdigits : hexValue high = none ∨ hexValue low = none
    · rw [if_pos (hdigits.imp getHexValue_neg_iff.2 getHexValue_neg_iff.2)]
      refine iff_of_false (by simp) ?_
      rintro ⟨value, hvalue, -⟩
      obtain ⟨_, _, h, l, _, _, htext, hh, hl, -⟩ := encodes_percent_iff.1 hvalue
      cases htext
      cases hdigits with
      | inl hnone => exact absurd (hh.symm.trans hnone) (by simp)
      | inr hnone => exact absurd (hl.symm.trans hnone) (by simp)
    · rw [if_neg (mt (Or.imp getHexValue_neg_iff.1 getHexValue_neg_iff.1) hdigits)]
      rw [not_or, ← ne_eq, ← ne_eq, Option.ne_none_iff_exists', Option.ne_none_iff_exists']
        at hdigits
      obtain ⟨⟨h, hh⟩, l, hl⟩ := hdigits
      rw [escapedByte_eq hh hl]
      apply storeCharacter_bind_iff (fun _ => encodes_escape_iff hh hl)
      intro output hlt
      have hshorter : rest.length < (high :: low :: rest).length := by
        simp only [List.length_cons]
        omega
      exact ih rest output hshorter hrest.2.2 hlt

theorem decodeLoop_eq_some_iff (hlt : output.length < size)
    (hinput : UrlEncoded.ampersand ∉ input) :
    decodeLoop size input output = some result ↔ DecodesTo size input output result := by
  induction hn : input.length using Nat.strongRecOn generalizing input output with
  | ind n ih =>
      subst hn
      cases input with
      | nil =>
          rw [decodeLoop, if_neg (by omega), Option.some.injEq]
          constructor
          · rintro rfl
            exact ⟨[], .nil, by simp, hlt, by simp⟩
          · rintro ⟨value, hvalue, -, -, rfl⟩
            rw [encodes_nil_iff.1 hvalue, List.append_nil]
      | cons byte rest =>
          rw [List.mem_cons, not_or] at hinput
          have hrest (output : List UInt8) (hlt : output.length < size) :=
            ih rest.length (by simp) hlt hinput.2 rfl
          by_cases hpercent : byte = percent
          · subst hpercent
            apply decodeLoop_percent_iff _ hinput.2
            intro tail output htail hplain hlt
            exact ih tail.length (by simp; omega) hlt hplain rfl
          · rw [decodeLoop.eq_def]
            dsimp only
            by_cases hplus : byte = plus
            · subst hplus
              rw [if_pos rfl]
              exact storeCharacter_bind_iff (fun _ => encodes_plus_iff) hrest
            · rw [if_neg hplus, if_neg hpercent]
              exact storeCharacter_bind_iff
                (fun _ => encodes_literal_iff (Ne.symm hinput.1) hplus hpercent) hrest

theorem decodeLoop_zero (input : List UInt8) : decodeLoop 0 input [] = none := by
  have hstore (byte : UInt8) : storeCharacter 0 [] byte = none := if_pos (Or.inr (Nat.zero_le _))
  cases input with
  | nil => rfl
  | cons byte rest =>
      rw [decodeLoop.eq_def]
      dsimp only
      split
      · rw [hstore, Option.bind_none]
      · split
        · rcases rest with _ | ⟨high, _ | ⟨low, rest⟩⟩
          · rfl
          · rfl
          · dsimp only
            split
            · rfl
            · rw [hstore, Option.bind_none]
        · rw [hstore, Option.bind_none]

/-- A value is decoded exactly if the text stands for it, and it fits and holds no terminator. -/
theorem decodeFormValue_eq_some_iff {value : List UInt8} (hinput : UrlEncoded.ampersand ∉ input) :
    decodeFormValue input size = some value ↔
      Encodes value input ∧ 0 ∉ value ∧ value.length < size := by
  by_cases hsize : size = 0
  · subst hsize
    rw [decodeFormValue, decodeLoop_zero]
    exact iff_of_false (by simp) (by simp)
  · rw [decodeFormValue, decodeLoop_eq_some_iff (by simp; omega) hinput]
    constructor
    · rintro ⟨value', hvalue, hzero, hfits, rfl⟩
      rw [List.length_nil, Nat.zero_add] at hfits
      exact ⟨hvalue, hzero, hfits⟩
    · rintro ⟨hvalue, hzero, hfits⟩
      exact ⟨value, hvalue, hzero, by simpa using hfits, rfl⟩

end Value

/-! ## One field -/

section Field

variable {first tail : List UInt8}

/-- A field ends at an ampersand or at the end of the body. -/
theorem strcspn_ampersand (hplain : ampersand ∉ first)
    (htail : tail = [] ∨ ∃ rest, tail = ampersand :: rest) :
    strcspn (first ++ tail) [ampersand] = first.length := by
  have hall : ∀ byte ∈ first, decide (byte ∉ [ampersand]) = true := by
    intro byte hbyte
    rw [decide_eq_true_eq, List.mem_singleton]
    rintro rfl
    exact hplain hbyte
  rw [strcspn, List.takeWhile_append_of_pos hall]
  rcases htail with rfl | ⟨rest, rfl⟩
  · simp
  · simp

/-- A loop over the fields of a body as the source writes it: the value of the first field of the
name is decoded. -/
def ScansFields {α : Type} (name : List UInt8) (decode scan : List UInt8 → Option α) : Prop :=
  ∀ body, scan body =
    if body = [] then none
    else if strcspn body [ampersand] > name.length ∧ body.take name.length = name ∧
        body.getD name.length 0 = equalsSign then
      decode ((body.drop (name.length + 1)).take (strcspn body [ampersand] - name.length - 1))
    else if body.length ≤ strcspn body [ampersand] then none
    else scan (body.drop (strcspn body [ampersand] + 1))

section Scan

variable {α : Type} {name : List UInt8} {decode scan : List UInt8 → Option α}

/-- One round of the loop: the first field is decoded if it has the name. -/
theorem ScansFields.append (h : ScansFields name decode scan) (hplain : ampersand ∉ first)
    (htail : tail = [] ∨ ∃ rest, tail = ampersand :: rest) (hne : first ++ tail ≠ []) :
    scan (first ++ tail) =
      (fieldText name first).elim (if tail = [] then none else scan (tail.drop 1)) decode := by
  rw [h, if_neg hne, strcspn_ampersand hplain htail, fieldText_eq]
  by_cases hname : first.length > name.length ∧ first.take name.length = name ∧
      first.getD name.length 0 = equalsSign
  · have hle : name.length + 1 ≤ first.length := hname.1
    have hvalue : ((first ++ tail).drop (name.length + 1)).take (first.length - name.length - 1) =
        first.drop (name.length + 1) := by
      rw [List.drop_append_of_le_length hle, List.take_left']
      rw [List.length_drop]
      omega
    rw [if_pos hname, Option.elim_some, if_pos, hvalue]
    rw [List.take_append_of_le_length (by omega), List.getD_append _ _ _ _ hname.1]
    exact hname
  · rw [if_neg hname, Option.elim_none, if_neg]
    · rcases htail with rfl | ⟨rest, rfl⟩
      · rw [if_pos rfl, if_pos (by simp)]
      · have hdrop : (first ++ ampersand :: rest).drop (first.length + 1) = rest := by
          rw [List.append_cons, List.drop_left' (by simp)]
        rw [if_neg (by simp), if_neg (by simp), hdrop, List.drop_one, List.tail_cons]
    · rintro ⟨hlength, htake, hequals⟩
      rw [List.take_append_of_le_length (by omega)] at htake
      rw [List.getD_append _ _ _ _ hlength] at hequals
      exact hname ⟨hlength, htake, hequals⟩

/-- The loop looks for the first field of the name. -/
theorem ScansFields.eq (h : ScansFields name decode scan) (body : List UInt8) :
    scan body = (firstText name body).bind decode := by
  induction hn : body.length using Nat.strongRecOn generalizing body with
  | ind n ih =>
      subst hn
      by_cases hlast : ampersand ∈ body
      · obtain ⟨first, rest, rfl, hplain⟩ := List.eq_append_cons_of_mem hlast
        rw [h.append hplain (Or.inr ⟨rest, rfl⟩) (by simp), firstText_append hplain,
          if_neg (by simp), List.drop_one, List.tail_cons, ih rest.length (by simp; omega) rest rfl]
        cases fieldText name first with
        | none => rfl
        | some text => rfl
      · by_cases hempty : body = []
        · subst hempty
          rw [h, if_pos rfl, firstText_of_notMem hlast, fieldText_eq, if_neg (by simp),
            Option.bind_none]
        · have hstep := h.append hlast (Or.inl rfl) (by simpa using hempty)
          rw [List.append_nil] at hstep
          rw [hstep, firstText_of_notMem hlast, if_pos rfl]
          cases fieldText name body with
          | none => rfl
          | some text => rfl

end Scan

theorem findFormField_eq (name : List UInt8) (size : Nat) (body : List UInt8) :
    findFormField name size body = (firstText name body).bind (decodeFormValue · size) := by
  apply ScansFields.eq
  intro body
  rw [findFormField]
  rfl

/-- A value is read exactly from the first field of the name, if its text stands for a value
that fits. -/
theorem getFormField_eq_some_iff {body name value : List UInt8} {size : Nat}
    (hname : 0 < name.length ∧ name.length < formNameMax) :
    getFormField body name size = some value ↔ ∃ text, firstText name body = some text ∧
      Encodes value text ∧ 0 ∉ value ∧ value.length < size := by
  rw [getFormField, if_neg (by simp only [formNameMax] at hname ⊢; omega), findFormField_eq,
    Option.bind_eq_some_iff]
  constructor
  · rintro ⟨text, htext, hvalue⟩
    exact ⟨text, htext, (decodeFormValue_eq_some_iff (ampersand_notMem_of_firstText htext)).1 hvalue⟩
  · rintro ⟨text, htext, hvalue⟩
    exact ⟨text, htext, (decodeFormValue_eq_some_iff (ampersand_notMem_of_firstText htext)).2 hvalue⟩

/-- A name that is too long, or missing, is in no field. -/
theorem name_of_getFormField {body name value : List UInt8} {size : Nat}
    (h : getFormField body name size = some value) :
    0 < name.length ∧ name.length < formNameMax := by
  rw [getFormField] at h
  split at h
  · cases h
  · rename_i hname
    simp only [formNameMax] at hname ⊢
    omega

end Field

/-! ## A submission -/

/-- Fields of other names. -/
def Others (fields : List (List UInt8)) : Prop :=
  ∀ other ∈ fields, ampersand ∉ other ∧ fieldName other ≠ ascii "ssid" ∧
    fieldName other ≠ ascii "password"

/-- A body that encodes a name and a password in two fields, among others. -/
inductive EncodesPair (ssid password : List UInt8) : List (List UInt8) → List UInt8 → Prop where
  | ssidFirst {before between after : List (List UInt8)} {ssidText passwordText : List UInt8} :
      Encodes ssid ssidText → Encodes password passwordText →
      EncodesPair ssid password (before ++ (between ++ after))
        (form (before ++ field (ascii "ssid") ssidText ::
          (between ++ field (ascii "password") passwordText :: after)))
  | passwordFirst {before between after : List (List UInt8)} {ssidText passwordText : List UInt8} :
      Encodes ssid ssidText → Encodes password passwordText →
      EncodesPair ssid password (before ++ (between ++ after))
        (form (before ++ field (ascii "password") passwordText ::
          (between ++ field (ascii "ssid") ssidText :: after)))

section Submission

variable {ssid password body : List UInt8} {others : List (List UInt8)}

/-- A text in a zeroed buffer is read back, as far as it fits. -/
theorem cString_field {bytes : List UInt8} {n : Nat} (h : 0 ∉ bytes) :
    cString (ByteLayout.field bytes 0 n).toList = bytes.take n := by
  have hbuffer : (ByteLayout.field bytes 0 n).toList =
      bytes.take n ++ List.replicate (n - bytes.length) 0 := by
    apply List.ext_getElem
    · rw [Vector.length_toList, List.length_append, List.length_take, List.length_replicate]
      omega
    · intro i hi hi'
      rw [Vector.length_toList] at hi
      by_cases hlt : i < bytes.length
      · simp [ByteLayout.field, hi, hlt]
      · simp [ByteLayout.field, List.getElem_append, hlt]
  have hall : ∀ byte ∈ bytes.take n, decide (byte ≠ 0) = true := by
    intro byte hbyte
    rw [decide_eq_true_eq]
    rintro rfl
    exact h (List.mem_of_mem_take hbyte)
  rw [cString, hbuffer, List.takeWhile_append_of_pos hall, List.takeWhile_replicate]
  simp

theorem text_eq_cString {n : Nat} (buffer : Vector UInt8 n) : text buffer.toList n =
    cString buffer.toList := by
  rw [text, List.take_of_length_le (Nat.le_of_eq Vector.length_toList), cString]

/-- A password that is accepted fits its buffer. -/
theorem length_password_le (hpassword : 0 ∉ password)
    (hvalid : isCredentialsValid (credentialPair ssid password) = true) :
    password.length ≤ credentialPasswordMax := by
  have hchars : text (credentialPair ssid password).password.toList (credentialPasswordMax + 1) =
      password.take (credentialPasswordMax + 1) :=
    (text_eq_cString _).trans (cString_field hpassword)
  have haccepted : isPasswordValid (credentialPair ssid password).password.toList = true := by
    rw [isCredentialsValid] at hvalid
    split at hvalid
    · cases hvalid
    · exact hvalid
  have hrules := (isPasswordValid_iff _).1 haccepted
  rw [hchars] at hrules
  have hlength : (password.take (credentialPasswordMax + 1)).length ≤ 64 := by
    rcases hrules with hnil | ⟨-, hle, -⟩ | ⟨heq, -⟩
    · rw [hnil]
      decide
    · omega
    · omega
  rw [List.length_take] at hlength
  simp only [credentialPasswordMax] at hlength ⊢
  omega

theorem ampersand_notMem_field {name text : List UInt8} (hname : ampersand ∉ name)
    (htext : ampersand ∉ text) : ampersand ∉ field name text := by
  rw [field, List.mem_append, List.mem_cons, not_or, not_or]
  exact ⟨hname, by decide, htext⟩

/-- Two fields of a form are found, the second behind the first. -/
theorem firstText_pair {name name' text text' : List UInt8}
    {before between after : List (List UInt8)} (hname : ampersand ∉ name ∧ equalsSign ∉ name)
    (hname' : ampersand ∉ name' ∧ equalsSign ∉ name') (htext : ampersand ∉ text)
    (htext' : ampersand ∉ text') (hne : name ≠ name')
    (hothers : ∀ other ∈ before ++ (between ++ after), ampersand ∉ other ∧
      fieldName other ≠ name ∧ fieldName other ≠ name') :
    firstText name (form (before ++ field name text :: (between ++ field name' text' :: after))) =
        some text ∧
      firstText name' (form (before ++ field name text :: (between ++ field name' text' :: after))) =
        some text' := by
  have hfield := ampersand_notMem_field hname.1 htext
  have hfield' := ampersand_notMem_field hname'.1 htext'
  have hplain : ∀ entry ∈ before ++ field name text :: (between ++ field name' text' :: after),
      ampersand ∉ entry := by
    intro entry hentry
    simp only [List.mem_append, List.mem_cons] at hentry hothers
    rcases hentry with hbefore | rfl | hbetween | rfl | hafter
    · exact (hothers entry (Or.inl hbefore)).1
    · exact hfield
    · exact (hothers entry (Or.inr (Or.inl hbetween))).1
    · exact hfield'
    · exact (hothers entry (Or.inr (Or.inr hafter))).1
  constructor
  · apply firstText_form _ hplain
    intro entry hentry
    exact fieldText_of_fieldName_ne hname.2 (hothers entry (List.mem_append_left _ hentry)).2.1
  · have hshift : before ++ field name text :: (between ++ field name' text' :: after) =
        (before ++ field name text :: between) ++ field name' text' :: after := by
      simp
    rw [hshift] at hplain ⊢
    apply firstText_form _ hplain
    intro entry hentry
    rw [List.mem_append, List.mem_cons] at hentry
    rcases hentry with hbefore | rfl | hbetween
    · exact fieldText_of_fieldName_ne hname'.2 (hothers entry (List.mem_append_left _ hbefore)).2.2
    · apply fieldText_of_fieldName_ne hname'.2
      rw [fieldName_field hname.2]
      exact hne
    · have hmem : entry ∈ before ++ (between ++ after) := by simp [hbetween]
      exact fieldText_of_fieldName_ne hname'.2 (hothers entry hmem).2.2

/-- Both texts of a submission are found under their names. -/
theorem EncodesPair.firstText (h : EncodesPair ssid password others body) (hothers : Others others) :
    ∃ ssidText passwordText, Encodes ssid ssidText ∧ Encodes password passwordText ∧
      firstText (ascii "ssid") body = some ssidText ∧
      firstText (ascii "password") body = some passwordText := by
  cases h with
  | ssidFirst hs hp =>
      obtain ⟨hssid, hpassword⟩ := firstText_pair (by decide) (by decide) hs.ampersand_notMem
        hp.ampersand_notMem (by decide) hothers
      exact ⟨_, _, hs, hp, hssid, hpassword⟩
  | passwordFirst hs hp =>
      obtain ⟨hpassword, hssid⟩ := firstText_pair (by decide) (by decide) hp.ampersand_notMem
        hs.ampersand_notMem (by decide) fun other hother =>
          ⟨(hothers other hother).1, (hothers other hother).2.2, (hothers other hother).2.1⟩
      exact ⟨_, _, hs, hp, hssid, hpassword⟩

/-- Without other fields, a submission is as long as its two names and three bytes for each byte. -/
theorem EncodesPair.length_le (h : EncodesPair ssid password [] body) :
    body.length ≤ 15 + 3 * ssid.length + 3 * password.length := by
  have hssid : (ascii "ssid").length = 4 := by decide
  have hpassword : (ascii "password").length = 8 := by decide
  generalize hothers : ([] : List (List UInt8)) = others at h
  cases h with
  | ssidFirst hs hp =>
      have hsLength := hs.length_le
      have hpLength := hp.length_le
      obtain ⟨rfl, rfl, rfl⟩ := by simpa using hothers.symm
      simp [form, field, List.intercalate]
      omega
  | passwordFirst hs hp =>
      have hsLength := hs.length_le
      have hpLength := hp.length_le
      obtain ⟨rfl, rfl, rfl⟩ := by simpa using hothers.symm
      simp [form, field, List.intercalate]
      omega

end Submission

/-- Every encoding of a pair decodes to it, and fits the limit if it has no other field. A broken
first field is never accepted, and no value comes from a field of another name. -/
theorem getFormField_spec :
    (∀ ssid password others body, 1 ≤ ssid.length → ssid.length ≤ credentialSsidMax → 0 ∉ ssid →
      0 ∉ password → isCredentialsValid (credentialPair ssid password) = true → Others others →
      EncodesPair ssid password others body →
      getFormField body (ascii "ssid") (credentialSsidMax + 1) = some ssid ∧
        getFormField body (ascii "password") (credentialPasswordMax + 1) = some password ∧
          (others = [] → body.length ≤ httpPortalFormMax)) ∧
    (∀ body name size text, firstText name body = some text →
      (Malformed text ∨ ∃ value, Encodes value text ∧ (0 ∈ value ∨ size ≤ value.length)) →
      getFormField body name size = none) ∧
    ∀ body name size value, equalsSign ∉ name → getFormField body name size = some value →
      ∃ entry ∈ body.splitOn ampersand, fieldName entry = name ∧
        ∃ text, entry = field name text ∧ Encodes value text := by
  refine ⟨?_, ?_, ?_⟩
  · intro ssid password others body _ hssid hssidZero hpasswordZero hvalid hothers hbody
    have hpassword := length_password_le hpasswordZero hvalid
    obtain ⟨ssidText, passwordText, hs, hp, hssidText, hpasswordText⟩ := hbody.firstText hothers
    refine ⟨?_, ?_, ?_⟩
    · apply (getFormField_eq_some_iff (by decide)).2
      exact ⟨ssidText, hssidText, hs, hssidZero, Nat.lt_succ_of_le hssid⟩
    · apply (getFormField_eq_some_iff (by decide)).2
      exact ⟨passwordText, hpasswordText, hp, hpasswordZero, Nat.lt_succ_of_le hpassword⟩
    · rintro rfl
      have hlength := hbody.length_le
      simp only [credentialSsidMax, credentialPasswordMax, httpPortalFormMax] at *
      omega
  · intro body name size text htext hbad
    rw [Option.eq_none_iff_forall_ne_some]
    intro value hvalue
    obtain ⟨text', htext', hencodes, hzero, hfits⟩ :=
      (getFormField_eq_some_iff (name_of_getFormField hvalue)).1 hvalue
    cases htext.symm.trans htext'
    rcases hbad with hmalformed | ⟨value', hvalue', hbroken⟩
    · exact hmalformed.not_encodes hencodes
    · cases hencodes.unique hvalue'
      rcases hbroken with hmem | hlong
      · exact hzero hmem
      · omega
  · intro body name size value hname hvalue
    obtain ⟨text, htext, hencodes, -⟩ :=
      (getFormField_eq_some_iff (name_of_getFormField hvalue)).1 hvalue
    exact ⟨field name text, exists_field_of_firstText htext, fieldName_field hname, text, rfl,
      hencodes⟩

/-- The name of an open network, its space as a plus sign, behind an empty password. -/
theorem getFormField_spec_open :
    getFormField (ascii "lang=en&password=&ssid=A+%3d") (ascii "ssid") 33 = some (ascii "A =") ∧
      getFormField (ascii "lang=en&password=&ssid=A+%3d") (ascii "password") 65 = some [] := by
  have hssid : Encodes (ascii "A =") (ascii "A+%3d") := by
    have hescape := Encodes.escape (by decide : hexValue 0x33 = some 3)
      (by decide : hexValue 0x64 = some 13) .nil
    exact .literal (by decide) (by decide) (by decide) (.blank hescape)
  have hbody : EncodesPair (ascii "A =") [] [ascii "lang=en"]
      (ascii "lang=en&password=&ssid=A+%3d") :=
    @EncodesPair.passwordFirst _ _ [ascii "lang=en"] [] [] _ _ hssid .nil
  have hothers : Others [ascii "lang=en"] := by
    rw [Others]
    decide
  obtain ⟨hs, hp, -⟩ := getFormField_spec.1 (ascii "A =") [] [ascii "lang=en"] _ (by decide)
    (by decide) (by decide) (by decide) (by decide) hothers hbody
  exact ⟨hs, hp⟩

end StripTuner.HttpPortal
