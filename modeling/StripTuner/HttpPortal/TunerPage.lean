import StripTuner.HttpPortal.Portal
import StripTuner.HttpPortal.TunerForm
import StripTuner.Lib.Decimal

/-!
# The tuner page

The script of `tuner_page.c` from the Send button to the posted body. An input holds an integer in
canonical decimal text; its `min`, `max` and `step` apply to that integer, and the script computes
with the doubles that the texts convert to.
-/

namespace StripTuner.HttpPortal

open Ws2812

/-! ## Numbers of the script -/

/-- A `Number` that is an integer, infinite or not a number. -/
inductive Number where
  | finite (x : Int)
  | infinite (negative : Bool)
  | nan
deriving DecidableEq

namespace Number

/-- The double nearest to an integer, of two the one with the even significand. -/
def round (x : Int) : Number :=
  let unit := 2 ^ (x.natAbs.log2 - 52)
  let quotient := x.natAbs / unit
  let rest := x.natAbs % unit
  let significand :=
    if 2 * rest > unit ∨ (2 * rest = unit ∧ quotient % 2 = 1) then quotient + 1 else quotient
  if 1024 ≤ (significand * unit).log2 then .infinite (x < 0)
  else .finite (x.sign * (significand * unit : Nat))

def sub : Number → Number → Number
  | .finite x, .finite y => round (x - y)
  | .finite _, .infinite negative => .infinite (!negative)
  | .infinite negative, .finite _ => .infinite negative
  | .infinite negative, .infinite negative' =>
    if negative = negative' then .nan else .infinite negative
  | _, _ => .nan

def mul : Number → Number → Number
  | .finite x, .finite y => round (x * y)
  | .finite x, .infinite negative | .infinite negative, .finite x =>
    if x = 0 then .nan else .infinite (negative ^^ (x < 0))
  | .infinite negative, .infinite negative' => .infinite (negative ^^ negative')
  | _, _ => .nan

/-- `<`, which is false for `NaN`. -/
def lt : Number → Number → Bool
  | .finite x, .finite y => x < y
  | .finite _, .infinite negative => !negative
  | .infinite negative, .finite _ => negative
  | .infinite negative, .infinite negative' => negative && !negative'
  | _, _ => false

/-- `>=`, which is false for `NaN`. -/
def ge (x y : Number) : Bool := x ≠ .nan && y ≠ .nan && !lt x y

end Number

/-! ## The page -/

/-- An input with its attributes, the integer it holds, and whether a custom validity is set. -/
structure NumberInput where
  min : Int
  max : Int
  step : Int
  value : Int
  customError : Bool

namespace NumberInput

/-- `value` of the element. -/
def text (input : NumberInput) : String := input.value.repr

/-- `+input.value`. -/
def number (input : NumberInput) : Number := .round input.value

/-- `checkValidity()`; the steps count from `min`. -/
def checkValidity (input : NumberInput) : Bool :=
  !input.customError && input.min ≤ input.value && input.value ≤ input.max &&
    (input.value - input.min) % input.step = 0

/-- `setCustomValidity()` with `'x'` or the empty text. -/
def setCustomValidity (input : NumberInput) (bad : Bool) : NumberInput :=
  { input with customError := bad }

@[simp] theorem number_setCustomValidity (input : NumberInput) (bad : Bool) :
    (input.setCustomValidity bad).number = input.number := rfl

@[simp] theorem text_setCustomValidity (input : NumberInput) (bad : Bool) :
    (input.setCustomValidity bad).text = input.text := rfl

end NumberInput

/-- The five inputs of the form. -/
structure TunerPage where
  b0h : NumberInput
  b0p : NumberInput
  b1h : NumberInput
  b1p : NumberInput
  rst : NumberInput

/-- The inputs of `TUNER_PAGE_BODY` with the integers they hold. -/
def tunerPage (b0h b0p b1h b1p rst : Int) : TunerPage where
  b0h := ⟨100, 1200, 25, b0h, false⟩
  b0p := ⟨800, 2000, 25, b0p, false⟩
  b1h := ⟨100, 1200, 25, b1h, false⟩
  b1p := ⟨800, 2000, 25, b1p, false⟩
  rst := ⟨50, 800, 10, rst, false⟩

/-- The test of `ok()`: the low time is too short. -/
def isLowTooShort (h p : NumberInput) : Bool := (p.number.sub h.number).lt (.finite 100)

/-- `valid()`: the page with its custom validities set, and whether every input is valid. -/
def valid (page : TunerPage) : TunerPage × Bool :=
  let bad0 := isLowTooShort page.b0h page.b0p
  let bad1 := isLowTooShort page.b1h page.b1p
  let page : TunerPage :=
    { b0h := page.b0h.setCustomValidity bad0
      b0p := page.b0p.setCustomValidity bad0
      b1h := page.b1h.setCustomValidity bad1
      b1p := page.b1p.setCustomValidity bad1
      rst := page.rst }
  (page, [page.b0h, page.b0p, page.b1h, page.b1p, page.rst].all NumberInput.checkValidity)

/-- What a click on Send does: a text in the status line, or `POST /tuner` with a body. -/
inductive SendOutcome where
  | refused (text : String)
  | posted (body : String)
deriving DecidableEq

/-- `onclick` of the Send button. -/
def onSend (page : TunerPage) : SendOutcome :=
  let (page, isValid) := valid page
  if !isValid then .refused "Invalid values"
  else if (page.b0h.number.mul page.b1p.number).ge (page.b1h.number.mul page.b0p.number) then
    .refused "Bit 0 duty must be less than bit 1 duty"
  else
    .posted ("b0h_ns=" ++ page.b0h.text ++ "&b0p_ns=" ++ page.b0p.text ++ "&b1h_ns=" ++
      page.b1h.text ++ "&b1p_ns=" ++ page.b1p.text ++ "&rst_us=" ++ page.rst.text)

/-! ## The rules of the page -/

theorem Number.round_of_lt {x : Int} (h : x.natAbs < 2 ^ 53) : round x = .finite x := by
  have hlog : x.natAbs.log2 < 53 := by
    by_cases hzero : x.natAbs = 0
    · rw [hzero]
      decide
    · exact (Nat.log2_lt hzero).mpr h
  have hexact : ¬ (2 * 0 > 1 ∨ (2 * 0 = 1 ∧ x.natAbs % 2 = 1)) := by omega
  unfold round
  simp only [show x.natAbs.log2 - 52 = 0 by omega, Nat.pow_zero, Nat.div_one, Nat.mod_one,
    if_neg hexact, Nat.mul_one]
  rw [if_neg (by omega), Int.sign_mul_natAbs]

/-- The bounds, steps and relations that both sides check. -/
structure Accepted (b0h b0p b1h b1p rst : Int) : Prop where
  b0hRange : 100 ≤ b0h ∧ b0h ≤ 1200 ∧ b0h % 25 = 0
  b0pRange : 800 ≤ b0p ∧ b0p ≤ 2000 ∧ b0p % 25 = 0
  b1hRange : 100 ≤ b1h ∧ b1h ≤ 1200 ∧ b1h % 25 = 0
  b1pRange : 800 ≤ b1p ∧ b1p ≤ 2000 ∧ b1p % 25 = 0
  rstRange : 50 ≤ rst ∧ rst ≤ 800 ∧ rst % 10 = 0
  low0 : 100 ≤ b0p - b0h
  low1 : 100 ≤ b1p - b1h
  duty : b0h * b1p < b1h * b0p

/-- Every minimum is on the grid of its step, so counting from it or from zero is the same. -/
theorem checkValidity_iff {min max step v : Int} {custom : Bool} (hmin : min % step = 0) :
    NumberInput.checkValidity ⟨min, max, step, v, custom⟩ = true ↔
      custom = false ∧ min ≤ v ∧ v ≤ max ∧ v % step = 0 := by
  have hstep : (v - min) % step = 0 ↔ v % step = 0 := by
    rw [Int.sub_emod, hmin, Int.sub_zero, Int.emod_emod]
  simp [NumberInput.checkValidity, hstep, and_assoc]

/-- Where the ranges hold, the script's arithmetic is exact. -/
theorem isLowTooShort_iff {h p : NumberInput} (hh : h.value.natAbs < 2 ^ 52)
    (hp : p.value.natAbs < 2 ^ 52) : isLowTooShort h p = false ↔ 100 ≤ p.value - h.value := by
  rw [isLowTooShort, NumberInput.number, NumberInput.number, Number.round_of_lt (by omega),
    Number.round_of_lt (by omega), Number.sub, Number.round_of_lt (by omega)]
  simp [Number.lt]

theorem number_mul {x y : Int} (hx : 0 ≤ x ∧ x ≤ 2000) (hy : 0 ≤ y ∧ y ≤ 2000) :
    (Number.round x).mul (Number.round y) = .finite (x * y) := by
  have hpos : 0 ≤ x * y := Int.mul_nonneg hx.1 hy.1
  have hle : x * y ≤ 2000 * 2000 := Int.mul_le_mul hx.2 hy.2 hy.1 (by decide)
  rw [Number.round_of_lt (by omega), Number.round_of_lt (by omega), Number.mul,
    Number.round_of_lt (by omega)]

/-- The five texts in the form fields of the body. -/
def bodyText (b0h b0p b1h b1p rst : Int) : String :=
  "b0h_ns=" ++ b0h.repr ++ "&b0p_ns=" ++ b0p.repr ++ "&b1h_ns=" ++ b1h.repr ++ "&b1p_ns=" ++
    b1p.repr ++ "&rst_us=" ++ rst.repr

/-- The page's checks before the duty comparison. -/
theorem valid_iff (b0h b0p b1h b1p rst : Int) :
    (valid (tunerPage b0h b0p b1h b1p rst)).2 = true ↔
      (100 ≤ b0h ∧ b0h ≤ 1200 ∧ b0h % 25 = 0) ∧ (800 ≤ b0p ∧ b0p ≤ 2000 ∧ b0p % 25 = 0) ∧
      (100 ≤ b1h ∧ b1h ≤ 1200 ∧ b1h % 25 = 0) ∧ (800 ≤ b1p ∧ b1p ≤ 2000 ∧ b1p % 25 = 0) ∧
      (50 ≤ rst ∧ rst ≤ 800 ∧ rst % 10 = 0) ∧ 100 ≤ b0p - b0h ∧ 100 ≤ b1p - b1h := by
  have hlow : ∀ {h p : Int}, 100 ≤ h ∧ h ≤ 1200 → 800 ≤ p ∧ p ≤ 2000 →
      (isLowTooShort ⟨100, 1200, 25, h, false⟩ ⟨800, 2000, 25, p, false⟩ = false ↔
        100 ≤ p - h) := by
    intro h p hh hp
    apply isLowTooShort_iff
    · dsimp only
      omega
    · dsimp only
      omega
  simp only [valid, tunerPage, NumberInput.setCustomValidity, List.all_cons, List.all_nil,
    Bool.and_true, Bool.and_eq_true]
  rw [checkValidity_iff (by decide), checkValidity_iff (by decide), checkValidity_iff (by decide),
    checkValidity_iff (by decide), checkValidity_iff (by decide)]
  constructor
  · rintro ⟨⟨hbad0, h0⟩, ⟨-, p0⟩, ⟨hbad1, h1⟩, ⟨-, p1⟩, -, r⟩
    exact ⟨h0, p0, h1, p1, r, (hlow ⟨h0.1, h0.2.1⟩ ⟨p0.1, p0.2.1⟩).mp hbad0,
      (hlow ⟨h1.1, h1.2.1⟩ ⟨p1.1, p1.2.1⟩).mp hbad1⟩
  · rintro ⟨h0, p0, h1, p1, r, l0, l1⟩
    have hbad0 := (hlow ⟨h0.1, h0.2.1⟩ ⟨p0.1, p0.2.1⟩).mpr l0
    have hbad1 := (hlow ⟨h1.1, h1.2.1⟩ ⟨p1.1, p1.2.1⟩).mpr l1
    exact ⟨⟨hbad0, h0⟩, ⟨hbad0, p0⟩, ⟨hbad1, h1⟩, ⟨hbad1, p1⟩, rfl, r⟩

/-- Setting custom validities changes no value. -/
theorem onSend_eq (page : TunerPage) :
    onSend page =
      if !(valid page).2 then .refused "Invalid values"
      else if (page.b0h.number.mul page.b1p.number).ge (page.b1h.number.mul page.b0p.number) then
        .refused "Bit 0 duty must be less than bit 1 duty"
      else
        .posted ("b0h_ns=" ++ page.b0h.text ++ "&b0p_ns=" ++ page.b0p.text ++ "&b1h_ns=" ++
          page.b1h.text ++ "&b1p_ns=" ++ page.b1p.text ++ "&rst_us=" ++ page.rst.text) := by
  simp only [onSend, valid, NumberInput.number_setCustomValidity,
    NumberInput.text_setCustomValidity]
  rfl

/-- A body is posted exactly for accepted values. -/
theorem onSend_posted_iff (b0h b0p b1h b1p rst : Int) (body : String) :
    onSend (tunerPage b0h b0p b1h b1p rst) = .posted body ↔
      Accepted b0h b0p b1h b1p rst ∧ body = bodyText b0h b0p b1h b1p rst := by
  have hvalid := valid_iff b0h b0p b1h b1p rst
  rw [onSend_eq]
  cases h : (valid (tunerPage b0h b0p b1h b1p rst)).2 with
  | false =>
      rw [h] at hvalid
      simp only [Bool.not_false, if_true, reduceCtorEq, false_iff]
      rintro ⟨ha, -⟩
      have htrue := hvalid.mpr ⟨ha.b0hRange, ha.b0pRange, ha.b1hRange, ha.b1pRange, ha.rstRange,
        ha.low0, ha.low1⟩
      cases htrue
  | true =>
      obtain ⟨h0, p0, h1, p1, r, l0, l1⟩ := hvalid.mp h
      have hmul0 := number_mul (x := b0h) (y := b1p) (by omega) (by omega)
      have hmul1 := number_mul (x := b1h) (y := b0p) (by omega) (by omega)
      have hge : (Number.finite (b0h * b1p)).ge (.finite (b1h * b0p)) =
          decide (b1h * b0p ≤ b0h * b1p) := by
        by_cases hlt : b0h * b1p < b1h * b0p
        · simp [Number.ge, Number.lt, hlt, Int.not_le.mpr hlt]
        · simp [Number.ge, Number.lt, hlt, Int.not_lt.mp hlt]
      have hnumber (min max step v : Int) :
          NumberInput.number ⟨min, max, step, v, false⟩ = .round v := rfl
      have htext (min max step v : Int) :
          NumberInput.text ⟨min, max, step, v, false⟩ = v.repr := rfl
      simp only [Bool.not_true, Bool.false_eq_true, if_false, tunerPage, hnumber, htext, hmul0,
        hmul1, hge, decide_eq_true_eq]
      by_cases hduty : b1h * b0p ≤ b0h * b1p
      · rw [if_pos hduty]
        simp only [reduceCtorEq, false_iff]
        rintro ⟨ha, -⟩
        exact absurd ha.duty (Int.not_lt.mpr hduty)
      · rw [if_neg hduty, SendOutcome.posted.injEq, eq_comm]
        have haccepted : Accepted b0h b0p b1h b1p rst :=
          ⟨h0, p0, h1, p1, r, l0, l1, Int.not_le.mp hduty⟩
        simp only [haccepted, true_and, bodyText]

/-! ## The rules of the firmware -/

/-- The five values as integers. -/
def timingValues (timing : Ws2812Timing) : Int × Int × Int × Int × Int :=
  (timing.bit0HighNs.toNat, timing.bit0PeriodNs.toNat, timing.bit1HighNs.toNat,
    timing.bit1PeriodNs.toNat, timing.resetUs.toNat)

/-- The firmware accepts exactly the same values. -/
theorem validate_ok_iff (timing : Ws2812Timing) :
    validateWs2812Timing timing = .ok ↔
      Accepted timing.bit0HighNs.toNat timing.bit0PeriodNs.toNat timing.bit1HighNs.toNat
        timing.bit1PeriodNs.toNat timing.resetUs.toNat := by
  have hduty : DutyOrdered timing ↔ (timing.bit0HighNs.toNat : Int) * timing.bit1PeriodNs.toNat <
      timing.bit1HighNs.toNat * timing.bit0PeriodNs.toNat := by
    rw [DutyOrdered]
    norm_cast
  rw [validate_eq_ok_iff, hduty]
  constructor
  · rintro ⟨⟨h0, p0, h1, p1, hr⟩, ⟨l0, l1⟩, hduty⟩
    exact ⟨by omega, by omega, by omega, by omega, by omega, by omega, by omega, hduty⟩
  · rintro ⟨h0, p0, h1, p1, hr, l0, l1, hduty⟩
    exact ⟨⟨by omega, by omega, by omega, by omega, by omega⟩, ⟨by omega, by omega⟩, hduty⟩

/-! ## The body -/

/-- Bytes in front of the end of a field. -/
theorem strcspn_append {field rest : List UInt8} (hfield : ampersand ∉ field)
    (hrest : rest = [] ∨ rest.head? = some ampersand) :
    strcspn (field ++ rest) [ampersand] = field.length := by
  have hstop : rest.takeWhile (· ∉ [ampersand]) = [] := by
    rcases hrest with rfl | hhead
    · rfl
    · cases rest with
      | nil => rfl
      | cons byte rest =>
          obtain rfl : byte = ampersand := by simpa using hhead
          simp
  have hkeep : ∀ byte ∈ field, decide (byte ∉ [ampersand]) = true := by
    intro byte hbyte
    simp only [List.mem_singleton, decide_eq_true_eq]
    rintro rfl
    exact hfield hbyte
  rw [strcspn, List.takeWhile_append_of_pos hkeep, hstop, List.append_nil]

/-- A field of a name and digits ends at its ampersand. -/
theorem strcspn_field {name digits rest : List UInt8} (hname : ampersand ∉ name)
    (hdigits : digits.all isDigit = true) (hrest : rest = [] ∨ rest.head? = some ampersand) :
    strcspn (name ++ equalsSign :: digits ++ rest) [ampersand] =
      name.length + digits.length + 1 := by
  have hfree : ampersand ∉ name ++ equalsSign :: digits := by
    rw [List.mem_append, List.mem_cons, not_or, not_or]
    refine ⟨hname, by decide, fun hmem => ?_⟩
    have hdigit := List.all_eq_true.mp hdigits ampersand hmem
    exact absurd hdigit (by decide)
  rw [strcspn_append hfree hrest, List.length_append, List.length_cons]
  omega

/-- The value of the first field with the key. -/
theorem extractDigitField_here {key digits rest : List UInt8} (hkey : ampersand ∉ key)
    (hlen : 1 ≤ digits.length ∧ digits.length ≤ tunerValueDigitsMax)
    (hdigits : digits.all isDigit = true) (hrest : rest = [] ∨ rest.head? = some ampersand) :
    extractDigitField key (key ++ equalsSign :: digits ++ rest) = some digits := by
  have hvalue : (List.drop (key.length + 1) (key ++ equalsSign :: digits ++ rest)).take
      (key.length + digits.length + 1 - key.length - 1) = digits := by
    rw [List.append_assoc, List.cons_append, ← List.drop_drop, List.drop_left, List.drop_succ_cons,
      List.drop_zero, show key.length + digits.length + 1 - key.length - 1 = digits.length by omega,
      List.take_left]
  rw [extractDigitField, dif_neg (by simp), strcspn_field hkey hdigits hrest]
  dsimp only
  rw [hvalue, if_pos ⟨by omega, by simp, by simp⟩, if_neg (by omega), if_pos hdigits]

/-- A field with another key of the same length is passed over. -/
theorem extractDigitField_skip {key name digits rest : List UInt8} (hlen : name.length = key.length)
    (hne : name ≠ key) (hname : ampersand ∉ name) (hdigits : digits.all isDigit = true) :
    extractDigitField key (name ++ equalsSign :: digits ++ ampersand :: rest) =
      extractDigitField key rest := by
  have htake : (name ++ equalsSign :: digits ++ ampersand :: rest).take key.length = name := by
    rw [List.append_assoc, ← hlen, List.take_left]
  have hdrop : (name ++ equalsSign :: digits ++ ampersand :: rest).drop
      (name.length + digits.length + 1 + 1) = rest := by
    rw [← List.drop_drop, show name.length + digits.length + 1 =
      (name ++ equalsSign :: digits).length by simp; omega, List.drop_left, List.drop_succ_cons,
      List.drop_zero]
  rw [extractDigitField, dif_neg (by simp), strcspn_field hname hdigits (.inr rfl)]
  dsimp only
  rw [htake, if_neg (fun h => hne h.2.1), dif_neg (by simp; omega), hdrop]

/-- The fields of the body. -/
def bodyFields (b0h b0p b1h b1p rst : Nat) : List UInt8 :=
  ascii "b0h_ns" ++ equalsSign :: Decimal.digits b0h ++ ampersand ::
    (ascii "b0p_ns" ++ equalsSign :: Decimal.digits b0p ++ ampersand ::
      (ascii "b1h_ns" ++ equalsSign :: Decimal.digits b1h ++ ampersand ::
        (ascii "b1p_ns" ++ equalsSign :: Decimal.digits b1p ++ ampersand ::
          (ascii "rst_us" ++ equalsSign :: Decimal.digits rst ++ []))))

theorem ascii_bodyText (b0h b0p b1h b1p rst : Nat) :
    ascii (bodyText b0h b0p b1h b1p rst) = bodyFields b0h b0p b1h b1p rst := by
  have hrepr (n : Nat) : ascii (n : Int).repr = Decimal.digits n := ascii_repr n
  have h0 : ascii "b0h_ns=" = ascii "b0h_ns" ++ [equalsSign] := by decide
  have h1 : ascii "&b0p_ns=" = ampersand :: ascii "b0p_ns" ++ [equalsSign] := by decide
  have h2 : ascii "&b1h_ns=" = ampersand :: ascii "b1h_ns" ++ [equalsSign] := by decide
  have h3 : ascii "&b1p_ns=" = ampersand :: ascii "b1p_ns" ++ [equalsSign] := by decide
  have h4 : ascii "&rst_us=" = ampersand :: ascii "rst_us" ++ [equalsSign] := by decide
  simp only [bodyText, ascii_append, hrepr, h0, h1, h2, h3, h4, bodyFields, List.append_assoc,
    List.cons_append, List.nil_append, List.append_nil]

theorem parseTunerForm_bodyFields {b0h b0p b1h b1p rst : Nat} (h0 : b0h < 10 ^ 4)
    (p0 : b0p < 10 ^ 4) (h1 : b1h < 10 ^ 4) (p1 : b1p < 10 ^ 4) (hr : rst < 10 ^ 4) :
    parseTunerForm (bodyFields b0h b0p b1h b1p rst) = some ⟨UInt16.ofNat b0h, UInt16.ofNat b0p,
      UInt16.ofNat b1h, UInt16.ofNat b1p, UInt16.ofNat rst⟩ := by
  have hlen (n : Nat) (hn : n < 10 ^ 4) : 1 ≤ (Decimal.digits n).length ∧
      (Decimal.digits n).length ≤ tunerValueDigitsMax :=
    ⟨List.length_pos_iff.mpr (Decimal.digits_ne_nil n),
      (Decimal.length_digits_le_iff (by decide)).mpr hn⟩
  have hall (n : Nat) : (Decimal.digits n).all isDigit = true := Decimal.all_isDigit_digits n
  have hvalue (n : Nat) : digitsToUint16 (Decimal.digits n) = UInt16.ofNat n := by
    rw [digitsToUint16_eq (hall n), Decimal.value_digits]
  have e0 : extractDigitField (ascii "b0h_ns") (bodyFields b0h b0p b1h b1p rst) =
      some (Decimal.digits b0h) :=
    extractDigitField_here (by decide) (hlen b0h h0) (hall b0h) (.inr rfl)
  have e1 : extractDigitField (ascii "b0p_ns") (bodyFields b0h b0p b1h b1p rst) =
      some (Decimal.digits b0p) := by
    rw [bodyFields, extractDigitField_skip (by decide) (by decide) (by decide) (hall b0h)]
    exact extractDigitField_here (by decide) (hlen b0p p0) (hall b0p) (.inr rfl)
  have e2 : extractDigitField (ascii "b1h_ns") (bodyFields b0h b0p b1h b1p rst) =
      some (Decimal.digits b1h) := by
    rw [bodyFields, extractDigitField_skip (by decide) (by decide) (by decide) (hall b0h),
      extractDigitField_skip (by decide) (by decide) (by decide) (hall b0p)]
    exact extractDigitField_here (by decide) (hlen b1h h1) (hall b1h) (.inr rfl)
  have e3 : extractDigitField (ascii "b1p_ns") (bodyFields b0h b0p b1h b1p rst) =
      some (Decimal.digits b1p) := by
    rw [bodyFields, extractDigitField_skip (by decide) (by decide) (by decide) (hall b0h),
      extractDigitField_skip (by decide) (by decide) (by decide) (hall b0p),
      extractDigitField_skip (by decide) (by decide) (by decide) (hall b1h)]
    exact extractDigitField_here (by decide) (hlen b1p p1) (hall b1p) (.inr rfl)
  have e4 : extractDigitField (ascii "rst_us") (bodyFields b0h b0p b1h b1p rst) =
      some (Decimal.digits rst) := by
    rw [bodyFields, extractDigitField_skip (by decide) (by decide) (by decide) (hall b0h),
      extractDigitField_skip (by decide) (by decide) (by decide) (hall b0p),
      extractDigitField_skip (by decide) (by decide) (by decide) (hall b1h),
      extractDigitField_skip (by decide) (by decide) (by decide) (hall b1p)]
    exact extractDigitField_here (by decide) (hlen rst hr) (hall rst) (.inl rfl)
  rw [parseTunerForm, e0, e1, e2, e3, e4, Option.bind_eq_bind]
  simp only [Option.bind_some, hvalue]
  rfl

theorem cString_bodyFields (b0h b0p b1h b1p rst : Nat) :
    cString (bodyFields b0h b0p b1h b1p rst) = bodyFields b0h b0p b1h b1p rst := by
  have hdigits (n : Nat) : 0 ∉ Decimal.digits n := by
    intro hzero
    exact absurd (List.all_eq_true.mp (Decimal.all_isDigit_digits n) 0 hzero) (by decide)
  have hfree : 0 ∉ bodyFields b0h b0p b1h b1p rst := by
    have h0 : 0 ∉ ascii "b0h_ns" := by decide
    have h1 : 0 ∉ ascii "b0p_ns" := by decide
    have h2 : 0 ∉ ascii "b1h_ns" := by decide
    have h3 : 0 ∉ ascii "b1p_ns" := by decide
    have h4 : 0 ∉ ascii "rst_us" := by decide
    simp only [bodyFields, List.mem_append, List.mem_cons, not_or]
    exact ⟨⟨h0, by decide, hdigits b0h⟩, by decide, ⟨h1, by decide, hdigits b0p⟩, by decide,
      ⟨h2, by decide, hdigits b1h⟩, by decide, ⟨h3, by decide, hdigits b1p⟩, by decide,
      ⟨h4, by decide, hdigits rst⟩, by decide⟩
  rw [cString, ← List.append_nil (bodyFields b0h b0p b1h b1p rst),
    List.takeWhile_append_of_pos fun byte hbyte =>
      decide_eq_true (ne_of_mem_of_not_mem hbyte hfree),
    List.takeWhile_nil]

/-- A timing set holds any five accepted values. -/
theorem exists_timing {b0h b0p b1h b1p rst : Int} (h : Accepted b0h b0p b1h b1p rst) :
    ∃ timing, timingValues timing = (b0h, b0p, b1h, b1p, rst) ∧
      parseTunerForm (cString (ascii (bodyText b0h b0p b1h b1p rst))) = some timing := by
  obtain ⟨h0, p0, h1, p1, r, -, -, -⟩ := h
  obtain ⟨n0, rfl⟩ := Int.eq_ofNat_of_zero_le (show 0 ≤ b0h by omega)
  obtain ⟨m0, rfl⟩ := Int.eq_ofNat_of_zero_le (show 0 ≤ b0p by omega)
  obtain ⟨n1, rfl⟩ := Int.eq_ofNat_of_zero_le (show 0 ≤ b1h by omega)
  obtain ⟨m1, rfl⟩ := Int.eq_ofNat_of_zero_le (show 0 ≤ b1p by omega)
  obtain ⟨k, rfl⟩ := Int.eq_ofNat_of_zero_le (show 0 ≤ rst by omega)
  refine ⟨⟨UInt16.ofNat n0, UInt16.ofNat m0, UInt16.ofNat n1, UInt16.ofNat m1, UInt16.ofNat k⟩,
    ?_, ?_⟩
  · have hnat {n : Nat} (hn : n < 2 ^ 16) : (UInt16.ofNat n).toNat = n :=
      UInt16.toNat_ofNat_of_lt' hn
    simp only [timingValues]
    rw [hnat (by omega), hnat (by omega), hnat (by omega), hnat (by omega), hnat (by omega)]
  · rw [ascii_bodyText, cString_bodyFields]
    apply parseTunerForm_bodyFields <;> omega

theorem length_bodyText_le {b0h b0p b1h b1p rst : Int} (h : Accepted b0h b0p b1h b1p rst) :
    (ascii (bodyText b0h b0p b1h b1p rst)).length ≤ tunerBodyMax := by
  obtain ⟨h0, p0, h1, p1, r, -, -, -⟩ := h
  obtain ⟨n0, rfl⟩ := Int.eq_ofNat_of_zero_le (show 0 ≤ b0h by omega)
  obtain ⟨m0, rfl⟩ := Int.eq_ofNat_of_zero_le (show 0 ≤ b0p by omega)
  obtain ⟨n1, rfl⟩ := Int.eq_ofNat_of_zero_le (show 0 ≤ b1h by omega)
  obtain ⟨m1, rfl⟩ := Int.eq_ofNat_of_zero_le (show 0 ≤ b1p by omega)
  obtain ⟨k, rfl⟩ := Int.eq_ofNat_of_zero_le (show 0 ≤ rst by omega)
  have hlen {n : Nat} (hn : n < 10 ^ 4) : (Decimal.digits n).length ≤ 4 :=
    (Decimal.length_digits_le_iff (by decide)).mpr hn
  have l0 := hlen (n := n0) (by omega)
  have l1 := hlen (n := m0) (by omega)
  have l2 := hlen (n := n1) (by omega)
  have l3 := hlen (n := m1) (by omega)
  have l4 := hlen (n := k) (by omega)
  have hkey : (ascii "b0h_ns").length = 6 ∧ (ascii "b0p_ns").length = 6 ∧
      (ascii "b1h_ns").length = 6 ∧ (ascii "b1p_ns").length = 6 ∧
      (ascii "rst_us").length = 6 := by decide
  rw [ascii_bodyText, tunerBodyMax]
  simp only [bodyFields, List.length_append, List.length_cons, List.length_nil]
  omega

/-- The page and the firmware accept the same five integers, and the firmware reads back from the
posted body the values that the inputs held. -/
theorem tunerPage_agrees (b0h b0p b1h b1p rst : Int) :
    ((∃ body, onSend (tunerPage b0h b0p b1h b1p rst) = .posted body) ↔
      ∃ timing, timingValues timing = (b0h, b0p, b1h, b1p, rst) ∧
        validateWs2812Timing timing = .ok) ∧
    ∀ body, onSend (tunerPage b0h b0p b1h b1p rst) = .posted body →
      (ascii body).length ≤ tunerBodyMax ∧
      ∃ timing, parseTunerForm (cString (ascii body)) = some timing ∧
        timingValues timing = (b0h, b0p, b1h, b1p, rst) := by
  have hvalues {timing : Ws2812Timing} (h : timingValues timing = (b0h, b0p, b1h, b1p, rst)) :
      validateWs2812Timing timing = .ok ↔ Accepted b0h b0p b1h b1p rst := by
    simp only [timingValues, Prod.mk.injEq] at h
    obtain ⟨rfl, rfl, rfl, rfl, rfl⟩ := h
    exact validate_ok_iff timing
  refine ⟨⟨?_, ?_⟩, ?_⟩
  · rintro ⟨body, hposted⟩
    obtain ⟨haccepted, -⟩ := (onSend_posted_iff b0h b0p b1h b1p rst body).mp hposted
    obtain ⟨timing, htiming, -⟩ := exists_timing haccepted
    exact ⟨timing, htiming, (hvalues htiming).mpr haccepted⟩
  · rintro ⟨timing, htiming, hok⟩
    exact ⟨_, (onSend_posted_iff b0h b0p b1h b1p rst _).mpr ⟨(hvalues htiming).mp hok, rfl⟩⟩
  · intro body hposted
    obtain ⟨haccepted, rfl⟩ := (onSend_posted_iff b0h b0p b1h b1p rst body).mp hposted
    obtain ⟨timing, htiming, hparsed⟩ := exists_timing haccepted
    exact ⟨length_bodyText_le haccepted, timing, hparsed, htiming⟩

theorem tunerPage_agrees_defaults :
    ∃ body, onSend (tunerPage 400 1250 800 1250 280) = .posted body ∧
      ∃ timing, parseTunerForm (cString (ascii body)) = some timing ∧
        timingValues timing = (400, 1250, 800, 1250, 280) := by
  have hok : validateWs2812Timing ⟨400, 1250, 800, 1250, 280⟩ = .ok := by decide
  obtain ⟨hsend, hread⟩ := tunerPage_agrees 400 1250 800 1250 280
  obtain ⟨body, hposted⟩ := hsend.mpr ⟨⟨400, 1250, 800, 1250, 280⟩, rfl, hok⟩
  exact ⟨body, hposted, (hread body hposted).2⟩

end StripTuner.HttpPortal
