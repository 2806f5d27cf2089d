import StripTuner.Lib.Bytes

/-!
# The credential record

`wifi_credentials_t` is a pair of null-terminated strings in fixed buffers. NVS stores it as one
blob: the bytes of both buffers, terminators and padding included.
-/

namespace StripTuner.CredentialStore

open ByteLayout

/-- `CREDENTIAL_SSID_MAX`. -/
abbrev credentialSsidMax : Nat := 32

/-- `CREDENTIAL_PASSWORD_MAX`. -/
abbrev credentialPasswordMax : Nat := 64

/-- `PASSWORD_MIN_LENGTH`. -/
abbrev passwordMinLength : Nat := 8

/-- `PASSWORD_MAX_ASCII_LENGTH`. -/
abbrev passwordMaxAsciiLength : Nat := 63

/-- `wifi_credentials_t`. -/
@[ext] structure WifiCredentials where
  ssid : Vector UInt8 (credentialSsidMax + 1)
  password : Vector UInt8 (credentialPasswordMax + 1)
deriving DecidableEq

/-! ## Validity -/

/-- `strnlen()`: the bytes before the first terminator, at most `maxlen` of them. -/
def strnlen (s : List UInt8) (maxlen : Nat) : Nat :=
  ((s.take maxlen).takeWhile (· ≠ 0)).length

def isHexDigit (character : UInt8) : Bool :=
  (0x30 ≤ character && character ≤ 0x39) || (0x61 ≤ character && character ≤ 0x66) ||
    (0x41 ≤ character && character ≤ 0x46)

/-- The loop of `IsPasswordValid()`: `none` where it returns false at a character that is not
printable, otherwise `is_hex` after the last character. -/
def scanPassword : List UInt8 → Bool → Option Bool
  | [], isHex => some isHex
  | character :: rest, isHex =>
    if character < 0x20 || character > 0x7E then none
    else scanPassword rest (isHex && isHexDigit character)

/-- `IsPasswordValid()`. -/
def isPasswordValid (password : List UInt8) : Bool :=
  let length := strnlen password (credentialPasswordMax + 1)
  if length = 0 then true
  else if length > credentialPasswordMax then false
  else
    match scanPassword (password.take length) (length = credentialPasswordMax) with
    | none => false
    | some isHex =>
      if length = credentialPasswordMax then isHex
      else passwordMinLength ≤ length && length ≤ passwordMaxAsciiLength

/-- `IsCredentialsValid()`. -/
def isCredentialsValid (credentials : WifiCredentials) : Bool :=
  let ssidLength := strnlen credentials.ssid.toList (credentialSsidMax + 1)
  if ssidLength = 0 || ssidLength > credentialSsidMax then false
  else isPasswordValid credentials.password.toList

/-- The text of a null-terminated string in a buffer of `maxlen` bytes. -/
def text (s : List UInt8) (maxlen : Nat) : List UInt8 := (s.take maxlen).takeWhile (· ≠ 0)

def isPrintable (character : UInt8) : Bool := 0x20 ≤ character && character ≤ 0x7E

theorem isPrintable_of_isHexDigit {c : UInt8} (h : isHexDigit c = true) : isPrintable c = true := by
  simp only [isHexDigit, isPrintable, Bool.or_eq_true, Bool.and_eq_true, decide_eq_true_eq,
    UInt8.le_iff_toNat_le, UInt8.reduceToNat] at h ⊢
  omega

theorem scanPassword_eq (chars : List UInt8) (isHex : Bool) :
    scanPassword chars isHex =
      if chars.all isPrintable then some (isHex && chars.all isHexDigit) else none := by
  induction chars generalizing isHex with
  | nil => simp [scanPassword]
  | cons c rest ih =>
      have hc : (c < 0x20 || c > 0x7E) = !isPrintable c := by
        simp only [isPrintable, gt_iff_lt, Bool.not_and, ← UInt8.not_le, decide_not]
      rw [scanPassword, ih, hc]
      by_cases hp : isPrintable c = true
      · simp [hp, Bool.and_assoc]
      · simp [hp]

/-- The password rules of the header: empty, 8 to 63 printable characters, or 64 hex digits. -/
theorem isPasswordValid_iff (password : List UInt8) :
    isPasswordValid password = true ↔
      let chars := text password (credentialPasswordMax + 1)
      chars = [] ∨ (8 ≤ chars.length ∧ chars.length ≤ 63 ∧ chars.all isPrintable) ∨
        (chars.length = 64 ∧ chars.all isHexDigit) := by
  have htake : password.take (strnlen password (credentialPasswordMax + 1)) =
      text password (credentialPasswordMax + 1) := by
    have hp : (text password (credentialPasswordMax + 1)) <+: password :=
      (List.takeWhile_prefix _).trans (List.take_prefix _ _)
    exact (List.prefix_iff_eq_take.mp hp).symm
  have hlen : strnlen password (credentialPasswordMax + 1) =
      (text password (credentialPasswordMax + 1)).length := rfl
  have hhex : ∀ chars : List UInt8, chars.all isHexDigit = true → chars.all isPrintable = true := by
    intro chars h
    rw [List.all_eq_true] at h ⊢
    exact fun c hc => isPrintable_of_isHexDigit (h c hc)
  rw [isPasswordValid, htake, hlen]
  generalize text password (credentialPasswordMax + 1) = chars
  simp only [scanPassword_eq, ← List.length_eq_zero_iff, credentialPasswordMax,
    passwordMinLength, passwordMaxAsciiLength]
  rcases Nat.lt_trichotomy chars.length 64 with hlt | heq | hgt
  · split_ifs <;> simp_all <;> omega
  · by_cases hx : chars.all isHexDigit = true
    · simp [heq, hx, hhex chars hx]
    · split_ifs <;> simp_all
  · split_ifs <;> simp_all
    omega

/-! ## The stored blob -/

/-- `sizeof(wifi_credentials_t)`. -/
abbrev credentialsSize : Nat := credentialSsidMax + 1 + (credentialPasswordMax + 1)

namespace WifiCredentials

/-- The bytes of the record as `nvs_set_blob()` stores them. -/
def toBytes (credentials : WifiCredentials) : List UInt8 :=
  credentials.ssid.toList ++ credentials.password.toList

/-- The record after the bytes were copied over a zeroed one. -/
def ofBytes (bytes : List UInt8) : WifiCredentials where
  ssid := field bytes 0 (credentialSsidMax + 1)
  password := field bytes (credentialSsidMax + 1) (credentialPasswordMax + 1)

@[simp] theorem length_toBytes (credentials : WifiCredentials) :
    credentials.toBytes.length = credentialsSize := by
  simp [toBytes]

@[simp] theorem ofBytes_toBytes (credentials : WifiCredentials) :
    ofBytes credentials.toBytes = credentials := by
  have hssid : credentials.ssid.toList.length = credentialSsidMax + 1 := Vector.length_toList
  rw [ofBytes, toBytes, field_append_left (by rw [hssid, Nat.zero_add]), field_append_right (by rw [hssid]),
    hssid, Nat.sub_self, field_toList, field_toList]

theorem toBytes_ofBytes {bytes : List UInt8} (h : bytes.length = credentialsSize) :
    (ofBytes bytes).toBytes = bytes := by
  rw [credentialsSize] at h
  rw [toBytes, ofBytes, toList_field (by omega), toList_field (by omega)]
  exact (slice_append_slice bytes 0 _ _).trans (slice_self h)

theorem toBytes_injective : Function.Injective toBytes := by
  intro a b h
  rw [← ofBytes_toBytes a, h, ofBytes_toBytes]

end WifiCredentials

end StripTuner.CredentialStore
