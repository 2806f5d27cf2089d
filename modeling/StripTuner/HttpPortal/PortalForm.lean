import StripTuner.HttpPortal.Forms
import StripTuner.WifiManager.Scan

/-!
# The setup form

The pure functions of `portal_form.c`: decoding of the submitted form, escaping of the listed names,
and the check of a submission against the last scan.
-/

namespace StripTuner.HttpPortal

open ByteLayout CredentialStore WifiManager

/-! ## Decoding -/

/-- `HTTP_PORTAL_FORM_MAX`. -/
abbrev httpPortalFormMax : Nat := 384

/-- `FORM_NAME_MAX`. -/
abbrev formNameMax : Nat := 16

/-- `GetHexValue()`. -/
def getHexValue (digit : UInt8) : Int :=
  if 0x30 ≤ digit && digit ≤ 0x39 then (digit.toNat : Int) - 0x30
  else if 0x61 ≤ digit && digit ≤ 0x66 then (digit.toNat : Int) - 0x61 + 10
  else if 0x41 ≤ digit && digit ≤ 0x46 then (digit.toNat : Int) - 0x41 + 10
  else -1

/-- A decoded character is stored unless it is the terminator or leaves no room for one. -/
def storeCharacter (outputSize : Nat) (output : List UInt8) (value : UInt8) : Option (List UInt8) :=
  if value = 0 ∨ output.length + 1 ≥ outputSize then none else some (output ++ [value])

/-- The loop of `DecodeFormValue()`. -/
def decodeLoop (outputSize : Nat) : List UInt8 → List UInt8 → Option (List UInt8)
  | [], output => if outputSize = 0 then none else some output
  | value :: rest, output =>
    if value = 0x2B then
      (storeCharacter outputSize output 0x20).bind fun output => decodeLoop outputSize rest output
    else if value = 0x25 then
      match rest with
      | high :: low :: rest =>
        if getHexValue high < 0 ∨ getHexValue low < 0 then none
        else
          let value := ((getHexValue high).toNat <<< 4 ||| (getHexValue low).toNat).toUInt8
          (storeCharacter outputSize output value).bind fun output =>
            decodeLoop outputSize rest output
      | _ => none
    else
      (storeCharacter outputSize output value).bind fun output => decodeLoop outputSize rest output

/-- `DecodeFormValue()`: the text in `output` where it returns true. -/
def decodeFormValue (input : List UInt8) (outputSize : Nat) : Option (List UInt8) :=
  decodeLoop outputSize input []

/-- The loop of `GetFormField()`. -/
def findFormField (name : List UInt8) (valueSize : Nat) (field : List UInt8) :
    Option (List UInt8) :=
  if _ : field = [] then none
  else
    let fieldLength := strcspn field [ampersand]
    if fieldLength > name.length ∧ field.take name.length = name ∧
        field.getD name.length 0 = equalsSign then
      decodeFormValue ((field.drop (name.length + 1)).take (fieldLength - name.length - 1)) valueSize
    else if _ : field.length ≤ fieldLength then none
    else findFormField name valueSize (field.drop (fieldLength + 1))
termination_by field.length
decreasing_by
  rw [List.length_drop]
  omega

/-- `GetFormField()`: the text in `value` where it returns true. -/
def getFormField (body name : List UInt8) (valueSize : Nat) : Option (List UInt8) :=
  if name.length = 0 ∨ name.length ≥ formNameMax then none else findFormField name valueSize body

/-! ## Escaping -/

/-- `hex_digits`. -/
def hexDigits : List UInt8 := ascii "0123456789abcdef"

/-- The characters that become `\u00XX`. -/
def needsUnicode (character : UInt8) : Bool :=
  character < 0x20 || character = 0x3C || character = 0x3E || character = 0x26 || character = 0x27

/-- What one character becomes. -/
def escapeCharacter (character : UInt8) : List UInt8 :=
  if needsUnicode character then
    ascii "\\u00" ++ [hexDigits.getD (character >>> 4).toNat 0,
      hexDigits.getD (character &&& 0x0F).toNat 0]
  else if character = 0x22 ∨ character = 0x5C then [0x5C, character]
  else [character]

/-- The loop of `EscapeJsonString()`. -/
def escapeLoop (outputSize : Nat) : List UInt8 → List UInt8 → List UInt8
  | [], output => if outputSize = 0 then [] else output
  | character :: rest, output =>
    if output.length + (escapeCharacter character).length + 1 > outputSize then []
    else escapeLoop outputSize rest (output ++ escapeCharacter character)

/-- `EscapeJsonString()`: the escaped text, empty where it returns 0. -/
def escapeJsonString (input : List UInt8) (outputSize : Nat) : List UInt8 :=
  escapeLoop outputSize input []

/-! ## Validation -/

/-- The first entry of the scan with a name. -/
def findScanEntry (entries : List WifiScanEntry) (ssid : List UInt8) : Option WifiScanEntry :=
  entries.find? fun entry => cString entry.ssid.toList = ssid

/-- `ValidateSubmission()`. -/
def validateSubmission (credentials : WifiCredentials) (entries : List WifiScanEntry) : Bool :=
  if !isCredentialsValid credentials then false
  else
    let isPasswordEmpty : Bool := credentials.password.toList.getD 0 0 = 0
    match findScanEntry entries (cString credentials.ssid.toList) with
    | some entry =>
      if entry.isUnsupported then false
      else if entry.isOpen then isPasswordEmpty else !isPasswordEmpty
    | none => !isPasswordEmpty

/-- The zeroed `candidate` of `HandleSubmitRequest()` with two texts written into it. -/
def credentialPair (ssid password : List UInt8) : WifiCredentials where
  ssid := field ssid 0 (credentialSsidMax + 1)
  password := field password 0 (credentialPasswordMax + 1)

/-- The decoding of a submitted body into the `candidate` of `HandleSubmitRequest()`. -/
def decodeSubmission (body : List UInt8) : Option WifiCredentials :=
  match getFormField body (ascii "ssid") (credentialSsidMax + 1) with
  | none => none
  | some ssid =>
    match getFormField body (ascii "password") (credentialPasswordMax + 1) with
    | none => none
    | some password => some (credentialPair ssid password)

end StripTuner.HttpPortal
