import StripTuner.HttpPortal.Portal
import StripTuner.HttpPortal.PortalForm
import StripTuner.Lib.Decimal
import StripTuner.Lib.Memory
import StripTuner.Provisioning.Components

/-!
# The setup handlers

`HandleScanRequest()` and `HandleSubmitRequest()`: the list of the networks in range, and the
submission of one of them with its password.
-/

namespace StripTuner.HttpPortal

open ByteMemory CredentialStore DeviceCalls DeviceCalls.Prog Provisioning WifiManager

/-! ## Calls -/

/-- A reply with its body as bytes: names of networks are any bytes. -/
structure SetupReply where
  status : String
  headers : List (String × String)
  body : List UInt8
deriving DecidableEq

/-- The calls of the two handlers. A form is received as the tuner's body is. -/
inductive SetupCall where
  | portal (c : PortalCall)
  | scanNetworks
  | submitCredentials (credentials : WifiCredentials)
  | setHttpPortalStatus (status : PortalStatus)
  | send (reply : SetupReply)

/-- A failed scan has no entries. -/
abbrev SetupCall.Answer : SetupCall → Type
  | .portal c => c.Answer
  | .scanNetworks => Option (List WifiScanEntry)
  | .submitCredentials _ => Bool
  | .setHttpPortalStatus _ | .send _ => Unit

abbrev Setup (α : Type) : Type := Prog SetupCall SetupCall.Answer α

def sendSetup (reply : SetupReply) : Setup Unit := perform (SetupCall.send reply)

/-! ## `GET /scan` -/

/-- `HTTP_PORTAL_JSON_MAX`. -/
abbrev httpPortalJsonMax : Nat := 4096

/-- `HTTP_PORTAL_ESCAPED_SSID_MAX`. -/
abbrev httpPortalEscapedSsidMax : Nat := 2 * 96 + 1

/-- `%d`. -/
def formatInt (x : Int) : List UInt8 :=
  if x < 0 then 0x2D :: Decimal.digits x.natAbs else Decimal.digits x.natAbs

def formatBool (b : Bool) : List UInt8 := if b then ascii "true" else ascii "false"

/-- What `snprintf()` is to write for an entry. -/
def entryText (index : Nat) (escaped : List UInt8) (entry : WifiScanEntry) : List UInt8 :=
  (if index > 0 then ascii "," else []) ++ (ascii "\x7b\"ssid\":\"" ++ (escaped ++
    (ascii "\",\"rssi\":" ++ (formatInt entry.rssiDbm.toInt ++ (ascii ",\"open\":" ++
      (formatBool entry.isOpen ++ (ascii ",\"uns\":" ++ (formatBool entry.isUnsupported ++
        ascii "\x7d"))))))))

/-- `snprintf()` into a buffer from an index on: as much of the text as fits with the terminator. -/
def snprintf (buffer : List UInt8) (index : Nat) (text : List UInt8) : List UInt8 :=
  overwrite buffer index (text.take (buffer.length - index - 1) ++ [0])

/-- The loop of `HandleScanRequest()`: `s_json` and `used`. -/
def formatEntries : List WifiScanEntry → Nat → List UInt8 → Nat → List UInt8 × Nat
  | [], _, json, used => (json, used)
  | entry :: entries, index, json, used =>
    let escaped := escapeJsonString (cString entry.ssid.toList) httpPortalEscapedSsidMax
    if escaped.length = 0 then formatEntries entries (index + 1) json used
    else
      let written := entryText index escaped entry
      let json' := snprintf json used written
      -- the list is cut rather than overflowing the buffer
      if written.length + 2 > httpPortalJsonMax - used then (json', used)
      else formatEntries entries (index + 1) json' (used + written.length)

/-- `s_json` and `used` after the list has been closed and terminated. -/
def formatScan (json : List UInt8) (entries : List WifiScanEntry) : List UInt8 × Nat :=
  let formatted := formatEntries entries 0 (json.set 0 0x5B) 1
  ((formatted.1.set formatted.2 0x5D).set (formatted.2 + 1) 0, formatted.2 + 1)

/-- The variables of the handlers: `s_entries` with `s_entry_count`, and `s_json`. -/
structure SetupState where
  entries : List WifiScanEntry
  json : List UInt8

/-- The reply of `HandleScanRequest()` to what the scan returned, and the variables behind it. -/
def scanReply (state : SetupState) : Option (List WifiScanEntry) → SetupReply × SetupState
  | none => (⟨"503 Service Unavailable", [], ascii "Scan unavailable"⟩, state)
  | some entries =>
    let formatted := formatScan state.json entries
    (⟨"200 OK", [("Content-Type", "application/json"), ("Cache-Control", "no-store")],
      formatted.1.take formatted.2⟩, ⟨entries, formatted.1⟩)

/-- `HandleScanRequest()`. -/
def handleScanRequest (state : SetupState) : Setup SetupState := do
  let scanned ← (perform SetupCall.scanNetworks : Setup (Option (List WifiScanEntry)))
  sendSetup (scanReply state scanned).1
  return (scanReply state scanned).2

/-! ## `POST /submit` -/

/-- `httpd_resp_send_err()` with `HTTPD_400_BAD_REQUEST`. -/
def sendBadRequest (message : String) : Setup Unit :=
  sendSetup ⟨"400 Bad Request", [], ascii message⟩

/-- `HandleSubmitRequest()` once the form is complete and terminated. -/
def handleForm (entries : List WifiScanEntry) (body : List UInt8) : Setup Unit := do
  match (decodeSubmission (cString body)).filter (validateSubmission · entries) with
  | none => sendBadRequest "Invalid credentials"
  | some candidate => do
    let isStarted ← (perform (SetupCall.submitCredentials candidate) : Setup Bool)
    if !isStarted then sendBadRequest "Busy, try again"
    else do
      perform (SetupCall.setHttpPortalStatus .connecting)
      sendSetup ⟨"200 OK", [("Content-Type", "text/plain"), ("Cache-Control", "no-store")],
        ascii "Connecting..."⟩

/-- `HandleSubmitRequest()`. -/
def handleSubmitRequest (entries : List WifiScanEntry) (contentLen : UInt32) : Setup Unit :=
  let length : Int := contentLen.toInt32.toInt
  if length ≤ 0 ∨ length > httpPortalFormMax then sendBadRequest "Invalid form"
  else do
    let body ← embed SetupCall.portal (receiveBody length.toNat [] 0)
    match body with
    | none => sendBadRequest "Invalid form"
    | some body => handleForm entries body

end StripTuner.HttpPortal
