import StripTuner.PulseMonitor.Model

/-!
# Forms, origins and results

The pure functions of the tuner's HTTP handlers: `ParseTunerForm()` of `ws2812_timing.c`,
`tuner_result.c` and `station_origin.c`. A C string is the list of its bytes before the terminator.
-/

namespace StripTuner.HttpPortal

open Ws2812 PulseMonitor

/-! ## Strings -/

/-- The bytes of an ASCII text. -/
def ascii (text : String) : List UInt8 := text.toList.map fun character => character.toNat.toUInt8

/-- The bytes before the first terminator. -/
def cString (bytes : List UInt8) : List UInt8 := bytes.takeWhile (· ≠ 0)

abbrev ampersand : UInt8 := 0x26
abbrev equalsSign : UInt8 := 0x3D

def isDigit (byte : UInt8) : Bool := 0x30 ≤ byte && byte ≤ 0x39

/-- `strcspn()` for a set of bytes. -/
def strcspn (text stop : List UInt8) : Nat := (text.takeWhile (· ∉ stop)).length

/-! ## The tuner form -/

/-- `TUNER_VALUE_DIGITS_MAX`. -/
abbrev tunerValueDigitsMax : Nat := 4

/-- `ExtractDigitField()`: the digits of the first field that starts with the key and `=`. -/
def extractDigitField (key field : List UInt8) : Option (List UInt8) :=
  if _ : field = [] then none
  else
    let fieldLen := strcspn field [ampersand]
    if fieldLen > key.length ∧ field.take key.length = key ∧
        field.getD key.length 0 = equalsSign then
      let value := (field.drop (key.length + 1)).take (fieldLen - key.length - 1)
      if value.length < 1 ∨ value.length > tunerValueDigitsMax then none
      else if value.all isDigit then some value
      else none
    else if _ : field.length ≤ fieldLen then none
    else extractDigitField key (field.drop (fieldLen + 1))
termination_by field.length
decreasing_by
  rw [List.length_drop]
  omega

/-- `DigitsToUint16()`. -/
def digitsToUint16 (digits : List UInt8) : UInt16 :=
  digits.foldl (fun value digit => value * 10 + (digit.toUInt16 - 0x30)) 0

/-- `ParseTunerForm()`. -/
def parseTunerForm (body : List UInt8) : Option Ws2812Timing := do
  let bit0High ← extractDigitField (ascii "b0h_ns") body
  let bit0Period ← extractDigitField (ascii "b0p_ns") body
  let bit1High ← extractDigitField (ascii "b1h_ns") body
  let bit1Period ← extractDigitField (ascii "b1p_ns") body
  let reset ← extractDigitField (ascii "rst_us") body
  return ⟨digitsToUint16 bit0High, digitsToUint16 bit0Period, digitsToUint16 bit1High,
    digitsToUint16 bit1Period, digitsToUint16 reset⟩

/-! ## The result query -/

/-- `TUNER_RESULT_SEQ_DIGITS_MAX`. -/
abbrev tunerResultSeqDigitsMax : Nat := 10

/-- `ParseSeqDigits()`. -/
def parseSeqDigits (value : List UInt8) : Option UInt32 :=
  if value.length < 1 ∨ value.length > tunerResultSeqDigitsMax then none
  else if value.all isDigit then
    let number : UInt64 := value.foldl (fun number digit => number * 10 + (digit.toUInt64 - 0x30)) 0
    if number > 0xFFFFFFFF then none else some number.toUInt32
  else none

/-- `ParseTunerResultSeq()`, for a query that is not null. -/
def parseTunerResultSeq (field : List UInt8) : Option UInt32 :=
  let key := ascii "seq"
  let fieldLength := strcspn field [ampersand]
  let nameLength := strcspn field [equalsSign, ampersand]
  if nameLength = key.length ∧ field.take key.length = key then
    if nameLength = fieldLength then none
    else
      parseSeqDigits ((field.drop (key.length + 1)).take (fieldLength - key.length - 1))
  else if _ : field.length ≤ fieldLength then none
  else parseTunerResultSeq (field.drop (fieldLength + 1))
termination_by field.length
decreasing_by
  rw [List.length_drop]
  omega

/-! ## The result state -/

/-- `tuner_result_state_t`. -/
inductive TunerResultState where
  | pending
  | done
  | timeout
  | countError
  | notMeasured
  | superseded
  | unknown
  | read
deriving DecidableEq

/-- The state served for a record's own number. -/
def outcomeState : Ws2812MeasurementState → TunerResultState
  | .done => .done
  | .timeout => .timeout
  | .countError => .countError
  | .notMeasured => .notMeasured
  | .readDone => .read

/-- `GetTunerResultState()`. -/
def getTunerResultState (requestSeq lastIssuedSeq : UInt32) (record : Ws2812Measurement) :
    TunerResultState :=
  if requestSeq = 0 ∨ requestSeq > lastIssuedSeq then .unknown
  else if record.submitSeq = requestSeq then outcomeState record.state
  else if record.submitSeq > requestSeq then .superseded
  else .pending

/-- `s_state_names` of `FormatTunerResult()`. -/
def stateName : TunerResultState → String
  | .pending => "pending"
  | .done => "done"
  | .timeout => "timeout"
  | .countError => "count_error"
  | .notMeasured => "not_measured"
  | .superseded => "superseded"
  | .unknown => "unknown"
  | .read => "read"

/-- `FormatReadValue()`. -/
def formatReadValue (valueNs highNs : UInt32) : String :=
  if highNs = 0 then "n/a" else valueNs.toNat.repr

/-- The whole body of `FormatTunerResult()`. -/
def resultText (state : TunerResultState) (record : Ws2812Measurement) : String :=
  if state = .read then
    "state=read&b0h=" ++ formatReadValue record.bit0HighAvgNs record.bit0HighAvgNs ++
      "&b0p=" ++ formatReadValue record.bit0PeriodAvgNs record.bit0HighAvgNs ++
      "&b1h=" ++ formatReadValue record.bit1HighAvgNs record.bit1HighAvgNs ++
      "&b1p=" ++ formatReadValue record.bit1PeriodAvgNs record.bit1HighAvgNs
  else if state ≠ .done then
    "state=" ++ stateName state
  else if record.matchAvailable then
    "state=done&b0=" ++ record.bit0HighAvgNs.toNat.repr ++
      "&b1=" ++ record.bit1HighAvgNs.toNat.repr ++ "&match=" ++ record.matchCount.toNat.repr
  else
    "state=done&b0=" ++ record.bit0HighAvgNs.toNat.repr ++
      "&b1=" ++ record.bit1HighAvgNs.toNat.repr ++ "&match=n/a"

/-- `FormatTunerResult()`: the body, empty when it does not fit with its terminator. -/
def formatTunerResult (state : TunerResultState) (record : Ws2812Measurement) (bodySize : Nat) :
    String :=
  let text := resultText state record
  if text.length ≥ bodySize then "" else text

/-! ## The origin -/

/-- `HTTP_STATION_ORIGIN_MAX`. -/
abbrev httpStationOriginMax : Nat := 96

/-- `MDNS_SERVICE_HOSTNAME_MAX`. -/
abbrev mdnsServiceHostnameMax : Nat := 64

/-- An ASCII letter in lower case. -/
def toLower (byte : UInt8) : UInt8 := if 0x41 ≤ byte && byte ≤ 0x5A then byte + 0x20 else byte

/-- `strncasecmp()` on strings of the compared length. -/
def isCaseEqual (left right : List UInt8) : Bool := left.map toLower = right.map toLower

/-- `IsLocalHostMatch()`, for a host name that is not null. -/
def isLocalHostMatch (host hostname : List UInt8) : Bool :=
  let name := hostname.take mdnsServiceHostnameMax
  let suffix := ascii ".local"
  if name.length = 0 ∨ name.length = mdnsServiceHostnameMax ∨
      host.length ≠ name.length + suffix.length then false
  else isCaseEqual (host.take name.length) name && isCaseEqual (host.drop name.length) suffix

/-- The octet at an index of an address in network byte order, as it lies in memory. -/
def octet (stationIpv4 : UInt32) (index : Nat) : UInt32 :=
  (stationIpv4 >>> (8 * index).toUInt32) &&& 0xFF

/-- One octet of `IsAddressHostMatch()`: the text behind its digits. -/
def matchOctet (host : List UInt8) (octet : UInt32) : Option (List UInt8) :=
  let digits := (host.take 3).takeWhile isDigit
  let value : UInt32 := digits.foldl (fun value digit => value * 10 + (digit.toUInt32 - 0x30)) 0
  if digits.length = 0 ∨ (digits.length > 1 ∧ digits.getD 0 0 = 0x30) ∨ value ≠ octet then none
  else some (host.drop digits.length)

/-- The dot before an octet of `IsAddressHostMatch()`. -/
def matchDot (host : List UInt8) : Option (List UInt8) :=
  if host.getD 0 0 = 0x2E then some (host.drop 1) else none

/-- `IsAddressHostMatch()`. -/
def isAddressHostMatch (host : List UInt8) (stationIpv4 : UInt32) : Bool :=
  if stationIpv4 = 0 then false
  else
    let rest := matchOctet host (octet stationIpv4 0)
      >>= matchDot >>= fun host => matchOctet host (octet stationIpv4 1)
      >>= matchDot >>= fun host => matchOctet host (octet stationIpv4 2)
      >>= matchDot >>= fun host => matchOctet host (octet stationIpv4 3)
    rest = some []

/-- `IsHttpStationOriginAllowed()`. -/
def isHttpStationOriginAllowed (origin hostnameInUse : Option (List UInt8)) (stationIpv4 : UInt32) :
    Bool :=
  match origin with
  | none => true
  | some origin =>
    let scheme := ascii "http://"
    if origin.length > httpStationOriginMax ∨ origin.length ≤ scheme.length ∨
        !isCaseEqual (origin.take scheme.length) scheme then false
    else
      let host := origin.drop scheme.length
      let port := ascii ":80"
      let host := if host.length > port.length ∧ host.drop (host.length - port.length) = port then
        host.take (host.length - port.length) else host
      isLocalHostMatch host (ascii "rgb-tuner") ||
        hostnameInUse.any (fun hostname => isLocalHostMatch host hostname) ||
        isAddressHostMatch host stationIpv4

end StripTuner.HttpPortal
