import StripTuner.Updater.StatusText

/-!
# The upload page

The script of `updater_page.c`. The page sends the selected file as the raw body of `POST /update`,
after a `GET /status` that did not tell of an upload.
-/

namespace StripTuner.Updater

/-- A selected file. -/
structure UploadFile where
  name : String
  content : List UInt8

/-- A request whose callbacks are still to come: `q` or `x` of the script, with the file. -/
inductive Transfer where
  | status (file : UploadFile)
  | update (file : UploadFile)

/-- The text of the status line, and the request that the script waits for; the button is disabled
while there is one. -/
structure UploadPage where
  text : String
  transfer : Option Transfer

/-- The largest file that the page sends. -/
abbrev uploadPageMaxBytes : Nat := 1114112

/-- `/\.bin$/i.test()`. -/
def isBinName (name : String) : Bool :=
  ".bin".toList <:+ name.toList.map Char.toLower

/-- The progress text of `loaded` bytes out of `total`; the quotient is below 2^53 and far from the
next integer, so the division of doubles rounds down to the same number. -/
def uploadingText (loaded total : Nat) : String :=
  "Uploading... " ++ (loaded * 100 / total).repr ++ " %"

/-- A status other than 200. -/
def isNot200 (status : String) : Bool := status.toList.take 4 ≠ "200 ".toList

namespace UploadPage

def load : UploadPage := ⟨"", none⟩

/-- `d()`. -/
def done (text : String) : UploadPage := ⟨text, none⟩

/-- `p()`. -/
def send (file : UploadFile) : UploadPage := ⟨"Uploading... 0 %", some (.update file)⟩

/-- `onclick` of the button, with the first selected file. -/
def onClick (page : UploadPage) : Option UploadFile → UploadPage
  | none => { page with text := "Select a .bin file" }
  | some file =>
    if !isBinName file.name then { page with text := "Not a .bin file" }
    else if file.content.length > uploadPageMaxBytes then { page with text := "Invalid size" }
    else { page with transfer := some (.status file) }

/-- `x.upload.onprogress`; the length of an empty body is not computable. -/
def onProgress (page : UploadPage) (loaded total : Nat) : UploadPage :=
  if total = 0 then page else { page with text := uploadingText loaded total }

/-- `onload` of a request. -/
def onLoad (status body : String) : Transfer → UploadPage
  | .status file =>
    if isNot200 status then done "Send failed, check connection"
    else if blocks body then done "Upload in progress"
    else send file
  | .update _ => done body

/-- `onerror` of a request. -/
def onError : Transfer → UploadPage
  | .status _ => done "Send failed, check connection"
  | .update _ => done "Send failed"

end UploadPage

/-! ## What the page writes -/

/-- The texts of the page itself. -/
def pageTexts : List String :=
  ["", "Select a .bin file", "Not a .bin file", "Invalid size", "Send failed",
    "Send failed, check connection"]

theorem uploadingText_zero (total : Nat) : uploadingText 0 total = "Uploading... 0 %" := by
  unfold uploadingText
  rw [Nat.zero_mul, Nat.zero_div]
  decide

/-- The percentage is no more than 100. -/
theorem uploadingText_eq {loaded total : Nat} (h : loaded ≤ total) :
    ∃ percent ≤ 100, uploadingText loaded total = "Uploading... " ++ percent.repr ++ " %" :=
  ⟨loaded * 100 / total, Nat.div_le_of_le_mul (Nat.mul_le_mul_right 100 h), rfl⟩

end StripTuner.Updater
