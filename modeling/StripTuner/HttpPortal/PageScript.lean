import StripTuner.HttpPortal.ResultBody
import StripTuner.HttpPortal.Submissions
import StripTuner.HttpPortal.TunerPage
import StripTuner.Lib.SearchParams

/-!
# The script of the tuner page

The event handlers of `tuner_page.c`: Send, Read, an edit and Defaults, the replies to the page's
requests, and the timer between two polls. A text of the status line is a list of ASCII bytes. The
drawing of the pulses is not modelled: `show()` reads the inputs and writes nothing that is read.
-/

namespace StripTuner.HttpPortal

open PulseMonitor SearchParams Ws2812

/-! ## Inputs -/

inductive PageField where
  | b0h
  | b0p
  | b1h
  | b1p
  | rst

/-- The user gives an input a value. -/
def TunerPage.setValue (page : TunerPage) (value : Int) : PageField → TunerPage
  | .b0h => { page with b0h := { page.b0h with value := value } }
  | .b0p => { page with b0p := { page.b0p with value := value } }
  | .b1h => { page with b1h := { page.b1h with value := value } }
  | .b1p => { page with b1p := { page.b1p with value := value } }
  | .rst => { page with rst := { page.rst with value := value } }

/-- `i.value=i.defaultValue;i.setCustomValidity('')`. -/
def NumberInput.setDefault (input : NumberInput) (defaultValue : Int) : NumberInput :=
  { input with value := defaultValue, customError := false }

/-- The inputs as they are loaded. -/
def defaultPage : TunerPage := tunerPage 400 1250 800 1250 280

/-- The loop of the reset handler. -/
def TunerPage.reset (page : TunerPage) : TunerPage where
  b0h := page.b0h.setDefault 400
  b0p := page.b0p.setDefault 1250
  b1h := page.b1h.setDefault 800
  b1p := page.b1p.setDefault 1250
  rst := page.rst.setDefault 280

/-! ## Requests -/

/-- The high times that a Send set, as the inputs showed them. A Read sets none. -/
abbrev SetTimes : Type := Option (String × String)

/-- A request of the page. -/
inductive Fetch where
  | send (body h0 h1 : String)
  | read
  | result (n : String) (i : Nat) (set : SetTimes)

/-- What the script waits for: a reply, or the timer before the `i`-th poll. -/
inductive Job where
  | awaiting (k : Nat) (fetch : Fetch)
  | timer (k : Nat) (n : String) (i : Nat) (set : SetTimes)

/-- The generation that a job was started for. -/
def Job.generation : Job → Nat
  | .awaiting k _ | .timer k _ _ _ => k

/-- The request arrives as it was made. -/
def Fetch.Sends : Fetch → TunerRequest → Prop
  | .send body _ _, request =>
    request.path = .submit ∧ request.body = ascii body ∧
      request.contentLen = UInt32.ofNat (ascii body).length
  | .read, request => request.path = .read
  | .result n _ _, request => request.path = .result ∧ request.query = some (ascii ("seq=" ++ n))

/-! ## Texts -/

/-- `na`. -/
abbrev notAvailable : String := "Measurement not available"

/-- `P`. -/
def heading (set : SetTimes) : String := if set.isSome then "Sent\n" else "Read\n"

/-- A value in a concatenation. -/
def orNull (value : Option (List UInt8)) : List UInt8 := value.getD (ascii "null")

/-- The lines for `state=done` after a Send. -/
def doneLines (h0 h1 : String) (t : List UInt8) : List UInt8 :=
  let m := get t (ascii "match")
  ascii "Bit 0: " ++ ascii h0 ++ ascii " ns set, " ++ orNull (get t (ascii "b0")) ++
    ascii " ns measured\nBit 1: " ++ ascii h1 ++ ascii " ns set, " ++
    orNull (get t (ascii "b1")) ++ ascii " ns measured\nGRB match " ++
    if m = some (ascii "n/a") then orNull m else orNull m ++ ascii "/144"

/-- The line of a bit for `state=read` after a Read. -/
def readLine (b : String) (t : List UInt8) : List UInt8 :=
  let x := get t (ascii ("b" ++ b ++ "h"))
  ascii ("Bit " ++ b ++ ": ") ++
    if x = some (ascii "n/a") then ascii "not found"
    else
      ascii "high " ++ orNull x ++ ascii " ns, period " ++
        orNull (get t (ascii ("b" ++ b ++ "p"))) ++ ascii " ns"

/-- The table of texts, with `na` for every other state. -/
def fixedText (s : Option (List UInt8)) : String :=
  if s = some (ascii "timeout") then "Measurement failed: no signal"
  else if s = some (ascii "count_error") then "Measurement failed: bad capture"
  else if s = some (ascii "not_measured") then "Not measured"
  else if s = some (ascii "superseded") then "Superseded by a newer send"
  else notAvailable

/-- The text behind the heading, from the body of a result. -/
def pollText (set : SetTimes) (t : List UInt8) : List UInt8 :=
  let s := get t (ascii "state")
  match set with
  | some (h0, h1) =>
    if s = some (ascii "done") then doneLines h0 h1 t else ascii (fixedText s)
  | none =>
    if s = some (ascii "read") then readLine "0" t ++ ascii "\n" ++ readLine "1" t
    else ascii (fixedText s)

/-! ## Handlers -/

/-- The variables of the script: the inputs, `g`, and the text of the status line. -/
structure Script where
  inputs : TunerPage
  g : Nat
  status : List UInt8

/-- The page as it is loaded. -/
def Script.load : Script := ⟨defaultPage, 0, []⟩

namespace Script

/-- `w()`. -/
def write (s : Script) (k : Nat) (t : List UInt8) : Script :=
  if k = s.g then { s with status := t } else s

/-- `stop()`. -/
def stop (s : Script) : Script := { s with g := s.g + 1, status := [] }

/-- The `input` listener of the form. -/
def onInput (s : Script) (field : PageField) (value : Int) : Script :=
  { s.stop with inputs := s.inputs.setValue value field }

/-- The `reset` listener of the form. -/
def onReset (s : Script) : Script := { s.stop with inputs := s.inputs.reset }

/-- `onclick` of Send. -/
def onSendClick (s : Script) : Script × Option Job :=
  let k := s.g + 1
  let inputs := (valid s.inputs).1
  match onSend s.inputs with
  | .refused text => (⟨inputs, k, ascii text⟩, none)
  | .posted body =>
    (⟨inputs, k, ascii "Sending..."⟩,
      some (.awaiting k (.send body inputs.b0h.text inputs.b1h.text)))

/-- `onclick` of Read. -/
def onReadClick (s : Script) : Script × Option Job :=
  let k := s.g + 1
  ({ s with g := k, status := ascii "Reading..." }, some (.awaiting k .read))

/-- The callback of the timer: the poll, unless the generation is over. -/
def onTimer (s : Script) (k : Nat) (n : String) (i : Nat) (set : SetTimes) : Option Job :=
  if k ≠ s.g then none else some (.awaiting k (.result n i set))

/-- `r.ok`: the status is one of 200 to 299. -/
def isOk (reply : TunerReply) : Bool := reply.status.toList.head? = some '2'

/-- The header `Tuner-Seq`, unless it is empty or missing. -/
def seqOf (reply : TunerReply) : Option String := reply.tunerSeq.filter (· ≠ "")

/-- The callbacks of a reply that arrived whole. -/
def onReply (s : Script) (k : Nat) (reply : TunerReply) : Fetch → Script × Option Job
  | .send _ h0 h1 =>
    if !isOk reply then (s.write k (ascii reply.body), none)
    else
      match seqOf reply with
      | some n => (s.write k (ascii "Sent"), some (.timer k n 1 (some (h0, h1))))
      | none => (s.write k (ascii ("Sent\n" ++ notAvailable)), none)
  | .read =>
    if !isOk reply then (s.write k (ascii reply.body), none)
    else
      match seqOf reply with
      | some n => (s, some (.timer k n 1 none))
      | none => (s.write k (ascii ("Read\n" ++ notAvailable)), none)
  | .result n i set =>
    let t := if isOk reply then ascii reply.body else []
    if get t (ascii "state") = some (ascii "pending") ∧ i < 8 then
      (s, some (.timer k n (i + 1) set))
    else (s.write k (ascii (heading set) ++ pollText set t), none)

/-- The `catch()` of a request. -/
def onFailure (s : Script) (k : Nat) : Fetch → Script
  | .send _ _ _ => s.write k (ascii "Send failed, check connection")
  | .read => s.write k (ascii "Read failed, check connection")
  | .result _ _ set => s.write k (ascii (heading set ++ notAvailable))

end Script

/-! ## What a result reads as -/

/-- The line of a bit after a Read. -/
def readShown (b : String) (highNs periodNs : UInt32) : String :=
  "Bit " ++ b ++ ": " ++
    if highNs = 0 then "not found"
    else "high " ++ highNs.toNat.repr ++ " ns, period " ++ periodNs.toNat.repr ++ " ns"

/-- The text behind the heading, from what was measured. -/
def shownText (set : SetTimes) (state : TunerResultState) (record : Ws2812Measurement) : String :=
  match set, state with
  | some (h0, h1), .done =>
    "Bit 0: " ++ h0 ++ " ns set, " ++ record.bit0HighAvgNs.toNat.repr ++
      " ns measured\nBit 1: " ++ h1 ++ " ns set, " ++ record.bit1HighAvgNs.toNat.repr ++
      " ns measured\nGRB match " ++
      if record.matchAvailable then record.matchCount.toNat.repr ++ "/144" else "n/a"
  | none, .read =>
    readShown "0" record.bit0HighAvgNs record.bit0PeriodAvgNs ++ "\n" ++
      readShown "1" record.bit1HighAvgNs record.bit1PeriodAvgNs
  | _, .timeout => "Measurement failed: no signal"
  | _, .countError => "Measurement failed: bad capture"
  | _, .notMeasured => "Not measured"
  | _, .superseded => "Superseded by a newer send"
  | _, .pending | _, .unknown | none, .done | some _, .read => notAvailable

section Shown

variable (state : TunerResultState) (record : Ws2812Measurement)

theorem literal_digits (n : Nat) : Literal (Decimal.digits n) := by
  have hall := Decimal.all_isDigit_digits n
  refine ⟨plain_digits n, ?_, ?_⟩ <;> intro hmem <;>
    exact absurd (List.all_eq_true.1 hall _ hmem) (by decide)

theorem literal_readValue (valueNs highNs : UInt32) : Literal (readValue valueNs highNs) := by
  rw [readValue]
  split
  · decide
  · exact literal_digits _

theorem literal_resultFields :
    ∀ pair ∈ resultFields state record, Literal pair.1 ∧ Literal pair.2 := by
  have hname : Literal (ascii (stateName state)) := by cases state <;> decide
  have hkeys : ∀ key ∈ ["state", "b0", "b1", "match", "b0h", "b0p", "b1h", "b1p"],
      Literal (ascii key) := by decide
  rw [resultFields, List.forall_mem_cons]
  refine ⟨⟨hkeys "state" (by decide), hname⟩, ?_⟩
  cases state with
  | read =>
      simp only [valueFields, List.forall_mem_cons]
      exact ⟨⟨hkeys "b0h" (by decide), literal_readValue ..⟩,
        ⟨hkeys "b0p" (by decide), literal_readValue ..⟩,
        ⟨hkeys "b1h" (by decide), literal_readValue ..⟩,
        ⟨hkeys "b1p" (by decide), literal_readValue ..⟩, by simp⟩
  | done =>
      have hcount : Literal (if record.matchAvailable then
          Decimal.digits record.matchCount.toNat else ascii "n/a") := by
        split
        · exact literal_digits _
        · decide
      simp only [valueFields, List.forall_mem_cons]
      exact ⟨⟨hkeys "b0" (by decide), literal_digits _⟩,
        ⟨hkeys "b1" (by decide), literal_digits _⟩, ⟨hkeys "match" (by decide), hcount⟩, by simp⟩
  | pending | timeout | countError | notMeasured | superseded | unknown => simp [valueFields]

/-- The page finds the fields that the firmware wrote. -/
theorem get_resultText (name : List UInt8) :
    get (ascii (resultText state record)) name = (resultFields state record).lookup name := by
  unfold SearchParams.get
  rw [ascii_resultText, pairs_form (by simp [resultFields]) (literal_resultFields state record)]

theorem get_state :
    get (ascii (resultText state record)) (ascii "state") = some (ascii (stateName state)) := by
  rw [get_resultText, resultFields, List.lookup_cons, beq_self_eq_true]

theorem readLine_eq (b : String) {t : List UInt8} (highNs periodNs : UInt32)
    (hhigh : get t (ascii ("b" ++ b ++ "h")) = some (readValue highNs highNs))
    (hperiod : get t (ascii ("b" ++ b ++ "p")) = some (readValue periodNs highNs)) :
    readLine b t = ascii (readShown b highNs periodNs) := by
  rw [readLine, readShown, hhigh, hperiod]
  by_cases hzero : highNs = 0
  · simp [hzero, readValue, ascii_append]
  · have hne : Decimal.digits highNs.toNat ≠ ascii "n/a" := by
      intro h
      have hall := Decimal.all_isDigit_digits highNs.toNat
      rw [h] at hall
      exact absurd hall (by decide)
    simp [hzero, readValue, hne, orNull, ascii_append, ascii_repr]

/-- The page shows what was measured. -/
theorem pollText_resultText (set : SetTimes) :
    pollText set (ascii (resultText state record)) = ascii (shownText set state record) := by
  have hstate := get_state state record
  have hfield := get_resultText state record
  cases state with
  | done =>
      cases set with
      | none =>
          rw [pollText, hstate]
          rfl
      | some times =>
          obtain ⟨h0, h1⟩ := times
          have hb0 : get (ascii (resultText .done record)) (ascii "b0") =
              some (Decimal.digits record.bit0HighAvgNs.toNat) := by
            rw [hfield]
            rfl
          have hb1 : get (ascii (resultText .done record)) (ascii "b1") =
              some (Decimal.digits record.bit1HighAvgNs.toNat) := by
            rw [hfield]
            rfl
          have hmatch : get (ascii (resultText .done record)) (ascii "match") =
              some (if record.matchAvailable then Decimal.digits record.matchCount.toNat
                else ascii "n/a") := by
            rw [hfield]
            rfl
          have hdone : ascii (stateName .done) = ascii "done" := rfl
          simp only [pollText, hstate, hdone, if_true, doneLines, hb0, hb1, hmatch, shownText,
            ascii_append, ascii_repr, orNull, Option.getD_some]
          by_cases havailable : record.matchAvailable = true
          · have hne : Decimal.digits record.matchCount.toNat ≠ ascii "n/a" := by
              intro h
              have hall := Decimal.all_isDigit_digits record.matchCount.toNat
              rw [h] at hall
              exact absurd hall (by decide)
            simp [havailable, hne, ascii_append, ascii_repr]
          · simp [havailable]
  | read =>
      cases set with
      | some times =>
          obtain ⟨h0, h1⟩ := times
          rw [pollText, hstate]
          rfl
      | none =>
          have hread : ascii (stateName .read) = ascii "read" := rfl
          have h0 := readLine_eq "0" record.bit0HighAvgNs record.bit0PeriodAvgNs (hfield _)
            (hfield _)
          have h1 := readLine_eq "1" record.bit1HighAvgNs record.bit1PeriodAvgNs (hfield _)
            (hfield _)
          simp only [pollText, hstate, hread, if_true, h0, h1, shownText, ascii_append]
  | pending | timeout | countError | notMeasured | superseded | unknown =>
      cases set <;> rw [pollText, hstate] <;> rfl

end Shown

end StripTuner.HttpPortal
