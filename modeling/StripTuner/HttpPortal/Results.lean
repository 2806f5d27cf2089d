import Mathlib.Data.List.Induction
import StripTuner.HttpPortal.Exchanges

/-!
# The served results

The state served for a number never goes back. Every body fits its buffer, so the text shows the
state; the state compares the number with that of the stored record, which only grows.
-/

namespace StripTuner.HttpPortal

open DeviceCalls PulseMonitor

/-! ## Bodies -/

theorem length_repr_le (value : UInt32) : value.toNat.repr.toList.length ≤ 10 := by
  rw [String.length_toList]
  apply (Nat.length_repr_le_iff (by decide)).mpr
  have hlt := value.toNat_lt
  omega

theorem length_reprCount_le (value : UInt16) : value.toNat.repr.toList.length ≤ 5 := by
  rw [String.length_toList]
  apply (Nat.length_repr_le_iff (by decide)).mpr
  have hlt := value.toNat_lt
  omega

theorem length_formatReadValue_le (valueNs highNs : UInt32) :
    (formatReadValue valueNs highNs).toList.length ≤ 10 := by
  unfold formatReadValue
  by_cases hhigh : highNs = 0
  · simp [hhigh]
  · rw [if_neg hhigh]
    exact length_repr_le valueNs

/-- `TUNER_RESULT_BODY_MAX` fits every body. -/
theorem length_resultText_lt (state : TunerResultState) (record : Ws2812Measurement) :
    (resultText state record).length < tunerResultBodyMax := by
  have h0 := length_repr_le record.bit0HighAvgNs
  have h1 := length_repr_le record.bit1HighAvgNs
  have hcount := length_reprCount_le record.matchCount
  have hread := length_formatReadValue_le
  show _ < 96
  rw [← String.length_toList]
  unfold resultText
  by_cases hisRead : state = .read
  · have hb0 := hread record.bit0HighAvgNs record.bit0HighAvgNs
    have hp0 := hread record.bit0PeriodAvgNs record.bit0HighAvgNs
    have hb1 := hread record.bit1HighAvgNs record.bit1HighAvgNs
    have hp1 := hread record.bit1PeriodAvgNs record.bit1HighAvgNs
    rw [if_pos hisRead]
    simp only [String.toList_append, List.length_append]
    have htexts : "state=read&b0h=".toList.length = 15 ∧ "&b0p=".toList.length = 5 ∧
        "&b1h=".toList.length = 5 ∧ "&b1p=".toList.length = 5 := by decide
    omega
  rw [if_neg hisRead]
  by_cases hdone : state = .done
  · have htexts : "state=done&b0=".toList.length = 14 ∧ "&b1=".toList.length = 4 ∧
        "&match=".toList.length = 7 ∧ "&match=n/a".toList.length = 10 := by decide
    simp only [hdone, ne_eq, not_true_eq_false, if_false]
    split <;> simp only [String.toList_append, List.length_append] <;> omega
  · rw [if_pos hdone]
    cases state <;> decide

theorem formatTunerResult_eq (state : TunerResultState) (record : Ws2812Measurement) :
    formatTunerResult state record tunerResultBodyMax = resultText state record :=
  if_neg (Nat.not_le.mpr (length_resultText_lt state record))

/-- The order in which the states of one number are served. -/
def TunerResultState.rank : TunerResultState → Nat
  | .unknown => 0
  | .pending => 1
  | .superseded => 3
  | .done | .timeout | .countError | .notMeasured | .read => 2

/-- The same, read off the body. -/
def servedRank (body : String) : Nat :=
  if body = "state=unknown" then 0
  else if body = "state=pending" then 1
  else if body = "state=superseded" then 3
  else 2

/-- The first letter after `state=` tells the outcomes from the other states. -/
theorem servedRank_of_letter {body : String} (letter : Char)
    (hletter : letter ≠ 'u' ∧ letter ≠ 'p' ∧ letter ≠ 's')
    (hbody : body.toList[6]? = some letter) : servedRank body = 2 := by
  have hne : ∀ text : String, text.toList[6]? ≠ some letter → body ≠ text := by
    rintro text htext rfl
    exact htext hbody
  obtain ⟨hu, hp, hs⟩ := hletter
  unfold servedRank
  rw [if_neg (hne _ ?_), if_neg (hne _ ?_), if_neg (hne _ ?_)]
  · simpa using hs.symm
  · simpa using hp.symm
  · simpa using hu.symm

theorem servedRank_resultText (state : TunerResultState) (record : Ws2812Measurement) :
    servedRank (resultText state record) = state.rank := by
  cases state with
  | unknown | pending | superseded | timeout | countError | notMeasured => rfl
  | read =>
      apply servedRank_of_letter 'r' (by decide)
      simp [resultText, String.toList_append]
  | done =>
      apply servedRank_of_letter 'd' (by decide)
      unfold resultText
      simp only [ne_eq, not_true_eq_false, if_false, reduceCtorEq]
      split <;> simp [String.toList_append]

/-! ## The stored record -/

/-- `s_result.submit_seq` after these publications. -/
def storedSeq (published : List Ws2812Measurement) : UInt32 :=
  ((stored published).getD zeroMeasurement).submitSeq

/-- The record most recently published with the number. -/
def lastPublished (seq : UInt32) (published : List Ws2812Measurement) : Option Ws2812Measurement :=
  (published.filter (·.submitSeq = seq)).getLast?

theorem storedSeq_snoc (published : List Ws2812Measurement) (measurement : Ws2812Measurement) :
    storedSeq published ≤ storedSeq (published ++ [measurement]) ∧
      measurement.submitSeq ≤ storedSeq (published ++ [measurement]) := by
  unfold storedSeq
  rw [stored_snoc, Option.getD_some]
  unfold storeResult
  dsimp only
  by_cases hnew : measurement.submitSeq ≥ ((stored published).getD zeroMeasurement).submitSeq
  · rw [if_pos hnew]
    exact ⟨hnew, UInt32.le_refl _⟩
  · rw [if_neg hnew]
    exact ⟨UInt32.le_refl _, UInt32.le_of_lt (UInt32.not_le.mp hnew)⟩

theorem storedSeq_mono {published later : List Ws2812Measurement} (h : published <+: later) :
    storedSeq published ≤ storedSeq later := by
  obtain ⟨new, rfl⟩ := h
  induction new using List.reverseRecOn with
  | nil => simp
  | append_singleton new measurement ih =>
      rw [← List.append_assoc]
      exact UInt32.le_trans ih (storedSeq_snoc _ _).1

theorem le_storedSeq {published : List Ws2812Measurement} {measurement : Ws2812Measurement}
    (h : measurement ∈ published) : measurement.submitSeq ≤ storedSeq published := by
  obtain ⟨before, after, rfl⟩ := List.append_of_mem h
  have hsnoc := (storedSeq_snoc before measurement).2
  have hextends : before ++ [measurement] <+: before ++ measurement :: after :=
    ⟨after, by simp⟩
  exact UInt32.le_trans hsnoc (storedSeq_mono hextends)

/-- The stored record is the last one published with its number. -/
theorem stored_last {published : List Ws2812Measurement} {record : Ws2812Measurement}
    (h : stored published = some record) :
    lastPublished record.submitSeq published = some record := by
  induction published using List.reverseRecOn generalizing record with
  | nil => cases h
  | append_singleton published measurement ih =>
      rw [stored_snoc] at h
      obtain rfl := Option.some.inj h
      unfold storeResult lastPublished
      dsimp only
      by_cases hnew : measurement.submitSeq ≥ ((stored published).getD zeroMeasurement).submitSeq
      · simp [hnew]
      · rw [if_neg hnew, List.filter_append]
        have hne : measurement.submitSeq ≠
            ((stored published).getD zeroMeasurement).submitSeq := by
          intro heq
          exact hnew (UInt32.le_of_eq heq.symm)
        have hdrop : [measurement].filter
            (·.submitSeq = ((stored published).getD zeroMeasurement).submitSeq) = [] := by
          simp [hne]
        rw [hdrop, List.append_nil]
        cases hstored : stored published with
        | none =>
            -- the first publication is always stored
            rw [hstored] at hnew
            exact absurd (UInt32.zero_le) hnew
        | some record => exact ih hstored

theorem mem_of_stored {published : List Ws2812Measurement} {record : Ws2812Measurement}
    (h : stored published = some record) : record ∈ published := by
  have hlast := List.mem_of_getLast? (stored_last h)
  exact List.mem_of_mem_filter hlast

/-! ## Served states -/

/-- The request asks for the number. -/
def Exchange.AsksFor (e : Exchange) (n : UInt32) : Prop :=
  e.request.path = .result ∧ requestedSeq e.request = some n

/-- The state served for a number, by the number stored. -/
def servedState (n : UInt32) (issued : Nat) (published : List Ws2812Measurement) :
    TunerResultState :=
  getTunerResultState n (UInt32.ofNat issued) ((stored published).getD zeroMeasurement)

theorem resultBody_eq (n : UInt32) (issued : Nat) (published : List Ws2812Measurement) :
    resultBody n (UInt32.ofNat issued) published =
      resultText (servedState n issued published) ((stored published).getD zeroMeasurement) :=
  formatTunerResult_eq _ _

theorem lt_ofNat_iff {n : UInt32} {issued : Nat} (hissued : issued < 2 ^ 32) :
    n > UInt32.ofNat issued ↔ issued < n.toNat := by
  rw [gt_iff_lt, UInt32.lt_iff_toNat_lt, UInt32.toNat_ofNat_of_lt' hissued]

section States

variable {n : UInt32} {issued : Nat} {published : List Ws2812Measurement}

theorem servedState_unissued (hissued : issued < 2 ^ 32) (h : n = 0 ∨ issued < n.toNat) :
    servedState n issued published = .unknown := by
  rw [← lt_ofNat_iff hissued] at h
  exact if_pos h

theorem servedState_issued (hissued : issued < 2 ^ 32) (h : ¬ (n = 0 ∨ issued < n.toNat)) :
    servedState n issued published =
      if storedSeq published = n then
        outcomeState ((stored published).getD zeroMeasurement).state
      else if storedSeq published > n then .superseded else .pending := by
  rw [← lt_ofNat_iff hissued] at h
  exact if_neg h

theorem rank_outcomeState (state : Ws2812MeasurementState) : (outcomeState state).rank = 2 := by
  cases state <;> decide

theorem rank_servedState (hissued : issued < 2 ^ 32) :
    (servedState n issued published).rank =
      if n = 0 ∨ issued < n.toNat then 0
      else if storedSeq published = n then 2
      else if storedSeq published > n then 3 else 1 := by
  by_cases hunissued : n = 0 ∨ issued < n.toNat
  · rw [servedState_unissued hissued hunissued, if_pos hunissued]
    decide
  · rw [servedState_issued hissued hunissued, if_neg hunissued]
    split
    · exact rank_outcomeState _
    · split <;> decide

/-- More submissions and more publications only move the state forward. -/
theorem rank_servedState_mono {issued' : Nat} {later : List Ws2812Measurement}
    (hle : issued ≤ issued') (hissued : issued' < 2 ^ 32) (hextends : published <+: later) :
    (servedState n issued published).rank ≤ (servedState n issued' later).rank := by
  have hseq := UInt32.le_iff_toNat_le.mp (storedSeq_mono hextends)
  rw [rank_servedState hissued, rank_servedState (Nat.lt_of_le_of_lt hle hissued)]
  by_cases hunissued : n = 0 ∨ issued < n.toNat
  · simp [hunissued]
  have hissued' : ¬ (n = 0 ∨ issued' < n.toNat) := by
    rintro (hzero | hlt)
    · exact hunissued (.inl hzero)
    · exact hunissued (.inr (Nat.lt_of_le_of_lt hle hlt))
  rw [if_neg hunissued, if_neg hissued']
  simp only [gt_iff_lt, UInt32.lt_iff_toNat_lt, ← UInt32.toNat_inj]
  by_cases hsame : (storedSeq published).toNat = n.toNat
  · rw [if_pos hsame]
    split <;> grind
  · rw [if_neg hsame]
    grind

end States

/-! ## Served bodies -/

/-- What is served for the number, by what was published and issued when the record was read. -/
structure Serves (n : UInt32) (e : Exchange) (body : String) : Prop where
  unknown : body = "state=unknown" ↔ n = 0 ∨ e.issued < n.toNat
  pending : body = "state=pending" → ∀ record ∈ e.published, record.submitSeq < n
  outcome : servedRank body = 2 → ∃ record,
    lastPublished n e.published = some record ∧
      body = resultText (outcomeState record.state) record
  superseded : body = "state=superseded" → ∃ record ∈ e.published, n < record.submitSeq

theorem serves_resultBody {n : UInt32} {e : Exchange} (hissued : e.issued < 2 ^ 32) :
    Serves n e (resultBody n (UInt32.ofNat e.issued) e.published) := by
  have hrank : servedRank (resultBody n (UInt32.ofNat e.issued) e.published) =
      if n = 0 ∨ e.issued < n.toNat then 0
      else if storedSeq e.published = n then 2
      else if storedSeq e.published > n then 3 else 1 := by
    rw [resultBody_eq, servedRank_resultText, rank_servedState hissued]
  by_cases hunissued : n = 0 ∨ e.issued < n.toNat
  · have hbody : resultBody n (UInt32.ofNat e.issued) e.published = "state=unknown" := by
      rw [resultBody_eq, servedState_unissued hissued hunissued]
      rfl
    rw [hbody]
    exact ⟨⟨fun _ => hunissued, fun _ => rfl⟩, fun h => absurd h (by decide),
      fun h => absurd h (by decide), fun h => absurd h (by decide)⟩
  rw [if_neg hunissued] at hrank
  refine ⟨⟨fun hbody => ?_, fun h => absurd h hunissued⟩, fun hbody record hrecord => ?_,
    fun hbody => ?_, fun hbody => ?_⟩
  · have hzero : servedRank "state=unknown" = 0 := by decide
    rw [hbody, hzero] at hrank
    split at hrank
    · cases hrank
    · split at hrank <;> cases hrank
  · have hone : servedRank "state=pending" = 1 := by decide
    rw [hbody, hone] at hrank
    have hle := UInt32.le_iff_toNat_le.mp (le_storedSeq hrecord)
    rw [UInt32.lt_iff_toNat_lt]
    simp only [gt_iff_lt, UInt32.lt_iff_toNat_lt, ← UInt32.toNat_inj] at hrank
    grind
  · rw [hbody] at hrank
    have hsame : storedSeq e.published = n := by grind
    have hpos : n ≠ 0 := fun hzero => hunissued (.inl hzero)
    unfold storedSeq at hsame
    cases hstored : stored e.published with
    | none =>
        rw [hstored] at hsame
        exact absurd hsame.symm hpos
    | some record =>
        rw [hstored, Option.getD_some] at hsame
        refine ⟨record, hsame ▸ stored_last hstored, ?_⟩
        rw [resultBody_eq, servedState_issued hissued hunissued]
        simp [storedSeq, hstored, hsame]
  · have hthree : servedRank "state=superseded" = 3 := by decide
    rw [hbody, hthree] at hrank
    have hgt : storedSeq e.published > n := by grind
    unfold storedSeq at hgt
    cases hstored : stored e.published with
    | none =>
        rw [hstored] at hgt
        exact absurd hgt (UInt32.not_lt.mpr UInt32.zero_le)
    | some record =>
        rw [hstored, Option.getD_some] at hgt
        exact ⟨record, mem_of_stored hstored, hgt⟩

/-! ## Runs -/

/-- The results among the answered requests. -/
structure ResultsServed (x : Server) : Prop where
  counted : ∀ p ∈ x.answered, ∀ n, p.1.AsksFor n → p.1.issued ≤ x.issued
  bodies : ∀ p ∈ x.answered, ∀ n, p.1.AsksFor n →
    p.2 = tunerReply "200 OK" (resultBody n (UInt32.ofNat p.1.issued) p.1.published)
  ordered : x.answered.Pairwise fun p q => ∀ n, p.1.AsksFor n → q.1.AsksFor n →
    p.1.issued ≤ q.1.issued ∧ p.1.published <+: q.1.published

theorem ResultsServed.answer {x y : Server} {e : Exchange} {reply : TunerReply}
    (h : ResultsServed x) (hissued : x.issued ≤ y.issued)
    (hanswered : y.answered = x.answered ++ [(e, reply)])
    (hnew : ∀ n, e.AsksFor n → e.issued = x.issued ∧ x.Saw e.published ∧
      reply = tunerReply "200 OK" (resultBody n (UInt32.ofNat e.issued) e.published)) :
    ResultsServed y := by
  refine ⟨fun p hp n hasks => ?_, fun p hp n hasks => ?_, ?_⟩
  · rcases List.mem_append.mp (hanswered ▸ hp) with hold | hlast
    · exact Nat.le_trans (h.counted p hold n hasks) hissued
    · obtain rfl := List.mem_singleton.mp hlast
      exact Nat.le_trans (Nat.le_of_eq (hnew n hasks).1) hissued
  · rcases List.mem_append.mp (hanswered ▸ hp) with hold | hlast
    · exact h.bodies p hold n hasks
    · obtain rfl := List.mem_singleton.mp hlast
      exact (hnew n hasks).2.2
  · rw [hanswered]
    apply List.pairwise_append.mpr ⟨h.ordered, List.pairwise_singleton _ _, ?_⟩
    intro p hp q hq n hasks hasks'
    obtain rfl := List.mem_singleton.mp hq
    obtain ⟨hsame, hsaw, -⟩ := hnew n hasks'
    exact ⟨Nat.le_trans (h.counted p hp n hasks) (Nat.le_of_eq hsame.symm), hsaw p hp⟩

/-- Between two requests the counter is the number of submissions. -/
structure Counting (x : Server) : Prop where
  submitSeq : x.submitSeq = UInt32.ofNat x.issued
  results : ResultsServed x

theorem issue_submitSeq {x : Server} (h : x.submitSeq = UInt32.ofNat x.issued) :
    x.issue.submitSeq = UInt32.ofNat x.issue.issued := by
  show x.submitSeq + 1 = UInt32.ofNat (x.issued + 1)
  rw [h, UInt32.ofNat_add]
  rfl

theorem Counting.answer {x y : Server} {e : Exchange} {reply : TunerReply} (h : Counting x)
    (hanswer : Answer x e reply y) : Counting y := by
  have hother : e.request.path ≠ .result ∨ requestedSeq e.request = none → ∀ n, e.AsksFor n →
      e.issued = x.issued ∧ x.Saw e.published ∧
        reply = tunerReply "200 OK" (resultBody n (UInt32.ofNat e.issued) e.published) := by
    rintro hno n ⟨hpath, hseq⟩
    rcases hno with hpath' | hseq'
    · exact absurd hpath hpath'
    · rw [hseq'] at hseq
      cases hseq
  cases hanswer with
  | forbidden _ hpath _ _ =>
      exact ⟨h.submitSeq, h.results.answer (Nat.le_refl _) rfl (hother (.inl hpath))⟩
  | rejected hpath _ _ _ =>
      exact ⟨h.submitSeq, h.results.answer (Nat.le_refl _) rfl (hother (.inl (by simp [hpath])))⟩
  | sent hpath _ _ _ | reading hpath _ =>
      exact ⟨issue_submitSeq h.submitSeq,
        h.results.answer (Nat.le_succ _) rfl (hother (.inl (by simp [hpath])))⟩
  | malformed hpath hseq _ =>
      exact ⟨h.submitSeq, h.results.answer (Nat.le_refl _) rfl (hother (.inr hseq))⟩
  | result hpath hseq _ hsaw hissued =>
      refine ⟨h.submitSeq, h.results.answer (Nat.le_refl _) rfl ?_⟩
      rintro n ⟨-, hn⟩
      obtain rfl := Option.some.inj (hseq.symm.trans hn)
      exact ⟨hissued, hsaw, by rw [h.submitSeq, hissued]⟩

theorem PortalRun.resultsServed {c : Serving Unit × Portal} (hrun : PortalRun c) :
    ResultsServed c.2.server := by
  refine (hrun.holds (I := Counting) ?_ ?_ (fun _ h => h.results) ?_).2
  · exact ⟨rfl, fun _ h => absurd h List.not_mem_nil, fun _ h => absurd h List.not_mem_nil,
      List.Pairwise.nil⟩
  · intro x e reply y h hanswer
    exact h.answer hanswer
  · intro x y hopen h
    refine ⟨fun p hp n hasks => ?_, ?_, ?_⟩
    · rw [hopen.answered] at hp
      exact Nat.le_trans (h.counted p hp n hasks) hopen.issued
    · rw [hopen.answered]
      exact h.bodies
    · rw [hopen.answered]
      exact h.ordered

/-- In every run with fewer than 2^32 submissions, the body served for a number says what was
published for it, and for one number the states are served in the order of `servedRank`. -/
theorem tuner_result_settles {c : Serving Unit × Portal} (hrun : PortalRun c)
    (hfew : c.2.server.issued < 2 ^ 32) :
    (∀ p ∈ c.2.server.answered, ∀ n, p.1.AsksFor n →
      p.2.status = "200 OK" ∧ Serves n p.1 p.2.body) ∧
    c.2.server.answered.Pairwise fun p q => ∀ n, p.1.AsksFor n → q.1.AsksFor n →
      servedRank p.2.body ≤ servedRank q.2.body := by
  have hserved := hrun.resultsServed
  have hissued : ∀ p ∈ c.2.server.answered, ∀ n, p.1.AsksFor n → p.1.issued < 2 ^ 32 :=
    fun p hp n hasks => Nat.lt_of_le_of_lt (hserved.counted p hp n hasks) hfew
  constructor
  · intro p hp n hasks
    rw [hserved.bodies p hp n hasks, tunerReply_status, tunerReply_body]
    exact ⟨rfl, serves_resultBody (hissued p hp n hasks)⟩
  · refine hserved.ordered.imp_of_mem ?_
    intro p q hp hq hordered n hasks hasks'
    obtain ⟨hle, hextends⟩ := hordered n hasks hasks'
    rw [hserved.bodies p hp n hasks, hserved.bodies q hq n hasks', tunerReply_body,
      tunerReply_body, resultBody_eq, resultBody_eq, servedRank_resultText, servedRank_resultText]
    exact rank_servedState_mono hle (hissued q hq n hasks') hextends

/-- A reading is published, and then asked for. -/
def sampleReading : Ws2812Measurement where
  submitSeq := 1
  state := .readDone
  bit0HighAvgNs := 400
  bit0PeriodAvgNs := 1250

def firstResult : TunerRequest where
  path := .result
  query := some (ascii "seq=1")

theorem requestedSeq_firstResult : requestedSeq firstResult = some 1 := by
  have hfits : (ascii "seq=1").length < tunerResultQueryMax := by decide
  unfold requestedSeq
  rw [show firstResult.query = some (ascii "seq=1") from rfl, Option.filter_some, if_pos]
  · show parseTunerResultSeq (ascii "seq=1") = some 1
    rw [parseTunerResultSeq]
    decide
  · exact decide_eq_true hfits

/-- `GET /tuner/result` for the number, in the provisioning profile. -/
def Portal.askedFor (s : Portal) (request : TunerRequest) (n : UInt32) : Portal :=
  let record := s.result.getD zeroMeasurement
  let state := getTunerResultState n s.server.submitSeq record
  let reply := tunerReply "200 OK" (formatTunerResult state record tunerResultBodyMax)
  { s with server := ((s.server.accept .provisioning request).look s.published).reply reply }

theorem PortalRun.ask {s : Portal} {request : TunerRequest} {n : UInt32}
    (hrun : PortalRun (.ret (), s)) (hprofile : s.profile = .provisioning)
    (hpath : request.path = .result) (hseq : requestedSeq request = some n) :
    PortalRun (.ret (), s.askedFor request n) := by
  have hhandler : tunerHandler s.profile request = some (handleTunerResultRequest request) := by
    simp [tunerHandler, hprofile, hpath]
  apply hrun.serve hhandler
  unfold Portal.askedFor handleTunerResultRequest
  rw [hprofile, hseq]
  exact .call ⟨rfl, rfl⟩ (.call ⟨rfl, rfl⟩ (.call (r := ()) rfl (.ret _ _)))

/-- The reading is published before it is asked for. -/
theorem tuner_result_settles_reading :
    ∃ c, PortalRun c ∧ c.2.server.answered.map (·.2.body) =
        ["Reading", "state=read&b0h=400&b0p=1250&b1h=n/a&b1p=n/a"] ∧
      ∀ p ∈ c.2.server.answered, ∀ n, p.1.AsksFor n →
        p.2.status = "200 OK" ∧ Serves n p.1 p.2.body := by
  have hread := portalRun_started.read rfl
  have hpublished := hread.publish (.result (some sampleReading))
  have hserved := hpublished.ask rfl rfl requestedSeq_firstResult
  exact ⟨_, hserved, by decide, (tuner_result_settles hserved (by decide)).1⟩

end StripTuner.HttpPortal
