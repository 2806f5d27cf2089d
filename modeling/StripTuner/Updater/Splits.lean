import StripTuner.Updater.Delivery

/-!
# Uploads in pieces

The network hands an upload over in pieces of its own choice, with timeouts between them. The
receive loop ends in the same way for every split of one body, with `uploadOutcome` of the body.
-/

namespace StripTuner.Updater

open DeviceCalls DeviceCalls.Prog FwMeta

/-! ## A connection that delivers -/

/-- One receive and the timeouts before it. -/
structure Piece where
  timeouts : Nat
  bytes : List UInt8

/-- The pieces to come, the bytes received, and the bytes that `esp_ota_write()` has appended. -/
structure Line where
  pieces : List Piece
  consumed : List UInt8
  written : List UInt8

/-- The connection and the OTA driver. A receive returns no more bytes than wanted.
`esp_ota_write()` fails at most where the first byte of the image is not `0xE9`. -/
def line : Device FwCall FwCall.Answer Line
  | .recv wanted => fun s r t =>
    match s.pieces with
    | [] => r = .failed ∧ t = s
    | next :: rest =>
      if 0 < next.timeouts then
        r = .timeout ∧ t = { s with pieces := ⟨next.timeouts - 1, next.bytes⟩ :: rest }
      else
        r = .data (next.bytes.take wanted) ∧ t =
          { s with
            pieces := if next.bytes.length ≤ wanted then rest
              else ⟨0, next.bytes.drop wanted⟩ :: rest
            consumed := s.consumed ++ next.bytes.take wanted }
  | .otaWrite _ bytes => fun s r t =>
    (r = .ok ∧ t = { s with written := s.written ++ bytes }) ∨
      (r = .otaValidateFailed ∧ (s.written ++ bytes).head? ≠ some fwImageMagic ∧ t = s)
  | _ => fun s _ t => t = s

/-- A split of a body into receives of 1 to 4096 bytes, each after at most 5 timeouts. -/
structure IsSplit (pieces : List Piece) (body : List UInt8) : Prop where
  each : ∀ piece ∈ pieces, piece.timeouts ≤ fwUploadRecvRetries ∧ 1 ≤ piece.bytes.length ∧
    piece.bytes.length ≤ fwUploadChunkBytes
  whole : pieces.flatMap Piece.bytes = body

/-- The rest of a body comes in these pieces, after a number of timeouts so far. -/
structure Delivers (timeouts : Nat) (pieces : List Piece) (rest : List UInt8) : Prop where
  split : IsSplit pieces rest
  first : ∀ piece ∈ pieces.head?, timeouts + piece.timeouts ≤ fwUploadRecvRetries

theorem IsSplit.delivers {pieces : List Piece} {body : List UInt8} (h : IsSplit pieces body) :
    Delivers 0 pieces body := by
  refine ⟨h, fun piece hpiece => ?_⟩
  have htimeouts := (h.each piece (List.mem_of_mem_head? hpiece)).1
  omega

/-- A receive that still has bytes to deliver times out, or gives the next piece. -/
theorem wp_recv_line {timeouts : Nat} {rest : List UInt8} {s : Line}
    (h : Delivers timeouts s.pieces rest) (hne : rest ≠ []) {Q : RecvResult → Line → Prop}
    (htimeout : timeouts < fwUploadRecvRetries → ∀ pieces, Delivers (timeouts + 1) pieces rest →
      Q .timeout { s with pieces := pieces })
    (hdata : ∀ piece tail pieces, piece ≠ [] → rest = piece ++ tail → Delivers 0 pieces tail →
      Q (.data piece) { s with pieces := pieces, consumed := s.consumed ++ piece }) :
    (recv (min rest.length fwUploadChunkBytes)).wp line (fun _ _ => True) Q s := by
  rw [recv, wp_perform]
  refine ⟨trivial, fun r t ht => ?_⟩
  obtain ⟨pieces, consumed, written⟩ := s
  cases pieces with
  | nil => exact absurd h.split.whole.symm hne
  | cons next pieces =>
      have hnext := h.split.each next List.mem_cons_self
      have hfirst := h.first next rfl
      have hwhole : rest = next.bytes ++ pieces.flatMap Piece.bytes := h.split.whole.symm
      have hrest : IsSplit pieces (pieces.flatMap Piece.bytes) :=
        ⟨fun piece hpiece => h.split.each piece (List.mem_cons_of_mem _ hpiece), rfl⟩
      change if 0 < next.timeouts then _ else _ at ht
      split at ht
      · rename_i hpos
        obtain ⟨rfl, rfl⟩ := ht
        refine htimeout (by omega) _ ⟨⟨?_, h.split.whole⟩, ?_⟩
        · intro piece hpiece
          rcases List.mem_cons.mp hpiece with rfl | hpiece
          · exact ⟨by dsimp only; omega, hnext.2⟩
          · exact h.split.each piece (List.mem_cons_of_mem _ hpiece)
        · intro piece hpiece
          obtain rfl := Option.some.inj hpiece
          dsimp only
          omega
      · obtain ⟨rfl, rfl⟩ := ht
        have hfits : next.bytes.length ≤ min rest.length fwUploadChunkBytes := by
          rw [hwhole, List.length_append]
          omega
        rw [List.take_of_length_le hfits, if_pos hfits]
        refine hdata _ _ _ ?_ hwhole hrest.delivers
        exact List.length_pos_iff.mp hnext.2.1

/-! ## The outcome of a body -/

/-- What the loop makes of a whole body. -/
def uploadOutcome (body : List UInt8) : UploadResult :=
  if body.length < fwImageHeadLen then .rejectImage else checkImageHead (body.take fwImageHeadLen)

/-- The head check rejects what the OTA driver rejects, with the same result. -/
theorem uploadOutcome_of_not_magic {body : List UInt8} (h : body.head? ≠ some fwImageMagic) :
    uploadOutcome body = .rejectImage := by
  unfold uploadOutcome
  split
  · rfl
  · rename_i hlong
    rw [Nat.not_lt] at hlong
    have hlen : (body.take fwImageHeadLen).length = fwImageHeadLen := List.length_take_of_le hlong
    have hmagic : (body.take fwImageHeadLen).getD 0 0 ≠ fwImageMagic := by
      cases body with
      | nil => simp at hlong
      | cons byte body => simpa using h
    rw [checkImageHead, checkFwEmbeddedMeta, hlen, if_neg (Nat.lt_irrefl _), if_pos (.inl hmagic)]

/-- How the loop has ended. -/
structure Outcome (body : List UInt8) (outcome : UploadResult × List UInt8) (t : Line) : Prop where
  result : outcome.1 = uploadOutcome body
  accepted : outcome.1 = .ok → t.written = body ∧ fwImageHeadLen ≤ body.length ∧
    outcome.2 = body.take fwImageHeadLen
  rejected : outcome.1 ≠ .ok → t.written.length < fwImageHeadLen
  consumed : t.consumed = body

/-! ## The loops -/

theorem wp_discardBody_line (remaining timeouts : Nat) {rest : List UInt8} {s : Line}
    (hlen : remaining = rest.length) (h : Delivers timeouts s.pieces rest) :
    (discardBody remaining timeouts).wp line (fun _ _ => True)
      (fun _ t => t.consumed = s.consumed ++ rest ∧ t.written = s.written) s := by
  induction remaining, timeouts using discardBody.induct generalizing rest s with
  | case1 remaining timeouts hmore ihretry ihdata =>
      subst hlen
      rw [discardBody, dif_pos hmore, wp_bind]
      apply wp_recv_line h (List.length_pos_iff.mp hmore)
      · intro hretry pieces hpieces
        rw [dif_pos hretry]
        exact ihretry hretry (s := { s with pieces := pieces }) rfl hpieces
      · rintro piece tail pieces hpiece rfl hpieces
        have hclosed : ¬ piece.length = 0 := mt List.length_eq_zero_iff.mp hpiece
        dsimp only
        rw [dif_neg hclosed]
        have hrest : (piece ++ tail).length - piece.length = tail.length := by simp
        refine wp_mono (ihdata piece hclosed hrest hpieces) ?_
        rintro _ t ⟨hconsumed, hwritten⟩
        exact ⟨by rw [hconsumed, List.append_assoc], hwritten⟩
  | case2 remaining timeouts hdone =>
      obtain rfl : rest = [] := List.length_eq_zero_iff.mp (by omega)
      rw [discardBody, dif_neg hdone]
      exact ⟨(List.append_nil _).symm, rfl⟩

/-- The loop's variables and the state of the line, between two receives. -/
structure Arriving (body : List UInt8) (received timeouts : Nat) (head : List UInt8) (s : Line) :
    Prop where
  le : received ≤ body.length
  delivers : Delivers timeouts s.pieces (body.drop received)
  consumed : s.consumed = body.take received
  written : s.written = body.take received
  buffer : head = (body.take received).take fwImageHeadLen
  checked : fwImageHeadLen ≤ received → checkImageHead (body.take fwImageHeadLen) = .ok

/-- The head is checked by the piece that completes it. -/
theorem checkFilledHead_take {body : List UInt8} {received n : Nat}
    (hle : received + n ≤ body.length) :
    checkFilledHead ((body.take received).take fwImageHeadLen)
        ((body.take (received + n)).take fwImageHeadLen) =
      if received < fwImageHeadLen ∧ fwImageHeadLen ≤ received + n then
        checkImageHead (body.take fwImageHeadLen) else .ok := by
  rw [checkFilledHead, List.take_take, List.take_take, List.length_take, List.length_take]
  by_cases hcomplete : received < fwImageHeadLen ∧ fwImageHeadLen ≤ received + n
  · rw [if_pos hcomplete, if_pos (by omega), Nat.min_eq_left hcomplete.2]
  · rw [if_neg hcomplete, if_neg (by omega)]

theorem wp_receiveImage_line (handle : UInt32) (body : List UInt8) (received timeouts : Nat)
    (head : List UInt8) {s : Line} (h : Arriving body received timeouts head s) :
    (receiveImage handle body.length received timeouts head).wp line (fun _ _ => True)
      (Outcome body) s := by
  induction received, timeouts, head using receiveImage.induct body.length generalizing s with
  | case1 received timeouts head hmore ihretry ihdata =>
      have hrest : body.length - received = (body.drop received).length := List.length_drop.symm
      rw [receiveImage, dif_pos hmore, wp_bind, hrest]
      apply wp_recv_line h.delivers (List.length_pos_iff.mp (by omega))
      · intro hretry pieces hpieces
        rw [dif_pos hretry]
        exact ihretry hretry (s := { s with pieces := pieces })
          ⟨h.le, hpieces, h.consumed, h.written, h.buffer, h.checked⟩
      · intro piece tail pieces hpiece hsplit hpieces
        have hclosed : ¬ piece.length = 0 := mt List.length_eq_zero_iff.mp hpiece
        have htake : body.take received ++ piece = body.take (received + piece.length) := by
          rw [List.take_add, hsplit, List.take_left]
        have htail : body.drop (received + piece.length) = tail := by
          rw [← List.drop_drop, hsplit, List.drop_left]
        have hle : received + piece.length ≤ body.length := by
          have hlen := congrArg List.length hsplit
          rw [List.length_append] at hlen
          omega
        have hfilled : fillHead head piece =
            (body.take (received + piece.length)).take fwImageHeadLen := by
          rw [h.buffer, fillHead_take, htake]
        have hremaining : body.length - received - piece.length = tail.length := by
          rw [← htail, List.length_drop]
          omega
        have hconsumed : s.consumed ++ piece ++ tail = body := by
          rw [h.consumed, List.append_assoc, ← hsplit, List.take_append_drop]
        dsimp only
        rw [dif_neg hclosed, wp_ite, ← hrest, hremaining]
        split
        · -- The piece completes the head, and the check rejects it.
          rename_i hreject
          rw [wp_bind]
          refine wp_mono (wp_discardBody_line _ 0 rfl hpieces) ?_
          rintro _ t ⟨htconsumed, htwritten⟩
          rw [hfilled, h.buffer, checkFilledHead_take hle] at hreject ⊢
          have hcomplete : received < fwImageHeadLen ∧
              fwImageHeadLen ≤ received + piece.length := by
            by_contra hnot
            exact hreject (if_neg hnot)
          rw [if_pos hcomplete] at hreject ⊢
          refine ⟨?_, fun hok => absurd hok hreject, fun _ => ?_, htconsumed.trans hconsumed⟩
          · rw [uploadOutcome, if_neg (by omega)]
          · rw [htwritten, h.written, List.length_take]
            omega
        rename_i haccept
        rw [ne_eq, not_not] at haccept
        rw [wp_bind, wp_perform]
        refine ⟨trivial, fun err t ht => ?_⟩
        rw [wp_ite]
        obtain ⟨rfl, rfl⟩ | ⟨rfl, hmagic, rfl⟩ := ht
        · rw [if_neg (not_not.mpr rfl), wp_bind, wp_perform]
          refine ⟨trivial, fun _ t ht => ?_⟩
          obtain rfl : t = _ := ht
          refine ihdata piece hclosed ⟨hle, ?_, ?_, ?_, hfilled, fun hfull => ?_⟩
          · rw [htail]
            exact hpieces
          · exact (congrArg (· ++ piece) h.consumed).trans htake
          · exact (congrArg (· ++ piece) h.written).trans htake
          · by_cases hshort : received < fwImageHeadLen
            · rwa [hfilled, h.buffer, checkFilledHead_take hle, if_pos ⟨hshort, hfull⟩] at haccept
            · exact h.checked (Nat.not_lt.mp hshort)
        · -- The driver rejects the first byte, before the head is complete.
          have hbody : body.head? ≠ some fwImageMagic := by
            have hstart :=
              congrArg List.head? (List.take_append_drop (received + piece.length) body)
            rw [← htake, ← h.written] at hstart
            have hne : s.written ++ piece ≠ [] := List.append_ne_nil_of_right_ne_nil _ hpiece
            rw [List.head?_append, Option.or_of_isSome (List.isSome_head?.mpr hne)] at hstart
            rwa [← hstart]
          have houtcome := uploadOutcome_of_not_magic hbody
          rw [if_pos (fun herr => by cases herr), wp_bind]
          refine wp_mono (wp_discardBody_line _ 0 rfl hpieces) ?_
          rintro _ t ⟨htconsumed, htwritten⟩
          refine ⟨houtcome.symm, (fun hok => by cases hok), fun _ => ?_, htconsumed.trans hconsumed⟩
          rw [htwritten, h.written, List.length_take]
          by_contra hlong
          have hchecked := h.checked (by omega)
          rw [uploadOutcome, if_neg (by omega), hchecked] at houtcome
          cases houtcome
  | case2 received timeouts head hdone =>
      obtain rfl : received = body.length := Nat.le_antisymm h.le (by omega)
      rw [receiveImage, dif_neg hdone]
      have hhead : head = body.take fwImageHeadLen := by rw [h.buffer, List.take_length]
      have hlen : head.length = min fwImageHeadLen body.length := by rw [hhead, List.length_take]
      have hwritten : s.written = body := by rw [h.written, List.take_length]
      have hconsumed : s.consumed = body := by rw [h.consumed, List.take_length]
      by_cases hshort : body.length < fwImageHeadLen
      · have hreject : checkImageHead head = .rejectImage := checkImageHead_short (by omega)
        rw [if_pos (by omega), hreject]
        refine ⟨by rw [uploadOutcome, if_pos hshort], (fun hok => by cases hok), fun _ => ?_,
          hconsumed⟩
        rw [hwritten]
        exact hshort
      · rw [if_neg (by omega)]
        have hlong : fwImageHeadLen ≤ body.length := Nat.not_lt.mp hshort
        refine ⟨?_, fun _ => ⟨hwritten, hlong, hhead⟩, fun hne => absurd rfl hne, hconsumed⟩
        rw [uploadOutcome, if_neg hshort, h.checked hlong]

/-! ## Splits -/

theorem line_answers (c : FwCall) (s : Line) (hc : BodyCall c) : ∃ r t, line c s r t := by
  cases c with
  | recv wanted =>
      obtain ⟨pieces, consumed, written⟩ := s
      cases pieces with
      | nil => exact ⟨_, _, rfl, rfl⟩
      | cons next rest =>
          by_cases hpos : 0 < next.timeouts
          · simp [line, hpos]
          · simp [line, hpos]
  | otaWrite handle bytes => exact ⟨.ok, _, .inl ⟨rfl, rfl⟩⟩
  | setReceived received => exact ⟨(), s, rfl⟩
  | _ => exact hc.elim

/-- The result of `ReceiveImage()` does not depend on the split: for every split the loop ends, with
`uploadOutcome` of the body. An accepted body has been written in full and its head is the checked
one; of a rejected one less than a head was written, and all of it was received. -/
theorem receiveImage_split_independent (handle : UInt32) (body : List UInt8) :
    (∀ pieces, IsSplit pieces body → ∃ outcome t,
      Ends line (receiveImage handle body.length 0 0 []) ⟨pieces, [], []⟩ outcome t) ∧
    ∀ pieces pieces', IsSplit pieces body → IsSplit pieces' body →
      ∀ outcome t outcome' t',
        Ends line (receiveImage handle body.length 0 0 []) ⟨pieces, [], []⟩ outcome t →
        Ends line (receiveImage handle body.length 0 0 []) ⟨pieces', [], []⟩ outcome' t' →
        outcome.1 = outcome'.1 ∧ Outcome body outcome t := by
  have hends {pieces : List Piece} (h : IsSplit pieces body) {outcome : UploadResult × List UInt8}
      {t : Line}
      (he : Ends line (receiveImage handle body.length 0 0 []) ⟨pieces, [], []⟩ outcome t) :
      Outcome body outcome t := by
    have harriving : Arriving body 0 0 [] ⟨pieces, [], []⟩ :=
      ⟨Nat.zero_le _, h.delivers, rfl, rfl, rfl, fun hfull => absurd hfull (by decide)⟩
    exact wp_ends (wp_receiveImage_line handle body 0 0 [] harriving) he
  constructor
  · exact fun pieces _ => exists_ends_of_only (receiveImage_only _ _ _ _ _) line_answers _
  · intro pieces pieces' h h' outcome t outcome' t' he he'
    have houtcome := hends h he
    exact ⟨houtcome.result.trans (hends h' he').result.symm, houtcome⟩

/-- A body in three pieces, the head in all of them. -/
def inThree (body : List UInt8) : List Piece :=
  [⟨5, body.take 100⟩, ⟨0, (body.drop 100).take 200⟩, ⟨2, body.drop 300⟩]

/-- The image without the magic of its metadata. -/
def unmarkedImage : List UInt8 := sampleImage.set 288 0

theorem isSplit_inThree {body : List UInt8} (hlength : body.length = 352) :
    IsSplit (inThree body) body where
  each := by
    simp [inThree, fwUploadRecvRetries, fwUploadChunkBytes, hlength]
  whole := by
    simp only [inThree, List.flatMap_cons, List.flatMap_nil, List.append_nil]
    rw [← List.drop_drop (i := 200) (j := 100), List.take_append_drop, List.take_append_drop]

/-- An accepted image in one piece and in three, and a rejected one. -/
theorem receiveImage_split_independent_sample :
    (∃ outcome t outcome' t',
      Ends line (receiveImage 1 352 0 0 []) ⟨[⟨5, sampleImage⟩], [], []⟩ outcome t ∧
      Ends line (receiveImage 1 352 0 0 []) ⟨inThree sampleImage, [], []⟩ outcome' t' ∧
      outcome.1 = .ok ∧ outcome'.1 = .ok ∧ t.written = sampleImage ∧ t'.written = sampleImage) ∧
    ∃ outcome t,
      Ends line (receiveImage 1 352 0 0 []) ⟨inThree unmarkedImage, [], []⟩ outcome t ∧
      outcome.1 = .rejectMetadata ∧ t.written.length < fwImageHeadLen ∧ t.consumed = unmarkedImage := by
  have hlength : sampleImage.length = 352 := length_sampleImage
  have hlength' : unmarkedImage.length = 352 := by
    rw [unmarkedImage, List.length_set, hlength]
  have hone : IsSplit [⟨5, sampleImage⟩] sampleImage := by
    refine ⟨?_, by simp⟩
    simp [fwUploadRecvRetries, fwUploadChunkBytes, hlength]
  have hthree := isSplit_inThree hlength
  have hrejected := isSplit_inThree hlength'
  obtain ⟨hends, hsame⟩ := receiveImage_split_independent 1 sampleImage
  obtain ⟨hends', hsame'⟩ := receiveImage_split_independent 1 unmarkedImage
  rw [hlength] at hends hsame
  rw [hlength'] at hends' hsame'
  constructor
  · obtain ⟨outcome, t, he⟩ := hends _ hone
    obtain ⟨outcome', t', he'⟩ := hends _ hthree
    obtain ⟨heq, hsplit⟩ := hsame _ _ hone hthree _ _ _ _ he he'
    obtain ⟨-, hsplit'⟩ := hsame _ _ hthree hone _ _ _ _ he' he
    have hok : outcome.1 = .ok := hsplit.result.trans (by decide +kernel)
    have hok' : outcome'.1 = .ok := heq.symm.trans hok
    exact ⟨outcome, t, outcome', t', he, he', hok, hok', (hsplit.accepted hok).1,
      (hsplit'.accepted hok').1⟩
  · obtain ⟨outcome, t, he⟩ := hends' _ hrejected
    obtain ⟨-, hsplit⟩ := hsame' _ _ hrejected hrejected _ _ _ _ he he
    have hreject : outcome.1 = .rejectMetadata := hsplit.result.trans (by decide +kernel)
    exact ⟨outcome, t, he, hreject, hsplit.rejected (by rw [hreject]; decide), hsplit.consumed⟩

end StripTuner.Updater
