import StripTuner.CredentialStore.PowerLoss

/-!
# NVS failures during a replacement

Any NVS call of a replacement may return an error, and any read-back may give other bytes. The
replacement then returns false, but a pending record that was already set stays in the namespace,
and the next boot promotes it.
-/

namespace StripTuner.CredentialStore

open DeviceCalls DeviceCalls.Prog

/-! ## A store whose calls can fail -/

/-- What goes wrong with one NVS call: nothing, an error, or a read that gives other bytes. -/
inductive Fault where
  | none
  | error (err : EspErr) (failed : err ≠ .ok)
  | readback (bytes : List UInt8)

/-- The call returns an error. -/
def Fault.fails : Fault → Bool
  | .error _ _ => true
  | _ => false

/-- The read of a record of `credentialsSize` bytes gives the bytes that were written. -/
def Fault.reads (written : List UInt8) : Fault → Bool
  | .none => true
  | .error _ _ => false
  | .readback bytes => bytes.take credentialsSize = written

/-- The answer of a call that returns an error; `nvs_close()` returns nothing. -/
def NvsCall.errorAnswer : (c : NvsCall) → EspErr → c.Answer
  | .flashInit, err | .open _, err | .setBlob _ _, err | .commit, err | .eraseKey _, err => err
  | .getBlob _ _, err => (err, [])
  | .close, _ => ()

/-- The answer of a call when the bytes of a read are replaced. -/
def NvsCall.readbackAnswer : (c : NvsCall) → List UInt8 → c.Answer → c.Answer
  | .getBlob _ capacity, bytes, _ => (.ok, bytes.take capacity)
  | .flashInit, _, answer | .open _, _, answer | .setBlob _ _, _, answer | .commit, _, answer
  | .eraseKey _, _, answer | .close, _, answer => answer

/-- The device whose `n`-th call meets the fault `faults n`; a call that returns an error changes
nothing. The second component counts the calls made. -/
def faulty (faults : Nat → Fault) : Handler NvsCall NvsCall.Answer (NvsState × Nat) := fun c s =>
  match faults s.2 with
  | .none => ((nvs c s.1).1, (nvs c s.1).2, s.2 + 1)
  | .error err _ => (c.errorAnswer err, s.1, s.2 + 1)
  | .readback bytes => (c.readbackAnswer bytes (nvs c s.1).1, (nvs c s.1).2, s.2 + 1)

/-- None of the calls whose results a replacement looks at meets a fault that changes its result:
the open, and set, commit and read-back of the pending and of the active record. -/
structure NoFaultMatters (faults : Nat → Fault) (new : WifiCredentials) : Prop where
  openStore : (faults 0).fails = false
  setPending : (faults 1).fails = false
  commitPending : (faults 2).fails = false
  readPending : (faults 3).reads new.toBytes = true
  setActive : (faults 4).fails = false
  commitActive : (faults 5).fails = false
  readActive : (faults 6).reads new.toBytes = true

section Calls

variable {α : Type} {faults : Nat → Fault} {Q : α → NvsState × Nat → Prop} {s : NvsState} {n : Nat}

/-- What a program does on the failing store. -/
abbrev Meets (faults : Nat → Fault) (p : Nvs α) (Q : α → NvsState × Nat → Prop)
    (s : NvsState × Nat) : Prop :=
  p.wp (toDevice (faulty faults)) (fun _ _ => True) Q s

/-- A call that is not a read either returns an error and changes nothing, or succeeds. -/
theorem meets_call (c : NvsCall) (hread : ∀ bytes answer, c.readbackAnswer bytes answer = answer)
    (f : c.Answer → Nvs α)
    (hfail : (faults n).fails = true → ∀ err, err ≠ .ok →
      Meets faults (f (c.errorAnswer err)) Q (s, n + 1))
    (hok : (faults n).fails = false → Meets faults (f (nvs c s).1) Q ((nvs c s).2, n + 1)) :
    Meets faults (perform c >>= f) Q (s, n) := by
  cases hf : faults n with
  | none =>
      have hc : faulty faults c (s, n) = ((nvs c s).1, (nvs c s).2, n + 1) := by
        simp only [faulty, hf]
      exact (wp_perform_bind_toDevice _ c hc f Q).2 ⟨trivial, hok (by rw [hf]; rfl)⟩
  | error err failed =>
      have hc : faulty faults c (s, n) = (c.errorAnswer err, s, n + 1) := by
        simp only [faulty, hf]
      exact (wp_perform_bind_toDevice _ c hc f Q).2 ⟨trivial, hfail (by rw [hf]; rfl) err failed⟩
  | readback bytes =>
      have hc : faulty faults c (s, n) = ((nvs c s).1, (nvs c s).2, n + 1) := by
        simp only [faulty, hf, hread]
      exact (wp_perform_bind_toDevice _ c hc f Q).2 ⟨trivial, hok (by rw [hf]; rfl)⟩

/-- A call whose result the program ignores, where the rest does not look at the state. -/
theorem meets_ignored (c : NvsCall) (f : c.Answer → Nvs α)
    (h : ∀ r t, Meets faults (f r) Q t) : Meets faults (perform c >>= f) Q (s, n) := by
  rw [Meets, wp_bind, wp_perform]
  exact ⟨trivial, fun r t _ => h r t⟩

/-- `nvs_close()` cannot fail. -/
theorem meets_nvsClose (f : Unit → Nvs α) (h : Meets faults (f ()) Q (s, n + 1)) :
    Meets faults (nvsClose >>= f) Q (s, n) :=
  meets_call .close (fun _ _ => rfl) f (fun _ _ _ => h) (fun _ => h)

/-- The comparison after a read accepts exactly the bytes that were written. -/
theorem meets_readback {key : Key} {credentials : WifiCredentials}
    (hs : s.current key = some credentials.toBytes) (f : Bool → Nvs α)
    (h : Meets faults (f ((faults n).reads credentials.toBytes)) Q (s, n + 1)) :
    Meets faults (nvsGetBlob key credentialsSize >>= fun readback =>
      f (readback.1 = .ok && readback.2.length = credentialsSize &&
        WifiCredentials.ofBytes readback.2 = credentials)) Q (s, n) := by
  have hget : nvs (.getBlob key credentialsSize) s = ((.ok, credentials.toBytes), s) := by
    simp [nvs, hs]
  cases hf : faults n with
  | none =>
      have hc : faulty faults (.getBlob key credentialsSize) (s, n) =
          ((.ok, credentials.toBytes), s, n + 1) := by simp only [faulty, hf, hget]
      refine (wp_perform_bind_toDevice _ (NvsCall.getBlob key credentialsSize) hc _ Q).2 ⟨trivial, ?_⟩
      simpa [hf, Fault.reads] using h
  | error err failed =>
      have hc : faulty faults (.getBlob key credentialsSize) (s, n) = ((err, []), s, n + 1) := by
        simp only [faulty, hf, NvsCall.errorAnswer]
      refine (wp_perform_bind_toDevice _ (NvsCall.getBlob key credentialsSize) hc _ Q).2 ⟨trivial, ?_⟩
      simpa [hf, Fault.reads, failed] using h
  | readback bytes =>
      have hc : faulty faults (.getBlob key credentialsSize) (s, n) =
          ((.ok, bytes.take credentialsSize), s, n + 1) := by
        simp only [faulty, hf, hget, NvsCall.readbackAnswer]
      refine (wp_perform_bind_toDevice _ (NvsCall.getBlob key credentialsSize) hc _ Q).2 ⟨trivial, ?_⟩
      have hiff : ((bytes.take credentialsSize).length = credentialsSize ∧
          WifiCredentials.ofBytes (bytes.take credentialsSize) = credentials) ↔
          bytes.take credentialsSize = credentials.toBytes := by
        constructor
        · rintro ⟨hl, rfl⟩
          exact (WifiCredentials.toBytes_ofBytes hl).symm
        · intro hb
          rw [hb]
          exact ⟨credentials.length_toBytes, credentials.ofBytes_toBytes⟩
      simpa only [hf, Fault.reads, decide_true, Bool.true_and, ← Bool.decide_and, hiff] using h

/-- The three ways a write can end: nothing set, set but not committed, or committed and compared
with what the read gives. -/
theorem meets_writeAndVerifyRecord (key : Key) (credentials : WifiCredentials) (f : Bool → Nvs α)
    (hset : (faults n).fails = true → Meets faults (f false) Q (s, n + 1))
    (hcommit : (faults n).fails = false → (faults (n + 1)).fails = true → Meets faults (f false) Q
      ({ s with current := Function.update s.current key (some credentials.toBytes) }, n + 2))
    (hread : (faults n).fails = false → (faults (n + 1)).fails = false →
      Meets faults (f ((faults (n + 2)).reads credentials.toBytes)) Q
        (.settled (Function.update s.current key (some credentials.toBytes)), n + 3)) :
    Meets faults (writeAndVerifyRecord key credentials >>= f) Q (s, n) := by
  simp only [writeAndVerifyRecord, bind_assoc, nvsSetBlob]
  refine meets_call (.setBlob key credentials.toBytes) (fun _ _ => rfl) _ ?_ ?_
  · intro hf err herr
    simpa [NvsCall.errorAnswer, herr] using hset hf
  · intro hf
    simp only [nvs, if_true, nvsCommit, bind_assoc]
    refine meets_call .commit (fun _ _ => rfl) _ ?_ ?_
    · intro hf' err herr
      simpa [NvsCall.errorAnswer, herr] using hcommit hf hf'
    · intro hf'
      simp only [nvs, ne_eq, not_true_eq_false, if_false, bind_assoc, pure_bind]
      exact meets_readback (by simp) f (hread hf hf')

/-- A replacement that was not rejected, by what its faults leave in the namespace: nothing new,
the pending record, or the new pair. -/
theorem meets_replaceCredentials {new : WifiCredentials} (hv : isCredentialsValid new = true)
    {Q : Bool → NvsState × Nat → Prop} {records : Records} (hnone : records .credPending = none)
    (hunset : (faults 0).fails = true ∨ (faults 1).fails = true →
      ∀ m, Q false (.settled records, m))
    (hleft : (faults 0).fails = false → (faults 1).fails = false →
      ¬ NoFaultMatters faults new → ∀ t m,
      t.current .credPending = some new.toBytes →
      CutState (records .credActive) (some new.toBytes) t → Q false (t, m))
    (hdone : NoFaultMatters faults new → ∀ t, Q true t) :
    Meets faults (replaceCredentials true new) Q (.settled records, 0) := by
  have h0 : Between (records .credActive) (some new.toBytes) records := ⟨.inl rfl, .inl hnone⟩
  have h1 := h0.update_pending
  have h2 := h1.update_active
  simp only [replaceCredentials, hv, Bool.not_true, Bool.or_self, Bool.false_eq_true, if_false,
    nvsOpen]
  refine meets_call (.open .readwrite) (fun _ _ => rfl) _ ?_ ?_
  · intro hf err herr
    simpa [NvsCall.errorAnswer, herr] using hunset (.inl hf) 1
  intro hf0
  simp only [nvs, ne_eq, not_true_eq_false, if_false]
  refine meets_writeAndVerifyRecord _ _ _ ?_ ?_ ?_
  · intro hf1
    simp only [Bool.false_eq_true, if_false, pure_bind]
    exact meets_nvsClose _ (hunset (.inr hf1) _)
  · intro hf1 hf2
    simp only [Bool.false_eq_true, if_false, pure_bind]
    refine meets_nvsClose _ (hleft hf0 hf1 ?_ _ _ (by simp) ⟨h1, h0⟩)
    exact fun h => by simp [h.commitPending] at hf2
  intro hf1 hf2
  cases hr3 : (faults 3).reads new.toBytes with
  | false =>
      simp only [Bool.false_eq_true, if_false, pure_bind]
      refine meets_nvsClose _ (hleft hf0 hf1 ?_ _ _ (by simp) h1.settled)
      exact fun h => by simp [h.readPending] at hr3
  | true =>
  simp only [if_true]
  refine meets_writeAndVerifyRecord _ _ _ ?_ ?_ ?_
  · intro hf4
    simp only [Bool.false_eq_true, if_false]
    refine meets_nvsClose _ (hleft hf0 hf1 ?_ _ _ (by simp) h1.settled)
    exact fun h => by simp [h.setActive] at hf4
  · intro hf4 hf5
    simp only [Bool.false_eq_true, if_false]
    refine meets_nvsClose _ (hleft hf0 hf1 ?_ _ _ (by simp) ⟨h2, h1⟩)
    exact fun h => by simp [h.commitActive] at hf5
  intro hf4 hf5
  cases hr6 : (faults 6).reads new.toBytes with
  | false =>
      simp only [Bool.false_eq_true, if_false]
      refine meets_nvsClose _ (hleft hf0 hf1 ?_ _ _ (by simp) h2.settled)
      exact fun h => by simp [h.readActive] at hr6
  | true =>
      simp only [if_true, erasePending, bind_assoc]
      exact meets_ignored (.eraseKey .credPending) _ fun _ _ => meets_ignored .commit _ fun _ _ =>
        meets_ignored .close _ fun _ t => hdone ⟨hf0, hf1, hf2, hr3, hf4, hf5, hr6⟩ t

end Calls

/-! ## Boots after a failed replacement -/

/-- What `LoadCredentials()` returns, from `s_ready` and the namespace. -/
def loaded (store : Bool × NvsState) : Option WifiCredentials :=
  ((loadCredentials store.1).run nvs store.2).1

theorem loaded_ready (s : NvsState) : loaded (true, s) = loadedPair s := rfl

/-- `s_ready` and the namespace after one complete boot; `keep` says which uncommitted changes
survive it. -/
def boot (store : Bool × NvsState) (keep : Key → Bool) : Bool × NvsState :=
  initCredentialStore.run nvs (restart keep store.2)

/-- After any number of complete boots. -/
def afterBoots (boots : List (Key → Bool)) (store : Bool × NvsState) : Bool × NvsState :=
  boots.foldl boot store

theorem boot_settled {records : Records} (hp : records .credPending = none) (ready : Bool)
    (keep : Key → Bool) : boot (ready, .settled records) keep = (true, .settled records) := by
  obtain ⟨hready, hsame⟩ := boot_noPending hp (ends_of_run (s := restart keep (.settled records)) rfl)
  exact Prod.ext hready hsame

theorem afterBoots_noPending {records : Records} (hp : records .credPending = none)
    (boots : List (Key → Bool)) :
    afterBoots boots (true, .settled records) = (true, .settled records) := by
  induction boots with
  | nil => rfl
  | cons keep boots ih =>
      rw [afterBoots, List.foldl_cons, boot_settled hp]
      exact ih

theorem afterBoots_cutState {old : Option (List UInt8)} {new : WifiCredentials}
    (hv : isCredentialsValid new = true) (boots : List (Key → Bool)) {s : NvsState}
    (hs : CutState old (some new.toBytes) s) :
    (afterBoots boots (true, s)).1 = true ∧
      CutState old (some new.toBytes) (afterBoots boots (true, s)).2 := by
  induction boots generalizing s with
  | nil => exact ⟨rfl, hs⟩
  | cons keep boots ih =>
      obtain ⟨hready, hcut, -⟩ := boot_cutState hv hs (ends_of_run (s := restart keep s) rfl)
      have hboot : boot (true, s) keep = (true, (boot (true, s) keep).2) := Prod.ext hready rfl
      rw [afterBoots, List.foldl_cons, hboot]
      exact ih hcut

/-- A boot that kept the pending record makes it the active one. -/
theorem loaded_boot_pending {new : WifiCredentials} (hv : isCredentialsValid new = true)
    {s : NvsState} (hs : s.current .credPending = some new.toBytes) :
    loaded (boot (true, s) fun _ => true) = some new := by
  have hbooted : (boot (true, s) fun _ => true).1 = true ∧
      (boot (true, s) fun _ => true).2.current .credActive = some new.toBytes := by
    refine run_of_wp (G := fun _ _ => True)
      (Q := fun ready (t : NvsState) =>
        ready = true ∧ t.current .credActive = some new.toBytes) ?_
    rw [wp_initCredentialStore_some (s := restart (fun _ => true) s) hs hv]
    simp
  rw [loaded, hbooted.1]
  exact (loadedPair_eq _).trans (by rw [hbooted.2, storedPair_toBytes hv])

/-- What a replacement leaves of a store that is not ready. -/
theorem afterBoots_unready {records : Records} (hpending : records .credPending = none) :
    (∀ boots, loaded (afterBoots boots (false, .settled records)) = none) ↔
      loadedPair (.settled records) = none := by
  constructor
  · intro h
    have hboot := h [fun _ => true]
    rwa [afterBoots, List.foldl_cons, boot_settled hpending] at hboot
  · intro hnone boots
    cases boots with
    | nil => rfl
    | cons keep boots =>
        rw [afterBoots, List.foldl_cons, boot_settled hpending]
        exact (congrArg loaded (afterBoots_noPending hpending boots)).trans hnone

/-- A failed replacement keeps what was stored, at once and over any boots, exactly when it was
rejected, or failed before the pending record was set, or the new pair was stored already. A store
that is not ready has nothing to lose only when it holds no pair, which the next boot would show. -/
theorem replaceCredentials_failure_iff (records : Records) (hpending : records .credPending = none)
    (ready : Bool) (new : WifiCredentials) (faults : Nat → Fault) :
    let result := (replaceCredentials ready new).run (faulty faults) (.settled records, 0)
    (result.1 = false → ∀ boots,
      loaded (afterBoots boots (ready, result.2.1)) = loaded (ready, .settled records)) ↔
    (ready = false ∧ loadedPair (.settled records) = none ∨
      ready = true ∧ (isCredentialsValid new = false ∨ (faults 0).fails = true ∨
        (faults 1).fails = true ∨ loadedPair (.settled records) = some new ∨
        NoFaultMatters faults new)) := by
  intro result
  have hkept : ∀ boots, loaded (afterBoots boots (true, .settled records)) =
      loaded (true, .settled records) :=
    fun boots => congrArg loaded (afterBoots_noPending hpending boots)
  cases ready with
  | false =>
      have hresult : result = (false, .settled records, 0) := rfl
      simp only [hresult, true_and, Bool.false_eq_true, false_and, or_false, true_imp_iff]
      exact afterBoots_unready hpending
  | true =>
  simp only [Bool.true_eq_false, false_and, true_and, false_or]
  by_cases hv : isCredentialsValid new = true
  · refine run_of_wp (G := fun _ _ => True) (Q := fun r (t : NvsState × Nat) =>
      (r = false → ∀ boots, loaded (afterBoots boots (true, t.1)) =
        loaded (true, .settled records)) ↔
      (isCredentialsValid new = false ∨ (faults 0).fails = true ∨
        (faults 1).fails = true ∨ loadedPair (.settled records) = some new ∨
        NoFaultMatters faults new)) ?_
    refine meets_replaceCredentials hv hpending ?_ ?_ ?_
    · intro hunset m
      refine iff_of_true (fun _ => hkept) ?_
      rcases hunset with h | h
      · exact .inr (.inl h)
      · exact .inr (.inr (.inl h))
    · intro hf0 hf1 hfault t m ht hcut
      simp only [hv, hf0, hf1, Bool.true_eq_false, Bool.false_eq_true, false_or,
        or_iff_left hfault, true_imp_iff]
      constructor
      · intro h
        rw [← loaded_ready, ← h [fun _ => true]]
        exact loaded_boot_pending hv ht
      · intro hsame boots
        have hactive := (storedPair_eq_some_iff.1 ((loadedPair_eq _).symm.trans hsame)).1
        rw [NvsState.settled_current] at hactive
        rw [hactive] at hcut
        obtain ⟨hready, hbooted⟩ := afterBoots_cutState hv boots hcut
        rw [loaded_ready, hsame, loaded, hready]
        refine (loadedPair_eq _).trans ?_
        rcases hbooted.current.active with h | h <;> rw [h, storedPair_toBytes hv]
    · intro hdone t
      exact iff_of_true (fun h => by cases h) (.inr (.inr (.inr (.inr hdone))))
  · have hresult : result = (false, .settled records, 0) := by
      have hready : (true && isCredentialsValid new) = false := by simpa using hv
      simp only [result, replaceCredentials_rejected hready]
      rfl
    rw [hresult]
    exact iff_of_true (fun _ => hkept) (.inl (by simpa using hv))

/-- With the set of the pending record failing, the stored pair stays. -/
theorem replaceCredentials_failure_unset :
    let old := WifiCredentials.ofBytes [0x61]
    let new := WifiCredentials.ofBytes [0x62]
    let records : Records := fun key =>
      match key with
      | .credActive => some old.toBytes
      | .credPending => none
    let faults : Nat → Fault := fun n => if n = 1 then .error .fail (by decide) else .none
    let result := (replaceCredentials true new).run (faulty faults) (.settled records, 0)
    result.1 = false ∧ ∀ boots, loaded (afterBoots boots (true, result.2.1)) = some old := by
  intro old new records faults result
  have hfalse : result.1 = false := by decide +kernel
  have hbefore : loaded (true, .settled records) = some old := by decide +kernel
  refine ⟨hfalse, fun boots => ?_⟩
  rw [← hbefore]
  exact (replaceCredentials_failure_iff records rfl true new faults).2
    (.inr ⟨rfl, .inr (.inr (.inl rfl))⟩) hfalse boots

/-- The read-back of the pending record fails its comparison: `false` is returned and the old
pair is still there, and the next boot loads the new one. -/
theorem replaceCredentials_failure_promoted :
    let old := WifiCredentials.ofBytes [0x61]
    let new := WifiCredentials.ofBytes [0x62]
    let records : Records := fun key =>
      match key with
      | .credActive => some old.toBytes
      | .credPending => none
    let faults : Nat → Fault := fun n => if n = 3 then .readback [] else .none
    let result := (replaceCredentials true new).run (faulty faults) (.settled records, 0)
    result.1 = false ∧ loaded (true, .settled records) = some old ∧
      loaded (true, result.2.1) = some old ∧
      loaded (afterBoots [fun _ => true] (true, result.2.1)) = some new := by
  decide +kernel

end StripTuner.CredentialStore
