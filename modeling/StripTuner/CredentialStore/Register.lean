import StripTuner.Lib.Register
import StripTuner.CredentialStore.PowerLoss

/-!
# The store as an atomic register

Over whole runs of the board, with any number of replacements, loads, power cuts inside of them and
recoveries that are cut themselves, the store cannot be told from a register whose writes happen as
a whole or not at all.
-/

namespace StripTuner.CredentialStore

open AtomicRegister DeviceCalls DeviceCalls.Prog Traces

/-! ## The board -/

/-- With power the value of `s_ready` and what NVS holds; without, what the power loss left. -/
inductive Chip where
  | on (ready : Bool) (s : NvsState)
  | off (s : NvsState)

/-- What can happen to the board. Power can be lost between any two calls of any function; a boot
that loses it again shows nothing. -/
inductive ChipStep : System Chip (Event WifiCredentials) where
  | load {ready : Bool} {pair : Option WifiCredentials} {s t : NvsState} :
      Ends (toDevice nvs) (loadCredentials ready) s pair t →
      ChipStep (.on ready s) (some (.loaded pair)) (.on ready t)
  | replace {ready isStored : Bool} {new : WifiCredentials} {s t : NvsState} :
      Ends (toDevice nvs) (replaceCredentials ready new) s isStored t →
      ChipStep (.on ready s) (some (.replaced new isStored)) (.on ready t)
  | interruptLoad {ready : Bool} {s t : NvsState} :
      CutAt (toDevice nvs) (loadCredentials ready) s t →
      ChipStep (.on ready s) (some .powerLost) (.off t)
  | interruptReplace {ready : Bool} {new : WifiCredentials} {s t : NvsState} :
      CutAt (toDevice nvs) (replaceCredentials ready new) s t →
      ChipStep (.on ready s) (some (.interrupted new)) (.off t)
  | powerLoss (ready : Bool) (s : NvsState) :
      ChipStep (.on ready s) (some .powerLost) (.off s)
  | interruptBoot {s t : NvsState} : BootCut s t → ChipStep (.off s) none (.off t)
  | boot {ready : Bool} (keep : Key → Bool) {s t : NvsState} :
      Ends (toDevice nvs) initCredentialStore (restart keep s) ready t →
      ChipStep (.off s) (some .booted) (.on ready t)

/-- The register of the valid pairs. -/
abbrev CredentialRegister : System (Register WifiCredentials) (Event WifiCredentials) :=
  Step fun credentials => isCredentialsValid credentials = true

/-! ## Recovery from any records -/

/-- A pending record that holds no pair is erased. -/
theorem wp_initCredentialStore_junk {G : NvsCall → NvsState → Prop} {s : NvsState}
    {bytes : List UInt8} (h : s.current .credPending = some bytes)
    (hjunk : storedPair (some bytes) = none) (Q : Bool → NvsState → Prop) :
    initCredentialStore.wp (toDevice nvs) G Q s ↔
      let erased := Function.update s.current .credPending none
      G .flashInit s ∧ G (.open .readwrite) s ∧ G (.getBlob .credPending credentialsSize) s ∧
        G (.eraseKey .credPending) s ∧ G .commit { s with current := erased } ∧
        G .close (.settled erased) ∧ Q true (.settled erased) := by
  by_cases hl : credentialsSize < bytes.length
  · simp [initCredentialStore, recoverPendingRecord, wp_nvsGetBlob_long h hl, wp_erasePending h]
  · have hpair : ¬ (bytes.length = credentialsSize ∧
        isCredentialsValid (.ofBytes bytes) = true) := by
      intro hb
      simp [storedPair, hb] at hjunk
    simp [initCredentialStore, recoverPendingRecord, wp_nvsGetBlob_some h (Nat.not_lt.1 hl), hpair,
      wp_erasePending h]

/-- The records while the pending one, if it holds a pair, may be promoted. -/
structure Recovering (old pending : Option (List UInt8)) (records : Records) : Prop where
  active : records .credActive = old ∨
    (records .credActive = pending ∧ storedPair pending ≠ none)
  pending : records .credPending = none ∨ records .credPending = pending

section Recovering

variable {old pending : Option (List UInt8)} {records : Records} {s t : NvsState}
  {new : WifiCredentials}

theorem recovering_iff_between (hv : isCredentialsValid new = true) :
    Recovering old (some new.toBytes) records ↔ Between old (some new.toBytes) records := by
  have hpair : storedPair (some new.toBytes) ≠ none := by
    rw [storedPair_toBytes hv]
    exact Option.some_ne_none _
  exact ⟨fun h => ⟨h.active.imp_right And.left, h.pending⟩,
    fun h => ⟨h.active.imp_right fun ha => ⟨ha, hpair⟩, h.pending⟩⟩

theorem Recovering.erase_pending (h : Recovering old pending records) :
    Recovering old pending (Function.update records .credPending none) where
  active := by simpa using h.active
  pending := .inl (by simp)

/-- Both views of the namespace are such records. -/
def Recoverable (old pending : Option (List UInt8)) (s : NvsState) : Prop :=
  Recovering old pending s.current ∧ Recovering old pending s.committed

theorem Recovering.settled (h : Recovering old pending records) :
    Recoverable old pending (.settled records) := ⟨h, h⟩

theorem CutState.recoverable (hv : isCredentialsValid new = true)
    (h : CutState old (some new.toBytes) s) : Recoverable old (some new.toBytes) s :=
  ⟨(recovering_iff_between hv).2 h.current, (recovering_iff_between hv).2 h.committed⟩

theorem Recoverable.restart (h : Recoverable old pending s) (keep : Key → Bool) :
    ∃ records, restart keep s = .settled records ∧ Recovering old pending records := by
  refine ⟨_, rfl, ?_, ?_⟩
  · by_cases hk : keep .credActive
    · simpa [hk] using h.1.active
    · simpa [hk] using h.2.active
  · by_cases hk : keep .credPending
    · simpa [hk] using h.1.pending
    · simpa [hk] using h.2.pending

/-- A boot keeps recoverable records at each of its calls, and ends without a pending record. -/
theorem wp_initCredentialStore_recovering (h : Recovering old pending records) :
    initCredentialStore.wp (toDevice nvs) (fun _ => Recoverable old pending)
      (fun ready t => Recoverable old pending t ∧ ready = true ∧
        ∃ final, t = .settled final ∧ final .credPending = none) (.settled records) := by
  rcases h.pending with hp | hp
  · rw [wp_initCredentialStore_none hp]
    exact ⟨h.settled, h.settled, h.settled, h.settled, h.settled, rfl, records, rfl, hp⟩
  cases hpair : storedPair pending with
  | some new =>
      -- A complete record is promoted, as after a replacement that was cut.
      obtain ⟨rfl, hv⟩ := storedPair_eq_some_iff.1 hpair
      have hb := (recovering_iff_between hv).1 h
      have h1 := hb.update_active
      have h2 := h1.erase_pending
      have hrec : ∀ {t}, CutState old (some new.toBytes) t →
          Recoverable old (some new.toBytes) t := fun ht => ht.recoverable hv
      rw [wp_initCredentialStore_some hp hv]
      exact ⟨h.settled, h.settled, h.settled, h.settled, hrec ⟨h1, hb⟩, hrec h1.settled,
        hrec h1.settled, hrec ⟨h2, h1⟩, hrec h2.settled, hrec h2.settled, rfl, _, rfl, by simp⟩
  | none =>
      cases pending with
      | none =>
          rw [wp_initCredentialStore_none hp]
          exact ⟨h.settled, h.settled, h.settled, h.settled, h.settled, rfl, records, rfl, hp⟩
      | some bytes =>
          rw [wp_initCredentialStore_junk hp hpair]
          have h1 := h.erase_pending
          exact ⟨h.settled, h.settled, h.settled, h.settled, ⟨h1, h⟩, h1.settled, h1.settled, rfl,
            _, rfl, by simp⟩

end Recovering

/-! ## Simulation -/

/-- The register that a board shows. -/
inductive Shows : Chip → Register WifiCredentials → Prop where
  | on {records : Records} : records .credPending = none →
      Shows (.on true (.settled records)) (.on (storedPair (records .credActive)))
  | off {old pending : Option (List UInt8)} {s : NvsState} : Recoverable old pending s →
      Shows (.off s) (.off (storedPair old) (storedPair pending))

section Shows

variable {records : Records} {s t : NvsState}

/-- Power loss outside of a replacement. -/
theorem Shows.powerLost (h : records .credPending = none) :
    Shows (.off (.settled records)) (.off (storedPair (records .credActive)) none) := by
  have hrecoverable : Recoverable (records .credActive) none (.settled records) :=
    Recovering.settled ⟨.inl rfl, .inl h⟩
  exact .off hrecoverable

theorem loadCredentials_cutAt (h : CutAt (toDevice nvs) (loadCredentials true) s t) : t = s := by
  have hwp : (loadCredentials true).wp (toDevice nvs) (fun _ t => t = s) (fun _ t => t = s) s := by
    cases ha : s.current .credActive with
    | none => simp [loadCredentials, wp_nvsGetBlob_none ha]
    | some bytes =>
        by_cases hl : credentialsSize < bytes.length
        · simp [loadCredentials, wp_nvsGetBlob_long ha hl]
        · simp only [loadCredentials, Bool.not_true, Bool.false_eq_true, if_false, wp_nvsOpen,
            ne_eq, not_true_eq_false, wp_nvsGetBlob_some ha (Nat.not_lt.1 hl), wp_nvsClose,
            true_and]
          split <;> exact rfl
  exact wp_cutAt (C := fun t => t = s) hwp h

/-- The replacement of a register that is on. -/
theorem exists_step_replace {new : WifiCredentials} {isStored : Bool}
    (hnone : records .credPending = none)
    (h : Ends (toDevice nvs) (replaceCredentials true new) (.settled records) isStored t) :
    ∃ register, CredentialRegister (.on (storedPair (records .credActive)))
      (some (.replaced new isStored)) register ∧ Shows (.on true t) register := by
  by_cases hv : isCredentialsValid new = true
  · have hdone : isStored = true ∧ t = .settled t.current ∧
        t.current .credActive = some new.toBytes ∧ t.current .credPending = none := by
      refine wp_ends (G := fun _ _ => True) (Q := fun r t => r = true ∧ t = .settled t.current ∧
        t.current .credActive = some new.toBytes ∧ t.current .credPending = none) ?_ h
      simp [wp_replaceCredentials hv]
    obtain ⟨rfl, ht, ha, hp⟩ := hdone
    refine ⟨_, .replace _ hv, ?_⟩
    have hon := Shows.on hp
    rwa [← ht, ha, storedPair_toBytes hv] at hon
  · rw [replaceCredentials_rejected (by simpa using hv)] at h
    cases h
    exact ⟨_, .reject _ hv, .on hnone⟩

theorem exists_step_interrupt {new : WifiCredentials} (hnone : records .credPending = none)
    (h : CutAt (toDevice nvs) (replaceCredentials true new) (.settled records) t) :
    ∃ register, CredentialRegister (.on (storedPair (records .credActive)))
      (some (.interrupted new)) register ∧ Shows (.off t) register := by
  obtain ⟨hcut, hunchanged⟩ := replaceCredentials_cutAt hnone h
  by_cases hv : isCredentialsValid new = true
  · refine ⟨_, .interrupt _ hv, ?_⟩
    have hoff := Shows.off (hcut.recoverable hv)
    rwa [storedPair_toBytes hv] at hoff
  · obtain rfl := hunchanged.resolve_right hv
    exact ⟨_, .ignore _, .powerLost hnone⟩

theorem exists_step_boot {old pending : Option (List UInt8)} {ready : Bool} {keep : Key → Bool}
    (hs : Recoverable old pending s)
    (h : Ends (toDevice nvs) initCredentialStore (restart keep s) ready t) :
    ∃ register, CredentialRegister (.off (storedPair old) (storedPair pending)) (some .booted)
      register ∧ Shows (.on ready t) register := by
  obtain ⟨start, hstart, hrecovering⟩ := hs.restart keep
  rw [hstart] at h
  obtain ⟨hfinal, rfl, final, rfl, hnone⟩ :=
    wp_ends (wp_initCredentialStore_recovering hrecovering) h
  have hon := Shows.on hnone
  rcases hfinal.1.active with ha | ⟨ha, hpair⟩ <;> rw [NvsState.settled_current] at ha
  · refine ⟨_, .keep _ _, ?_⟩
    rwa [ha] at hon
  · obtain ⟨new, hnew⟩ := Option.ne_none_iff_exists'.1 hpair
    rw [hnew]
    refine ⟨_, .finish _ new, ?_⟩
    rwa [ha, hnew] at hon

/-- Every step of the board is one of the register, or a boot that shows nothing. -/
theorem chipStep_simulated {chip chip' : Chip} {event : Option (Event WifiCredentials)}
    {register : Register WifiCredentials} (hR : Shows chip register)
    (h : ChipStep chip event chip') :
    ∃ register', Observes CredentialRegister register event.toList register' ∧
      Shows chip' register' := by
  cases h with
  | load h =>
      cases hR with
      | on hnone =>
          obtain ⟨rfl, rfl⟩ := wp_ends (wp_loadCredentials _) h
          exact ⟨_, .single (.load _), .on hnone⟩
  | replace h =>
      cases hR with
      | on hnone =>
          obtain ⟨register', hstep, hshows⟩ := exists_step_replace hnone h
          exact ⟨register', .single hstep, hshows⟩
  | interruptLoad h =>
      cases hR with
      | on hnone =>
          obtain rfl := loadCredentials_cutAt h
          exact ⟨_, .single (.powerLoss _), .powerLost hnone⟩
  | interruptReplace h =>
      cases hR with
      | on hnone =>
          obtain ⟨register', hstep, hshows⟩ := exists_step_interrupt hnone h
          exact ⟨register', .single hstep, hshows⟩
  | powerLoss =>
      cases hR with
      | on hnone => exact ⟨_, .single (.powerLoss _), .powerLost hnone⟩
  | interruptBoot h =>
      cases hR with
      | off hs =>
          obtain ⟨keep, hcut⟩ := h
          obtain ⟨start, hstart, hrecovering⟩ := hs.restart keep
          rw [hstart] at hcut
          have hwp := wp_mono (wp_initCredentialStore_recovering hrecovering)
            (fun _ _ hend => hend.1)
          exact ⟨_, .refl _, .off (wp_cutAt hwp hcut)⟩
  | boot keep h =>
      cases hR with
      | off hs =>
          obtain ⟨register', hstep, hshows⟩ := exists_step_boot hs h
          exact ⟨register', .single hstep, hshows⟩

end Shows

/-- From any records, whatever the board shows in a run the register could show too; so a load
after a replacement that returned true gives its pair until another replacement is made, through
any number of power losses and boots. -/
theorem chip_observes_register {records : Records} {events : List (Event WifiCredentials)}
    {chip : Chip} (h : Observes ChipStep (.off (.settled records)) events chip) :
    (∃ register, Observes CredentialRegister
      (.off (storedPair (records .credActive)) (storedPair (records .credPending)))
      events register) ∧
    ∀ before pair after new, events = before ++ .loaded pair :: after →
      lastReplaced before = some new → pair = some new := by
  have hstart : Shows (.off (.settled records))
      (.off (storedPair (records .credActive)) (storedPair (records .credPending))) :=
    .off (Recovering.settled ⟨.inl rfl, .inr rfl⟩)
  obtain ⟨register, hregister, -⟩ :=
    Observes.simulate (T := ChipStep) chipStep_simulated hstart h
  refine ⟨⟨register, hregister⟩, ?_⟩
  rintro before pair after new rfl hnew
  exact loaded_eq_lastReplaced hregister hnew

/-- An open network, stored in an empty namespace and loaded after the power was lost. -/
theorem chip_observes_register_reload :
    let new := WifiCredentials.ofBytes [0x61]
    let replaced := (replaceCredentials true new).run nvs (.settled fun _ => none)
    let booted := initCredentialStore.run nvs (restart (fun _ => true) replaced.2)
    ((loadCredentials booted.1).run nvs booted.2).1 = some new := by
  intro new replaced booted
  have hv : isCredentialsValid new = true := by decide +kernel
  have htrue : replaced.1 = true :=
    run_of_wp (G := fun _ _ => True) (Q := fun r _ => r = true)
      ((wp_replaceCredentials hv _).2 (by simp))
  have hboot : Ends (toDevice nvs) initCredentialStore
      (restart (fun _ => true) (.settled fun _ => none)) true (.settled fun _ => none) :=
    ends_toDevice_iff.2 rfl
  have hrun : Observes ChipStep (.off (.settled fun _ => none))
      [.booted, .replaced new true, .powerLost, .booted,
        .loaded ((loadCredentials booted.1).run nvs booted.2).1] _ :=
    .cons (.boot _ hboot) <| .cons (.replace (ends_of_run htrue)) <| .cons (.powerLoss _ _) <|
    .cons (.boot (fun _ => true) (ends_of_run rfl)) <| .cons (.load (ends_of_run rfl)) (.refl _)
  exact (chip_observes_register hrun).2 [.booted, .replaced new true, .powerLost, .booted] _ [] new
    rfl rfl

end StripTuner.CredentialStore
