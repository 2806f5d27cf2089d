import Mathlib.Logic.Relation
import StripTuner.CredentialStore.Store

/-!
# Power loss during a replacement

Power may be cut between any two NVS calls of a replacement, and again between any two calls of
the recoveries that follow it. Every state this can leave has the old or the new record under the
active key and either nothing or the new record under the pending key, whichever uncommitted
changes were kept. The first recovery that completes promotes a pending record and erases it.
-/

namespace StripTuner.CredentialStore

open DeviceCalls DeviceCalls.Prog

/-! ## Evaluation on a working store -/

section Evaluation

variable {α : Type} {G : NvsCall → NvsState → Prop} {Q : α → NvsState → Prop} {s : NvsState}

/-- A write makes the record visible, commits it and reads it back. -/
theorem wp_writeAndVerifyRecord (key : Key) (credentials : WifiCredentials) (f : Bool → Nvs α) :
    (writeAndVerifyRecord key credentials >>= f).wp (toDevice nvs) G Q s ↔
      let written := Function.update s.current key (some credentials.toBytes)
      G (.setBlob key credentials.toBytes) s ∧ G .commit { s with current := written } ∧
        G (.getBlob key credentialsSize) (.settled written) ∧
        (f true).wp (toDevice nvs) G Q (.settled written) := by
  have hread : (NvsState.settled (Function.update s.current key
      (some credentials.toBytes))).current key = some credentials.toBytes := by simp
  simp [writeAndVerifyRecord, ite_bind,
    wp_nvsGetBlob_some hread (Nat.le_of_eq credentials.length_toBytes)]

theorem wp_erasePending {value : List UInt8} (h : s.current .credPending = some value)
    (f : Unit → Nvs α) :
    (erasePending >>= f).wp (toDevice nvs) G Q s ↔
      let erased := Function.update s.current .credPending none
      G (.eraseKey .credPending) s ∧ G .commit { s with current := erased } ∧
        (f ()).wp (toDevice nvs) G Q (.settled erased) := by
  simp [erasePending, wp_nvsEraseKey_some h]

/-- A boot that finds no pending record makes no change. -/
theorem wp_initCredentialStore_none (h : s.current .credPending = none)
    (Q : Bool → NvsState → Prop) :
    initCredentialStore.wp (toDevice nvs) G Q s ↔
      G .flashInit s ∧ G (.open .readwrite) s ∧ G (.getBlob .credPending credentialsSize) s ∧
        G .close s ∧ Q true s := by
  simp [initCredentialStore, recoverPendingRecord, wp_nvsGetBlob_none h]

/-- A boot that finds a complete pending pair makes it the active one, then erases it. -/
theorem wp_initCredentialStore_some {new : WifiCredentials}
    (h : s.current .credPending = some new.toBytes) (hv : isCredentialsValid new = true)
    (Q : Bool → NvsState → Prop) :
    initCredentialStore.wp (toDevice nvs) G Q s ↔
      let promoted := Function.update s.current .credActive (some new.toBytes)
      let final := Function.update promoted .credPending none
      G .flashInit s ∧ G (.open .readwrite) s ∧ G (.getBlob .credPending credentialsSize) s ∧
        G (.setBlob .credActive new.toBytes) s ∧ G .commit { s with current := promoted } ∧
        G (.getBlob .credActive credentialsSize) (.settled promoted) ∧
        G (.eraseKey .credPending) (.settled promoted) ∧
        G .commit ⟨final, promoted⟩ ∧ G .close (.settled final) ∧ Q true (.settled final) := by
  have hpending : (NvsState.settled (Function.update s.current .credActive
      (some new.toBytes))).current .credPending = some new.toBytes := by simpa using h
  simp [initCredentialStore, recoverPendingRecord,
    wp_nvsGetBlob_some h (Nat.le_of_eq new.length_toBytes), hv, wp_writeAndVerifyRecord,
    wp_erasePending hpending]

theorem replaceCredentials_rejected {ready : Bool} {new : WifiCredentials}
    (h : (ready && isCredentialsValid new) = false) : replaceCredentials ready new = pure false := by
  have hcond : (!ready || !isCredentialsValid new) = true := by
    rw [← Bool.not_and, h, Bool.not_false]
  simp only [replaceCredentials, hcond, if_true]

/-- A replacement writes the pending record, then the active one, then erases the pending one. -/
theorem wp_replaceCredentials {new : WifiCredentials} (hv : isCredentialsValid new = true)
    (Q : Bool → NvsState → Prop) :
    (replaceCredentials true new).wp (toDevice nvs) G Q s ↔
      let pending := Function.update s.current .credPending (some new.toBytes)
      let active := Function.update pending .credActive (some new.toBytes)
      let final := Function.update active .credPending none
      G (.open .readwrite) s ∧ G (.setBlob .credPending new.toBytes) s ∧
        G .commit { s with current := pending } ∧
        G (.getBlob .credPending credentialsSize) (.settled pending) ∧
        G (.setBlob .credActive new.toBytes) (.settled pending) ∧ G .commit ⟨active, pending⟩ ∧
        G (.getBlob .credActive credentialsSize) (.settled active) ∧
        G (.eraseKey .credPending) (.settled active) ∧ G .commit ⟨final, active⟩ ∧
        G .close (.settled final) ∧ Q true (.settled final) := by
  have hpending : (NvsState.settled (Function.update (Function.update s.current .credPending
      (some new.toBytes)) .credActive (some new.toBytes))).current .credPending =
      some new.toBytes := by simp
  simp [replaceCredentials, hv, wp_writeAndVerifyRecord, wp_erasePending hpending]

end Evaluation

/-! ## What a cut can leave -/

/-- The records between an old and a new active record: a transactional replacement shows no
others. -/
structure Between (old new : Option (List UInt8)) (records : Records) : Prop where
  active : records .credActive = old ∨ records .credActive = new
  pending : records .credPending = none ∨ records .credPending = new

/-- A state that a power cut can leave while `old` is being replaced by `new`. -/
structure CutState (old new : Option (List UInt8)) (s : NvsState) : Prop where
  current : Between old new s.current
  committed : Between old new s.committed

section CutState

variable {old new : Option (List UInt8)} {records : Records} {s : NvsState}

theorem Between.update_active (h : Between old new records) :
    Between old new (Function.update records .credActive new) where
  active := .inr (by simp)
  pending := by simpa using h.pending

theorem Between.update_pending (h : Between old new records) :
    Between old new (Function.update records .credPending new) where
  active := by simpa using h.active
  pending := .inr (by simp)

theorem Between.erase_pending (h : Between old new records) :
    Between old new (Function.update records .credPending none) where
  active := by simpa using h.active
  pending := .inl (by simp)

theorem Between.settled (h : Between old new records) : CutState old new (.settled records) :=
  ⟨h, h⟩

/-- Losing power mixes two allowed views key by key, and every mixture is allowed. -/
theorem CutState.restart (h : CutState old new s) (keep : Key → Bool) :
    CutState old new (restart keep s) := by
  refine Between.settled ⟨?_, ?_⟩
  · by_cases hk : keep .credActive
    · simpa [hk] using h.current.active
    · simpa [hk] using h.committed.active
  · by_cases hk : keep .credPending
    · simpa [hk] using h.current.pending
    · simpa [hk] using h.committed.pending

/-- Wherever a replacement is cut, the state is between the old and the new record. -/
theorem replaceCredentials_cutAt {ready : Bool} {new : WifiCredentials} {t : NvsState}
    (hpending : records .credPending = none)
    (hcut : CutAt (toDevice nvs) (replaceCredentials ready new) (.settled records) t) :
    CutState (records .credActive) (some new.toBytes) t ∧
      (t = .settled records ∨ isCredentialsValid new = true) := by
  have h0 : Between (records .credActive) (some new.toBytes) records := ⟨.inl rfl, .inl hpending⟩
  by_cases hv : (ready && isCredentialsValid new) = true
  · obtain ⟨rfl, hv⟩ := Bool.and_eq_true_iff.1 hv
    refine ⟨wp_cutAt ?_ hcut, .inr hv⟩
    have h1 := h0.update_pending
    have h2 := h1.update_active
    have h3 := h2.erase_pending
    exact (wp_replaceCredentials hv _).2 ⟨h0.settled, h0.settled, ⟨h1, h0⟩, h1.settled, h1.settled,
      ⟨h2, h1⟩, h2.settled, h2.settled, ⟨h3, h2⟩, h3.settled, h3.settled⟩
  · rw [replaceCredentials_rejected (by simpa using hv)] at hcut
    obtain rfl : t = .settled records := by
      obtain ⟨c, hr⟩ | ⟨a, he⟩ := hcut
      · cases hr
      · cases he; rfl
    exact ⟨h0.settled, .inl rfl⟩

/-! ## Boots -/

/-- A boot whose recovery is cut at some point, or completes and is cut later. -/
def BootCut (s t : NvsState) : Prop :=
  ∃ keep, CutAt (toDevice nvs) initCredentialStore (restart keep s) t

/-- Boots do not change a settled namespace without a pending record. -/
theorem bootCut_noPending {t : NvsState} (hp : records .credPending = none)
    (h : BootCut (.settled records) t) : t = .settled records := by
  obtain ⟨keep, hcut⟩ := h
  rw [restart_settled] at hcut
  refine wp_cutAt (C := fun u => u = .settled records) ?_ hcut
  simp [wp_initCredentialStore_none (s := .settled records) hp]

theorem bootCuts_noPending {t : NvsState} (hp : records .credPending = none)
    (h : Relation.ReflTransGen BootCut (.settled records) t) : t = .settled records := by
  induction h with
  | refl => rfl
  | tail _ hb ih =>
      subst ih
      exact bootCut_noPending hp hb

theorem boot_noPending {t : NvsState} {ready : Bool} {keep : Key → Bool}
    (hp : records .credPending = none)
    (h : Ends (toDevice nvs) initCredentialStore (restart keep (.settled records)) ready t) :
    ready = true ∧ t = .settled records := by
  rw [restart_settled] at h
  refine wp_ends (G := fun _ _ => True) (Q := fun r u => r = true ∧ u = .settled records) ?_ h
  simp [wp_initCredentialStore_none (s := .settled records) hp]

section Recovery

variable {new : WifiCredentials} (hv : isCredentialsValid new = true)
include hv

/-- From a state that a cut can leave, a boot keeps such a state at each of its calls, and when it
completes it has settled on the old or the new record. -/
theorem wp_initCredentialStore_between (h : Between old (some new.toBytes) records) :
    initCredentialStore.wp (toDevice nvs) (fun _ => CutState old (some new.toBytes))
      (fun ready t => ready = true ∧ CutState old (some new.toBytes) t ∧
        ∃ final, t = .settled final ∧ final .credPending = none) (.settled records) := by
  rcases h.pending with hp | hp
  · rw [wp_initCredentialStore_none hp]
    exact ⟨h.settled, h.settled, h.settled, h.settled, rfl, h.settled, records, rfl, hp⟩
  · rw [wp_initCredentialStore_some hp hv]
    have h1 := h.update_active
    have h2 := h1.erase_pending
    exact ⟨h.settled, h.settled, h.settled, h.settled, ⟨h1, h⟩, h1.settled, h1.settled, ⟨h2, h1⟩,
      h2.settled, rfl, h2.settled, _, rfl, by simp⟩

theorem bootCut_cutState {t : NvsState} (hs : CutState old (some new.toBytes) s)
    (h : BootCut s t) : CutState old (some new.toBytes) t := by
  obtain ⟨keep, hcut⟩ := h
  refine wp_cutAt (wp_mono (wp_initCredentialStore_between hv (hs.restart keep).current) ?_) hcut
  exact fun _ _ h => h.2.1

theorem bootCuts_cutState {t : NvsState} (hs : CutState old (some new.toBytes) s)
    (h : Relation.ReflTransGen BootCut s t) : CutState old (some new.toBytes) t := by
  induction h with
  | refl => exact hs
  | tail _ hb ih => exact bootCut_cutState hv ih hb

theorem boot_cutState {t : NvsState} {ready : Bool} {keep : Key → Bool}
    (hs : CutState old (some new.toBytes) s)
    (h : Ends (toDevice nvs) initCredentialStore (restart keep s) ready t) :
    ready = true ∧ CutState old (some new.toBytes) t ∧
      ∃ final, t = .settled final ∧ final .credPending = none :=
  wp_ends (wp_initCredentialStore_between hv (hs.restart keep).current) h

end Recovery

end CutState

/-! ## The old or the new pair -/

/-- Wherever a replacement and the boots after it are cut, the first boot that completes leaves no
pending record and the complete old or the complete new pair, the new one when the replacement had
returned true, and later boots change nothing. -/
theorem replaceCredentials_power_loss (records : Records) (ready : Bool) (new : WifiCredentials)
    (hpending : records .credPending = none) {cut stopped booted : NvsState}
    (hcut : CutAt (toDevice nvs) (replaceCredentials ready new) (.settled records) cut)
    (hboots : Relation.ReflTransGen BootCut cut stopped) {keep : Key → Bool} {isReady : Bool}
    (hboot : Ends (toDevice nvs) initCredentialStore (restart keep stopped) isReady booted) :
    isReady = true ∧ booted.current .credPending = none ∧ booted.committed .credPending = none ∧
      (loadedPair booted = loadedPair (.settled records) ∨ loadedPair booted = some new) ∧
      (Ends (toDevice nvs) (replaceCredentials ready new) (.settled records) true cut →
        loadedPair booted = some new) ∧
      ∀ later, Relation.ReflTransGen BootCut booted later → ∀ keep' isReady' rebooted,
        Ends (toDevice nvs) initCredentialStore (restart keep' later) isReady' rebooted →
        isReady' = true ∧ loadedPair rebooted = loadedPair booted := by
  obtain ⟨hstate, hunchanged⟩ := replaceCredentials_cutAt hpending hcut
  -- The first boot that completes has settled on one of the two records.
  have hsettled : isReady = true ∧
      CutState (records .credActive) (some new.toBytes) booted ∧
      ∃ final, booted = .settled final ∧ final .credPending = none := by
    rcases hunchanged with rfl | hv
    · obtain rfl := bootCuts_noPending hpending hboots
      obtain ⟨rfl, rfl⟩ := boot_noPending hpending hboot
      exact ⟨rfl, hstate, records, rfl, hpending⟩
    · exact boot_cutState hv (bootCuts_cutState hv hstate hboots) hboot
  obtain ⟨rfl, hbooted, final, rfl, hfinal⟩ := hsettled
  refine ⟨rfl, hfinal, hfinal, ?_, ?_, ?_⟩
  · rcases hunchanged with rfl | hv
    · obtain rfl := bootCuts_noPending hpending hboots
      exact .inl (by rw [(boot_noPending hpending hboot).2])
    · rw [loadedPair_eq, loadedPair_eq]
      rcases hbooted.current.active with ha | ha
      · exact .inl (by rw [ha]; rfl)
      · exact .inr (by rw [ha, storedPair_toBytes hv])
  · intro hends
    have hv : (ready && isCredentialsValid new) = true := by
      by_contra hne
      rw [replaceCredentials_rejected (by simpa using hne)] at hends
      cases hends
    obtain ⟨rfl, hv⟩ := Bool.and_eq_true_iff.1 hv
    have hdone : cut.current .credActive = some new.toBytes ∧ cut.current .credPending = none ∧
        cut = .settled cut.current := by
      refine wp_ends (G := fun _ _ => True) (Q := fun _ t => t.current .credActive =
        some new.toBytes ∧ t.current .credPending = none ∧ t = .settled t.current) ?_ hends
      simp [wp_replaceCredentials hv]
    obtain ⟨ha, hp, hc⟩ := hdone
    rw [hc] at hboots
    obtain rfl := bootCuts_noPending hp hboots
    rw [(boot_noPending hp hboot).2, loadedPair_eq, NvsState.settled_current, ha,
      storedPair_toBytes hv]
  · intro later hlater keep' isReady' rebooted hreboot
    obtain rfl := bootCuts_noPending hfinal hlater
    obtain ⟨hr, ht⟩ := boot_noPending hfinal hreboot
    exact ⟨hr, by rw [ht]⟩

/-- A replacement that is cut before it commits the active record, and a recovery that is cut there
again. -/
theorem replaceCredentials_power_loss_twice :
    let old := WifiCredentials.ofBytes [0x61]
    let new := WifiCredentials.ofBytes [0x62]
    let records : Records := fun key =>
      match key with
      | .credActive => some old.toBytes
      | .credPending => none
    let pending := Function.update records .credPending (some new.toBytes)
    let cut : NvsState := ⟨Function.update pending .credActive (some new.toBytes), pending⟩
    let booted := initCredentialStore.run nvs (restart (fun _ => false) cut)
    CutAt (toDevice nvs) (replaceCredentials true new) (.settled records) cut ∧ BootCut cut cut ∧
      booted.2.current .credPending = none ∧
      (loadedPair booted.2 = some old ∨ loadedPair booted.2 = some new) := by
  intro old new records pending cut booted
  have hold : loadedPair (.settled records) = some old := by decide +kernel
  have hv : isCredentialsValid new = true := by decide +kernel
  have hcut : CutAt (toDevice nvs) (replaceCredentials true new) (.settled records) cut := by
    refine cutAt_of_callAt 5 (c := .commit) ?_
    simp [replaceCredentials, hv, nvsOpen, writeAndVerifyRecord, nvsSetBlob, nvsCommit, nvsGetBlob,
      nvs, bind_assoc]
    rfl
  have hboot : BootCut cut cut := by
    refine ⟨fun _ => false, cutAt_of_callAt 4 (c := .commit) ?_⟩
    have hpending : pending .credPending = some new.toBytes := by simp [pending]
    rw [show restart (fun _ => false) cut = .settled pending from rfl]
    simp [initCredentialStore, recoverPendingRecord, nvsFlashInit, nvsOpen, nvsGetBlob, hpending, hv,
      writeAndVerifyRecord, nvsSetBlob, nvsCommit, nvs, bind_assoc]
    rfl
  have hbooted : Ends (toDevice nvs) initCredentialStore (restart (fun _ => false) cut)
      booted.1 booted.2 := ends_of_run rfl
  obtain ⟨-, hpending, -, hpair, -, -⟩ :=
    replaceCredentials_power_loss records true new rfl hcut (.single hboot) hbooted
  rw [hold] at hpair
  exact ⟨hcut, hboot, hpending, hpair⟩

end StripTuner.CredentialStore
