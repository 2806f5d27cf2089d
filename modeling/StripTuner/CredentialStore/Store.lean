import StripTuner.Esp
import StripTuner.Lib.Prog
import StripTuner.CredentialStore.Credentials

/-!
# The credential store

The functions of `credential_store.c` over the NVS calls they make. NVS keeps, for each key, the
record a reader sees now and the record that is committed to flash. The two differ between a set
or an erase and the commit after it.
-/

namespace StripTuner.CredentialStore

open DeviceCalls DeviceCalls.Prog

/-! ## NVS -/

/-- The keys of the namespace: `ACTIVE_KEY` and `PENDING_KEY`. -/
inductive Key where
  | credActive
  | credPending
deriving DecidableEq

inductive OpenMode where
  | readonly
  | readwrite
deriving DecidableEq

/-- The NVS calls of the credential store. -/
inductive NvsCall where
  | flashInit
  | open (mode : OpenMode)
  | setBlob (key : Key) (value : List UInt8)
  | commit
  | getBlob (key : Key) (capacity : Nat)
  | eraseKey (key : Key)
  | close

/-- `nvs_get_blob()` also gives the bytes it put into the buffer, `nvs_close()` gives nothing. -/
abbrev NvsCall.Answer : NvsCall → Type
  | .getBlob _ _ => EspErr × List UInt8
  | .close => Unit
  | _ => EspErr

abbrev Nvs : Type → Type := Prog NvsCall NvsCall.Answer

def nvsFlashInit : Nvs EspErr := perform NvsCall.flashInit
def nvsOpen (mode : OpenMode) : Nvs EspErr := perform (NvsCall.open mode)
def nvsSetBlob (key : Key) (value : List UInt8) : Nvs EspErr := perform (NvsCall.setBlob key value)
def nvsCommit : Nvs EspErr := perform NvsCall.commit
def nvsGetBlob (key : Key) (capacity : Nat) : Nvs (EspErr × List UInt8) :=
  perform (NvsCall.getBlob key capacity)
def nvsEraseKey (key : Key) : Nvs EspErr := perform (NvsCall.eraseKey key)
def nvsClose : Nvs Unit := perform NvsCall.close

/-! ## The functions of the store -/

/-- `WriteAndVerifyRecord()`. -/
def writeAndVerifyRecord (key : Key) (credentials : WifiCredentials) : Nvs Bool := do
  let err ← nvsSetBlob key credentials.toBytes
  let err ← if err = .ok then nvsCommit else pure err
  if err ≠ .ok then
    return false
  else do
    let readback ← nvsGetBlob key credentialsSize
    return readback.1 = .ok && readback.2.length = credentialsSize &&
      WifiCredentials.ofBytes readback.2 = credentials

/-- The two calls that end a replacement or a recovery; their results are not looked at. -/
def erasePending : Nvs Unit := do
  let _ ← nvsEraseKey .credPending
  let _ ← nvsCommit

/-- `RecoverPendingRecord()`. -/
def recoverPendingRecord : Nvs Unit := do
  let err ← nvsOpen .readwrite
  if err ≠ .ok then
    return ()
  else do
    let pending ← nvsGetBlob .credPending credentialsSize
    if pending.1 = .nvsNotFound then
      nvsClose
    else if pending.1 = .ok ∧ pending.2.length = credentialsSize ∧
        isCredentialsValid (WifiCredentials.ofBytes pending.2) = true then do
      let isWritten ← writeAndVerifyRecord .credActive (WifiCredentials.ofBytes pending.2)
      if isWritten then erasePending else pure ()
      nvsClose
    else do
      erasePending
      nvsClose

/-- `InitCredentialStore()`: the result is also the new value of `s_ready`. -/
def initCredentialStore : Nvs Bool := do
  let err ← nvsFlashInit
  if err ≠ .ok then
    return false
  else do
    recoverPendingRecord
    return true

/-- `LoadCredentials()`: the pair on success, `none` where it returns false. -/
def loadCredentials (ready : Bool) : Nvs (Option WifiCredentials) := do
  if !ready then
    return none
  else do
    let err ← nvsOpen .readonly
    if err ≠ .ok then
      return none
    else do
      let active ← nvsGetBlob .credActive credentialsSize
      nvsClose
      let credentials := WifiCredentials.ofBytes active.2
      if active.1 ≠ .ok ∨ active.2.length ≠ credentialsSize ∨
          isCredentialsValid credentials = false then
        return none
      else
        return some credentials

/-- `ReplaceCredentials()`. -/
def replaceCredentials (ready : Bool) (credentials : WifiCredentials) : Nvs Bool := do
  if !ready || !isCredentialsValid credentials then
    return false
  else do
    let err ← nvsOpen .readwrite
    if err ≠ .ok then
      return false
    else do
      let isPendingStored ← writeAndVerifyRecord .credPending credentials
      let isStored ←
        if isPendingStored then writeAndVerifyRecord .credActive credentials else pure false
      if isStored then erasePending else pure ()
      nvsClose
      return isStored

/-! ## Stored records -/

/-- One record for each key, or none. -/
abbrev Records : Type := Key → Option (List UInt8)

/-- What NVS holds: the records a reader sees and the records that are committed. -/
@[ext] structure NvsState where
  current : Records
  committed : Records

/-- A namespace without uncommitted changes. -/
def NvsState.settled (records : Records) : NvsState := ⟨records, records⟩

@[simp] theorem NvsState.settled_current (v : Records) : (settled v).current = v := rfl

@[simp] theorem NvsState.settled_committed (v : Records) : (settled v).committed = v := rfl

/-- The device on which every call succeeds. -/
def nvs : Handler NvsCall NvsCall.Answer NvsState
  | .flashInit, s => (.ok, s)
  | .open _, s => (.ok, s)
  | .setBlob key value, s =>
    (.ok, { s with current := Function.update s.current key (some value) })
  | .commit, s => (.ok, { s with committed := s.current })
  | .getBlob key capacity, s =>
    (match s.current key with
      | none => (.nvsNotFound, [])
      | some value => if capacity < value.length then (.nvsInvalidLength, []) else (.ok, value), s)
  | .eraseKey key, s =>
    match s.current key with
    | none => (.nvsNotFound, s)
    | some _ => (.ok, { s with current := Function.update s.current key none })
  | .close, s => ((), s)

section Calls

variable {α : Type} {G : NvsCall → NvsState → Prop} {Q : α → NvsState → Prop} {s : NvsState}

@[simp] theorem wp_nvsFlashInit (f : EspErr → Nvs α) :
    (nvsFlashInit >>= f).wp (toDevice nvs) G Q s ↔
      G .flashInit s ∧ (f .ok).wp (toDevice nvs) G Q s :=
  wp_perform_bind_toDevice nvs .flashInit rfl f Q

@[simp] theorem wp_nvsOpen (mode : OpenMode) (f : EspErr → Nvs α) :
    (nvsOpen mode >>= f).wp (toDevice nvs) G Q s ↔
      G (.open mode) s ∧ (f .ok).wp (toDevice nvs) G Q s :=
  wp_perform_bind_toDevice nvs (.open mode) rfl f Q

@[simp] theorem wp_nvsSetBlob (key : Key) (value : List UInt8) (f : EspErr → Nvs α) :
    (nvsSetBlob key value >>= f).wp (toDevice nvs) G Q s ↔ G (.setBlob key value) s ∧
      (f .ok).wp (toDevice nvs) G Q
        { s with current := Function.update s.current key (some value) } :=
  wp_perform_bind_toDevice nvs (.setBlob key value) rfl f Q

@[simp] theorem wp_nvsCommit (f : EspErr → Nvs α) :
    (nvsCommit >>= f).wp (toDevice nvs) G Q s ↔
      G .commit s ∧ (f .ok).wp (toDevice nvs) G Q (.settled s.current) :=
  wp_perform_bind_toDevice nvs .commit rfl f Q

theorem wp_nvsGetBlob_none {key : Key} (h : s.current key = none) (capacity : Nat)
    (f : EspErr × List UInt8 → Nvs α) :
    (nvsGetBlob key capacity >>= f).wp (toDevice nvs) G Q s ↔
      G (.getBlob key capacity) s ∧ (f (.nvsNotFound, [])).wp (toDevice nvs) G Q s :=
  wp_perform_bind_toDevice nvs (.getBlob key capacity) (by simp [nvs, h]) f Q

theorem wp_nvsGetBlob_some {key : Key} {value : List UInt8} (h : s.current key = some value)
    {capacity : Nat} (hc : value.length ≤ capacity) (f : EspErr × List UInt8 → Nvs α) :
    (nvsGetBlob key capacity >>= f).wp (toDevice nvs) G Q s ↔
      G (.getBlob key capacity) s ∧ (f (.ok, value)).wp (toDevice nvs) G Q s :=
  wp_perform_bind_toDevice nvs (.getBlob key capacity) (by simp [nvs, h, hc]) f Q

theorem wp_nvsGetBlob_long {key : Key} {value : List UInt8} (h : s.current key = some value)
    {capacity : Nat} (hc : capacity < value.length) (f : EspErr × List UInt8 → Nvs α) :
    (nvsGetBlob key capacity >>= f).wp (toDevice nvs) G Q s ↔
      G (.getBlob key capacity) s ∧ (f (.nvsInvalidLength, [])).wp (toDevice nvs) G Q s :=
  wp_perform_bind_toDevice nvs (.getBlob key capacity) (by simp [nvs, h, hc]) f Q

theorem wp_nvsEraseKey_some {key : Key} {value : List UInt8} (h : s.current key = some value)
    (f : EspErr → Nvs α) :
    (nvsEraseKey key >>= f).wp (toDevice nvs) G Q s ↔ G (.eraseKey key) s ∧
      (f .ok).wp (toDevice nvs) G Q { s with current := Function.update s.current key none } :=
  wp_perform_bind_toDevice nvs (.eraseKey key) (by simp [nvs, h]) f Q

@[simp] theorem wp_nvsClose (f : Unit → Nvs α) :
    (nvsClose >>= f).wp (toDevice nvs) G Q s ↔ G .close s ∧ (f ()).wp (toDevice nvs) G Q s :=
  wp_perform_bind_toDevice nvs .close rfl f Q

@[simp] theorem wp_nvsClose_end (Q : Unit → NvsState → Prop) :
    nvsClose.wp (toDevice nvs) G Q s ↔ G .close s ∧ Q () s :=
  wp_perform_toDevice nvs .close rfl Q

end Calls

/-! ## The active pair -/

/-- The pair that a stored record holds, when it is complete and valid. -/
def storedPair : Option (List UInt8) → Option WifiCredentials
  | none => none
  | some bytes =>
    if bytes.length = credentialsSize ∧ isCredentialsValid (.ofBytes bytes) = true then
      some (.ofBytes bytes)
    else none

/-- What `LoadCredentials()` returns on a ready store. -/
def loadedPair (s : NvsState) : Option WifiCredentials := ((loadCredentials true).run nvs s).1

theorem wp_loadCredentials (s : NvsState) :
    (loadCredentials true).wp (toDevice nvs) (fun _ _ => True)
      (fun pair t => pair = storedPair (s.current .credActive) ∧ t = s) s := by
  simp only [loadCredentials, Bool.not_true, Bool.false_eq_true, if_false, wp_nvsOpen, ne_eq,
    not_true_eq_false, true_and]
  cases ha : s.current .credActive with
  | none => simp [wp_nvsGetBlob_none ha, storedPair]
  | some bytes =>
      by_cases hl : credentialsSize < bytes.length
      · have hne : bytes.length ≠ credentialsSize := by omega
        simp [wp_nvsGetBlob_long ha hl, storedPair, hne]
      · rw [wp_nvsGetBlob_some ha (by omega)]
        by_cases hv : bytes.length = credentialsSize <;>
          by_cases hc : isCredentialsValid (.ofBytes bytes) = true <;>
          simp [storedPair, hv, hc]

theorem loadedPair_eq (s : NvsState) : loadedPair s = storedPair (s.current .credActive) :=
  (run_of_wp (wp_loadCredentials s)).1

@[simp] theorem storedPair_toBytes {credentials : WifiCredentials}
    (h : isCredentialsValid credentials = true) :
    storedPair (some credentials.toBytes) = some credentials := by
  simp [storedPair, h]

/-- The only record that holds a pair is the pair's own bytes. -/
theorem storedPair_eq_some_iff {record : Option (List UInt8)} {credentials : WifiCredentials} :
    storedPair record = some credentials ↔
      record = some credentials.toBytes ∧ isCredentialsValid credentials = true := by
  constructor
  · intro h
    cases record with
    | none => cases h
    | some bytes =>
        simp only [storedPair] at h
        split at h
        · rename_i hb
          obtain rfl := Option.some.inj h
          exact ⟨by rw [WifiCredentials.toBytes_ofBytes hb.1], hb.2⟩
        · cases h
  · rintro ⟨rfl, hv⟩
    exact storedPair_toBytes hv

/-- A boot after a power loss: each key keeps or loses its uncommitted change as a whole. -/
def restart (keep : Key → Bool) (s : NvsState) : NvsState :=
  .settled fun key => if keep key then s.current key else s.committed key

@[simp] theorem restart_settled (keep : Key → Bool) (v : Records) :
    restart keep (.settled v) = .settled v := by
  simp [restart, NvsState.settled]

end StripTuner.CredentialStore
