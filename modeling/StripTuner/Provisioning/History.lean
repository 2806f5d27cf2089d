import StripTuner.Lib.Monitor
import StripTuner.Provisioning.Core

/-!
# Histories of the orchestrator

A property of a whole run is a rule for its history, read by a monitor. To show that the history
obeys it, the state machine is verified on a ledger: what the monitor has read, the store's active
record, and a time that has passed.
-/

namespace StripTuner.Provisioning

open CredentialStore DeviceCalls DeviceCalls.Sketch

variable {σ : Type}

structure Ledger (σ : Type) where
  now : Nat
  activeRecord : Option WifiCredentials
  read : σ

/-- The calls that are recorded, and those that read the time. -/
def ledgerDevice (M : Monitor σ Record) : Device Call Call.Answer (Ledger σ)
  | .tickCount, x, now, y =>
    ∃ ticks ≥ x.now, now = UInt32.ofNat ticks ∧ y = { x with now := ticks }
  | .deadlineTickCount timeoutMs, x, now, y =>
    ∃ ticks ≥ x.now, now = UInt32.ofNat ticks ∧
      y = { x with now := ticks, read := M.step x.read (.armed timeoutMs ticks) }
  | .setState state timeoutMs, x, _, y =>
    y = { x with read := M.step x.read (.entered state timeoutMs) }
  | .connectWifiStation credentials, x, _, y =>
    y = { x with read := M.step x.read (.connected credentials) }
  | .handleTimeout, x, _, y =>
    ∃ ticks ≥ x.now, y = { x with now := ticks, read := M.step x.read (.handledTimeout ticks) }
  | .getWaitTicks, x, _, y =>
    ∃ ticks ≥ x.now, y = { x with now := ticks, read := M.step x.read (.waiting ticks) }
  | .markFirmwareHealthy, x, _, y =>
    ∃ ticks ≥ x.now, y = { x with now := ticks, read := M.step x.read (.markedHealthy ticks) }
  | .replaceCredentials credentials, x, isStored, y =>
    ∃ activeRecord, (isStored = true → activeRecord = some credentials ∧
        isCredentialsValid credentials = true) ∧
      y = { x with
        activeRecord := activeRecord
        read := M.step x.read (.replaced credentials) }
  | _, x, _, y => y = x

/-- The rule allows what a call records. -/
def ledgerGuard (A : σ → Record → Prop) : Call → Ledger σ → Prop
  | .deadlineTickCount timeoutMs, x => ∀ ticks ≥ x.now, A x.read (.armed timeoutMs ticks)
  | .setState state timeoutMs, x => A x.read (.entered state timeoutMs)
  | .connectWifiStation credentials, x => A x.read (.connected credentials)
  | .handleTimeout, x => ∀ ticks ≥ x.now, A x.read (.handledTimeout ticks)
  | .getWaitTicks, x => ∀ ticks ≥ x.now, A x.read (.waiting ticks)
  | .markFirmwareHealthy, x => ∀ ticks ≥ x.now, A x.read (.markedHealthy ticks)
  | .replaceCredentials credentials, x => A x.read (.replaced credentials)
  | _, _ => True

/-- The ledger of a system whose history obeys the rule. -/
structure LedgerOf (M : Monitor σ Record) (A : σ → Record → Prop) (s : System) (x : Ledger σ) :
    Prop where
  now : x.now ≤ s.ticks
  activeRecord : x.activeRecord = s.activeRecord
  read : x.read = M.run s.history
  obeys : M.Obeys A s.history

section Ledger

variable {M : Monitor σ Record} {A : σ → Record → Prop} {s t : System} {x : Ledger σ}

/-- A new record, no later than now. -/
theorem LedgerOf.record (h : LedgerOf M A s x) {r : Record} (hA : A x.read r) {ticks : Nat}
    (hticks : ticks ≤ t.ticks) (hactive : t.activeRecord = s.activeRecord)
    (hhistory : t.history = s.history ++ [r]) :
    LedgerOf M A t { x with now := ticks, read := M.step x.read r } where
  now := hticks
  activeRecord := by rw [hactive, h.activeRecord]
  read := by rw [hhistory, M.run_snoc, h.read]
  obeys := by
    rw [hhistory]
    exact h.obeys.snoc (h.read ▸ hA)

/-- Other tasks record nothing. -/
theorem LedgerOf.of_eq (h : LedgerOf M A s x) (hticks : s.ticks ≤ t.ticks)
    (hactive : t.activeRecord = s.activeRecord) (hhistory : t.history = s.history) :
    LedgerOf M A t x := by
  refine ⟨h.now.trans hticks, ?_, ?_, ?_⟩
  · rw [hactive, h.activeRecord]
  · rw [hhistory, h.read]
  · rw [hhistory]
    exact h.obeys

@[simp] theorem System.post_ticks (s : System) (message : Message) :
    (s.post message).ticks = s.ticks := by
  unfold System.post
  dsimp only
  split <;> rfl

@[simp] theorem System.post_activeRecord (s : System) (message : Message) :
    (s.post message).activeRecord = s.activeRecord := by
  unfold System.post
  dsimp only
  split <;> rfl

@[simp] theorem System.post_history (s : System) (message : Message) :
    (s.post message).history = s.history := by
  unfold System.post
  dsimp only
  split <;> rfl

theorem LedgerOf.other (h : LedgerOf M A s x) {event : Event} (hstep : OtherStep s event t) :
    LedgerOf M A t x := by
  cases hstep with
  | tick => exact h.of_eq (Nat.le_succ _) rfl rfl
  | post => exact h.of_eq (by simp) (by simp) (by simp)
  | postSubmission => exact h.of_eq (by simp) (by simp) (by simp)
  | submit | checkIdle | writeConnecting | respond | dnsOpens | dnsOpenFails | dnsStops =>
      exact h.of_eq le_rfl rfl rfl

/-- A call on the shared data is one on the ledger. -/
theorem LedgerOf.call (h : LedgerOf M A s x) {call : Call} (hG : ledgerGuard A call x)
    {r : call.Answer} (hshared : sharedDevice call s r t) :
    ∃ y, ledgerDevice M call x r y ∧ LedgerOf M A t y := by
  cases call with
  | tickCount =>
      obtain ⟨rfl, rfl⟩ := hshared
      exact ⟨_, ⟨_, h.now, rfl, rfl⟩, ⟨le_rfl, h.activeRecord, h.read, h.obeys⟩⟩
  | deadlineTickCount =>
      obtain ⟨rfl, rfl⟩ := hshared
      exact ⟨_, ⟨_, h.now, rfl, rfl⟩, h.record (hG _ h.now) le_rfl rfl rfl⟩
  | setState | connectWifiStation =>
      obtain rfl := hshared
      exact ⟨_, rfl, h.record hG h.now rfl rfl⟩
  | handleTimeout | getWaitTicks | markFirmwareHealthy =>
      obtain rfl := hshared
      exact ⟨_, ⟨_, h.now, rfl⟩, h.record (hG _ h.now) le_rfl rfl rfl⟩
  | replaceCredentials credentials =>
      obtain ⟨activeRecord, hstored, rfl⟩ := hshared
      have hrecord : LedgerOf M A ((s.decideTrial r).record (.replaced credentials)) _ :=
        h.record hG h.now rfl rfl
      exact ⟨_, ⟨activeRecord, hstored, rfl⟩, hrecord.now, rfl, hrecord.read, hrecord.obeys⟩
  | setPortalStatus =>
      obtain rfl := hshared
      exact ⟨x, rfl, h.of_eq le_rfl rfl rfl⟩
  | httpdStop | dnsStopTickCount | dnsWaitTickCount =>
      obtain ⟨-, rfl⟩ := hshared
      exact ⟨x, rfl, h⟩
  | keepWaiting | espRestart => exact nomatch r
  | _ =>
      obtain rfl := hshared
      exact ⟨x, rfl, h⟩

theorem simulates_ledger (M : Monitor σ Record) (A : σ → Record → Prop)
    (P : System → Event → Prop) :
    Simulates systemDevice (OtherStepIn P) (LedgerOf M A)
      (ledgerDevice M) (ledgerGuard A) := by
  refine ⟨?_, fun h ⟨_, _, hstep⟩ => h.other hstep⟩
  rintro call s r t x h hG ⟨u, hshared, -, ht⟩
  obtain ⟨y, hcall, hy⟩ := h.call hG hshared
  refine ⟨y, hcall, hy.of_eq ?_ ?_ ?_⟩ <;> rw [ht]

/-- The start of an iteration. -/
def Ledger.start (M : Monitor σ Record) (x : Ledger σ) (r : Record) : Ledger σ :=
  { x with read := M.step x.read r }

/-- It is enough to verify the machine on the ledger; the rule allows what starts an iteration. -/
theorem coreInvariant_of_ledger {P : System → Event → Prop} {Q : Core × UInt32 → Ledger σ → Prop}
    (hstarted : ∀ a ticks, A a (.started ticks)) (hreceived : ∀ a message, A a (.received message))
    (htimedOut : ∀ a, A a .timedOut)
    (start : ∀ (o : Orchestrator) s x, s.Initial → o.StartedIn s → x.read = M.run s.history →
      x.now = s.ticks → x.activeRecord = s.activeRecord →
      (o.core.setState .bootWait bootButtonWindowMs >>= Core.waitForMessage).wp (ledgerDevice M)
        (ledgerGuard A) Q x)
    (message : ∀ c waitTicks x message, Q (c, waitTicks) x →
      (c.handleMessage message >>= Core.waitForMessage).wp (ledgerDevice M) (ledgerGuard A) Q
        (x.start M (.received message)))
    (timeout : ∀ c waitTicks x, Q (c, waitTicks) x →
      (c.checkDeadlines >>= Core.waitForMessage).wp (ledgerDevice M) (ledgerGuard A) Q
        (x.start M .timedOut)) :
    CoreInvariant P (LedgerOf M A) (ledgerDevice M) (ledgerGuard A) Q where
  simulates := simulates_ledger M A P
  service := by
    intro c hc x
    cases c <;> trivial
  quiet := by
    intro c hc x r x' hd
    cases c <;> first | exact hc.elim | exact hd
  start := by
    intro o s hinitial hin
    obtain ⟨startTicks, -, hhistory, -⟩ := hin.healthyDeadlineTicks
    refine ⟨⟨s.ticks, s.activeRecord, M.run s.history⟩, ⟨le_rfl, rfl, rfl, ?_⟩, ?_⟩
    · rw [hhistory]
      exact M.obeys_nil.snoc (hstarted _ startTicks)
    · exact start o s _ hinitial hin rfl rfl rfl
  message := fun c waitTicks s x m rest h hQ _ =>
    ⟨_, h.record (hreceived _ m) h.now rfl rfl, message c waitTicks x m hQ⟩
  timeout := fun c waitTicks s x h hQ _ =>
    ⟨_, h.record (htimedOut _) h.now rfl rfl, timeout c waitTicks x hQ⟩

/-! ## Rules -/

/-- `GetRemainingTicks()` at a time. -/
def remainingTicks (deadlineTicks now : UInt32) : UInt32 :=
  if 0 < (deadlineTicks - now).toInt32 then deadlineTicks - now else 0

/-- The weakest precondition on the ledger. -/
abbrev Meets {α : Type} (M : Monitor σ Record) (A : σ → Record → Prop) (q : Core.Machine α)
    (Q : α → Ledger σ → Prop) (x : Ledger σ) : Prop :=
  q.wp (ledgerDevice M) (ledgerGuard A) Q x

theorem meets_bind {α β : Type} {p : Core.Machine β} {f : β → Core.Machine α}
    {Q : α → Ledger σ → Prop} (h : Meets M A p (fun b y => Meets M A (f b) Q y) x) :
    Meets M A (p >>= f) Q x :=
  (Sketch.wp_bind p f).mpr h

@[simp] theorem meets_connectWifiStation (credentials : WifiCredentials)
    {Q : Unit → Ledger σ → Prop} :
    Meets M A (Core.connectWifiStation credentials) Q x ↔
      A x.read (.connected credentials) ∧
        Q () { x with read := M.step x.read (.connected credentials) } :=
  and_congr_right fun _ => ⟨fun h => h () _ rfl, fun h _ _ heq => heq ▸ h⟩

@[simp] theorem meets_setPortalStatus (status : PortalStatus) {Q : Unit → Ledger σ → Prop} :
    Meets M A (Core.setPortalStatus status) Q x ↔ Q () x :=
  ⟨fun h => h.2 () _ rfl, fun h => ⟨trivial, fun _ _ heq => heq ▸ h⟩⟩

/-- A call that is recorded with the time it happens at. -/
theorem forall_ticks_iff {now : Nat} {B : Nat → Prop} {f : Nat → Ledger σ}
    {Q : Unit → Ledger σ → Prop} :
    ((∀ ticks ≥ now, B ticks) ∧ ∀ r y, (∃ ticks ≥ now, y = f ticks) → Q r y) ↔
      ∀ ticks ≥ now, B ticks ∧ Q () (f ticks) := by
  constructor
  · exact fun ⟨hB, hQ⟩ ticks hticks => ⟨hB ticks hticks, hQ () _ ⟨ticks, hticks, rfl⟩⟩
  · intro h
    refine ⟨fun ticks hticks => (h ticks hticks).1, ?_⟩
    rintro r y ⟨ticks, hticks, rfl⟩
    exact (h ticks hticks).2

@[simp] theorem meets_enterTimeout {Q : Unit → Ledger σ → Prop} :
    Meets M A Core.enterTimeout Q x ↔ ∀ ticks ≥ x.now,
      A x.read (.handledTimeout ticks) ∧
        Q () { x with now := ticks, read := M.step x.read (.handledTimeout ticks) } :=
  forall_ticks_iff

@[simp] theorem meets_enterWait {Q : Unit → Ledger σ → Prop} :
    Meets M A Core.enterWait Q x ↔ ∀ ticks ≥ x.now,
      A x.read (.waiting ticks) ∧
        Q () { x with now := ticks, read := M.step x.read (.waiting ticks) } :=
  forall_ticks_iff

@[simp] theorem meets_markFirmwareHealthy {Q : Unit → Ledger σ → Prop} :
    Meets M A Core.markFirmwareHealthy Q x ↔ ∀ ticks ≥ x.now,
      A x.read (.markedHealthy ticks) ∧
        Q () { x with now := ticks, read := M.step x.read (.markedHealthy ticks) } :=
  forall_ticks_iff

@[simp] theorem meets_replaceCredentials (credentials : WifiCredentials)
    {Q : Bool → Ledger σ → Prop} :
    Meets M A (Core.replaceCredentials credentials) Q x ↔
      A x.read (.replaced credentials) ∧ ∀ isStored activeRecord,
        (isStored = true → activeRecord = some credentials ∧
          isCredentialsValid credentials = true) →
        Q isStored { x with
          activeRecord := activeRecord
          read := M.step x.read (.replaced credentials) } := by
  simp only [Meets, Core.replaceCredentials, wp_ask, ledgerGuard, ledgerDevice]
  refine and_congr_right fun _ => ⟨?_, ?_⟩
  · exact fun h isStored activeRecord hstored => h _ _ ⟨activeRecord, hstored, rfl⟩
  · rintro h isStored y ⟨activeRecord, hstored, rfl⟩
    exact h isStored activeRecord hstored

/-- A read of the time. -/
@[simp] theorem meets_getRemainingTicks (deadlineTicks : UInt32) {Q : UInt32 → Ledger σ → Prop} :
    Meets M A (ofProg (getRemainingTicks deadlineTicks)) Q x ↔
      ∀ ticks ≥ x.now, Q (remainingTicks deadlineTicks (UInt32.ofNat ticks))
        { x with now := ticks } := by
  rw [Meets, wp_ofProg]
  show (True ∧ ∀ now y, (∃ ticks ≥ x.now, now = UInt32.ofNat ticks ∧ y = { x with now := ticks }) →
    Q (remainingTicks deadlineTicks now) y) ↔ _
  constructor
  · exact fun ⟨_, h⟩ ticks hticks => h _ _ ⟨ticks, hticks, rfl, rfl⟩
  · rintro h
    refine ⟨trivial, ?_⟩
    rintro now y ⟨ticks, hticks, rfl, rfl⟩
    exact h ticks hticks

@[simp] theorem meets_setState (c : Core) (state : OrchestratorState) (timeoutMs : UInt32)
    {Q : Core → Ledger σ → Prop} :
    Meets M A (c.setState state timeoutMs) Q x ↔
      A x.read (.entered state timeoutMs) ∧ ∀ ticks ≥ x.now,
        A (M.step x.read (.entered state timeoutMs)) (.armed timeoutMs ticks) ∧
        Q { c with
          state := state
          hasDeadline := timeoutMs ≠ 0
          deadlineTicks := UInt32.ofNat ticks + pdMsToTicks timeoutMs }
          { x with
            now := ticks
            read := M.step (M.step x.read (.entered state timeoutMs)) (.armed timeoutMs ticks) } := by
  simp [Meets, Core.setState, wp_ask, ledgerGuard, ledgerDevice]
  intro _
  constructor
  · rintro ⟨hA, hQ⟩ ticks hticks
    exact ⟨hA ticks hticks, hQ _ _ ticks hticks rfl rfl⟩
  · intro h
    refine ⟨fun ticks hticks => (h ticks hticks).1, ?_⟩
    rintro _ _ ticks hticks rfl rfl
    exact (h ticks hticks).2

theorem meets_startStationServices {c : Core} {Q : Core → Ledger σ → Prop}
    (h : ∀ timeoutMs, timeoutMs = mdnsHostnameCheckDelayMs ∨ timeoutMs = stationServiceRetryMs →
      Meets M A (c.setState .connected timeoutMs) Q x) :
    Meets M A c.startStationServices Q x := by
  apply meets_bind
  exact wp_guess.mpr ⟨h _ (.inl rfl), h _ (.inr rfl)⟩

theorem meets_enterProvisioning {c : Core} {Q : Core → Ledger σ → Prop}
    (hidle : Meets M A (c.setState .portalIdle 0) Q x)
    (hretry : Meets M A (c.setState .portalRetry portalRetryMs) Q x) :
    Meets M A c.enterProvisioning Q x := by
  apply meets_bind
  apply meets_bind
  refine wp_guess.mpr ⟨?_, hretry⟩
  apply meets_bind
  rw [meets_setPortalStatus]
  exact wp_guess.mpr ⟨hidle, hretry⟩

theorem meets_waitForMessage {c : Core} {Q : Core × UInt32 → Ledger σ → Prop}
    (hA : ∀ ticks ≥ x.now, A x.read (.waiting ticks))
    (hQ : ∀ waitTicks y ticks, ticks ≥ x.now → y.read = M.step x.read (.waiting ticks) →
      y.activeRecord = x.activeRecord → Q (c, waitTicks) y) :
    Meets M A c.waitForMessage Q x := by
  simp [Core.waitForMessage, Core.getWaitTicks]
  grind

/-! ## Rules that do not look at the time -/

/-- The records that carry a time are allowed and not read. -/
structure Blind (M : Monitor σ Record) (A : σ → Record → Prop) : Prop where
  started : ∀ a ticks, M.step a (.started ticks) = a ∧ A a (.started ticks)
  armed : ∀ a timeoutMs ticks, M.step a (.armed timeoutMs ticks) = a ∧ A a (.armed timeoutMs ticks)
  handledTimeout : ∀ a ticks, M.step a (.handledTimeout ticks) = a ∧ A a (.handledTimeout ticks)
  waiting : ∀ a ticks, M.step a (.waiting ticks) = a ∧ A a (.waiting ticks)
  markedHealthy : ∀ a ticks, M.step a (.markedHealthy ticks) = a ∧ A a (.markedHealthy ticks)
  received : ∀ a message, A a (.received message)
  timedOut : ∀ a, A a .timedOut

section Blind

variable {c : Core} {I : Core → σ → Option WifiCredentials → Prop}

/-- A property of the machine, of what is read and of the active record. -/
abbrev Settles (M : Monitor σ Record) (A : σ → Record → Prop)
    (I : Core → σ → Option WifiCredentials → Prop) (q : Core.Machine Core) (x : Ledger σ) : Prop :=
  Meets M A q (fun c y => I c y.read y.activeRecord) x

theorem Blind.setState (h : Blind M A) {state : OrchestratorState} {timeoutMs : UInt32}
    (hA : A x.read (.entered state timeoutMs))
    (hI : ∀ deadlineTicks, I { c with
      state := state
      hasDeadline := timeoutMs ≠ 0
      deadlineTicks := deadlineTicks } (M.step x.read (.entered state timeoutMs)) x.activeRecord) :
    Settles M A I (c.setState state timeoutMs) x := by
  rw [Settles, meets_setState]
  refine ⟨hA, fun ticks _ => ?_⟩
  obtain ⟨hstep, harmed⟩ := h.armed (M.step x.read (.entered state timeoutMs)) timeoutMs ticks
  exact ⟨harmed, by simpa only [hstep] using hI _⟩

theorem Blind.waitForMessage (h : Blind M A) {q : Core.Machine Core} (hq : Settles M A I q x) :
    Meets M A (q >>= Core.waitForMessage) (fun a y => I a.1 y.read y.activeRecord) x := by
  apply meets_bind
  refine wp_mono hq fun c y hI => ?_
  apply meets_waitForMessage
  · exact fun ticks _ => (h.waiting _ ticks).2
  · intro waitTicks z ticks _ hread hactive
    rw [(h.waiting _ ticks).1] at hread
    rw [hread, hactive]
    exact hI

/-- The timers only decide whether the state is left, and whether the firmware is healthy. -/
theorem Blind.checkDeadlines (h : Blind M A)
    (hpending : ∀ c a r, I c a r → I { c with isHealthyPending := false } a r)
    (hleave : ∀ c y, I c y.read y.activeRecord → Settles M A I c.leaveState y)
    (hI : I c x.read x.activeRecord) : Settles M A I c.checkDeadlines x := by
  have hstate : ∀ c y, I c y.read y.activeRecord → Settles M A I c.checkStateDeadline y := by
    intro c y hy
    unfold Core.checkStateDeadline
    simp only [wp_ite, wp_bind, meets_getRemainingTicks]
    refine ⟨fun _ ticks _ => ⟨fun _ => ?_, fun _ => hy⟩, fun _ => hy⟩
    apply meets_bind
    rw [meets_enterTimeout]
    refine fun later _ => ⟨(h.handledTimeout _ later).2, hleave _ _ ?_⟩
    simpa only [(h.handledTimeout _ later).1] using hy
  unfold Core.checkDeadlines Core.checkHealthyDeadline
  simp only [wp_ite, wp_bind, meets_getRemainingTicks]
  refine ⟨fun _ ticks _ => ⟨fun _ => ?_, fun _ => hstate _ _ hI⟩, fun _ => hstate _ _ hI⟩
  refine meets_markFirmwareHealthy.mpr ?_
  refine fun later _ => ⟨(h.markedHealthy _ later).2, hstate _ _ ?_⟩
  simpa only [(h.markedHealthy _ later).1] using hpending _ _ _ hI

/-- The machine is verified on its messages and on leaving a state. -/
theorem Blind.coreInvariant (h : Blind M A) {P : System → Event → Prop}
    (hpending : ∀ c a r, I c a r → I { c with isHealthyPending := false } a r)
    (htimedOut : ∀ c a r, I c a r → I c (M.step a .timedOut) r)
    (hstart : ∀ (o : Orchestrator) s, s.Initial → o.StartedIn s →
      A M.init (.entered .bootWait bootButtonWindowMs) ∧ ∀ deadlineTicks, I { o.core with
        state := .bootWait
        hasDeadline := true
        deadlineTicks := deadlineTicks } (M.step M.init (.entered .bootWait bootButtonWindowMs))
        s.activeRecord)
    (hmessage : ∀ c (x : Ledger σ) message, I c x.read x.activeRecord →
      Settles M A I (c.handleMessage message) (x.start M (.received message)))
    (hleave : ∀ c (x : Ledger σ), I c x.read x.activeRecord → Settles M A I c.leaveState x) :
    CoreInvariant P (LedgerOf M A) (ledgerDevice M) (ledgerGuard A)
      (fun a y => I a.1 y.read y.activeRecord) := by
  apply coreInvariant_of_ledger (fun a ticks => (h.started a ticks).2) h.received h.timedOut
  · intro o s x hinitial hstarted hread _ hactive
    obtain ⟨hA, hI⟩ := hstart o s hinitial hstarted
    obtain ⟨startTicks, -, hhistory, -⟩ := hstarted.healthyDeadlineTicks
    have hinit : x.read = M.init := by
      rw [hread, hhistory]
      exact (h.started M.init startTicks).1
    apply h.waitForMessage
    apply h.setState (hinit ▸ hA)
    rw [hinit, hactive]
    exact hI
  · exact fun c _ x message hI => h.waitForMessage (hmessage c x message hI)
  · exact fun c _ x hI => h.waitForMessage (h.checkDeadlines hpending hleave (htimedOut _ _ _ hI))

end Blind

end Ledger

end StripTuner.Provisioning
