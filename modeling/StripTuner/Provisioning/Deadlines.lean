import StripTuner.Provisioning.Policy

/-!
# Deadlines

The two timers of the orchestrator: the deadline of its state and the one after which the firmware
is healthy, computed with a tick counter that wraps around.
-/

namespace StripTuner.Provisioning

open DeviceCalls DeviceCalls.Sketch

/-! ## Remaining ticks -/

theorem toInt32_pos_iff (ticks : UInt32) :
    0 < ticks.toInt32 ↔ 0 < ticks.toNat ∧ ticks.toNat < 2 ^ 31 := by
  rw [Int32.lt_iff_toInt_lt]
  show (0 : Int) < ticks.toBitVec.toInt ↔ _
  rw [BitVec.toInt_eq_toNat_cond]
  have hlt := ticks.toNat_lt
  simp only [UInt32.toNat_toBitVec]
  split <;> omega

theorem toNat_ofNat_sub (deadline now : Nat) :
    (UInt32.ofNat deadline - UInt32.ofNat now).toNat =
      (2 ^ 32 - now % 2 ^ 32 + deadline % 2 ^ 32) % 2 ^ 32 := by
  rw [UInt32.toNat_sub, UInt32.toNat_ofNat', UInt32.toNat_ofNat']

/-- The remaining time is exact, unless the deadline has passed for too long. -/
theorem toNat_remainingTicks {deadline now : Nat} (hnear : deadline < now + 2 ^ 31)
    (hrecent : now ≤ deadline + 2 ^ 31) :
    (remainingTicks (UInt32.ofNat deadline) (UInt32.ofNat now)).toNat = deadline - now := by
  have hsub := toNat_ofNat_sub deadline now
  unfold remainingTicks
  split
  · rename_i hpos
    rw [toInt32_pos_iff] at hpos
    omega
  · rename_i hpos
    rw [toInt32_pos_iff] at hpos
    simp only [UInt32.toNat_zero]
    omega

/-- No time remains only when the deadline has passed. -/
theorem le_of_remainingTicks_eq_zero {deadline now : Nat} (hnear : deadline < now + 2 ^ 31)
    (hzero : remainingTicks (UInt32.ofNat deadline) (UInt32.ofNat now) = 0) : deadline ≤ now := by
  by_contra hlt
  have hremaining := toNat_remainingTicks hnear (by omega)
  rw [hzero, UInt32.toNat_zero] at hremaining
  omega

/-! ## What a history says -/

/-- The tick counts of `ProvisioningStart()`, of the last `SetState()` (with its timeout) and of the
last `GetWaitTicks()`, and whether the firmware was marked healthy. -/
structure Timers where
  startTicks : Nat
  armed : Option (UInt32 × Nat)
  waiting : Nat
  isMarked : Bool

def Timers.step (a : Timers) : Record → Timers
  | .started ticks => { a with startTicks := ticks }
  | .armed timeoutMs ticks => { a with armed := some (timeoutMs, ticks) }
  | .waiting ticks => { a with waiting := ticks }
  | .markedHealthy _ => { a with isMarked := true }
  | _ => a

def timers : Monitor Timers Record where
  init := ⟨0, none, 0, false⟩
  step := Timers.step

/-- When the timeout of the last `SetState()` has elapsed. -/
def Timers.stateDeadline (a : Timers) : Option Nat :=
  a.armed.bind fun (timeoutMs, ticks) =>
    if timeoutMs = 0 then none else some (ticks + (pdMsToTicks timeoutMs).toNat)

/-- When the firmware has been up for long enough, until it is marked. -/
def Timers.healthyDeadline (a : Timers) : Option Nat :=
  if a.isMarked then none else some (a.startTicks + (pdMsToTicks fwHealthyUptimeMs).toNat)

/-- One of the two deadlines. -/
def Timers.IsArmed (a : Timers) (deadline : Nat) : Prop :=
  a.stateDeadline = some deadline ∨ a.healthyDeadline = some deadline

/-- The timers act when their deadline has passed. -/
def TimersAllow (a : Timers) : Record → Prop
  | .handledTimeout ticks => ∃ deadline, a.stateDeadline = some deadline ∧ deadline ≤ ticks
  | .markedHealthy ticks => ∃ deadline, a.healthyDeadline = some deadline ∧ deadline ≤ ticks
  | _ => True

/-- A variable and a flag hold a deadline, which is not far ahead. -/
structure Holds (deadline : Option Nat) (hasDeadline : Bool) (deadlineTicks : UInt32) (now : Nat) :
    Prop where
  isSome : hasDeadline = deadline.isSome
  eq : ∀ d, deadline = some d → deadlineTicks = UInt32.ofNat d ∧ d < now + 2 ^ 31

theorem Holds.later {deadline : Option Nat} {hasDeadline : Bool} {deadlineTicks : UInt32}
    {now later : Nat} (h : Holds deadline hasDeadline deadlineTicks now) (hlater : now ≤ later) :
    Holds deadline hasDeadline deadlineTicks later where
  isSome := h.isSome
  eq d hd := ⟨(h.eq d hd).1, by have := (h.eq d hd).2; omega⟩

/-- The deadline that is armed, and the time that remains for it. -/
theorem Holds.of_armed {deadline : Option Nat} {deadlineTicks : UInt32} {now : Nat}
    (h : Holds deadline true deadlineTicks now) :
    ∃ d, deadline = some d ∧ deadlineTicks = UInt32.ofNat d ∧ d < now + 2 ^ 31 := by
  obtain ⟨d, hd⟩ := Option.isSome_iff_exists.mp h.isSome.symm
  exact ⟨d, hd, h.eq d hd⟩

/-- The machine's deadlines are those of the history. -/
structure TimersOf (c : Core) (x : Ledger Timers) : Prop where
  stateDeadline : Holds x.read.stateDeadline c.hasDeadline c.deadlineTicks x.now
  healthyDeadline : Holds x.read.healthyDeadline c.isHealthyPending c.healthyDeadlineTicks x.now
  state : c.state ≠ .connected → c.state ≠ .portalIdle → c.hasDeadline = true

/-! ## The machine's timers -/

section Machine

variable {c : Core} {x : Ledger Timers}

theorem TimersOf.later (h : TimersOf c x) {ticks : Nat} (hticks : x.now ≤ ticks) :
    TimersOf c { x with now := ticks } :=
  ⟨h.stateDeadline.later hticks, h.healthyDeadline.later hticks, h.state⟩

abbrev Timed (q : Core.Machine Core) (x : Ledger Timers) : Prop :=
  Meets timers TimersAllow q TimersOf x

/-- A timeout is short against the range of the tick counter. -/
theorem toNat_pdMsToTicks_lt (ms : UInt32) : (pdMsToTicks ms).toNat < 2 ^ 31 := by
  have hlt := (ms * configTickRateHz).toNat_lt
  rw [pdMsToTicks, UInt32.toNat_div, show (1000 : UInt32).toNat = 1000 by decide]
  omega

/-- The deadline of `SetState()` is armed, except where no timer is needed. -/
theorem timed_setState {state : OrchestratorState} {timeoutMs : UInt32}
    (h : Holds x.read.healthyDeadline c.isHealthyPending c.healthyDeadlineTicks x.now)
    (htimeout : state ≠ .connected → state ≠ .portalIdle → timeoutMs ≠ 0) :
    Timed (c.setState state timeoutMs) x := by
  rw [Timed, meets_setState]
  refine ⟨trivial, fun ticks hticks => ⟨trivial, ?_, h.later hticks, ?_⟩⟩
  · have hnear := toNat_pdMsToTicks_lt timeoutMs
    by_cases hzero : timeoutMs = 0
    · constructor <;> simp [timers, Timers.step, Timers.stateDeadline, hzero]
    · constructor
      · simp [timers, Timers.step, Timers.stateDeadline, hzero]
      · intro d hd
        simp [timers, Timers.step, Timers.stateDeadline, hzero] at hd
        subst hd
        refine ⟨by simp, ?_⟩
        show ticks + _ < ticks + _
        omega
  · exact fun hconnected hidle => decide_eq_true (htimeout hconnected hidle)

theorem timed_startBootAttempt (h : TimersOf c x) : Timed c.startBootAttempt x := by
  apply meets_bind
  rw [meets_connectWifiStation]
  exact ⟨trivial, timed_setState h.healthyDeadline (by decide)⟩

theorem timed_beginReconnectWait
    (h : Holds x.read.healthyDeadline c.isHealthyPending c.healthyDeadlineTicks x.now) :
    Timed c.beginReconnectWait x :=
  timed_setState h fun _ _ => getWifiReconnectDelayMs_ne_zero _

theorem timed_startStationServices (h : TimersOf c x) : Timed c.startStationServices x :=
  meets_startStationServices fun _ _ => timed_setState h.healthyDeadline (by simp)

theorem timed_enterProvisioning (h : TimersOf c x) : Timed c.enterProvisioning x :=
  meets_enterProvisioning (timed_setState h.healthyDeadline (by simp))
    (timed_setState h.healthyDeadline (by decide))

theorem timed_failTrial (h : TimersOf c x) : Timed c.failTrial x := by
  apply meets_bind
  rw [meets_setPortalStatus]
  exact timed_setState h.healthyDeadline (by simp)

theorem timed_leaveProvisioning (h : TimersOf c x) : Timed c.leaveProvisioning x := by
  unfold Core.leaveProvisioning
  dsimp only
  split
  · apply meets_bind
    refine wp_mono (timed_setState h.healthyDeadline (by simp)) fun c₁ y h₁ => ?_
    apply meets_bind
    exact wp_guess.mpr ⟨timed_startStationServices h₁, h₁⟩
  · exact timed_beginReconnectWait h.healthyDeadline

theorem timed_handleStationConnected (h : TimersOf c x) : Timed c.handleStationConnected x := by
  unfold Core.handleStationConnected
  cases c.state with
  | staAttempt | reconnectWait | reconnectTry => exact timed_setState h.healthyDeadline (by simp)
  | portalTrial =>
      apply meets_bind
      rw [meets_replaceCredentials]
      refine ⟨trivial, fun isStored activeRecord _ => ?_⟩
      cases isStored with
      | true =>
          apply meets_bind
          rw [meets_setPortalStatus]
          exact timed_setState h.healthyDeadline (by decide)
      | false => exact timed_failTrial ⟨h.stateDeadline, h.healthyDeadline, h.state⟩
  | bootWait | staPause | connected | portalIdle | portalSuccess | portalRetry => exact h

theorem timed_handleStationDisconnected (h : TimersOf c x) :
    Timed c.handleStationDisconnected x := by
  unfold Core.handleStationDisconnected
  cases c.state with
  | connected | reconnectTry => exact timed_beginReconnectWait h.healthyDeadline
  | bootWait | staAttempt | staPause | reconnectWait | portalIdle | portalTrial | portalSuccess
  | portalRetry => exact h

theorem timed_handleMessage (h : TimersOf c x) (message : Message) :
    Timed (c.handleMessage message) x := by
  cases message with
  | buttonRequest =>
      show Timed (if c.state.isPortalState = true then _ else _) _
      split
      · exact h
      · exact timed_enterProvisioning h
  | staConnected =>
      exact timed_handleStationConnected ⟨h.stateDeadline, h.healthyDeadline, h.state⟩
  | staDisconnected =>
      exact timed_handleStationDisconnected ⟨h.stateDeadline, h.healthyDeadline, h.state⟩
  | staGotIp =>
      show Timed (if c.state = .connected then _ else _) _
      split
      · exact timed_startStationServices h
      · exact h
  | credentialsSubmitted credentials =>
      show Timed (if c.state = .portalIdle then _ else _) _
      split
      · apply meets_bind
        rw [meets_connectWifiStation]
        exact ⟨trivial, timed_setState h.healthyDeadline (by decide)⟩
      · exact h
  | ledTimingSubmitted | pulseResult | pulseReadRequested | updateRequest => exact h

theorem timed_leaveState (h : TimersOf c x) : Timed c.leaveState x := by
  unfold Core.leaveState
  cases c.state with
  | bootWait =>
      show Timed (if c.hasStored = true then _ else _) _
      split
      · exact timed_startBootAttempt h
      · exact timed_enterProvisioning h
  | staAttempt =>
      show Timed (if c.attemptCount < bootAttemptMax then _ else _) _
      split
      · exact timed_setState h.healthyDeadline (by decide)
      · exact timed_enterProvisioning h
  | staPause => exact timed_startBootAttempt h
  | connected =>
      apply meets_bind
      exact wp_guess.mpr
        ⟨timed_startStationServices h, timed_setState h.healthyDeadline (by simp)⟩
  | reconnectWait =>
      apply meets_bind
      rw [meets_connectWifiStation]
      exact ⟨trivial, timed_setState h.healthyDeadline (by decide)⟩
  | reconnectTry => exact timed_beginReconnectWait h.healthyDeadline
  | portalIdle => exact h
  | portalTrial => exact timed_failTrial h
  | portalSuccess => exact timed_leaveProvisioning h
  | portalRetry => exact timed_enterProvisioning h

/-! ## Acting on deadlines -/

theorem timed_checkHealthyDeadline (h : TimersOf c x) (hpending : c.isHealthyPending = true) :
    Timed c.checkHealthyDeadline x := by
  obtain ⟨d, hd, hticks, hnear⟩ := (hpending ▸ h.healthyDeadline).of_armed
  unfold Core.checkHealthyDeadline
  simp only [wp_ite, wp_bind, meets_getRemainingTicks]
  refine fun ticks hlater => ⟨fun hzero => ?_, fun _ => h.later hlater⟩
  rw [hticks] at hzero
  have hpassed : d ≤ ticks := le_of_remainingTicks_eq_zero (by omega) hzero
  refine meets_markFirmwareHealthy.mpr fun marked hmarked => ?_
  replace hmarked : ticks ≤ marked := hmarked
  have hlast := h.later (hlater.trans hmarked)
  refine ⟨⟨d, hd, hpassed.trans hmarked⟩, hlast.stateDeadline, ?_, hlast.state⟩
  constructor <;> simp [timers, Timers.step, Timers.healthyDeadline]

theorem timed_checkStateDeadline (h : TimersOf c x) : Timed c.checkStateDeadline x := by
  unfold Core.checkStateDeadline
  simp only [wp_ite, wp_bind, meets_getRemainingTicks]
  refine ⟨fun harmed ticks hlater => ⟨fun hzero => ?_, fun _ => h.later hlater⟩, fun _ => h⟩
  obtain ⟨d, hd, hticks, hnear⟩ := (harmed ▸ h.stateDeadline).of_armed
  rw [hticks] at hzero
  have hpassed : d ≤ ticks := le_of_remainingTicks_eq_zero (by omega) hzero
  apply meets_bind
  rw [meets_enterTimeout]
  intro handled hhandled
  replace hhandled : ticks ≤ handled := hhandled
  have hlast := h.later (hlater.trans hhandled)
  exact ⟨⟨d, hd, hpassed.trans hhandled⟩,
    timed_leaveState ⟨hlast.stateDeadline, hlast.healthyDeadline, hlast.state⟩⟩

theorem timed_checkDeadlines (h : TimersOf c x) : Timed c.checkDeadlines x := by
  unfold Core.checkDeadlines
  apply meets_bind
  apply wp_mono (Q := TimersOf) ?_ fun c₁ y h₁ => timed_checkStateDeadline h₁
  rw [wp_ite]
  exact ⟨fun hpending => timed_checkHealthyDeadline h hpending, fun _ => h⟩

/-! ## Waiting -/

/-- The receive does not wait beyond an armed deadline, when none has passed for too long. -/
def WaitsFor (c : Core) (waitTicks : UInt32) (x : Ledger Timers) : Prop :=
  TimersOf c x ∧ ((∀ d, x.read.IsArmed d → x.now ≤ d + 2 ^ 31) →
    ∀ d, x.read.IsArmed d → waitTicks.toNat ≤ d - x.read.waiting)

/-- The remaining ticks of a deadline that has not passed for too long. -/
theorem remainingTicks_le {deadline : Option Nat} {deadlineTicks : UInt32} {now d waiting : Nat}
    (h : Holds deadline true deadlineTicks now) (hd : deadline = some d) (hwaiting : waiting ≤ now)
    (hrecent : now ≤ d + 2 ^ 31) :
    (remainingTicks deadlineTicks (UInt32.ofNat now)).toNat ≤ d - waiting := by
  obtain ⟨hticks, hnear⟩ := h.eq d hd
  rw [hticks, toNat_remainingTicks hnear hrecent]
  omega

/-- The wait for the state deadline. -/
theorem timed_stateWait (h : TimersOf c x) (hwaiting : x.read.waiting ≤ x.now) :
    Meets timers TimersAllow
      (if c.hasDeadline = true then ofProg (getRemainingTicks c.deadlineTicks)
        else pure portMaxDelay)
      (fun waitTicks y => TimersOf c y ∧ y.read.waiting ≤ y.now ∧
        ∀ d, y.read.stateDeadline = some d → y.now ≤ d + 2 ^ 31 →
          waitTicks.toNat ≤ d - y.read.waiting) x := by
  simp only [Meets, wp_ite, wp_pure, meets_getRemainingTicks]
  refine ⟨fun harmed ticks hlater => ?_, fun hnone => ⟨h, hwaiting, fun d hd => ?_⟩⟩
  · refine ⟨h.later hlater, hwaiting.trans hlater, fun d hd hrecent => ?_⟩
    exact remainingTicks_le (harmed ▸ h.stateDeadline.later hlater) hd
      (hwaiting.trans hlater) hrecent
  · rw [h.stateDeadline.isSome, hd] at hnone
    exact absurd rfl hnone

theorem timed_waitForMessage (h : TimersOf c x) :
    Meets timers TimersAllow c.waitForMessage (fun a y => WaitsFor a.1 a.2 y) x := by
  unfold Core.waitForMessage Core.getWaitTicks
  simp only [Meets, wp_bind, meets_enterWait]
  intro start hstart
  refine ⟨trivial, wp_mono (timed_stateWait ?_ (le_refl start)) ?_⟩
  · have hlast := h.later hstart
    exact ⟨hlast.stateDeadline, hlast.healthyDeadline, hlast.state⟩
  rintro waitTicks y ⟨h, hwaiting, hwait⟩
  simp only [wp_ite, wp_bind, wp_pure, meets_getRemainingTicks]
  refine ⟨fun hpending first hfirst => ⟨fun hlt second hsecond => ?_, fun hge => ?_⟩, fun hnone => ?_⟩
  · -- the healthy deadline is earlier, and read a second time
    replace hsecond : first ≤ second := hsecond
    obtain ⟨d', hd', hticks, hnear⟩ := (hpending ▸ h.healthyDeadline).of_armed
    refine ⟨h.later (hfirst.trans hsecond), fun hrecent d hd => ?_⟩
    replace hrecent : ∀ d, y.read.IsArmed d → second ≤ d + 2 ^ 31 := hrecent
    have hrecent' := hrecent d' (.inr hd')
    have hremaining : (remainingTicks c.healthyDeadlineTicks (UInt32.ofNat second)).toNat ≤
        d' - second := by
      exact remainingTicks_le (hpending ▸ h.healthyDeadline.later (hfirst.trans hsecond)) hd' le_rfl
        hrecent'
    rcases hd with hd | hd
    · have hbound := hwait d hd (by have := hrecent d (.inl hd); omega)
      rw [UInt32.lt_iff_toNat_lt, hticks, toNat_remainingTicks (by omega) (by omega)] at hlt
      show _ ≤ d - y.read.waiting
      omega
    · obtain rfl : d' = d := Option.some.inj (hd'.symm.trans hd)
      show _ ≤ d' - y.read.waiting
      omega
  · refine ⟨h.later hfirst, fun hrecent d hd => ?_⟩
    replace hrecent : ∀ d, y.read.IsArmed d → first ≤ d + 2 ^ 31 := hrecent
    rcases hd with hd | hd
    · exact hwait d hd (hfirst.trans (hrecent d (.inl hd)))
    · have hremaining := remainingTicks_le (hpending ▸ h.healthyDeadline.later hfirst) hd
        (hwaiting.trans hfirst) (hrecent d (.inr hd))
      rw [UInt32.lt_iff_toNat_lt] at hge
      show _ ≤ d - y.read.waiting
      omega
  · refine ⟨h, fun hrecent d hd => ?_⟩
    rcases hd with hd | hd
    · exact hwait d hd (hrecent d (.inl hd))
    · rw [h.healthyDeadline.isSome, hd] at hnone
      exact absurd rfl hnone

theorem timersInvariant (P : System → Event → Prop) :
    CoreInvariant P (LedgerOf timers TimersAllow) (ledgerDevice timers) (ledgerGuard TimersAllow)
      (fun a y => WaitsFor a.1 a.2 y) := by
  apply coreInvariant_of_ledger (fun _ _ => trivial) (fun _ _ => trivial) (fun _ => trivial)
  · intro o s x hinitial hstarted hread hnow _
    obtain ⟨startTicks, hstart, hhistory, hticks⟩ := hstarted.healthyDeadlineTicks
    rw [hhistory] at hread
    apply meets_bind
    apply wp_mono (timed_setState ?_ (by decide)) fun c y h => timed_waitForMessage h
    rw [hread, hnow]
    constructor
    · exact hstarted.isHealthyPending
    · intro d hd
      obtain rfl : startTicks + 3000 = d := Option.some.inj hd
      refine ⟨?_, by omega⟩
      rw [UInt32.ofNat_add]
      exact hticks
  · rintro c waitTicks x message ⟨h, -⟩
    have hstart : TimersOf c (x.start timers (.received message)) :=
      ⟨h.stateDeadline, h.healthyDeadline, h.state⟩
    apply meets_bind
    exact wp_mono (timed_handleMessage hstart message) fun c y h => timed_waitForMessage h
  · rintro c waitTicks x ⟨h, -⟩
    have hstart : TimersOf c (x.start timers .timedOut) :=
      ⟨h.stateDeadline, h.healthyDeadline, h.state⟩
    apply meets_bind
    exact wp_mono (timed_checkDeadlines hstart) fun c y h => timed_waitForMessage h

end Machine

/-! ## Runs -/

theorem orchestrator_timers {p : Task (Orchestrator × UInt32)} {s : System}
    (hrun : Runs (fun _ _ => True) (p, s)) :
    (∀ pre ticks, pre ++ [.handledTimeout ticks] <+: s.history →
      ∃ deadline, (timers.run pre).stateDeadline = some deadline ∧ deadline ≤ ticks) ∧
    (∀ pre ticks, pre ++ [.markedHealthy ticks] <+: s.history →
      (timers.run pre).isMarked = false ∧ (timers.run pre).startTicks + 3000 ≤ ticks) ∧
    ∀ o waitTicks, p = .ret (o, waitTicks) →
      (o.state ≠ .connected → o.state ≠ .portalIdle → o.hasDeadline = true) ∧
      ((∀ deadline, (timers.run s.history).IsArmed deadline → s.ticks ≤ deadline + 2 ^ 31) →
        ∀ deadline, (timers.run s.history).IsArmed deadline →
          waitTicks.toNat ≤ deadline - (timers.run s.history).waiting) := by
  obtain ⟨x, hx, hp⟩ := (timersInvariant _).of_run hrun
  refine ⟨fun pre ticks hpre => hx.obeys pre _ hpre, fun pre ticks hpre => ?_, ?_⟩
  · obtain ⟨deadline, hdeadline, hpassed⟩ := hx.obeys pre _ hpre
    unfold Timers.healthyDeadline at hdeadline
    split at hdeadline
    · simp at hdeadline
    · rename_i hmarked
      obtain rfl : (timers.run pre).startTicks + 3000 = deadline := Option.some.inj hdeadline
      exact ⟨by simpa using hmarked, hpassed⟩
  · rintro o waitTicks rfl
    obtain ⟨htimers, hwait⟩ : WaitsFor o.core waitTicks x := hp
    rw [← hx.read]
    refine ⟨htimers.state, fun hrecent => hwait fun deadline hd => ?_⟩
    exact hx.now.trans (hrecent deadline hd)

theorem orchestrator_timers_portal :
    (2895 : UInt32).toNat ≤ 3000 - (timers.run portalSystem.history).waiting :=
  ((orchestrator_timers portalSystem_runs.anyRuns).2.2 _ _ rfl).2
    (by rintro d (hd | hd) <;> cases hd; decide) 3000 (.inr rfl)

/-! ## A stream of messages -/

section Stream

open Prog Relation

theorem remainingTicks_lt (deadlineTicks now : UInt32) :
    remainingTicks deadlineTicks now < portMaxDelay := by
  rw [UInt32.lt_iff_toNat_lt, show portMaxDelay.toNat = 2 ^ 32 - 1 by decide]
  unfold remainingTicks
  split
  · rename_i hpos
    rw [toInt32_pos_iff] at hpos
    omega
  · simp

/-- The portal is up, and a message has arrived before the last one was handled. -/
structure Streaming (waitTicks : UInt32) (s : System) : Prop where
  runs : Runs (fun _ _ => True) (.ret (portalOrchestrator, waitTicks), s)
  queue : s.queue = [.buttonRequest]
  history : timers.run s.history = ⟨0, some (0, 105), s.ticks, false⟩
  waitTicks : waitTicks = remainingTicks 3000 (UInt32.ofNat s.ticks)

theorem play_remainingTicks (deadlineTicks : UInt32) (s : System) :
    (getRemainingTicks deadlineTicks).play succeed s =
      some (remainingTicks deadlineTicks (UInt32.ofNat s.ticks), s) :=
  play_getRemainingTicks deadlineTicks s

/-- The portal waits for the healthy deadline. -/
theorem play_waitForMessage_portal (s : System) :
    (waitForMessage portalOrchestrator).play succeed s =
      some ((portalOrchestrator, remainingTicks 3000 (UInt32.ofNat s.ticks)),
        s.record (.waiting s.ticks)) := by
  have hlt := remainingTicks_lt 3000 (UInt32.ofNat s.ticks)
  simp [waitForMessage, getWaitTicks, portalOrchestrator, startOrchestrator, succeed,
    play_remainingTicks, System.record, hlt]

/-- A message is taken from the queue, the next arrives, and a tick passes. -/
def System.streamed (s : System) (message : Message) : System :=
  let posted := (s.receive .portalIdle message []).post message
  { posted with ticks := posted.ticks + 1 }

/-- The queue is never empty, so no receive times out. -/
theorem Streaming.next {waitTicks : UInt32} {s : System} (h : Streaming waitTicks s) :
    ∃ w t, Streaming w t ∧ t.ticks = s.ticks + 1 := by
  have hticks : (s.streamed .buttonRequest).ticks = s.ticks + 1 := by
    simp [System.streamed, System.receive]
  have hplay : (handleMessage .buttonRequest portalOrchestrator >>= waitForMessage).play succeed
      (s.streamed .buttonRequest) = some (_, _) :=
    play_waitForMessage_portal (s.streamed .buttonRequest)
  let t := (s.streamed .buttonRequest).record (.waiting (s.streamed .buttonRequest).ticks)
  refine ⟨_, t, ⟨h.runs.trans ?_, ?_, ?_, rfl⟩, hticks⟩
  · refine .head (.next (.message h.queue)) ?_
    refine .head (.other ⟨.post .buttonRequest, trivial, .post _ rfl⟩) ?_
    refine .head (.other ⟨.tick, trivial, .tick _⟩) ?_
    exact (ends_of_play systemDevice_of_succeed hplay).run
  · simp [t, System.record, System.streamed, System.post, System.receive]
  · have hread : timers.run (s.streamed .buttonRequest).history = timers.run s.history := by
      simp [System.streamed, System.receive, timers, Timers.step]
    simp [t, System.record, hticks, hread, h.history]
    rfl

theorem streaming (n : Nat) : ∃ w s, Streaming w s ∧ s.ticks = 105 + n := by
  induction n with
  | zero =>
      refine ⟨2895, portalSystem.post .buttonRequest, ⟨?_, rfl, rfl, by decide⟩, rfl⟩
      exact portalSystem_runs.anyRuns.trans (.single (.other ⟨.post .buttonRequest, trivial, .post _ rfl⟩))
  | succ n ih =>
      obtain ⟨w, s, h, hticks⟩ := ih
      obtain ⟨w', t, h', hticks'⟩ := h.next
      exact ⟨w', t, h', by omega⟩

/-- The healthy deadline has passed for more than 2 ^ 31 ticks, and time remains for it. -/
theorem healthy_deadline_overdue :
    ∃ (o : Orchestrator) (waitTicks : UInt32) (s : System),
      Runs (fun _ _ => True) (.ret (o, waitTicks), s) ∧ (timers.run s.history).IsArmed 3000 ∧
      3000 ≤ (timers.run s.history).waiting ∧ waitTicks = 2147483647 ∧
      ¬ waitTicks.toNat ≤ 3000 - (timers.run s.history).waiting := by
  obtain ⟨w, s, h, hticks⟩ := streaming (2 ^ 31 + 2896)
  have hwait : w = 2147483647 := by
    rw [h.waitTicks, hticks]
    decide
  refine ⟨_, w, s, h.runs, .inr ?_, ?_, hwait, ?_⟩
  · rw [h.history]
    rfl
  · rw [h.history]
    show 3000 ≤ s.ticks
    omega
  · rw [h.history, hwait]
    show ¬ 2147483647 ≤ 3000 - s.ticks
    omega

end Stream

end StripTuner.Provisioning
