import StripTuner.Provisioning.System

/-!
# The services follow the state

Which services run between two messages or timeouts is decided by the orchestrator's state and its
two flags, whatever starts fail on the way. The orchestrator is the only task that starts or stops a
service, so its functions are verified on the services alone.
-/

namespace StripTuner.Provisioning

open CredentialStore DeviceCalls DeviceCalls.Prog

/-! ## What runs -/

/-- What the orchestrator knows of the DNS task: that it is deleted, also with its stop flag cleared,
that it runs, or that it was asked to stop. -/
inductive DnsView where
  | down
  | cleared
  | up
  | stopping

/-- What the handle of the task says. -/
def dnsView (hasDnsTask : Bool) : DnsView := if hasDnsTask then .up else .down

/-- A wait that does not end with its deadline ends with the task. -/
def dnsViewDevice : Device Call Call.Answer DnsView
  | .clearDnsStop, v, _, w => v = .down → w = .cleared
  | .createDnsTask _, v, isCreated, w => v = .cleared → w = dnsView isCreated
  | .requestDnsStop, v, _, w => v = .up → w = .stopping
  | .isDnsTaskDeleted, v, isDeleted, w => w = if isDeleted then .down else v
  | .dnsWaitTickCount deadlineTicks, v, now, w => w = if now < deadlineTicks then v else .down
  | _, v, _, w => w = v

abbrev ServicesView : Type := Services DnsView

abbrev viewDevice : Device Call Call.Answer ServicesView := serviceDevice dnsViewDevice

/-- The server that a profile stands for. -/
def HttpProfile.server : HttpProfile → Option HttpServer
  | .none => Option.none
  | .provisioning => some ⟨portalHandlers, Option.none⟩
  | .station => some ⟨stationHandlers, some .handleStationNotFound⟩

/-- The access point runs. -/
def Services.HasAccessPoint {Dns : Type} (s : Services Dns) : Prop :=
  s.wifiMode = .apsta ∧ s.isWifiStarted = true

/-- The handles of the components say what runs. -/
structure InSync (o : Orchestrator) (s : ServicesView) : Prop where
  hasServer : o.hasServer = s.httpd.isSome
  httpd : s.httpd = o.profile.server
  dns : s.dns = dnsView o.hasDnsTask
  mdns : s.mdns = o.isMdnsRunning
  wifi : o.isWifiStarted = true → s.isWifiStarted = true

/-- What runs in a state. -/
def StateServices (s : ServicesView) (hasDnsTask : Bool) (profile : HttpProfile)
    (isMdnsRunning : Bool) : OrchestratorState → Prop
  | .portalIdle | .portalTrial | .portalSuccess =>
    s.HasAccessPoint ∧ hasDnsTask = true ∧ profile = .provisioning ∧ isMdnsRunning = false
  | .portalRetry => hasDnsTask = false ∧ profile = .none ∧ isMdnsRunning = false
  | _ => hasDnsTask = false ∧ profile ≠ .provisioning

/-- The invariant between two messages or timeouts. -/
structure Follows (o : Orchestrator) (s : ServicesView) : Prop extends InSync o s where
  httpUp : o.isHttpUp = true ↔ o.profile = .station
  mdnsUp : o.isMdnsUp = o.isMdnsRunning
  state : StateServices s o.hasDnsTask o.profile o.isMdnsRunning o.state

/-- What a function of the orchestrator does on the services. -/
abbrev Does {α : Type} (p : Task α) (Q : α → ServicesView → Prop) (s : ServicesView) : Prop :=
  p.wp viewDevice (fun _ _ => True) Q s

section Calls

variable {α : Type} {Q : α → ServicesView → Prop} {s : ServicesView}

theorem does_call {c : Call} (f : c.Answer → Task α)
    (h : ∀ r t, viewDevice c s r t → Does (f r) Q t) : Does (perform c >>= f) Q s := by
  rw [Does, wp_bind, wp_perform]
  exact ⟨trivial, h⟩

theorem does_bind {β : Type} {p : Task β} {f : β → Task α}
    (h : Does p (fun b t => Does (f b) Q t) s) : Does (p >>= f) Q s := by
  rw [Does, wp_bind]
  exact h

/-- A call that leaves the services alone. -/
def Call.IsQuiet (c : Call) : Prop := ∀ s r t, viewDevice c s r t → t = s

theorem does_quiet {p : Task α} (hp : p.Only Call.IsQuiet) (hQ : ∀ a, Q a s) : Does p Q s := by
  induction p with
  | ret a => exact hQ a
  | call c k ih =>
      refine ⟨trivial, ?_⟩
      intro r t hd
      rw [hp.1 s r t hd]
      exact ih r (hp.2 r)

theorem does_quiet_bind {β : Type} {p : Task β} {f : β → Task α} (hp : p.Only Call.IsQuiet)
    (h : ∀ b, Does (f b) Q s) : Does (p >>= f) Q s := by
  rw [Does, wp_bind]
  exact does_quiet hp h

/-- The next call of a chain, which is only made when the calls before it succeeded. -/
theorem does_then {err : EspErr} {p : Task EspErr} {f : EspErr → Task α}
    (hp : p.Only Call.IsQuiet) (h : ∀ err', (err' = .ok → err = .ok) → Does (f err') Q s) :
    Does (andThen err p >>= f) Q s := by
  unfold andThen
  split
  · rename_i hok
    exact does_quiet_bind hp fun err' => h err' fun _ => hok
  · exact h err id

theorem does_setState {o : Orchestrator} {state : OrchestratorState} {timeoutMs : UInt32}
    {Q : Orchestrator → ServicesView → Prop}
    (hQ : ∀ deadlineTicks, Q { o with
      state := state
      hasDeadline := timeoutMs ≠ 0
      deadlineTicks := deadlineTicks } s) : Does (setState o state timeoutMs) Q s := by
  refine does_call _ ?_
  rintro - t rfl
  refine does_call _ ?_
  rintro now u rfl
  exact hQ _

end Calls

/-! ## Wi-Fi -/

section Components

variable {o : Orchestrator} {s : ServicesView}

theorem only_disconnectWifiStation (o : Orchestrator) :
    (disconnectWifiStation o).Only Call.IsQuiet :=
  .ite ((only_perform _).mpr fun _ _ _ hd => hd) trivial

theorem only_espWifiSetApConfig : espWifiSetApConfig.Only Call.IsQuiet :=
  (only_perform _).mpr fun _ _ _ hd => hd

theorem only_espWifiSetStaConfig (credentials : WifiCredentials) :
    (espWifiSetStaConfig credentials).Only Call.IsQuiet :=
  (only_perform _).mpr fun _ _ _ hd => hd

theorem only_espWifiConnect : espWifiConnect.Only Call.IsQuiet :=
  (only_perform _).mpr fun _ _ _ hd => hd

/-- The driver is started, unless it already was. -/
theorem does_startWifiDriver {α : Type} {Q : α → ServicesView → Prop} {err : EspErr}
    {f : EspErr → Task α} (h : InSync o s)
    (hQ : ∀ err' isDriverStarted, (err' = .ok → err = .ok ∧ isDriverStarted = true) →
      (s.isWifiStarted = true → isDriverStarted = true) →
      Does (f err') Q { s with isWifiStarted := isDriverStarted }) :
    Does (andThen err (startWifiDriver o) >>= f) Q s := by
  unfold andThen startWifiDriver
  split
  · rename_i hok
    split
    · rename_i hstarted
      exact hQ .ok s.isWifiStarted (fun _ => ⟨hok, h.wifi hstarted⟩) id
    · refine does_call _ ?_
      rintro err' t rfl
      by_cases herr : err' = .ok
      · rw [if_pos herr]
        exact hQ err' true (fun _ => ⟨hok, rfl⟩) (fun _ => rfl)
      · rw [if_neg herr]
        exact hQ err' s.isWifiStarted (fun hok' => absurd hok' herr) id
  · rename_i herr
    exact hQ err s.isWifiStarted (fun hok => absurd hok herr) id

/-- The Wi-Fi mode is changed, or left in any state. -/
theorem wifiMode_of_set {Dns : Type} {dnsDevice : Device Call Call.Answer Dns} {s t : Services Dns}
    {mode : WifiMode} {err : EspErr} (h : serviceDevice dnsDevice (.wifiSetMode mode) s err t) :
    ∃ left, (err = .ok → left = mode) ∧ t = { s with wifiMode := left } := by
  have h' : if err = .ok then t = { s with wifiMode := mode }
      else ∃ left, t = { s with wifiMode := left } := h
  split at h'
  · exact ⟨mode, fun _ => rfl, h'⟩
  · rename_i herr
    obtain ⟨left, hleft⟩ := h'
    exact ⟨left, fun hok => absurd hok herr, hleft⟩

/-- The access point runs when its start succeeds. -/
theorem does_startWifiAccessPoint (h : InSync o s) {Q : Bool × Orchestrator → ServicesView → Prop}
    (hQ : ∀ isOk mode isDriverStarted isWifiStarted,
      (isWifiStarted = true → isDriverStarted = true) →
      (isOk = true → mode = .apsta ∧ isDriverStarted = true) →
      Q (isOk, { o with isWifiStarted := isWifiStarted })
        { s with wifiMode := mode, isWifiStarted := isDriverStarted }) :
    Does (startWifiAccessPoint o) Q s := by
  refine does_call _ ?_
  intro err t hset
  obtain ⟨mode, hmode, rfl⟩ := wifiMode_of_set hset
  refine does_then only_espWifiSetApConfig ?_
  intro err₂ h₂
  refine does_startWifiDriver (s := { s with wifiMode := mode })
    ⟨h.hasServer, h.httpd, h.dns, h.mdns, h.wifi⟩ ?_
  intro err₃ isDriverStarted h₃ hkept
  refine hQ _ mode isDriverStarted _ ?_ ?_
  · intro hstarted
    rcases Bool.or_eq_true_iff.mp hstarted with hold | hok
    · exact hkept (h.wifi hold)
    · exact (h₃ (of_decide_eq_true hok)).2
  · intro hok
    obtain ⟨hok₂, hdriver⟩ := h₃ (of_decide_eq_true hok)
    exact ⟨hmode (h₂ hok₂), hdriver⟩

/-- A connection attempt keeps the access point. -/
theorem does_connectWifiStation (h : InSync o s) {credentials : WifiCredentials}
    {Q : Orchestrator → ServicesView → Prop}
    (hQ : ∀ mode isDriverStarted isWifiStarted,
      (isWifiStarted = true → isDriverStarted = true) →
      (s.wifiMode = .apsta → mode = .apsta) → (s.isWifiStarted = true → isDriverStarted = true) →
      Q { o with isWifiStarted := isWifiStarted }
        { s with wifiMode := mode, isWifiStarted := isDriverStarted }) :
    Does (connectWifiStation o credentials) Q s := by
  refine does_call _ ?_
  rintro - t rfl
  split
  · exact hQ t.wifiMode t.isWifiStarted o.isWifiStarted h.wifi id id
  refine does_call _ ?_
  rintro mode t ⟨rfl, rfl⟩
  have hrest : ∀ err mode, (t.wifiMode = .apsta → mode = .apsta) →
      Does (andThen err (espWifiSetStaConfig credentials) >>= fun err =>
        andThen err (startWifiDriver o) >>= fun err =>
        andThen err espWifiConnect >>= fun err =>
        pure { o with isWifiStarted := o.isWifiStarted || err = .ok }) Q
        { t with wifiMode := mode } := by
    intro err mode hmode
    refine does_then (only_espWifiSetStaConfig credentials) ?_
    intro err₂ h₂
    refine does_startWifiDriver (s := { t with wifiMode := mode })
      ⟨h.hasServer, h.httpd, h.dns, h.mdns, h.wifi⟩ ?_
    intro err₃ isDriverStarted h₃ hkept
    refine does_then only_espWifiConnect ?_
    intro err₄ h₄
    refine hQ mode isDriverStarted _ ?_ hmode hkept
    intro hstarted
    rcases Bool.or_eq_true_iff.mp hstarted with hold | hok
    · exact hkept (h.wifi hold)
    · exact (h₃ (h₄ (of_decide_eq_true hok))).2
  split
  · exact hrest .ok t.wifiMode id
  · rename_i hmode
    refine does_call _ ?_
    intro err u hset
    obtain ⟨left, -, rfl⟩ := wifiMode_of_set hset
    exact hrest err left (fun hap => absurd hap hmode)

/-! ## DNS and mDNS -/

/-- The wait ends with the task. -/
theorem does_waitForDnsTask (deadlineTicks : UInt32) (passes : Nat)
    {Q : Unit → ServicesView → Prop} (hQ : Q () { s with dns := .down }) :
    Does (waitForDnsTask deadlineTicks passes) Q s := by
  induction passes with
  | zero => exact does_call _ fun never => nomatch never
  | succ passes ih =>
      refine does_call _ ?_
      rintro isDeleted t ⟨dns, rfl, rfl⟩
      cases isDeleted with
      | true => exact hQ
      | false =>
          refine does_call _ ?_
          rintro now u ⟨dns, rfl, rfl⟩
          dsimp only
          split
          · refine does_call _ ?_
            rintro - u rfl
            exact ih
          · exact hQ

theorem does_stopDnsServer (h : InSync o s) {Q : Orchestrator → ServicesView → Prop}
    (hQ : Q { o with hasDnsTask := false } { s with dns := .down }) :
    Does (stopDnsServer o) Q s := by
  have hdns := h.dns
  unfold stopDnsServer
  split
  · rename_i hnone
    rw [hnone] at hdns
    have ho : { o with hasDnsTask := false } = o := by rw [← hnone]
    have hs : { s with dns := .down } = s := by rw [← show s.dns = .down from hdns]
    rw [ho, hs] at hQ
    exact hQ
  · rename_i hsome
    rw [eq_true_of_ne_false hsome] at hdns
    refine does_call _ ?_
    rintro _ t ⟨dns, hstopping, rfl⟩
    obtain rfl := hstopping hdns
    refine does_call _ ?_
    rintro now t rfl
    refine does_call _ ?_
    rintro passes t rfl
    refine does_bind (does_waitForDnsTask _ passes ?_)
    refine does_call _ ?_
    rintro isDeleted t ⟨dns, rfl, rfl⟩
    cases isDeleted with
    | true =>
        refine does_call _ ?_
        rintro - t rfl
        exact hQ
    | false => exact hQ

theorem does_startDnsServer (h : InSync o s) (ipAddr : UInt32)
    {Q : Bool × Orchestrator → ServicesView → Prop}
    (hQ : ∀ isCreated, Q (isCreated, { o with hasDnsTask := isCreated })
      { s with dns := dnsView isCreated }) :
    Does (startDnsServer o ipAddr) Q s := by
  have hcreate : Does (clearDnsStop >>= fun _ => createDnsTask ipAddr >>= fun hasDnsTask =>
      pure (hasDnsTask, { o with hasDnsTask := hasDnsTask })) Q { s with dns := .down } := by
    refine does_call _ ?_
    rintro _ t ⟨dns, hcleared, rfl⟩
    obtain rfl := hcleared rfl
    refine does_call _ ?_
    rintro isCreated t ⟨dns, hcreated, rfl⟩
    obtain rfl := hcreated rfl
    exact hQ isCreated
  have hdns := h.dns
  unfold startDnsServer
  rw [Does, wp_bind]
  split
  · exact does_stopDnsServer h hcreate
  · rename_i hnone
    rw [eq_false_of_ne_true hnone] at hdns
    have hs : { s with dns := .down } = s := by rw [← show s.dns = .down from hdns]
    rw [hs] at hcreate
    exact hcreate

theorem does_stopMdnsService (h : InSync o s) {Q : Orchestrator → ServicesView → Prop}
    (hQ : Q { o with isMdnsRunning := false } { s with mdns := false }) :
    Does (stopMdnsService o) Q s := by
  unfold stopMdnsService
  split
  · rename_i hnone
    have ho : { o with isMdnsRunning := false } = o := by rw [← hnone]
    have hs : { s with mdns := false } = s := by rw [← hnone, ← h.mdns]
    rw [ho, hs] at hQ
    exact hQ
  · refine does_call _ ?_
    rintro - t rfl
    exact hQ

theorem only_mdnsHostnameSet (hostname : String) : (mdnsHostnameSet hostname).Only Call.IsQuiet :=
  (only_perform _).mpr fun _ _ _ hd => hd

theorem only_mdnsInstanceNameSet (instanceName : String) :
    (mdnsInstanceNameSet instanceName).Only Call.IsQuiet :=
  (only_perform _).mpr fun _ _ _ hd => hd

theorem only_mdnsServiceAdd (instanceName service proto : String) (port : UInt16) :
    (mdnsServiceAdd instanceName service proto port).Only Call.IsQuiet :=
  (only_perform _).mpr fun _ _ _ hd => hd

/-- A start that fails half way is undone. -/
theorem does_startMdnsService (h : InSync o s) {Q : Bool × Orchestrator → ServicesView → Prop}
    (hQ : ∀ isRunning, (o.isMdnsRunning = true → isRunning = true) →
      Q (isRunning, { o with isMdnsRunning := isRunning }) { s with mdns := isRunning }) :
    Does (startMdnsService o) Q s := by
  unfold startMdnsService
  split
  · rename_i hrunning
    have ho : { o with isMdnsRunning := true } = o := by rw [← hrunning]
    have hs : { s with mdns := true } = s := by rw [← hrunning, ← h.mdns]
    have htrue := hQ true fun _ => rfl
    rw [ho, hs] at htrue
    exact htrue
  · rename_i hdown
    have hfalse := eq_false_of_ne_true hdown
    refine does_call _ ?_
    intro err t hinit
    obtain ⟨left, hleft, rfl⟩ : ∃ left, (err = .ok → left = true) ∧ t = { s with mdns := left } := by
      have hinit' : if err = .ok then t = { s with mdns := true }
          else ∃ left, t = { s with mdns := left } := hinit
      split at hinit'
      · exact ⟨true, fun _ => rfl, hinit'⟩
      · rename_i herr
        obtain ⟨left, hleft⟩ := hinit'
        exact ⟨left, fun hok => absurd hok herr, hleft⟩
    refine does_then (only_mdnsHostnameSet _) ?_
    intro err₂ h₂
    refine does_then (only_mdnsInstanceNameSet _) ?_
    intro err₃ h₃
    refine does_then (only_mdnsServiceAdd _ _ _ _) ?_
    intro err₄ h₄
    split
    · refine does_call _ ?_
      rintro - u rfl
      have hfailed := hQ false fun hrunning => absurd hrunning hdown
      have ho : { o with isMdnsRunning := false } = o := by rw [← hfalse]
      rw [ho] at hfailed
      exact hfailed
    · rename_i hok
      obtain rfl := hleft (h₂ (h₃ (h₄ (not_not.mp hok))))
      exact hQ true fun _ => rfl

/-! ## HTTP -/

theorem does_stopHttpPortal (h : o.hasServer = s.httpd.isSome) {Q : Orchestrator → ServicesView → Prop}
    (hQ : Q { o with hasServer := false, profile := .none } { s with httpd := none }) :
    Does (stopHttpPortal o) Q s := by
  unfold stopHttpPortal
  split
  · refine does_call _ ?_
    rintro - t rfl
    exact hQ
  · rename_i hserver
    have hnone : s.httpd = none := by
      rw [← Option.not_isSome_iff_eq_none, ← h]
      exact hserver
    have hs : { s with httpd := none } = s := by rw [← hnone]
    rw [hs] at hQ
    exact hQ

/-- The handlers are registered in order, up to the first failure. -/
theorem does_registerHttpHandlers (handlers : List HttpdUri) {server : HttpServer}
    (h : s.httpd = some server) {Q : Bool → ServicesView → Prop}
    (hQ : ∀ isOk registered, (isOk = true → registered = server.handlers ++ handlers) →
      Q isOk { s with httpd := some { server with handlers := registered } }) :
    Does (registerHttpHandlers handlers) Q s := by
  induction handlers generalizing s server with
  | nil =>
      have hs : { s with httpd := some server } = s := by rw [← h]
      have hdone := hQ true server.handlers fun _ => (List.append_nil _).symm
      rw [hs] at hdone
      exact hdone
  | cons handler rest ih =>
      have hfail : Q false s := by
        have hs : { s with httpd := some server } = s := by rw [← h]
        have hstop := hQ false server.handlers fun hok => absurd hok Bool.false_ne_true
        rw [hs] at hstop
        exact hstop
      refine does_call _ ?_
      rintro err t rfl
      by_cases herr : err = .ok
      · rw [if_pos herr, if_neg (not_not.mpr herr), h]
        refine ih rfl ?_
        intro isOk registered hregistered
        refine hQ isOk registered fun hall => ?_
        rw [hregistered hall, List.append_assoc]
        rfl
      · rw [if_neg herr, if_pos herr]
        exact hfail

/-- The server runs in the portal's profile, or not at all. -/
theorem does_startHttpPortal (h : o.hasServer = s.httpd.isSome)
    {Q : Bool × Orchestrator → ServicesView → Prop}
    (hok : Q (true, { o with hasServer := true, profile := .provisioning })
      { s with httpd := HttpProfile.provisioning.server })
    (hfail : Q (false, { o with hasServer := false, profile := .none }) { s with httpd := none }) :
    Does (startHttpPortal o) Q s := by
  refine does_bind (does_stopHttpPortal h ?_)
  refine does_call _ ?_
  rintro - t rfl
  refine does_call _ ?_
  intro err u hstart
  have hstart' : if err = .ok then (none : Option HttpServer) = none ∧
      u = { s with httpd := some ⟨[], none⟩ } else u = { s with httpd := none } := hstart
  split at hstart'
  · rename_i herr
    obtain ⟨-, rfl⟩ := hstart'
    rw [if_neg (not_not.mpr herr)]
    refine does_bind (does_registerHttpHandlers portalHandlers rfl ?_)
    intro isOk registered hregistered
    split
    · rename_i hall
      rw [hregistered hall]
      exact hok
    · exact does_bind (does_stopHttpPortal rfl hfail)
  · rename_i herr
    subst hstart'
    rw [if_pos herr]
    exact hfail

/-- The server runs in the station's profile, or not at all. -/
theorem does_startHttpStationServer (h : o.hasServer = s.httpd.isSome)
    {Q : Bool × Orchestrator → ServicesView → Prop}
    (hok : Q (true, { o with hasServer := true, profile := .station })
      { s with httpd := HttpProfile.station.server })
    (hfail : Q (false, { o with hasServer := false, profile := .none }) { s with httpd := none }) :
    Does (startHttpStationServer o) Q s := by
  refine does_bind (does_stopHttpPortal h ?_)
  refine does_call _ ?_
  intro err u hstart
  have hstart' : if err = .ok then (none : Option HttpServer) = none ∧
      u = { s with httpd := some ⟨[], none⟩ } else u = { s with httpd := none } := hstart
  split at hstart'
  · rename_i herr
    obtain ⟨-, rfl⟩ := hstart'
    rw [if_neg (not_not.mpr herr)]
    refine does_bind (does_registerHttpHandlers stationHandlers rfl ?_)
    intro isOk registered hregistered
    have hlast : ∀ (err : EspErr) notFound, (err = .ok → isOk = true ∧
        notFound = some HttpHandler.handleStationNotFound) →
        Does (if err = .ok then pure (true, { o with hasServer := true, profile := .station }) else do
          let o ← stopHttpPortal { o with hasServer := true, profile := .station }
          return (false, o)) Q { s with httpd := some ⟨registered, notFound⟩ } := by
      intro err notFound hall
      split
      · rename_i hdone
        obtain ⟨hisOk, rfl⟩ := hall hdone
        rw [hregistered hisOk]
        exact hok
      · exact does_bind (does_stopHttpPortal rfl hfail)
    refine does_bind ?_
    split
    · rename_i hisOk
      refine (wp_perform _ _).mpr ⟨trivial, ?_⟩
      intro err₂ v hv
      have hv' : v = if err₂ = .ok then
          { s with httpd := some ⟨registered, some .handleStationNotFound⟩ }
        else { s with httpd := some ⟨registered, none⟩ } := hv
      by_cases herr₂ : err₂ = .ok
      · rw [if_pos herr₂] at hv'
        rw [hv']
        exact hlast err₂ _ fun _ => ⟨hisOk, rfl⟩
      · rw [if_neg herr₂] at hv'
        rw [hv']
        exact hlast err₂ none fun hno => absurd hno herr₂
    · exact hlast .fail none fun hno => by cases hno
  · rename_i herr
    subst hstart'
    rw [if_pos herr]
    exact hfail

end Components

/-! ## Station services -/

section Orchestrator

variable {o o' : Orchestrator} {s : ServicesView} {Q : Orchestrator → ServicesView → Prop}

theorem InSync.of_eq (h : InSync o s) (hserver : o'.hasServer = o.hasServer)
    (hprofile : o'.profile = o.profile) (hdns : o'.hasDnsTask = o.hasDnsTask)
    (hmdns : o'.isMdnsRunning = o.isMdnsRunning) (hwifi : o'.isWifiStarted = o.isWifiStarted) :
    InSync o' s :=
  ⟨hserver ▸ h.hasServer, hprofile ▸ h.httpd, hdns ▸ h.dns, hmdns ▸ h.mdns, hwifi ▸ h.wifi⟩

/-- Outside provisioning mode the two flags say which station services run, and nothing else does. -/
structure StationSide (o : Orchestrator) (s : ServicesView) : Prop extends InSync o s where
  httpUp : o.isHttpUp = true ↔ o.profile = .station
  mdnsUp : o.isMdnsUp = o.isMdnsRunning
  noDnsTask : o.hasDnsTask = false
  noPortal : o.profile ≠ .provisioning

theorem StationSide.follows (h : StationSide o s) (hstate : o.state.isPortalState = false) :
    Follows o s := by
  refine ⟨h.toInSync, h.httpUp, h.mdnsUp, ?_⟩
  have hboth := And.intro h.noDnsTask h.noPortal
  revert hstate
  cases o.state with
  | portalIdle | portalTrial | portalSuccess | portalRetry => exact fun hstate => nomatch hstate
  | bootWait | staAttempt | staPause | connected | reconnectWait | reconnectTry =>
      exact fun _ => hboth

theorem Follows.stationSide (h : Follows o s) (hstate : o.state.isPortalState = false) :
    StationSide o s := by
  have hboth := h.state
  suffices hsuff : o.hasDnsTask = false ∧ o.profile ≠ .provisioning from
    ⟨h.toInSync, h.httpUp, h.mdnsUp, hsuff.1, hsuff.2⟩
  revert hstate hboth
  cases o.state with
  | portalIdle | portalTrial | portalSuccess | portalRetry => exact fun hstate => nomatch hstate
  | bootWait | staAttempt | staPause | connected | reconnectWait | reconnectTry =>
      exact fun _ hboth => hboth

theorem only_notifyState (state : ProvisioningState) : (notifyState state).Only Call.IsQuiet :=
  (only_perform _).mpr fun _ _ _ hd => hd

theorem only_refreshIdentity (o : Orchestrator) : (refreshIdentity o).Only Call.IsQuiet :=
  .bind ((only_perform _).mpr fun _ _ _ hd => hd)
    fun _ => (only_perform _).mpr fun _ _ _ hd => hd

theorem does_startStationHttp (h : StationSide o s)
    (hQ : ∀ o' s', StationSide o' s' → Q o' s') : Does (startStationHttp o) Q s := by
  unfold startStationHttp
  split
  · exact hQ o s h
  · refine does_quiet_bind (only_refreshIdentity _) fun _ => ?_
    refine does_bind (does_startHttpStationServer ?_ ?_ ?_)
    · exact h.hasServer
    · refine hQ _ _ ⟨⟨rfl, rfl, h.dns, h.mdns, h.wifi⟩, ?_, h.mdnsUp, h.noDnsTask, ?_⟩
      · exact ⟨fun _ => rfl, fun _ => rfl⟩
      · exact fun hno => nomatch hno
    · refine hQ _ _ ⟨⟨rfl, rfl, h.dns, h.mdns, h.wifi⟩, ?_, h.mdnsUp, h.noDnsTask, ?_⟩
      · exact ⟨(nomatch ·), (nomatch ·)⟩
      · exact fun hno => nomatch hno

theorem does_startStationMdns (h : StationSide o s)
    (hQ : ∀ o' s', StationSide o' s' → Q o' s') : Does (startStationMdns o) Q s := by
  unfold startStationMdns
  split
  · exact hQ o s h
  · refine does_bind (does_startMdnsService h.toInSync ?_)
    intro isRunning _
    exact hQ _ _ ⟨⟨h.hasServer, h.httpd, h.dns, rfl, h.wifi⟩, h.httpUp, rfl, h.noDnsTask,
      h.noPortal⟩

theorem does_startStationServices (h : StationSide o s)
    (hQ : ∀ o' s', Follows o' s' → Q o' s') : Does (startStationServices o) Q s := by
  refine does_bind (does_startStationHttp h ?_)
  intro o₁ s₁ h₁
  refine does_bind (does_startStationMdns h₁ ?_)
  intro o₂ s₂ h₂
  refine does_setState fun deadlineTicks => hQ _ _ (StationSide.follows ?_ rfl)
  exact ⟨h₂.of_eq rfl rfl rfl rfl rfl, h₂.httpUp, h₂.mdnsUp, h₂.noDnsTask, h₂.noPortal⟩

theorem does_stopStationServices (h : InSync o s)
    (hQ : Q { o with
      isMdnsRunning := false, hasServer := false, profile := .none, isHttpUp := false
      isMdnsUp := false, httpStartFailures := 0, mdnsStartFailures := 0 }
      { s with mdns := false, httpd := none }) : Does (stopStationServices o) Q s := by
  refine does_bind (does_stopMdnsService h ?_)
  refine does_bind (does_stopHttpPortal ?_ hQ)
  exact h.hasServer

/-! ## Provisioning mode -/

theorem does_stopPortalServices (h : InSync o s)
    (hQ : ∀ mode, Q { o with hasServer := false, profile := .none, hasDnsTask := false }
      { s with httpd := none, dns := .down, wifiMode := mode }) :
    Does (stopPortalServices o) Q s := by
  refine does_bind (does_stopHttpPortal h.hasServer ?_)
  refine does_bind (does_stopDnsServer ?_ ?_)
  · exact ⟨rfl, rfl, h.dns, h.mdns, h.wifi⟩
  refine does_bind (does_call _ ?_)
  intro err t hset
  obtain ⟨mode, -, rfl⟩ := wifiMode_of_set hset
  exact hQ mode

/-- All three run when the starts succeed. -/
theorem does_startPortalServices (h : InSync o s) {Q : Bool × Orchestrator → ServicesView → Prop}
    (hQ : ∀ isOk o' s', InSync o' s' → o'.isHttpUp = o.isHttpUp → o'.isMdnsUp = o.isMdnsUp →
      o'.isMdnsRunning = o.isMdnsRunning →
      (isOk = true → s'.HasAccessPoint ∧ o'.hasDnsTask = true ∧ o'.profile = .provisioning) →
      Q (isOk, o') s') : Does (startPortalServices o) Q s := by
  refine does_bind (does_startWifiAccessPoint h ?_)
  intro isApStarted mode isDriverStarted isWifiStarted hdriver hap
  have h₁ : InSync { o with isWifiStarted := isWifiStarted }
      { s with wifiMode := mode, isWifiStarted := isDriverStarted } :=
    ⟨h.hasServer, h.httpd, h.dns, h.mdns, hdriver⟩
  have hfailed : ∀ o' s', InSync o' s' → o'.isHttpUp = o.isHttpUp → o'.isMdnsUp = o.isMdnsUp →
      o'.isMdnsRunning = o.isMdnsRunning → Q (false, o') s' :=
    fun o' s' h' hhttp hmdns hrunning => hQ false o' s' h' hhttp hmdns hrunning fun hno => nomatch hno
  show Does (if isApStarted = false then _ else _) Q _
  split
  · exact hfailed _ _ h₁ rfl rfl rfl
  rename_i hisAp
  have hpoint := hap (eq_true_of_ne_false hisAp)
  refine does_call _ ?_
  rintro address t rfl
  refine does_bind (does_startDnsServer h₁ address ?_)
  intro isDnsStarted
  show Does (if isDnsStarted = false then _ else _) Q _
  split
  · exact hfailed _ _ ⟨h₁.hasServer, h₁.httpd, rfl, h₁.mdns, h₁.wifi⟩ rfl rfl rfl
  rename_i hisDns
  refine does_startHttpPortal ?_ ?_ ?_
  · exact h₁.hasServer
  · exact hQ true _ _ ⟨rfl, rfl, rfl, h₁.mdns, h₁.wifi⟩ rfl rfl rfl
      fun _ => ⟨hpoint, eq_true_of_ne_false hisDns, rfl⟩
  · exact hfailed _ _ ⟨rfl, rfl, rfl, h₁.mdns, h₁.wifi⟩ rfl rfl rfl

theorem does_enterProvisioning (h : InSync o s) (hQ : ∀ o' s', Follows o' s' → Q o' s') :
    Does (enterProvisioning o) Q s := by
  refine does_bind (does_stopStationServices h ?_)
  refine does_quiet_bind (only_disconnectWifiStation _) fun _ => ?_
  refine does_bind (does_startPortalServices ?_ ?_)
  · exact ⟨rfl, rfl, h.dns, rfl, h.wifi⟩
  intro isStarted o₁ s₁ h₁ hhttp hmdns hrunning hall
  show Does (if isStarted = false then _ else _) Q _
  split
  · refine does_bind (does_stopPortalServices h₁ ?_)
    intro mode
    refine does_setState fun deadlineTicks => hQ _ _ ⟨⟨rfl, rfl, rfl, h₁.mdns, h₁.wifi⟩, ?_, ?_, ?_⟩
    · show o₁.isHttpUp = true ↔ HttpProfile.none = .station
      rw [hhttp]
      exact ⟨(nomatch ·), (nomatch ·)⟩
    · exact hmdns.trans hrunning.symm
    · exact ⟨rfl, rfl, hrunning⟩
  · rename_i hisStarted
    obtain ⟨hpoint, hdns, hprofile⟩ := hall (eq_true_of_ne_false hisStarted)
    refine does_bind (does_setState fun deadlineTicks => ?_)
    refine does_quiet_bind (only_notifyState _) fun _ => hQ _ _ ?_
    refine ⟨h₁.of_eq rfl rfl rfl rfl rfl, ?_, hmdns.trans hrunning.symm,
      ⟨hpoint, hdns, hprofile, hrunning⟩⟩
    show o₁.isHttpUp = true ↔ o₁.profile = .station
    rw [hhttp, hprofile]
    exact ⟨(nomatch ·), (nomatch ·)⟩

theorem does_leaveProvisioning (h : Follows o s) (hstate : o.state = .portalSuccess)
    (hQ : ∀ o' s', Follows o' s' → Q o' s') : Does (leaveProvisioning o) Q s := by
  have hportal := h.state
  rw [hstate] at hportal
  obtain ⟨-, -, hprofile, hmdns⟩ := hportal
  have hnoHttp : o.isHttpUp ≠ true := fun hup => by
    rw [h.httpUp, hprofile] at hup
    cases hup
  refine does_bind (does_stopPortalServices h.toInSync fun mode => ?_)
  -- what is left runs neither the portal nor a station service
  have hside : ∀ o', o'.hasServer = false → o'.profile = .none → o'.hasDnsTask = false →
      o'.isMdnsRunning = o.isMdnsRunning → o'.isWifiStarted = o.isWifiStarted →
      o'.isHttpUp = o.isHttpUp → o'.isMdnsUp = o.isMdnsUp →
      StationSide o' { s with httpd := none, dns := .down, wifiMode := mode } := by
    intro o' hserver hnone hdns hrunning hwifi hhttp hmdnsUp
    refine ⟨⟨hserver, by rw [hnone]; rfl, by rw [hdns]; rfl, by rw [hrunning]; exact h.mdns,
      by rw [hwifi]; exact h.wifi⟩, ?_, by rw [hmdnsUp, hrunning]; exact h.mdnsUp, hdns, ?_⟩
    · rw [hhttp, hnone]
      exact ⟨fun hup => absurd hup hnoHttp, (nomatch ·)⟩
    · rw [hnone]
      exact (nomatch ·)
  show Does (if o.isAssociated = true then _ else _) Q _
  split
  · refine does_bind (does_setState fun deadlineTicks => ?_)
    refine does_quiet_bind (only_notifyState _) fun _ => ?_
    split
    · exact does_startStationServices (hside _ rfl rfl rfl rfl rfl rfl rfl) hQ
    · exact hQ _ _ (StationSide.follows (hside _ rfl rfl rfl rfl rfl rfl rfl) rfl)
  · refine does_quiet_bind (only_notifyState _) fun _ => ?_
    exact does_setState fun deadlineTicks =>
      hQ _ _ (StationSide.follows (hside _ rfl rfl rfl rfl rfl rfl rfl) rfl)

/-! ## Messages and timeouts -/

/-- A change of state within provisioning mode, or outside it. -/
theorem Follows.setState (h : Follows o s) {state : OrchestratorState}
    (hsame : StateServices s o.hasDnsTask o.profile o.isMdnsRunning o.state →
      StateServices s o.hasDnsTask o.profile o.isMdnsRunning state)
    (hstate : o'.state = state) (hserver : o'.hasServer = o.hasServer)
    (hprofile : o'.profile = o.profile) (hdns : o'.hasDnsTask = o.hasDnsTask)
    (hmdns : o'.isMdnsRunning = o.isMdnsRunning) (hwifi : o'.isWifiStarted = o.isWifiStarted)
    (hhttp : o'.isHttpUp = o.isHttpUp) (hmdnsUp : o'.isMdnsUp = o.isMdnsUp) : Follows o' s := by
  refine ⟨h.of_eq hserver hprofile hdns hmdns hwifi, ?_, ?_, ?_⟩
  · rw [hhttp, hprofile]
    exact h.httpUp
  · rw [hmdnsUp, hmdns]
    exact h.mdnsUp
  · rw [hstate, hdns, hprofile, hmdns]
    exact hsame h.state

/-- What the orchestrator's own variables say stays true. -/
theorem Follows.of_eq (h : Follows o s) (hstate : o'.state = o.state)
    (hserver : o'.hasServer = o.hasServer) (hprofile : o'.profile = o.profile)
    (hdns : o'.hasDnsTask = o.hasDnsTask) (hmdns : o'.isMdnsRunning = o.isMdnsRunning)
    (hwifi : o'.isWifiStarted = o.isWifiStarted) (hhttp : o'.isHttpUp = o.isHttpUp)
    (hmdnsUp : o'.isMdnsUp = o.isMdnsUp) : Follows o' s :=
  h.setState id hstate hserver hprofile hdns hmdns hwifi hhttp hmdnsUp

theorem does_connect (h : Follows o s) (credentials : WifiCredentials)
    (hQ : ∀ isWifiStarted s', Follows { o with isWifiStarted := isWifiStarted } s' →
      Q { o with isWifiStarted := isWifiStarted } s') :
    Does (connectWifiStation o credentials) Q s := by
  refine does_connectWifiStation h.toInSync ?_
  intro mode isDriverStarted isWifiStarted hdriver hmode hkept
  refine hQ _ _ ⟨⟨h.hasServer, h.httpd, h.dns, h.mdns, hdriver⟩, h.httpUp, h.mdnsUp, ?_⟩
  have hold := h.state
  show StateServices _ o.hasDnsTask o.profile o.isMdnsRunning o.state
  revert hold
  cases o.state with
  | portalIdle | portalTrial | portalSuccess =>
      exact fun ⟨hpoint, hrest⟩ => ⟨⟨hmode hpoint.1, hkept hpoint.2⟩, hrest⟩
  | bootWait | staAttempt | staPause | connected | reconnectWait | reconnectTry | portalRetry =>
      exact id

theorem only_setHttpPortalStatus (status : PortalStatus) :
    (setHttpPortalStatus status).Only Call.IsQuiet :=
  (only_perform _).mpr fun _ _ _ hd => hd

theorem only_getRemainingTicks (deadlineTicks : UInt32) :
    (getRemainingTicks deadlineTicks).Only Call.IsQuiet :=
  .bind ((only_perform _).mpr fun _ _ _ hd => hd) fun _ => trivial

theorem does_failTrial (h : Follows o s) (hstate : o.state = .portalTrial)
    (hQ : ∀ o' s', Follows o' s' → Q o' s') : Does (failTrial o) Q s := by
  refine does_quiet_bind (only_disconnectWifiStation _) fun _ => ?_
  refine does_quiet_bind (only_setHttpPortalStatus _) fun _ => ?_
  refine does_setState fun deadlineTicks => hQ _ _ (h.setState ?_ rfl rfl rfl rfl rfl rfl rfl rfl)
  rw [hstate]
  exact id

/-- A change of state outside provisioning mode. -/
theorem does_setStationState (h : Follows o s) (hstate : o.state.isPortalState = false)
    {state : OrchestratorState} (hnew : state.isPortalState = false) (timeoutMs : UInt32)
    (hQ : ∀ o' s', Follows o' s' → Q o' s') : Does (setState o state timeoutMs) Q s := by
  have hside := h.stationSide hstate
  refine does_setState fun deadlineTicks => hQ _ _ (StationSide.follows ?_ hnew)
  exact ⟨hside.toInSync.of_eq rfl rfl rfl rfl rfl, hside.httpUp, hside.mdnsUp, hside.noDnsTask,
    hside.noPortal⟩

theorem does_startBootAttempt (h : Follows o s) (hstate : o.state.isPortalState = false)
    (hQ : ∀ o' s', Follows o' s' → Q o' s') : Does (startBootAttempt o) Q s := by
  refine does_bind (does_connect ?_ _ ?_)
  · exact h.of_eq rfl rfl rfl rfl rfl rfl rfl rfl
  intro isWifiStarted s₁ h₁
  exact does_setStationState h₁ hstate rfl _ hQ

theorem does_handleStationConnected (h : Follows o s) (hQ : ∀ o' s', Follows o' s' → Q o' s') :
    Does (handleStationConnected o) Q s := by
  unfold handleStationConnected
  split
  case h_4 hstate =>
    refine does_call _ ?_
    rintro isStored t rfl
    split
    · refine does_quiet_bind (only_setHttpPortalStatus _) fun _ => ?_
      refine does_setState fun deadlineTicks =>
        hQ _ _ (h.setState ?_ rfl rfl rfl rfl rfl rfl rfl rfl)
      rw [hstate]
      exact id
    · exact does_failTrial h hstate hQ
  case h_5 => exact hQ o s h
  all_goals
    rename_i hstate
    have hfollows : ∀ c : Prop, [Decidable c] →
        Follows (if c then { o with active := o.stored } else o) s ∧
          (if c then { o with active := o.stored } else o).state = o.state := by
      intro c _
      split
      · exact ⟨h.of_eq rfl rfl rfl rfl rfl rfl rfl rfl, rfl⟩
      · exact ⟨h, rfl⟩
    obtain ⟨h₁, hstate₁⟩ := hfollows (o.state = .staAttempt)
    refine does_bind (does_setStationState ?_ ?_ rfl _ ?_)
    · exact h₁.of_eq rfl rfl rfl rfl rfl rfl rfl rfl
    · exact (congrArg _ (hstate₁.trans hstate)).trans rfl
    intro o₂ s₂ h₂
    exact does_quiet_bind (only_notifyState _) fun _ => hQ o₂ s₂ h₂

theorem does_beginReconnectWait (h : Follows o s) (hstate : o.state.isPortalState = false)
    (hQ : ∀ o' s', Follows o' s' → Q o' s') : Does (beginReconnectWait o) Q s :=
  does_setStationState h hstate rfl _ hQ

theorem does_handleStationDisconnected (h : Follows o s)
    (hQ : ∀ o' s', Follows o' s' → Q o' s') : Does (handleStationDisconnected o) Q s := by
  unfold handleStationDisconnected
  split
  · rename_i hstate
    refine does_quiet_bind (only_notifyState _) fun _ => ?_
    refine does_beginReconnectWait ?_ ?_ hQ
    · exact h.of_eq rfl rfl rfl rfl rfl rfl rfl rfl
    · exact (congrArg _ hstate).trans rfl
  · rename_i hstate
    refine does_beginReconnectWait ?_ ?_ hQ
    · exact h.of_eq rfl rfl rfl rfl rfl rfl rfl rfl
    · exact (congrArg _ hstate).trans rfl
  · exact hQ o s h

theorem does_handleStationGotIp (h : Follows o s) (hQ : ∀ o' s', Follows o' s' → Q o' s') :
    Does (handleStationGotIp o) Q s := by
  have h₁ : Follows { o with hasIp := true } s := h.of_eq rfl rfl rfl rfl rfl rfl rfl rfl
  show Does (if o.state ≠ .connected then _ else _) Q s
  split
  · exact hQ _ s h₁
  rename_i hconnected
  have hstate : o.state.isPortalState = false := by
    rw [not_not.mp hconnected]
    rfl
  refine does_quiet_bind (.ite (only_refreshIdentity _) trivial) fun _ => ?_
  split
  · exact does_setStationState h₁ hstate rfl _ hQ
  · exact does_startStationServices (h₁.stationSide hstate) hQ

/-- An update request ends in a restart, or changes nothing. -/
theorem does_handleUpdateRequest (h : Follows o s) (hQ : Q o s) :
    Does (handleUpdateRequest o) Q s := by
  refine does_call _ ?_
  rintro request t rfl
  split
  · exact hQ
  refine does_bind (does_stopStationServices h.toInSync ?_)
  refine does_bind (does_stopPortalServices ?_ fun mode => ?_)
  · exact ⟨rfl, rfl, h.dns, rfl, h.wifi⟩
  refine does_quiet_bind (only_disconnectWifiStation _) fun _ => ?_
  exact does_call _ fun never => nomatch never

theorem does_handleMessage (message : Message) (h : Follows o s)
    (hQ : ∀ o' s', Follows o' s' → Q o' s') : Does (handleMessage message o) Q s := by
  cases message with
  | buttonRequest =>
      show Does (if o.state.isPortalState = true then _ else _) Q s
      split
      · exact hQ o s h
      · exact does_enterProvisioning h.toInSync hQ
  | staConnected =>
      refine does_handleStationConnected ?_ hQ
      exact h.of_eq rfl rfl rfl rfl rfl rfl rfl rfl
  | staDisconnected =>
      refine does_handleStationDisconnected ?_ hQ
      exact h.of_eq rfl rfl rfl rfl rfl rfl rfl rfl
  | staGotIp => exact does_handleStationGotIp h hQ
  | credentialsSubmitted credentials =>
      show Does (if o.state = .portalIdle then _ else _) Q s
      split
      · rename_i hstate
        refine does_bind (does_connect ?_ _ ?_)
        · exact h.of_eq rfl rfl rfl rfl rfl rfl rfl rfl
        intro isWifiStarted s₁ h₁
        refine does_setState fun deadlineTicks =>
          hQ _ _ (h₁.setState ?_ rfl rfl rfl rfl rfl rfl rfl rfl)
        show StateServices s₁ _ _ _ o.state → _
        rw [hstate]
        exact id
      · exact hQ o s h
  | ledTimingSubmitted timing submitSeq => exact does_call _ fun _ t heq => heq ▸ hQ o s h
  | pulseResult measurement => exact does_call _ fun _ t heq => heq ▸ hQ o s h
  | pulseReadRequested submitSeq => exact does_call _ fun _ t heq => heq ▸ hQ o s h
  | updateRequest => exact does_handleUpdateRequest h (hQ o s h)

theorem only_logMdnsHostnameInUse : logMdnsHostnameInUse.Only Call.IsQuiet :=
  .bind ((only_perform _).mpr fun _ _ _ hd => hd) fun _ => .ite trivial trivial

theorem does_checkMdnsHostname (h : Follows o s) (hQ : ∀ o' s', Follows o' s' → Q o' s') :
    Does (checkMdnsHostname o) Q s := by
  refine does_quiet_bind only_logMdnsHostnameInUse fun name => ?_
  cases name with
  | none => exact hQ o s h
  | some hostname =>
      refine does_quiet_bind (only_refreshIdentity _) fun _ => hQ _ s ?_
      exact h.of_eq rfl rfl rfl rfl rfl rfl rfl rfl

theorem does_leaveState (h : Follows o s) (hQ : ∀ o' s', Follows o' s' → Q o' s') :
    Does (leaveState o) Q s := by
  unfold leaveState
  split
  case h_1 hstate =>
    have hportal : o.state.isPortalState = false := by
      rw [hstate]
      rfl
    split
    · exact does_quiet_bind (only_notifyState _) fun _ => does_startBootAttempt h hportal hQ
    · exact does_enterProvisioning h.toInSync hQ
  case h_2 hstate =>
    have hportal : o.state.isPortalState = false := by
      rw [hstate]
      rfl
    refine does_quiet_bind (only_disconnectWifiStation _) fun _ => ?_
    split
    · exact does_setStationState h hportal rfl _ hQ
    · exact does_enterProvisioning h.toInSync hQ
  case h_3 hstate =>
    refine does_startBootAttempt h ?_ hQ
    rw [hstate]
    rfl
  case h_4 hstate =>
    refine does_bind (does_connect h _ ?_)
    intro isWifiStarted s₁ h₁
    refine does_setStationState h₁ ?_ rfl _ hQ
    exact (congrArg _ hstate).trans rfl
  case h_5 hstate =>
    refine does_quiet_bind (only_disconnectWifiStation _) fun _ => ?_
    refine does_beginReconnectWait ?_ ?_ hQ
    · exact h.of_eq rfl rfl rfl rfl rfl rfl rfl rfl
    · exact (congrArg _ hstate).trans rfl
  case h_6 hstate => exact does_failTrial h hstate hQ
  case h_7 hstate => exact does_leaveProvisioning h hstate hQ
  case h_8 => exact does_enterProvisioning h.toInSync hQ
  case h_9 hstate =>
    have hportal : o.state.isPortalState = false := by
      rw [hstate]
      rfl
    split
    · exact does_startStationServices (h.stationSide hportal) hQ
    · refine does_bind (does_setStationState h hportal rfl _ fun o₁ s₁ h₁ => ?_)
      split
      · exact does_checkMdnsHostname h₁ hQ
      · exact hQ o₁ s₁ h₁
  case h_10 => exact hQ o s h

theorem does_handleTimeout (h : Follows o s) (hQ : ∀ o' s', Follows o' s' → Q o' s') :
    Does (handleTimeout o) Q s :=
  does_call _ fun _ _ heq => heq ▸ does_leaveState h hQ

theorem does_checkDeadlines (h : Follows o s) (hQ : ∀ o' s', Follows o' s' → Q o' s') :
    Does (checkDeadlines o) Q s := by
  have hstate : ∀ o₁ s₁, Follows o₁ s₁ → Does (if o₁.hasDeadline then do
      let remaining ← getRemainingTicks o₁.deadlineTicks
      if remaining = 0 then handleTimeout o₁ else return o₁
    else return o₁) Q s₁ := by
    intro o₁ s₁ h₁
    split
    · refine does_quiet_bind (only_getRemainingTicks _) fun remaining => ?_
      split
      · exact does_handleTimeout h₁ hQ
      · exact hQ o₁ s₁ h₁
    · exact hQ o₁ s₁ h₁
  refine does_bind ?_
  split
  · refine does_quiet_bind (only_getRemainingTicks _) fun remaining => ?_
    split
    · refine does_call _ ?_
      rintro - t rfl
      refine hstate _ _ ?_
      exact h.of_eq rfl rfl rfl rfl rfl rfl rfl rfl
    · exact hstate o s h
  · exact hstate o s h

theorem does_waitForMessage (h : Follows o s) :
    Does (waitForMessage o) (fun a v => Follows a.1 v) s := by
  refine does_quiet_bind ?_ fun waitTicks => h
  refine .bind ((only_perform _).mpr fun _ _ _ hd => hd) fun _ => ?_
  refine .bind (.ite (only_getRemainingTicks _) trivial) fun waitTicks => .ite ?_ trivial
  exact .bind (only_getRemainingTicks _) fun remaining => .ite (only_getRemainingTicks _) trivial

end Orchestrator

/-! ## Leaving the portal -/

section Stopped

open Relation

set_option maxRecDepth 4000

/-- The portal is left after a trial at `ticks`, with the DNS task in a phase. -/
def leftOrchestrator (ticks : Nat) : Orchestrator :=
  { successOrchestrator ticks with
    state := .connected
    hasDeadline := false
    deadlineTicks := UInt32.ofNat (ticks + 300) + pdMsToTicks 0
    trial := noCredentials
    hasServer := false
    profile := .none
    hasDnsTask := false }

def leftSystem (ticks : Nat) (phase : DnsPhase) (history : List Record) : System :=
  { successSystem (ticks + 300) history with
    services := ⟨.sta, true, none, ⟨phase, true⟩, false⟩
    state := .connected }

/-- The portal is left three seconds after a success. -/
theorem play_checkDeadlines {h : Script Call Call.Answer System} {ticks : Nat} {phase : DnsPhase}
    (htick : ∀ s, h .tickCount s = succeed .tickCount s)
    (htimeout : ∀ s, h .handleTimeout s = succeed .handleTimeout s)
    (hpassed : UInt32.ofNat (ticks + 300) = UInt32.ofNat ticks + pdMsToTicks apShutdownDelayMs)
    (hleave : ∀ history, ∃ history', (leaveProvisioning (successOrchestrator ticks)).play h
      (successSystem (ticks + 300) history) =
        some (leftOrchestrator ticks, leftSystem ticks phase history')) (history : List Record) :
    ∃ history', (checkDeadlines (successOrchestrator ticks)).play h
      ((successSystem (ticks + 300) history).record .timedOut) =
        some (leftOrchestrator ticks, leftSystem ticks phase history') := by
  let s := (successSystem (ticks + 300) history).record .timedOut
  have hread : (getRemainingTicks (successOrchestrator ticks).deadlineTicks).play h s =
      some (0, s) := by
    have hzero : (successOrchestrator ticks).deadlineTicks - UInt32.ofNat s.ticks = 0 := by
      rw [show UInt32.ofNat s.ticks = _ from hpassed]
      exact UInt32.sub_self _
    simp [getRemainingTicks, xTaskGetTickCount, htick, succeed, hzero]
  obtain ⟨history', hleft⟩ := hleave (history ++ [.timedOut] ++ [.handledTimeout (ticks + 300)])
  refine ⟨history', ?_⟩
  show (do
    let remaining ← getRemainingTicks (successOrchestrator ticks).deadlineTicks
    if remaining = 0 then handleTimeout (successOrchestrator ticks)
    else return (successOrchestrator ticks)).play h s = _
  rw [play_bind, hread]
  show (handleTimeout (successOrchestrator ticks)).play h s = _
  rw [handleTimeout, play_bind, play_perform, htimeout]
  exact hleft

/-- Every call succeeds, and the DNS task ends as soon as it is asked to. -/
def stopAtOnce : Script Call Call.Answer System
  | .requestDnsStop, s =>
    if s.services.dns.phase = .serving then
      some ((), (s.setDnsStop true).setDnsPhase .deleted)
    else none
  | c, s => succeed c s

theorem timelyDevice_of_stopAtOnce (c : Call) (s : System) (r : c.Answer) (t : System)
    (h : stopAtOnce c s = some (r, t)) : amid timelyDevice (OtherStepIn Calm) c s r t := by
  cases c with
  | requestDnsStop =>
      unfold stopAtOnce at h
      dsimp only at h
      split at h
      · rename_i hserving
        cases h
        refine ⟨_, timelyDevice_of_succeed .requestDnsStop s () _ rfl, .single ?_⟩
        exact ⟨.dnsStops, trivial, .dnsStops hserving rfl⟩
      · cases h
  | _ => exact ⟨t, timelyDevice_of_succeed _ s r t h, .refl⟩

/-- Every call succeeds, and the wait for the DNS task takes as long as the clock lets it. -/
def waitAnyway : Script Call Call.Answer System
  | .dnsWaitTickCount _, s => some (UInt32.ofNat s.ticks, s)
  | c, s => succeed c s

theorem systemDevice_of_waitAnyway (c : Call) (s : System) (r : c.Answer) (t : System)
    (h : waitAnyway c s = some (r, t)) : systemDevice c s r t := by
  cases c with
  | dnsWaitTickCount deadlineTicks =>
      cases h
      exact ⟨s, ⟨rfl, rfl⟩, ⟨_, rfl, rfl⟩, rfl⟩
  | _ => exact systemDevice_of_succeed _ s r t h

/-- A submission succeeds at `ticks`, and the page has had three seconds to say so. -/
theorem run_shown {ticks : Nat} (h : 3000 ≤ ticks) : ∃ waitTicks history,
    CalmRuns (.ret (successOrchestrator ticks, waitTicks), successSystem (ticks + 300) history) := by
  obtain ⟨w₁, h₁, hidle⟩ := run_healthy h
  obtain ⟨w₂, h₂, htrial⟩ := run_trial ticks h₁ w₁
  obtain ⟨w₃, h₃, hsuccess⟩ := run_success ticks h₂ w₂
  have hshown : ReflTransGen (SystemStepOn timelyDevice Calm)
      (.ret (successOrchestrator ticks, w₃), successSystem ticks h₃)
      (.ret (successOrchestrator ticks, w₃), successSystem (ticks + 300) h₃) :=
    run_ticks (fun _ => trivial) _ 300 rfl
  exact ⟨w₃, h₃, ((hidle.trans htrial).trans hsuccess).trans hshown⟩

/-- Close to the wrap of the tick count the deadline is behind at once. -/
theorem play_stopDnsServer {o : Orchestrator} {s : System} (ho : o.hasDnsTask = true)
    (hphase : s.services.dns.phase = .serving)
    (hlate : ¬ UInt32.ofNat s.ticks < UInt32.ofNat s.ticks + pdMsToTicks dnsStopTimeoutMs) :
    (stopDnsServer o).play waitAnyway s =
      some ({ o with hasDnsTask := false }, s.setDnsStop true) := by
  have hlate' : ¬ UInt32.ofNat (s.setDnsStop true).ticks <
      UInt32.ofNat (s.setDnsStop true).ticks + pdMsToTicks dnsStopTimeoutMs := hlate
  have hserving : (s.setDnsStop true).services.dns.phase = .serving := hphase
  simp [stopDnsServer, ho, requestDnsStop, waitAnyway, succeed, waitForDnsTask, isDnsTaskDeleted,
    hserving, if_neg hlate']

theorem play_leaveProvisioning (ticks : Nat) (history : List Record)
    (hlate : ¬ UInt32.ofNat (ticks + 300) <
      UInt32.ofNat (ticks + 300) + pdMsToTicks dnsStopTimeoutMs) :
    ∃ history', (leaveProvisioning (successOrchestrator ticks)).play waitAnyway
        (successSystem (ticks + 300) history) =
      some (leftOrchestrator ticks, leftSystem ticks .serving history') := by
  let o := { successOrchestrator ticks with hasServer := false, profile := .none }
  let s := { successSystem (ticks + 300) history with
    services := ⟨.apsta, true, none, ⟨.serving, false⟩, false⟩ }
  have hhttp : (stopHttpPortal (successOrchestrator ticks)).play waitAnyway
      (successSystem (ticks + 300) history) = some (o, s) := rfl
  have hdns : (stopDnsServer o).play waitAnyway s =
      some ({ o with hasDnsTask := false }, s.setDnsStop true) :=
    play_stopDnsServer rfl rfl hlate
  have hwifi : stopWifiAccessPoint.play waitAnyway (s.setDnsStop true) =
      some ((), { s with services := ⟨.sta, true, none, ⟨.serving, true⟩, false⟩ }) := rfl
  have hstop : (stopPortalServices (successOrchestrator ticks)).play waitAnyway
      (successSystem (ticks + 300) history) =
        some ({ o with hasDnsTask := false },
          { s with services := ⟨.sta, true, none, ⟨.serving, true⟩, false⟩ }) := by
    simp only [stopPortalServices, play_bind, hhttp, hdns, hwifi, Option.bind_some, play_pure]
  rw [leaveProvisioning, play_bind, hstop]
  exact ⟨_, rfl⟩

/-- The DNS task ends while `StopDnsServer()` waits for it. -/
theorem run_left : ∃ waitTicks history, CalmRuns
    (.ret (leftOrchestrator 3000, waitTicks), leftSystem 3000 .deleted history) := by
  obtain ⟨w, history, hshown⟩ := run_shown (Nat.le_refl 3000)
  obtain ⟨history', hplay⟩ : ∃ history',
      (checkDeadlines (successOrchestrator 3000)).play stopAtOnce
        ((successSystem (3000 + 300) history).record .timedOut) =
      some (leftOrchestrator 3000, leftSystem 3000 .deleted history') :=
    play_checkDeadlines (h := stopAtOnce) (fun _ => rfl) (fun _ => rfl) (by decide)
      (fun _ => ⟨_, rfl⟩) history
  obtain ⟨w', hwait⟩ := play_waitForMessage (leftOrchestrator 3000)
    (leftSystem 3000 .deleted history')
  have hends : Ends (amid timelyDevice (OtherStepIn Calm))
      (waitForMessage (leftOrchestrator 3000)) _ _ _ :=
    (ends_of_play timelyDevice_of_succeed hwait).mono fun _ _ _ _ hd => ⟨_, hd, .refl⟩
  have hleft := (ends_of_play timelyDevice_of_stopAtOnce hplay).bind hends
  exact ⟨w', _, hshown.trans (.head (.next (.timeout rfl)) hleft.run_amid)⟩

/-- The tick count wraps before the deadline of the wait, which does not wait at all. -/
theorem run_left_serving : ∃ waitTicks history, Runs (fun _ _ => True)
    (.ret (leftOrchestrator (2 ^ 32 - 400), waitTicks),
      leftSystem (2 ^ 32 - 400) .serving history) := by
  obtain ⟨w, history, hshown⟩ := run_shown (show 3000 ≤ 2 ^ 32 - 400 by decide)
  obtain ⟨history', hplay⟩ := play_checkDeadlines (h := waitAnyway) (fun _ => rfl) (fun _ => rfl)
    (by decide) (fun history => play_leaveProvisioning (2 ^ 32 - 400) history (by decide)) history
  obtain ⟨w', hwait⟩ := play_waitForMessage (leftOrchestrator (2 ^ 32 - 400))
    (leftSystem (2 ^ 32 - 400) .serving history')
  have hleft := (ends_of_play systemDevice_of_waitAnyway hplay).bind
    (ends_of_play systemDevice_of_succeed hwait)
  exact ⟨w', _, hshown.anyRuns.trans (run_of_next (.timeout rfl) hleft)⟩

end Stopped
/-! ## Runs -/

/-- The DNS task runs, and was not asked to stop. -/
structure DnsTask.IsUp (d : DnsTask) : Prop where
  running : d.phase ≠ .deleted
  kept : d.isStopRequested = false

def DnsView.Covers : DnsView → DnsTask → Prop
  | .down, d => d.phase = .deleted
  | .cleared, d => d.phase = .deleted ∧ d.isStopRequested = false
  | .up, d => d.IsUp
  | .stopping, d => d.isStopRequested = true

/-- `RunDnsTask()` gets its socket: `socket()`, `bind()` and `setsockopt()` succeed. -/
def DnsOpens (_ : System) (event : Event) : Prop := event ≠ .dnsOpenFails

section Views

variable {v : DnsView} {d e : DnsTask}

theorem exists_covers (d : DnsTask) : ∃ v : DnsView, v.Covers d := by
  by_cases hstop : d.isStopRequested = true
  · exact ⟨.stopping, hstop⟩
  · by_cases hphase : d.phase = .deleted
    · exact ⟨.down, hphase⟩
    · exact ⟨.up, hphase, eq_false_of_ne_true hstop⟩

/-- A task that other tasks see end was asked to stop. -/
theorem covers_setPhase (h : v.Covers d) {phase : DnsPhase} (hlive : d.phase ≠ .deleted)
    (hphase : phase ≠ .deleted ∨ d.isStopRequested = true) :
    v.Covers { d with phase := phase } := by
  cases v with
  | down => exact absurd h hlive
  | cleared => exact absurd h.1 hlive
  | up => exact ⟨hphase.resolve_right (by rw [h.kept]; exact Bool.false_ne_true), h.kept⟩
  | stopping => exact h

theorem covers_clearDnsStop (h : v.Covers d) :
    ∃ w, dnsViewDevice .clearDnsStop v () w ∧ w.Covers { d with isStopRequested := false } := by
  by_cases hdown : v = .down
  · subst hdown
    exact ⟨.cleared, fun _ => rfl, h, rfl⟩
  · obtain ⟨w, hw⟩ := exists_covers { d with isStopRequested := false }
    exact ⟨w, fun hv => absurd hv hdown, hw⟩

theorem covers_createDnsTask (h : v.Covers d) {ipAddr : UInt32} {isCreated : Bool}
    (hcall : dnsTaskDevice (.createDnsTask ipAddr) d isCreated e) :
    ∃ w, dnsViewDevice (.createDnsTask ipAddr) v isCreated w ∧ w.Covers e := by
  by_cases hcleared : v = .cleared
  · subst hcleared
    obtain ⟨hdeleted, hstop⟩ := h
    obtain ⟨phase, hcreated, hfailed, rfl⟩ := hcall
    refine ⟨_, fun _ => rfl, ?_⟩
    cases isCreated with
    | true => exact ⟨by simp [hcreated rfl hdeleted], hstop⟩
    | false => exact (hfailed rfl).trans hdeleted
  · obtain ⟨w, hw⟩ := exists_covers e
    exact ⟨w, fun hv => absurd hv hcleared, hw⟩

theorem covers_requestDnsStop (v : DnsView) (d : DnsTask) :
    ∃ w, dnsViewDevice .requestDnsStop v () w ∧ w.Covers { d with isStopRequested := true } :=
  ⟨.stopping, fun _ => rfl, rfl⟩

theorem covers_isDnsTaskDeleted (h : v.Covers d) {isDeleted : Bool}
    (hcall : dnsTaskDevice .isDnsTaskDeleted d isDeleted e) :
    ∃ w, dnsViewDevice .isDnsTaskDeleted v isDeleted w ∧ w.Covers e := by
  obtain ⟨hdeleted, rfl⟩ := hcall
  refine ⟨_, rfl, ?_⟩
  split
  · rename_i htrue
    exact hdeleted.mp htrue
  · exact h

theorem covers_dnsWaitTickCount (h : v.Covers d) {deadlineTicks now : UInt32}
    (htimely : d.phase = .deleted ∨ now < deadlineTicks) :
    ∃ w, dnsViewDevice (.dnsWaitTickCount deadlineTicks) v now w ∧ w.Covers d := by
  refine ⟨_, rfl, ?_⟩
  split
  · exact h
  · rename_i hlate
    exact htimely.resolve_right hlate

end Views

/-- What the orchestrator knows of the services. -/
def ServicesOf (s : System) (x : ServicesView) : Prop :=
  ∃ v : DnsView, v.Covers s.services.dns ∧ x = { s.services with dns := v }

/-- The wait reads the clock before its deadline, or after the end of the task. -/
def InTime : (c : Call) → DnsTask → c.Answer → Prop
  | .dnsWaitTickCount deadlineTicks, d, now => d.phase = .deleted ∨ now < deadlineTicks
  | _, _, _ => True

theorem viewDevice_of_service {c : Call} {s t : Services DnsTask} {r : c.Answer} {v : DnsView}
    (hv : v.Covers s.dns) (htime : InTime c s.dns r) (hcall : serviceDevice dnsTaskDevice c s r t) :
    ∃ w : DnsView, viewDevice c { s with dns := v } r { t with dns := w } ∧ w.Covers t.dns := by
  cases c with
  | clearDnsStop =>
      obtain ⟨_, rfl, rfl⟩ := hcall
      obtain ⟨w, hw, hcovers⟩ := covers_clearDnsStop hv
      exact ⟨w, ⟨w, hw, rfl⟩, hcovers⟩
  | createDnsTask ipAddr =>
      obtain ⟨_, hdns, rfl⟩ := hcall
      obtain ⟨w, hw, hcovers⟩ := covers_createDnsTask hv hdns
      exact ⟨w, ⟨w, hw, rfl⟩, hcovers⟩
  | requestDnsStop =>
      obtain ⟨_, rfl, rfl⟩ := hcall
      obtain ⟨w, hw, hcovers⟩ := covers_requestDnsStop v s.dns
      exact ⟨w, ⟨w, hw, rfl⟩, hcovers⟩
  | isDnsTaskDeleted =>
      obtain ⟨_, hdns, rfl⟩ := hcall
      obtain ⟨w, hw, hcovers⟩ := covers_isDnsTaskDeleted hv hdns
      exact ⟨w, ⟨w, hw, rfl⟩, hcovers⟩
  | dnsWaitTickCount deadlineTicks =>
      obtain ⟨_, rfl, rfl⟩ := hcall
      obtain ⟨w, hw, hcovers⟩ := covers_dnsWaitTickCount hv htime
      exact ⟨w, ⟨w, hw, rfl⟩, hcovers⟩
  | wifiGetMode =>
      obtain ⟨rfl, rfl⟩ := hcall
      exact ⟨v, ⟨rfl, rfl⟩, hv⟩
  | wifiSetMode mode =>
      obtain ⟨left, hleft, rfl⟩ := wifiMode_of_set hcall
      refine ⟨v, ?_, hv⟩
      show if r = .ok then _ else _
      split
      · rename_i hok
        rw [hleft hok]
      · exact ⟨left, rfl⟩
  | wifiStart =>
      obtain rfl := hcall
      refine ⟨v, ?_, ?_⟩
      · show _ = if r = .ok then _ else _
        split <;> rfl
      · split <;> exact hv
  | httpdStart maxUriHandlers =>
      have h : if r = .ok then s.httpd = none ∧ t = { s with httpd := some ⟨[], none⟩ } else t = s :=
        hcall
      refine ⟨v, ?_, ?_⟩
      · show if r = .ok then _ else _
        split at h
        · obtain ⟨hnone, rfl⟩ := h
          rw [if_pos ‹_›]
          exact ⟨hnone, rfl⟩
        · rw [if_neg ‹_›, h]
      · split at h
        · rw [h.2]
          exact hv
        · rw [h]
          exact hv
  | httpdRegisterUriHandler | httpdRegisterErrHandler =>
      obtain rfl := hcall
      refine ⟨v, ?_, ?_⟩
      · show _ = if r = .ok then _ else _
        split <;> rfl
      · split <;> exact hv
  | mdnsInit =>
      have h : if r = .ok then t = { s with mdns := true } else ∃ left, t = { s with mdns := left } :=
        hcall
      refine ⟨v, ?_, ?_⟩
      · show if r = .ok then _ else _
        split at h
        · rw [if_pos ‹_›, h]
        · obtain ⟨left, rfl⟩ := h
          rw [if_neg ‹_›]
          exact ⟨left, rfl⟩
      · split at h
        · rw [h]
          exact hv
        · obtain ⟨left, rfl⟩ := h
          exact hv
  | _ =>
      obtain rfl := hcall
      exact ⟨v, rfl, hv⟩

/-- The tasks that start no service leave what the orchestrator knows as it is: the DNS task ends
only when it was asked to stop. -/
theorem simulates_services :
    Simulates timelyDevice (OtherStepIn DnsOpens) ServicesOf viewDevice (fun _ _ => True) := by
  refine ⟨?_, ?_⟩
  · rintro c s r t x ⟨v, hv, rfl⟩ - ⟨⟨u, hshared, hservice, -⟩, htimely⟩
    have htime : InTime c s.services.dns r := by
      cases c with
      | dnsWaitTickCount deadlineTicks =>
          obtain ⟨rfl, -⟩ := hshared
          exact htimely deadlineTicks rfl
      | _ => trivial
    obtain ⟨w, hcall, hw⟩ := viewDevice_of_service hv htime hservice
    exact ⟨_, hcall, w, hw, rfl⟩
  · rintro s t x ⟨v, hv, rfl⟩ ⟨event, hopens, hstep⟩
    have hpost : ∀ message, (s.post message).services = s.services := by
      intro message
      unfold System.post
      dsimp only
      split <;> rfl
    cases hstep with
    | post | postSubmission =>
        refine ⟨v, ?_, ?_⟩
        · show v.Covers (s.post _).services.dns
          rw [hpost]
          exact hv
        · show _ = { (s.post _).services with dns := v }
          rw [hpost]
    | dnsOpens hopening =>
        refine ⟨v, covers_setPhase hv ?_ (.inl ?_), rfl⟩ <;> simp [hopening]
    | dnsOpenFails => exact absurd rfl hopens
    | dnsStops hserving hrequested =>
        exact ⟨v, covers_setPhase hv (by simp [hserving]) (.inr hrequested), rfl⟩
    | tick | submit | checkIdle | writeConnecting | respond => exact ⟨v, hv, rfl⟩

/-- Between two messages or timeouts, whatever starts have failed: with the portal up, the access
point, the DNS server and the portal's HTTP server run, and nothing else; while its start is
retried, nothing runs; otherwise at most the station's HTTP server and mDNS run, as the flags say. -/
theorem services_follow_state {o : Orchestrator} {waitTicks : UInt32} {s : System}
    (hrun : RunsOn timelyDevice DnsOpens (.ret (o, waitTicks), s)) :
    (o.state = .portalIdle ∨ o.state = .portalTrial ∨ o.state = .portalSuccess →
      s.services.HasAccessPoint ∧ s.services.dns.IsUp ∧
        s.services.httpd = HttpProfile.provisioning.server ∧ s.services.mdns = false) ∧
    (o.state = .portalRetry → s.services.httpd = none ∧ s.services.dns.phase = .deleted ∧
      s.services.mdns = false) ∧
    (o.state.isPortalState = false → s.services.dns.phase = .deleted ∧
      s.services.httpd = (if o.isHttpUp then HttpProfile.station.server else none) ∧
      s.services.mdns = o.isMdnsUp) := by
  obtain ⟨o₀, s₀, hinitial, hstarted, hsteps⟩ := hrun
  have h₀ : Follows o₀ { s₀.services with dns := .down } := by
    refine ⟨⟨?_, ?_, ?_, ?_, ?_⟩, ?_, ?_, ?_⟩
    · rw [hstarted.hasServer]
      exact (congrArg Option.isSome hinitial.httpd).symm
    · rw [hstarted.profile]
      exact hinitial.httpd
    · rw [hstarted.hasDnsTask]
      rfl
    · rw [hstarted.isMdnsRunning]
      exact hinitial.mdns
    · rw [hstarted.isWifiStarted]
      exact (nomatch ·)
    · rw [hstarted.isHttpUp, hstarted.profile]
      exact ⟨(nomatch ·), (nomatch ·)⟩
    · rw [hstarted.isMdnsUp, hstarted.isMdnsRunning]
    · rw [hstarted.state, hstarted.hasDnsTask, hstarted.profile]
      exact ⟨rfl, (nomatch ·)⟩
  have hnext : ∀ {a s x p t}, ServicesOf s x → Follows a.1 x → Receive a s p t →
      ∃ x', ServicesOf t x' ∧ Does p (fun a v => Follows a.1 v) x' := by
    intro a s x p t hof h hreceive
    cases hreceive with
    | message hqueue =>
        exact ⟨x, hof, does_bind (does_handleMessage _ h fun _ _ => does_waitForMessage)⟩
    | timeout hqueue =>
        exact ⟨x, hof, does_bind (does_checkDeadlines h fun _ _ => does_waitForMessage)⟩
  have hstart : Does (startOrchestratorTask o₀ >>= waitForMessage) (fun a v => Follows a.1 v)
      { s₀.services with dns := .down } := by
    refine does_bind (does_setStationState h₀ ?_ rfl _ fun _ _ => does_waitForMessage)
    rw [hstarted.state]
    rfl
  obtain ⟨x, ⟨v, hv, rfl⟩, hfollows⟩ :=
    simulates_services.wp_of_run hnext hsteps ⟨_, ⟨.down, hinitial.dnsTask, rfl⟩, hstart⟩
  replace hfollows : Follows o { s.services with dns := v } := hfollows
  have hdns : v = dnsView o.hasDnsTask := hfollows.dns
  have hdown : o.hasDnsTask = false → s.services.dns.phase = .deleted := by
    intro hnone
    rw [hdns, hnone] at hv
    exact hv
  have hstate := hfollows.state
  refine ⟨?_, ?_, ?_⟩
  · intro hportal
    have hall : s.services.HasAccessPoint ∧ o.hasDnsTask = true ∧ o.profile = .provisioning ∧
        o.isMdnsRunning = false := by
      rcases hportal with heq | heq | heq <;>
      · rw [heq] at hstate
        exact hstate
    obtain ⟨hpoint, hsome, hprofile, hmdns⟩ := hall
    rw [hdns, hsome] at hv
    refine ⟨hpoint, hv, ?_, hfollows.mdns.trans hmdns⟩
    rw [← hprofile]
    exact hfollows.httpd
  · intro heq
    rw [heq] at hstate
    obtain ⟨hnone, hprofile, hmdns⟩ := hstate
    refine ⟨?_, hdown hnone, hfollows.mdns.trans hmdns⟩
    have hhttpd : s.services.httpd = o.profile.server := hfollows.httpd
    rw [hhttpd, hprofile]
    rfl
  · intro hportal
    have hside := hfollows.stationSide hportal
    refine ⟨hdown hside.noDnsTask, ?_, hside.mdns.trans hside.mdnsUp.symm⟩
    have hhttpd : s.services.httpd = o.profile.server := hside.httpd
    rw [hhttpd]
    split
    · rename_i hup
      rw [hside.httpUp.mp hup]
    · rename_i hdown
      have hnot : o.profile ≠ .station := fun heq => hdown (hside.httpUp.mpr heq)
      have hnone := hside.noPortal
      revert hnot hnone
      cases o.profile with
      | none => exact fun _ _ => rfl
      | provisioning => exact fun _ hno => absurd rfl hno
      | station => exact fun hno => absurd rfl hno

theorem services_follow_state_left :
    (portalSystem.services.HasAccessPoint ∧ portalSystem.services.dns.IsUp ∧
      portalSystem.services.httpd = HttpProfile.provisioning.server ∧
      portalSystem.services.mdns = false) ∧
    ∃ history, (leftSystem 3000 .deleted history).services.dns.phase = .deleted ∧
      (leftSystem 3000 .deleted history).services.httpd = none ∧
      (leftSystem 3000 .deleted history).services.mdns = false := by
  have hcalm : ∀ s event, Calm s event → DnsOpens s event := by
    rintro s event hcalm rfl
    exact hcalm
  obtain ⟨waitTicks, history, hleft⟩ := run_left
  exact ⟨(services_follow_state (portalSystem_runs.mono (fun _ _ _ _ => id) hcalm)).1 (.inl rfl),
    history, (services_follow_state (hleft.mono (fun _ _ _ _ => id) hcalm)).2.2 rfl⟩

/-- The DNS task may outlive `StopDnsServer()`, and it may have ended with the portal up. -/
theorem dns_task_out_of_step :
    (∃ (o : Orchestrator) (waitTicks : UInt32) (s : System),
      Runs (fun _ _ => True) (.ret (o, waitTicks), s) ∧ o.state = .connected ∧
        s.services.dns.phase = .serving) ∧
    ∃ (o : Orchestrator) (waitTicks : UInt32) (s : System),
      Runs (fun _ _ => True) (.ret (o, waitTicks), s) ∧ o.state = .portalIdle ∧
        s.services.dns.phase = .deleted := by
  obtain ⟨waitTicks, history, hleft⟩ := run_left_serving
  have hfails := openingSystem_runs.anyRuns.trans
    (.single (.other ⟨.dnsOpenFails, trivial, .dnsOpenFails rfl⟩))
  exact ⟨⟨_, waitTicks, _, hleft, rfl, rfl⟩, _, 2895, _, hfails, rfl, rfl⟩

end StripTuner.Provisioning
