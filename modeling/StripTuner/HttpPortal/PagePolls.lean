import StripTuner.HttpPortal.PageSession

/-!
# Polls of a page

The timer and the replies of one generation form a single chain, so a page polls at most eight times
for a click, and only for the number that the click was given.
-/

namespace StripTuner.HttpPortal

open DeviceCalls PulseMonitor Relation Ws2812

/-- The polls of a generation. -/
def pollsOf (polls : List (Nat × String)) (k : Nat) : List (Nat × String) :=
  polls.filter (·.1 = k)

/-- How far the polls of its generation are when a job waits. -/
def Job.Counts (past : List (Nat × String)) : Job → Prop
  | .awaiting _ (.send _ _ _) | .awaiting _ .read => past = []
  | .timer k n i _ => 1 ≤ i ∧ i ≤ 8 ∧ past = List.replicate (i - 1) (k, n)
  | .awaiting k (.result n i _) => i ≤ 8 ∧ past = List.replicate i (k, n)

/-- The number was given to some request. -/
def Issued (answered : List (Exchange × TunerReply)) (n : String) : Prop :=
  ∃ p ∈ answered, p.2.tunerSeq = some n

/-- Each generation has at most one job, whose polls are counted. -/
structure Polling (s : Session) : Prop where
  single : (s.jobs.map (·.1.generation)).Nodup
  future : ∀ k, s.script.g < k → pollsOf s.polls k = []
  counts : ∀ p ∈ s.jobs, p.1.Counts (pollsOf s.polls p.1.generation)
  bounded : ∀ k, ∃ n i, i ≤ 8 ∧ pollsOf s.polls k = List.replicate i (k, n)
  issued : ∀ p ∈ s.polls, Issued s.answered p.2

section Polling

variable {s : Session} {before after : List (Job × Nat)} {job : Job} {since : Nat}

theorem Issued.grow {answered later : List (Exchange × TunerReply)} (h : answered <+: later)
    {n : String} (hn : Issued answered n) : Issued later n := by
  obtain ⟨p, hp, hseq⟩ := hn
  exact ⟨p, h.subset hp, hseq⟩

theorem NumberedFor.issued {answered : List (Exchange × TunerReply)} {click : Click} {n : UInt32}
    (h : NumberedFor answered click n) : Issued answered n.toNat.repr := by
  obtain ⟨place, e, reply, -, hat, hseq, -⟩ := h
  exact ⟨(e, reply), List.mem_of_getElem? hat, hseq⟩

/-- A click begins a generation without polls. -/
theorem Polling.clicked (h : Polling s) (hpast : ∀ p ∈ s.jobs, p.1.generation ≤ s.script.g)
    {r : Script × Option Job} {click : Option Click} (hg : r.1.g = s.script.g + 1)
    (hjob : ∀ job, r.2 = some job → job.generation = s.script.g + 1 ∧ job.Counts []) :
    Polling { s with script := r.1, jobs := s.jobs ++ s.start r.2, click := click } where
  single := by
    have hnew : ((s.start r.2).map (·.1.generation)).Nodup := by
      cases hr : r.2 <;> simp [Session.start]
    show ((s.jobs ++ s.start r.2).map (·.1.generation)).Nodup
    rw [List.map_append, List.nodup_append]
    refine ⟨h.single, hnew, ?_⟩
    rintro k hk k' hk' rfl
    obtain ⟨p, hp, rfl⟩ := List.mem_map.mp hk
    obtain ⟨q, hq, heq⟩ := List.mem_map.mp hk'
    have hle := hpast p hp
    have hgeneration := (hjob q.1 (mem_start.mp hq).1).1
    omega
  future k hk := h.future k (by rw [hg] at hk; omega)
  counts p hp := by
    rcases List.mem_append.mp hp with hold | hnew
    · exact h.counts p hold
    · obtain ⟨hgeneration, hcounts⟩ := hjob p.1 (mem_start.mp hnew).1
      rw [hgeneration]
      have hnone := h.future (s.script.g + 1) (Nat.lt_succ_self _)
      show p.1.Counts (pollsOf s.polls (s.script.g + 1))
      rw [hnone]
      exact hcounts
  bounded := h.bounded
  issued := h.issued

/-- An event of a job leaves the other generations alone. -/
theorem Polling.reacts (h : Polling s) (hjobs : s.jobs = before ++ (job, since) :: after)
    {r : Script × Option Job} {polls : List (Nat × String)} (hg : r.1.g = s.script.g)
    (hjob : ∀ next, r.2 = some next → next.generation = job.generation ∧
      next.Counts (pollsOf polls job.generation))
    (hother : ∀ k, k ≠ job.generation → pollsOf polls k = pollsOf s.polls k)
    (hpast : job.generation ≤ s.script.g)
    (hbounded : ∃ n i, i ≤ 8 ∧ pollsOf polls job.generation =
      List.replicate i (job.generation, n))
    (hissued : ∀ p ∈ polls, Issued s.answered p.2) :
    Polling { s with script := r.1, jobs := before ++ after ++ s.start r.2, polls := polls } := by
  have hsplit := h.single
  rw [hjobs, List.map_append, List.map_cons, List.nodup_append, List.nodup_cons] at hsplit
  obtain ⟨hbefore, ⟨hfresh, hafter⟩, hdisjoint⟩ := hsplit
  have hleft : ∀ p ∈ before ++ after, p.1.generation ≠ job.generation := by
    intro p hp heq
    rcases List.mem_append.mp hp with hp | hp
    · exact hdisjoint _ (List.mem_map_of_mem hp) _ List.mem_cons_self heq
    · exact hfresh (heq ▸ List.mem_map_of_mem hp)
  refine ⟨?_, ?_, ?_, ?_, hissued⟩
  · have hnew : ((s.start r.2).map (·.1.generation)).Nodup := by
      cases hr : r.2 <;> simp [Session.start]
    have hold : ((before ++ after).map (·.1.generation)).Nodup := by
      rw [List.map_append, List.nodup_append]
      refine ⟨hbefore, hafter, fun k hk k' hk' => ?_⟩
      exact hdisjoint k hk k' (List.mem_cons_of_mem _ hk')
    show ((before ++ after ++ s.start r.2).map (·.1.generation)).Nodup
    rw [List.map_append, List.nodup_append]
    refine ⟨hold, hnew, ?_⟩
    rintro k hk k' hk' rfl
    obtain ⟨p, hp, rfl⟩ := List.mem_map.mp hk
    obtain ⟨q, hq, heq⟩ := List.mem_map.mp hk'
    exact hleft p hp (heq.symm.trans (hjob q.1 (mem_start.mp hq).1).1)
  · intro k hk
    have hlt : s.script.g < k := hg ▸ hk
    show pollsOf polls k = []
    rw [hother k (by omega)]
    exact h.future k hlt
  · intro p hp
    show p.1.Counts (pollsOf polls p.1.generation)
    rcases List.mem_append.mp hp with hold | hnew
    · rw [hother _ (hleft p hold)]
      apply h.counts
      rw [hjobs]
      rcases List.mem_append.mp hold with hp | hp
      · exact List.mem_append_left _ hp
      · exact List.mem_append_right _ (List.mem_cons_of_mem _ hp)
    · obtain ⟨hgeneration, hcounts⟩ := hjob p.1 (mem_start.mp hnew).1
      rw [hgeneration]
      exact hcounts
  · intro k
    by_cases hk : k = job.generation
    · rw [hk]
      exact hbounded
    · show ∃ n i, i ≤ 8 ∧ pollsOf polls k = List.replicate i (k, n)
      rw [hother k hk]
      exact h.bounded k

/-- The timer of the current generation makes the next poll, and any other none. -/
theorem Polling.timer {k i : Nat} {n : String} {set : SetTimes} (h : Polling s) (hs : Sound s)
    (hjobs : s.jobs = before ++ (.timer k n i set, since) :: after) :
    Polling
      { s with
        jobs := before ++ after ++ s.start (s.script.onTimer k n i set)
        polls := s.polls ++ (s.script.onTimer k n i set).toList.filterMap Session.pollOf } := by
  have hmem : (Job.timer k n i set, since) ∈ s.jobs := by simp [hjobs]
  have hpast : k ≤ s.script.g := hs.past _ hmem
  obtain ⟨hpos, hle, hcount⟩ := h.counts _ hmem
  by_cases hk : k = s.script.g
  · have htimer : s.script.onTimer k n i set = some (.awaiting k (.result n i set)) :=
      if_neg (not_not.mpr hk)
    rw [htimer]
    have hnext : pollsOf (s.polls ++ [(k, n)]) k = List.replicate i (k, n) := by
      unfold pollsOf at hcount ⊢
      rw [List.filter_append, show s.polls.filter (·.1 = k) = _ from hcount]
      have hlast : [(k, n)].filter (·.1 = k) = [(k, n)] := by simp
      rw [hlast, ← List.replicate_succ', Nat.sub_add_cancel hpos]
    obtain ⟨click, seq, -, hnumber, rfl, -⟩ := hs.current _ hmem hk
    refine h.reacts (r := (s.script, some (.awaiting k (.result _ i set)))) hjobs rfl ?_ ?_ hpast
      ⟨_, i, hle, hnext⟩ ?_
    · intro next hsome
      obtain rfl := Option.some.inj hsome
      exact ⟨rfl, hle, hnext⟩
    · intro k' hne
      have hnone : [(k, seq.toNat.repr)].filter (·.1 = k') = [] := by
        simp [show k ≠ k' from fun heq => hne heq.symm]
      show (s.polls ++ [(k, seq.toNat.repr)]).filter (·.1 = k') = _
      rw [List.filter_append, hnone, List.append_nil]
      rfl
    · intro p hp
      rcases List.mem_append.mp hp with hold | hnew
      · exact h.issued p hold
      · obtain rfl := List.mem_singleton.mp hnew
        exact hnumber.issued
  · have htimer : s.script.onTimer k n i set = none := if_pos hk
    rw [htimer]
    have hsame : s.polls ++ ([] : List (Nat × String)) = s.polls := List.append_nil _
    show Polling { s with jobs := before ++ after ++ s.start none, polls := s.polls ++ [] }
    rw [hsame]
    exact h.reacts (r := (s.script, none)) hjobs rfl (fun next hsome => by cases hsome)
      (fun _ _ => rfl) hpast (h.bounded k) h.issued

/-- A reply leads to a poll only as the first after the number, or as the next after `pending`. -/
theorem Polling.reply {k : Nat} {fetch : Fetch} {reply : TunerReply} (h : Polling s) (hs : Sound s)
    (hjobs : s.jobs = before ++ (.awaiting k fetch, since) :: after) :
    Polling
      { s with
        script := (s.script.onReply k reply fetch).1
        jobs := before ++ after ++ s.start (s.script.onReply k reply fetch).2 } := by
  have hmem : (Job.awaiting k fetch, since) ∈ s.jobs := by simp [hjobs]
  have hreacts := reacts_reply s.script k reply fetch
  have hcounts := h.counts _ hmem
  refine h.reacts hjobs hreacts.g ?_ (fun _ _ => rfl) (hs.past _ hmem) (h.bounded k) h.issued
  intro next hnext
  refine ⟨hreacts.job next hnext, ?_⟩
  cases fetch with
  | send body h0 h1 | read =>
      simp only [Script.onReply] at hnext
      split at hnext
      · cases hnext
      · split at hnext
        · obtain rfl := Option.some.inj hnext
          exact ⟨Nat.le_refl 1, by omega, hcounts⟩
        · cases hnext
  | result n i set =>
      obtain ⟨-, hcount⟩ := hcounts
      simp only [Script.onReply] at hnext
      generalize (if Script.isOk reply = true then ascii reply.body else []) = t at hnext
      split at hnext
      · rename_i hwait
        obtain rfl := Option.some.inj hnext
        exact ⟨by omega, by omega, hcount⟩
      · cases hnext

theorem Polling.step {t : Session} (h : Polling s) (hs : Sound s) (hstep : SessionStep s t) :
    Polling t := by
  cases hstep with
  | server hloop =>
      have hgrows := (portal_step hloop).1
      exact ⟨h.single, h.future, h.counts, h.bounded, fun p hp => (h.issued p hp).grow hgrows⟩
  | input | reset =>
      exact ⟨h.single, fun k hk => h.future k (Nat.lt_of_succ_lt hk), h.counts, h.bounded, h.issued⟩
  | send =>
      refine h.clicked hs.past ?_ ?_
      · unfold Script.onSendClick
        split <;> rfl
      · intro job hjob
        unfold Script.onSendClick at hjob
        split at hjob
        · cases hjob
        · obtain rfl := Option.some.inj hjob
          exact ⟨rfl, rfl⟩
  | read =>
      refine h.clicked hs.past rfl ?_
      intro job hjob
      obtain rfl := Option.some.inj hjob
      exact ⟨rfl, rfl⟩
  | timer before after hjobs => exact h.timer hs hjobs
  | reply before after place hjobs => exact h.reply hs hjobs
  | @failure before after k since fetch hjobs =>
      have hmem : (Job.awaiting k fetch, since) ∈ s.jobs := by simp [hjobs]
      have hreacts := h.reacts (r := (s.script.onFailure k fetch, none)) hjobs
        (reacts_failure s.script k fetch).g (fun next hsome => by cases hsome) (fun _ _ => rfl)
        (hs.past _ hmem) (h.bounded k) h.issued
      simpa [Session.start] using hreacts

end Polling

/-- In every session the page polls at most eight times for a click, each time for the same number,
and only for a number that the portal has given out. -/
theorem tunerPage_polls {s : Session} (hrun : SessionRun s) :
    (∀ k, ∃ n i, i ≤ 8 ∧ pollsOf s.polls k = List.replicate i (k, n)) ∧
      ∀ p ∈ s.polls, Issued s.answered p.2 := by
  have hboth : Sound s ∧ Polling s := by
    obtain ⟨c, hportal, hsteps⟩ := hrun
    have hload : SessionRun (.load c) := ⟨c, hportal, .refl⟩
    induction hsteps with
    | refl =>
        refine ⟨hload.sound, List.nodup_nil, fun k _ => rfl, ?_,
          fun k => ⟨"", 0, by omega, rfl⟩, ?_⟩
        · exact fun p hp => absurd hp List.not_mem_nil
        · exact fun p hp => absurd hp List.not_mem_nil
    | tail _ hstep ih => exact ⟨ih.1.step hstep, ih.2.step ih.1 hstep⟩
  exact ⟨hboth.2.bounded, hboth.2.issued⟩

theorem tunerPage_polls_reading : ∃ s : Session, s.polls = [(1, "1")] ∧
    ∀ p ∈ s.polls, Issued s.answered p.2 := by
  obtain ⟨s, hrun, hpolls, -⟩ := exists_reading
  exact ⟨s, hpolls, (tunerPage_polls hrun).2⟩

end StripTuner.HttpPortal
