/-
  What callers do to the events of a schedule.

  A caller of `add` or `remove` ends the event of the name it uses, unless it
  repeats that event.  Nothing else it does reaches an event, and an event that
  was ended is not executed any more.
-/
import IotController.Conditioner.ScheduleRuns

namespace IotController.Conditioner

open Foundation Api Proto Compute

namespace Schedule

def Label.IsCall : Label → Prop
  | .add _ _ _ _ => True
  | .remove _ => True
  | _ => False

variable {e : Label} {ops : List Label} {j : Job} {s : Schedule} {g : Nat} {name : String}

theorem step_now_of_isCall (he : e.IsCall) (s : Schedule) : (s.step e).now = s.now := by
  cases e with
  | add ctx name t req =>
    show (s.add ctx name t req).2.now = s.now
    rcases add_cases ctx name t req s with hsame | ⟨r, -, -, -, hnew⟩
    · rw [hsame]
    · rw [hnew]
      exact remove_now _ _ s
  | remove => exact remove_now _ _ s
  | _ => exact he.elim

theorem run_now_of_isCall (hops : ∀ e ∈ ops, e.IsCall) (s : Schedule) :
    (run step s ops).now = s.now :=
  @run_invariant_of_mem _ _ step (fun t => t.now = s.now) ops
    (fun t e he ht => (step_now_of_isCall (hops e he) t).trans ht) s rfl

/-! ## What calls do to one event -/

def Label.Ends (j : Job) : Label → Prop
  | .remove name => name = j.name
  | .add ctx name t req =>
    name = j.name ∧ ctx.err = none ∧ ∃ r ∈ req, ¬ (matched j.req r = true ∧ t = j.t)
  | _ => False

theorem Label.ends_congr {j' : Job} (h : Continues j j') (e : Label) : e.Ends j' ↔ e.Ends j := by
  obtain ⟨hname, ht, hreq, -⟩ := h
  cases e <;> simp only [Label.Ends, hname, ht, hreq]

section Calls

variable (hs : s.Consistent)

include hs

theorem Consistent.repeats_iff (hj : s.jobs[g]? = some j) (hlive : j.cause = none) (t : Time)
    (r : Request) :
    s.Repeats j.name t r ↔ matched j.req r = true ∧ t = j.t := by
  obtain ⟨v, hv, rfl⟩ := hs.owner hj hlive
  obtain ⟨j', hj', -, ht, hreq, -⟩ := hs.entry hv
  obtain rfl := Option.some.inj (hj.symm.trans hj')
  rw [ht, hreq]
  constructor
  · rintro ⟨v', hv', hrepeats⟩
    obtain rfl := Option.some.inj (hv.symm.trans hv')
    exact hrepeats
  · exact fun hrepeats => ⟨v, hv, hrepeats⟩

theorem call_live_iff {j' : Job} (hj : s.jobs[g]? = some j) (hlive : j.cause = none)
    (he : e.IsCall) (hj' : (s.step e).jobs[g]? = some j') :
    j'.cause = none ↔ ¬ e.Ends j := by
  have hremove : ∀ name, (dropJob (.caller s.now) name j).cause = none ↔ name ≠ j.name := by
    intro name
    constructor
    · exact fun h => fun heq => (of_dropJob_cause h).1 heq.symm
    · exact fun h => by rw [dropJob_of_ne h.symm, hlive]
  cases e with
  | remove name =>
    have hdrop : (s.remove (.caller s.now) name).jobs[g]? = some j' := hj'
    rw [hs.remove_jobs, hj] at hdrop
    obtain rfl := Option.some.inj hdrop
    exact hremove name
  | add ctx name t req =>
    have hstep : s.step (.add ctx name t req) = (s.add ctx name t req).2 := rfl
    rcases add_cases ctx name t req s with hsame | ⟨r, herr, rfl, hrepeats, hnew⟩
    · rw [hstep, hsame, hj] at hj'
      obtain rfl := Option.some.inj hj'
      refine iff_of_true hlive ?_
      rintro ⟨rfl, herr, r, hr, hdiffers⟩
      obtain rfl : req = some r := hr
      -- a call that starts a new event changes the list of jobs
      have hlength := congrArg (fun s : Schedule => s.jobs.length) hsame
      have hadd : (s.add ctx j.name t (some r)).2 =
          (s.remove (.caller s.now) j.name).start ctx.origin j.name t r := by
        simp only [add, herr]
        rw [if_neg (fun h => hdiffers ((hs.repeats_iff hj hlive t r).mp h))]
      simp only [hadd, start, List.length_append, remove_length, List.length_singleton] at hlength
      omega
    · have hdrop : (s.remove (.caller s.now) name).jobs[g]? =
          some (dropJob (.caller s.now) name j) := by
        rw [hs.remove_jobs, hj, Option.map_some]
      rw [hstep, hnew, start_jobs_of_some hdrop] at hj'
      obtain rfl := Option.some.inj hj'
      rw [hremove]
      refine not_congr ⟨?_, fun hends => hends.1⟩
      rintro rfl
      exact ⟨rfl, herr, r, rfl, fun h => hrepeats ((hs.repeats_iff hj hlive t r).mpr h)⟩
  | _ => exact he.elim

theorem Consistent.run (events : List Label) :
    (Foundation.run Schedule.step s events).Consistent :=
  run_invariant (fun _ e h => h.step e) hs events

theorem Consistent.run_continues (events : List Label) (hj : s.jobs[g]? = some j) :
    ∃ j', (Foundation.run Schedule.step s events).jobs[g]? = some j' ∧ Continues j j' := by
  induction events generalizing s j with
  | nil => exact ⟨j, hj, .refl j⟩
  | cons e _ ih =>
    obtain ⟨j', hj', hcont⟩ := hs.step_continues e hj
    obtain ⟨j'', hj'', hcont'⟩ := ih (hs.step e) hj'
    exact ⟨j'', hj'', hcont.trans hcont'⟩

theorem run_calls_live_iff {j' : Job} (hj : s.jobs[g]? = some j) (hlive : j.cause = none)
    (hops : ∀ e ∈ ops, e.IsCall)
    (hj' : (Foundation.run Schedule.step s ops).jobs[g]? = some j') :
    j'.cause = none ↔ ∀ e ∈ ops, ¬ e.Ends j := by
  induction ops generalizing s j with
  | nil =>
    obtain rfl := Option.some.inj (hj.symm.trans hj')
    exact iff_of_true hlive (fun e he => by cases he)
  | cons e rest ih =>
    obtain ⟨j₁, hj₁, hcont⟩ := hs.step_continues e hj
    have hstep := call_live_iff hs hj hlive (hops e List.mem_cons_self) hj₁
    rw [List.forall_mem_cons, ← hstep]
    by_cases hlive₁ : j₁.cause = none
    · rw [ih (hs.step e) hj₁ hlive₁ (fun e he => hops e (List.mem_cons_of_mem _ he)) hj']
      simp only [Label.ends_congr hcont, hlive₁, true_and]
    · -- what a call has cancelled stays cancelled
      obtain ⟨j₂, hj₂, hcont₂⟩ := (hs.step e).run_continues rest hj₁
      obtain rfl := Option.some.inj (hj₂.symm.trans hj')
      refine iff_of_false (fun h => hlive₁ ?_) (fun h => hlive₁ h.1)
      exact (hcont₂.2.2.2.2 hlive₁).symm.trans h

def liveExecutions (s : Schedule) (g : Nat) : Nat := (s.executionsOf g).count true

theorem liveExecutions_of_cancelled (hj : s.jobs[g]? = some j) (hcancelled : j.cause ≠ none)
    (events : List Label) :
    (Foundation.run Schedule.step s events).liveExecutions g = s.liveExecutions g := by
  induction events generalizing s j with
  | nil => rfl
  | cons e _ ih =>
    obtain ⟨j', hj', hcont⟩ := hs.step_continues e hj
    rw [run_cons, ih (hs.step e) hj' (hcont.2.2.2.2 hcancelled ▸ hcancelled)]
    rcases step_executions s e with hsame | ⟨i, -, -, hexec⟩
    · simp only [liveExecutions, executionsOf, hsame]
    · rw [hexec, liveExecutions, liveExecutions, executionsOf_exec]
      have hdead : s.live g = false := by
        simpa [live, hj] using Option.isSome_iff_ne_none.mpr hcancelled
      split
      · rw [hdead, List.count_cons_of_ne (by decide)]
      · rfl

theorem of_run_new {events : List Label} (hnone : s.jobs[g]? = none)
    (hj : (Foundation.run Schedule.step s events).jobs[g]? = some j) :
    ∃ ctx name t, .add ctx name t (some j.req) ∈ events ∧ j.origin = ctx.origin := by
  induction events generalizing s with
  | nil => rw [run_nil, hnone] at hj; cases hj
  | cons e rest ih =>
    cases hj₁ : (s.step e).jobs[g]? with
    | none =>
      obtain ⟨ctx, name, t, hmem, horigin⟩ := ih (hs.step e) hj₁ hj
      exact ⟨ctx, name, t, List.mem_cons_of_mem _ hmem, horigin⟩
    | some =>
      obtain ⟨ctx, t, r, rfl, -, -, -, hnew, -⟩ := of_step_new hs hnone hj₁
      obtain ⟨j₂, hj₂, hcont⟩ := (hs.step _).run_continues rest hj₁
      obtain rfl := Option.some.inj (hj₂.symm.trans hj)
      have hreq : j₂.req = r := hcont.2.2.1.trans (congrArg Job.req hnew)
      rw [hreq]
      exact ⟨ctx, _, t, List.mem_cons_self, hcont.2.2.2.1.trans (congrArg Job.origin hnew)⟩

end Calls

/-! ## An event nobody touches -/

/-- A live job waits or its item is on its way; only handed-over jobs were executed. -/
structure Phased (s : Schedule) : Prop where
  live : ∀ {g : Nat} {j : Job}, s.jobs[g]? = some j → j.cause = none →
    j.phase = .waiting ∨ j.phase = .sending ∨ s.runner.job = some g
  unexecuted : ∀ {g : Nat} {j : Job}, s.jobs[g]? = some j → j.phase ≠ .handed →
    s.executionsOf g = []

theorem Phased.new (now : Time) : (Schedule.new now).Phased where
  live h := by simp [Schedule.new] at h
  unexecuted h := by simp [Schedule.new] at h

section Phased

variable (h : s.Phased)

include h

theorem Phased.goto (hj : s.jobs[g]? = some j) (hwaiting : j.phase = .waiting)
    {phase : Phase} (hphase : j.cause = none → phase = .sending) : (s.goto g phase).Phased where
  live {g' j'} hj' hlive := by
    rcases of_goto_jobs hj' with ⟨rfl, j₀, hj₀, rfl⟩ | ⟨-, hold⟩
    · obtain rfl := Option.some.inj (hj.symm.trans hj₀)
      exact Or.inr (Or.inl (hphase hlive))
    · exact h.live hold hlive
  unexecuted {g' j'} hj' hhanded := by
    rcases of_goto_jobs hj' with ⟨rfl, j₀, hj₀, rfl⟩ | ⟨-, hold⟩
    · obtain rfl := Option.some.inj (hj.symm.trans hj₀)
      exact h.unexecuted hj (by simp [hwaiting])
    · exact h.unexecuted hold hhanded

variable (hs : s.Consistent)

include hs

theorem Phased.remove (cause : Cause) (name : String) :
    (s.remove cause name).Phased where
  live {g j'} hj' hlive := by
    rw [hs.remove_jobs] at hj'
    obtain ⟨j, hj, rfl⟩ := Option.map_eq_some_iff.mp hj'
    rw [dropJob_phase, remove_runner]
    exact h.live hj (of_dropJob_cause hlive).2
  unexecuted {g j'} hj' hphase := by
    rw [hs.remove_jobs] at hj'
    obtain ⟨j, hj, rfl⟩ := Option.map_eq_some_iff.mp hj'
    rw [dropJob_phase] at hphase
    simpa only [executionsOf, remove_executions] using h.unexecuted hj hphase

theorem Phased.start (origin : Origin) (name : String) (t : Time) (req : Request) :
    (s.start origin name t req).Phased where
  live {g j} hj hlive := by
    rcases of_start_jobs hj with hold | ⟨-, rfl⟩
    · exact h.live hold hlive
    · exact Or.inl rfl
  unexecuted {g j} hj hphase := by
    rcases of_start_jobs hj with hold | ⟨rfl, -⟩
    · exact h.unexecuted hold hphase
    · exact hs.executionsOf_length

theorem Phased.stop : s.stop.Phased :=
  (stop_invariant (P := fun t => t.Phased ∧ t.Consistent)
    (fun _ name ht => ⟨ht.1.remove ht.2 _ name, ht.2.remove _ name⟩) ⟨h, hs⟩).1

theorem Phased.step (e : Label) : (s.step e).Phased := by
  have heffect := effect_step s e
  generalize s.step e = s' at heffect ⊢
  cases heffect with
  | stutter => exact h
  | add _ name _ _ _ _ => exact (h.remove hs _ name).start (hs.remove _ name) _ _ _ _
  | remove name => exact h.remove hs _ name
  | advance => exact ⟨fun hj => h.live hj, fun hj => h.unexecuted hj⟩
  | fire _ _ hj hphase _ => exact h.goto hj hphase fun _ => rfl
  | wake _ _ hj hphase hcause => exact h.goto hj hphase fun hlive => absurd hlive hcause
  | handOver _ _ hidle _ _ =>
    refine ⟨fun {g' j'} hj' hlive => ?_, fun {g' j'} hj' hphase => ?_⟩
    · rcases of_goto_jobs hj' with ⟨rfl, -⟩ | ⟨-, hold⟩
      · exact Or.inr (Or.inr rfl)
      · have := h.live hold hlive
        simp only [hidle, Runner.job] at this
        tauto
    · rcases of_goto_jobs hj' with ⟨rfl, j₀, hj₀, rfl⟩ | ⟨-, hold⟩
      · exact absurd rfl hphase
      · exact h.unexecuted hold hphase
  | execute i hi =>
    refine ⟨fun {g j} hj hlive => ?_, fun {g j} hj hphase => ?_⟩
    · have := h.live hj hlive
      rwa [hi] at this
    · have hne : i.job ≠ g := fun hg => hphase (phase_of_runner hs hj (Or.inl hi) hg).2
      rw [executionsOf_exec, if_neg hne]
      exact h.unexecuted hj hphase
  | finish i hi =>
    have hremove := h.remove hs (.finished i.job) i.name
    refine ⟨fun {g j'} hj' hlive => ?_, fun hj hphase => hremove.unexecuted hj hphase⟩
    have hold : (s.remove (.finished i.job) i.name).jobs[g]? = some j' := hj'
    rw [hs.remove_jobs] at hold
    obtain ⟨j, hj, rfl⟩ := Option.map_eq_some_iff.mp hold
    obtain ⟨hname, hlive₀⟩ := of_dropJob_cause hlive
    -- the item `run` has finished belongs to no live job
    have hne : s.runner.job ≠ some g := by
      rw [hi]
      exact fun hg => hname (phase_of_runner hs hj (Or.inr hi) (Option.some.inj hg)).1
    rw [dropJob_phase]
    have := h.live hj hlive₀
    tauto
  | stop hidle =>
    have hstop := h.stop hs
    refine ⟨fun {g j} hj hlive => ?_, fun hj hphase => hstop.unexecuted hj hphase⟩
    have := hstop.live hj hlive
    rw [stop_runner, hidle] at this
    exact this

theorem Phased.run (events : List Label) :
    (Foundation.run Schedule.step s events).Phased := by
  induction events generalizing s with
  | nil => exact h
  | cons e _ ih => exact ih (h.step hs e) (hs.step e)

end Phased

/-- The callers leave the events of the name alone, and the other parties respect
it. -/
def Untouched (name : String) (s : Schedule) : Label → Prop
  | .add ctx name' t req => name' = name → ctx.err = none → ∀ r ∈ req, s.Repeats name t r
  | .remove name' => name' ≠ name
  | .fire g => ∀ j ∈ s.jobs[g]?, j.name = name → j.cause = none
  | .stop => False
  | _ => True

theorem Untouched.carefulOn (h : s.Untouched name e) : s.CarefulOn name e := by
  cases e with
  | add => exact fun hname herr r hr hrepeats => absurd (h hname herr r hr) hrepeats
  | remove => exact fun hname => absurd hname h
  | fire | stop => exact h
  | _ => trivial

section Live

variable (hs : s.Consistent) (hj : s.jobs[g]? = some j) (hlive : j.cause = none)

include hs hj hlive

theorem step_cause {j' : Job} (hj' : (s.step e).jobs[g]? = some j') :
    j'.cause = none ∨ e.Ends j ∨ (∃ k, j'.cause = some (.finished k)) ∨ e = .stop := by
  have hsame : s.jobs[g]? = some j' → j'.cause = none :=
    fun h => Option.some.inj (hj.symm.trans h) ▸ hlive
  have hgoto : ∀ {g₀ phase}, (s.goto g₀ phase).jobs[g]? = some j' → j'.cause = none := by
    intro g₀ phase h
    rcases of_goto_jobs h with ⟨-, j₀, hj₀, rfl⟩ | ⟨-, hold⟩
    · exact Option.some.inj (hj.symm.trans hj₀) ▸ hlive
    · exact hsame hold
  have hcall : e.IsCall → j'.cause = none ∨ e.Ends j := fun hcall => by
    by_cases hends : e.Ends j
    · exact Or.inr hends
    · exact Or.inl ((call_live_iff hs hj hlive hcall hj').mpr hends)
  have heffect := effect_step s e
  generalize s.step e = s' at heffect hj'
  cases heffect with
  | stutter | advance | execute => exact Or.inl (hsame hj')
  | add | remove => exact (hcall trivial).imp_right Or.inl
  | fire | wake | handOver => exact Or.inl (hgoto hj')
  | finish i =>
    have hdrop : (s.remove (.finished i.job) i.name).jobs[g]? = some j' := hj'
    rw [hs.remove_jobs, hj] at hdrop
    obtain rfl := Option.some.inj hdrop
    by_cases hname : j.name = i.name
    · rw [← hname]
      exact Or.inr (Or.inr (Or.inl ⟨_, dropJob_cause_of_live hlive _⟩))
    · exact Or.inl (by rw [dropJob_of_ne hname, hlive])
  | stop => exact Or.inr (Or.inr (Or.inr rfl))

theorem Untouched.not_ends (h : s.Untouched j.name e) : ¬ e.Ends j := by
  cases e with
  | add _ _ t =>
    rintro ⟨rfl, herr, r, hr, hdiffers⟩
    exact hdiffers ((hs.repeats_iff hj hlive t r).mp (h rfl herr r hr))
  | remove => exact fun hname => h hname
  | _ => exact id

theorem tracked_of_quiet (hp : s.Phased) (hquiet : s.Quiet j.name) : s.Tracked g j := by
  obtain ⟨hsending, hrunner, -⟩ := hquiet g j hj rfl
  have hwaiting : j.phase = .waiting := by
    rcases hp.live hj hlive with h | h | h
    · exact h
    · exact absurd h hsending
    · exact absurd h hrunner
  refine .pending (Or.inl hwaiting) hlive (hp.unexecuted hj (by simp [hwaiting])) ?_
  intro g' j' hj' hname hne
  obtain ⟨hsending', hrunner', -⟩ := hquiet g' j' hj' hname
  exact ⟨fun hlive' => hne (hs.eq_of_live hj hj' hname hlive hlive'), hsending', hrunner'⟩

end Live

/-- No caller has withdrawn the job. -/
structure Kept (s : Schedule) (g : Nat) (name : String) (t : Time) : Prop where
  consistent : s.Consistent
  job : ∃ j, s.jobs[g]? = some j ∧ j.name = name ∧ j.t = t ∧ s.Tracked g j ∧
    ∀ since, j.cause ≠ some (.caller since)

theorem Kept.step {t : Time} (h : s.Kept g name t) (he : s.Untouched name e) :
    (s.step e).Kept g name t where
  consistent := h.consistent.step e
  job := by
    obtain ⟨j, hj, rfl, rfl, htracked, hcause⟩ := h.job
    obtain ⟨j', hj', ⟨hname, ht, -⟩, htracked'⟩ := htracked.step h.consistent hj he.carefulOn
    refine ⟨j', hj', hname, ht, htracked', fun since hcaller => ?_⟩
    by_cases hlive : j.cause = none
    · rcases step_cause h.consistent hj hlive hj' with hnone | hends | ⟨k, hk⟩ | rfl
      · rw [hnone] at hcaller; cases hcaller
      · exact Untouched.not_ends h.consistent hj hlive he hends
      · rw [hk] at hcaller; cases hcaller
      · exact he
    · obtain ⟨j'', hj'', hcont⟩ := h.consistent.step_continues e hj
      obtain rfl := Option.some.inj (hj''.symm.trans hj')
      exact hcause since ((hcont.2.2.2.2 hlive).symm.trans hcaller)

theorem executed_of_untouched (hs : s.Consistent) (hp : s.Phased) (hj : s.jobs[g]? = some j)
    (hlive : j.cause = none) (hquiet : s.Quiet j.name) {later : List Label}
    (hlater : Along Schedule.step (Untouched j.name) s later)
    (hsettled : (Foundation.run Schedule.step s later).Settled)
    (hdue : j.t ≤ (Foundation.run Schedule.step s later).now) :
    (Foundation.run Schedule.step s later).executionsOf g = [true] := by
  have hkept : (Foundation.run Schedule.step s later).Kept g j.name j.t :=
    @invariant_of_along _ _ _ _ (fun s => s.Kept g j.name j.t) (fun s e h he => h.step he) _ _
      ⟨hs, j, hj, rfl, rfl, tracked_of_quiet hs hj hlive hp hquiet, by simp [hlive]⟩ hlater
  obtain ⟨j', hj', -, ht, htracked, hcause⟩ := hkept.job
  refine (htracked.executions hj' ?_).2 hsettled (ht ▸ hdue)
  rintro ⟨since, hcaller, -⟩
  exact hcause since hcaller

theorem of_untouched_job (hs : s.Consistent) {later : List Label}
    (hlater : Along Schedule.step (Untouched name) s later) {j' : Job}
    (hj' : (Foundation.run Schedule.step s later).jobs[g]? = some j') (hname : j'.name = name) :
    ∃ j, s.jobs[g]? = some j ∧ Continues j j' := by
  induction later generalizing s with
  | nil => exact ⟨j', hj', .refl j'⟩
  | cons e _ ih =>
    obtain ⟨j₁, hj₁, hcont₁⟩ := ih (hs.step e) hlater.2 hj'
    cases hj : s.jobs[g]? with
    | some j =>
      obtain ⟨j₂, hj₂, hcont⟩ := hs.step_continues e hj
      obtain rfl := Option.some.inj (hj₂.symm.trans hj₁)
      exact ⟨j, rfl, hcont.trans hcont₁⟩
    | none =>
      obtain ⟨ctx, t, r, rfl, herr, hrepeats, -⟩ := of_step_new hs hj hj₁
      have hsame : j₁.name = name := hcont₁.1.symm.trans hname
      exact absurd (hlater.1 hsame herr r rfl) (hsame ▸ hrepeats)

theorem step_now_of_internal (he : e.Internal) (s : Schedule) : (s.step e).now = s.now := by
  have heffect := effect_step s e
  generalize s.step e = s' at heffect ⊢
  cases heffect with
  | add | remove | advance | stop => exact he.elim
  | finish _ _ => exact remove_now _ _ s
  | _ => rfl

theorem step_running_of_internal (h : s.runner ≠ .stopped) (he : e.Internal) :
    (s.step e).runner ≠ .stopped :=
  step_running h (by rintro rfl; exact he)

theorem exists_untouched_settled (hrunning : s.runner ≠ .stopped) (name : String) (t : Time) :
    ∃ later, Along Schedule.step (Untouched name) s later ∧
      (Foundation.run Schedule.step s later).Settled ∧
      t ≤ (Foundation.run Schedule.step s later).now := by
  have hdue : t ≤ s.now + ((t - s.now).toNat : Int) :=
    Int.le_add_of_sub_left_le (Int.self_le_toNat (t - s.now))
  have hprogress : ∀ s : Schedule, s.runner ≠ .stopped ∧ t ≤ s.now → ¬ (s.Settled ∧ t ≤ s.now) →
      ∃ e : Label, (e.Internal ∧ s.Careful e) ∧
        ((s.step e).runner ≠ .stopped ∧ t ≤ (s.step e).now) ∧ (s.step e).work < s.work := by
    rintro s ⟨hrunning, hnow⟩ hunsettled
    obtain ⟨e, he, hchange⟩ := exists_internal hrunning fun hsettled => hunsettled ⟨hsettled, hnow⟩
    exact ⟨e, he, ⟨step_running_of_internal hrunning he.1,
      (step_now_of_internal he.1 s).symm ▸ hnow⟩, work_step_lt he.1 hchange⟩
  obtain ⟨rest, hrest, hsettled, hnow⟩ := exists_settled_run work hprogress
    (s.step (.advance (t - s.now).toNat)) ⟨hrunning, hdue⟩
  refine ⟨.advance (t - s.now).toNat :: rest, ⟨trivial, hrest.imp ?_⟩, hsettled, hnow⟩
  rintro s e ⟨hinternal, hcareful⟩
  cases e with
  | fire => exact hcareful name
  | wake | handOver | execute | finish => trivial
  | _ => exact hinternal.elim

/-- If nobody touches the name, a request for `t` under it is executed, once and live, when it
is due and the schedule has settled. -/
def WillExecute (name : String) (t : Time) (wanted : Request → Prop) (s : Schedule) : Prop :=
  ∀ later, Along Schedule.step (Untouched name) s later →
    (Foundation.run Schedule.step s later).Settled →
    t ≤ (Foundation.run Schedule.step s later).now →
    ∃ (g : Nat) (j : Job), (Foundation.run Schedule.step s later).jobs[g]? = some j ∧
      j.name = name ∧ j.t = t ∧ wanted j.req ∧ s.executionsOf g = [] ∧
      (Foundation.run Schedule.step s later).executionsOf g = [true]

/-- **A name that is left alone.**  A request under it will be executed exactly when its event
is in the schedule. -/
theorem willExecute_iff_pending (hs : s.Consistent) (hp : s.Phased) (hrunning : s.runner ≠ .stopped)
    (hquiet : s.Quiet name) (t : Time) (wanted : Request → Prop) :
    s.WillExecute name t wanted ↔ ∃ v, s.events.lookup name = some v ∧ v.t = t ∧ wanted v.req := by
  constructor
  · intro hexecuted
    obtain ⟨later, hlater, hsettled, hnow⟩ := exists_untouched_settled hrunning name t
    obtain ⟨g, j', hj', hname, ht', hwanted, hbefore, hafter⟩ :=
      hexecuted later hlater hsettled hnow
    obtain ⟨j, hj, hsame, ht, hreq, -⟩ := of_untouched_job hs hlater hj' hname
    rw [hsame] at hname
    rw [ht] at ht'
    rw [hreq] at hwanted
    subst hname ht'
    by_cases hlive : j.cause = none
    · obtain ⟨v, hv, rfl⟩ := hs.owner hj hlive
      obtain ⟨j₀, hj₀, -, ht₀, hreq₀, -⟩ := hs.entry hv
      obtain rfl := Option.some.inj (hj.symm.trans hj₀)
      exact ⟨v, hv, ht₀.symm, hreq₀ ▸ hwanted⟩
    · -- a cancelled job is not executed any more
      have hcount := liveExecutions_of_cancelled hs hj hlive later
      rw [liveExecutions, liveExecutions, hbefore, hafter] at hcount
      cases hcount
  · rintro ⟨v, hv, rfl, hwanted⟩ later hlater hsettled hnow
    obtain ⟨j, hj, rfl, ht, hreq, hlive⟩ := hs.entry hv
    obtain ⟨j', hj', hname', ht', hreq', -⟩ := hs.run_continues later hj
    refine ⟨v.job, j', hj', hname', ht'.trans ht, (hreq'.trans hreq).symm ▸ hwanted, ?_, ?_⟩
    · cases tracked_of_quiet hs hj hlive hp hquiet with
      | pending _ _ executions | held _ _ _ _ executions => exact executions
      | withdrawn h =>
        obtain ⟨since, hcause, -⟩ := h
        rw [hlive] at hcause; cases hcause
      | executed _ runner job => exact absurd (by rw [runner, ← job]; rfl) (hquiet _ j hj rfl).2.1
      | finished _ _ cancelled => exact absurd hlive cancelled
    · exact executed_of_untouched hs hp hj hlive hquiet hlater hsettled (ht ▸ hnow)

/-! ## Calls under one name -/

theorem matched_refl (r : Request) : matched r r = true := by
  unfold matched
  rcases r.sceneReq with _ | scene <;> rcases r.stateReq with _ | state <;> simp

theorem eq_of_matched {a b : Request} (h : matched a b = true) : a = b := by
  obtain ⟨zone, stateReq, sceneReq, nonempty, stateValid, sceneValid⟩ := a
  obtain ⟨zone', stateReq', sceneReq', nonempty', stateValid', sceneValid'⟩ := b
  simp only [matched, Bool.and_eq_true] at h
  obtain ⟨hscene, hstate⟩ := h
  have hscenes : sceneReq = sceneReq' := by
    rcases sceneReq with _ | ⟨name, scene⟩ <;> rcases sceneReq' with _ | ⟨name', scene'⟩ <;>
      simp_all
  have hstates : stateReq = stateReq' := by
    rcases stateReq with _ | ⟨name, state⟩ <;> rcases stateReq' with _ | ⟨name', state'⟩ <;>
      simp_all
  subst hscenes hstates
  have hzone : zone = zone' := by
    rcases nonempty with hsome | hsome
    · obtain ⟨r, hr⟩ := Option.isSome_iff_exists.mp hsome
      exact (stateValid r hr).1.symm.trans (stateValid' r hr).1
    · obtain ⟨r, hr⟩ := Option.isSome_iff_exists.mp hsome
      exact (sceneValid r hr).1.symm.trans (sceneValid' r hr).1
  subst hzone
  rfl

def Label.callName : Label → Option String
  | .add _ name _ _ => some name
  | .remove name => some name
  | _ => none

theorem step_lookup_of_ne (he : e.IsCall) (hname : e.callName ≠ some name) (s : Schedule) :
    (s.step e).events.lookup name = s.events.lookup name := by
  cases e with
  | add ctx name' t req =>
    have hne : name ≠ name' := fun heq => hname (congrArg some heq.symm)
    show (s.add ctx name' t req).2.events.lookup name = s.events.lookup name
    rcases add_cases ctx name' t req s with hsame | ⟨r, -, -, -, hnew⟩
    · rw [hsame]
    · rw [hnew]
      show ((s.remove (.caller s.now) name').events.insert name' _).lookup name = _
      rw [GoMap.lookup_insert_eq, if_neg hne, remove_lookup, if_neg hne]
  | remove name' =>
    have hne : name ≠ name' := fun heq => hname (congrArg some heq.symm)
    show (s.remove (.caller s.now) name').events.lookup name = s.events.lookup name
    rw [remove_lookup, if_neg hne]
  | _ => exact he.elim

/-- The request is in the schedule under the name, for `t`. -/
def Scheduled (name : String) (t : Time) (r : Request) (s : Schedule) : Prop :=
  ∃ v, s.events.lookup name = some v ∧ v.t = t ∧ matched v.req r = true

/-- What a call asks to have scheduled under the name. -/
def Label.asked (name : String) : Label → Option (Time × Request)
  | .add _ name' t (some r) => if name' = name then some (t, r) else none
  | _ => none

def asks (name : String) (ops : List Label) : List (Time × Request) :=
  ops.filterMap (Label.asked name)

theorem mem_asks_iff {t : Time} {r : Request} :
    (t, r) ∈ asks name ops ↔ ∃ ctx, .add ctx name t (some r) ∈ ops := by
  rw [asks, List.mem_filterMap]
  constructor
  · rintro ⟨e, he, hasked⟩
    unfold Label.asked at hasked
    split at hasked
    · split at hasked
      · rename_i ctx _ _ _ hname
        cases hasked
        exact ⟨ctx, hname ▸ he⟩
      · cases hasked
    · cases hasked
  · rintro ⟨ctx, hmem⟩
    exact ⟨_, hmem, if_pos rfl⟩

theorem add_scheduled_iff {ctx : Ctx} (herr : ctx.err = none) (name : String) (t t' : Time)
    (r r' : Request) (s : Schedule) :
    (s.step (.add ctx name t' (some r'))).Scheduled name t r ↔ t' = t ∧ r' = r := by
  have hadded : ∃ v, (s.step (.add ctx name t' (some r'))).events.lookup name = some v ∧
      v.t = t' ∧ v.req = r' := by
    by_cases hrepeats : s.Repeats name t' r'
    · obtain ⟨v, hv, hmatched, ht⟩ := hrepeats
      have hsame : s.step (.add ctx name t' (some r')) = s := by
        simp only [Schedule.step, add, herr]
        rw [if_pos ⟨v, hv, hmatched, ht⟩]
      exact ⟨v, by rw [hsame]; exact hv, ht.symm, eq_of_matched hmatched⟩
    · have hnew : s.step (.add ctx name t' (some r')) =
          (s.remove (.caller s.now) name).start ctx.origin name t' r' := by
        simp only [Schedule.step, add, herr]
        rw [if_neg hrepeats]
      refine ⟨⟨s.jobs.length, t', r'⟩, ?_, rfl, rfl⟩
      rw [hnew, start, GoMap.lookup_insert_eq, if_pos rfl, remove_length]
  obtain ⟨v, hv, rfl, rfl⟩ := hadded
  constructor
  · rintro ⟨w, hw, ht, hmatched⟩
    rw [hv] at hw
    cases hw
    exact ⟨ht, eq_of_matched hmatched⟩
  · rintro ⟨rfl, rfl⟩
    exact ⟨v, hv, rfl, matched_refl _⟩

/-- After calls of one caller the event of a name is the last one that was asked for. -/
theorem run_calls_scheduled_iff {err : Option String} (hops : ∀ e ∈ ops, e.IsCall)
    (hadds : ∀ e ∈ ops, e.callName = some name →
      ∃ ctx t r, ctx.err = err ∧ e = .add ctx name t (some r))
    (t : Time) (r : Request) (s : Schedule) :
    (Foundation.run Schedule.step s ops).Scheduled name t r ↔
      (err = none ∧ (asks name ops).getLast? = some (t, r)) ∨
        ((err ≠ none ∨ asks name ops = []) ∧ s.Scheduled name t r) := by
  induction ops using List.reverseRecOn with
  | nil => simp [asks]
  | append_singleton ops e ih =>
    have ih' := ih (fun e he => hops e (List.mem_append_left _ he))
      fun e he => hadds e (List.mem_append_left _ he)
    have hlast : e ∈ ops ++ [e] := List.mem_append_right _ List.mem_cons_self
    rw [run_append, run_cons, run_nil]
    by_cases hname : e.callName = some name
    · obtain ⟨ctx, t', r', herr, rfl⟩ := hadds e hlast hname
      have hasks : asks name (ops ++ [.add ctx name t' (some r')]) = asks name ops ++ [(t', r')] := by
        simp [asks, Label.asked]
      rw [hasks, List.getLast?_concat]
      cases err with
      | none => simp [add_scheduled_iff herr]
      | some message =>
        have hsame : ∀ u : Schedule, u.step (.add ctx name t' (some r')) = u := by
          intro u
          simp [Schedule.step, add, herr]
        rw [hsame, ih']
        simp
    · have hasks : asks name (ops ++ [e]) = asks name ops := by
        cases e with
        | add ctx name' t' r' =>
          have hne : ¬ name' = name := fun heq => hname (congrArg some heq)
          cases r' <;> simp [asks, Label.asked, hne]
        | _ => simp [asks, Label.asked]
      rw [hasks, ← ih']
      simp only [Scheduled, step_lookup_of_ne (hops e hlast) hname]

theorem Quiet.step_of_isCall (h : s.Quiet name) (hs : s.Consistent) (he : e.IsCall)
    (hlater : ∀ ctx t r, e = .add ctx name t (some r) → ctx.err = none → s.now < t) :
    (s.step e).Quiet name := by
  have hremove : ∀ cause name', (s.remove cause name').Quiet name := by
    intro cause name' g j' hj' hname
    rw [hs.remove_jobs] at hj'
    obtain ⟨j, hj, rfl⟩ := Option.map_eq_some_iff.mp hj'
    rw [dropJob_name] at hname
    obtain ⟨hphase, hrunner, hdue⟩ := h g j hj hname
    rw [dropJob_phase, remove_runner, remove_now, dropJob_t]
    exact ⟨hphase, hrunner, fun hlive => hdue (of_dropJob_cause hlive).2⟩
  cases e with
  | add ctx name' t req =>
    show (s.add ctx name' t req).2.Quiet name
    rcases add_cases ctx name' t req s with hsame | ⟨r, herr, rfl, -, hnew⟩
    · rwa [hsame]
    · rw [hnew]
      intro g j hj hname
      rcases of_start_jobs hj with hold | ⟨hg, rfl⟩
      · exact hremove _ name' g j hold hname
      · refine ⟨by simp, ?_, fun _ => ?_⟩
        · -- `run` has no item of a job that is just being made
          show (s.remove (.caller s.now) name').runner.job ≠ some g
          rw [remove_runner, hg, remove_length]
          intro hrunner
          have hlt := hs.lt_of_runner hrunner
          exact absurd hlt (lt_irrefl _)
        · show (s.remove (.caller s.now) name').now < t
          rw [remove_now]
          exact hlater ctx t r (by rw [← hname]) herr
  | remove name' => exact hremove _ name'
  | _ => exact he.elim

theorem Quiet.run_of_isCall (h : s.Quiet name) (hs : s.Consistent) (hops : ∀ e ∈ ops, e.IsCall)
    (hlater : ∀ ctx t r, .add ctx name t (some r) ∈ ops → ctx.err = none → s.now < t) :
    (Foundation.run Schedule.step s ops).Quiet name := by
  induction ops generalizing s with
  | nil => exact h
  | cons e _ ih =>
    have he := hops e List.mem_cons_self
    refine ih (h.step_of_isCall hs he ?_) (hs.step e)
      (fun e he => hops e (List.mem_cons_of_mem _ he)) ?_
    · exact fun ctx t r heq => hlater ctx t r (heq ▸ List.mem_cons_self)
    · intro ctx t r hmem herr
      rw [step_now_of_isCall he]
      exact hlater ctx t r (List.mem_cons_of_mem _ hmem) herr

theorem run_running_of_isCall (h : s.runner ≠ .stopped) (hops : ∀ e ∈ ops, e.IsCall) :
    (Foundation.run Schedule.step s ops).runner ≠ .stopped :=
  @run_invariant_of_mem _ _ Schedule.step (fun s => s.runner ≠ .stopped) ops
    (fun _ e he hs => step_running hs (by rintro rfl; exact hops _ he)) s h

end Schedule

end IotController.Conditioner
