/-
  What becomes of a scheduled request.

  `Tracked` follows one event from `add` to the clean-up after its execution.  It holds in
  every run in which the parties respect the event's name (`CarefulOn`), and this is what
  the code rests on without enforcing it: `run` and the callers know an event only by its
  name, so a call that lands between the expiry of the timer and the clean-up hits an event
  it does not mean.
-/
import IotController.Foundation.Run
import IotController.Conditioner.Schedule

namespace IotController.Conditioner

open Foundation Api Proto Compute

def Phase.work : Phase → Nat
  | .waiting => 5
  | .sending => 4
  | .handed => 0
  | .returned => 0

def Runner.work : Runner → Nat
  | .holding _ => 2
  | .executed _ => 1
  | .idle => 0
  | .stopped => 0

namespace Schedule

/-! ## One event on its way -/

/-- The results of the executions of job `g`, the newest first: `true` with a
live context. -/
def executionsOf (s : Schedule) (g : Nat) : List Bool :=
  (s.executions.filter fun x => x.job = g).map (·.live)

/-- The other jobs of the name are cancelled, and no item of theirs is on its
way. -/
def Alone (s : Schedule) (g : Nat) (name : String) : Prop :=
  ∀ g' j', s.jobs[g']? = some j' → j'.name = name → g' ≠ g →
    j'.cause ≠ none ∧ j'.phase ≠ .sending ∧ s.runner.job ≠ some g'

/-- Where a job is on its way. -/
inductive Tracked (s : Schedule) (g : Nat) (j : Job) : Prop
  | withdrawn (h : j.Withdrawn)
  | pending (phase : j.phase = .waiting ∨ j.phase = .sending) (live : j.cause = none)
      (executions : s.executionsOf g = []) (alone : s.Alone g j.name)
  | held (i : Item) (runner : s.runner = .holding i) (job : i.job = g) (live : j.cause = none)
      (executions : s.executionsOf g = []) (alone : s.Alone g j.name)
  | executed (i : Item) (runner : s.runner = .executed i) (job : i.job = g)
      (cause : ∀ k, j.cause ≠ some (.finished k)) (executions : s.executionsOf g = [true])
      (alone : s.Alone g j.name)
  | finished (phase : j.phase = .handed) (runner : s.runner.job ≠ some g)
      (cancelled : j.cause ≠ none) (cause : ∀ k, j.cause = some (.finished k) → k = g)
      (executions : s.executionsOf g = [true])

/-- No item of the name is on its way, and its event is not due. -/
def Quiet (name : String) (s : Schedule) : Prop :=
  ∀ g j, s.jobs[g]? = some j → j.name = name →
    j.phase ≠ .sending ∧ s.runner.job ≠ some g ∧ (j.cause = none → s.now < j.t)

/-- What the parties respect for one name; a cancelled goroutine does not take its timer, and
`run` goes on. -/
def CarefulOn (name : String) (s : Schedule) : Label → Prop
  | .add ctx name' t req =>
    name' = name → ctx.err = none → ∀ r ∈ req, ¬ s.Repeats name t r → s.Quiet name
  | .remove name' =>
    name' = name → ∀ v ∈ s.events.lookup name,
      s.now < v.t ∨ ∃ i, s.runner = .executed i ∧ i.job = v.job
  | .fire g => ∀ j ∈ s.jobs[g]?, j.name = name → j.cause = none
  | .stop => False
  | _ => True

section Alone

variable {s : Schedule} {g : Nat} {name : String}

theorem Alone.of_remove (h : s.Alone g name) (hs : s.Consistent) (cause : Cause) (name' : String) :
    (s.remove cause name').Alone g name := by
  intro g' j' hj' hname hne
  rw [hs.remove_jobs] at hj'
  obtain ⟨j, hj, rfl⟩ := Option.map_eq_some_iff.mp hj'
  rw [dropJob_name] at hname
  obtain ⟨hcause, hphase, hrunner⟩ := h g' j hj hname hne
  rw [dropJob_of_cancelled hcause, remove_runner]
  exact ⟨hcause, hphase, hrunner⟩

theorem Alone.of_start (h : s.Alone g name) {name' : String} (hname' : name' ≠ name)
    (origin : Origin) (t : Time) (req : Request) : (s.start origin name' t req).Alone g name := by
  intro g' j' hj' hname hne
  rcases of_start_jobs hj' with hold | ⟨-, rfl⟩
  · exact h g' j' hold hname hne
  · exact absurd hname hname'

theorem Alone.of_goto (h : s.Alone g name) {g₀ : Nat} {phase : Phase}
    (hphase : ∀ j, s.jobs[g₀]? = some j → j.name = name → g₀ ≠ g → phase ≠ .sending) :
    (s.goto g₀ phase).Alone g name := by
  intro g' j' hj' hname hne
  rcases of_goto_jobs hj' with ⟨rfl, j, hj, rfl⟩ | ⟨-, hold⟩
  · obtain ⟨hcause, -, hrunner⟩ := h g₀ j hj hname hne
    exact ⟨hcause, hphase j hj hname hne, hrunner⟩
  · exact h g' j' hold hname hne

theorem Alone.withRunner (h : s.Alone g name) {runner : Runner} {executions : List Execution}
    (hrunner : ∀ g' j', s.jobs[g']? = some j' → j'.name = name → g' ≠ g → runner.job ≠ some g') :
    Alone { s with runner := runner, executions := executions } g name := by
  intro g' j' hj' hname hne
  obtain ⟨hcause, hphase, -⟩ := h g' j' hj' hname hne
  exact ⟨hcause, hphase, hrunner g' j' hj' hname hne⟩

end Alone

def Moved (s : Schedule) (g : Nat) (j : Job) : Prop :=
  ∃ j', s.jobs[g]? = some j' ∧ (j'.name = j.name ∧ j'.t = j.t ∧ j'.req = j.req) ∧ s.Tracked g j'

section Tracked

variable {s : Schedule} {g : Nat} {j : Job}

theorem Tracked.stays (h : s.Tracked g j) (hj : s.jobs[g]? = some j) : s.Moved g j :=
  ⟨j, hj, ⟨rfl, rfl, rfl⟩, h⟩

theorem Tracked.frame {s' : Schedule} (h : s.Tracked g j) (hrunner : s'.runner = s.runner)
    (hexecutions : s'.executions = s.executions)
    (halone : s.Alone g j.name → s'.Alone g j.name) : s'.Tracked g j := by
  have hof : s'.executionsOf g = s.executionsOf g := by simp only [executionsOf, hexecutions]
  cases h with
  | withdrawn h => exact .withdrawn h
  | pending phase live executions alone =>
    exact .pending phase live (hof.trans executions) (halone alone)
  | held i runner job live executions alone =>
    exact .held i (hrunner.trans runner) job live (hof.trans executions) (halone alone)
  | executed i runner job cause executions alone =>
    exact .executed i (hrunner.trans runner) job cause (hof.trans executions) (halone alone)
  | finished phase runner cancelled cause executions =>
    exact .finished phase (hrunner ▸ runner) cancelled cause (hof.trans executions)

theorem Tracked.handOver (hj : s.jobs[g]? = some j) (h : s.Tracked g j) {g₀ : Nat} {j₀ : Job}
    (hidle : s.runner = .idle) (hj₀ : s.jobs[g₀]? = some j₀) (hsending : j₀.phase = .sending) :
    Moved { s.goto g₀ .handed with runner := .holding ⟨g₀, j₀.name, j₀.req⟩ } g j := by
  have halone : ∀ {name : String}, s.Alone g name → (s.goto g₀ .handed).Alone g name :=
    fun ha => ha.of_goto fun _ _ _ _ => by simp
  by_cases hg : g₀ = g
  · subst hg
    obtain rfl := Option.some.inj (hj.symm.trans hj₀)
    refine ⟨_, goto_jobs_self hj .handed, ⟨rfl, rfl, rfl⟩, ?_⟩
    cases h with
    | withdrawn h => exact .withdrawn h
    | pending _ live executions alone =>
      refine .held _ rfl rfl live executions ((halone alone).withRunner ?_)
      intro g' _ _ _ hne heq
      exact hne (Option.some.inj heq).symm
    | held _ runner | executed _ runner => rw [hidle] at runner; cases runner
    | finished phase => rw [hsending] at phase; cases phase
  · refine ⟨j, by
      show (s.goto g₀ .handed).jobs[g]? = some j
      rw [goto_jobs_of_ne hg, hj], ⟨rfl, rfl, rfl⟩, ?_⟩
    cases h with
    | withdrawn h => exact .withdrawn h
    | pending phase live executions alone =>
      refine .pending phase live executions ((halone alone).withRunner ?_)
      -- an item of a rival is not on its way
      intro g' j' hj' hname hne heq
      obtain rfl : g₀ = g' := Option.some.inj heq
      rw [goto_jobs_self hj₀] at hj'
      obtain rfl := Option.some.inj hj'
      exact (alone g₀ j₀ hj₀ hname hne).2.1 hsending
    | held _ runner | executed _ runner => rw [hidle] at runner; cases runner
    | finished phase _ cancelled cause executions =>
      exact .finished phase (fun heq => hg (Option.some.inj heq)) cancelled cause executions

theorem executionsOf_exec (s : Schedule) (i : Item) (g : Nat) :
    (s.exec i).executionsOf g =
      if i.job = g then s.live g :: s.executionsOf g else s.executionsOf g := by
  by_cases hg : i.job = g
  · simp [executionsOf, exec, hg]
  · simp [executionsOf, exec, hg]

section

variable (hs : s.Consistent) (hj : s.jobs[g]? = some j)
include hs hj

theorem phase_of_runner {i : Item}
    (hi : s.runner = .holding i ∨ s.runner = .executed i) (hg : i.job = g) :
    j.name = i.name ∧ j.phase = .handed := by
  subst hg
  obtain ⟨j', hj', hname, -, hphase⟩ := hs.item hi
  obtain rfl := Option.some.inj (hj.symm.trans hj')
  exact ⟨hname, hphase⟩

variable (h : s.Tracked g j)
include h

theorem Tracked.remove_other (cause : Cause) {name : String} (hother : dropJob cause name j = j) :
    (s.remove cause name).Moved g j :=
  ⟨j, by rw [hs.remove_jobs, hj, Option.map_some, hother], ⟨rfl, rfl, rfl⟩,
    h.frame (remove_runner _ _ _) (remove_executions _ _ _) fun ha => ha.of_remove hs cause name⟩

theorem Tracked.remove {name : String} (hcareful : s.CarefulOn j.name (.remove name)) :
    (s.remove (.caller s.now) name).Moved g j := by
  by_cases hname : j.name = name
  case neg => exact h.remove_other hs hj _ (dropJob_of_ne hname _)
  subst hname
  by_cases hcause : j.cause = none
  case neg => exact h.remove_other hs hj _ (dropJob_of_cancelled hcause _ _)
  obtain ⟨v, hv, hvg⟩ := hs.owner hj hcause
  refine ⟨_, by rw [hs.remove_jobs, hj, Option.map_some], by simp, ?_⟩
  have hnew : (dropJob (.caller s.now) j.name j).cause = some (.caller s.now) :=
    dropJob_cause_of_live hcause _
  rcases hcareful rfl v hv with hearly | ⟨i, hi, hig⟩
  · obtain ⟨j', hj', -, ht, -⟩ := hs.entry hv
    rw [hvg] at hj'
    obtain rfl := Option.some.inj (hj.symm.trans hj')
    exact .withdrawn ⟨s.now, hnew, by rw [dropJob_t, ht]; exact hearly⟩
  · -- the event goes between its execution and its clean-up
    have hphase := (phase_of_runner hs hj (Or.inr hi) (hig.trans hvg)).2
    cases h with
    | withdrawn h => exact absurd h (by simp [Job.Withdrawn, hcause])
    | pending phase => rcases phase with h | h <;> rw [hphase] at h <;> cases h
    | held _ runner => rw [hi] at runner; cases runner
    | executed i' runner job _ executions alone =>
      refine .executed i' (by rw [remove_runner, runner]) job (by simp [hnew]) ?_ ?_
      · simpa only [executionsOf, remove_executions] using executions
      · rw [dropJob_name]
        exact alone.of_remove hs _ _
    | finished _ _ cancelled => exact absurd hcause cancelled

theorem Tracked.add {name : String} (hquiet : name = j.name → s.Quiet j.name) (origin : Origin)
    (t : Time) (r : Request) :
    ((s.remove (.caller s.now) name).start origin name t r).Moved g j := by
  by_cases hname : j.name = name
  case neg =>
    obtain ⟨j', hj', hsame, htracked⟩ :=
      h.remove_other hs hj (.caller s.now) (dropJob_of_ne hname _)
    refine ⟨j', start_jobs_of_some hj' _ _ _ _, hsame, htracked.frame rfl rfl fun ha => ?_⟩
    exact ha.of_start (fun heq => hname (hsame.1.symm.trans heq.symm)) _ _ _
  subst hname
  obtain ⟨-, hrunner, hdue⟩ := hquiet rfl g j hj rfl
  refine ⟨_, start_jobs_of_some (by rw [hs.remove_jobs, hj, Option.map_some]) _ _ _ _, by simp, ?_⟩
  by_cases hcause : j.cause = none
  · exact .withdrawn ⟨s.now, dropJob_cause_of_live hcause _, by rw [dropJob_t]; exact hdue hcause⟩
  rw [dropJob_of_cancelled hcause]
  cases h with
  | withdrawn h => exact .withdrawn h
  | pending _ live | held _ _ _ live => exact absurd live hcause
  | executed _ runner job => exact absurd (by rw [runner, ← job]; rfl) hrunner
  | finished phase _ cancelled cause executions =>
    refine .finished phase ?_ cancelled cause ?_
    · show (s.remove (.caller s.now) j.name).runner.job ≠ some g
      rwa [remove_runner]
    · simpa only [executionsOf, start, remove_executions] using executions

theorem Tracked.fire {g₀ : Nat} {j₀ : Job} (hcareful : s.CarefulOn j.name (.fire g₀))
    (hj₀ : s.jobs[g₀]? = some j₀) (hwaiting : j₀.phase = .waiting) :
    (s.goto g₀ .sending).Moved g j := by
  by_cases hg : g₀ = g
  · subst hg
    obtain rfl := Option.some.inj (hj.symm.trans hj₀)
    refine ⟨_, goto_jobs_self hj .sending, ⟨rfl, rfl, rfl⟩, ?_⟩
    cases h with
    | withdrawn h => exact .withdrawn h
    | pending _ live executions alone =>
      exact .pending (Or.inr rfl) live executions (alone.of_goto fun _ _ _ hne => absurd rfl hne)
    | held _ runner job =>
      have := (phase_of_runner hs hj (Or.inl runner) job).2
      rw [hwaiting] at this; cases this
    | executed _ runner job =>
      have := (phase_of_runner hs hj (Or.inr runner) job).2
      rw [hwaiting] at this; cases this
    | finished phase => rw [hwaiting] at phase; cases phase
  · refine ⟨j, by rw [goto_jobs_of_ne hg, hj], ⟨rfl, rfl, rfl⟩, h.frame rfl rfl fun ha => ?_⟩
    -- a rival is cancelled, so it does not take the branch of its timer
    exact ha.of_goto fun j' hj' hname hne =>
      absurd (hcareful j' hj' hname) (ha g₀ j' hj' hname hne).1

theorem Tracked.wake {g₀ : Nat} {j₀ : Job} (hj₀ : s.jobs[g₀]? = some j₀)
    (hwaiting : j₀.phase = .waiting) (hcause : j₀.cause ≠ none) :
    (s.goto g₀ .returned).Moved g j := by
  by_cases hg : g₀ = g
  · subst hg
    obtain rfl := Option.some.inj (hj.symm.trans hj₀)
    refine ⟨_, goto_jobs_self hj .returned, ⟨rfl, rfl, rfl⟩, ?_⟩
    cases h with
    | withdrawn h => exact .withdrawn h
    | pending _ live | held _ _ _ live => exact absurd live hcause
    | executed _ runner job =>
      have := (phase_of_runner hs hj (Or.inr runner) job).2
      rw [hwaiting] at this; cases this
    | finished phase => rw [hwaiting] at phase; cases phase
  · refine ⟨j, by rw [goto_jobs_of_ne hg, hj], ⟨rfl, rfl, rfl⟩, h.frame rfl rfl fun ha => ?_⟩
    exact ha.of_goto fun _ _ _ _ => by simp

theorem Tracked.execute {i : Item} (hi : s.runner = .holding i) : (s.exec i).Moved g j := by
  refine ⟨j, hj, ⟨rfl, rfl, rfl⟩, ?_⟩
  have halone : s.Alone g j.name → (s.exec i).Alone g j.name := by
    intro ha
    refine ha.withRunner fun g' j' hj' hname hne => ?_
    have := (ha g' j' hj' hname hne).2.2
    rwa [hi] at this
  cases h with
  | withdrawn h => exact .withdrawn h
  | pending phase live executions alone =>
    have hne : i.job ≠ g := by
      intro hg
      have hphase := (phase_of_runner hs hj (Or.inl hi) hg).2
      rw [hphase] at phase
      simp at phase
    exact .pending phase live (by rw [executionsOf_exec, if_neg hne, executions]) (halone alone)
  | held i' runner job live executions alone =>
    obtain rfl : i = i' := Runner.holding.inj (hi.symm.trans runner)
    refine .executed i rfl job (by simp [live]) ?_ (halone alone)
    have hlive : s.live g = true := by simp [Schedule.live, hj, live]
    rw [executionsOf_exec, if_pos job, hlive, executions]
  | executed _ runner => rw [hi] at runner; cases runner
  | finished phase runner cancelled cause executions =>
    have hne : i.job ≠ g := fun hg => runner (by rw [hi, ← hg]; rfl)
    exact .finished phase (fun heq => hne (Option.some.inj heq)) cancelled cause
      (by rw [executionsOf_exec, if_neg hne, executions])

theorem Tracked.finish {i : Item} (hi : s.runner = .executed i) :
    Moved { s.remove (.finished i.job) i.name with runner := .idle } g j := by
  have hremoved := hs.remove_jobs (.finished i.job) i.name g
  rw [hj, Option.map_some] at hremoved
  refine ⟨_, hremoved, by simp, ?_⟩
  cases h with
  | withdrawn h =>
    rw [dropJob_of_cancelled (by obtain ⟨since, hcause, -⟩ := h; simp [hcause])]
    exact .withdrawn h
  | pending phase live executions alone =>
    -- the item that `run` finishes has another name
    have hname : j.name ≠ i.name := by
      intro hname
      obtain ⟨j', hj', hname', -, hphase⟩ := hs.item (Or.inr hi)
      have hne : i.job ≠ g := by
        intro hg
        have := (phase_of_runner hs hj (Or.inr hi) hg).2
        rw [this] at phase
        simp at phase
      exact (alone i.job j' hj' (hname'.trans hname.symm) hne).2.2 (by rw [hi]; rfl)
    rw [dropJob_of_ne hname]
    refine .pending phase live ?_ ((alone.of_remove hs _ _).withRunner (by simp [Runner.job]))
    simpa only [executionsOf, remove_executions] using executions
  | held _ runner => rw [hi] at runner; cases runner
  | executed i' runner job cause executions =>
    obtain rfl : i = i' := Runner.executed.inj (hi.symm.trans runner)
    obtain ⟨hname, hphase⟩ := phase_of_runner hs hj (Or.inr hi) job
    refine .finished (by simpa using hphase) (by simp [Runner.job]) ?_ ?_ ?_
    · intro hlive
      exact (of_dropJob_cause hlive).1 hname
    · intro k hk
      by_cases hcause : j.cause = none
      · rw [← hname, dropJob_cause_of_live hcause] at hk
        cases hk
        exact job
      · rw [dropJob_of_cancelled hcause] at hk
        exact absurd hk (cause k)
    · simpa only [executionsOf, remove_executions] using executions
  | finished phase _ cancelled cause executions =>
    rw [dropJob_of_cancelled cancelled]
    refine .finished phase (by simp [Runner.job]) cancelled cause ?_
    simpa only [executionsOf, remove_executions] using executions

/-- **Step lemma.**  A tracked event stays tracked as long as the parties respect
its name. -/
theorem Tracked.step {e : Label} (hcareful : s.CarefulOn j.name e) : (s.step e).Moved g j := by
  have heffect := effect_step s e
  generalize s.step e = s' at heffect ⊢
  cases heffect with
  | stutter => exact h.stays hj
  | add ctx name t r herr hrepeats =>
    refine h.add hs hj ?_ ctx.origin t r
    rintro rfl
    exact hcareful rfl herr r rfl hrepeats
  | remove => exact h.remove hs hj hcareful
  | advance => exact ⟨j, hj, ⟨rfl, rfl, rfl⟩, h.frame rfl rfl fun ha => ha⟩
  | fire _ _ hj₀ hwaiting => exact h.fire hs hj hcareful hj₀ hwaiting
  | wake _ _ hj₀ hwaiting hcause => exact h.wake hs hj hj₀ hwaiting hcause
  | handOver _ _ hidle hj₀ hsending => exact h.handOver hj hidle hj₀ hsending
  | execute _ hi => exact h.execute hs hj hi
  | finish _ hi => exact h.finish hs hj hi
  | stop => exact hcareful.elim

end

end Tracked

variable {s : Schedule}

theorem of_step_new (hs : s.Consistent) {g : Nat} {j : Job} {e : Label} (hnone : s.jobs[g]? = none)
    (hj : (s.step e).jobs[g]? = some j) :
    ∃ ctx t r, e = .add ctx j.name t (some r) ∧ ctx.err = none ∧ ¬ s.Repeats j.name t r ∧
      g = s.jobs.length ∧ j = { name := j.name, t := t, req := r, origin := ctx.origin } ∧
      s.step e = (s.remove (.caller s.now) j.name).start ctx.origin j.name t r := by
  have hgoto : ∀ g₀ phase, (s.goto g₀ phase).jobs[g]? ≠ some j := by
    intro g₀ phase
    rw [goto_jobs, hnone]
    simp
  have hremove : ∀ cause name, (s.remove cause name).jobs[g]? ≠ some j := by
    intro cause name
    rw [hs.remove_jobs, hnone]
    simp
  have hold : s.jobs[g]? ≠ some j := by simp [hnone]
  have heffect := effect_step s e
  generalize s.step e = s' at heffect hj ⊢
  cases heffect with
  | stutter | advance | execute => exact absurd hj hold
  | add ctx _ t r herr hrepeats =>
    rcases of_start_jobs hj with h | ⟨hg, rfl⟩
    · exact absurd h (hremove _ _)
    · rw [remove_length] at hg
      exact ⟨ctx, t, r, rfl, herr, hrepeats, hg, rfl, rfl⟩
  | remove | finish _ _ => exact absurd hj (hremove _ _)
  | fire _ _ _ _ _ | wake _ _ _ _ _ | handOver _ _ _ _ _ => exact absurd hj (hgoto _ _)
  | stop => exact absurd hj (stop_jobs_ne hs hnone j)

theorem Consistent.executionsOf_length (hs : s.Consistent) : s.executionsOf s.jobs.length = [] := by
  simp only [executionsOf, List.map_eq_nil_iff, List.filter_eq_nil_iff, decide_eq_true_eq]
  exact fun x hx hjob => absurd (hs.past hx) (by rw [hjob]; exact lt_irrefl _)

theorem tracked_start (hs : s.Consistent) {name : String} (hquiet : s.Quiet name) (cause : Cause)
    (origin : Origin) (t : Time) (req : Request) :
    ((s.remove cause name).start origin name t req).Tracked s.jobs.length
      { name := name, t := t, req := req, origin := origin } := by
  refine .pending (Or.inl rfl) rfl ?_ ?_
  · simpa only [executionsOf, start, remove_executions] using hs.executionsOf_length
  · intro g' j' hj' hname hne
    rcases of_start_jobs hj' with hold | ⟨hg, -⟩
    · rw [hs.remove_jobs] at hold
      obtain ⟨j, hj, rfl⟩ := Option.map_eq_some_iff.mp hold
      rw [dropJob_name] at hname
      obtain ⟨hphase, hrunner, -⟩ := hquiet g' j hj hname
      refine ⟨fun hlive => (of_dropJob_cause hlive).1 hname, by simpa using hphase, ?_⟩
      show (s.remove cause name).runner.job ≠ some g'
      rwa [remove_runner]
    · exact absurd (hg.trans (remove_length _ _ _)) hne

/-! ## Whole runs -/

/-- The names are respected. -/
def Careful (s : Schedule) (e : Label) : Prop := ∀ name, s.CarefulOn name e

/-- The invariant of careful runs. -/
structure Orderly (s : Schedule) : Prop where
  consistent : s.Consistent
  tracked : ∀ {g : Nat} {j : Job}, s.jobs[g]? = some j → s.Tracked g j
  running : s.runner ≠ .stopped

theorem Orderly.new (now : Time) : (Schedule.new now).Orderly where
  consistent := .new now
  tracked h := by simp [Schedule.new] at h
  running := by simp [Schedule.new]

theorem step_running (h : s.runner ≠ .stopped) {e : Label} (he : e ≠ .stop) :
    (s.step e).runner ≠ .stopped := by
  have heffect := effect_step s e
  generalize s.step e = s' at heffect ⊢
  cases heffect with
  | stutter | advance | fire | wake => exact h
  | add _ name =>
    show (s.remove (.caller s.now) name).runner ≠ .stopped
    rwa [remove_runner]
  | remove => rwa [remove_runner]
  | handOver | execute | finish => exact nofun
  | stop => exact absurd rfl he

theorem Orderly.step (h : s.Orderly) {e : Label} (he : s.Careful e) :
    (s.step e).Orderly where
  consistent := h.consistent.step e
  tracked {g j'} hj' := by
    cases hj : s.jobs[g]? with
    | some j =>
      obtain ⟨j'', hj'', -, htracked⟩ := (h.tracked hj).step h.consistent hj (he j.name)
      exact Option.some.inj (hj''.symm.trans hj') ▸ htracked
    | none =>
      obtain ⟨ctx, t, r, rfl, herr, hrepeats, rfl, hnew, hstep⟩ := of_step_new h.consistent hj hj'
      rw [hstep, hnew]
      exact tracked_start h.consistent (he j'.name rfl herr r rfl hrepeats) _ _ _ _
  running := step_running h.running (by rintro rfl; exact he "")

/-! ## Progress -/

def Label.Internal : Label → Prop
  | .fire _ => True
  | .wake _ => True
  | .handOver _ => True
  | .execute => True
  | .finish => True
  | _ => False

/-- `run` waits, and so does every goroutine: no item is on its way and no event
is due. -/
def Settled (s : Schedule) : Prop :=
  s.runner = .idle ∧ ∀ (g : Nat) (j : Job), s.jobs[g]? = some j →
    j.phase ≠ .sending ∧ (j.phase = .waiting → j.cause = none → s.now < j.t)

def work (s : Schedule) : Nat := (s.jobs.map fun j => j.phase.work).sum + s.runner.work

theorem sum_map_modify {α : Type} (f : α → Nat) (m : α → α) {l : List α} {i : Nat} {a : α}
    (h : l[i]? = some a) : ((l.modify i m).map f).sum + f a = (l.map f).sum + f (m a) := by
  induction l generalizing i with
  | nil => simp at h
  | cons b _ ih =>
    cases i with
    | zero =>
      obtain rfl : b = a := by simpa using h
      simp only [List.modify_zero_cons, List.map_cons, List.sum_cons]
      omega
    | succ =>
      have := ih (by simpa using h)
      simp only [List.modify_succ_cons, List.map_cons, List.sum_cons]
      omega

theorem work_goto {g : Nat} {j : Job} (h : s.jobs[g]? = some j) (phase : Phase) :
    (s.goto g phase).work + j.phase.work = s.work + phase.work := by
  have hsum := sum_map_modify (fun j : Job => j.phase.work) (fun j => { j with phase := phase }) h
  simp only [work, goto] at hsum ⊢
  omega

theorem work_remove (cause : Cause) (name : String) (s : Schedule) :
    (s.remove cause name).work = s.work := by
  have hmap : ∀ g, (s.jobs.modify g (Job.cancel cause)).map (fun j => j.phase.work) =
      s.jobs.map fun j => j.phase.work := by
    intro g
    refine List.ext_getElem? fun k => ?_
    rw [List.getElem?_map, List.getElem?_modify, List.getElem?_map]
    cases s.jobs[k]? with
    | none => rfl
    | some =>
      by_cases hk : g = k
      · simp [hk, Job.cancel]
      · simp [hk]
  unfold remove
  split
  · rfl
  · simp only [work, hmap]

theorem work_step_lt {e : Label} (he : e.Internal) (h : s.step e ≠ s) :
    (s.step e).work < s.work := by
  have heffect := effect_step s e
  generalize s.step e = s' at heffect h ⊢
  cases heffect with
  | stutter => exact absurd rfl h
  | add | remove | advance | stop => exact he.elim
  | fire _ _ hj hphase =>
    have := work_goto hj .sending
    simp only [hphase, Phase.work] at this
    omega
  | wake _ _ hj hphase =>
    have := work_goto hj .returned
    simp only [hphase, Phase.work] at this
    omega
  | handOver g j hidle hj hphase =>
    have hwork := work_goto hj .handed
    simp only [hphase, Phase.work] at hwork
    have hsum : (s.goto g .handed).work =
        ((s.goto g .handed).jobs.map fun j => j.phase.work).sum := by
      simp only [work, goto, hidle, Runner.work, Nat.add_zero]
    show ((s.goto g .handed).jobs.map fun j => j.phase.work).sum + 2 < s.work
    omega
  | execute _ hi =>
    simp only [exec, work, hi, Runner.work]
    omega
  | finish i hi =>
    have hwork := work_remove (.finished i.job) i.name s
    simp only [work, remove_runner, hi, Runner.work] at hwork ⊢
    omega

theorem exists_internal (hrunning : s.runner ≠ .stopped) (hs : ¬ s.Settled) :
    ∃ e : Label, (e.Internal ∧ s.Careful e) ∧ s.step e ≠ s := by
  have hphase : ∀ {g : Nat} {j : Job} (phase : Phase), s.jobs[g]? = some j → j.phase ≠ phase →
      s.goto g phase ≠ s := by
    intro g j phase hj hne heq
    have hj' := goto_jobs_self hj phase
    rw [heq, hj] at hj'
    exact hne (congrArg Job.phase (Option.some.inj hj'))
  cases hrunner : s.runner with
  | stopped => exact absurd hrunner hrunning
  | holding =>
    refine ⟨.execute, ⟨trivial, fun _ => trivial⟩, fun heq => ?_⟩
    have := congrArg Schedule.runner heq
    simp [step, hrunner, exec] at this
  | executed =>
    refine ⟨.finish, ⟨trivial, fun _ => trivial⟩, fun heq => ?_⟩
    have := congrArg Schedule.runner heq
    simp [step, hrunner] at this
  | idle =>
    by_cases hsending : ∃ (g : Nat) (j : Job), s.jobs[g]? = some j ∧ j.phase = .sending
    · obtain ⟨g, j, hj, hready⟩ := hsending
      refine ⟨.handOver g, ⟨trivial, fun _ => trivial⟩, fun heq => ?_⟩
      have := congrArg Schedule.runner heq
      simp [step, hrunner, hj, hready] at this
    · -- a live job that is due still waits
      have hdue : ∃ (g : Nat) (j : Job), s.jobs[g]? = some j ∧
          j.phase = .waiting ∧ j.cause = none ∧ j.t ≤ s.now := by
        by_contra hnone
        refine hs ⟨hrunner, fun g j hj => ⟨fun hp => hsending ⟨g, j, hj, hp⟩, ?_⟩⟩
        intro hp hlive
        by_contra hlate
        exact hnone ⟨g, j, hj, hp, hlive, not_lt.mp hlate⟩
      obtain ⟨g, j, hj, hwaiting, hlive, ht⟩ := hdue
      refine ⟨.fire g, ⟨trivial, fun _ j' hj' _ => ?_⟩, ?_⟩
      · exact Option.some.inj (hj.symm.trans hj') ▸ hlive
      · simp only [step, hj, hwaiting, ht, and_self, if_true]
        exact hphase .sending hj (by simp [hwaiting])

/-- An event not withdrawn before its time is executed at most once, live, and has been when it
is due and the schedule has settled. -/
def ExactlyOnce (s : Schedule) : Prop :=
  ∀ (g : Nat) (j : Job), s.jobs[g]? = some j → ¬ j.Withdrawn →
    (s.executionsOf g = [] ∨ s.executionsOf g = [true]) ∧
      (s.Settled → j.t ≤ s.now → s.executionsOf g = [true])

/-- The clean-up after an item has cancelled and deleted no event but the item's
own. -/
def FinishesOwn (s : Schedule) : Prop :=
  ∀ (g : Nat) (j : Job) (k : Nat), s.jobs[g]? = some j → j.cause = some (.finished k) → k = g

theorem Tracked.executions {g : Nat} {j : Job} (h : s.Tracked g j) (hj : s.jobs[g]? = some j)
    (hkept : ¬ j.Withdrawn) :
    (s.executionsOf g = [] ∨ s.executionsOf g = [true]) ∧
      (s.Settled → j.t ≤ s.now → s.executionsOf g = [true]) := by
  cases h with
  | withdrawn hw => exact absurd hw hkept
  | pending phase live executions =>
    refine ⟨Or.inl executions, fun hsettled ht => ?_⟩
    obtain ⟨hsending, hwaiting⟩ := hsettled.2 g j hj
    rcases phase with hp | hp
    · exact absurd ht (not_le.mpr (hwaiting hp live))
    · exact absurd hp hsending
  | held _ runner _ _ executions =>
    exact ⟨Or.inl executions, fun hsettled => by
      have := hsettled.1
      rw [runner] at this; cases this⟩
  | executed _ _ _ _ executions => exact ⟨Or.inr executions, fun _ _ => executions⟩
  | finished _ _ _ _ executions =>
    exact ⟨Or.inr executions, fun _ _ => executions⟩

theorem Orderly.exactlyOnce (h : s.Orderly) : s.ExactlyOnce :=
  fun _ _ hj hkept => (h.tracked hj).executions hj hkept

theorem Orderly.finishesOwn (h : s.Orderly) : s.FinishesOwn := by
  intro g j k hj hk
  cases h.tracked hj with
  | withdrawn hw =>
    obtain ⟨since, hcause, -⟩ := hw
    rw [hcause] at hk; cases hk
  | pending _ live | held _ _ _ live => rw [live] at hk; cases hk
  | executed _ _ _ cause => exact absurd hk (cause k)
  | finished _ _ _ cause => exact cause k hk

/-- **Scheduled events.**  In every interleaving that respects the names, every event not
withdrawn before its time is executed exactly once, and finishing an item leaves later events
alone.  The goroutines and `run` can always settle the schedule, in at most `work` actions,
whatever the order. -/
theorem scheduled_exactly_once (now : Time) {events : List Label}
    (h : Along step Careful (new now) events) :
    let s := run step (new now) events
    s.ExactlyOnce ∧ s.FinishesOwn ∧
      (∃ rest, Along step (fun s e => e.Internal ∧ s.Careful e) s rest ∧
        (run step s rest).Settled) ∧
      ∀ rest, Along step (fun s e => e.Internal ∧ s.step e ≠ s) s rest → rest.length ≤ s.work := by
  have horderly : (run step (new now) events).Orderly :=
    invariant_of_along (fun s e hs he => hs.step he) (Orderly.new now) h
  refine ⟨horderly.exactlyOnce, horderly.finishesOwn, ?_, fun rest hrest => ?_⟩
  · refine exists_settled_run work (fun s hs hunsettled => ?_) _ horderly
    obtain ⟨e, he, hchange⟩ := exists_internal hs.running hunsettled
    exact ⟨e, he, hs.step he.2, work_step_lt he.1 hchange⟩
  · exact length_le_measure work (fun s e he => work_step_lt he.1 he.2) hrest

end Schedule

/-! ## A lamp that is switched by its schedule -/

def lampOn : Request where
  zone := "lamp"
  stateReq := some ⟨"lamp", .on⟩
  sceneReq := none
  nonempty := Or.inl rfl
  state_valid := by simp
  scene_valid := by simp

def addLamp (t : Time) : Schedule.Label :=
  .add { origin := .setSchedule "evening" "lamp" } "evening-schedule-lamp-activate" t (some lampOn)

/-- The event fires at 10 and is executed, and the event of the next day is added
after the clean-up. -/
def lampDaily : List Schedule.Label :=
  [addLamp 10, .advance 10, .fire 0, .handOver 0, .execute, .finish, addLamp 20]

theorem lampDaily_careful : Along Schedule.step Schedule.Careful (Schedule.new 0) lampDaily := by
  refine ⟨fun name _ _ r _ _ g j hj => by simp [Schedule.new] at hj, fun _ => trivial,
    fun name j hj _ => by cases hj; rfl, fun _ => trivial, fun _ => trivial, fun _ => trivial,
    fun name _ _ r _ _ g j hj _ => ?_, trivial⟩
  cases g with
  | zero =>
    cases hj
    exact ⟨by decide, by decide, by decide⟩
  | succ => cases hj

theorem lamp_switched_on :
    (run Schedule.step (Schedule.new 0) lampDaily).ExactlyOnce ∧
      (run Schedule.step (Schedule.new 0) lampDaily).executionsOf 0 = [true] :=
  ⟨(Schedule.scheduled_exactly_once 0 lampDaily_careful).1, rfl⟩

/-- The event fires at 10; before `run` gets to it, the next pass adds the next day's. -/
def lampReplaced : List Schedule.Label :=
  [addLamp 10, .advance 10, .fire 0, .handOver 0, addLamp 20, .execute, .finish, .wake 1,
    .advance 10]

/-- The replacement cancels the context of the item `run` holds, and the clean-up deletes the
next day's event. -/
theorem lamp_replaced_while_firing :
    let s := run Schedule.step (Schedule.new 0) lampReplaced
    s.Settled ∧ s.now = 20 ∧ s.executionsOf 0 = [false] ∧ s.executionsOf 1 = [] ∧
      ¬ s.ExactlyOnce ∧ ¬ s.FinishesOwn := by
  have hjobs : (run Schedule.step (Schedule.new 0) lampReplaced).jobs =
      [{ name := "evening-schedule-lamp-activate", t := 10, req := lampOn,
         origin := .setSchedule "evening" "lamp", phase := .handed,
         cause := some (.caller 10) },
       { name := "evening-schedule-lamp-activate", t := 20, req := lampOn,
         origin := .setSchedule "evening" "lamp", phase := .returned,
         cause := some (.finished 0) }] := rfl
  refine ⟨⟨rfl, fun g j hj => ?_⟩, rfl, rfl, rfl, fun honce => ?_, fun hown => ?_⟩
  · rw [hjobs] at hj
    match g with
    | 0 => cases hj; simp
    | 1 => cases hj; simp
    | g + 2 => simp at hj
  · have hfirst := honce 0 _ (by rw [hjobs]; rfl) (by simp [Job.Withdrawn])
    simp only [show (run Schedule.step (Schedule.new 0) lampReplaced).executionsOf 0 = [false]
      from rfl] at hfirst
    simp at hfirst
  · have := hown 1 _ 0 (by rw [hjobs]; rfl) rfl
    cases this

end IotController.Conditioner
