/-
  The cron path (`setSchedule` and `runTimer` of
  `modules/conditioner/conditioner.go`).

  A pass of the timer calls `setSchedule` for every listed Condition.  An active Condition
  adds one event for each of its Remediations, under a name made of the Condition and the
  zone; an inactive one removes the event that bears the Condition's own name, and there is
  none.  A Condition or a Remediation that is gone from the list is not looked at.
-/
import IotController.Conditioner.ScheduleCalls

namespace IotController.Conditioner

open Foundation Api Proto Compute

/-- `cronexpr.Parse` followed by `Next`; `none` when parsing fails. -/
abbrev Cron : Type := String → Option (Time → Time)

def scheduleName (cond zone : String) : String :=
  "-".intercalate [cond, "schedule", zone, "activate"]

variable (cron : Cron) (err : Option String)

/-- Add the events of a Condition, or remove one. -/
def setSchedule (cond : Condition) (s : Schedule) : Schedule :=
  if cond.enabled = false then s.remove (.caller s.now) cond.name
  else if cond.schedule = "" then s.remove (.caller s.now) cond.name
  else match cron cond.schedule with
    | none => s
    | some next =>
      let t := next s.now
      if t.isZero then s
      else cond.remediations.foldl (fun s rem =>
        (s.add ⟨err, .setSchedule cond.name rem.zone⟩ (scheduleName cond.name rem.zone) t
          (activateRequest rem)).2) s

def runTimer (list : Option (List Condition)) (s : Schedule) :
    Schedule :=
  match list with
  | none => s
  | some items => items.foldl (fun s cond => setSchedule cron err cond s) s

/-! ## A pass as calls to the schedule -/

def setScheduleOps (now : Time) (cond : Condition) :
    List Schedule.Label :=
  if cond.enabled = false then [.remove cond.name]
  else if cond.schedule = "" then [.remove cond.name]
  else match cron cond.schedule with
    | none => []
    | some next =>
      if (next now).isZero then []
      else cond.remediations.map fun rem =>
        .add ⟨err, .setSchedule cond.name rem.zone⟩ (scheduleName cond.name rem.zone) (next now)
          (activateRequest rem)

def passOps (now : Time) (items : List Condition) :
    List Schedule.Label :=
  items.flatMap (setScheduleOps cron err now)

theorem setScheduleOps_isCall (now : Time) (cond : Condition) :
    ∀ e ∈ setScheduleOps cron err now cond, e.IsCall := by
  intro e he
  unfold setScheduleOps at he
  split at he
  · rw [List.mem_singleton.mp he]; trivial
  · split at he
    · rw [List.mem_singleton.mp he]; trivial
    · split at he
      · cases he
      · split at he
        · cases he
        · obtain ⟨rem, -, rfl⟩ := List.mem_map.mp he
          trivial

theorem passOps_isCall (now : Time) (items : List Condition) :
    ∀ e ∈ passOps cron err now items, e.IsCall := by
  intro e he
  obtain ⟨cond, -, he⟩ := List.mem_flatMap.mp he
  exact setScheduleOps_isCall cron err now cond e he

theorem setSchedule_eq_run (cond : Condition) (s : Schedule) :
    setSchedule cron err cond s = run Schedule.step s (setScheduleOps cron err s.now cond) := by
  unfold setSchedule setScheduleOps
  split
  · rfl
  · split
    · rfl
    · split
      · rfl
      · dsimp only
        split
        · rfl
        · rw [run, List.foldl_map]
          rfl

theorem runTimer_eq_run (items : List Condition) (s : Schedule) :
    runTimer cron err (some items) s = run Schedule.step s (passOps cron err s.now items) := by
  show items.foldl (fun s cond => setSchedule cron err cond s) s = _
  induction items generalizing s with
  | nil => rfl
  | cons cond _ ih =>
    rw [List.foldl_cons, ih, setSchedule_eq_run,
      Schedule.run_now_of_isCall (setScheduleOps_isCall cron err s.now cond), passOps, passOps,
      List.flatMap_cons, run_append]

/-- The Condition is not in the list, is disabled, or has lost its schedule or the Remediation
with the request. -/
def Dropped (cond : String) (req : Request) (items : List Condition) : Prop :=
  ∀ c ∈ items, c.name = cond → c.enabled = true → c.schedule ≠ "" →
    ∀ rem ∈ c.remediations, activateRequest rem ≠ some req

/-- No event of a dropped Condition or Remediation is in the schedule or executes in any run
from here. -/
def Cleaned (items : List Condition) (s : Schedule) : Prop :=
  ∀ (g : Nat) (j : Job) (cond zone : String), s.jobs[g]? = some j →
    j.origin = .setSchedule cond zone → Dropped cond j.req items →
    (∀ name v, s.events.lookup name = some v → v.job ≠ g) ∧
      ∀ events, (run Schedule.step s events).liveExecutions g = s.liveExecutions g

variable {items : List Condition} {p : Condition × Remediation}

theorem not_dropped_of_mem_passOps {cron : Cron} {err : Option String} {now : Time} {ctx : Ctx}
    {name : String} {t : Time} {req : Request}
    (h : .add ctx name t (some req) ∈ passOps cron err now items) :
    ∃ cond zone, ctx.origin = .setSchedule cond zone ∧ ¬ Dropped cond req items := by
  obtain ⟨c, hc, h⟩ := List.mem_flatMap.mp h
  unfold setScheduleOps at h
  split at h
  · cases List.mem_singleton.mp h
  rename_i henabled
  split at h
  · cases List.mem_singleton.mp h
  rename_i hschedule
  split at h
  · cases h
  split at h
  · cases h
  obtain ⟨rem, hrem, heq⟩ := List.mem_map.mp h
  injection heq with hctx _ _ hreq
  refine ⟨c.name, rem.zone, hctx ▸ rfl, fun hdropped => ?_⟩
  exact hdropped c hc rfl (Bool.eq_true_of_not_eq_false henabled) hschedule rem hrem hreq

/-- **Clean-up of the cron path.**  Whatever happened before, a pass cleans up after what it
drops exactly when every event of theirs that is still scheduled bears a name under which the
pass makes a call that ends it. -/
theorem runTimer_cleans_iff (cron : Cron) (err : Option String) (now : Time)
    (events : List Schedule.Label) (items : List Condition) :
    let s := run Schedule.step (Schedule.new now) events
    Cleaned items (runTimer cron err (some items) s) ↔
      ∀ (g : Nat) (j : Job) (cond zone : String), s.jobs[g]? = some j →
        j.origin = .setSchedule cond zone → Dropped cond j.req items → j.cause = none →
        ∃ e ∈ passOps cron err s.now items, e.Ends j := by
  intro s
  have hs : s.Consistent := (Schedule.Consistent.new now).run events
  rw [runTimer_eq_run]
  have hcalls := passOps_isCall cron err s.now items
  have hs' := hs.run (passOps cron err s.now items)
  constructor
  · intro hclean g j cond zone hj horigin hdropped hlive
    obtain ⟨j', hj', hcont⟩ := hs.run_continues (passOps cron err s.now items) hj
    by_contra hnone
    have hlive' : j'.cause = none :=
      (Schedule.run_calls_live_iff hs hj hlive hcalls hj').mpr
        fun e he hends => hnone ⟨e, he, hends⟩
    obtain ⟨v, hv, hg⟩ := hs'.owner hj' hlive'
    exact (hclean g j' cond zone hj' (hcont.2.2.2.1.trans horigin)
      (hcont.2.2.1.symm ▸ hdropped)).1 _ v hv hg
  · intro hends g j' cond zone hj' horigin hdropped
    have hcancelled : j'.cause ≠ none := by
      cases hj : s.jobs[g]? with
      | none =>
        -- an event of this pass belongs to something the list asks for
        obtain ⟨ctx, name, t, hmem, hnew⟩ := Schedule.of_run_new hs hj hj'
        obtain ⟨cond', zone', hctx, hkept⟩ := not_dropped_of_mem_passOps hmem
        rw [hnew, hctx] at horigin
        cases horigin
        exact absurd hdropped hkept
      | some j =>
        obtain ⟨j'', hj'', hcont⟩ := hs.run_continues (passOps cron err s.now items) hj
        obtain rfl := Option.some.inj (hj''.symm.trans hj')
        by_cases hlive : j.cause = none
        · obtain ⟨e, he, hend⟩ :=
            hends g j cond zone hj (hcont.2.2.2.1.symm.trans horigin)
              (hcont.2.2.1 ▸ hdropped) hlive
          intro hlive'
          exact (Schedule.run_calls_live_iff hs hj hlive hcalls hj').mp hlive' e he hend
        · exact hcont.2.2.2.2 hlive ▸ hlive
    refine ⟨fun name v hv hg => ?_, Schedule.liveExecutions_of_cancelled hs' hj' hcancelled⟩
    obtain ⟨j, hj, -, -, -, hlive⟩ := hs'.entry hv
    rw [hg] at hj
    exact hcancelled (Option.some.inj (hj.symm.trans hj') ▸ hlive)

/-! ## A lamp whose Condition is switched off -/

def eveningCondition (enabled : Bool) : Condition where
  name := "evening"
  name_valid := by decide
  enabled := enabled
  remediations := [{ zone := "lamp", activeState := "on" }]
  schedule := "0 19 * * *"

def dueAtTen : Cron := fun _ => some fun _ => 10

def eveningScheduled : Schedule :=
  run Schedule.step (Schedule.new 0) (passOps dueAtTen none 0 [eveningCondition true])

def LampSurvives (items : List Condition) : Prop :=
  Dropped "evening" lampOn items ∧
    ¬ Cleaned items (runTimer dueAtTen none (some items) eveningScheduled) ∧
    (run Schedule.step (runTimer dueAtTen none (some items) eveningScheduled)
      [.advance 10, .fire 0, .handOver 0, .execute]).liveExecutions 0 = 1

theorem lampSurvives_of_unchanged (hdropped : Dropped "evening" lampOn items)
    (hsame : runTimer dueAtTen none (some items) eveningScheduled = eveningScheduled) :
    LampSurvives items := by
  unfold LampSurvives
  rw [hsame]
  refine ⟨hdropped, fun hclean => ?_, rfl⟩
  have hlater := (hclean 0 _ "evening" "lamp" rfl rfl hdropped).2
    [.advance 10, .fire 0, .handOver 0, .execute]
  exact absurd hlater (by decide)

/-- The event outlives a Condition that is disabled or deleted, or loses its schedule or
Remediation. -/
theorem evening_event_survives :
    LampSurvives [eveningCondition false] ∧
      LampSurvives [{ eveningCondition true with schedule := "" }] ∧
      LampSurvives [{ eveningCondition true with remediations := [] }] ∧
      LampSurvives [{ eveningCondition true with
        remediations := [{ zone := "lamp", inactiveState := "off" }] }] ∧ LampSurvives [] := by
  refine ⟨lampSurvives_of_unchanged ?_ rfl, lampSurvives_of_unchanged ?_ rfl,
    lampSurvives_of_unchanged ?_ rfl, lampSurvives_of_unchanged ?_ rfl,
    lampSurvives_of_unchanged ?_ rfl⟩
  all_goals simp [Dropped, eveningCondition]
  nofun

/-! ## One event for each Remediation -/

/-- The Condition is enabled, its schedule has a next time, and each Remediation something to
activate. -/
structure Schedulable (cron : Cron) (now : Time) (cond : Condition) : Prop where
  enabled : cond.enabled = true
  schedule : cond.schedule ≠ ""
  next : ∃ next, cron cond.schedule = some next ∧ (next now).isZero = false
  requests : ∀ rem ∈ cond.remediations, (activateRequest rem).isSome = true

def cronPairs (items : List Condition) : List (Condition × Remediation) :=
  items.flatMap fun cond => cond.remediations.map (Prod.mk cond)

def pairName (p : Condition × Remediation) : String := scheduleName p.1.name p.2.zone

def nextTime (now : Time) (cond : Condition) : Option Time :=
  (cron cond.schedule).map fun next => next now

/-- Under the pair's name there is an event with the Remediation's request at the next time. -/
def HoldsEvent (now : Time) (s : Schedule) (p : Condition × Remediation) : Prop :=
  ∃ v, s.events.lookup (pairName p) = some v ∧ nextTime cron now p.1 = some v.t ∧
    activateRequest p.2 = some v.req

theorem mem_cronPairs : p ∈ cronPairs items ↔ p.1 ∈ items ∧ p.2 ∈ p.1.remediations := by
  obtain ⟨cond, rem⟩ := p
  simp [cronPairs]

theorem Schedulable.asks {cron : Cron} {now : Time}
    (hitems : ∀ cond ∈ items, Schedulable cron now cond) (hp : p ∈ cronPairs items) :
    ∃ t r, nextTime cron now p.1 = some t ∧ activateRequest p.2 = some r := by
  obtain ⟨hcond, hrem⟩ := mem_cronPairs.mp hp
  obtain ⟨next, hnext, -⟩ := (hitems p.1 hcond).next
  obtain ⟨r, hr⟩ := Option.isSome_iff_exists.mp ((hitems p.1 hcond).requests p.2 hrem)
  exact ⟨next now, r, by rw [nextTime, hnext]; rfl, hr⟩

theorem mem_passOps_iff {cron : Cron} {err : Option String} {now : Time}
    (hitems : ∀ cond ∈ items, Schedulable cron now cond) (e : Schedule.Label) :
    e ∈ passOps cron err now items ↔
      ∃ p ∈ cronPairs items, ∃ t, nextTime cron now p.1 = some t ∧
        e = .add ⟨err, .setSchedule p.1.name p.2.zone⟩ (pairName p) t (activateRequest p.2) := by
  have hops : ∀ cond ∈ items, ∀ next, cron cond.schedule = some next →
      setScheduleOps cron err now cond = cond.remediations.map fun rem =>
        .add ⟨err, .setSchedule cond.name rem.zone⟩ (scheduleName cond.name rem.zone) (next now)
          (activateRequest rem) := by
    intro cond hcond next hnext
    obtain ⟨next', hnext', hzero⟩ := (hitems cond hcond).next
    obtain rfl := Option.some.inj (hnext'.symm.trans hnext)
    simp [setScheduleOps, (hitems cond hcond).enabled, (hitems cond hcond).schedule, hnext, hzero]
  simp only [passOps, List.mem_flatMap]
  constructor
  · rintro ⟨cond, hcond, he⟩
    obtain ⟨next, hnext, -⟩ := (hitems cond hcond).next
    rw [hops cond hcond next hnext] at he
    obtain ⟨rem, hrem, rfl⟩ := List.mem_map.mp he
    exact ⟨(cond, rem), mem_cronPairs.mpr ⟨hcond, hrem⟩, next now, by simp [nextTime, hnext], rfl⟩
  · rintro ⟨⟨cond, rem⟩, hp, t, ht, rfl⟩
    obtain ⟨hcond, hrem⟩ := mem_cronPairs.mp hp
    obtain ⟨next, hnext, rfl⟩ := Option.map_eq_some_iff.mp ht
    refine ⟨cond, hcond, ?_⟩
    rw [hops cond hcond next hnext]
    exact List.mem_map.mpr ⟨rem, hrem, rfl⟩

/-- **One event for each Remediation.**  A pass over Conditions that can be scheduled leaves an
event for each Remediation exactly when those with one event name ask for the same request at
the same time. -/
theorem runTimer_holds_iff (cron : Cron) (items : List Condition) (s : Schedule)
    (hitems : ∀ cond ∈ items, Schedulable cron s.now cond) :
    (∀ p ∈ cronPairs items,
        HoldsEvent cron s.now (runTimer cron none (some items) s) p) ↔
      ∀ p ∈ cronPairs items, ∀ q ∈ cronPairs items, pairName p = pairName q →
        nextTime cron s.now p.1 = nextTime cron s.now q.1 ∧
          activateRequest p.2 = activateRequest q.2 := by
  constructor
  · intro hheld p hp q hq hname
    -- one name has one event
    obtain ⟨v, hv, ht, hr⟩ := hheld p hp
    obtain ⟨w, hw, ht', hr'⟩ := hheld q hq
    rw [← hname, hv] at hw
    cases hw
    exact ⟨ht.trans ht'.symm, hr.trans hr'.symm⟩
  · intro hagree p hp
    obtain ⟨t, r, ht, hr⟩ := Schedulable.asks hitems hp
    have hsame : ∀ e ∈ passOps cron none s.now items, e.callName = some (pairName p) →
        ∃ ctx : Ctx, ctx.err = none ∧ e = .add ctx (pairName p) t (some r) := by
      intro e he hname
      obtain ⟨q, hq, t', ht', rfl⟩ := (mem_passOps_iff hitems e).mp he
      have hname' : pairName p = pairName q := (Option.some.inj hname).symm
      obtain ⟨htimes, hreqs⟩ := hagree p hp q hq hname'
      rw [ht, ht'] at htimes
      refine ⟨⟨none, .setSchedule q.1.name q.2.zone⟩, rfl, ?_⟩
      rw [hname', Option.some.inj htimes, ← hreqs, hr]
    have hmem : .add ⟨none, .setSchedule p.1.name p.2.zone⟩ (pairName p) t (activateRequest p.2) ∈
        passOps cron none s.now items := (mem_passOps_iff hitems _).mpr ⟨p, hp, t, ht, rfl⟩
    have hlast : (Schedule.asks (pairName p) (passOps cron none s.now items)).getLast? =
        some (t, r) := by
      have hasked := Schedule.mem_asks_iff.mpr ⟨_, hr ▸ hmem⟩
      obtain ⟨c, hc⟩ := Option.ne_none_iff_exists'.mp
        (mt List.getLast?_eq_none_iff.mp (List.ne_nil_of_mem hasked))
      obtain ⟨ctx, hc'⟩ := Schedule.mem_asks_iff.mp (List.mem_of_getLast? hc)
      obtain ⟨_, -, heq⟩ := hsame _ hc' rfl
      cases heq
      exact hc
    have hscheduled := (Schedule.run_calls_scheduled_iff (passOps_isCall cron none s.now items)
      (fun e he hname => let ⟨ctx, herr, heq⟩ := hsame e he hname; ⟨ctx, t, r, herr, heq⟩) t r
      s).mpr (Or.inl ⟨rfl, hlast⟩)
    rw [← runTimer_eq_run] at hscheduled
    obtain ⟨v, hv, htime, hmatched⟩ := hscheduled
    exact ⟨v, hv, by rw [ht, htime], by rw [hr, Schedule.eq_of_matched hmatched]⟩

def atTen (name : String) (hname : '/' ∉ name.toList) (remediations : List Remediation) :
    Condition where
  name := name
  name_valid := hname
  enabled := true
  remediations := remediations
  schedule := "0 19 * * *"

theorem atTen_schedulable {name : String} {hname : '/' ∉ name.toList}
    {remediations : List Remediation}
    (hrequests : (remediations.all fun rem => (activateRequest rem).isSome) = true) :
    Schedulable dueAtTen 0 (atTen name hname remediations) where
  enabled := rfl
  schedule := by simp [atTen]
  next := ⟨_, rfl, by decide⟩
  requests := List.all_eq_true.mp hrequests

def stateAndScene : List Condition :=
  [atTen "movie" (by decide)
    [{ zone := "lamp", activeState := "on" }, { zone := "lamp", activeScene := "dusk" }]]

def dashedNames : List Condition :=
  [atTen "shed" (by decide) [{ zone := "lamp-schedule-left", activeState := "on" }],
   atTen "shed-schedule-lamp" (by decide) [{ zone := "left", activeState := "off" }]]

def FirstLost (items : List Condition) : Prop :=
  (∀ cond ∈ items, Schedulable dueAtTen 0 cond) ∧
    ∃ p, (cronPairs items).head? = some p ∧
      ∀ name v, (runTimer dueAtTen none (some items) (Schedule.new 0)).events.lookup name = some v →
        activateRequest p.2 ≠ some v.req

theorem firstLost_of_states (hitems : ∀ cond ∈ items, Schedulable dueAtTen 0 cond)
    (hhead : (cronPairs items).head? = some p)
    (hstates : ((runTimer dueAtTen none (some items) (Schedule.new 0)).events.entries.all fun e =>
      (activateRequest p.2).map Request.desiredState ≠
        some (Request.desiredState e.2.req)) = true) :
    FirstLost items := by
  refine ⟨hitems, p, hhead, fun name v hv hsame => ?_⟩
  have hstate := List.all_eq_true.mp hstates ⟨name, v⟩ ((GoMap.lookup_eq_some_iff_mem _ _ _).mp hv)
  simp [hsame] at hstate

/-- The second Remediation's event replaces the first one's, in one Condition and across two. -/
theorem cron_event_overwritten : FirstLost stateAndScene ∧ FirstLost dashedNames := by
  constructor
  · refine firstLost_of_states ?_ rfl (by decide)
    intro cond hcond
    rw [List.mem_singleton.mp hcond]
    exact atTen_schedulable (by decide)
  · refine firstLost_of_states ?_ rfl (by decide)
    intro cond hcond
    rcases List.mem_pair.mp hcond with rfl | rfl <;> exact atTen_schedulable (by decide)

def twoZones : List Condition :=
  [atTen "movie" (by decide)
    [{ zone := "lamp", activeState := "on" }, { zone := "shelf", activeScene := "dusk" }]]

theorem twoZones_schedulable : ∀ cond ∈ twoZones, Schedulable dueAtTen 0 cond := by
  intro cond hcond
  rw [List.mem_singleton.mp hcond]
  exact atTen_schedulable (by decide)

theorem cron_events_held :
    (cronPairs twoZones).length = 2 ∧ ∀ p ∈ cronPairs twoZones,
      HoldsEvent dueAtTen 0 (runTimer dueAtTen none (some twoZones) (Schedule.new 0)) p := by
  refine ⟨rfl, (runTimer_holds_iff dueAtTen twoZones (Schedule.new 0) twoZones_schedulable).mpr ?_⟩
  intro p hp q hq hname
  rcases List.mem_pair.mp hp with rfl | rfl <;> rcases List.mem_pair.mp hq with rfl | rfl
  · exact ⟨rfl, rfl⟩
  · exact absurd hname (by decide)
  · exact absurd hname (by decide)
  · exact ⟨rfl, rfl⟩

end IotController.Conditioner
