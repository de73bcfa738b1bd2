/-
  Several Remediations of one Condition on one
  zone.

  A Condition may express time-of-day behaviour by several Remediations on one zone with
  different windows.  The Alert loop handles them in declared order, and both the tracking
  map and the cache are keyed by (Condition, zone) alone, so each sibling outside its window
  deletes the entry of the sibling inside.
-/
import IotController.Conditioner.WindowSafety

namespace IotController.Conditioner

open Foundation Api Proto Compute

/-- `applyDesired` would drop the activation of `rem` although the last SetState is another
one. -/
def StaleSuppression (env : Env) (condName : String) (rem : Remediation) (s : World) : Prop :=
  ∃ req, activateRequest rem = some req ∧
    cacheVerdict env condName rem.zone req (env.clock s.tick) s.next = .suppress ∧
    lastSetState rem.zone s.log ≠ some (zoneState rem.activeState)

variable {env : Env} {rem : Remediation}

theorem not_staleSuppression {condName : String} {s : World}
    (hstate : zoneState rem.activeState ≠ .unspecified) (h : CacheCoherent condName rem.zone s) :
    ¬ StaleSuppression env condName rem s := by
  rintro ⟨req, hreq, hverdict, hlast⟩
  obtain ⟨prev, hprev, hsame, -, -⟩ := cacheVerdict_suppress hverdict
  obtain ⟨req', hreq', -, hstateReq⟩ := Request.build_of_state rem.zone rem.activeScene hstate
  have hvalue : prev.state = zoneState rem.activeState := by
    rw [hsame, ← Option.some.inj (hreq'.symm.trans hreq)]
    exact Request.desiredState_of_stateReq hstateReq
  exact hlast (hvalue ▸ h prev hprev (hvalue ▸ hstate))

section Sibling

variable {env : Env} {rem : Remediation} {s : World}

theorem alertRemediation_outside (hintervals : rem.timeIntervals ≠ [])
    (hout : withinActiveWindow env rem (env.clock s.tick) = false) (condName : String) :
    (alertRemediation env alertStatusFiring condName s rem).alertActive.lookup
      (alertActiveKey condName rem.zone) = none := by
  simp only [alertRemediation, if_true, alertFiring, hintervals, if_false, hout,
    Bool.false_eq_true, (forceDeactivate_frame _ _ _ _ _).2, untrackAlertActive, AList.lookup_erase]

theorem alertRemediation_inside (hok : ∀ n c, env.rpc n c = .ok)
    (hzone : isReconcileManaged env rem.zone = false) (hintervals : rem.timeIntervals ≠ [])
    (hdelta : rem.activeBrightnessDelta = 0)
    (hstate : zoneState rem.activeState ≠ .unspecified)
    (hin : withinActiveWindow env rem (env.clock s.tick) = true)
    (hin' : withinActiveWindow env rem (env.clock (s.tick + 1)) = true) (condName : String) :
    (alertRemediation env alertStatusFiring condName s rem).alertActive.lookup
        (alertActiveKey condName rem.zone) = some rem ∧
      (lastSetState rem.zone (alertRemediation env alertStatusFiring condName s rem).log =
          some (zoneState rem.activeState) ↔
        ¬ StaleSuppression env condName rem s.next.next) := by
  obtain ⟨req, hreq, hname, hstateReq⟩ := Request.build_of_state rem.zone rem.activeScene hstate
  have hreq : activateRequest rem = some req := hreq
  have hactivate : activateRemediationFromSource env condName rem .alert s.next =
      applyDesired env condName rem.zone (some req) s.next.next := by
    have hin'' : withinActiveWindow env rem (env.clock s.next.tick) = true := hin'
    simp only [activateRemediationFromSource, hintervals, if_false, hin'', if_true,
      activateInWindow_of_concrete hzone hdelta hstate, hreq]
  simp only [alertRemediation, if_true, alertFiring, hintervals, if_false, hin, alertActivate,
    hactivate]
  by_cases hverdict : cacheVerdict env condName rem.zone req (env.clock s.next.next.tick)
      s.next.next.next = .suppress
  · simp only [applyDesired, hverdict]
    refine ⟨AList.lookup_insert _, ?_⟩
    show lastSetState rem.zone s.log = _ ↔ _
    constructor
    · rintro hlast ⟨req', -, -, hne⟩
      exact hne hlast
    · intro hfresh
      by_contra hne
      exact hfresh ⟨req, hreq, hverdict, hne⟩
  · obtain ⟨herror, hlog, -⟩ := applyDesired_sent hok hverdict
    revert herror hlog
    generalize applyDesired env condName rem.zone (some req) s.next.next = result
    obtain ⟨e, t⟩ := result
    rintro rfl hlog
    refine ⟨AList.lookup_insert _, ?_⟩
    have hlast : lastSetState rem.zone t.log = some (zoneState rem.activeState) := by
      have hsent := lastSetState_sent req s.next.next.log
      rw [hname, ← hlog, hstateReq] at hsent
      exact hsent
    refine ⟨fun _ => ?_, fun _ => hlast⟩
    rintro ⟨req', hreq', hsuppress, -⟩
    rw [Option.some.inj (hreq.symm.trans hreq')] at hverdict
    exact hverdict hsuppress

end Sibling

/-! ## The whole Alert -/

/-- Remediations of one Condition on one zone, of which exactly `rem` has the
time `now` in its window. -/
structure TimeOfDaySiblings (env : Env) (cond : Condition) (before : List Remediation)
    (rem : Remediation) (after : List Remediation) (now : Time) : Prop where
  remediations : cond.remediations = before ++ rem :: after
  zone : ∀ q ∈ cond.remediations, q.zone = rem.zone
  not_managed : isReconcileManaged env rem.zone = false
  intervals : ∀ q ∈ cond.remediations, q.timeIntervals ≠ []
  inside : withinActiveWindow env rem now = true
  outside : ∀ q ∈ before ++ after, withinActiveWindow env q now = false
  state : zoneState rem.activeState ≠ .unspecified
  delta : rem.activeBrightnessDelta = 0

theorem forceDeactivate_coherent (hok : ∀ n c, env.rpc n c = .ok)
    (hzone : isReconcileManaged env rem.zone = false) {condName : String} {s : World}
    (h : CacheCoherent condName rem.zone s) (src : SourceKind) :
    CacheCoherent condName rem.zone (forceDeactivateFromSource env condName rem src s).2 := by
  rw [forceDeactivate_of_not_managed hzone]
  cases hreq : forceRequest rem with
  | none => exact h
  | some req =>
    have hname : req.zone = rem.zone := zone_of_forceRequest hreq
    rw [← hname] at h ⊢
    exact (applyDesired_coherent hok h).2.1

theorem TimeOfDaySiblings.not_stale (hok : ∀ n c, env.rpc n c = .ok) {cond : Condition}
    {before after : List Remediation} {now : Time}
    (hsiblings : TimeOfDaySiblings env cond before rem after now) {start : World}
    (hclock : ∀ n, start.tick ≤ n → env.clock n = now) (h : CacheCoherent cond.name rem.zone start) :
    ¬ StaleSuppression env cond.name rem
      (before.foldl (alertRemediation env alertStatusFiring cond.name) start).next.next := by
  refine not_staleSuppression hsiblings.state ?_
  let kept : World → Prop := fun t => start.tick ≤ t.tick ∧ CacheCoherent cond.name rem.zone t
  have hkept : kept (run (alertRemediation env alertStatusFiring cond.name) start before) := by
    refine run_invariant_of_mem ?_ ⟨le_refl start.tick, h⟩
    rintro t q hq ⟨htick, hcoherent⟩
    have hmem : q ∈ cond.remediations := by simp [hsiblings.remediations, hq]
    have hzone := hsiblings.zone q hmem
    have hout : withinActiveWindow env q (env.clock t.tick) = false := by
      rw [hclock _ htick]
      exact hsiblings.outside q (List.mem_append_left _ hq)
    refine ⟨le_trans htick (alertRemediation_frame env alertStatusFiring cond.name t q).tick, ?_⟩
    simp only [alertRemediation, if_true, alertFiring, hsiblings.intervals q hmem, if_false, hout,
      Bool.false_eq_true]
    rw [← hzone] at hcoherent ⊢
    exact forceDeactivate_coherent (s := untrackAlertActive cond.name q t.next) hok
      (hzone ▸ hsiblings.not_managed) hcoherent .alert
  exact hkept.2

theorem alertRemediation_foldl_tick (env : Env) (status condName : String)
    (rems : List Remediation) (s : World) :
    s.tick ≤ (rems.foldl (alertRemediation env status condName) s).tick := by
  let grown : World → Prop := fun t => s.tick ≤ t.tick
  show grown (run (alertRemediation env status condName) s rems)
  have hstep : ∀ t r, grown t → grown (alertRemediation env status condName t r) :=
    fun t r ht => le_trans ht (alertRemediation_frame env status condName t r).tick
  exact run_invariant hstep (le_refl s.tick) rems

theorem alertCondition_foldl_other {req : AlertRequest} {conditions : List Condition}
    {zone condName : String} (hname : '/' ∉ condName.toList)
    (hothers : ∀ c ∈ conditions, ∀ q ∈ c.remediations, q.zone ≠ zone) (s : World) :
    s.tick ≤ (conditions.foldl (alertCondition env req) s).tick ∧
      lastSetState zone (conditions.foldl (alertCondition env req) s).log =
        lastSetState zone s.log ∧
      (conditions.foldl (alertCondition env req) s).alertActive.lookup
          (alertActiveKey condName zone) =
        s.alertActive.lookup (alertActiveKey condName zone) ∧
      (CacheCoherent condName zone s →
        CacheCoherent condName zone (conditions.foldl (alertCondition env req) s)) := by
  let unchanged : World → Prop := fun t => s.tick ≤ t.tick ∧
    lastSetState zone t.log = lastSetState zone s.log ∧
    t.alertActive.lookup (alertActiveKey condName zone) =
      s.alertActive.lookup (alertActiveKey condName zone) ∧
    (CacheCoherent condName zone s → CacheCoherent condName zone t)
  show unchanged (alert env (.ok conditions) req s).2
  refine alert_invariant ?_ ⟨le_refl _, rfl, rfl, id⟩
  rintro _ hlist c hc - q hq t ⟨htick, hlast, hentry, hcoherent⟩
  cases hlist
  have hzone : q.zone ≠ zone := hothers c hc q hq
  have hframe := alertRemediation_frame env req.status c.name t q
  exact ⟨le_trans htick hframe.tick, (hframe.lastSetState_eq (Ne.symm hzone)).trans hlast,
    (hframe.alertActive _ (alertActiveKey_ne hname c.name_valid hzone)).trans hentry,
    fun h => (hcoherent h).of_frame hname c.name_valid hzone hframe⟩

/-- The sibling inside its window takes effect if it is the last one and the cache does not drop
it. -/
theorem TimeOfDaySiblings.handled_iff (hok : ∀ n c, env.rpc n c = .ok) {cond : Condition}
    {before after : List Remediation} {now : Time}
    (hsiblings : TimeOfDaySiblings env cond before rem after now) {start : World}
    (hclock : ∀ n, start.tick ≤ n → env.clock n = now) :
    let reached := before.foldl (alertRemediation env alertStatusFiring cond.name) start
    let handled := (rem :: after).foldl (alertRemediation env alertStatusFiring cond.name) reached
    (lastSetState rem.zone handled.log = some (zoneState rem.activeState) ∧
        handled.alertActive.lookup (alertActiveKey cond.name rem.zone) = some rem) ↔
      after = [] ∧ ¬ StaleSuppression env cond.name rem reached.next.next := by
  intro reached handled
  have hreached : start.tick ≤ reached.tick :=
    alertRemediation_foldl_tick env alertStatusFiring cond.name before start
  rcases List.eq_nil_or_concat after with hnil | ⟨init, q, hlast⟩
  · -- declared last: its own step decides
    subst hnil
    have hrem : rem ∈ cond.remediations := by simp [hsiblings.remediations]
    have hin : ∀ n, start.tick ≤ n → withinActiveWindow env rem (env.clock n) = true :=
      fun n hn => by
        rw [hclock n hn]
        exact hsiblings.inside
    have hown := alertRemediation_inside hok hsiblings.not_managed
      (hsiblings.intervals rem hrem) hsiblings.delta hsiblings.state
      (hin _ hreached) (hin _ (Nat.le_succ_of_le hreached))
    simp only [handled, List.foldl_cons, List.foldl_nil, true_and]
    rw [(hown cond.name).1]
    simpa using (hown cond.name).2
  · -- a later sibling, outside its window, deletes the entry
    have hq : q ∈ before ++ after := by simp [hlast]
    have hq' : q ∈ cond.remediations := by simp [hsiblings.remediations, hlast]
    have hsplit : rem :: after = (rem :: init) ++ [q] := by simp [hlast]
    have hnone : handled.alertActive.lookup (alertActiveKey cond.name rem.zone) = none := by
      simp only [handled, hsplit]
      rw [List.foldl_append, List.foldl_cons, List.foldl_nil, ← hsiblings.zone q hq']
      refine alertRemediation_outside (hsiblings.intervals q hq') ?_ cond.name
      rw [hclock]
      · exact hsiblings.outside q hq
      · exact le_trans hreached
          (alertRemediation_foldl_tick env alertStatusFiring cond.name (rem :: init) reached)
    constructor
    · rintro ⟨-, htracked⟩
      rw [hnone] at htracked
      cases htracked
    · rintro ⟨hnil, -⟩
      rw [hnil] at hlast
      simp at hlast

/-- **Siblings under an alert.**  A firing alert at a time in the window of exactly one
Remediation leaves the zone in its state, and the Remediation tracked, exactly when it is
declared last and the cache does not drop its activation against a zone in another state.  While
no other writer has moved the zone, the order alone decides. -/
theorem alert_siblings_iff (env : Env) (hok : ∀ n c, env.rpc n c = .ok) (cond : Condition)
    (before after : List Remediation) (rem : Remediation) (now : Time)
    (hsiblings : TimeOfDaySiblings env cond before rem after now)
    (req : AlertRequest) (hstatus : req.status = alertStatusFiring)
    (hmatch : matchCondition req.labels cond = true)
    (earlier later : List Condition)
    (hothers : ∀ c ∈ earlier ++ later, ∀ q ∈ c.remediations, q.zone ≠ rem.zone)
    (s : World) (hclock : ∀ n, s.tick ≤ n → env.clock n = now) :
    let start := earlier.foldl (alertCondition env req) s
    let reached := before.foldl (alertRemediation env req.status cond.name) start
    let final := (alert env (.ok (earlier ++ cond :: later)) req s).2
    let took := lastSetState rem.zone final.log = some (zoneState rem.activeState) ∧
      final.alertActive.lookup (alertActiveKey cond.name rem.zone) = some rem
    (took ↔ after = [] ∧ ¬ StaleSuppression env cond.name rem reached.next.next) ∧
      (CacheCoherent cond.name rem.zone s → (took ↔ after = [])) := by
  intro start reached final took
  obtain ⟨hstart, -, -, hcoherent⟩ := alertCondition_foldl_other
    cond.name_valid (fun c hc => hothers c (List.mem_append_left _ hc)) s
  have hclock' : ∀ n, start.tick ≤ n → env.clock n = now := fun n hn =>
    hclock n (le_trans hstart hn)
  let handled := (rem :: after).foldl (alertRemediation env req.status cond.name) reached
  -- the Conditions after this one change neither side
  have hfinal : lastSetState rem.zone final.log = lastSetState rem.zone handled.log ∧
      final.alertActive.lookup (alertActiveKey cond.name rem.zone) =
        handled.alertActive.lookup (alertActiveKey cond.name rem.zone) := by
    have heq : final = later.foldl (alertCondition env req) handled := by
      simp only [final, alert, List.foldl_append, List.foldl_cons, handled, reached, start]
      rw [alertCondition, if_pos hmatch, hsiblings.remediations, List.foldl_append, List.foldl_cons]
    obtain ⟨-, hlast, hentry, -⟩ := alertCondition_foldl_other
      cond.name_valid (fun c hc => hothers c (List.mem_append_right _ hc)) handled
    rw [heq]
    exact ⟨hlast, hentry⟩
  have hiff : took ↔ after = [] ∧ ¬ StaleSuppression env cond.name rem reached.next.next := by
    simp only [took, hfinal.1, hfinal.2, handled, reached, hstatus]
    exact hsiblings.handled_iff hok hclock'
  refine ⟨hiff, fun h => hiff.trans (and_iff_left ?_)⟩
  simp only [reached, hstatus]
  exact hsiblings.not_stale hok hclock' (hcoherent h)

/-! ### A porch light -/

def dayRemediation : Remediation where
  zone := "porch"
  activeState := "on"
  timeIntervals := [{ times := [⟨"06:00", "18:00"⟩] }]

def nightRemediation : Remediation where
  zone := "porch"
  activeState := "color"
  timeIntervals := [{ times := [⟨"18:00", "24:00"⟩] }]

def porchCondition (rems : List Remediation) : Condition where
  name := "porch-motion"
  name_valid := by decide
  enabled := true
  remediations := rems
  «matches» := [{ labels := AList.singleton "alertname" "motion" }]

/-- The day's window lasts up to time 100, the night's begins then; the clock
stands at 50. -/
def porchEnv : Env :=
  { heaterEnv with
    asPrometheus := fun ti => some fun t =>
      if ti.times = [⟨"06:00", "18:00"⟩] then t ≤ 100 else 100 < t }

def motionAlert : AlertRequest := { name := "motion", status := "firing", zone := "porch" }

theorem porch_siblings (before after : List Remediation)
    (hbefore : before = [nightRemediation] ∧ after = [] ∨
      before = [] ∧ after = [nightRemediation]) :
    TimeOfDaySiblings porchEnv (porchCondition (before ++ dayRemediation :: after)) before
      dayRemediation after 50 := by
  rcases hbefore with ⟨rfl, rfl⟩ | ⟨rfl, rfl⟩ <;>
    exact ⟨rfl, by simp [porchCondition, dayRemediation, nightRemediation], by decide,
      by simp [porchCondition, dayRemediation, nightRemediation], by decide,
      by simpa using (by decide : withinActiveWindow porchEnv nightRemediation 50 = false),
      by decide, rfl⟩

/-- Declared last, the day's Remediation takes effect. -/
theorem porch_day_last :
    let final := (alert porchEnv (.ok [porchCondition [nightRemediation, dayRemediation]])
      motionAlert World.initial).2
    lastSetState "porch" final.log = some .on ∧
      final.alertActive.lookup "porch-motion/porch" = some dayRemediation :=
  ((alert_siblings_iff porchEnv (fun _ _ => rfl)
    (porchCondition [nightRemediation, dayRemediation]) [nightRemediation] [] dayRemediation 50
    (porch_siblings _ _ (Or.inl ⟨rfl, rfl⟩)) motionAlert rfl (by decide) [] [] (by simp)
    World.initial (fun _ _ => rfl)).2 (CacheCoherent.initial "porch-motion" "porch")).mpr rfl

/-- Declared first, it is undone by its sibling: the zone ends off and nothing is
tracked. -/
theorem porch_day_first :
    let final := (alert porchEnv (.ok [porchCondition [dayRemediation, nightRemediation]])
      motionAlert World.initial).2
    TimeOfDaySiblings porchEnv (porchCondition [dayRemediation, nightRemediation]) []
        dayRemediation [nightRemediation] 50 ∧
      (∀ n c, porchEnv.rpc n c = .ok) ∧ (∀ n, porchEnv.clock n = 50) ∧
      matchCondition motionAlert.labels (porchCondition [dayRemediation, nightRemediation]) = true ∧
      lastSetState "porch" final.log = some .off ∧
      final.alertActive.lookup "porch-motion/porch" = none :=
  ⟨porch_siblings _ _ (Or.inr ⟨rfl, rfl⟩), fun _ _ => rfl, fun _ => rfl, by decide, by decide, rfl⟩

end IotController.Conditioner
