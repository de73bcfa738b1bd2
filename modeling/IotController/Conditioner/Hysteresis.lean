/-
  Paired alerts on one zone.

  The heater pattern: several alert-matched Conditions on one zone, each with a
  concrete state and nothing to do on resolve (low temperature switches on, high
  temperature switches off).  Each Condition has its own cache entry, which
  another Condition's alert makes stale; the drift check undoes exactly those
  suppressions, so the zone always follows the alert that fired last.
-/
import IotController.Conditioner.Alert
import IotController.Conditioner.Suppression

namespace IotController.Conditioner

open Foundation Api Proto Compute

/-- A Condition with one Remediation on `zone`: a concrete state, and no scene, delta, window or
resolve action. -/
structure FollowsAlert (zone : String) (cond : Condition) (rem : Remediation) : Prop where
  remediations : cond.remediations = [rem]
  zone : rem.zone = zone
  state : zoneState rem.activeState ≠ .unspecified
  scene : rem.activeScene = ""
  delta : rem.activeBrightnessDelta = 0
  intervals : rem.timeIntervals = []
  inactiveState : rem.inactiveState = ""
  inactiveScene : rem.inactiveScene = ""

def firedState (conditions : List Condition) (req : AlertRequest) : Option ZoneState :=
  if req.status = alertStatusFiring then
    (conditions.find? (matchCondition req.labels)).bind fun c =>
      c.remediations.head?.map fun rem => zoneState rem.activeState
  else none

def lastFired (conditions : List Condition) (reqs : List AlertRequest) : Option ZoneState :=
  reqs.foldl (fun last req => (firedState conditions req).or last) none

/-! ## One alert -/

theorem alertCondition_foldl_filter (env : Env) (req : AlertRequest) :
    ∀ (conditions : List Condition) (s : World),
      conditions.foldl (alertCondition env req) s =
        (conditions.filter (matchCondition req.labels)).foldl
          (fun s c => c.remediations.foldl (alertRemediation env req.status c.name) s) s := by
  intro conditions
  induction conditions with
  | nil => intro s; rfl
  | cons c _ ih =>
    intro s
    cases hmatch : matchCondition req.labels c with
    | true => simp only [List.foldl_cons, alertCondition, hmatch, if_true, List.filter_cons, ih]
    | false =>
      simp only [List.foldl_cons, alertCondition, hmatch, Bool.false_eq_true, if_false,
        List.filter_cons, ih]

section Step

variable {env : Env} {zone : String} {cond : Condition} {rem : Remediation}

theorem FollowsAlert.alertRemediation_firing (h : FollowsAlert zone cond rem)
    (hmanaged : isReconcileManaged env zone = false) (s : World) :
    ∃ req, req.zone = zone ∧ req.stateReq = some ⟨zone, zoneState rem.activeState⟩ ∧
      alertRemediation env alertStatusFiring cond.name s rem =
        (applyDesired env cond.name zone (some req) s).2 := by
  obtain ⟨req, hreq, hname, hstate⟩ := Request.build_of_state rem.zone rem.activeScene h.state
  have hreq : activateRequest rem = some req := hreq
  have hactivate : activateRemediationFromSource env cond.name rem .alert s =
      applyDesired env cond.name rem.zone (some req) s := by
    simp only [activateRemediationFromSource, h.intervals, if_true]
    rw [activateInWindow_of_concrete (h.zone ▸ hmanaged) h.delta h.state, hreq]
  rw [h.zone] at hname hstate hactivate
  refine ⟨req, hname, hstate, ?_⟩
  simp only [alertRemediation, if_true, alertFiring, h.intervals, alertActivate, hactivate]
  generalize applyDesired env cond.name zone (some req) s = result
  obtain ⟨_ | e, t⟩ := result <;> rfl

theorem FollowsAlert.alertRemediation_resolved (h : FollowsAlert zone cond rem)
    (hmanaged : isReconcileManaged env zone = false) (s : World) :
    alertRemediation env alertStatusResolved cond.name s rem =
      untrackAlertActive cond.name rem s := by
  have hne : alertStatusResolved ≠ alertStatusFiring := by decide
  have hnone : deactivateRequest rem = none :=
    deactivateRequest_eq_none h.inactiveState h.inactiveScene
  have hmanaged : isReconcileManaged env rem.zone = false := h.zone ▸ hmanaged
  simp only [alertRemediation, hne, if_false, if_true, alertResolved,
    deactivateRemediationFromSource, hmanaged, Bool.false_eq_true, hnone, applyDesired]

/-- The invariant of a run of alerts. -/
structure AlertsInv (env : Env) (zone : String) (s : World) : Prop where
  cache : CacheInv env zone s
  succeeded_log : succeeded s.log = s.log

theorem succeeded_applyDesired (hok : ∀ n c, env.rpc n c = .ok) (condName : String) (req : Request)
    {s : World} (h : succeeded s.log = s.log) :
    succeeded (applyDesired env condName req.zone (some req) s).2.log =
      (applyDesired env condName req.zone (some req) s).2.log := by
  by_cases hverdict : cacheVerdict env condName req.zone req (env.clock s.tick) s.next = .suppress
  · simp only [applyDesired, hverdict]
    exact h
  · rw [(applyDesired_sent hok hverdict).2.1, succeeded_sent, h]

theorem AlertsInv.firing (hok : ∀ n c, env.rpc n c = .ok) (hclock : Monotone env.clock)
    (hgrace : env.cfg.oobGracePeriod = 0) (hmanaged : isReconcileManaged env zone = false)
    (hstatus : ∀ n log st, lastSetState zone log = some st →
      env.zoneStatus n log zone = some st.name)
    (hshape : FollowsAlert zone cond rem) {s : World} (h : AlertsInv env zone s) :
    AlertsInv env zone (alertRemediation env alertStatusFiring cond.name s rem) ∧
      lastSetState zone (alertRemediation env alertStatusFiring cond.name s rem).log =
        some (zoneState rem.activeState) := by
  obtain ⟨req, rfl, hstate, hstep⟩ := hshape.alertRemediation_firing hmanaged s
  rw [hstep]
  have hlast := h.cache.lastSetState_applyDesired hok hgrace
    cond.name trivial fun n st hst => hstatus n _ st (h.succeeded_log ▸ hst)
  have hlog := succeeded_applyDesired hok cond.name req h.succeeded_log
  rw [hlog, hstate] at hlast
  exact ⟨⟨h.cache.applyDesired hclock fun _ _ _ => rfl, hlog⟩, hlast⟩

theorem AlertsInv.not_firing (hmanaged : isReconcileManaged env zone = false)
    (hshape : FollowsAlert zone cond rem) {status : String} (hstatus : status ≠ alertStatusFiring)
    {s : World} (h : AlertsInv env zone s) :
    AlertsInv env zone (alertRemediation env status cond.name s rem) ∧
      (alertRemediation env status cond.name s rem).log = s.log := by
  by_cases hresolved : status = alertStatusResolved
  · rw [hresolved, hshape.alertRemediation_resolved hmanaged]
    exact ⟨⟨h.cache.of_fewer (le_refl _) (fun _ _ _ h => h) rfl, h.succeeded_log⟩, rfl⟩
  · have hskip : alertRemediation env status cond.name s rem = s := by
      simp only [alertRemediation, hstatus, if_false, hresolved]
    rw [hskip]
    exact ⟨h, rfl⟩

theorem alertStep_of_only {conditions : List Condition}
    (hshape : ∀ c ∈ conditions, ∃ rem, FollowsAlert zone c rem) {req : AlertRequest}
    (honly : ∃ c, conditions.filter (matchCondition req.labels) = [c]) (s : World) :
    ∃ c rem, FollowsAlert zone c rem ∧
      conditions.find? (matchCondition req.labels) = some c ∧
      alertStep env s (.alert (.ok conditions) req) =
        alertRemediation env req.status c.name s rem := by
  obtain ⟨c, hc⟩ := honly
  have hmem : c ∈ conditions := (List.mem_filter.mp (hc ▸ List.mem_singleton_self c)).1
  obtain ⟨rem, hrem⟩ := hshape c hmem
  refine ⟨c, rem, hrem, by rw [← List.head?_filter, hc]; rfl, ?_⟩
  simp only [alertStep, alert, alertCondition_foldl_filter, hc, List.foldl_cons, List.foldl_nil,
    hrem.remediations]

end Step

/-- **Hysteresis.**  For any number of such Conditions on a zone whose status reads back the
last SetState, and alerts that each match one of them, the last SetState is the state of the
Condition that fired last, and a resolved alert sends nothing. -/
theorem alerts_follow_last_fired (env : Env) (hok : ∀ n c, env.rpc n c = .ok)
    (hclock : Monotone env.clock) (hgrace : env.cfg.oobGracePeriod = 0) (zone : String)
    (hmanaged : isReconcileManaged env zone = false)
    (hstatus : ∀ n log st, lastSetState zone log = some st →
      env.zoneStatus n log zone = some st.name)
    (conditions : List Condition) (hshape : ∀ c ∈ conditions, ∃ rem, FollowsAlert zone c rem)
    (reqs : List AlertRequest)
    (hmatch : ∀ req ∈ reqs, ∃ c, conditions.filter (matchCondition req.labels) = [c]) :
    let s := run (alertStep env) World.initial (reqs.map fun req => .alert (.ok conditions) req)
    lastSetState zone s.log = lastFired conditions reqs ∧
      ∀ req, req.status = alertStatusResolved →
        (∃ c, conditions.filter (matchCondition req.labels) = [c]) →
          (alertStep env s (.alert (.ok conditions) req)).log = s.log := by
  intro s
  have hinv : AlertsInv env zone s ∧ lastSetState zone s.log = lastFired conditions reqs := by
    simp only [s]
    clear_value s
    induction reqs using List.reverseRecOn with
    | nil => exact ⟨⟨.initial _ env zone, rfl⟩, rfl⟩
    | append_singleton reqs req ih =>
      obtain ⟨h, hlast⟩ := ih fun r hr => hmatch r (List.mem_append_left _ hr)
      rw [List.map_append, run_append]
      simp only [List.map_cons, List.map_nil, run_cons, run_nil, lastFired, List.foldl_append,
        List.foldl_cons, List.foldl_nil]
      generalize run (alertStep env) World.initial
        (reqs.map fun req => .alert (.ok conditions) req) = t at h hlast ⊢
      obtain ⟨c, rem, hrem, hfind, hstep⟩ := alertStep_of_only hshape (hmatch req (by simp)) t
      rw [hstep]
      by_cases hfiring : req.status = alertStatusFiring
      · have hfired : firedState conditions req = some (zoneState rem.activeState) := by
          simp [firedState, hfiring, hfind, hrem.remediations]
        rw [hfired, hfiring]
        exact h.firing hok hclock hgrace hmanaged hstatus hrem
      · have hnone : firedState conditions req = none := if_neg hfiring
        obtain ⟨hkept, hlog⟩ := h.not_firing hmanaged hrem hfiring
        rw [hnone, Option.none_or, hlog]
        exact ⟨hkept, hlast⟩
  refine ⟨hinv.2, fun req hresolved honly => ?_⟩
  obtain ⟨c, rem, hrem, -, hstep⟩ := alertStep_of_only hshape honly s
  have hne : req.status ≠ alertStatusFiring := by
    rw [hresolved]
    decide
  rw [hstep]
  exact (hinv.1.not_firing hmanaged hrem hne).2

/-! ### A heater with two thresholds -/

def thresholdCondition (name alertname state : String) (hname : '/' ∉ name.toList) :
    Condition where
  name := name
  name_valid := hname
  enabled := true
  remediations := [{ zone := "tent", activeState := state }]
  «matches» := [{ labels := AList.singleton "alertname" alertname }]

def thresholds : List Condition :=
  [thresholdCondition "tent-low" "lowTemp" "on" (by decide),
    thresholdCondition "tent-high" "highTemp" "off" (by decide)]

def temperatureAlert (name status : String) : AlertRequest :=
  { name := name, status := status, zone := "tent" }

def tentEnv : Env :=
  { deskEnv (fun _ _ => .ok) with
    zoneStatus := fun _ log zone => (lastSetState zone log).map ZoneState.name }

/-- Low, high and again low fire: the second low alert sees the drift and switches the heater
on. -/
theorem tent_follows_last_fired :
    let reqs := [temperatureAlert "lowTemp" "firing", temperatureAlert "highTemp" "firing",
      temperatureAlert "lowTemp" "resolved", temperatureAlert "lowTemp" "firing"]
    lastFired thresholds reqs = some .on ∧
      lastSetState "tent" (run (alertStep tentEnv) World.initial
        (reqs.map fun req => .alert (.ok thresholds) req)).log = lastFired thresholds reqs := by
  refine ⟨by decide, ?_⟩
  refine (alerts_follow_last_fired tentEnv (fun _ _ => rfl) (deskEnv_clock fun _ _ => .ok) rfl "tent"
    (by decide) ?_ thresholds ?_ _ ?_).1
  · intro n log st hst
    simp [tentEnv, hst]
  · intro c hc
    simp only [thresholds, List.mem_cons, List.not_mem_nil, or_false] at hc
    rcases hc with rfl | rfl <;> exact ⟨_, rfl, rfl, by decide, rfl, rfl, rfl, rfl, rfl⟩
  · intro req hreq
    simp only [List.mem_cons, List.not_mem_nil, or_false] at hreq
    rcases hreq with rfl | rfl | rfl | rfl
    · exact ⟨_, rfl⟩
    · exact ⟨_, rfl⟩
    · exact ⟨_, rfl⟩
    · exact ⟨_, rfl⟩

end IotController.Conditioner
