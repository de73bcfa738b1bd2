/-
  What the window check guarantees.

  The contract of the alert path: a Remediation that an alert switched on does not outlive
  its window.  The tracking entry is the only thing that can switch the zone off when no
  further alert arrives, so the whole argument is about when that entry exists.

  A resolved alert deletes the entry and sends nothing, and nothing is left to close the
  window.
-/
import IotController.Conditioner.Alert

namespace IotController.Conditioner

open Foundation Api Proto Compute

/-! ## The setting -/

/-- A Condition with one windowed Remediation that drives an unmanaged zone on, without an
inactive state. -/
structure DrivesInWindow (env : Env) (cond : Condition) (rem : Remediation) : Prop where
  remediations : cond.remediations = [rem]
  not_managed : isReconcileManaged env rem.zone = false
  intervals : rem.timeIntervals ≠ []
  drives : zoneState rem.activeState ∈ [ZoneState.on, .color, .randomcolor, .offtimer]
  inactiveState : rem.inactiveState = ""
  inactiveScene : rem.inactiveScene = ""

/-- No other Condition has the zone. -/
def SoleWriter (cond : Condition) (zone : String) (conditions : List Condition) : Prop :=
  ∀ c ∈ conditions, ∀ r ∈ c.remediations, r.zone = zone → c = cond

def AlertEvent.LeavesZoneTo (cond : Condition) (zone : String) : AlertEvent → Prop
  | .alert (.ok conditions) _ => SoleWriter cond zone conditions
  | .alert (.error _) _ => True
  | .windowCheck _ => True

/-- It resolves no alert of `cond` while its Remediation is tracked, unless that has a
brightness delta and so never switches on. -/
def AlertEvent.NoResolveWhileTracked (cond : Condition) (rem : Remediation) (s : World) :
    AlertEvent → Prop
  | .alert (.ok conditions) req =>
    req.status = alertStatusResolved → cond ∈ conditions →
      matchCondition req.labels cond = true →
        s.alertActive.lookup (alertActiveKey cond.name rem.zone) = none ∨
          rem.activeBrightnessDelta ≠ 0
  | .alert (.error _) _ => True
  | .windowCheck _ => True

variable {cond : Condition} {rem : Remediation}

theorem DrivesInWindow.inferDefaultInactive_eq {env : Env} (h : DrivesInWindow env cond rem) :
    inferDefaultInactive rem = .off := by
  have hdrives := h.drives
  simp only [List.mem_cons, List.not_mem_nil, or_false] at hdrives
  rcases hdrives with h | h | h | h <;> simp [inferDefaultInactive, h]

theorem DrivesInWindow.forceRequest_eq {env : Env} (h : DrivesInWindow env cond rem) :
    ∃ req, forceRequest rem = some req ∧ req.zone = rem.zone ∧
      req.stateReq = some ⟨rem.zone, .off⟩ := by
  rw [forceRequest, deactivateRequest_eq_none h.inactiveState h.inactiveScene,
    h.inferDefaultInactive_eq, Option.none_or]
  exact Request.build_of_state rem.zone "" (by decide)

/-- The invariant of alerts and window checks. -/
structure WindowInv (cond : Condition) (rem : Remediation) (s : World) : Prop where
  coherent : CacheCoherent cond.name rem.zone s
  /-- keys name their zone, and the entries of this zone are those of `cond` -/
  tracked : ∀ key r, s.alertActive.lookup key = some r →
    key = alertActiveKey (cutSlash key) r.zone ∧
      (r.zone = rem.zone → cutSlash key = cond.name ∧ r = rem)
  /-- without an entry nothing but OFF was sent last -/
  safe : s.alertActive.lookup (alertActiveKey cond.name rem.zone) = none ∨
      rem.activeBrightnessDelta ≠ 0 →
    ∀ st, lastSetState rem.zone s.log = some st → st = .off

theorem WindowInv.initial (cond : Condition) (rem : Remediation) :
    WindowInv cond rem World.initial where
  coherent := CacheCoherent.initial cond.name rem.zone
  tracked := by
    intro key r hr
    simp [World.initial] at hr
  safe := by
    intro _ st hst
    simp [World.initial, lastSetState] at hst

theorem WindowInv.eq_of_tracked {s : World} (h : WindowInv cond rem s) {r : Remediation}
    (hr : s.alertActive.lookup (alertActiveKey cond.name rem.zone) = some r) : r = rem := by
  obtain ⟨hkey, hown⟩ := h.tracked _ r hr
  rw [cutSlash_alertActiveKey cond.name_valid] at hkey
  exact (hown (alertActiveKey_inj cond.name_valid cond.name_valid hkey).2.symm).2

theorem WindowInv.of_frame {s t : World} (h : WindowInv cond rem s) {condName zone : String}
    (hname : '/' ∉ condName.toList) (hzone : zone ≠ rem.zone) (hframe : OwnFrame condName zone s t)
    (htracked : ∀ key r, t.alertActive.lookup key = some r →
      key = alertActiveKey (cutSlash key) r.zone ∧
        (r.zone = rem.zone → cutSlash key = cond.name ∧ r = rem)) :
    WindowInv cond rem t := by
  refine ⟨h.coherent.of_frame cond.name_valid hname hzone hframe, htracked, ?_⟩
  intro hnone st hst
  rw [hframe.alertActive _ (alertActiveKey_ne cond.name_valid hname hzone)] at hnone
  rw [hframe.lastSetState_eq (Ne.symm hzone)] at hst
  exact h.safe hnone st hst

/-! ## One step -/

section Step

variable {env : Env} {cond : Condition} {rem : Remediation}

section

variable (hok : ∀ n c, env.rpc n c = .ok) (hshape : DrivesInWindow env cond rem)
include hok hshape

theorem forceDeactivate_off {s : World} (h : CacheCoherent cond.name rem.zone s)
    (src : SourceKind) :
    CacheCoherent cond.name rem.zone
        (forceDeactivateFromSource env cond.name rem src s).2 ∧
      lastSetState rem.zone (forceDeactivateFromSource env cond.name rem src s).2.log =
        some .off := by
  obtain ⟨req, hreq, hzone, hstate⟩ := hshape.forceRequest_eq
  rw [forceDeactivate_of_not_managed hshape.not_managed, hreq]
  rw [← hzone] at h ⊢
  obtain ⟨-, hcoherent, hlast⟩ := applyDesired_coherent hok h
  refine ⟨hcoherent, ?_⟩
  rw [hlast, hstate]
  rfl

theorem activate_coherent {s : World} (h : CacheCoherent cond.name rem.zone s) :
    (activateRemediationFromSource env cond.name rem .alert s).1 = none ∧
      CacheCoherent cond.name rem.zone
        (activateRemediationFromSource env cond.name rem .alert s).2 ∧
      (rem.activeBrightnessDelta ≠ 0 →
        lastSetState rem.zone (activateRemediationFromSource env cond.name rem .alert s).2.log =
          lastSetState rem.zone s.log) := by
  simp only [activateRemediationFromSource, hshape.intervals, if_false]
  split
  · have hnext : CacheCoherent cond.name rem.zone s.next := h
    by_cases hdelta : rem.activeBrightnessDelta = 0
    · simp only [activateInWindow, hdelta, ne_eq, not_true_eq_false, if_false,
        hshape.not_managed, Bool.false_eq_true, false_implies, and_true]
      cases hreq : activateRequest (resolveToggle env rem s.next) with
      | none => exact ⟨rfl, h⟩
      | some req =>
        have hzone : req.zone = rem.zone := by
          rw [Request.zone_of_build hreq, resolveToggle_zone]
        rw [← hzone] at hnext ⊢
        obtain ⟨herror, hcoherent, -⟩ := applyDesired_coherent hok hnext
        exact ⟨herror, hcoherent⟩
    · simp only [activateInWindow, ne_eq, hdelta, not_false_eq_true, if_true, World.lift_host,
        adjustBrightness, World.send, hok]
      exact ⟨rfl, h, fun _ => rfl⟩
  · exact ⟨rfl, h, fun _ => rfl⟩

theorem WindowInv.alertRemediation_own {status : String} {s : World}
    (h : WindowInv cond rem s)
    (hresolve : status = alertStatusResolved →
      s.alertActive.lookup (alertActiveKey cond.name rem.zone) = none ∨
        rem.activeBrightnessDelta ≠ 0) :
    CacheCoherent cond.name rem.zone (alertRemediation env status cond.name s rem) ∧
      ((alertRemediation env status cond.name s rem).alertActive.lookup
            (alertActiveKey cond.name rem.zone) = none ∨ rem.activeBrightnessDelta ≠ 0 →
        ∀ st, lastSetState rem.zone (alertRemediation env status cond.name s rem).log = some st →
          st = .off) := by
  unfold alertRemediation
  split
  · simp only [alertFiring, hshape.intervals, if_false]
    split
    · -- inside the window the entry exists afterwards
      obtain ⟨herror, hcoherent, hdelta⟩ := activate_coherent hok hshape (s := s.next) h.coherent
      unfold alertActivate
      revert herror hcoherent hdelta
      generalize activateRemediationFromSource env cond.name rem .alert s.next = result
      obtain ⟨e, t⟩ := result
      rintro rfl hcoherent hdelta
      simp only [hshape.intervals, if_false]
      refine ⟨hcoherent, ?_⟩
      rintro (hnone | hne) st hst
      · simp [trackAlertActive] at hnone
      · exact h.safe (Or.inr hne) st ((hdelta hne).symm.trans hst)
    · -- outside the window OFF is forced
      obtain ⟨hcoherent, hlast⟩ := forceDeactivate_off hok hshape
        (s := untrackAlertActive cond.name rem s.next) h.coherent .alert
      refine ⟨hcoherent, fun _ st hst => ?_⟩
      rw [hlast] at hst
      exact (Option.some.inj hst).symm
  · split
    · rename_i hstatus
      have hnothing : alertResolved env cond.name rem s = untrackAlertActive cond.name rem s := by
        simp [alertResolved, deactivateRemediationFromSource, hshape.not_managed,
          deactivateRequest_eq_none hshape.inactiveState hshape.inactiveScene, applyDesired]
      rw [hnothing]
      exact ⟨h.coherent, fun _ => h.safe (hresolve hstatus)⟩
    · exact ⟨h.coherent, h.safe⟩

theorem WindowInv.alert {list : Except String (List Condition)} {req : AlertRequest} {s : World}
    (h : WindowInv cond rem s)
    (hsole : (AlertEvent.alert list req).LeavesZoneTo cond rem.zone)
    (hresolve : (AlertEvent.alert list req).NoResolveWhileTracked cond rem s) :
    WindowInv cond rem (Conditioner.alert env list req s).2 := by
  -- inside one call a resolved alert never adds the entry, so the guard stays true
  let guarded : World → Prop := fun s => req.status = alertStatusResolved →
    (∃ conditions, list = .ok conditions ∧ cond ∈ conditions) →
      matchCondition req.labels cond = true →
        s.alertActive.lookup (alertActiveKey cond.name rem.zone) = none ∨
          rem.activeBrightnessDelta ≠ 0
  have hguarded : guarded s := by
    rintro hstatus ⟨conditions, rfl, hmem⟩ hmatch
    exact hresolve hstatus hmem hmatch
  refine (@alert_invariant env req (fun s => WindowInv cond rem s ∧ guarded s) list ?_ s
    ⟨h, hguarded⟩).1
  rintro conditions rfl c hc hmatch r hr s ⟨h, hguarded⟩
  have htracked : ∀ key r', (alertRemediation env req.status c.name s r).alertActive.lookup key =
      some r' → key = alertActiveKey (cutSlash key) r'.zone ∧
        (r'.zone = rem.zone → cutSlash key = cond.name ∧ r' = rem) := by
    intro key r' hr'
    rcases alertRemediation_tracked hr' with hold | ⟨rfl, rfl⟩
    · exact h.tracked key r' hold
    · rw [cutSlash_alertActiveKey c.name_valid]
      refine ⟨rfl, fun hz => ?_⟩
      have hcond : c = cond := hsole c hc r' hr hz
      subst hcond
      rw [hshape.remediations] at hr
      exact ⟨rfl, List.mem_singleton.mp hr⟩
  by_cases hz : r.zone = rem.zone
  · have hcond : c = cond := hsole c hc r hr hz
    subst hcond
    rw [hshape.remediations] at hr
    have hrem : r = rem := List.mem_singleton.mp hr
    subst hrem
    have hguard := fun hstatus => hguarded hstatus ⟨conditions, rfl, hc⟩ hmatch
    obtain ⟨hcoherent, hsafe⟩ := h.alertRemediation_own hok hshape hguard
    refine ⟨⟨hcoherent, htracked, hsafe⟩, fun hstatus _ _ => Or.inl ?_⟩
    have hne : alertStatusResolved ≠ alertStatusFiring := by decide
    simp only [alertRemediation, hstatus, hne, if_false, if_true, alertResolved,
      (deactivate_frame _ _ _ _ _).2, untrackAlertActive, AList.lookup_erase]
  · have hframe := alertRemediation_frame env req.status c.name s r
    refine ⟨h.of_frame c.name_valid hz hframe htracked, fun hstatus hlist hm => ?_⟩
    rw [hframe.alertActive _ (alertActiveKey_ne cond.name_valid c.name_valid hz)]
    exact hguarded hstatus hlist hm

theorem WindowInv.windowCheckStep {s : World} (h : WindowInv cond rem s) (now : Time)
    {entry : Σ _ : String, Remediation}
    (hentry : entry.1 = alertActiveKey (cutSlash entry.1) entry.2.zone ∧
      (entry.2.zone = rem.zone → cutSlash entry.1 = cond.name ∧ entry.2 = rem)) :
    WindowInv cond rem (Conditioner.windowCheckStep env now s entry) := by
  obtain ⟨key, r⟩ := entry
  obtain ⟨hkey, hown⟩ := hentry
  unfold Conditioner.windowCheckStep
  split
  · exact h
  · have hframe := (forceDeactivate_frame env (cutSlash key) r .alert s).1
    have herase : ∀ key' r', ((forceDeactivateFromSource env (cutSlash key) r .alert
        s).2.alertActive.erase key).lookup key' = some r' → s.alertActive.lookup key' = some r' := by
      intro key' r' hr'
      rw [GoMap.lookup_erase_eq, (forceDeactivate_frame _ _ _ _ _).2] at hr'
      split at hr'
      · cases hr'
      · exact hr'
    have htracked := fun key' r' hr' => h.tracked key' r' (herase key' r' hr')
    by_cases hz : r.zone = rem.zone
    · obtain ⟨hname, hrem⟩ := hown hz
      simp only at hname hrem
      subst hrem
      obtain ⟨hcoherent, hlast⟩ := forceDeactivate_off hok hshape h.coherent .alert
      simp only [hname]
      rw [hname] at htracked
      refine ⟨hcoherent, htracked, fun _ st hst => ?_⟩
      exact (Option.some.inj (hlast.symm.trans hst)).symm
    · refine h.of_frame (slash_notMem_cutSlash key) hz ?_ htracked
      refine { hframe with alertActive := fun key' hne => ?_ }
      rw [AList.lookup_erase_ne (fun heq => hne (heq.trans hkey))]
      exact hframe.alertActive key' hne

theorem WindowInv.windowCheck {s : World} (h : WindowInv cond rem s) (now : Time) :
    WindowInv cond rem (runAlertWindowCheckAt env now s) := by
  have hnext : WindowInv cond rem s.next := ⟨h.coherent, h.tracked, h.safe⟩
  show WindowInv cond rem (run (Conditioner.windowCheckStep env now) s.next
    (env.range.order s.tick s.alertActive.entries))
  refine run_invariant_of_mem ?_ hnext
  intro t entry hentry ht
  refine ht.windowCheckStep hok hshape now (h.tracked _ _ ?_)
  exact (GoMap.lookup_eq_some_iff_mem _ _ _).mpr ((env.range.mem_order_iff _).mp hentry)

end

end Step

/-- **Window-close safety.**  With every call succeeding, along every run in which no resolved
alert for the Condition is handled while its Remediation is tracked, a window check outside the
window leaves OFF as the last state sent to the zone, if any. -/
theorem windowCheck_lastSetState_off (env : Env) (hok : ∀ n c, env.rpc n c = .ok)
    (cond : Condition) (rem : Remediation) (hshape : DrivesInWindow env cond rem)
    (events : List AlertEvent)
    (hrun : Along (alertStep env)
      (fun s e => e.LeavesZoneTo cond rem.zone ∧ e.NoResolveWhileTracked cond rem s)
      World.initial events)
    (now : Time) (hout : withinActiveWindow env rem now = false) :
    ∀ st, lastSetState rem.zone
      (run (alertStep env) World.initial (events ++ [.windowCheck now])).log = some st →
        st = .off := by
  have hinv : WindowInv cond rem (run (alertStep env) World.initial events) := by
    refine invariant_of_along ?_ (WindowInv.initial cond rem) hrun
    rintro s e h ⟨hsole, hresolve⟩
    cases e with
    | alert => exact h.alert hok hshape hsole hresolve
    | windowCheck t => exact h.windowCheck hok hshape t
  rw [run_append]
  refine (hinv.windowCheck hok hshape now).safe (Or.inl ?_)
  rw [runAlertWindowCheckAt_alertActive]
  cases htracked : (run (alertStep env) World.initial events).alertActive.lookup
      (alertActiveKey cond.name rem.zone) with
  | none => rfl
  | some r =>
    have hr : r = rem := hinv.eq_of_tracked htracked
    subst hr
    simp [Option.filter, hout]

/-! ### A heater -/

def heaterRemediation : Remediation where
  zone := "tent"
  activeState := "on"
  timeIntervals := [{ times := [⟨"06:00", "22:00"⟩] }]

def heaterCondition : Condition where
  name := "tent-low-temp"
  name_valid := by decide
  enabled := true
  remediations := [heaterRemediation]
  «matches» := [{ labels := AList.singleton "alertname" "lowTemp" }]

/-- The windows are open up to time 100, the clock stands at 50 and every call succeeds. -/
def heaterEnv : Env :=
  { Env.idle [] with clock := fun _ => 50, asPrometheus := fun _ => some fun t => t ≤ 100 }

def lowTemp (status : String) : AlertEvent :=
  .alert (.ok [heaterCondition]) { name := "lowTemp", status := status, zone := "tent" }

theorem heater_drivesInWindow : DrivesInWindow heaterEnv heaterCondition heaterRemediation where
  remediations := rfl
  not_managed := by decide
  intervals := by decide
  drives := by decide
  inactiveState := rfl
  inactiveScene := rfl

theorem lowTemp_leavesZoneTo (status : String) :
    (lowTemp status).LeavesZoneTo heaterCondition "tent" := by
  intro c hc _ _ _
  exact List.mem_singleton.mp hc

/-- The alert fires twice inside the window; the check after its end switches the heater off. -/
theorem heater_off_after_window :
    lastSetState "tent" (run (alertStep heaterEnv) World.initial
        ([lowTemp "firing", lowTemp "firing"] ++ [.windowCheck 200])).log = some .off ∧
      ∀ st, lastSetState "tent" (run (alertStep heaterEnv) World.initial
        ([lowTemp "firing", lowTemp "firing"] ++ [.windowCheck 200])).log = some st →
          st = .off := by
  refine ⟨by decide, ?_⟩
  have hadmit : ∀ s, (lowTemp "firing").NoResolveWhileTracked heaterCondition
      heaterRemediation s := by
    intro s hstatus
    exact absurd hstatus (by decide)
  exact windowCheck_lastSetState_off heaterEnv (fun _ _ => rfl) heaterCondition heaterRemediation
    heater_drivesInWindow [lowTemp "firing", lowTemp "firing"]
    ⟨⟨lowTemp_leavesZoneTo _, hadmit _⟩, ⟨lowTemp_leavesZoneTo _, hadmit _⟩, trivial⟩
    200 (by decide)

/-- The resolve deletes the tracking entry, so the window check sends nothing and the heater
stays on. -/
theorem heater_on_after_window :
    DrivesInWindow heaterEnv heaterCondition heaterRemediation ∧
      (∀ n c, heaterEnv.rpc n c = .ok) ∧
      (∀ e ∈ [lowTemp "firing", lowTemp "resolved"], e.LeavesZoneTo heaterCondition "tent") ∧
      withinActiveWindow heaterEnv heaterRemediation 200 = false ∧
      lastSetState "tent" (run (alertStep heaterEnv) World.initial
        ([lowTemp "firing", lowTemp "resolved"] ++ [.windowCheck 200])).log = some .on := by
  refine ⟨heater_drivesInWindow, fun _ _ => rfl, ?_, by decide, by decide⟩
  intro e he
  simp only [List.mem_cons, List.not_mem_nil, or_false] at he
  rcases he with rfl | rfl
  · exact lowTemp_leavesZoneTo _
  · exact lowTemp_leavesZoneTo _

/-! ## Failed deactivations -/

theorem runAlertWindowCheckAt_callsOn (env : Env) (now : Time) {zone : String} {s : World}
    (h : ∀ key r, s.alertActive.lookup key = some r → r.zone ≠ zone) :
    callsOn zone (runAlertWindowCheckAt env now s).log = callsOn zone s.log := by
  let unchanged : World → Prop := fun t => callsOn zone t.log = callsOn zone s.log
  show unchanged (run (windowCheckStep env now) s.next
    (env.range.order s.tick s.alertActive.entries))
  refine run_invariant_of_mem (fun t entry hentry ht => ?_) rfl
  have hzone : entry.2.zone ≠ zone := h entry.1 entry.2
    ((GoMap.lookup_eq_some_iff_mem _ _ _).mpr ((env.range.mem_order_iff _).mp hentry))
  simp only [windowCheckStep]
  split
  · exact ht
  · exact ((forceDeactivate_frame env (cutSlash entry.1) entry.2 .alert t).1.callsOn_eq
      (Ne.symm hzone)).trans ht

theorem windowChecks_alertActive {env : Env} {key : String} {s : World} (later : List Time)
    {r : Remediation}
    (h : (run (alertStep env) s (later.map .windowCheck)).alertActive.lookup key = some r) :
    s.alertActive.lookup key = some r := by
  induction later generalizing s with
  | nil => exact h
  | cons _ _ ih =>
    have hfirst := ih h
    rw [alertStep, runAlertWindowCheckAt_alertActive] at hfirst
    exact Option.filter_eq_some_iff.mp hfirst |>.1

/-- **A failed deactivation is forgotten.**  Whatever its calls return, a window check outside
the window of a tracked Remediation leaves it untracked; later checks send nothing to its zone
unless another is tracked there. -/
theorem windowCheck_forgets (env : Env) (events : List AlertEvent) (now : Time) (key : String)
    (rem : Remediation)
    (htracked : (run (alertStep env) World.initial events).alertActive.lookup key = some rem)
    (hout : withinActiveWindow env rem now = false) (later : List Time) :
    let checked := run (alertStep env) World.initial (events ++ [.windowCheck now])
    let final := run (alertStep env) checked (later.map .windowCheck)
    checked.alertActive.lookup key = none ∧ final.alertActive.lookup key = none ∧
      ((∀ k r, checked.alertActive.lookup k = some r → r.zone ≠ rem.zone) →
        callsOn rem.zone final.log = callsOn rem.zone checked.log) := by
  intro checked final
  have hchecked : checked.alertActive.lookup key = none := by
    simp only [checked]
    rw [run_append, run_cons, run_nil, alertStep, runAlertWindowCheckAt_alertActive, htracked]
    simp [Option.filter, hout]
  refine ⟨hchecked, ?_, fun hothers => ?_⟩
  · cases hfinal : final.alertActive.lookup key with
    | none => rfl
    | some => exact absurd (windowChecks_alertActive later hfinal) (by simp [hchecked])
  · -- every later check starts with no more entries than `checked` has
    have hlater : ∀ s : World,
        (∀ k r, s.alertActive.lookup k = some r → r.zone ≠ rem.zone) →
          callsOn rem.zone (run (alertStep env) s (later.map .windowCheck)).log =
            callsOn rem.zone s.log := by
      clear hchecked hothers
      induction later with
      | nil => intro s _; rfl
      | cons t _ ih =>
        intro s hs
        have hnext : ∀ k r, (runAlertWindowCheckAt env t s).alertActive.lookup k = some r →
            r.zone ≠ rem.zone := fun k r hr =>
          hs k r (windowChecks_alertActive [t] hr)
        exact (ih _ hnext).trans (runAlertWindowCheckAt_callsOn env t hs)
    exact hlater checked hothers

def flakyEnv : Env :=
  { heaterEnv with rpc := fun n _ => if n = 6 then .failed "unavailable" else .ok }

/-- The one attempt to switch the heater off fails, and no later check sends anything. -/
theorem heater_deactivation_lost :
    let fired := run (alertStep flakyEnv) World.initial [lowTemp "firing"]
    let checked := run (alertStep flakyEnv) fired [.windowCheck 200]
    let final := run (alertStep flakyEnv) checked [.windowCheck 260, .windowCheck 320]
    fired.alertActive.lookup "tent-low-temp/tent" = some heaterRemediation ∧
      withinActiveWindow flakyEnv heaterRemediation 200 = false ∧
      checked.log = ⟨.setState "tent" .off, .failed "unavailable"⟩ :: fired.log ∧
      checked.alertActive.lookup "tent-low-temp/tent" = none ∧
      final.log = checked.log ∧
      lastSetState "tent" (succeeded final.log) = some .on :=
  ⟨rfl, by decide, by decide, rfl, by decide, by decide⟩

/-- The theorem at that run. -/
theorem heater_entry_forgotten :
    (run (alertStep flakyEnv) World.initial
        ([lowTemp "firing"] ++ [.windowCheck 200])).alertActive.lookup "tent-low-temp/tent" = none :=
  (windowCheck_forgets flakyEnv [lowTemp "firing"] 200 "tent-low-temp/tent" heaterRemediation
    rfl (by decide) []).1

end IotController.Conditioner
