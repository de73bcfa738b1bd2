/-
  The evaluation loop against its declarative shadow
  (`modules/conditioner/shadow.go`).

  The shadow composes the target of a zone from the Remediations whose window is open, of
  which the last one wins.  The loop reaches the zone through the cache of `applyDesired`,
  one entry for each Condition, and through the drift check.
-/
import IotController.Conditioner.Alert
import IotController.Conditioner.FadeFrame
import IotController.Conditioner.Suppression

namespace IotController.Conditioner

open Foundation Api Proto Compute

/-! ## The shadow -/

/-- What the shadow composes for a zone. -/
structure ZoneTarget where
  state : ZoneState := .unspecified
  brightness : Brightness := .unspecified
  colorTemperature : ColorTemperature := .unspecified
  color : String := ""
  scene : String := ""

/-- A Condition and the value it gave. -/
structure ShadowContributor where
  condition : String
  value : String

/-- A target with its contributors. -/
structure ShadowTrace where
  zone : String
  target : ZoneTarget := {}
  contributors : GoMap String (List ShadowContributor) := ∅

def axisState : String := "state"

def axisScene : String := "scene"

namespace ShadowTrace

def contribute (trace : ShadowTrace) (axis condName value : String) : ShadowTrace :=
  { trace with
    contributors := trace.contributors.insert axis
      ((trace.contributors.lookup axis).getD [] ++ [⟨condName, value⟩]) }

/-- The state of a Remediation; one without a value, such as `toggle`, does not move the
target. -/
def claimState (condName : String) (rem : Remediation) (trace : ShadowTrace) : ShadowTrace :=
  let s := trimSpace rem.activeState
  if s = "" then trace
  else if zoneState s = .unspecified then trace.contribute axisState condName s
  else { trace.contribute axisState condName s with
    target := { trace.target with state := zoneState s } }

def claimScene (condName : String) (rem : Remediation) (trace : ShadowTrace) : ShadowTrace :=
  let s := trimSpace rem.activeScene
  if s = "" then trace
  else { trace.contribute axisScene condName s with target := { trace.target with scene := s } }

end ShadowTrace

def shadowRemediation (env : Env) (zone : String) (now : Time) (condName : String)
    (trace : ShadowTrace) (rem : Remediation) : ShadowTrace :=
  if rem.zone ≠ zone then trace
  else if rem.activeCompute ≠ "" then trace
  else if rem.timeIntervals = [] then trace
  else if withinActiveWindow env rem now then
    (trace.claimState condName rem).claimScene condName rem
  else trace

def shadowCondition (env : Env) (zone : String) (now : Time) (trace : ShadowTrace)
    (cond : Condition) : ShadowTrace :=
  if cond.enabled = false then trace
  else if cond.matches ≠ [] then trace
  else cond.remediations.foldl (shadowRemediation env zone now cond.name) trace

def computeZoneTarget (env : Env) (list : Except String (List Condition)) (zone : String)
    (now : Time) : ShadowTrace × Option String :=
  match list with
  | .error message => ({ zone := zone }, some message)
  | .ok conditions => (conditions.foldl (shadowCondition env zone now) { zone := zone }, none)

theorem state_claimed {rem : Remediation} (htrimmed : trimSpace rem.activeState = rem.activeState)
    (condName : String) (trace : ShadowTrace) :
    ((trace.claimState condName rem).claimScene condName rem).target.state =
      if zoneState rem.activeState = .unspecified then trace.target.state
      else zoneState rem.activeState := by
  have hscene : ∀ trace : ShadowTrace,
      (trace.claimScene condName rem).target.state = trace.target.state := by
    intro trace
    unfold ShadowTrace.claimScene
    dsimp only
    split <;> rfl
  rw [hscene, ShadowTrace.claimState, htrimmed]
  dsimp only
  by_cases hempty : rem.activeState = ""
  · simp [hempty]
  · rw [if_neg hempty]
    split <;> rfl

/-! ## What a visit of the loop keeps -/

/-- The zone's entries stay sound, and when `other` holds no state of the zone is set. -/
structure Visited (other : Prop) (env : Env) (zone : String) (s t : World) : Prop where
  inv : NamedInv Slashless env zone s → NamedInv Slashless env zone t
  last : other → lastSetState zone (succeeded t.log) = lastSetState zone (succeeded s.log)

namespace Visited

variable {other : Prop} {env : Env} {zone : String} {s t u : World}

theorem trans (hst : Visited other env zone s t) (htu : Visited other env zone t u) :
    Visited other env zone s u :=
  ⟨fun h => htu.inv (hst.inv h), fun h => (htu.last h).trans (hst.last h)⟩

theorem of_silent (htick : s.tick ≤ t.tick) (hcache : t.condState = s.condState)
    (hlast : lastSetState zone (succeeded t.log) = lastSetState zone (succeeded s.log)) :
    Visited other env zone s t :=
  ⟨fun h => h.of_fewer htick (fun _ _ _ hentry => hcache ▸ hentry) hlast, fun _ => hlast⟩

theorem send (c : Call) (hc : c.stateOn zone = none) (s : World) :
    Visited other env zone s (s.send env c).2 := by
  refine of_silent (Nat.le_succ _) rfl ?_
  by_cases ho : env.rpc s.tick c = .ok
  · simp [World.send, succeeded, lastSetState, ho, hc]
  · rw [World.send, succeeded_cons_of_error (e := ⟨c, _⟩) ho]

theorem of_imperative {condName z : String} {result : Option Error × World}
    (h : Imperative env condName z s result) (hclock : Monotone env.clock)
    (hname : Slashless condName) : Visited (z ≠ zone) env zone s result.2 := by
  have hstart : ∀ n, s.tick ≤ n → Visited (z ≠ zone) env zone s { s with tick := n } :=
    fun n hn => of_silent hn rfl rfl
  cases h with
  | nothing n htick => exact hstart n htick
  | adjust n htick => exact (hstart n htick).trans (send _ rfl _)
  | request n htick req hzone =>
    subst hzone
    refine (hstart n htick).trans ⟨fun h => h.applyDesired hclock fun c hc hkey =>
      (alertActiveKey_inj hc hname hkey).2.symm, fun hz => ?_⟩
    have heffect := applyDesired_effect env condName req { s with tick := n }
    generalize applyDesired env condName req.zone (some req) { s with tick := n } = result
      at heffect
    cases heffect with
    | unsent _ _ _ _ hlog => rw [hlog]
    | half _ _ _ _ hlog => rw [hlog, lastSetState_sceneSent]
    | recorded _ _ _ hlog => rw [hlog, lastSetState_sent_of_ne hz]

end Visited

theorem fadeRule_visited (fe : FadeEnv) (other : Prop) (zone own : String) :
    FadeRule fe own (fun _ _ => True) (fun _ => True)
      (fun s t => Visited other fe.env zone s.toWorld t.toWorld) where
  refl _ _ := .of_silent (le_refl _) rfl rfl
  trans hst htu := hst.trans htu
  keeps _ := trivial
  entries _ _ _ _ _ _ _ := trivial
  call _ _ _ _ _ _ _ := by
    unfold FadeEnv.invoke
    split <;> exact .of_silent (Nat.le_succ _) rfl rfl
  policy _ _ _ hn _ _ _ := .of_silent hn rfl rfl
  next _ _ := .of_silent (Nat.le_succ _) rfl rfl
  send _ _ _ := .send _ rfl _
  applied _ _ _ := .of_silent (le_refl _) rfl rfl

theorem evaluateRemediation_visited (fe : FadeEnv) (hclock : Monotone fe.env.clock) (zone : String)
    (sensorBound : String → Bool) (cond : Condition) (rem : Remediation) (s : FadeWorld) :
    Visited (rem.zone ≠ zone) fe.env zone s.toWorld
      (FadeWorld.evaluateRemediation fe sensorBound cond s rem).toWorld := by
  refine (fadeRule_visited fe _ zone _).evaluateRemediation trivial (fun _ => trivial) trivial
    (fun hmanaged s _ => ?_) sensorBound
  rw [FadeWorld.activateInWindow_of_not_managed fe hmanaged]
  exact .of_imperative (activateInWindow_imperative hmanaged .binding (le_refl _)) hclock
    cond.name_valid

variable {zone condName : String} {s : World}

/-! ## A tick -/

/-- It has windows, a trimmed state that is no toggle, and neither a delta nor a Computer. -/
structure Declarative (rem : Remediation) : Prop where
  windowed : rem.timeIntervals ≠ []
  trimmed : trimSpace rem.activeState = rem.activeState
  concrete : isToggle rem.activeState = false
  delta : rem.activeBrightnessDelta = 0
  compute : rem.activeCompute = ""

/-- A tick over enabled Conditions without Matches, whose Remediations on `zone` are declarative
with the windows open that are open at `now`.  The zone is unmanaged, its status mirrors the
last SetState, there is no grace period and every call succeeds. -/
structure Shadowed (zone : String) (now : Time) (conditions : List Condition) (t : EvalTick) :
    Prop where
  list : t.list = .ok conditions
  enabled : ∀ cond ∈ conditions, cond.enabled = true ∧ cond.matches = []
  declarative : ∀ cond ∈ conditions, ∀ rem ∈ cond.remediations, rem.zone = zone → Declarative rem
  instant : ∀ cond ∈ conditions, ∀ rem ∈ cond.remediations, rem.zone = zone →
    ∀ n, withinActiveWindow t.fe.env rem (t.fe.env.clock n) = withinActiveWindow t.fe.env rem now
  managed : isReconcileManaged t.fe.env zone = false
  status : ∀ n log st, lastSetState zone (succeeded log) = some st →
    t.fe.env.zoneStatus n log zone = some st.name
  grace : t.fe.env.cfg.oobGracePeriod = 0
  ok : ∀ n c, t.fe.env.rpc n c = .ok

/-- The cache is sound, and the zone has the state that the shadow has composed so far. -/
structure Follows (env : Env) (zone : String) (s : FadeWorld) (trace : ShadowTrace) : Prop where
  inv : NamedInv Slashless env zone s.toWorld
  last : trace.target.state ≠ .unspecified →
    lastSetState zone (succeeded s.log) = some trace.target.state

theorem Request.stateReq_of_build {zone scene : String} {state : ZoneState} {r : Request}
    (h : Request.build zone scene state = some r) :
    r.stateReq = if state = .unspecified then none else some ⟨zone, state⟩ := by
  simp only [Request.build] at h
  split at h
  · cases h
    simp
  · cases h

namespace Shadowed

variable {now : Time} {conditions : List Condition} {t : EvalTick}

theorem lastSetState_request (h : Shadowed zone now conditions t) {rem : Remediation}
    (hzone : rem.zone = zone) (hname : Slashless condName)
    (hinv : NamedInv Slashless t.fe.env zone s) :
    lastSetState zone
        (succeeded (applyDesired t.fe.env condName rem.zone (activateRequest rem) s).2.log) =
      if zoneState rem.activeState = .unspecified then lastSetState zone (succeeded s.log)
      else some (zoneState rem.activeState) := by
  cases hreq : activateRequest rem with
  | none =>
    have hnone : zoneState rem.activeState = .unspecified := by
      by_contra hstate
      obtain ⟨req, hbuild, -⟩ := Request.build_of_state rem.zone rem.activeScene hstate
      exact absurd (hreq.symm.trans hbuild) (by simp)
    rw [if_pos hnone]
    rfl
  | some req =>
    have hsame : req.zone = rem.zone := Request.zone_of_build hreq
    subst hzone
    rw [← hsame] at hinv ⊢
    have hlast := hinv.lastSetState_applyDesired h.ok h.grace condName hname fun n st hst => by
      rw [hsame] at hst ⊢
      exact h.status n s.log st hst
    rw [hlast, Request.stateReq_of_build hreq]
    split <;> rfl

theorem remediation (h : Shadowed zone now conditions t) (hclock : Monotone t.fe.env.clock)
    (sensorBound : String → Bool) {cond : Condition} (hcond : cond ∈ conditions)
    {rem : Remediation} (hrem : rem ∈ cond.remediations) {s : FadeWorld} {trace : ShadowTrace}
    (hfollows : Follows t.fe.env zone s trace) :
    Follows t.fe.env zone
      (FadeWorld.evaluateRemediation t.fe sensorBound cond s rem)
      (shadowRemediation t.fe.env zone now cond.name trace rem) := by
  have hvisited := evaluateRemediation_visited t.fe hclock zone sensorBound cond rem s
  refine ⟨hvisited.inv hfollows.inv, ?_⟩
  unfold shadowRemediation
  by_cases hzone : rem.zone = zone
  · have hshape := h.declarative cond hcond rem hrem hzone
    have hvisit : FadeWorld.evaluateRemediation t.fe sensorBound cond s rem =
        if withinActiveWindow t.fe.env rem now then
          (t.fe.host.lift (applyDesired t.fe.env cond.name rem.zone (activateRequest rem)) s.next).2
        else s.next := by
      have hwindow := h.instant cond hcond rem hrem hzone s.tick
      simp only [FadeWorld.evaluateRemediation, hzone, h.managed, hshape.compute, ne_eq,
        not_true_eq_false, if_false, Bool.false_eq_true, hshape.windowed, not_false_eq_true,
        (h.enabled cond hcond).2, and_self, if_true, activateRemediation,
        activateRemediationFromSource, activateInWindow, hshape.delta,
        resolveToggle, hshape.concrete]
      rw [hwindow]
      split <;> rfl
    rw [hvisit, if_neg (not_not_intro hzone), if_neg (not_not_intro hshape.compute),
      if_neg hshape.windowed]
    split
    · rw [state_claimed hshape.trimmed]
      intro hspecified
      have hnext : NamedInv Slashless t.fe.env zone s.next.toWorld :=
        hfollows.inv.of_fewer (Nat.le_succ _) (fun _ _ _ h => h) rfl
      refine (h.lastSetState_request hzone cond.name_valid hnext).trans ?_
      by_cases hstate : zoneState rem.activeState = .unspecified
      · rw [if_pos hstate] at hspecified ⊢
        rw [if_pos hstate]
        exact hfollows.last hspecified
      · rw [if_neg hstate, if_neg hstate]
    · exact hfollows.last
  · rw [if_pos hzone, hvisited.last hzone]
    exact hfollows.last

theorem conditions_follow (h : Shadowed zone now conditions t) (hclock : Monotone t.fe.env.clock)
    (sensorBound : String → Bool) {s : FadeWorld} {trace : ShadowTrace}
    (hfollows : Follows t.fe.env zone s trace) :
    Follows t.fe.env zone
      (conditions.foldl (FadeWorld.evaluateCondition t.fe sensorBound) s)
      (conditions.foldl (shadowCondition t.fe.env zone now) trace) := by
  refine List.foldl_rel hfollows fun cond hcond s trace hfollows => ?_
  obtain ⟨henabled, hmatches⟩ := h.enabled cond hcond
  simp only [FadeWorld.evaluateCondition, shadowCondition, henabled, if_true, hmatches,
    Bool.true_eq_false, if_false, ne_eq, not_true_eq_false]
  exact List.foldl_rel hfollows fun rem hrem s trace hfollows =>
    h.remediation hclock sensorBound hcond hrem hfollows

end Shadowed

/-! ## Runs -/

theorem reconcileTicks_visited (fe : FadeEnv) (zone : String) (zones : List String)
    (s : FadeWorld) :
    Visited True fe.env zone s.toWorld
      (zones.foldl (FadeWorld.reconcileTick fe) s).toWorld :=
  have r := fadeRule_visited fe True zone
  List.foldlRecOn
    (motive := fun t : FadeWorld => Visited True fe.env zone s.toWorld t.toWorld) _ _
    ((r zone).refl s trivial) fun _ h z _ => h.trans ((r z).reconcileTick trivial)

theorem stepTick_inv (t : EvalTick) (hclock : Monotone t.fe.env.clock) {s : FadeWorld}
    (h : NamedInv Slashless t.fe.env zone s.restart.toWorld) :
    NamedInv Slashless t.fe.env zone (s.stepTick t).toWorld := by
  unfold FadeWorld.stepTick FadeWorld.evaluate
  cases t.list with
  | error => exact h
  | ok conditions =>
    refine (reconcileTicks_visited t.fe zone _ _).inv (List.foldlRecOn
      (motive := fun s : FadeWorld => NamedInv Slashless t.fe.env zone s.toWorld) _ _ h ?_)
    intro s h cond _
    unfold FadeWorld.evaluateCondition
    split
    · exact List.foldlRecOn
        (motive := fun s : FadeWorld => NamedInv Slashless t.fe.env zone s.toWorld) _ _ h
        fun s h rem _ => (evaluateRemediation_visited t.fe hclock zone _ cond rem s).inv h
    · exact h

def EvalTick.Before (a b : EvalTick) : Prop := ∀ n m, a.fe.env.clock n ≤ b.fe.env.clock m

theorem earlier_inv (zone : String) (earlier : List EvalTick) (t : EvalTick)
    (hclock : ∀ e ∈ earlier, Monotone e.fe.env.clock)
    (hlater : (earlier ++ [t]).Pairwise EvalTick.Before) :
    NamedInv Slashless t.fe.env zone (run FadeWorld.stepTick {} earlier).restart.toWorld := by
  induction earlier using List.reverseRecOn generalizing t with
  | nil => exact NamedInv.initial Slashless t.fe.env zone
  | append_singleton earlier e ih =>
    obtain ⟨hpairs, -, hbefore⟩ := List.pairwise_append.mp hlater
    have hstep := stepTick_inv e (hclock e (by simp))
      (ih e (fun e he => hclock e (List.mem_append_left _ he)) hpairs)
    rw [run_append, run_cons, run_nil]
    refine ⟨fun c hc entry hentry n _ => ?_, hstep.stated, hstep.specified⟩
    exact (hstep.clocked c hc entry hentry _ (le_refl _)).trans (hbefore e (by simp) t (by simp) _ n)

/-- **The loop follows its shadow.**  After any ticks, whatever failed in them, a tick over
declarative Remediations leaves the zone in the state that the shadow composes at that instant,
if any. -/
theorem evaluate_follows_shadow (zone : String) (now : Time) (conditions : List Condition)
    (earlier : List EvalTick) (t : EvalTick) (hshadowed : Shadowed zone now conditions t)
    (hclock : ∀ e ∈ earlier ++ [t], Monotone e.fe.env.clock)
    (hlater : (earlier ++ [t]).Pairwise EvalTick.Before) :
    let target := (computeZoneTarget t.fe.env t.list zone now).1.target
    target.state ≠ .unspecified →
      lastSetState zone (succeeded ((run FadeWorld.stepTick {} earlier).stepTick t).log) =
        some target.state := by
  intro target hspecified
  have hstart := earlier_inv zone earlier t (fun e he => hclock e (List.mem_append_left _ he)) hlater
  have hinitial : Follows t.fe.env zone (run FadeWorld.stepTick {} earlier).restart
      { zone := zone } := ⟨hstart, fun h => absurd rfl h⟩
  have hfollows := hshadowed.conditions_follow (hclock t (by simp))
    (sensorBoundConditions t.bindings) hinitial
  have htarget : target = (conditions.foldl (shadowCondition t.fe.env zone now)
      { zone := zone }).target := by
    simp only [target, computeZoneTarget, hshadowed.list]
  rw [htarget] at hspecified ⊢
  simp only [FadeWorld.stepTick, FadeWorld.evaluate, hshadowed.list]
  rw [(reconcileTicks_visited t.fe zone _ _).last trivial]
  exact hfollows.last hspecified

/-! ### A patio with two windows -/

/-- A tick at `now`: the evening window is always open, the night one from time 2 on. -/
def patioEnv (now : Time) : FadeEnv where
  toEnv :=
    { deskEnv fun _ _ => .ok with
      clock := fun _ => now
      asPrometheus := fun ti => some fun now => ti.weekdays = ["evening"] ∨ 2 ≤ now }
  lib :=
    { parseDuration := fun _ => .ok 0
      formatDuration := fun _ => ""
      loadLocation := fun _ => .error ""
      atoi := fun _ => .ok 0 }
  zoneLevels _ _ _ := none

def patioCondition (name state : String) (hname : '/' ∉ name.toList) : Condition where
  name := name
  name_valid := hname
  enabled := true
  remediations :=
    [{ zone := "patio", activeState := state, timeIntervals := [{ weekdays := [name] }] }]

theorem slash_not_mem_evening : '/' ∉ "evening".toList := by decide

theorem slash_not_mem_night : '/' ∉ "night".toList := by decide

def patioConditions : List Condition :=
  [patioCondition "evening" "on" slash_not_mem_evening,
    patioCondition "night" "off" slash_not_mem_night]

def patioTick (now : Time) : EvalTick where
  fe := patioEnv now
  list := .ok patioConditions
  bindings := .ok []

/-- The light is switched off at night although the evening's entry is fresh. -/
theorem patio_follows_shadow :
    (computeZoneTarget (patioEnv 2).env (.ok patioConditions) "patio" 2).1.target.state = .off ∧
      lastSetState "patio"
          (succeeded ((run FadeWorld.stepTick {} [patioTick 1]).stepTick (patioTick 2)).log) =
        some .off := by
  have htarget : (computeZoneTarget (patioEnv 2).env (.ok patioConditions) "patio" 2).1.target.state =
      .off := by decide
  have hshadowed : Shadowed "patio" 2 patioConditions (patioTick 2) := by
    refine ⟨rfl, by decide, ?_, fun _ _ _ _ _ _ => rfl, by decide, ?_, rfl, fun _ _ => rfl⟩
    · intro cond hcond rem hrem _
      simp only [patioConditions, List.mem_cons, List.not_mem_nil, or_false] at hcond
      rcases hcond with rfl | rfl
      · rw [List.mem_singleton.mp hrem]
        exact ⟨by simp, by decide, by decide, rfl, rfl⟩
      · rw [List.mem_singleton.mp hrem]
        exact ⟨by simp, by decide, by decide, rfl, rfl⟩
    · intro n log st hst
      simp [patioTick, patioEnv, FadeEnv.env, deskEnv, hst]
  refine ⟨htarget, htarget ▸ evaluate_follows_shadow "patio" 2 patioConditions [patioTick 1]
    (patioTick 2) hshadowed ?_ ?_ (fun h => by cases htarget.symm.trans h)⟩
  · intro e he
    simp only [List.cons_append, List.nil_append, List.mem_cons, List.not_mem_nil, or_false] at he
    rcases he with rfl | rfl <;> exact fun _ _ _ => le_refl _
  · simp only [List.cons_append, List.nil_append, List.pairwise_cons, List.mem_singleton]
    refine ⟨?_, by simp⟩
    rintro _ rfl _ _
    exact (by decide : (1 : Int) ≤ 2)

end IotController.Conditioner
