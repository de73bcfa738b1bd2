/-
  When the cache of `applyDesired` may be
  trusted.

  Each Condition has its own cache entry for a zone, while the zone is shared and a request
  is two calls that may fail half-way.  The state half of an entry is protected by the drift
  check against the Zone's status.  The scene half is not: a scene set by another Condition,
  or by a request whose SetState failed, leaves entries behind that name a scene the zone no
  longer shows.
-/
import IotController.Conditioner.Remediate
import IotController.Foundation.Run

namespace IotController.Conditioner

open Foundation Api Proto Compute

/-! ## Runs of Remediations -/

/-- The three ways to carry out a Remediation. -/
inductive RemediationOp where
  | activate
  | deactivate
  | forceDeactivate

/-- A Remediation carried out for a Condition. -/
structure RemediationEvent where
  op : RemediationOp
  condName : String
  rem : Remediation
  src : SourceKind

def RemediationEvent.exec (env : Env) (e : RemediationEvent) (s : World) : Option Error × World :=
  match e.op with
  | .activate => activateRemediationFromSource env e.condName e.rem e.src s
  | .deactivate => deactivateRemediationFromSource env e.condName e.rem e.src s
  | .forceDeactivate => forceDeactivateFromSource env e.condName e.rem e.src s

def remediationStep (env : Env) (s : World) (e : RemediationEvent) : World := (e.exec env s).2

/-- How an imperative operation can end. -/
inductive Imperative (env : Env) (condName zone : String) (s : World) :
    Option Error × World → Prop where
  | nothing (n : Nat) (htick : s.tick ≤ n) :
      Imperative env condName zone s (none, { s with tick := n })
  | adjust (n : Nat) (htick : s.tick ≤ n) (delta : Int) :
      Imperative env condName zone s
        (({ s with tick := n } : World).send env (.adjustBrightness zone delta))
  | request (n : Nat) (htick : s.tick ≤ n) (req : Request) (hzone : req.zone = zone) :
      Imperative env condName zone s
        (applyDesired env condName zone (some req) { s with tick := n })

variable {env : Env} {condName : String} {s : World} {req : Request}

theorem Imperative.of_applyDesired {zone : String} {req : Option Request} {n : Nat}
    (htick : s.tick ≤ n) (hzone : ∀ r ∈ req, r.zone = zone) :
    Imperative env condName zone s (applyDesired env condName zone req { s with tick := n }) := by
  cases req with
  | none => exact .nothing n htick
  | some req => exact .request n htick req (hzone req rfl)

theorem activateInWindow_imperative {rem : Remediation}
    (hmanaged : isReconcileManaged env rem.zone = false) (src : SourceKind) {n : Nat}
    (htick : s.tick ≤ n) :
    Imperative env condName rem.zone s
      (activateInWindow env condName rem src { s with tick := n }) := by
  unfold activateInWindow
  split
  · exact .adjust n htick _
  · simp only [hmanaged, Bool.false_eq_true, if_false]
    refine Imperative.of_applyDesired htick fun r hr => ?_
    rw [Request.zone_of_build hr, resolveToggle_zone]

theorem RemediationEvent.exec_imperative (e : RemediationEvent)
    (hmanaged : isReconcileManaged env e.rem.zone = false) (s : World) :
    Imperative env e.condName e.rem.zone s (e.exec env s) := by
  obtain ⟨op, condName, rem, src⟩ := e
  cases op with
  | activate =>
    simp only [exec, activateRemediationFromSource]
    split
    · exact activateInWindow_imperative hmanaged src (le_refl _)
    · split
      · exact activateInWindow_imperative hmanaged src (Nat.le_succ _)
      · exact .nothing _ (Nat.le_succ _)
  | deactivate =>
    have hmanaged : isReconcileManaged env rem.zone = false := hmanaged
    simp only [exec, deactivateRemediationFromSource, hmanaged, Bool.false_eq_true, if_false]
    exact Imperative.of_applyDesired (le_refl _) fun r hr => Request.zone_of_build hr
  | forceDeactivate =>
    simp only [exec]
    rw [forceDeactivate_of_not_managed hmanaged]
    exact Imperative.of_applyDesired (le_refl _) fun r hr => zone_of_forceRequest hr

/-! ## Reading the calls that succeeded -/

@[simp] theorem succeeded_nil : succeeded [] = [] := rfl

theorem succeeded_cons_of_error {e : Sent} (h : e.outcome ≠ .ok) (log : List Sent) :
    succeeded (e :: log) = succeeded log := by
  simp [succeeded, h]

theorem succeeded_sent (req : Request) (log : List Sent) :
    succeeded (stateSent req.stateReq ++ sceneSent req.sceneReq ++ log) =
      stateSent req.stateReq ++ sceneSent req.sceneReq ++ succeeded log := by
  simp only [succeeded, List.filter_append]
  cases req.stateReq <;> cases req.sceneReq <;> rfl

theorem succeeded_sceneSent (req : Request) (log : List Sent) :
    succeeded (sceneSent req.sceneReq ++ log) = sceneSent req.sceneReq ++ succeeded log := by
  simp only [succeeded, List.filter_append]
  cases req.sceneReq <;> rfl

theorem lastSetState_sceneSent (req : Request) (zone : String) (log : List Sent) :
    lastSetState zone (sceneSent req.sceneReq ++ log) = lastSetState zone log := by
  cases req.sceneReq <;> rfl

theorem lastSetState_sent_of_ne {zone : String} (hzone : req.zone ≠ zone) (log : List Sent) :
    lastSetState zone (stateSent req.stateReq ++ sceneSent req.sceneReq ++ log) =
      lastSetState zone log := by
  rw [List.append_assoc, ← lastSetState_sceneSent req zone log]
  cases hreq : req.stateReq with
  | none => rfl
  | some r =>
    have hname : r.name ≠ zone := (req.state_valid r hreq).1 ▸ hzone
    simp [lastSetState, stateSent, Call.stateOn, hname]

theorem lastSetScene_sceneSent (req : Request) (log : List Sent) :
    lastSetScene req.zone (sceneSent req.sceneReq ++ log) =
      (req.sceneReq.map (·.scene)).or (lastSetScene req.zone log) := by
  cases hscene : req.sceneReq with
  | none => rfl
  | some r =>
    have hname := (req.scene_valid r hscene).1
    simp [lastSetScene, sceneSent, Call.sceneOn, hname]

theorem lastSetScene_sent (req : Request) (log : List Sent) :
    lastSetScene req.zone (stateSent req.stateReq ++ sceneSent req.sceneReq ++ log) =
      (req.sceneReq.map (·.scene)).or (lastSetScene req.zone log) := by
  rw [← lastSetScene_sceneSent, List.append_assoc]
  cases req.stateReq <;> rfl

/-- What `applyDesired` does to the cache. -/
inductive CacheEffect (env : Env) (condName : String) (req : Request) (s : World) :
    Option Error × World → Prop where
  | unsent (e : Option Error) (t : World) (htick : s.tick < t.tick)
      (hentries : ∀ key entry, t.condState.lookup key = some entry →
        s.condState.lookup key = some entry)
      (hlog : succeeded t.log = succeeded s.log) : CacheEffect env condName req s (e, t)
  | half (e : Error) (t : World) (htick : s.tick < t.tick)
      (hentries : ∀ key entry, t.condState.lookup key = some entry →
        s.condState.lookup key = some entry)
      (hlog : succeeded t.log = sceneSent req.sceneReq ++ succeeded s.log) :
      CacheEffect env condName req s (some e, t)
  | recorded (t : World) (htick : s.tick < t.tick)
      (hentries : ∀ key entry, t.condState.lookup key = some entry →
        (key = condStateKey condName req.zone ∧
          entry = ⟨req.desiredState, req.desiredScene, env.clock s.tick⟩) ∨
        (key ≠ condStateKey condName req.zone ∧ s.condState.lookup key = some entry))
      (hlog : succeeded t.log =
        stateSent req.stateReq ++ sceneSent req.sceneReq ++ succeeded s.log) :
      CacheEffect env condName req s (none, t)

theorem Outcome.ne_ok_of_error {o : Outcome} {e : Error} (h : o.error = some e) : o ≠ .ok := by
  rintro rfl
  simp [Outcome.error] at h

theorem applyDesired_effect (env : Env) (condName : String) (req : Request) (s : World) :
    CacheEffect env condName req s (applyDesired env condName req.zone (some req) s) := by
  have happlied := applyDesired_applied env condName req.zone req s
  generalize applyDesired env condName req.zone (some req) s = result at happlied
  have hconsulted : ∀ v key entry,
      (s.next.consulted (condStateKey condName req.zone) v).condState.lookup key = some entry →
        s.condState.lookup key = some entry := fun v _ _ h =>
    World.consulted_condState s.next _ v h
  cases happlied with
  | suppressed => exact .unsent none s.next (Nat.lt_succ_self _) (fun _ _ h => h) rfl
  | recorded v _ _ _ hexec =>
    cases hexec with
    | ok _ htick =>
      rw [World.consulted_tick] at htick
      refine .recorded _ htick ?_ ?_
      · intro key entry hentry
        rw [GoMap.lookup_insert_eq] at hentry
        split at hentry
        · rename_i hkey
          exact Or.inl ⟨hkey, (Option.some.inj hentry).symm⟩
        · rename_i hkey
          exact Or.inr ⟨hkey, hconsulted v key entry hentry⟩
      · simp only [World.consulted_log]
        exact succeeded_sent req s.log
  | failed v e _ _ _ hexec =>
    cases hexec with
    | sceneFailed _ _ _ hrpc =>
      refine .unsent _ _ ?_ (hconsulted v) ?_
      · simp only [World.consulted_tick, World.next]
        omega
      · rw [succeeded_cons_of_error (Outcome.ne_ok_of_error hrpc), World.consulted_log]
        rfl
    | stateFailed _ _ _ htick _ hrpc =>
      rw [World.consulted_tick] at htick
      refine .half _ _ (Nat.lt_succ_of_lt htick) (hconsulted v) ?_
      rw [List.cons_append, succeeded_cons_of_error (Outcome.ne_ok_of_error hrpc),
        World.consulted_log, succeeded_sceneSent]
      rfl

/-! ## The state half -/

/-- What the cache entries of a zone under the given names say of the log. -/
structure NamedInv (named : String → Prop) (env : Env) (zone : String) (s : World) : Prop where
  /-- entries are older than every later reading of the clock -/
  clocked : ∀ c, named c → ∀ entry, s.condState.lookup (condStateKey c zone) = some entry →
    ∀ n, s.tick ≤ n → entry.ts ≤ env.clock n
  /-- an entry with a state was preceded by a SetState that succeeded -/
  stated : ∀ c, named c → ∀ entry, s.condState.lookup (condStateKey c zone) = some entry →
    entry.state ≠ .unspecified → ∃ st, lastSetState zone (succeeded s.log) = some st
  specified : lastSetState zone (succeeded s.log) ≠ some .unspecified

abbrev CacheInv : Env → String → World → Prop := NamedInv fun _ => True

namespace NamedInv

variable {named : String → Prop} {zone : String} {t : World}

theorem initial (named : String → Prop) (env : Env) (zone : String) :
    NamedInv named env zone World.initial where
  clocked := by
    intro c _ entry hentry
    simp [World.initial] at hentry
  stated := by
    intro c _ entry hentry
    simp [World.initial] at hentry
  specified := by simp [World.initial, lastSetState]

theorem of_fewer (h : NamedInv named env zone s) (htick : s.tick ≤ t.tick)
    (hentries : ∀ c, named c → ∀ entry, t.condState.lookup (condStateKey c zone) = some entry →
      s.condState.lookup (condStateKey c zone) = some entry)
    (hlast : lastSetState zone (succeeded t.log) = lastSetState zone (succeeded s.log)) :
    NamedInv named env zone t where
  clocked := fun c hc entry hentry n hn =>
    h.clocked c hc entry (hentries c hc entry hentry) n (le_trans htick hn)
  stated := fun c hc entry hentry hstate => by
    rw [hlast]
    exact h.stated c hc entry (hentries c hc entry hentry) hstate
  specified := by
    rw [hlast]
    exact h.specified

theorem applyDesired (hclock : Monotone env.clock) (h : NamedInv named env zone s)
    (hkey : ∀ c, named c → condStateKey c zone = condStateKey condName req.zone → req.zone = zone) :
    NamedInv named env zone (Conditioner.applyDesired env condName req.zone (some req) s).2 := by
  have heffect := applyDesired_effect env condName req s
  generalize Conditioner.applyDesired env condName req.zone (some req) s = result at heffect
  cases heffect with
  | unsent _ _ htick hentries hlog =>
    exact h.of_fewer htick.le (fun _ _ => hentries _) (by rw [hlog])
  | half _ _ htick hentries hlog =>
    exact h.of_fewer htick.le (fun _ _ => hentries _) (by rw [hlog, lastSetState_sceneSent])
  | recorded t htick hentries hlog =>
    by_cases hzone : req.zone = zone
    · subst hzone
      have hlast : lastSetState req.zone (succeeded t.log) =
          (req.stateReq.map (·.state)).or (lastSetState req.zone (succeeded s.log)) := by
        rw [hlog, lastSetState_sent]
      refine ⟨?_, ?_, ?_⟩
      · intro c hc entry hentry n hn
        rcases hentries _ _ hentry with ⟨-, rfl⟩ | ⟨-, hold⟩
        · exact hclock (le_trans htick.le hn)
        · exact h.clocked c hc entry hold n (le_trans htick.le hn)
      · intro c hc entry hentry hstate
        rw [hlast]
        cases hreq : req.stateReq with
        | some r => exact ⟨r.state, rfl⟩
        | none =>
          rcases hentries _ _ hentry with ⟨-, rfl⟩ | ⟨-, hold⟩
          · simp [Request.desiredState, hreq] at hstate
          · exact h.stated c hc entry hold hstate
      · rw [hlast]
        cases hreq : req.stateReq with
        | some r => simpa using (req.state_valid r hreq).2
        | none => exact h.specified
    · refine h.of_fewer htick.le (fun c hc entry hentry => ?_) ?_
      · rcases hentries _ _ hentry with ⟨heq, -⟩ | ⟨-, hold⟩
        · exact absurd (hkey c hc heq) hzone
        · exact hold
      · rw [hlog, lastSetState_sent_of_ne hzone]

/-- **The drift check.**  Without a grace period, on a status that shows the last state set, a
suppressed request asks for that state. -/
theorem suppressed_state (hgrace : env.cfg.oobGracePeriod = 0)
    (h : NamedInv named env req.zone s) (hname : named condName)
    (hentries : t.condState = s.condState)
    (hstatus : ∀ st, lastSetState req.zone (succeeded s.log) = some st →
      env.zoneStatus t.tick t.log req.zone = some st.name)
    {n : Nat} (htick : s.tick ≤ n)
    (hsuppress : cacheVerdict env condName req.zone req (env.clock n) t = .suppress)
    {r : SetStateRequest} (hreq : req.stateReq = some r) :
    lastSetState req.zone (succeeded s.log) = some r.state := by
  obtain ⟨prev, hprev, hsame, -, hdrift⟩ := cacheVerdict_suppress hsuppress
  rw [hentries] at hprev
  have hvalue : prev.state = r.state := hsame.trans (Request.desiredState_of_stateReq hreq)
  have hspecified : prev.state ≠ .unspecified := hvalue ▸ (req.state_valid r hreq).2
  obtain ⟨st, hst⟩ := h.stated condName hname prev hprev hspecified
  have hst' : st ≠ .unspecified := fun heq => h.specified (heq ▸ hst)
  -- the entry is old enough to be checked, so no drift means equal states
  have hsame' : zoneStatusDiffers env req.zone prev.state t = false := by
    by_contra hdiffers
    refine hdrift ⟨hspecified, ?_, by simpa using hdiffers⟩
    rw [hgrace]
    exact Time.sub_nonneg (h.clocked condName hname prev hprev n htick)
  simp only [zoneStatusDiffers, hstatus st hst, ZoneState.name_ne_empty, if_false,
    ZoneState.value_name, Option.getD_some, hst'] at hsame'
  rw [hst, ← hvalue]
  simpa using hsame'

theorem lastSetState_applyDesired (hok : ∀ n c, env.rpc n c = .ok)
    (hgrace : env.cfg.oobGracePeriod = 0) (h : NamedInv named env req.zone s) (condName : String)
    (hname : named condName)
    (hstatus : ∀ n st, lastSetState req.zone (succeeded s.log) = some st →
      env.zoneStatus n s.log req.zone = some st.name) :
    lastSetState req.zone
        (succeeded (Conditioner.applyDesired env condName req.zone (some req) s).2.log) =
      (req.stateReq.map (·.state)).or (lastSetState req.zone (succeeded s.log)) := by
  by_cases hverdict : cacheVerdict env condName req.zone req (env.clock s.tick) s.next = .suppress
  · simp only [Conditioner.applyDesired, hverdict]
    cases hreq : req.stateReq with
    | none => rfl
    | some r =>
      exact h.suppressed_state (t := s.next) hgrace hname rfl (hstatus _) (le_refl _) hverdict hreq
  · rw [(applyDesired_sent hok hverdict).2.1, succeeded_sent, lastSetState_sent]

end NamedInv

/-! ## The scene half -/

def SceneSet (zone : String) (s t : World) (scene : String) : Prop :=
  ∃ sent, succeeded t.log = sent ++ succeeded s.log ∧ ⟨.setScene zone scene, .ok⟩ ∈ sent

/-- When the event sets a scene, no other Condition's entry records a different one; if its own
does, the whole request succeeds. -/
def RemediationEvent.SceneAgrees (env : Env) (s : World) (e : RemediationEvent) : Prop :=
  ∀ scene, SceneSet e.rem.zone s (remediationStep env s e) scene →
    ∀ condName entry, s.condState.lookup (condStateKey condName e.rem.zone) = some entry →
      entry.scene ≠ "" → entry.scene ≠ scene → condName = e.condName ∧ (e.exec env s).1 = none

/-- Recorded scenes are the last one set. -/
def SceneInv (zone : String) (s : World) : Prop :=
  ∀ condName entry, s.condState.lookup (condStateKey condName zone) = some entry →
    entry.scene ≠ "" → lastSetScene zone (succeeded s.log) = some entry.scene

theorem SceneInv.of_fewer {zone : String} {t : World} (h : SceneInv zone s)
    (hentries : ∀ key entry, t.condState.lookup key = some entry →
      s.condState.lookup key = some entry)
    (hlast : lastSetScene zone (succeeded t.log) = lastSetScene zone (succeeded s.log)) :
    SceneInv zone t := fun condName entry hentry hscene =>
  hlast.trans (h condName entry (hentries _ _ hentry) hscene)

theorem sceneSent_mem {r : SetSceneRequest} (h : req.sceneReq = some r) :
    (⟨.setScene req.zone r.scene, .ok⟩ : Sent) ∈ sceneSent req.sceneReq := by
  simp [sceneSent, h, (req.scene_valid r h).1]

theorem SceneInv.applyDesired (h : SceneInv req.zone s)
    (hagrees : ∀ scene,
      SceneSet req.zone s (Conditioner.applyDesired env condName req.zone (some req) s).2 scene →
      ∀ c entry, s.condState.lookup (condStateKey c req.zone) = some entry → entry.scene ≠ "" →
        entry.scene ≠ scene → c = condName ∧
          (Conditioner.applyDesired env condName req.zone (some req) s).1 = none) :
    SceneInv req.zone (Conditioner.applyDesired env condName req.zone (some req) s).2 := by
  have heffect := applyDesired_effect env condName req s
  revert hagrees
  generalize Conditioner.applyDesired env condName req.zone (some req) s = result at heffect
  intro hagrees
  cases heffect with
  | unsent _ _ _ hentries hlog => exact h.of_fewer hentries (by rw [hlog])
  | half _ t _ hentries hlog =>
    cases hscene : req.sceneReq with
    | none =>
      refine h.of_fewer hentries ?_
      rw [hlog, lastSetScene_sceneSent, hscene]
      rfl
    | some r =>
      -- the error makes the guard forbid every other scene
      have hset : SceneSet req.zone s t r.scene := ⟨_, hlog, sceneSent_mem hscene⟩
      intro c entry hentry hnonempty
      rw [hlog, lastSetScene_sceneSent, hscene]
      by_contra hne
      have hother : entry.scene ≠ r.scene := fun heq => hne (by simp [heq])
      have := (hagrees r.scene hset c entry (hentries _ _ hentry) hnonempty hother).2
      simp at this
  | recorded t _ hentries hlog =>
    intro c entry hentry hnonempty
    rw [hlog, lastSetScene_sent]
    rcases hentries _ _ hentry with ⟨-, rfl⟩ | ⟨hkey, hold⟩
    · cases hscene : req.sceneReq with
      | none => simp [Request.desiredScene, hscene] at hnonempty
      | some => simp [Request.desiredScene, hscene]
    · cases hscene : req.sceneReq with
      | none => simpa using h c entry hold hnonempty
      | some r =>
        have hset : SceneSet req.zone s t r.scene :=
          ⟨_, hlog, List.mem_append_right _ (sceneSent_mem hscene)⟩
        by_contra hne
        have hother : entry.scene ≠ r.scene := fun heq => hne (by simp [heq])
        have hown := (hagrees r.scene hset c entry hold hnonempty hother).1
        exact hkey (by rw [hown])

theorem succeeded_adjust {β : Type} (f : Call → Option β)
    (hf : ∀ zone delta, f (.adjustBrightness zone delta) = none) (zone : String) (delta : Int)
    (o : Outcome) (log : List Sent) :
    (succeeded (⟨.adjustBrightness zone delta, o⟩ :: log)).findSome? (fun e => f e.call) =
      (succeeded log).findSome? fun e => f e.call := by
  by_cases ho : o = .ok
  · simp [succeeded, ho, hf]
  · rw [succeeded_cons_of_error ho]

theorem RemediationEvent.inv_step (hclock : Monotone env.clock) (e : RemediationEvent)
    (hmanaged : isReconcileManaged env e.rem.zone = false) (hcache : CacheInv env e.rem.zone s)
    (hscene : SceneInv e.rem.zone s) (hagrees : e.SceneAgrees env s) :
    CacheInv env e.rem.zone (remediationStep env s e) ∧
      SceneInv e.rem.zone (remediationStep env s e) := by
  have himp := e.exec_imperative hmanaged s
  revert hagrees
  unfold RemediationEvent.SceneAgrees remediationStep
  generalize e.exec env s = result at himp
  intro hagrees
  cases himp with
  | nothing _ htick =>
    exact ⟨hcache.of_fewer htick (fun _ _ _ h => h) rfl, hscene.of_fewer (fun _ _ h => h) rfl⟩
  | adjust _ htick =>
    refine ⟨hcache.of_fewer (Nat.le_succ_of_le htick) (fun _ _ _ h => h) ?_,
      hscene.of_fewer (fun _ _ h => h) ?_⟩
    · exact succeeded_adjust (Call.stateOn e.rem.zone) (fun _ _ => rfl) _ _ _ _
    · exact succeeded_adjust (Call.sceneOn e.rem.zone) (fun _ _ => rfl) _ _ _ _
  | request n htick req hzone =>
    rw [← hzone] at hcache hscene hagrees ⊢
    have hcache' : CacheInv env req.zone { s with tick := n } :=
      hcache.of_fewer htick (fun _ _ _ h => h) rfl
    exact ⟨hcache'.applyDesired hclock fun _ _ _ => rfl,
      SceneInv.applyDesired (s := { s with tick := n }) hscene hagrees⟩

/-- **Suppression soundness.**  Along every run on a zone whose status mirrors the last
successful SetState, in which a step that sets a scene leaves no other recorded, `applyDesired`
suppresses a request only if the last successful SetState and SetScene are the request's.  Calls
may fail at any point. -/
theorem suppressed_request_sound (env : Env) (hclock : Monotone env.clock)
    (hgrace : env.cfg.oobGracePeriod = 0) (zone : String)
    (hmanaged : isReconcileManaged env zone = false)
    (hstatus : ∀ n log st, lastSetState zone (succeeded log) = some st →
      env.zoneStatus n log zone = some st.name)
    (events : List RemediationEvent)
    (hrun : Along (remediationStep env) (fun s e => e.rem.zone = zone ∧ e.SceneAgrees env s)
      World.initial events)
    (condName : String) (req : Request) (hzone : req.zone = zone) (n : Nat)
    (hn : (run (remediationStep env) World.initial events).tick ≤ n)
    (hsuppress : cacheVerdict env condName zone req (env.clock n)
      { run (remediationStep env) World.initial events with tick := n + 1 } = .suppress) :
    (∀ r ∈ req.stateReq, lastSetState zone
        (succeeded (run (remediationStep env) World.initial events).log) = some r.state) ∧
      ∀ r ∈ req.sceneReq, lastSetScene zone
        (succeeded (run (remediationStep env) World.initial events).log) = some r.scene := by
  subst hzone
  have hinv : CacheInv env req.zone (run (remediationStep env) World.initial events) ∧
      SceneInv req.zone (run (remediationStep env) World.initial events) := by
    refine @invariant_of_along _ _ _ _
      (fun s => CacheInv env req.zone s ∧ SceneInv req.zone s) ?_ _ _ ⟨.initial _ _ _, ?_⟩ hrun
    · rintro s e ⟨hcache, hscene⟩ ⟨hzone, hagrees⟩
      rw [← hzone] at hmanaged hcache hscene ⊢
      exact e.inv_step hclock hmanaged hcache hscene hagrees
    · intro c entry hentry
      simp [World.initial] at hentry
  generalize run (remediationStep env) World.initial events = s at *
  refine ⟨fun r hr => ?_, fun r hr => ?_⟩
  · exact hinv.1.suppressed_state (t := { s with tick := n + 1 }) hgrace trivial
      rfl (fun st hst => hstatus _ _ _ hst) hn hsuppress hr
  · obtain ⟨prev, hprev, -, hsame, -⟩ := cacheVerdict_suppress hsuppress
    have hvalue : prev.scene = r.scene := by
      rw [hsame, Request.desiredScene, show req.sceneReq = some r from hr]
      rfl
    rw [← hvalue]
    exact hinv.2 condName prev hprev (hvalue ▸ (req.scene_valid r hr).2)

/-! ### Two Conditions on a desk lamp -/

/-- The status mirrors the last successful SetState; the clock advances, the outcome is of
choice. -/
def deskEnv (rpc : Nat → Call → Outcome) : Env :=
  { Env.idle [] with
    cfg := { oobGracePeriod := 0 }
    clock := fun n => n + 1
    rpc := rpc
    zoneStatus := fun _ log zone => (lastSetState zone (succeeded log)).map ZoneState.name }

def workRemediation : Remediation where
  zone := "desk"
  activeState := "on"
  activeScene := "work"
  inactiveState := "off"
  inactiveScene := "dim"

def filmRemediation : Remediation where
  zone := "desk"
  activeState := "on"
  activeScene := "film"

def workOn : RemediationEvent := ⟨.activate, "work", workRemediation, .binding⟩

def filmOn : RemediationEvent := ⟨.activate, "film", filmRemediation, .binding⟩

def workRequest : Request where
  zone := "desk"
  stateReq := some ⟨"desk", .on⟩
  sceneReq := some ⟨"desk", "work"⟩
  nonempty := Or.inl rfl
  state_valid := by simp
  scene_valid := by simp

theorem deskEnv_status (rpc : Nat → Call → Outcome) (n : Nat) (log : List Sent) (st : ZoneState)
    (h : lastSetState "desk" (succeeded log) = some st) :
    (deskEnv rpc).zoneStatus n log "desk" = some st.name := by
  simp [deskEnv, h]

theorem deskEnv_clock (rpc : Nat → Call → Outcome) : Monotone (deskEnv rpc).clock := by
  intro a b hab
  simp only [deskEnv]
  exact add_le_add (Int.ofNat_le.mpr hab) le_rfl

/-- With one Condition on the lamp a suppressed request is what the lamp
shows. -/
theorem desk_work_suppressed :
    let s := run (remediationStep (deskEnv fun _ _ => .ok)) World.initial [workOn]
    lastSetState "desk" (succeeded s.log) = some .on ∧
      lastSetScene "desk" (succeeded s.log) = some "work" := by
  have hagrees : workOn.SceneAgrees (deskEnv fun _ _ => .ok) World.initial := by
    intro scene _ condName entry hentry
    simp [World.initial] at hentry
  have h := suppressed_request_sound (deskEnv fun _ _ => .ok) (deskEnv_clock _) rfl "desk"
    (by decide) (deskEnv_status _) [workOn] ⟨⟨rfl, hagrees⟩, trivial⟩ "work" workRequest rfl
    (run (remediationStep (deskEnv fun _ _ => .ok)) World.initial [workOn]).tick (le_refl _)
    (by decide)
  exact ⟨h.1 _ rfl, h.2 _ rfl⟩

/-- Another Condition sets another scene; the first one's request is suppressed although the
lamp shows the film light. -/
theorem desk_scene_of_other_condition :
    let env := deskEnv fun _ _ => .ok
    let s := run (remediationStep env) World.initial [workOn, filmOn]
    env.cfg.oobGracePeriod = 0 ∧ isReconcileManaged env "desk" = false ∧
      activateRequest workRemediation = some workRequest ∧
      cacheVerdict env "work" "desk" workRequest (env.clock s.tick) s.next = .suppress ∧
      lastSetScene "desk" (succeeded s.log) = some "film" :=
  ⟨rfl, by decide, rfl, by decide, by decide⟩

end IotController.Conditioner
