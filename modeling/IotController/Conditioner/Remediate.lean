/-
  Activating and deactivating a Remediation
  (`activateRemediationFromSource`, `deactivateRemediationFromSource` and
  `forceDeactivateFromSource` of `modules/conditioner/conditioner.go`).

  A reconcile-managed zone goes to the reconciler, any other zone to `applyDesired`.
-/
import IotController.Conditioner.Bridge

namespace IotController.Conditioner

open Foundation Api Proto Compute

/-! ## The three entry points -/

/-- `strings.EqualFold(state, "toggle")`; no letter of the word folds outside ASCII. -/
def isToggle (state : String) : Bool := state.toList.map Char.toLower = "toggle".toList

/-- A zone that looks lit goes off, any other goes on. -/
def resolveToggleState (env : Env) (zone : String) (s : World) : String :=
  match env.zoneStatus s.tick s.log zone with
  | none => "on"
  | some status =>
    if status = ZoneState.on.name ∨ status = ZoneState.offtimer.name ∨
        status = ZoneState.color.name ∨ status = ZoneState.randomcolor.name then "off"
    else "on"

def adjustBrightness (env : Env) (zone : String) (delta : Int) (s : World) :
    Option Error × World :=
  s.send env (.adjustBrightness zone (Int.bmod delta (2 ^ 32)))

def resolveToggle (env : Env) (rem : Remediation) (s : World) : Remediation :=
  if isToggle rem.activeState then
    { rem with activeState := resolveToggleState env rem.zone s }
  else rem

section

variable {σ : Type} (h : Host σ)

def activateInWindow (condName : String) (rem : Remediation) (src : SourceKind) (s : σ) :
    Option Error × σ :=
  if rem.activeBrightnessDelta ≠ 0 then
    h.lift (adjustBrightness h.env rem.zone rem.activeBrightnessDelta) s
  else
    let resolved := resolveToggle h.env rem (h.world s)
    if isReconcileManaged h.env rem.zone then bridgeImperativeActivate h condName resolved src s
    else h.lift (applyDesired h.env condName rem.zone (activateRequest resolved)) s

/-- The clock is read only for a Remediation that has intervals. -/
def activateRemediationFromSource (condName : String) (rem : Remediation) (src : SourceKind)
    (s : σ) : Option Error × σ :=
  if rem.timeIntervals = [] then activateInWindow h condName rem src s
  else if withinActiveWindow h.env rem (h.env.clock (h.world s).tick) then
    activateInWindow h condName rem src (h.next s)
  else (none, h.next s)

def activateRemediation (condName : String) (rem : Remediation) (s : σ) : Option Error × σ :=
  activateRemediationFromSource h condName rem .binding s

end

def deactivateRemediationFromSource (env : Env) (condName : String) (rem : Remediation)
    (src : SourceKind) (s : World) : Option Error × World :=
  if isReconcileManaged env rem.zone then removeActivation env rem.zone src condName s
  else applyDesired env condName rem.zone (deactivateRequest rem) s

def deactivateRemediation (env : Env) (condName : String) (rem : Remediation) (s : World) :
    Option Error × World :=
  deactivateRemediationFromSource env condName rem .binding s

def inferDefaultInactive (rem : Remediation) : ZoneState :=
  match zoneState rem.activeState with
  | .on | .color | .randomcolor | .offtimer => .off
  | .unspecified | .off => .unspecified

def forceDeactivateFromSource (env : Env) (condName : String) (rem : Remediation)
    (src : SourceKind) (s : World) : Option Error × World :=
  if isReconcileManaged env rem.zone then removeActivation env rem.zone src condName s
  else match deactivateRequest rem with
    | some req => applyDesired env condName rem.zone (some req) s
    | none =>
      applyDesired env condName rem.zone (Request.build rem.zone "" (inferDefaultInactive rem)) s

def forceRequest (rem : Remediation) : Option Request :=
  (deactivateRequest rem).or (Request.build rem.zone "" (inferDefaultInactive rem))

theorem forceDeactivate_of_not_managed {env : Env} {rem : Remediation}
    (hzone : isReconcileManaged env rem.zone = false) (condName : String) (src : SourceKind)
    (s : World) :
    forceDeactivateFromSource env condName rem src s =
      applyDesired env condName rem.zone (forceRequest rem) s := by
  simp only [forceDeactivateFromSource, hzone, forceRequest]
  cases deactivateRequest rem <;> rfl

theorem isToggle_of_zoneState {state : String} (h : zoneState state ≠ .unspecified) :
    isToggle state = false := by
  by_contra htoggle
  -- no name of a state has the length of the word
  have hfold : state.toList.map Char.toLower = "toggle".toList :=
    of_decide_eq_true (Bool.eq_true_of_not_eq_false htoggle)
  have hlength : state.toList.length = 6 := by
    rw [← List.length_map (f := Char.toLower), hfold]
    decide
  have hname : ∀ name : String, state = name → name.toList.length = 6 :=
    fun name hname => hname ▸ hlength
  unfold zoneState shortHandStates at h
  split at h
  · rename_i z hz
    split_ifs at hz with h₁ h₂ h₃ h₄ h₅
    · exact absurd (hname _ h₁) (by decide)
    · exact absurd (hname _ h₂) (by decide)
    · exact absurd (hname _ h₃) (by decide)
    · exact absurd (hname _ h₄) (by decide)
    · exact absurd (hname _ h₅) (by decide)
  · cases hvalue : ZoneState.value state with
    | none => simp [hvalue] at h
    | some z =>
      have hz : z.name = state := by
        have := List.find?_some hvalue
        simpa using this
      have hz' := hname z.name hz.symm
      cases z <;> exact absurd hz' (by decide)

theorem activateInWindow_of_concrete {env : Env} {rem : Remediation}
    (hzone : isReconcileManaged env rem.zone = false) (hdelta : rem.activeBrightnessDelta = 0)
    (hstate : zoneState rem.activeState ≠ .unspecified) (condName : String) (src : SourceKind)
    (s : World) :
    activateInWindow env condName rem src s =
      applyDesired env condName rem.zone (activateRequest rem) s := by
  simp [activateInWindow, hdelta, hzone, resolveToggle, isToggle_of_zoneState hstate]

/-! ## Frames -/

/-- What an operation for one Condition and zone leaves alone. -/
structure OwnFrame (condName zone : String) (s t : World) : Prop where
  tick : s.tick ≤ t.tick
  log : ∃ sent, t.log = sent ++ s.log ∧ ∀ e ∈ sent, e.call.zone = zone
  condState : ∀ key, key ≠ condStateKey condName zone →
    t.condState.lookup key = s.condState.lookup key
  alertActive : ∀ key, key ≠ alertActiveKey condName zone →
    t.alertActive.lookup key = s.alertActive.lookup key

namespace OwnFrame

variable {condName zone : String} {s t u : World}

theorem refl (condName zone : String) (s : World) : OwnFrame condName zone s s where
  tick := le_refl _
  log := ⟨[], rfl, by simp⟩
  condState := fun _ _ => rfl
  alertActive := fun _ _ => rfl

theorem trans (hst : OwnFrame condName zone s t) (htu : OwnFrame condName zone t u) :
    OwnFrame condName zone s u where
  tick := le_trans hst.tick htu.tick
  log := sent_trans hst.log htu.log
  condState := fun key hkey => (htu.condState key hkey).trans (hst.condState key hkey)
  alertActive := fun key hkey => (htu.alertActive key hkey).trans (hst.alertActive key hkey)

theorem next (condName zone : String) (s : World) : OwnFrame condName zone s s.next :=
  { refl condName zone s with tick := Nat.le_succ _ }

theorem callsOn_eq (h : OwnFrame condName zone s t) {z : String} (hz : z ≠ zone) :
    callsOn z t.log = callsOn z s.log := by
  obtain ⟨sent, hlog, hcalls⟩ := h.log
  have hnone : callsOn z sent = [] := by
    rw [callsOn, List.filter_eq_nil_iff]
    intro e he
    rw [hcalls e he]
    simpa using fun heq => hz heq.symm
  simp only [callsOn] at hnone ⊢
  rw [hlog, List.filter_append, hnone, List.nil_append]

theorem lastSetState_eq (h : OwnFrame condName zone s t) {z : String} (hz : z ≠ zone) :
    lastSetState z t.log = lastSetState z s.log := by
  rw [← lastSetState_callsOn z t.log, h.callsOn_eq hz, lastSetState_callsOn]

end OwnFrame

theorem ReconcilerFrame.ownFrame {zone : String} {s t : World} (h : ReconcilerFrame zone s t)
    (condName : String) : OwnFrame condName zone s t where
  tick := h.tick
  log := by
    obtain ⟨sent, hlog, hcalls⟩ := h.log
    refine ⟨sent, hlog, fun e he => ?_⟩
    obtain ⟨v, hcall⟩ := hcalls e he
    rw [hcall]
    rfl
  condState := fun key _ => by rw [h.condState]
  alertActive := fun key _ => by rw [h.alertActive]

theorem World.send_frame (env : Env) (condName : String) (c : Call) (s : World) :
    OwnFrame condName c.zone s (s.send env c).2 where
  tick := Nat.le_succ _
  log := ⟨[⟨c, env.rpc s.tick c⟩], rfl, by simp⟩
  condState := fun _ _ => rfl
  alertActive := fun _ _ => rfl

theorem mem_sceneSent {req : Request} {e : Sent} (he : e ∈ sceneSent req.sceneReq) :
    e.call.zone = req.zone := by
  cases hscene : req.sceneReq with
  | none => simp [sceneSent, hscene] at he
  | some r =>
    simp only [sceneSent, hscene, Option.map_some, Option.toList_some, List.mem_singleton] at he
    rw [he]
    exact (req.scene_valid r hscene).1

theorem mem_stateSent {req : Request} {e : Sent} (he : e ∈ stateSent req.stateReq) :
    e.call.zone = req.zone := by
  cases hstate : req.stateReq with
  | none => simp [stateSent, hstate] at he
  | some r =>
    simp only [stateSent, hstate, Option.map_some, Option.toList_some, List.mem_singleton] at he
    rw [he]
    exact (req.state_valid r hstate).1

theorem Executed.frame {env : Env} {req : Request} {s : World} {result : Option Error × World}
    (h : Executed env req s result) (condName : String) :
    OwnFrame condName req.zone s result.2 := by
  cases h with
  | ok _ htick =>
    refine { OwnFrame.refl condName req.zone s with tick := htick, log := ?_ }
    refine ⟨stateSent req.stateReq ++ sceneSent req.sceneReq, rfl, fun e he => ?_⟩
    rcases List.mem_append.mp he with he | he
    · exact mem_stateSent he
    · exact mem_sceneSent he
  | sceneFailed r e hscene =>
    refine { OwnFrame.refl condName req.zone s with tick := Nat.le_succ _, log := ?_ }
    refine ⟨[_], rfl, fun e he => ?_⟩
    rw [List.mem_singleton.mp he]
    exact (req.scene_valid r hscene).1
  | stateFailed r e _ htick hstate =>
    refine { OwnFrame.refl condName req.zone s with tick := Nat.le_succ_of_le htick, log := ?_ }
    refine ⟨_ :: sceneSent req.sceneReq, rfl, fun e he => ?_⟩
    rcases List.mem_cons.mp he with rfl | he
    · exact (req.state_valid r hstate).1
    · exact mem_sceneSent he

theorem Executed.world {env : Env} {req : Request} {s : World} {result : Option Error × World}
    (h : Executed env req s result) :
    ∃ n log, result.2 = { s with tick := n, log := log } := by
  cases h <;> exact ⟨_, _, rfl⟩

theorem World.consulted_frame (s : World) (condName zone : String) (v : CacheVerdict) :
    OwnFrame condName zone s (s.consulted (condStateKey condName zone) v) where
  tick := by simp
  log := ⟨[], by simp, by simp⟩
  condState := fun _ hkey => s.consulted_condState_of_ne _ v hkey
  alertActive := by simp

theorem applyDesired_frame (env : Env) (condName zone : String) (req : Option Request)
    (hzone : ∀ r ∈ req, r.zone = zone) (s : World) :
    OwnFrame condName zone s (applyDesired env condName zone req s).2 := by
  cases req with
  | none => exact OwnFrame.refl condName zone s
  | some req =>
    have hz : req.zone = zone := hzone req rfl
    have h := applyDesired_applied env condName zone req s
    generalize applyDesired env condName zone (some req) s = result at h
    have hbase : ∀ v, OwnFrame condName zone s
        (s.next.consulted (condStateKey condName zone) v) := fun v =>
      (OwnFrame.next condName zone s).trans (s.next.consulted_frame condName zone v)
    cases h with
    | suppressed => exact OwnFrame.next condName zone s
    | recorded v _ _ _ hexec =>
      have hsent := (hbase v).trans (hz ▸ hexec.frame condName)
      exact { hsent with
        condState := fun key hkey =>
          (AList.lookup_insert_ne hkey).trans (hsent.condState key hkey) }
    | failed v _ _ _ _ hexec => exact (hbase v).trans (hz ▸ hexec.frame condName)

theorem applyDesired_world (env : Env) (condName zone : String) (req : Option Request)
    (s : World) :
    ∃ n log cache, (applyDesired env condName zone req s).2 =
      { s with tick := n, log := log, condState := cache } := by
  have hconsulted : ∀ v, ∃ cache,
      s.next.consulted (condStateKey condName zone) v = { s.next with condState := cache } := by
    intro v
    cases v <;> exact ⟨_, rfl⟩
  cases req with
  | none => exact ⟨_, _, _, rfl⟩
  | some req =>
    have h := applyDesired_applied env condName zone req s
    generalize applyDesired env condName zone (some req) s = result at h
    cases h with
    | suppressed => exact ⟨_, _, _, rfl⟩
    | recorded v _ _ _ hexec | failed v _ _ _ _ hexec =>
      obtain ⟨n, log, rfl⟩ := hexec.world
      obtain ⟨cache, hcache⟩ := hconsulted v
      exact ⟨n, log, _, by rw [hcache]; rfl⟩

theorem applyDesired_alertActive (env : Env) (condName zone : String) (req : Option Request)
    (s : World) : (applyDesired env condName zone req s).2.alertActive = s.alertActive := by
  obtain ⟨n, log, cache, h⟩ := applyDesired_world env condName zone req s
  rw [h]

theorem applyDesired_policies (env : Env) (condName zone : String) (req : Option Request)
    (s : World) : (applyDesired env condName zone req s).2.policies = s.policies := by
  obtain ⟨n, log, cache, h⟩ := applyDesired_world env condName zone req s
  rw [h]

theorem Request.zone_of_build {zone scene : String} {state : ZoneState} {r : Request}
    (h : r ∈ Request.build zone scene state) : r.zone = zone := by
  simp only [Request.build, Option.mem_def] at h
  split at h
  · cases h; rfl
  · cases h

theorem zone_of_forceRequest {rem : Remediation} {r : Request} (h : r ∈ forceRequest rem) :
    r.zone = rem.zone := by
  rcases Option.or_eq_some_iff.mp h with h | ⟨-, h⟩
  · exact Request.zone_of_build h
  · exact Request.zone_of_build h

@[simp] theorem resolveToggle_zone (env : Env) (rem : Remediation) (s : World) :
    (resolveToggle env rem s).zone = rem.zone := by
  unfold resolveToggle
  split <;> rfl

section Frames

variable (env : Env) (condName : String) (rem : Remediation) (src : SourceKind) (s : World)

theorem activateInWindow_frame :
    OwnFrame condName rem.zone s (activateInWindow env condName rem src s).2 ∧
      (activateInWindow env condName rem src s).2.alertActive = s.alertActive := by
  unfold activateInWindow
  split
  · exact ⟨World.send_frame env condName (.adjustBrightness rem.zone _) s, rfl⟩
  · split
    · have hpush := bridgeImperativeActivate_pushRun env condName (resolveToggle env rem s) src s
      rw [resolveToggle_zone] at hpush
      exact ⟨((ReconcilerFrame.next rem.zone s).trans hpush.frame).ownFrame condName,
        hpush.frame.alertActive⟩
    · refine ⟨applyDesired_frame env condName rem.zone _ (fun r hr => ?_) s,
        applyDesired_alertActive env condName rem.zone _ s⟩
      rw [Request.zone_of_build hr, resolveToggle_zone]

theorem activate_frame :
    OwnFrame condName rem.zone s (activateRemediationFromSource env condName rem src s).2 ∧
      (activateRemediationFromSource env condName rem src s).2.alertActive = s.alertActive := by
  have hnext := OwnFrame.next condName rem.zone s
  unfold activateRemediationFromSource
  split
  · exact activateInWindow_frame env condName rem src s
  · split
    · obtain ⟨hframe, htracked⟩ := activateInWindow_frame env condName rem src s.next
      exact ⟨hnext.trans hframe, htracked⟩
    · exact ⟨hnext, rfl⟩

theorem removeActivation_ownFrame :
    OwnFrame condName rem.zone s (removeActivation env rem.zone src condName s).2 ∧
      (removeActivation env rem.zone src condName s).2.alertActive = s.alertActive :=
  have h := removeActivation_frame env rem.zone src condName s
  ⟨h.ownFrame condName, h.alertActive⟩

theorem deactivate_frame :
    OwnFrame condName rem.zone s (deactivateRemediationFromSource env condName rem src s).2 ∧
      (deactivateRemediationFromSource env condName rem src s).2.alertActive = s.alertActive := by
  unfold deactivateRemediationFromSource
  split
  · exact removeActivation_ownFrame env condName rem src s
  · exact ⟨applyDesired_frame env condName rem.zone _ (fun r hr => Request.zone_of_build hr) s,
      applyDesired_alertActive env condName rem.zone _ s⟩

theorem forceDeactivate_frame :
    OwnFrame condName rem.zone s (forceDeactivateFromSource env condName rem src s).2 ∧
      (forceDeactivateFromSource env condName rem src s).2.alertActive = s.alertActive := by
  cases hzone : isReconcileManaged env rem.zone with
  | true =>
    simp only [forceDeactivateFromSource, hzone, if_true]
    exact removeActivation_ownFrame env condName rem src s
  | false =>
    rw [forceDeactivate_of_not_managed hzone]
    exact ⟨applyDesired_frame env condName rem.zone _ (fun r hr => zone_of_forceRequest hr) s,
      applyDesired_alertActive env condName rem.zone _ s⟩

end Frames

end IotController.Conditioner
