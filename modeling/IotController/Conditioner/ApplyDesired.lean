/-
  The imperative writer and its cache
  (`applyDesired`, `zoneStatusDiffers`, `zoneState` and the request builders of
  `modules/conditioner/conditioner.go`, `execRequest` of `schedule.go`).

  A request is a SetScene, a SetState or both.  `applyDesired` sends it unless
  the cache of its Condition and zone already records the same pair; what the
  cache decides is `cacheVerdict`.
-/
import IotController.Conditioner.World

namespace IotController.Conditioner

open Foundation Api Proto Compute

/-! ## Requests -/

/-- The table `shortHandStates`.  "toggle" is not in it. -/
def shortHandStates (state : String) : Option ZoneState :=
  if state = "on" then some .on
  else if state = "off" then some .off
  else if state = "offtimer" then some .offtimer
  else if state = "color" then some .color
  else if state = "randomcolor" then some .randomcolor
  else none

def zoneState (state : String) : ZoneState :=
  match shortHandStates state with
  | some z => z
  | none => (ZoneState.value state).getD .unspecified

@[simp] theorem zoneState_empty : zoneState "" = .unspecified := by decide

/-- The message of the RPC. -/
structure SetSceneRequest where
  name : String
  scene : String

/-- The message of the RPC. -/
structure SetStateRequest where
  name : String
  state : ZoneState

/-- The last fields hold for every request that is built: not empty, one zone, no zero values. -/
structure Request where
  zone : String
  stateReq : Option SetStateRequest
  sceneReq : Option SetSceneRequest
  nonempty : stateReq.isSome ∨ sceneReq.isSome
  state_valid : ∀ r ∈ stateReq, r.name = zone ∧ r.state ≠ .unspecified
  scene_valid : ∀ r ∈ sceneReq, r.name = zone ∧ r.scene ≠ ""

variable (env : Env) (req : Request)

namespace Request

def build (zone scene : String) (state : ZoneState) : Option Request :=
  if h : state ≠ .unspecified ∨ scene ≠ "" then some
    { zone := zone
      stateReq := if state ≠ .unspecified then some ⟨zone, state⟩ else none
      sceneReq := if scene ≠ "" then some ⟨zone, scene⟩ else none
      nonempty := by
        rcases h with h | h <;> simp [h]
      state_valid := by
        intro r hr
        split at hr
        · rename_i hstate
          simp only [Option.mem_def, Option.some.injEq] at hr
          exact hr ▸ ⟨rfl, hstate⟩
        · simp at hr
      scene_valid := by
        intro r hr
        split at hr
        · rename_i hscene
          simp only [Option.mem_def, Option.some.injEq] at hr
          exact hr ▸ ⟨rfl, hscene⟩
        · simp at hr }
  else none

theorem build_of_state (zone scene : String) {state : ZoneState} (h : state ≠ .unspecified) :
    ∃ req, build zone scene state = some req ∧ req.zone = zone ∧
      req.stateReq = some ⟨zone, state⟩ := by
  have hcond : state ≠ .unspecified ∨ scene ≠ "" := Or.inl h
  simp only [build, hcond, dif_pos]
  exact ⟨_, rfl, rfl, if_pos h⟩

def desiredState : ZoneState := (req.stateReq.map (·.state)).getD .unspecified

def desiredScene : String := (req.sceneReq.map (·.scene)).getD ""

end Request

def activateRequest (rem : Remediation) : Option Request :=
  Request.build rem.zone rem.activeScene (zoneState rem.activeState)

def deactivateRequest (rem : Remediation) : Option Request :=
  Request.build rem.zone rem.inactiveScene (zoneState rem.inactiveState)

theorem deactivateRequest_eq_none {rem : Remediation} (hstate : rem.inactiveState = "")
    (hscene : rem.inactiveScene = "") : deactivateRequest rem = none := by
  simp [deactivateRequest, hstate, hscene, Request.build]

/-! ## Sending -/

def sendScene (sceneReq : Option SetSceneRequest) (s : World) :
    Option Error × World :=
  match sceneReq with
  | none => (none, s)
  | some r =>
    match s.send env (.setScene r.name r.scene) with
    | (some e, s) => (some (.scene r.name e), s)
    | (none, s) => (none, s)

def sendState (stateReq : Option SetStateRequest) (s : World) :
    Option Error × World :=
  match stateReq with
  | none => (none, s)
  | some r =>
    match s.send env (.setState r.name r.state) with
    | (some e, s) => (some (.state r.name e), s)
    | (none, s) => (none, s)

def execRequest (s : World) : Option Error × World :=
  match sendScene env req.sceneReq s with
  | (some e, s) => (some e, s)
  | (none, s) => sendState env req.stateReq s

def sceneSent (sceneReq : Option SetSceneRequest) : List Sent :=
  (sceneReq.map fun r => (⟨.setScene r.name r.scene, .ok⟩ : Sent)).toList

def stateSent (stateReq : Option SetStateRequest) : List Sent :=
  (stateReq.map fun r => (⟨.setState r.name r.state, .ok⟩ : Sent)).toList

/-- How `execRequest` can end. -/
inductive Executed (env : Env) (req : Request) (s : World) : Option Error × World → Prop where
  | ok (n : Nat) (htick : s.tick ≤ n) :
      Executed env req s
        (none, { s with tick := n, log := stateSent req.stateReq ++ sceneSent req.sceneReq ++ s.log })
  | sceneFailed (r : SetSceneRequest) (e : Error) (hscene : req.sceneReq = some r)
      (hrpc : (env.rpc s.tick (.setScene r.name r.scene)).error = some e) :
      Executed env req s (some (.scene r.name e),
        { s with
          tick := s.tick + 1
          log := ⟨.setScene r.name r.scene, env.rpc s.tick (.setScene r.name r.scene)⟩ :: s.log })
  /-- SetState failed after the scene, if any, was set -/
  | stateFailed (r : SetStateRequest) (e : Error) (n : Nat) (htick : s.tick ≤ n)
      (hstate : req.stateReq = some r)
      (hrpc : (env.rpc n (.setState r.name r.state)).error = some e) :
      Executed env req s (some (.state r.name e),
        { s with
          tick := n + 1
          log := ⟨.setState r.name r.state, env.rpc n (.setState r.name r.state)⟩ ::
            sceneSent req.sceneReq ++ s.log })

theorem execRequest_executed (s : World) :
    Executed env req s (execRequest env req s) := by
  -- the state half, run in a world that differs from `s` by the scene entry
  have hhalf : ∀ n, s.tick ≤ n → Executed env req s (sendState env req.stateReq
      { s with tick := n, log := sceneSent req.sceneReq ++ s.log }) := by
    intro n hn
    cases hstate : req.stateReq with
    | none =>
      have hok : Executed env req s _ := .ok n hn
      rw [hstate] at hok
      exact hok
    | some r =>
      simp only [sendState, World.send]
      cases hrpc : env.rpc n (.setState r.name r.state) with
      | ok =>
        have hok : Executed env req s _ := .ok (n + 1) (Nat.le_succ_of_le hn)
        rw [hstate] at hok
        exact hok
      | failed message | lost message =>
        have hfailed : Executed env req s _ := .stateFailed r _ n hn hstate (by rw [hrpc]; rfl)
        rw [hrpc] at hfailed
        exact hfailed
  simp only [execRequest]
  cases hscene : req.sceneReq with
  | none =>
    have h := hhalf s.tick (le_refl _)
    rw [hscene] at h
    exact h
  | some r =>
    simp only [sendScene, World.send]
    cases hrpc : env.rpc s.tick (.setScene r.name r.scene) with
    | ok =>
      have h := hhalf (s.tick + 1) (Nat.le_succ _)
      rw [hscene] at h
      exact h
    | failed message | lost message =>
      have hfailed : Executed env req s _ := .sceneFailed r _ hscene (by rw [hrpc]; rfl)
      rw [hrpc] at hfailed
      exact hfailed

/-! ## The cache -/

def alertActiveKey (conditionName zone : String) : String := conditionName ++ "/" ++ zone

def condStateKey (conditionName zone : String) : String := conditionName ++ "/" ++ zone

/-- A failed read and a status that names no state count as no drift. -/
def zoneStatusDiffers (zone : String) (expected : ZoneState) (s : World) : Bool :=
  match env.zoneStatus s.tick s.log zone with
  | none => false
  | some status =>
    if status = "" then false
    else
      let actual := (ZoneState.value status).getD .unspecified
      if actual = .unspecified then false else actual ≠ expected

/-- What the look-up in the cache decides. -/
inductive CacheVerdict where
  | suppress
  | invalidate
  | apply
  deriving DecidableEq

/-- The look-up of `applyDesired`. -/
def cacheVerdict (condName zone : String) (req : Request) (now : Time) (s : World) :
    CacheVerdict :=
  match s.condState.lookup (condStateKey condName zone) with
  | none => .apply
  | some prev =>
    let fresh := !prev.ts.isZero && now.sub prev.ts < env.cfg.applyDesiredRefreshAge
    if fresh && prev.state == req.desiredState && prev.scene == req.desiredScene then
      if prev.state ≠ .unspecified ∧ env.cfg.oobGracePeriod ≤ now.sub prev.ts ∧
          zoneStatusDiffers env zone prev.state s then .invalidate
      else .suppress
    else .apply

def applyAndRecord (condName zone : String) (req : Request) (now : Time) (s : World) :
    Option Error × World :=
  match execRequest env req s with
  | (some e, s) => (some e, s)
  | (none, s) =>
    let entry : ConditionState :=
      { state := req.desiredState, scene := req.desiredScene, ts := now }
    (none, { s with condState := s.condState.insert (condStateKey condName zone) entry })

/-- Send the request, unless the cache suppresses it. -/
def applyDesired (condName zone : String) (req : Option Request) (s : World) :
    Option Error × World :=
  match req with
  | none => (none, s)
  | some req =>
    let now := env.clock s.tick
    let s := s.next
    match cacheVerdict env condName zone req now s with
    | .suppress => (none, s)
    | .invalidate =>
      applyAndRecord env condName zone req now
        { s with condState := s.condState.erase (condStateKey condName zone) }
    | .apply => applyAndRecord env condName zone req now s

def World.consulted (s : World) (key : String) : CacheVerdict → World
  | .invalidate => { s with condState := s.condState.erase key }
  | _ => s

section Consulted

variable (s : World) (key : String) (v : CacheVerdict)

@[simp] theorem World.consulted_tick : (s.consulted key v).tick = s.tick := by cases v <;> rfl

@[simp] theorem World.consulted_log : (s.consulted key v).log = s.log := by cases v <;> rfl

@[simp] theorem World.consulted_alertActive :
    (s.consulted key v).alertActive = s.alertActive := by cases v <;> rfl

theorem World.consulted_condState {key' : String} {entry : ConditionState}
    (h : (s.consulted key v).condState.lookup key' = some entry) :
    s.condState.lookup key' = some entry := by
  cases v with
  | suppress | apply => exact h
  | invalidate =>
    simp only [World.consulted, GoMap.lookup_erase_eq] at h
    split at h
    · cases h
    · exact h

theorem World.consulted_condState_of_ne {key' : String} (hne : key' ≠ key) :
    (s.consulted key v).condState.lookup key' = s.condState.lookup key' := by
  cases v with
  | suppress | apply => rfl
  | invalidate => simp [World.consulted, hne]

end Consulted

/-- How `applyDesired` can end. -/
inductive Applied (env : Env) (condName zone : String) (req : Request) (s : World) :
    Option Error × World → Prop where
  | suppressed
      (hverdict : cacheVerdict env condName zone req (env.clock s.tick) s.next = .suppress) :
      Applied env condName zone req s (none, s.next)
  | recorded (v : CacheVerdict) (t : World)
      (hverdict : cacheVerdict env condName zone req (env.clock s.tick) s.next = v)
      (hsend : v ≠ .suppress)
      (hexec : Executed env req (s.next.consulted (condStateKey condName zone) v) (none, t)) :
      Applied env condName zone req s
        (none, { t with
          condState := t.condState.insert (condStateKey condName zone)
            ⟨req.desiredState, req.desiredScene, env.clock s.tick⟩ })
  | failed (v : CacheVerdict) (e : Error) (t : World)
      (hverdict : cacheVerdict env condName zone req (env.clock s.tick) s.next = v)
      (hsend : v ≠ .suppress)
      (hexec : Executed env req (s.next.consulted (condStateKey condName zone) v) (some e, t)) :
      Applied env condName zone req s (some e, t)

theorem applyDesired_applied (condName zone : String) (req : Request) (s : World) :
    Applied env condName zone req s (applyDesired env condName zone (some req) s) := by
  have hrecord : ∀ v, cacheVerdict env condName zone req (env.clock s.tick) s.next = v →
      v ≠ .suppress → Applied env condName zone req s
        (applyAndRecord env condName zone req (env.clock s.tick)
          (s.next.consulted (condStateKey condName zone) v)) := by
    intro v hverdict hsend
    have hexec := execRequest_executed env req (s.next.consulted (condStateKey condName zone) v)
    simp only [applyAndRecord]
    revert hexec
    generalize execRequest env req (s.next.consulted (condStateKey condName zone) v) = result
    obtain ⟨_ | e, t⟩ := result
    · intro hexec; exact .recorded v t hverdict hsend hexec
    · intro hexec; exact .failed v e t hverdict hsend hexec
  simp only [applyDesired]
  cases hverdict : cacheVerdict env condName zone req (env.clock s.tick) s.next with
  | suppress => exact .suppressed hverdict
  | invalidate => exact hrecord .invalidate hverdict (by decide)
  | apply => exact hrecord .apply hverdict (by decide)

theorem cacheVerdict_suppress {env : Env} {condName zone : String} {req : Request} {now : Time}
    {s : World} (h : cacheVerdict env condName zone req now s = .suppress) :
    ∃ prev, s.condState.lookup (condStateKey condName zone) = some prev ∧
      prev.state = req.desiredState ∧ prev.scene = req.desiredScene ∧
      ¬ (prev.state ≠ .unspecified ∧ env.cfg.oobGracePeriod ≤ now.sub prev.ts ∧
        zoneStatusDiffers env zone prev.state s = true) := by
  cases hprev : s.condState.lookup (condStateKey condName zone) with
  | none => simp [cacheVerdict, hprev] at h
  | some prev =>
    simp only [cacheVerdict, hprev] at h
    split at h
    · rename_i hsame
      simp only [Bool.and_eq_true, beq_iff_eq] at hsame
      split at h
      · cases h
      · rename_i hdrift
        exact ⟨prev, rfl, hsame.1.2, hsame.2, hdrift⟩
    · cases h

/-! ## A zone with one writer -/

theorem Request.desiredState_of_stateReq {req : Request} {r : SetStateRequest}
    (h : req.stateReq = some r) : req.desiredState = r.state := by
  simp [desiredState, h]

theorem lastSetState_sent (log : List Sent) :
    lastSetState req.zone (stateSent req.stateReq ++ sceneSent req.sceneReq ++ log) =
      (req.stateReq.map (·.state)).or (lastSetState req.zone log) := by
  have hscene : lastSetState req.zone (sceneSent req.sceneReq ++ log) =
      lastSetState req.zone log := by
    cases req.sceneReq <;> rfl
  cases hstate : req.stateReq with
  | none => exact hscene
  | some r =>
    have hname := (req.state_valid r hstate).1
    simp [lastSetState, stateSent, Call.stateOn, hname]

theorem applyDesired_sent {env : Env} (hok : ∀ n c, env.rpc n c = .ok)
    {condName zone : String} {req : Request} {s : World}
    (hsend : cacheVerdict env condName zone req (env.clock s.tick) s.next ≠ .suppress) :
    (applyDesired env condName zone (some req) s).1 = none ∧
      (applyDesired env condName zone (some req) s).2.log =
        stateSent req.stateReq ++ sceneSent req.sceneReq ++ s.log ∧
      (applyDesired env condName zone (some req) s).2.condState.lookup
          (condStateKey condName zone) =
        some ⟨req.desiredState, req.desiredScene, env.clock s.tick⟩ := by
  have happlied := applyDesired_applied env condName zone req s
  generalize applyDesired env condName zone (some req) s = result at happlied
  cases happlied with
  | suppressed hverdict => exact absurd hverdict hsend
  | recorded _ _ _ _ hexec =>
    cases hexec with
    | ok =>
      refine ⟨rfl, ?_, AList.lookup_insert _⟩
      simp [World.next]
  | failed _ e _ _ _ hexec =>
    cases hexec with
    | sceneFailed _ _ _ hrpc | stateFailed _ _ _ _ _ hrpc => simp [hok, Outcome.error] at hrpc

/-- An entry has the last state that was set. -/
def CacheCoherent (condName zone : String) (s : World) : Prop :=
  ∀ entry, s.condState.lookup (condStateKey condName zone) = some entry →
    entry.state ≠ .unspecified → lastSetState zone s.log = some entry.state

theorem CacheCoherent.initial (condName zone : String) :
    CacheCoherent condName zone World.initial := by
  intro entry hentry
  simp [World.initial] at hentry

theorem applyDesired_coherent {env : Env} (hok : ∀ n c, env.rpc n c = .ok)
    {condName : String} {req : Request} {s : World} (h : CacheCoherent condName req.zone s) :
    (applyDesired env condName req.zone (some req) s).1 = none ∧
      CacheCoherent condName req.zone (applyDesired env condName req.zone (some req) s).2 ∧
      lastSetState req.zone (applyDesired env condName req.zone (some req) s).2.log =
        (req.stateReq.map (·.state)).or (lastSetState req.zone s.log) := by
  by_cases hverdict : cacheVerdict env condName req.zone req (env.clock s.tick) s.next = .suppress
  · obtain ⟨prev, hprev, hsame, -, -⟩ := cacheVerdict_suppress hverdict
    simp only [applyDesired, hverdict]
    refine ⟨trivial, h, ?_⟩
    cases hstate : req.stateReq with
    | none => rfl
    | some r =>
      have hvalue : prev.state = r.state := hsame.trans (Request.desiredState_of_stateReq hstate)
      have hlast := h prev hprev (hvalue ▸ (req.state_valid r hstate).2)
      rw [hvalue] at hlast
      exact hlast
  · obtain ⟨herror, hlog, hentry⟩ := applyDesired_sent hok hverdict
    have hlast := lastSetState_sent req s.log
    rw [← hlog] at hlast
    refine ⟨herror, ?_, hlast⟩
    intro entry hlookup hspecified
    rw [hentry, Option.some.injEq] at hlookup
    subst hlookup
    rw [hlast]
    cases hstate : req.stateReq with
    | none => simp [Request.desiredState, hstate] at hspecified
    | some => simp [Request.desiredState, hstate]

end IotController.Conditioner
