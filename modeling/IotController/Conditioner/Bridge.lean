/-
  The translation of Remediations into Activations
  (`modules/conditioner/bridge.go`).

  Both bridges turn a Remediation into a list of claims, one for each axis it sets, and push
  them one after another: the evaluator's bridge ignores errors, the imperative one stops at
  the first.
-/
import IotController.Conditioner.ApplyDesired
import IotController.Conditioner.ReconcilerFrame

namespace IotController.Conditioner

open Foundation Api Proto Compute

/-! ## Constants -/

def bridgePushPriority : Int := 50

def bridgeScenePriority : Int := 60

def bridgeImperativePriority : Int := 100

def bridgeAlertPriority : Int := 200

def bridgeTTLMultiplier : Int := 3

def bridgeImperativeTTL : Duration := 5 * minute

/-! ## Claims -/

/-- One push of a bridge: the axis, the Computer and its arguments. -/
structure Claim where
  axis : AxisKind
  computerName : String
  args : Args

def Claim.static (axis : AxisKind) (key value : String) : Claim :=
  { axis := axis, computerName := staticName, args := AList.singleton key value }

variable (env : Env) (condName : String) (rem : Remediation)

def stateClaims : List Claim :=
  if rem.activeState ≠ "" ∧ zoneState rem.activeState ≠ .unspecified then
    [Claim.static .state "state" (zoneState rem.activeState).name]
  else []

def sceneClaims (scene : Scene) : List Claim :=
  (if scene.brightness ≠ "" then [Claim.static .brightness "brightness" scene.brightness]
    else []) ++
  (if scene.colorTemperature ≠ "" then
    [Claim.static .colorTemperature "color_temperature" scene.colorTemperature] else []) ++
  (if scene.color ≠ "" then [Claim.static .color "color" scene.color] else [])

def augmentedArgs : Args :=
  (rem.activeComputeArgs.insert "_condition" condName).insert "_zone" rem.zone

def computeClaims (out : ApplyValues) : List Claim :=
  out.claimedAxes.map fun axis =>
    { axis := axis, computerName := rem.activeCompute, args := augmentedArgs condName rem }

/-! ## The evaluator's bridge -/

def timeWindowTTL : Duration :=
  if bridgeTTLMultiplier * env.cfg.evaluationInterval ≤ 0 then 3 * minute
  else bridgeTTLMultiplier * env.cfg.evaluationInterval

def timeWindowActivation (now : Time) (priority : Int) (c : Claim) : Activation where
  computerName := c.computerName
  args := c.args
  sourceKind := .timeWindow
  sourceName := condName
  pushedAt := some now
  ttl := some (timeWindowTTL env)
  priority := priority
  pushPolicy := .refresh

section

variable {σ : Type} (h : Host σ) (condName : String) (rem : Remediation)

def pushClaims (zone : String) (activation : Claim → Activation) (claims : List Claim) (s : σ) :
    σ :=
  claims.foldl (fun s c => (pushActivation h zone c.axis (some (activation c)) s).2) s

def bridgeActiveCompute (now : Time) (s : σ) : σ :=
  match h.env.getComputer rem.activeCompute with
  | none => s
  | some comp =>
    match h.invoke rem.activeCompute comp now (augmentedArgs condName rem) s with
    | (.error _, s) => s
    | (.ok out, s) =>
      pushClaims h rem.zone (timeWindowActivation h.env condName now bridgePushPriority)
        (computeClaims condName rem out) s

def bridgeActiveScene (now : Time) (s : σ) : σ :=
  match h.env.scene (h.world s).tick rem.activeScene with
  | none => s
  | some scene =>
    pushClaims h rem.zone (timeWindowActivation h.env condName now bridgeScenePriority)
      (sceneClaims scene) s

def bridgeReconciledRemediation (s : σ) : σ :=
  let now := h.env.clock (h.world s).tick
  let s := h.next s
  if rem.timeIntervals ≠ [] ∧ withinActiveWindow h.env rem now = false then s
  else if rem.activeCompute ≠ "" then bridgeActiveCompute h condName rem now s
  else
    let s := pushClaims h rem.zone (timeWindowActivation h.env condName now bridgeScenePriority)
      (stateClaims rem) s
    if rem.activeScene ≠ "" then bridgeActiveScene h condName rem now s else s

end

/-! ## The imperative bridge -/

def ttlFor (computerName : String) (args : Args) : Duration :=
  match env.getComputer computerName with
  | none => bridgeImperativeTTL
  | some comp =>
    match comp.suggestedTTL with
    | none => bridgeImperativeTTL
    | some suggestedTTL =>
      if 0 < suggestedTTL args then suggestedTTL args else bridgeImperativeTTL

def imperativePriority (src : SourceKind) : Int :=
  if src = .alert then bridgeAlertPriority else bridgeImperativePriority

def imperativeActivation (now : Time) (src : SourceKind) (c : Claim) : Activation where
  computerName := c.computerName
  args := c.args
  sourceKind := src
  sourceName := condName
  pushedAt := some now
  ttl := some (ttlFor env c.computerName c.args)
  priority := imperativePriority src
  pushPolicy := .refresh

section

variable {σ : Type} (h : Host σ) (condName : String) (rem : Remediation)

def pushClaimsUntilError (zone : String) (activation : Claim → Activation) :
    List Claim → σ → Option Error × σ
  | [], s => (none, s)
  | c :: rest, s =>
    match pushActivation h zone c.axis (some (activation c)) s with
    | (some e, s) => (some (.push zone c.axis e), s)
    | (none, s) => pushClaimsUntilError zone activation rest s

/-- No lock is held before the clock is read, after it, and before the scene is read. -/
def bridgeImperativeActivate (src : SourceKind) (s : σ) : Option Error × σ :=
  let s := h.letIn s
  let now := h.env.clock (h.world s).tick
  let s := h.letIn (h.next s)
  let push := pushClaimsUntilError h rem.zone (imperativeActivation h.env condName now src)
  if rem.activeCompute ≠ "" then
    match h.env.getComputer rem.activeCompute with
    | none => (none, s)
    | some comp =>
      match h.invoke rem.activeCompute comp now (augmentedArgs condName rem) s with
      | (.error _, s) => (none, s)
      | (.ok out, s) => push (computeClaims condName rem out) s
  else
    match push (stateClaims rem) s with
    | (some e, s) => (some e, s)
    | (none, s) =>
      let s := h.letIn s
      if rem.activeScene ≠ "" then
        match h.env.scene (h.world s).tick rem.activeScene with
        | none => (none, s)
        | some scene => push (sceneClaims scene) s
      else (none, s)

end

/-! ## A bridge is a sequence of pushes -/

/-- A sequence of pushes of admitted Activations. -/
inductive PushRun (env : Env) (zone : String) (admitted : Activation → Prop) (s : World) :
    World → Prop where
  | refl : PushRun env zone admitted s s
  | next {t : World} (h : PushRun env zone admitted s t) : PushRun env zone admitted s t.next
  | push {t : World} (h : PushRun env zone admitted s t) (axis : AxisKind) (act : Activation)
      (hact : admitted act) :
      PushRun env zone admitted s (pushActivation env zone axis (some act) t).2

theorem PushRun.invariant {env : Env} {zone : String} {admitted : Activation → Prop}
    {inv : World → Prop} (hnext : ∀ t, inv t → inv t.next)
    (hpush : ∀ t axis act, admitted act → inv t → inv (pushActivation env zone axis (some act) t).2)
    {s t : World} (h : PushRun env zone admitted s t) (hs : inv s) : inv t := by
  induction h with
  | refl => exact hs
  | next _ ih => exact hnext _ ih
  | push _ axis act hact ih => exact hpush _ axis act hact ih

variable {zone : String} {admitted : Activation → Prop}

theorem PushRun.trans {env : Env} {s t u : World} (hst : PushRun env zone admitted s t)
    (htu : PushRun env zone admitted t u) : PushRun env zone admitted s u :=
  htu.invariant (fun _ h => .next h) (fun _ axis act hact h => .push h axis act hact) hst

theorem PushRun.frame {env : Env} {s t : World} (h : PushRun env zone admitted s t) :
    ReconcilerFrame zone s t := by
  refine h.invariant ?_ ?_ (ReconcilerFrame.refl zone s)
  · intro t ht
    exact ht.trans (ReconcilerFrame.next zone t)
  · intro t axis act _ ht
    exact ht.trans (pushActivation_frame env zone axis (some act) t)

theorem pushClaims_pushRun {env : Env} {activation : Claim → Activation}
    (hact : ∀ c, admitted (activation c)) (claims : List Claim) (s : World) :
    PushRun env zone admitted s (pushClaims env zone activation claims s) := by
  induction claims generalizing s with
  | nil => exact .refl
  | cons c _ ih =>
    exact (PushRun.push .refl c.axis (activation c) (hact c)).trans (ih _)

theorem pushClaimsUntilError_pushRun {env : Env} {activation : Claim → Activation}
    (hact : ∀ c, admitted (activation c)) (claims : List Claim) (s : World) :
    PushRun env zone admitted s (pushClaimsUntilError env zone activation claims s).2 := by
  induction claims generalizing s with
  | nil => exact .refl
  | cons c _ ih =>
    have hpush : PushRun env zone admitted s _ := .push .refl c.axis (activation c) (hact c)
    simp only [pushClaimsUntilError]
    revert hpush
    generalize pushActivation env zone c.axis (some (activation c)) s = result
    obtain ⟨_ | e, t⟩ := result
    · intro hpush; exact hpush.trans (ih t)
    · intro hpush; exact hpush

def IsTimeWindow (now : Time) (act : Activation) : Prop :=
  ∃ priority c, act = timeWindowActivation env condName now priority c ∧
    (priority = bridgePushPriority ∨ priority = bridgeScenePriority)

def IsImperative (src : SourceKind) (now : Time) (act : Activation) : Prop :=
  ∃ c, act = imperativeActivation env condName now src c

theorem bridgeReconciledRemediation_pushRun (s : World) :
    PushRun env rem.zone (IsTimeWindow env condName (env.clock s.tick)) s.next
      (bridgeReconciledRemediation env condName rem s) := by
  have hscene : ∀ c, IsTimeWindow env condName (env.clock s.tick)
      (timeWindowActivation env condName (env.clock s.tick) bridgeScenePriority c) := fun c =>
    ⟨_, c, rfl, Or.inr rfl⟩
  have hcompute : ∀ c, IsTimeWindow env condName (env.clock s.tick)
      (timeWindowActivation env condName (env.clock s.tick) bridgePushPriority c) := fun c =>
    ⟨_, c, rfl, Or.inl rfl⟩
  simp only [bridgeReconciledRemediation]
  by_cases hgate : rem.timeIntervals ≠ [] ∧ withinActiveWindow env rem (env.clock s.tick) = false
  · rw [if_pos hgate]
    exact .refl
  · rw [if_neg hgate]
    by_cases hbranch : rem.activeCompute ≠ ""
    · rw [if_pos hbranch]
      unfold bridgeActiveCompute
      split
      · exact .refl
      · split <;> rename_i heq <;> obtain ⟨-, rfl⟩ := Prod.mk.inj heq
        · exact .next .refl
        · exact (PushRun.next .refl).trans (pushClaims_pushRun hcompute _ _)
    · rw [if_neg hbranch]
      have hstate : PushRun env rem.zone (IsTimeWindow env condName (env.clock s.tick)) s.next _ :=
        pushClaims_pushRun hscene (stateClaims rem) s.next
      split
      · refine hstate.trans ?_
        unfold bridgeActiveScene
        split
        · exact .refl
        · exact pushClaims_pushRun hscene _ _
      · exact hstate

theorem bridgeImperativeActivate_pushRun (src : SourceKind) (s : World) :
    PushRun env rem.zone (IsImperative env condName src (env.clock s.tick)) s.next
      (bridgeImperativeActivate env condName rem src s).2 := by
  have hpush : ∀ claims t,
      PushRun env rem.zone (IsImperative env condName src (env.clock s.tick)) t
        (pushClaimsUntilError env rem.zone
          (imperativeActivation env condName (env.clock s.tick) src) claims t).2 :=
    pushClaimsUntilError_pushRun fun c => ⟨c, rfl⟩
  simp only [bridgeImperativeActivate]
  split
  · split
    · exact .refl
    · split <;> rename_i heq <;> obtain ⟨-, rfl⟩ := Prod.mk.inj heq
      · exact .next .refl
      · exact (PushRun.next .refl).trans (hpush _ _)
  · have hstate := hpush (stateClaims rem) s.next
    revert hstate
    generalize pushClaimsUntilError env rem.zone
      (imperativeActivation env condName (env.clock s.tick) src) (stateClaims rem) s.next = result
    obtain ⟨_ | e, t⟩ := result
    · intro hstate
      simp only
      split
      · split
        · exact hstate
        · exact hstate.trans (hpush _ _)
      · exact hstate
    · intro hstate; exact hstate

end IotController.Conditioner
