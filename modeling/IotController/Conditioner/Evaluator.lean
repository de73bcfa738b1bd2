/-
  The evaluation loop and `ActivateCondition`
  (`modules/conditioner/evaluator.go`, and `ActivateCondition` of
  `modules/conditioner/conditioner.go`).

  A tick of the loop visits every Remediation of every enabled Condition and then
  reconciles the managed zones; the RPC visits the Remediations of one Condition.
  Both can call a fade, so both work on `FadeWorld`: a world with the snapshot store that
  the `fade` Computer shares with `ActivateCondition`.

  Each event has an environment of its own and counts its inputs from zero, so that two
  runs that differ by one event can be compared.  The shadow resolver at
  the end of a tick calls no Computer and sends nothing, so it is modelled apart
  (`Shadow`); the warning about `schedule` is a log line.
-/
import IotController.Compute.Fade
import IotController.Conditioner.Remediate

namespace IotController.Conditioner

open Foundation Api Proto Compute

/-! ## The state of the fades -/

/-- A world with the snapshots of fades. -/
structure FadeWorld extends World where
  fadeSnapshots : FadeSnapshotStore := ∅

def FadeWorld.next (s : FadeWorld) : FadeWorld := { s with toWorld := s.toWorld.next }

@[simp] theorem FadeWorld.next_toWorld (s : FadeWorld) : s.next.toWorld = s.toWorld.next := rfl

/-- An environment with what fades read. -/
structure FadeEnv extends Env where
  lib : GoLibrary
  zoneLevels : Nat → List Sent → FadeZoneReader

namespace FadeEnv

/-- The environment after `New` has registered `fade`. -/
def env (fe : FadeEnv) : Env :=
  { fe.toEnv with
    registry := fun name => if name = fadeName then some (newFade fe.lib) else fe.registry name }

def invoke (fe : FadeEnv) (name : String) (comp : Computer) (now : Time) (args : Args)
    (s : FadeWorld) : Except String ApplyValues × FadeWorld :=
  if name = fadeName then
    let result := fadeCompute fe.lib (fe.zoneLevels s.tick s.log) now args s.fadeSnapshots
    (result.1, { s.next with fadeSnapshots := result.2 })
  else (comp.compute s.tick now fe.cfg.location args, s.next)

abbrev host (fe : FadeEnv) : Host FadeWorld where
  env := fe.env
  world s := s.toWorld
  put w s := { s with toWorld := w }
  next s := s.next
  invoke := fe.invoke
  letIn s := s

instance : Coe FadeEnv (Host FadeWorld) := ⟨host⟩

end FadeEnv

/-! ## The loop -/

/-- What the evaluator reads of a Binding. -/
structure Binding where
  condition : String := ""
  property : String := ""
  deriving DecidableEq

def sensorBindingProperties : List String :=
  ["occupancy", "water_leak", "contact", "vibration", "tamper"]

def sensorBoundConditions (bindings : Except String (List Binding)) (condName : String) : Bool :=
  match bindings with
  | .error _ => false
  | .ok items => items.any fun b =>
    b.condition ≠ "" && b.property ∈ sensorBindingProperties && b.condition = condName

namespace FadeWorld

/-- `evaluateCompute` after its time gate: whether a request was sent.  Empty
values are sent as well. -/
def computeAndApply (fe : FadeEnv) (condName : String) (rem : Remediation)
    (s : FadeWorld) : Bool × FadeWorld :=
  match fe.env.getComputer rem.activeCompute with
  | none => (false, s)
  | some comp =>
    match fe.invoke rem.activeCompute comp (fe.env.clock s.tick) (augmentedArgs condName rem)
        s.next with
    | (.error _, s) => (false, s)
    -- the error of the request is logged
    | (.ok vals, s) => (true, (fe.host.lift (World.send fe.env (.applyValues rem.zone vals)) s).2)

def evaluateCompute (fe : FadeEnv) (condName : String) (rem : Remediation)
    (s : FadeWorld) : Bool × FadeWorld :=
  if rem.timeIntervals = [] then computeAndApply fe condName rem s
  else if withinActiveWindow fe.env rem (fe.env.clock s.tick) then
    computeAndApply fe condName rem s.next
  else (false, s.next)

/-- What a tick does for one Remediation. -/
def evaluateRemediation (fe : FadeEnv) (sensorBound : String → Bool)
    (cond : Condition) (s : FadeWorld) (rem : Remediation) : FadeWorld :=
  if isReconcileManaged fe.env rem.zone then
    if sensorBound cond.name then s
    else if rem.activeCompute ≠ "" then
      bridgeReconciledRemediation fe cond.name rem s
    else if rem.timeIntervals ≠ [] ∧ cond.matches = [] then
      bridgeReconciledRemediation fe cond.name rem s
    else s
  else if rem.activeCompute ≠ "" then (evaluateCompute fe cond.name rem s).2
  else if rem.timeIntervals ≠ [] ∧ cond.matches = [] then
    (activateRemediation fe cond.name rem s).2
  else s

def evaluateCondition (fe : FadeEnv) (sensorBound : String → Bool)
    (s : FadeWorld) (cond : Condition) : FadeWorld :=
  if cond.enabled then
    cond.remediations.foldl (evaluateRemediation fe sensorBound cond) s
  else s

def reconcileTick (fe : FadeEnv) (s : FadeWorld) (zone : String) : FadeWorld :=
  (reconcileZone fe zone (fe.env.clock s.tick) s.next).2

def evaluate (fe : FadeEnv) (list : Except String (List Condition))
    (bindings : Except String (List Binding)) (s : FadeWorld) : FadeWorld :=
  match list with
  | .error _ => s
  | .ok conditions =>
    fe.env.cfg.reconcileZones.foldl (reconcileTick fe)
      (conditions.foldl (evaluateCondition fe (sensorBoundConditions bindings)) s)

end FadeWorld

/-- The errors of the RPC. -/
inductive ActivateConditionError where
  /-- `condition %q not found: %w` -/
  | notFound (name message : String)
  /-- the errors of the Remediations, joined -/
  | joined (errs : List Error)
  deriving DecidableEq

namespace FadeWorld

def seedFade (fe : FadeEnv) (condName : String) (rem : Remediation) (s : FadeWorld) : FadeWorld :=
  if rem.activeCompute = fadeName ∧ Args.value rem.activeComputeArgs "anchor" = "event" then
    match seedEventSnapshot fe.lib (fe.zoneLevels s.tick s.log) (fe.clock s.tick) rem.zone
        rem.activeComputeArgs with
    | none => s.next
    | some entry =>
      { s.next with fadeSnapshots := s.fadeSnapshots.insert (condName, rem.zone) entry }
  else s

def activateRemediations (fe : FadeEnv) (condName : String) :
    List Remediation → List Error → FadeWorld → List Error × FadeWorld
  | [], errs, s => (errs, s)
  | rem :: rest, errs, s =>
    match activateRemediation fe condName rem (s.seedFade fe condName rem) with
    | (some e, s) => activateRemediations fe condName rest (errs ++ [e]) s
    | (none, s) => activateRemediations fe condName rest errs s

def activateCondition (fe : FadeEnv) (name : String) (get : Except String Condition)
    (s : FadeWorld) : Option ActivateConditionError × FadeWorld :=
  match get with
  | .error message => (some (.notFound name message), s)
  | .ok cond =>
    if cond.enabled then
      match activateRemediations fe cond.name cond.remediations [] s with
      | ([], s) => (none, s)
      | (errs, s) => (some (.joined errs), s)
    else (none, s)

end FadeWorld

/-! ## Runs -/

/-- A tick, with what it reads. -/
structure EvalTick where
  fe : FadeEnv
  list : Except String (List Condition)
  bindings : Except String (List Binding)

/-- A call of `ActivateCondition`. -/
structure ActivateRPC where
  fe : FadeEnv
  name : String
  get : Except String Condition

namespace FadeWorld

def restart (s : FadeWorld) : FadeWorld := { s with tick := 0 }

def stepTick (s : FadeWorld) (t : EvalTick) : FadeWorld :=
  evaluate t.fe t.list t.bindings s.restart

def stepRPC (s : FadeWorld) (r : ActivateRPC) : FadeWorld :=
  (activateCondition r.fe r.name r.get s.restart).2

end FadeWorld

/-! ## A fade in the loop -/

theorem value_augmentedArgs {key : String} (hcond : key ≠ "_condition") (hzone : key ≠ "_zone")
    (condName : String) (rem : Remediation) :
    Args.value (augmentedArgs condName rem) key = Args.value rem.activeComputeArgs key := by
  simp only [Args.value, augmentedArgs, GoMap.lookup_insert_eq, hcond, hzone, if_false]

@[simp] theorem value_augmentedArgs_condition (condName : String) (rem : Remediation) :
    Args.value (augmentedArgs condName rem) "_condition" = condName := by
  simp [Args.value, augmentedArgs]

@[simp] theorem value_augmentedArgs_zone (condName : String) (rem : Remediation) :
    Args.value (augmentedArgs condName rem) "_zone" = rem.zone := by
  simp [Args.value, augmentedArgs]

theorem parseFadeArgs_augmentedArgs (lib : GoLibrary) (condName : String) (rem : Remediation) :
    parseFadeArgs lib (augmentedArgs condName rem) = parseFadeArgs lib rem.activeComputeArgs := by
  have hvalue : ∀ key ∈ ["anchor", "duration", "start_at", "timezone", "brightness_to",
      "brightness_from", "color_temperature_to", "color_temperature_from", "terminal_state"],
      Args.value (augmentedArgs condName rem) key = Args.value rem.activeComputeArgs key := by
    intro key hkey
    apply value_augmentedArgs
    · rintro rfl
      exact absurd hkey (by decide)
    · rintro rfl
      exact absurd hkey (by decide)
  simp only [List.forall_mem_cons] at hvalue
  have hduration : parseFadeDuration lib (augmentedArgs condName rem) =
      parseFadeDuration lib rem.activeComputeArgs := by
    simp only [parseFadeDuration, hvalue]
  have hanchor : fadeAnchor (augmentedArgs condName rem) = fadeAnchor rem.activeComputeArgs := by
    simp only [fadeAnchor, hvalue]
  have hstart : parseFadeStart (augmentedArgs condName rem) =
      parseFadeStart rem.activeComputeArgs := by
    simp only [parseFadeStart, hanchor, hvalue]
  have hterminal : parseTerminalState (augmentedArgs condName rem) =
      parseTerminalState rem.activeComputeArgs := by
    simp only [parseTerminalState, hvalue]
  simp only [parseFadeArgs, hduration, hanchor, hstart, hterminal, parseLevel, hvalue]

namespace FadeEnv

variable (fe : FadeEnv)

@[simp] theorem getComputer_fade : fe.env.getComputer fadeName = some (newFade fe.lib) := rfl

def fadeCall (condName : String) (rem : Remediation) (now : Time) (s : FadeWorld) :
    Except String ApplyValues × FadeSnapshotStore :=
  fadeCompute fe.lib (fe.zoneLevels s.tick s.log) now (augmentedArgs condName rem) s.fadeSnapshots

theorem invoke_fade (comp : Computer) (condName : String) (rem : Remediation) (now : Time)
    (s : FadeWorld) :
    fe.invoke fadeName comp now (augmentedArgs condName rem) s =
      ((fe.fadeCall condName rem now s).1,
        { s.next with fadeSnapshots := (fe.fadeCall condName rem now s).2 }) := rfl

theorem computeAndApply_fade {condName : String} {rem : Remediation} {s : FadeWorld}
    {vals : ApplyValues} {store : FadeSnapshotStore} (hfade : rem.activeCompute = fadeName)
    (hcall : fe.fadeCall condName rem (fe.clock s.tick) s.next = (.ok vals, store)) :
    FadeWorld.computeAndApply fe condName rem s =
      (true, (fe.host.lift (World.send fe.env (.applyValues rem.zone vals))
        { s.next.next with fadeSnapshots := store }).2) := by
  have hclock : fe.env.clock s.tick = fe.clock s.tick := rfl
  simp only [FadeWorld.computeAndApply, hfade, getComputer_fade, invoke_fade, hclock, hcall]

end FadeEnv

end IotController.Conditioner
