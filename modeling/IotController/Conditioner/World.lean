/-
  The conditioner's state and its environment.

  `World` is the in-memory state of one Conditioner (with its Reconciler) together with the
  log of the ZoneKeeper calls it has made.  `Env` is everything the process does not decide:
  the clock, the outcome of each RPC, the cluster objects it reads, the registered
  Computers, the time-interval libraries and the iteration order of maps.

  Every outside input is indexed by `World.tick`, the number of inputs consumed so far.  The
  informer cache is read without consuming an input; `zoneStatus` also sees the log, which
  is how "Status mirrors the last SetState" is stated.

  Tracing, logging and metrics have no counterpart here, nor do the mutexes: each operation
  is one step.
-/
import IotController.Conditioner.Stack

namespace IotController.Conditioner

open Foundation Api Proto Compute

/-- The settings of the Conditioner. -/
structure Config where
  epochTimeWindow : Duration := 240 * minute
  applyDesiredRefreshAge : Duration := 30 * minute
  oobGracePeriod : Duration := 2 * second
  evaluationInterval : Duration := 60 * second
  location : Location := {}
  reconcileZones : List String := []

/-! ## ZoneKeeper calls -/

/-- A call of the ZoneKeeper. -/
inductive Call where
  | setState (name : String) (state : ZoneState)
  | setScene (name scene : String)
  | adjustBrightness (name : String) (delta : Int)
  | applyValues (name : String) (values : ApplyValues)
  deriving DecidableEq

def Call.zone : Call → String
  | .setState name _ => name
  | .setScene name _ => name
  | .adjustBrightness name _ => name
  | .applyValues name _ => name

/-- How a call of the ZoneKeeper ends. -/
inductive Outcome where
  | ok
  /-- an error, and the request had no effect -/
  | failed (message : String)
  /-- an error reported after the request took effect -/
  | lost (message : String)
  deriving DecidableEq

/-- The errors of the conditioner, one constructor for each error text. -/
inductive Error where
  /-- the error a client call returned -/
  | rpc (message : String)
  /-- `failed to list conditions: %w` -/
  | listConditions (message : String)
  /-- `failed to deactivate zone %q scene: %w` -/
  | scene (zone : String) (cause : Error)
  /-- `failed to deactivate zone %q state: %w` -/
  | state (zone : String) (cause : Error)
  /-- `PushActivation: zone is required` -/
  | zoneRequired
  /-- `PushActivation: axis is required` -/
  | axisRequired
  /-- `PushActivation: activation is required` -/
  | activationRequired
  /-- `Activation.computer_name is required` -/
  | computerNameRequired
  /-- `unknown computer %q` -/
  | unknownComputer (name : String)
  /-- `compute %s for axis %s: %w` -/
  | compute (computer : String) (axis : AxisKind) (message : String)
  /-- `ApplyValues: %w` -/
  | applyValues (cause : Error)
  /-- `reconcile after push: %w` -/
  | reconcileAfterPush (cause : Error)
  /-- `reconcile after remove: %w` -/
  | reconcileAfterRemove (cause : Error)
  /-- `push %s/%s: %w` -/
  | push (zone : String) (axis : AxisKind) (cause : Error)
  deriving DecidableEq

def Outcome.error : Outcome → Option Error
  | .ok => none
  | .failed message => some (.rpc message)
  | .lost message => some (.rpc message)

/-- A call with its outcome. -/
structure Sent where
  call : Call
  outcome : Outcome
  deriving DecidableEq

/-! ## Environment and state -/

/-- An entry of the cache of `applyDesired`. -/
structure ConditionState where
  state : ZoneState
  scene : String
  ts : Time
  deriving DecidableEq

/-- A timer that reconciles a zone. -/
structure ReconcileTimer where
  zone : String
  due : Time
  deriving DecidableEq

/-- What the Conditioner reads from outside. -/
structure Env where
  cfg : Config
  clock : Nat → Time
  rpc : Nat → Call → Outcome
  /-- `Status.State` of a Zone resource; `none` when the read fails. -/
  zoneStatus : Nat → List Sent → String → Option String
  scene : Nat → String → Option Scene
  /-- The Computers registered besides `static`. -/
  registry : String → Option Computer
  /-- `AsPrometheus` followed by `ContainsTime`; `none` when parsing fails. -/
  asPrometheus : TimeIntervalSpec → Option (Time → Bool)
  /-- `inSunWindow`; `none` when it returns an error. -/
  inSunWindow : Location → SunWindow → Time → Option Bool
  range : MapOrder

def Env.getComputer (env : Env) (name : String) : Option Computer :=
  if name = staticName then some staticComputer else env.registry name

/-- The state of the Conditioner, and the calls it made. -/
structure World where
  tick : Nat := 0
  log : List Sent := []
  alertActive : GoMap String Remediation := ∅
  condState : GoMap String ConditionState := ∅
  policies : GoMap String ZonePolicy := ∅
  lastApplied : GoMap String ApplyValues := ∅
  ttlTimers : GoMap String ReconcileTimer := ∅

namespace World

def initial : World := {}

/-- One more outside input has been consumed.  `time.Now()` is
`env.clock s.tick` and leaves `s.next`. -/
def next (s : World) : World := { s with tick := s.tick + 1 }

def send (env : Env) (c : Call) (s : World) : Option Error × World :=
  ((env.rpc s.tick c).error, { s with tick := s.tick + 1, log := ⟨c, env.rpc s.tick c⟩ :: s.log })

end World

/-! ## Reading the log -/

def Call.stateOn (zone : String) : Call → Option ZoneState
  | .setState name state => if name = zone then some state else none
  | _ => none

def Call.sceneOn (zone : String) : Call → Option String
  | .setScene name scene => if name = zone then some scene else none
  | _ => none

def Call.valuesOn (zone : String) : Call → Option ApplyValues
  | .applyValues name values => if name = zone then some values else none
  | _ => none

def callsOn (zone : String) (log : List Sent) : List Sent :=
  log.filter fun e => e.call.zone = zone

def lastSetState (zone : String) (log : List Sent) : Option ZoneState :=
  log.findSome? fun e => e.call.stateOn zone

def succeeded (log : List Sent) : List Sent := log.filter fun e => e.outcome = .ok

def lastSetScene (zone : String) (log : List Sent) : Option String :=
  log.findSome? fun e => e.call.sceneOn zone

theorem findSome?_callsOn {β : Type} (zone : String) (f : Call → Option β)
    (hf : ∀ c, c.zone ≠ zone → f c = none) (log : List Sent) :
    (callsOn zone log).findSome? (fun e => f e.call) = log.findSome? fun e => f e.call := by
  induction log with
  | nil => rfl
  | cons e _ ih =>
    by_cases he : e.call.zone = zone
    · simp only [callsOn, List.filter_cons, he, decide_true, if_true, List.findSome?_cons]
      cases f e.call with
      | some => rfl
      | none => exact ih
    · simp only [callsOn, List.filter_cons, he, decide_false, Bool.false_eq_true, if_false,
        List.findSome?_cons, hf e.call he]
      exact ih

theorem lastSetState_callsOn (zone : String) (log : List Sent) :
    lastSetState zone (callsOn zone log) = lastSetState zone log := by
  apply findSome?_callsOn zone (Call.stateOn zone)
  intro c hc
  cases c <;> simp_all [Call.zone, Call.stateOn]

def hasPrometheusFields (ti : TimeIntervalSpec) : Bool :=
  !ti.times.isEmpty || !ti.weekdays.isEmpty || !ti.daysOfMonth.isEmpty ||
    !ti.months.isEmpty || !ti.years.isEmpty

/-- One iteration in `withinActiveWindow`; an interval or sun window that does not parse is
skipped. -/
def intervalActive (env : Env) (now : Time) (ti : TimeIntervalSpec) : Bool :=
  (hasPrometheusFields ti &&
      match env.asPrometheus ti with
      | some contains => contains now
      | none => false) ||
    ti.sunRelative.any fun sw => (env.inSunWindow env.cfg.location sw now).getD false

def withinActiveWindow (env : Env) (rem : Remediation) (now : Time) : Bool :=
  rem.timeIntervals.isEmpty || rem.timeIntervals.any (intervalActive env now)

def isReconcileManaged (env : Env) (zone : String) : Bool :=
  env.cfg.reconcileZones.any fun z => z = zone

/-- An environment in which every call succeeds and nothing else is there. -/
def Env.idle (managed : List String) : Env where
  cfg := { reconcileZones := managed }
  clock n := n
  rpc _ _ := .ok
  zoneStatus _ _ _ := none
  scene _ _ := none
  registry _ := none
  asPrometheus _ := none
  inSunWindow _ _ _ := none
  range := MapOrder.stored

/-! ## Hosts

The operations that can reach a `Compute` are defined over every state that holds a
`World`: the world by itself, a world with the snapshots of the fades, a world with other
callers in it. -/

/-- A state that has a `World` in it. -/
structure Host (σ : Type) where
  env : Env
  world : σ → World
  put : World → σ → σ
  /-- one more input has been read -/
  next : σ → σ
  /-- the call of a Computer: its name, the Computer registered under it, the time and the
  arguments -/
  invoke : String → Computer → Time → Args → σ → Except String ApplyValues × σ
  /-- a point at which no lock is held -/
  letIn : σ → σ

/-- The world by itself, with the Computers as outside inputs. -/
abbrev World.host (env : Env) : Host World where
  env := env
  world s := s
  put s _ := s
  next s := s.next
  invoke _ comp now args s := (comp.compute s.tick now env.cfg.location args, s.next)
  letIn s := s

instance : Coe Env (Host World) := ⟨World.host⟩

def Host.lift {σ α : Type} (h : Host σ) (f : World → α × World) (s : σ) : α × σ :=
  ((f (h.world s)).1, h.put (f (h.world s)).2 s)

@[simp] theorem World.lift_host {α : Type} (env : Env) (f : World → α × World) (s : World) :
    (World.host env).lift f s = f s := rfl

end IotController.Conditioner
