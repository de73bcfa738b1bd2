/-
  The Epoch RPC (`Epoch`, `epochWindow` and
  `timeContains` of `modules/conditioner/conditioner.go`).

  An Epoch reports the time of a daily event.  Each Remediation has a window around it;
  before the window the RPC schedules an activation and a deactivation, inside it activates
  at once, and after it deactivates at once.
-/
import IotController.Conditioner.Alert
import IotController.Conditioner.ScheduleCalls

namespace IotController.Conditioner

open Foundation Api Proto Compute

/-! ## The window of an event -/

abbrev ParseDuration : Type := String → Except String Duration

/-- The message of the RPC. -/
structure EpochRequest where
  name : String
  location : String
  «when» : Int

variable (env : Env) (cfg : Config) (parse : ParseDuration) (err : Option String)
  (req : EpochRequest) (now : Time) (s : System)

def EpochRequest.labels : GoMap String String :=
  ((∅ : GoMap String String).insert "location" req.location).insert "epoch" req.name

/-- `time.Unix(seconds, 0)`. -/
def unixTime (seconds : Int) : Time := (seconds + 62135596800) * second

def timeContains (t start stop : Time) : Bool :=
  t = start || t = stop || (start < t && t < stop)

def epochWindow (eventTime : Time) (gate : When) :
    Except String (Time × Time) :=
  if eventTime.isZero then .error "event time is zero"
  else do
    let start ←
      if gate.start ≠ "" then (parse gate.start).map (eventTime + ·)
      else .ok (eventTime - minute)
    let stop ←
      if gate.stop ≠ "" then (parse gate.stop).map (eventTime + ·)
      else .ok (eventTime + cfg.epochTimeWindow)
    return (start, stop)

/-! ## The RPC -/

/-- The Conditioner with its schedule. -/
structure System where
  world : World
  sched : Schedule

/-- What an Epoch schedules. -/
inductive EpochAction where
  | activate
  | deactivate
  deriving DecidableEq

def EpochAction.name : EpochAction → String
  | .activate => "activate"
  | .deactivate => "deactivate"

def epochName (cond zone : String) (action : EpochAction) : String :=
  "-".intercalate [req.location, req.name, cond, zone, action.name]

/-- The errors `Epoch` joins, each under `condition %q: %w`. -/
inductive EpochError where
  | window (cond message : String)
  | add (cond : String) (cause : AddError)

/-- One of the two calls of `add` for a Remediation; a nil request is not added or reported. -/
def epochAdd (cond zone : String) (action : EpochAction) (t : Time) (r : Option Request)
    (sched : Schedule) :
    List EpochError × Schedule :=
  match r with
  | none => ([], sched)
  | some r =>
    match sched.add ⟨err, .epoch req.location req.name cond zone⟩ (epochName req cond zone action)
        t (some r) with
    | (none, sched) => ([], sched)
    | (some .emptyRequest, sched) => ([], sched)
    | (some e, sched) => ([.add cond e], sched)

/-- What an Epoch does for one Remediation. -/
def epochRemediation (now : Time) (cond : String) (rem : Remediation) (s : System) :
    List EpochError × System :=
  match epochWindow env.cfg parse (unixTime req.when) rem.whenGate with
  | .error message => ([.window cond message], s)
  | .ok (start, stop) =>
    if timeContains now start stop then
      ([], { s with world := (activateRemediation env cond rem s.world).2 })
    else if now < start then
      let (first, sched) :=
        epochAdd err req cond rem.zone .activate start (activateRequest rem) s.sched
      let (second, sched) :=
        epochAdd err req cond rem.zone .deactivate stop (deactivateRequest rem) sched
      (first ++ second, { s with sched := sched })
    else if stop < now then
      ([], { s with world := (deactivateRemediation env cond rem s.world).2 })
    else ([], s)

def epochRemediations (env : Env) (parse : ParseDuration) (err : Option String)
    (req : EpochRequest) (now : Time) (cond : String) :
    List Remediation → System → List EpochError × System
  | [], s => ([], s)
  | rem :: rest, s =>
    let (first, s) := epochRemediation env parse err req now cond rem s
    let (others, s) := epochRemediations env parse err req now cond rest s
    (first ++ others, s)

def epochConditions (env : Env) (parse : ParseDuration) (err : Option String)
    (req : EpochRequest) (now : Time) : List Condition → System → List EpochError × System
  | [], s => ([], s)
  | cond :: rest, s =>
    if req.location = "" ∨ req.name = "" then epochConditions env parse err req now rest s
    else if matchCondition req.labels cond then
      let (first, s) := epochRemediations env parse err req now cond.name cond.remediations s
      let (others, s) := epochConditions env parse err req now rest s
      (first ++ others, s)
    else epochConditions env parse err req now rest s

/-- The Conditions are read from the cluster, or the read fails; `err` is the context's error. -/
def epoch (list : Except String (List Condition)) (req : EpochRequest) (s : System) :
    (Option Error × List EpochError) × System :=
  match list with
  | .error message => ((some (.listConditions message), []), s)
  | .ok conditions =>
    let (errs, s) := epochConditions env parse err req s.sched.now conditions s
    ((none, errs), s)

/-! ## The RPC as calls to the schedule -/

def epochAddOps (cond zone : String) (action : EpochAction) (t : Time) (r : Option Request) :
    List Schedule.Label :=
  (r.map fun r => Schedule.Label.add ⟨err, .epoch req.location req.name cond zone⟩
    (epochName req cond zone action) t (some r)).toList

def epochRemediationOps (now : Time) (cond : String) (rem : Remediation) :
    List Schedule.Label :=
  match epochWindow cfg parse (unixTime req.when) rem.whenGate with
  | .error _ => []
  | .ok (start, stop) =>
    if timeContains now start stop then []
    else if now < start then
      epochAddOps err req cond rem.zone .activate start (activateRequest rem) ++
        epochAddOps err req cond rem.zone .deactivate stop (deactivateRequest rem)
    else []

def epochOps (now : Time) (conditions : List Condition) : List Schedule.Label :=
  if req.location = "" ∨ req.name = "" then []
  else (conditions.filter (matchCondition req.labels)).flatMap fun cond =>
    cond.remediations.flatMap (epochRemediationOps cfg parse err req now cond.name)

theorem epochAdd_eq_run (cond zone : String) (action : EpochAction) (t : Time) (r : Option Request)
    (sched : Schedule) :
    (epochAdd err req cond zone action t r sched).2 =
      run Schedule.step sched (epochAddOps err req cond zone action t r) := by
  cases r with
  | none => rfl
  | some r =>
    show _ = (sched.add ⟨err, .epoch req.location req.name cond zone⟩
      (epochName req cond zone action) t (some r)).2
    simp only [epochAdd]
    split <;> rename_i h <;> rw [h]

theorem epochRemediation_sched (cond : String) (rem : Remediation) (s : System) :
    (epochRemediation env parse err req now cond rem s).2.sched =
      run Schedule.step s.sched (epochRemediationOps env.cfg parse err req now cond rem) := by
  unfold epochRemediation epochRemediationOps
  split
  · rfl
  · split
    · rfl
    · split
      · simp only [epochAdd_eq_run, run_append]
      · split <;> rfl

theorem epochRemediations_sched (cond : String) (rems : List Remediation) (s : System) :
    (epochRemediations env parse err req now cond rems s).2.sched =
      run Schedule.step s.sched
        (rems.flatMap (epochRemediationOps env.cfg parse err req now cond)) := by
  induction rems generalizing s with
  | nil => rfl
  | cons _ _ ih =>
    simp only [epochRemediations, List.flatMap_cons, run_append]
    rw [ih, epochRemediation_sched]

theorem epochConditions_sched (conditions : List Condition) (s : System) :
    (epochConditions env parse err req now conditions s).2.sched =
      run Schedule.step s.sched (epochOps env.cfg parse err req now conditions) := by
  unfold epochOps
  induction conditions generalizing s with
  | nil => simp [epochConditions]
  | cons cond _ ih =>
    by_cases hreq : req.location = "" ∨ req.name = ""
    · simp only [if_pos hreq] at ih ⊢
      rw [epochConditions, if_pos hreq]
      exact ih s
    · simp only [if_neg hreq] at ih ⊢
      rw [epochConditions, if_neg hreq]
      by_cases hmatch : matchCondition req.labels cond = true
      · simp only [hmatch, if_true, List.filter_cons, List.flatMap_cons, run_append]
        rw [ih, epochRemediations_sched]
      · simp only [hmatch, if_false, List.filter_cons, Bool.false_eq_true]
        exact ih s

theorem epoch_sched (conditions : List Condition) (req : EpochRequest) (s : System) :
    (epoch env parse err (.ok conditions) req s).2.sched =
      run Schedule.step s.sched (epochOps env.cfg parse err req s.sched.now conditions) :=
  epochConditions_sched env parse err req s.sched.now conditions s

/-! ## The calls under one name -/

theorem epochName_toList (cond zone : String) (action : EpochAction) :
    (epochName req cond zone action).toList =
      (req.location ++ "-" ++ req.name ++ "-" ++ cond ++ "-" ++ zone).toList ++
        ("-" ++ action.name).toList := by
  simp only [epochName, String.intercalate_cons_cons, String.intercalate_singleton,
    String.append_assoc, String.toList_append, List.append_assoc]

theorem epochName_activate_ne (cond cond' zone zone' : String) :
    epochName req cond zone .activate ≠ epochName req cond' zone' .deactivate := by
  intro heq
  have hlist := congrArg String.toList heq
  rw [epochName_toList, epochName_toList] at hlist
  have hsplit : ("-" ++ EpochAction.deactivate.name).toList =
      "-d".toList ++ "eactivate".toList := by decide
  rw [hsplit, ← List.append_assoc] at hlist
  -- the last nine characters differ in the first
  exact absurd (List.append_inj' hlist (by decide)).2 (by decide)

theorem mem_epochOps {cfg : Config} {parse : ParseDuration} {err : Option String}
    {req : EpochRequest} {now : Time} {conditions : List Condition} {e : Schedule.Label}
    (h : e ∈ epochOps cfg parse err req now conditions) :
    ∃ cond ∈ conditions, matchCondition req.labels cond = true ∧ ∃ rem ∈ cond.remediations,
      ∃ start stop, epochWindow cfg parse (unixTime req.when) rem.whenGate = .ok (start, stop) ∧
        timeContains now start stop = false ∧ now < start ∧
        ∃ action t r, e = .add ⟨err, .epoch req.location req.name cond.name rem.zone⟩
          (epochName req cond.name rem.zone action) t (some r) ∧
          (action = .deactivate → t = stop ∧ deactivateRequest rem = some r) := by
  unfold epochOps at h
  split at h
  · cases h
  obtain ⟨cond, hcond, h⟩ := List.mem_flatMap.mp h
  obtain ⟨hcond, hmatch⟩ := List.mem_filter.mp hcond
  obtain ⟨rem, hrem, h⟩ := List.mem_flatMap.mp h
  refine ⟨cond, hcond, hmatch, rem, hrem, ?_⟩
  unfold epochRemediationOps at h
  split at h
  · cases h
  rename_i start stop hwindow
  split at h
  · cases h
  rename_i hcontains
  split at h
  case isFalse => cases h
  rename_i hnow
  refine ⟨start, stop, hwindow, Bool.eq_false_iff.mpr hcontains, hnow, ?_⟩
  simp only [epochAddOps, List.mem_append, Option.mem_toList, Option.map_eq_some_iff] at h
  rcases h with ⟨r, -, rfl⟩ | ⟨r, hr, rfl⟩
  · exact ⟨.activate, start, r, rfl, fun h => by cases h⟩
  · exact ⟨.deactivate, stop, r, rfl, fun _ => ⟨rfl, hr⟩⟩

theorem epochOps_isCall {cfg : Config} {parse : ParseDuration} {err : Option String}
    {req : EpochRequest} {now : Time} {conditions : List Condition} :
    ∀ e ∈ epochOps cfg parse err req now conditions, e.IsCall := by
  intro e he
  obtain ⟨_, _, _, _, _, _, _, _, _, _, _, _, _, rfl, _⟩ := mem_epochOps he
  trivial

theorem deactivate_mem_epochOps {cfg : Config} {parse : ParseDuration} {err : Option String}
    {req : EpochRequest} {now : Time} {conditions : List Condition}
    (hreq : req.location ≠ "" ∧ req.name ≠ "") {cond : Condition} (hcond : cond ∈ conditions)
    (hmatch : matchCondition req.labels cond = true) {rem : Remediation}
    (hrem : rem ∈ cond.remediations) {start stop : Time}
    (hwindow : epochWindow cfg parse (unixTime req.when) rem.whenGate = .ok (start, stop))
    {r : Request} (hr : deactivateRequest rem = some r)
    (hcontains : timeContains now start stop = false) (hnow : now < start) :
    .add ⟨err, .epoch req.location req.name cond.name rem.zone⟩
      (epochName req cond.name rem.zone .deactivate) stop (some r) ∈
      epochOps cfg parse err req now conditions := by
  unfold epochOps
  rw [if_neg (not_or.mpr hreq)]
  refine List.mem_flatMap.mpr ⟨cond, List.mem_filter.mpr ⟨hcond, hmatch⟩, ?_⟩
  refine List.mem_flatMap.mpr ⟨rem, hrem, ?_⟩
  simp only [epochRemediationOps, hwindow, hcontains, Bool.false_eq_true, if_false, if_pos hnow]
  refine List.mem_append_right _ ?_
  simp [epochAddOps, hr]

/-- The deactivations that the call schedules under the name, in order. -/
def epochClosings (now : Time) (conditions : List Condition) (name : String) :
    List (Time × Request) :=
  Schedule.asks name (epochOps cfg parse err req now conditions)

/-- A Remediation of the call that bears the name is before its window and has the
deactivation `c`. -/
def AsksToClose (now : Time) (conditions : List Condition) (name : String) (c : Time × Request) :
    Prop :=
  ∃ cond ∈ conditions, matchCondition req.labels cond = true ∧ ∃ rem ∈ cond.remediations,
    epochName req cond.name rem.zone .deactivate = name ∧ ∃ start,
      epochWindow cfg parse (unixTime req.when) rem.whenGate = .ok (start, c.1) ∧
        now < start ∧ now ≠ c.1 ∧ deactivateRequest rem = some c.2

theorem timeContains_eq_false_iff {now start stop : Time} (h : now < start) :
    timeContains now start stop = false ↔ now ≠ stop := by
  have hstart : now ≠ start := ne_of_lt h
  have hafter : ¬ start < now := not_lt.mpr (le_of_lt h)
  simp [timeContains, hstart, hafter]

theorem epochOps_under_name {cfg : Config} {parse : ParseDuration} {err : Option String}
    {req : EpochRequest} {now : Time} {conditions : List Condition} {cond zone : String}
    {e : Schedule.Label} (he : e ∈ epochOps cfg parse err req now conditions)
    (hname : e.callName = some (epochName req cond zone .deactivate)) :
    ∃ ctx t r, ctx.err = err ∧ e = .add ctx (epochName req cond zone .deactivate) t (some r) ∧
      AsksToClose cfg parse req now conditions (epochName req cond zone .deactivate) (t, r) := by
  obtain ⟨cond', hcond', hmatch', rem', hrem', start', stop', hwindow', hcontains, hbefore,
    action, t, r', rfl, hdeactivate⟩ := mem_epochOps he
  have hname' : epochName req cond'.name rem'.zone action = epochName req cond zone .deactivate :=
    Option.some.inj hname
  cases action with
  | activate => exact absurd hname' (epochName_activate_ne _ _ _ _ _)
  | deactivate =>
    obtain ⟨rfl, hr'⟩ := hdeactivate rfl
    exact ⟨_, t, r', rfl, by rw [hname'], cond', hcond', hmatch', rem', hrem', hname', start',
      hwindow', hbefore, (timeContains_eq_false_iff hbefore).mp hcontains, hr'⟩

/-- **Closing an Epoch's window.**  After any history, with no item of the deactivation's name
on its way and no Remediation that asks for a past time, the deactivation will be executed
exactly when it is the last that the Epoch schedules under its name, or an earlier one is in the
schedule and the Epoch schedules none.  The Epoch schedules it when it comes before the window,
and nothing for a Remediation in its window. -/
theorem epoch_window_closes_iff (env : Env) (parse : ParseDuration) (err : Option String)
    (began : Time) (history : List Schedule.Label) (world : World) {req : EpochRequest}
    {conditions : List Condition} {cond : Condition} {rem : Remediation} {start stop : Time}
    {r : Request} (hreq : req.location ≠ "" ∧ req.name ≠ "") (hcond : cond ∈ conditions)
    (hmatch : matchCondition req.labels cond = true) (hrem : rem ∈ cond.remediations)
    (hwindow : epochWindow env.cfg parse (unixTime req.when) rem.whenGate = .ok (start, stop))
    (hr : deactivateRequest rem = some r) :
    let name := epochName req cond.name rem.zone .deactivate
    let sched := run Schedule.step (Schedule.new began) history
    let closings := epochClosings env.cfg parse err req sched.now conditions name
    sched.runner ≠ .stopped → sched.Quiet name → (∀ c ∈ closings, sched.now < c.1) →
    ((epoch env parse err (.ok conditions) req ⟨world, sched⟩).2.sched.WillExecute name stop
        (fun q => matched q r = true) ↔
      (err = none ∧ closings.getLast? = some (stop, r)) ∨
        ((err ≠ none ∨ closings = []) ∧ sched.Scheduled name stop r)) ∧
      (sched.now < start → sched.now ≠ stop → (stop, r) ∈ closings) ∧
      ∀ c ∈ closings, AsksToClose env.cfg parse req sched.now conditions name c := by
  intro name sched closings hrunning hquiet hahead
  have hs : sched.Consistent := (Schedule.Consistent.new began).run history
  have hp : sched.Phased := (Schedule.Phased.new began).run (.new began) history
  have hcalls := @epochOps_isCall env.cfg parse err req sched.now conditions
  refine ⟨?_, fun hbefore hne => ?_, ?_⟩
  · rw [epoch_sched]
    have hquiet' := hquiet.run_of_isCall hs hcalls fun ctx t q hmem _ =>
      hahead (t, q) (Schedule.mem_asks_iff.mpr ⟨ctx, hmem⟩)
    rw [Schedule.willExecute_iff_pending (hs.run _) (hp.run hs _)
      (Schedule.run_running_of_isCall hrunning hcalls) hquiet']
    refine Schedule.run_calls_scheduled_iff hcalls (fun e he hname => ?_) stop r sched
    obtain ⟨ctx, t, q, herr, heq, -⟩ := epochOps_under_name he hname
    exact ⟨ctx, t, q, herr, heq⟩
  · exact Schedule.mem_asks_iff.mpr ⟨_, deactivate_mem_epochOps hreq hcond hmatch hrem hwindow hr
      ((timeContains_eq_false_iff hbefore).mpr hne) hbefore⟩
  · rintro ⟨t, q⟩ hc
    obtain ⟨ctx, hmem⟩ := Schedule.mem_asks_iff.mp hc
    obtain ⟨_, _, _, -, heq, hasks⟩ := epochOps_under_name hmem rfl
    cases heq
    exact hasks

/-! ## A porch light that is on from sunset -/

def duskEnv : Env := Env.idle []

def noDurations : ParseDuration := fun s => .error s

def sunset : EpochRequest := { name := "sunset", location := "home", «when» := 0 }

def porchLight : Remediation := { zone := "porch", activeState := "on", inactiveState := "off" }

def duskCondition : Condition where
  name := "dusk"
  name_valid := by decide
  enabled := true
  remediations := [porchLight]
  «matches» := [{ labels := sunset.labels }]

def duskWithScene : Condition :=
  { duskCondition with remediations := [porchLight, { zone := "porch", activeScene := "dusk" }] }

def porchOff : Request where
  zone := "porch"
  stateReq := some ⟨"porch", .off⟩
  sceneReq := none
  nonempty := Or.inl rfl
  state_valid := by simp
  scene_valid := by simp

def porchOffName : String := epochName sunset "dusk" "porch" .deactivate

theorem porch_window :
    epochWindow duskEnv.cfg noDurations (unixTime sunset.when) porchLight.whenGate =
      .ok (unixTime 0 - minute, unixTime 0 + 240 * minute) := rfl

theorem new_quiet (name : String) : (Schedule.new now).Quiet name := by
  intro g j hj
  simp [Schedule.new] at hj

/-- An Epoch two hours before sunset has the light switched off at the window's end, also beside
a Remediation without a deactivation. -/
theorem porch_window_closes :
    (epoch duskEnv noDurations none (.ok [duskWithScene]) sunset
      ⟨World.initial, Schedule.new (unixTime 0 - 120 * minute)⟩).2.sched.WillExecute porchOffName
      (unixTime 0 + 240 * minute) (fun q => matched q porchOff = true) := by
  have hclosings : epochClosings duskEnv.cfg noDurations none sunset (unixTime 0 - 120 * minute)
      [duskWithScene] porchOffName = [(unixTime 0 + 240 * minute, porchOff)] := rfl
  refine (@epoch_window_closes_iff duskEnv noDurations none (unixTime 0 - 120 * minute) []
    World.initial sunset [duskWithScene] duskWithScene porchLight (unixTime 0 - minute)
    (unixTime 0 + 240 * minute) porchOff (by decide) List.mem_cons_self (by decide)
    List.mem_cons_self porch_window rfl (by simp [Schedule.new]) (new_quiet _ _) ?_).1.mpr
    (Or.inl ⟨rfl, congrArg List.getLast? hclosings⟩)
  intro c hc
  rw [List.mem_singleton.mp (show c ∈ [(unixTime 0 + 240 * minute, porchOff)] from hc)]
  decide

/-- An Epoch at sunset switches the light on, and nothing switches it off again. -/
theorem porch_window_stays_open :
    let sched := Schedule.new (unixTime 0)
    isReconcileManaged duskEnv "porch" = false ∧ deactivateRequest porchLight = some porchOff ∧
      sched.now ≤ unixTime 0 + 240 * minute ∧
      ¬ (epoch duskEnv noDurations none (.ok [duskCondition]) sunset
          ⟨World.initial, sched⟩).2.sched.WillExecute porchOffName (unixTime 0 + 240 * minute)
          (fun q => matched q porchOff = true) := by
  refine ⟨by decide, rfl, by decide, fun hclose => ?_⟩
  have hsched : (epoch duskEnv noDurations none (.ok [duskCondition]) sunset
      ⟨World.initial, Schedule.new (unixTime 0)⟩).2.sched = Schedule.new (unixTime 0) := rfl
  rw [hsched] at hclose
  obtain ⟨g, j, hj, -⟩ := hclose [.advance 14400000000000] ⟨trivial, trivial⟩
    ⟨rfl, fun g j hj => by simp [Schedule.step, Schedule.new] at hj⟩ (by decide)
  simp [Schedule.step, Schedule.new] at hj

namespace System

/-- One action of one party.  An item that `run` executes under a live context goes
to the ZoneKeeper. -/
def step (s : System) (e : Schedule.Label) : System where
  sched := s.sched.step e
  world :=
    match e, s.sched.runner with
    | .execute, .holding i =>
      if s.sched.live i.job then (execRequest env i.req s.world).2 else s.world
    | _, _ => s.world

def deliver (x : Execution) (world : World) : World :=
  if x.live then (execRequest env x.req world).2 else world

theorem step_world (e : Schedule.Label) :
    ∃ executed, (s.step env e).sched.executions = executed ++ s.sched.executions ∧
      (s.step env e).world = executed.foldr (deliver env) s.world := by
  by_cases hexec : e = .execute ∧ ∃ i, s.sched.runner = .holding i
  · obtain ⟨rfl, i, hi⟩ := hexec
    refine ⟨[⟨i.job, i.req, s.sched.live i.job⟩], ?_, ?_⟩
    · simp [step, Schedule.step, hi, Schedule.exec]
    · simp [step, hi, deliver]
  · refine ⟨[], ?_, ?_⟩
    · rcases Schedule.step_executions s.sched e with hsame | ⟨i, he, hi, -⟩
      · exact hsame
      · exact absurd ⟨he, i, hi⟩ hexec
    · simp only [step, List.foldr_nil]
      split
      · rename_i i hi
        exact absurd ⟨rfl, i, hi⟩ hexec
      · rfl

theorem run_world (events : List Schedule.Label) :
    ∃ executed, (Foundation.run (step env) s events).sched.executions =
        executed ++ s.sched.executions ∧
      (Foundation.run (step env) s events).world = executed.foldr (deliver env) s.world := by
  induction events generalizing s with
  | nil => exact ⟨[], rfl, rfl⟩
  | cons e _ ih =>
    obtain ⟨first, hfirst, hworld⟩ := step_world env s e
    obtain ⟨later, hlater, hworld'⟩ := ih (s.step env e)
    refine ⟨later ++ first, ?_, ?_⟩
    · rw [run_cons, hlater, hfirst, List.append_assoc]
    · rw [run_cons, hworld', hworld, List.foldr_append]

end System

end IotController.Conditioner
