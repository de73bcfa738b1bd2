/-
  Whether the end of a fade reaches its zone.

  The call that reaches the end of a fade returns the final values with the terminal state
  and drops the snapshot, before the request is sent.  On a zone that is not
  reconcile-managed the end is therefore delivered by one tick or not at all.
-/
import IotController.Conditioner.FadeFrame
import IotController.Foundation.Run

namespace IotController.Conditioner

open Foundation Api Proto Compute

def SentSince (base : List Sent) (e : Sent) (log : List Sent) : Prop :=
  ∃ tail, base <:+ tail ∧ e :: tail <:+ log

theorem SentSince.mono {base log log' : List Sent} {e : Sent} (h : SentSince base e log)
    (hlog : log <:+ log') : SentSince base e log' := by
  obtain ⟨tail, hbase, htail⟩ := h
  exact ⟨tail, hbase, htail.trans hlog⟩

def terminalSent (rem : Remediation) (p : FadeParams) : Sent :=
  ⟨.applyValues rem.zone (finalValues p), .ok⟩

/-- A tick that evaluates the fade, inside its windows, on an unmanaged zone; no other fade
shares the snapshot. -/
structure FadeTick (condName : String) (rem : Remediation) (p : FadeParams) (t : EvalTick) :
    Prop where
  unmanaged : isReconcileManaged t.fe.env rem.zone = false
  parses : parseFadeArgs t.fe.lib rem.activeComputeArgs = .ok p
  inWindow : ∀ n, withinActiveWindow t.fe.env rem (t.fe.clock n) = true
  listed : ∃ conditions, t.list = .ok conditions ∧ ∃ cond ∈ conditions,
    cond.enabled = true ∧ cond.name = condName ∧ rem ∈ cond.remediations
  alone : ∀ conditions, t.list = .ok conditions → ∀ cond ∈ conditions, cond.name = condName →
    ∀ rem' ∈ cond.remediations, rem'.activeCompute = fadeName → rem'.zone = rem.zone → rem' = rem

/-- Every time the tick reads belongs to the fade; past the end the final values are accepted. -/
def EvalTick.Timely (rem : Remediation) (p : FadeParams) (startedAt : Time) (t : EvalTick) :
    Prop :=
  (∀ n, Belongs t.fe.lib p startedAt (t.fe.clock n)) ∧
    ∀ n, FadeOver p startedAt (t.fe.clock n) → ∀ m, t.fe.rpc m (terminalSent rem p).call = .ok

/-- The snapshot is there, and some time the tick read was before the end. -/
def StillRunning (key : String × String) (p : FadeParams) (startedAt : Time) (t : EvalTick)
    (s : FadeWorld) : Prop :=
  (∃ entry, s.fadeSnapshots.lookup key = some entry ∧ entry.startedAt = startedAt) ∧
    ∃ n, ¬ FadeOver p startedAt (t.fe.clock n)

namespace FadeWorld

variable {condName : String} {rem : Remediation} {p : FadeParams} {startedAt : Time}
  {t : EvalTick} {s : FadeWorld}

theorem evaluateRemediation_fade (ht : FadeTick condName rem p t)
    (hfade : rem.activeCompute = fadeName) (sensorBound : String → Bool) {cond : Condition}
    (hcond : cond.name = condName) (s : FadeWorld) :
    ∃ u, (u = s ∨ u = s.next) ∧
      evaluateRemediation t.fe sensorBound cond s rem =
        (computeAndApply t.fe condName rem u).2 := by
  have hcompute : rem.activeCompute ≠ "" := by rw [hfade]; decide
  have hwindow : withinActiveWindow t.fe.env rem (t.fe.env.clock s.tick) = true :=
    ht.inWindow s.tick
  have hvisit : evaluateRemediation t.fe sensorBound cond s rem =
      (evaluateCompute t.fe condName rem s).2 := by
    simp only [evaluateRemediation, ht.unmanaged, Bool.false_eq_true, if_false, hcompute,
      ne_eq, not_false_eq_true, if_true, hcond]
  rw [hvisit]
  simp only [evaluateCompute, hwindow, if_true]
  split
  · exact ⟨s, Or.inl rfl, rfl⟩
  · exact ⟨s.next, Or.inr rfl, rfl⟩

theorem computeAndApply_grows {key : String × String} (fe : FadeEnv) (condName : String)
    (rem : Remediation) (h : s.Foreign key) :
    (computeAndApply fe condName rem s).2.Foreign key ∧
      s.log <:+ (computeAndApply fe condName rem s).2.log := by
  have hcall : ∀ comp now args (u : FadeWorld),
      (fe.invoke rem.activeCompute comp now args u).2.policies = u.policies ∧
        (fe.invoke rem.activeCompute comp now args u).2.log = u.log := by
    intro comp now args u
    unfold FadeEnv.invoke
    split
    · exact ⟨rfl, rfl⟩
    · exact ⟨rfl, rfl⟩
  unfold computeAndApply
  split
  · exact ⟨h, List.suffix_refl _⟩
  · rename_i comp _
    obtain ⟨hpolicies, hlog⟩ := hcall comp (fe.env.clock s.tick) (augmentedArgs condName rem) s.next
    revert hpolicies hlog
    generalize fe.invoke rem.activeCompute comp (fe.env.clock s.tick)
      (augmentedArgs condName rem) s.next = result
    obtain ⟨message | vals, u⟩ := result
    · intro hpolicies hlog
      exact ⟨fun z q hq => h z q (hpolicies ▸ hq), hlog ▸ List.suffix_refl _⟩
    · intro hpolicies hlog
      exact ⟨fun z q hq => h z q (hpolicies ▸ hq), hlog ▸ List.suffix_cons _ _⟩

/-- **One visit.**  The final values are accepted, or the fade is still running. -/
theorem visit_fade (ht : FadeTick condName rem p t) (hfade : rem.activeCompute = fadeName)
    (hnames : condName ≠ "" ∧ rem.zone ≠ "") (htimely : t.Timely rem p startedAt)
    (hunderway : Underway p (condName, rem.zone) startedAt s.fadeSnapshots)
    (sensorBound : String → Bool) {cond : Condition} (hcond : cond.name = condName) :
    SentSince s.log (terminalSent rem p)
        (evaluateRemediation t.fe sensorBound cond s rem).log ∨
      StillRunning (condName, rem.zone) p startedAt t
        (evaluateRemediation t.fe sensorBound cond s rem) := by
  obtain ⟨u, hu, hvisit⟩ := evaluateRemediation_fade ht hfade sensorBound hcond s
  have hsnapshots : u.fadeSnapshots = s.fadeSnapshots := by
    rcases hu with rfl | rfl
    · rfl
    · rfl
  have hlog : u.log = s.log := by
    rcases hu with rfl | rfl
    · rfl
    · rfl
  have hparse : parseFadeArgs t.fe.lib (augmentedArgs condName rem) = .ok p := by
    rw [parseFadeArgs_augmentedArgs, ht.parses]
  obtain ⟨vals, store, hcall, hfinal, hkeep⟩ :=
    fadeCompute_of_underway hparse (value_augmentedArgs_condition condName rem)
      (value_augmentedArgs_zone condName rem) hnames (htimely.1 u.tick)
      (hsnapshots ▸ hunderway) (t.fe.zoneLevels u.next.tick u.next.log)
  rw [hvisit, t.fe.computeAndApply_fade hfade hcall]
  by_cases hover : FadeOver p startedAt (t.fe.clock u.tick)
  · -- the request with the final values is accepted
    left
    refine ⟨s.log, List.suffix_refl _, ?_⟩
    have haccepted := htimely.2 u.tick hover u.next.next.tick
    rw [hfinal hover, ← hlog]
    have hsent : terminalSent rem p = ⟨.applyValues rem.zone (finalValues p),
        t.fe.rpc u.next.next.tick (.applyValues rem.zone (finalValues p))⟩ := by
      rw [show t.fe.rpc u.next.next.tick (.applyValues rem.zone (finalValues p)) = .ok
        from haccepted]
      rfl
    rw [hsent]
    exact List.suffix_refl _
  · right
    exact ⟨hkeep hover, u.tick, hover⟩

end FadeWorld

/-! ## A tick, visit by visit -/

/-- The final values have been accepted since `base`, or `Q` holds. -/
structure FadeStage (condName : String) (rem : Remediation) (p : FadeParams) (base : List Sent)
    (Q : FadeWorld → Prop) (s : FadeWorld) : Prop where
  foreign : s.Foreign (condName, rem.zone)
  log : base <:+ s.log
  settled : SentSince base (terminalSent rem p) s.log ∨ Q s

/-- `Q` follows the snapshot through the visits of a tick. -/
structure FollowsSnapshot (condName : String) (rem : Remediation) (p : FadeParams)
    (startedAt : Time) (t : EvalTick) (Q : FadeWorld → Prop) : Prop where
  snapshot : ∀ s u : FadeWorld, u.fadeSnapshots.lookup (condName, rem.zone) =
    s.fadeSnapshots.lookup (condName, rem.zone) → Q s → Q u
  underway : ∀ s, Q s →
    Underway p (condName, rem.zone) startedAt s.fadeSnapshots ∧ t.Timely rem p startedAt
  running : ∀ s u, Q s → StillRunning (condName, rem.zone) p startedAt t u → Q u

namespace FadeStage

variable {condName : String} {rem : Remediation} {p : FadeParams} {startedAt : Time}
  {t : EvalTick} {s : FadeWorld} {base : List Sent} {Q : FadeWorld → Prop}

theorem apart (hQ : FollowsSnapshot condName rem p startedAt t Q)
    (h : FadeStage condName rem p base Q s) {u : FadeWorld}
    (hapart : Apart (condName, rem.zone) s u) : FadeStage condName rem p base Q u where
  foreign := hapart.foreign
  log := h.log.trans hapart.log
  settled := h.settled.imp (fun hsent => hsent.mono hapart.log) (hQ.snapshot s u hapart.snapshot)

theorem reconcileTicks (hQ : FollowsSnapshot condName rem p startedAt t Q) (zones : List String)
    (h : FadeStage condName rem p base Q s) :
    FadeStage condName rem p base Q
      (zones.foldl (FadeWorld.reconcileTick t.fe) s) :=
  run_invariant (fun _ zone hu =>
    hu.apart hQ ((FadeWorld.fadeRule_apart t.fe zone _).reconcileTick hu.foreign))
    h zones

section

variable (ht : FadeTick condName rem p t) (hfade : rem.activeCompute = fadeName)
  (hnames : condName ≠ "" ∧ rem.zone ≠ "")
include ht hfade hnames

theorem visit {Q' : FadeWorld → Prop}
    (hunderway : ∀ s, Q s →
      Underway p (condName, rem.zone) startedAt s.fadeSnapshots ∧ t.Timely rem p startedAt)
    (hrunning : ∀ s u, Q s → StillRunning (condName, rem.zone) p startedAt t u → Q' u)
    (h : FadeStage condName rem p base Q s) (sensorBound : String → Bool) {cond : Condition}
    (hcond : cond.name = condName) :
    FadeStage condName rem p base Q'
      (FadeWorld.evaluateRemediation t.fe sensorBound cond s rem) := by
  obtain ⟨u, hu, hvisit⟩ := FadeWorld.evaluateRemediation_fade ht hfade sensorBound hcond s
  have hu' : u.Foreign (condName, rem.zone) ∧ u.log = s.log := by
    rcases hu with rfl | rfl
    · exact ⟨h.foreign, rfl⟩
    · exact ⟨h.foreign, rfl⟩
  obtain ⟨hforeign, hlog⟩ := FadeWorld.computeAndApply_grows t.fe condName rem hu'.1
  rw [← hvisit] at hforeign hlog
  rw [hu'.2] at hlog
  refine ⟨hforeign, h.log.trans hlog, ?_⟩
  rcases h.settled with hsent | hq
  · exact Or.inl (hsent.mono hlog)
  · obtain ⟨hunder, htimely⟩ := hunderway s hq
    rcases FadeWorld.visit_fade ht hfade hnames htimely hunder sensorBound hcond with
      ⟨tail, htail, hsent⟩ | hstill
    · exact Or.inl ⟨tail, h.log.trans htail, hsent⟩
    · exact Or.inr (hrunning s _ hq hstill)

theorem evaluateRemediation (hQ : FollowsSnapshot condName rem p startedAt t Q)
    {conditions : List Condition} (hlist : t.list = .ok conditions) {cond : Condition}
    (hcond : cond ∈ conditions) (sensorBound : String → Bool) {rem' : Remediation}
    (hrem : rem' ∈ cond.remediations) (h : FadeStage condName rem p base Q s) :
    FadeStage condName rem p base Q
      (FadeWorld.evaluateRemediation t.fe sensorBound cond s rem') := by
  by_cases hown : rem'.activeCompute = fadeName ∧ (cond.name, rem'.zone) = (condName, rem.zone)
  · obtain ⟨hname, hzone⟩ := Prod.mk.inj hown.2
    obtain rfl := ht.alone conditions hlist cond hcond hname rem' hrem hown.1 hzone
    exact h.visit ht hfade hnames hQ.underway hQ.running sensorBound hname
  · exact h.apart hQ (FadeWorld.evaluateRemediation_apart t.fe h.foreign
      (fun hcompute hkey => hown ⟨hcompute, hkey⟩) sensorBound)

theorem evaluateCondition (hQ : FollowsSnapshot condName rem p startedAt t Q)
    {conditions : List Condition} (hlist : t.list = .ok conditions) {cond : Condition}
    (hcond : cond ∈ conditions) (sensorBound : String → Bool)
    (h : FadeStage condName rem p base Q s) :
    FadeStage condName rem p base Q
      (FadeWorld.evaluateCondition t.fe sensorBound s cond) := by
  unfold FadeWorld.evaluateCondition
  split
  · exact run_invariant_of_mem
      (fun u rem' hrem hu => hu.evaluateRemediation ht hfade hnames hQ hlist hcond sensorBound hrem)
      h
  · exact h

theorem stepTick (hQ : FollowsSnapshot condName rem p startedAt t Q)
    (h : FadeStage condName rem p base Q s.restart) :
    FadeStage condName rem p base Q (s.stepTick t) := by
  obtain ⟨conditions, hlist, -⟩ := ht.listed
  simp only [FadeWorld.stepTick, FadeWorld.evaluate, hlist]
  apply reconcileTicks hQ
  exact run_invariant_of_mem
    (fun u cond hcond hu => hu.evaluateCondition ht hfade hnames hQ hlist hcond _) h

/-- **One tick.**  The final values have been accepted, or the fade is still running. -/
theorem stepTick_running (htimely : t.Timely rem p startedAt)
    (h : FadeStage condName rem p base
      (fun u => Underway p (condName, rem.zone) startedAt u.fadeSnapshots) s.restart) :
    FadeStage condName rem p base (StillRunning (condName, rem.zone) p startedAt t)
      (s.stepTick t) := by
  have hstill : ∀ u : FadeWorld, StillRunning (condName, rem.zone) p startedAt t u →
      Underway p (condName, rem.zone) startedAt u.fadeSnapshots := by
    rintro u ⟨⟨entry, hentry, hstarted⟩, -⟩
    rw [Underway, hentry]
    exact hstarted
  have hbefore : FollowsSnapshot condName rem p startedAt t
      fun u => Underway p (condName, rem.zone) startedAt u.fadeSnapshots :=
    { snapshot := fun s u hkey hunder => by rwa [Underway, hkey]
      underway := fun u hunder => ⟨hunder, htimely⟩
      running := fun _ u _ hrunning => hstill u hrunning }
  have hafter : FollowsSnapshot condName rem p startedAt t
      (StillRunning (condName, rem.zone) p startedAt t) :=
    { snapshot := fun s u hkey hrunning => by rwa [StillRunning, hkey]
      underway := fun u hrunning => ⟨hstill u hrunning, htimely⟩
      running := fun _ _ _ hrunning => hrunning }
  obtain ⟨conditions, hlist, cond, hcond, henabled, hname, hrem⟩ := ht.listed
  -- the visits before the fade's own, that one, and those after it
  obtain ⟨before, after, hsplit⟩ := List.append_of_mem hcond
  obtain ⟨rems, rems', hrems⟩ := List.append_of_mem hrem
  simp only [FadeWorld.stepTick, FadeWorld.evaluate, hlist]
  apply reconcileTicks hafter
  generalize sensorBoundConditions t.bindings = sensorBound
  have hfirst : FadeStage condName rem p base _
      (before.foldl (FadeWorld.evaluateCondition t.fe sensorBound) s.restart) :=
    run_invariant_of_mem (fun u c hc hu => hu.evaluateCondition ht hfade hnames hbefore hlist
      (by rw [hsplit]; exact List.mem_append_left _ hc) sensorBound) h
  have hown : FadeStage condName rem p base (StillRunning (condName, rem.zone) p startedAt t)
      (FadeWorld.evaluateCondition t.fe sensorBound
        (before.foldl (FadeWorld.evaluateCondition t.fe sensorBound) s.restart)
        cond) := by
    rw [FadeWorld.evaluateCondition, if_pos henabled, hrems, List.foldl_append, List.foldl_cons]
    have hearlier : FadeStage condName rem p base _
        (rems.foldl (FadeWorld.evaluateRemediation t.fe sensorBound cond) _) :=
      run_invariant_of_mem (fun u r hr hu => hu.evaluateRemediation ht hfade hnames hbefore hlist
        hcond sensorBound (by rw [hrems]; exact List.mem_append_left _ hr)) hfirst
    refine run_invariant_of_mem (fun u r hr hu => hu.evaluateRemediation ht hfade hnames hafter
      hlist hcond sensorBound (by rw [hrems]; simp [hr])) ?_
    exact hearlier.visit ht hfade hnames hbefore.underway (fun _ _ _ hrunning => hrunning)
      sensorBound hname
  rw [hsplit, List.foldl_append, List.foldl_cons]
  exact run_invariant_of_mem (fun u c hc hu => hu.evaluateCondition ht hfade hnames hafter hlist
    (by rw [hsplit]; simp [hc]) sensorBound) hown

end

end FadeStage

section Runs

variable {condName : String} {rem : Remediation} {p : FadeParams} {startedAt : Time}
  {s : FadeWorld} {base : List Sent} {ticks : List EvalTick}

/-- Until the final values have been accepted, the tick is timely. -/
def TimelyUntilSent (rem : Remediation) (p : FadeParams) (startedAt : Time) (base : List Sent)
    (s : FadeWorld) (t : EvalTick) : Prop :=
  ¬ SentSince base (terminalSent rem p) s.log → t.Timely rem p startedAt

section

variable (hfade : rem.activeCompute = fadeName) (hnames : condName ≠ "" ∧ rem.zone ≠ "")
  (hticks : ∀ t ∈ ticks, FadeTick condName rem p t)
include hfade hnames hticks

theorem run_sent (h : FadeStage condName rem p base (fun _ => False) s) :
    FadeStage condName rem p base (fun _ => False) (run FadeWorld.stepTick s ticks) := by
  refine run_invariant_of_mem (fun u t ht hu => ?_) h
  have hnever : FollowsSnapshot condName rem p 0 t fun _ => False :=
    { snapshot := fun _ _ _ hfalse => hfalse
      underway := fun _ hfalse => hfalse.elim
      running := fun _ _ hfalse _ => hfalse }
  exact FadeStage.stepTick (hticks t ht) hfade hnames hnever ⟨hu.foreign, hu.log, hu.settled⟩

/-- A run ends with the final values accepted, or every tick read a time before the end and the
snapshot stayed. -/
theorem run_settled (h : FadeStage condName rem p base
      (fun u => Underway p (condName, rem.zone) startedAt u.fadeSnapshots) s)
    (hguard : Along FadeWorld.stepTick (TimelyUntilSent rem p startedAt base) s ticks) :
    SentSince base (terminalSent rem p) (run FadeWorld.stepTick s ticks).log ∨
      (∀ t ∈ ticks, ∃ n, ¬ FadeOver p startedAt (t.fe.clock n)) ∧
        ((s.fadeSnapshots.lookup (condName, rem.zone)).isSome = true →
          ((run FadeWorld.stepTick s ticks).fadeSnapshots.lookup
            (condName, rem.zone)).isSome = true) := by
  induction ticks generalizing s with
  | nil => exact Or.inr ⟨by simp, id⟩
  | cons t _ ih =>
    obtain ⟨ht, hrest⟩ := List.forall_mem_cons.mp hticks
    by_cases hsent : SentSince base (terminalSent rem p) s.log
    · exact Or.inl ((run_sent hfade hnames hticks
        ⟨h.foreign, h.log, Or.inl hsent⟩).settled.resolve_right id)
    · have hstep := FadeStage.stepTick_running ht hfade hnames (hguard.1 hsent)
        (s := s) ⟨h.foreign, h.log, h.settled⟩
      rcases hstep.settled with hsent | ⟨⟨entry, hentry, hstarted⟩, hbefore⟩
      · exact Or.inl ((run_sent hfade hnames hrest
          ⟨hstep.foreign, hstep.log, Or.inl hsent⟩).settled.resolve_right id)
      · have hunderway : Underway p (condName, rem.zone) startedAt
            (s.stepTick t).fadeSnapshots := by
          rw [Underway, hentry]
          exact hstarted
        refine (ih hrest ⟨hstep.foreign, hstep.log, Or.inr hunderway⟩ hguard.2).imp_right ?_
        rintro ⟨htimes, hkeep⟩
        refine ⟨List.forall_mem_cons.mpr ⟨hbefore, htimes⟩, fun _ => hkeep ?_⟩
        rw [hentry]
        rfl

end

/-- **Delivery of the end of a fade.**  In a run whose ticks are timely until the final values
are accepted, a tick past the end has them accepted; only then the snapshot disappears. -/
theorem fade_terminal_delivered (hfade : rem.activeCompute = fadeName)
    (hnames : condName ≠ "" ∧ rem.zone ≠ "") (hforeign : s.Foreign (condName, rem.zone))
    (hunderway : Underway p (condName, rem.zone) startedAt s.fadeSnapshots)
    (hticks : ∀ t ∈ ticks, FadeTick condName rem p t)
    (hguard : Along FadeWorld.stepTick (TimelyUntilSent rem p startedAt s.log) s ticks) :
    ((∃ t ∈ ticks, ∀ n, FadeOver p startedAt (t.fe.clock n)) →
        SentSince s.log (terminalSent rem p) (run FadeWorld.stepTick s ticks).log) ∧
      ((s.fadeSnapshots.lookup (condName, rem.zone)).isSome = true →
        (run FadeWorld.stepTick s ticks).fadeSnapshots.lookup (condName, rem.zone) = none →
        SentSince s.log (terminalSent rem p) (run FadeWorld.stepTick s ticks).log) := by
  have hsettled := run_settled hfade hnames hticks
    ⟨hforeign, List.suffix_refl _, Or.inr hunderway⟩ hguard
  rcases hsettled with hsent | ⟨htimes, hkeep⟩
  · exact ⟨fun _ => hsent, fun _ _ => hsent⟩
  · constructor
    · rintro ⟨t, ht, hover⟩
      obtain ⟨n, hn⟩ := htimes t ht
      exact absurd (hover n) hn
    · intro hsome hnone
      have hkept := hkeep hsome
      rw [hnone] at hkept
      cases hkept

end Runs

/-! ## A light on the landing -/

def landingLibrary : GoLibrary where
  parseDuration _ := .ok (10 * minute)
  formatDuration _ := "10m0s"
  loadLocation _ := .ok utcZone
  atoi s := if s = "12" then .ok 12 else .ok 0

def noonPlus (minutes : Int) : Time := (12 * 60 + minutes) * minute

def landingEnv (managed : List String) (now : Time) (outcome : Outcome) : FadeEnv where
  toEnv := { Env.idle managed with clock := fun _ => now, rpc := fun _ _ => outcome }
  lib := landingLibrary
  zoneLevels _ _ _ := none

def landingArgs (anchor : String) : Args :=
  ((((AList.singleton "anchor" anchor).insert "duration" "10m").insert "start_at" "12:00").insert
    "brightness_to" "BRIGHTNESS_FULL").insert "terminal_state" "off"

def landingFade (anchor : String) : Remediation where
  zone := "landing"
  activeCompute := fadeName
  activeComputeArgs := landingArgs anchor

def landingCondition (anchor : String) : Condition where
  name := "landing-wakeup"
  name_valid := by decide
  enabled := true
  remediations := [landingFade anchor]

def landingTick (managed : List String) (anchor : String) (now : Time) (outcome : Outcome) :
    EvalTick where
  fe := landingEnv managed now outcome
  list := .ok [landingCondition anchor]
  bindings := .ok []

def landingParams : FadeParams where
  anchor := "event"
  duration := 10 * minute
  brightnessTo := 1
  terminalState := .off

def landingStarted : FadeWorld where
  fadeSnapshots := AList.singleton ("landing-wakeup", "landing") { startedAt := noonPlus 0 }

theorem parse_landingArgs :
    parseFadeArgs landingLibrary (landingArgs "event") = .ok landingParams := by
  have hduration : parseFadeDuration landingLibrary (landingArgs "event") =
      .ok (10 * minute) := by rfl
  have hstart : parseFadeStart (landingArgs "event") = .ok ("", "") := by rfl
  have hterminal : parseTerminalState (landingArgs "event") = .ok .off := by rfl
  simp only [parseFadeArgs, hduration, hstart, hterminal]
  rfl

theorem landingTick_fadeTick (now : Time) (outcome : Outcome) :
    FadeTick "landing-wakeup" (landingFade "event") landingParams
      (landingTick [] "event" now outcome) where
  unmanaged := rfl
  parses := parse_landingArgs
  inWindow _ := rfl
  listed := ⟨_, rfl, _, List.mem_cons_self, rfl, rfl, List.mem_cons_self⟩
  alone := by
    intro conditions hlist cond hcond _ rem' hrem _ _
    cases hlist
    obtain rfl := List.mem_singleton.mp hcond
    exact List.mem_singleton.mp hrem

/-- The request of 12:05 is refused and that of 12:10 accepted: the light ends at full
brightness and off. -/
theorem landing_delivered :
    SentSince landingStarted.log (terminalSent (landingFade "event") landingParams)
      (run FadeWorld.stepTick landingStarted
        [landingTick [] "event" (noonPlus 5) (.failed "unavailable"),
          landingTick [] "event" (noonPlus 10) .ok]).log := by
  refine (@fade_terminal_delivered "landing-wakeup" (landingFade "event") landingParams (noonPlus 0)
    landingStarted [landingTick [] "event" (noonPlus 5) (.failed "unavailable"),
      landingTick [] "event" (noonPlus 10) .ok] rfl (by decide) ?_ rfl ?_ ?_).1 ?_
  · intro zone policy hpolicy
    cases hpolicy
  · simp only [List.forall_mem_cons, List.not_mem_nil, false_implies, implies_true, and_true]
    exact ⟨landingTick_fadeTick _ _, landingTick_fadeTick _ _⟩
  · have hbefore : ¬ FadeOver landingParams (noonPlus 0) (noonPlus 5) := by decide
    exact ⟨fun _ => ⟨fun _ => Or.inl rfl, fun _ hover => absurd hover hbefore⟩,
      fun _ => ⟨fun _ => Or.inl rfl, fun _ _ _ => rfl⟩, trivial⟩
  · have hover : FadeOver landingParams (noonPlus 0) (noonPlus 10) := by decide
    exact ⟨_, List.mem_cons_of_mem _ List.mem_cons_self, fun _ => hover⟩

def LandingEndLost (s : FadeWorld) : Prop :=
  terminalSent (landingFade "event") landingParams ∉ s.log ∧
    s.fadeSnapshots.lookup ("landing-wakeup", "landing") = none

instance (s : FadeWorld) : Decidable (LandingEndLost s) := inferInstanceAs (Decidable (_ ∧ _))

/-- The end is lost with the snapshot when the first request past it is refused, on a managed
zone also when accepted, and when no tick of a window fade falls on the end. -/
theorem fade_terminal_lost :
    LandingEndLost (run FadeWorld.stepTick landingStarted
      [landingTick [] "event" (noonPlus 10) (.failed "unavailable"),
        landingTick [] "event" (noonPlus 11) .ok]) ∧
    LandingEndLost (run FadeWorld.stepTick landingStarted
      [landingTick ["landing"] "event" (noonPlus 5) .ok,
        landingTick ["landing"] "event" (noonPlus 10) .ok,
        landingTick ["landing"] "event" (noonPlus 11) .ok]) ∧
    LandingEndLost (run FadeWorld.stepTick {}
      [landingTick [] "window" (noonPlus 9) .ok, landingTick [] "window" (noonPlus 11) .ok]) := by
  decide +kernel

end IotController.Conditioner
