/-
  What an `ActivateCondition` outside every window
  leaves behind.

  The time gate of `activateRemediation` lets nothing through, but the RPC seeds the
  snapshot of an event fade before it comes to the gate.
-/
import IotController.Conditioner.Alert
import IotController.Conditioner.FadeFrame

namespace IotController.Conditioner

open Foundation Api Proto Compute

/-! ## Gated RPCs -/

/-- The RPC records a snapshot for the Remediation. -/
def SeedsFade (lib : GoLibrary) (rem : Remediation) : Prop :=
  rem.activeCompute = fadeName ∧ Args.value rem.activeComputeArgs "anchor" = "event" ∧
    ∃ p, parseFadeArgs lib rem.activeComputeArgs = .ok p

/-- Every time that can be read is outside the windows of the Remediation. -/
def Gated (fe : FadeEnv) (rem : Remediation) : Prop :=
  rem.timeIntervals ≠ [] ∧ ∀ n, withinActiveWindow fe.env rem (fe.clock n) = false

namespace ActivateRPC

/-- The Remediations that the RPC finds for the zone are gated. -/
def TimeGatedOn (r : ActivateRPC) (zone : String) : Prop :=
  ∀ cond, r.get = .ok cond → cond.enabled = true → ∀ rem ∈ cond.remediations,
    rem.zone = zone → Gated r.fe rem

def TimeGated (r : ActivateRPC) : Prop := ∀ zone, r.TimeGatedOn zone

/-- The RPC records a snapshot for the zone. -/
def SeedsOn (r : ActivateRPC) (zone : String) : Prop :=
  ∃ cond, r.get = .ok cond ∧ cond.enabled = true ∧
    ∃ rem ∈ cond.remediations, rem.zone = zone ∧ SeedsFade r.fe.lib rem

def Seeds (r : ActivateRPC) : Prop := ∃ zone, r.SeedsOn zone

end ActivateRPC

/-- What belongs to one zone: its commands, policy and last target, and its entries in the
fade's store and the cache. -/
structure ZoneView where
  calls : List Sent
  policy : Option ZonePolicy
  lastApplied : Option ApplyValues
  snapshots : String → Option FadeSnapshot
  cache : Condition → Option ConditionState

namespace FadeWorld

variable {fe : FadeEnv} {condName zone : String} {rem : Remediation}

theorem seedFade_eq (fe : FadeEnv) (condName : String) (rem : Remediation) (s : FadeWorld) :
    ∃ n, (¬ SeedsFade fe.lib rem ∧ s.seedFade fe condName rem = { s with tick := n }) ∨
      SeedsFade fe.lib rem ∧ ∃ entry, s.seedFade fe condName rem =
        { s with
          tick := n
          fadeSnapshots := s.fadeSnapshots.insert (condName, rem.zone) entry } := by
  unfold seedFade
  split
  · rename_i hevent
    have hparse := @seedEventSnapshot_isSome_iff fe.lib _ hevent.2 (fe.zoneLevels s.tick s.log)
      (fe.clock s.tick) rem.zone
    split
    · rename_i hseed
      refine ⟨_, Or.inl ⟨fun h => ?_, rfl⟩⟩
      rw [hseed] at hparse
      cases hparse.mpr h.2.2
    · rename_i entry hseed
      rw [hseed] at hparse
      exact ⟨_, Or.inr ⟨⟨hevent.1, hevent.2, hparse.mp rfl⟩, entry, rfl⟩⟩
  · rename_i hevent
    exact ⟨s.tick, Or.inl ⟨fun h => hevent ⟨h.1, h.2.1⟩, rfl⟩⟩

/-- What the RPC does for one Remediation. -/
def visit (fe : FadeEnv) (condName : String) (s : FadeWorld) (rem : Remediation) : FadeWorld :=
  (activateRemediation fe condName rem (s.seedFade fe condName rem)).2

theorem activateRemediations_eq_run (rems : List Remediation) (errs : List Error)
    (s : FadeWorld) :
    (activateRemediations fe condName rems errs s).2 = run (visit fe condName) s rems := by
  induction rems generalizing errs s with
  | nil => rfl
  | cons rem _ ih =>
    simp only [activateRemediations, run_cons, visit]
    generalize activateRemediation fe condName rem (s.seedFade fe condName rem) = result
    obtain ⟨_ | e, t⟩ := result
    · exact ih errs t
    · exact ih (errs ++ [e]) t

theorem stepRPC_eq_run {r : ActivateRPC} {cond : Condition} (hget : r.get = .ok cond)
    (henabled : cond.enabled = true) (s : FadeWorld) :
    s.stepRPC r = run (visit r.fe cond.name) s.restart cond.remediations := by
  simp only [stepRPC, activateCondition, hget, henabled, if_true]
  rw [← activateRemediations_eq_run cond.remediations []]
  generalize activateRemediations r.fe cond.name cond.remediations [] s.restart = result
  obtain ⟨_ | _, t⟩ := result
  · rfl
  · rfl

/-- An RPC that finds no enabled Condition does nothing. -/
theorem stepRPC_cases (r : ActivateRPC) (s : FadeWorld) :
    s.stepRPC r = s.restart ∨ ∃ cond, r.get = .ok cond ∧ cond.enabled = true := by
  cases hget : r.get with
  | error => exact Or.inl (by simp only [stepRPC, activateCondition, hget])
  | ok cond =>
    by_cases henabled : cond.enabled = true
    · exact Or.inr ⟨cond, rfl, henabled⟩
    · left
      simp only [stepRPC, activateCondition, hget, henabled, Bool.false_eq_true, if_false]

theorem visit_of_gated (hgated : Gated fe rem) (s : FadeWorld) :
    visit fe condName s rem = (s.seedFade fe condName rem).next := by
  have hclock : ∀ n, withinActiveWindow fe.env rem (fe.env.clock n) = false := hgated.2
  simp [visit, activateRemediation, activateRemediationFromSource, hgated.1, hclock]

theorem stepRPC_restart {r : ActivateRPC} (hgated : r.TimeGated) (hseeds : ¬ r.Seeds)
    (s : FadeWorld) : (s.stepRPC r).restart = s.restart := by
  rcases stepRPC_cases r s with hnothing | ⟨cond, hget, henabled⟩
  · rw [hnothing]
    rfl
  · rw [stepRPC_eq_run hget henabled]
    refine @run_invariant_of_mem _ _ (visit r.fe cond.name)
      (fun t => t.restart = s.restart) _ ?_ _ rfl
    intro t rem hrem ht
    rw [visit_of_gated (hgated _ cond hget henabled rem hrem rfl)]
    obtain ⟨n, ⟨-, heq⟩ | ⟨hseed, -⟩⟩ := seedFade_eq r.fe cond.name rem t
    · rw [heq]
      exact ht
    · exact absurd ⟨_, cond, hget, henabled, rem, hrem, rfl, hseed⟩ hseeds

theorem stepRPC_log {r : ActivateRPC} (hgated : r.TimeGated) {cond : Condition}
    (hget : r.get = .ok cond) (henabled : cond.enabled = true) (s : FadeWorld) :
    (s.stepRPC r).log = s.log := by
  rw [stepRPC_eq_run hget henabled]
  refine @run_invariant_of_mem _ _ (visit r.fe cond.name) (fun t => t.log = s.log) _ ?_ _ rfl
  intro t rem hrem ht
  rw [visit_of_gated (hgated _ cond hget henabled rem hrem rfl)]
  obtain ⟨n, ⟨-, heq⟩ | ⟨-, entry, heq⟩⟩ := seedFade_eq r.fe cond.name rem t
  · exact (congrArg (fun u => u.log) heq).trans ht
  · exact (congrArg (fun u => u.log) heq).trans ht

/-! ## One zone among others -/

def viewOf (zone : String) (s : FadeWorld) : ZoneView where
  calls := callsOn zone s.log
  policy := s.policies.lookup zone
  lastApplied := s.lastApplied.lookup zone
  snapshots c := s.fadeSnapshots.lookup (c, zone)
  cache c := s.condState.lookup (condStateKey c.name zone)

/-- No entry on another zone's stack calls a fade of this zone. -/
def Elsewhere (zone : String) (s : FadeWorld) : Prop :=
  ∀ z, z ≠ zone → ∀ policy, s.policies.lookup z = some policy →
    policy.Admits fun name args => name = fadeName → (snapshotKey args).2 ≠ zone

theorem elsewhere_initial (zone : String) : ({} : FadeWorld).Elsewhere zone :=
  fun _ _ _ hpolicy => by cases hpolicy

/-- `t` comes from `s` by operations on other zones. -/
def Untouched (zone : String) (s t : FadeWorld) : Prop :=
  t.Elsewhere zone ∧ t.viewOf zone = s.viewOf zone

theorem fadeRule_untouched (fe : FadeEnv) {own : String} (hown : own ≠ zone) :
    FadeRule fe own (fun name args => name = fadeName → (snapshotKey args).2 ≠ zone)
      (Elsewhere zone) (Untouched zone) where
  refl _ h := ⟨h, rfl⟩
  trans hst htu := ⟨htu.1, htu.2.trans hst.2⟩
  keeps h := h.1
  entries _ h := h own hown
  call s h name args hargs comp now := by
    unfold FadeEnv.invoke
    split
    · rename_i hname
      refine ⟨h, ?_⟩
      have hkey : ∀ c, (c, zone) ≠ snapshotKey args := fun c heq =>
        hargs hname (congrArg Prod.snd heq).symm
      simp only [viewOf, lookup_fadeCompute_of_ne (hkey _)]
      rfl
    · exact ⟨h, rfl⟩
  policy s h _ _ policy hpolicy _ := by
    refine ⟨fun z hz q hq => ?_, ?_⟩
    · replace hq : (s.policies.insert own policy).lookup z = some q := hq
      rw [GoMap.lookup_insert_eq] at hq
      split at hq
      · cases hq
        exact hpolicy
      · exact h z hz q hq
    · simp only [viewOf, AList.lookup_insert_ne hown.symm]
  next _ h := ⟨h, rfl⟩
  send _ h _ := ⟨h, by simp [viewOf, callsOn, Host.lift, World.send, Call.zone, hown]⟩
  applied _ h _ := ⟨h, by simp only [viewOf, AList.lookup_insert_ne hown.symm]⟩

theorem untouched_lift {s : FadeWorld} (h : s.Elsewhere zone) {cond : Condition}
    (hzone : rem.zone ≠ zone) {f : World → Option Error × World}
    (hframe : OwnFrame cond.name rem.zone s.toWorld (f s.toWorld).2)
    (hworld : ∃ n log cache, (f s.toWorld).2 =
      { s.toWorld with tick := n, log := log, condState := cache }) :
    Untouched zone s (fe.host.lift f s).2 := by
  obtain ⟨n, log, cache, hworld⟩ := hworld
  have hcalls := hframe.callsOn_eq hzone.symm
  have hcache := fun c : Condition => hframe.condState (condStateKey c.name zone)
    (alertActiveKey_ne c.name_valid cond.name_valid hzone)
  rw [hworld] at hcalls hcache
  simp only [Untouched, Host.lift, hworld, viewOf, hcalls, hcache, and_true]
  exact h

theorem activateInWindow_untouched {s : FadeWorld} (h : s.Elsewhere zone) {cond : Condition}
    (hzone : rem.zone ≠ zone) (src : SourceKind) :
    Untouched zone s (activateInWindow fe cond.name rem src s).2 := by
  simp only [activateInWindow]
  split
  · exact untouched_lift h hzone (World.send_frame fe.env cond.name
      (.adjustBrightness rem.zone _) s.toWorld) ⟨_, _, _, rfl⟩
  · split
    · have hrule := fadeRule_untouched fe hzone
      have hrem : ∀ state, Untouched zone s (bridgeImperativeActivate fe cond.name
          { rem with activeState := state } src s).2 := fun state =>
        @FadeRule.bridgeImperativeActivate _ _ _ _ _ _ { rem with activeState := state } hrule h
          (fun _ => by simpa using hzone) (fun _ hname => absurd hname (by decide)) src
      unfold resolveToggle
      split
      · exact hrem _
      · exact hrem rem.activeState
    · refine untouched_lift h hzone (applyDesired_frame fe.env cond.name rem.zone _
        (fun r hr => ?_) s.toWorld) (applyDesired_world fe.env cond.name rem.zone _ s.toWorld)
      rw [Request.zone_of_build hr, resolveToggle_zone]

theorem seedFade_untouched {s : FadeWorld} (h : s.Elsewhere zone) (hzone : rem.zone ≠ zone) :
    Untouched zone s (s.seedFade fe condName rem) := by
  obtain ⟨n, ⟨-, heq⟩ | ⟨-, entry, heq⟩⟩ := seedFade_eq fe condName rem s
  · exact heq ▸ ⟨h, rfl⟩
  · have hkey : ∀ c, (c, zone) ≠ (condName, rem.zone) := fun c h =>
      hzone (congrArg Prod.snd h).symm
    rw [heq]
    exact ⟨h, by simp only [viewOf, AList.lookup_insert_ne (hkey _)]⟩

theorem visit_untouched {s : FadeWorld} (h : s.Elsewhere zone) {cond : Condition}
    (hzone : rem.zone ≠ zone) : Untouched zone s (visit fe cond.name s rem) := by
  have hseed : Untouched zone s (s.seedFade fe cond.name rem) := seedFade_untouched h hzone
  have hrule := fadeRule_untouched fe hzone
  refine hrule.andThen hseed fun h => ?_
  unfold visit activateRemediation activateRemediationFromSource
  split
  · exact activateInWindow_untouched h hzone .binding
  · split
    · exact hrule.andThen (hrule.next _ h) fun h => activateInWindow_untouched h hzone .binding
    · exact hrule.next _ h

/-- **One Remediation.**  It leaves a zone of gated ones alone, except that it can seed the
zone's fade. -/
theorem visit_elsewhere (cond : Condition) {s : FadeWorld} (h : s.Elsewhere zone)
    (hgated : rem.zone = zone → Gated fe rem) :
    (visit fe cond.name s rem).Elsewhere zone ∧
      ((rem.zone = zone → ¬ SeedsFade fe.lib rem) →
        (visit fe cond.name s rem).viewOf zone = s.viewOf zone) ∧
      ((s.fadeSnapshots.lookup (cond.name, zone)).isSome = true ∨
          rem.zone = zone ∧ SeedsFade fe.lib rem →
        ((visit fe cond.name s rem).fadeSnapshots.lookup (cond.name, zone)).isSome = true) := by
  by_cases hzone : rem.zone = zone
  · rw [visit_of_gated (hgated hzone)]
    obtain ⟨n, ⟨hnot, heq⟩ | ⟨hseed, entry, heq⟩⟩ := seedFade_eq fe cond.name rem s
    · rw [heq]
      exact ⟨h, fun _ => rfl, fun hsome => hsome.resolve_right fun hseed => hnot hseed.2⟩
    · rw [heq]
      refine ⟨h, fun hseeds => absurd hseed (hseeds hzone), fun _ => ?_⟩
      simp [hzone, next]
  · obtain ⟨helsewhere, hview⟩ := @visit_untouched fe _ _ _ h cond hzone
    refine ⟨helsewhere, fun _ => hview, fun hsome => ?_⟩
    have hsnapshots := congrFun (congrArg ZoneView.snapshots hview) cond.name
    exact (congrArg Option.isSome hsnapshots).trans
      (hsome.resolve_right fun hseed => hzone hseed.1)

theorem stepRPC_isSome {r : ActivateRPC} (hgated : r.TimeGatedOn zone) {cond : Condition}
    (hget : r.get = .ok cond) (henabled : cond.enabled = true) (hrem : rem ∈ cond.remediations)
    (hzone : rem.zone = zone) (hseeds : SeedsFade r.fe.lib rem) {s : FadeWorld}
    (h : s.Elsewhere zone) :
    ((s.stepRPC r).fadeSnapshots.lookup (cond.name, zone)).isSome = true := by
  rw [stepRPC_eq_run hget henabled]
  have hstep := fun (u : FadeWorld) rem' hrem' (hu : u.Elsewhere zone) =>
    visit_elsewhere cond hu (hgated cond hget henabled rem' hrem')
  -- the snapshot appears at the Remediation and is still there at the end
  obtain ⟨before, after, hsplit⟩ := List.append_of_mem hrem
  rw [hsplit] at hstep ⊢
  have hbefore : (run (visit r.fe cond.name) s.restart before).Elsewhere zone :=
    run_invariant_of_mem (fun u rem' hrem' hu =>
      (hstep u rem' (List.mem_append_left _ hrem') hu).1) h
  rw [run_append, run_cons]
  refine (@run_invariant_of_mem _ _ (visit r.fe cond.name) (fun u => u.Elsewhere zone ∧
    (u.fadeSnapshots.lookup (cond.name, zone)).isSome = true) after ?_ _ ⟨?_, ?_⟩).2
  · rintro u rem' hrem' ⟨hu, hsome⟩
    have hu' := hstep u rem' (by simp [hrem']) hu
    exact ⟨hu'.1, hu'.2.2 (Or.inl hsome)⟩
  · exact (hstep _ rem (by simp) hbefore).1
  · exact (hstep _ rem (by simp) hbefore).2.2 (Or.inr ⟨hzone, hseeds⟩)

/-- A gated zone is as it was, whatever happens elsewhere, exactly when the RPC seeds no fade of
it. -/
theorem stepRPC_viewOf_iff {r : ActivateRPC} (hgated : r.TimeGatedOn zone) :
    (∀ s : FadeWorld, s.Elsewhere zone → (s.stepRPC r).viewOf zone = s.viewOf zone) ↔
      ¬ r.SeedsOn zone := by
  constructor
  · rintro hsame ⟨cond, hget, henabled, rem, hrem, hzone, hseeds⟩
    have hnone := elsewhere_initial zone
    have hsome := stepRPC_isSome hgated hget henabled hrem hzone hseeds hnone
    have hsnapshots := congrFun (congrArg ZoneView.snapshots (hsame {} hnone)) cond.name
    cases hsome.symm.trans (congrArg Option.isSome hsnapshots)
  · intro hseeds s h
    rcases stepRPC_cases r s with hnothing | ⟨cond, hget, henabled⟩
    · rw [hnothing]
      rfl
    · rw [stepRPC_eq_run hget henabled]
      refine (@run_invariant_of_mem _ _ (visit r.fe cond.name) (Untouched zone s) _ ?_ s.restart
        ⟨h, rfl⟩).2
      rintro t rem hrem ⟨ht, hview⟩
      have hstep := visit_elsewhere cond ht (hgated cond hget henabled rem hrem)
      refine ⟨hstep.1, (hstep.2.1 fun hzone hseed => ?_).trans hview⟩
      exact hseeds ⟨cond, hget, henabled, rem, hrem, hzone, hseed⟩

end FadeWorld

/-! ## A tick that tells the runs apart

A window fade of one nanosecond, at midnight in UTC, is over at midnight if its snapshot is
from the day before, and has just begun if it has none. -/

theorem exists_midnight (t : Time) : ∃ now, t < now ∧ utcZone now 0 0 = now := by
  have hday : (0 : Int) < 1440 * minute := by decide
  refine ⟨(t / (1440 * minute) + 1) * (1440 * minute), Int.lt_ediv_add_one_mul_self t hday, ?_⟩
  simp only [utcZone, Int.mul_ediv_cancel _ hday.ne', zero_mul, add_zero]

def probeLibrary : GoLibrary where
  parseDuration _ := .ok 1
  formatDuration _ := "1ns"
  loadLocation _ := .ok utcZone
  atoi _ := .ok 0

def probeArgs : Args :=
  ((AList.singleton "duration" "1ns").insert "start_at" "00:00").insert "terminal_state" "off"

def probeFade (zone : String) : Remediation where
  zone := zone
  activeCompute := fadeName
  activeComputeArgs := probeArgs

def probeEnv (now : Time) : FadeEnv where
  toEnv := { Env.idle [] with clock := fun _ => now }
  lib := probeLibrary
  zoneLevels _ _ _ := none

def probeTick (cond : Condition) (zone : String) (now : Time) : EvalTick where
  fe := probeEnv now
  list := .ok [{ cond with enabled := true, remediations := [probeFade zone] }]
  bindings := .ok []

def probeParams : FadeParams where
  anchor := "window"
  duration := 1
  startAt := "00:00"
  timezone := "UTC"
  terminalState := .off

theorem parse_probeArgs : parseFadeArgs probeLibrary probeArgs = .ok probeParams := by
  have hduration : parseFadeDuration probeLibrary probeArgs = .ok 1 := by rfl
  have hstart : parseFadeStart probeArgs = .ok ("00:00", "UTC") := by rfl
  have hterminal : parseTerminalState probeArgs = .ok .off := by rfl
  simp only [parseFadeArgs, hduration, hstart, hterminal]
  rfl

theorem log_probeTick {cond : Condition} {zone : String} {now : Time} {s : FadeWorld}
    {vals : ApplyValues}
    (hcall : (computeWindow probeLibrary (fun _ => none) now cond.name zone probeParams
      s.fadeSnapshots).1 = .ok vals) :
    (s.stepTick (probeTick cond zone now)).log = ⟨.applyValues zone vals, .ok⟩ :: s.log := by
  have hfade : (probeEnv now).fadeCall cond.name (probeFade zone) now s.restart.next =
      (.ok vals, (computeWindow probeLibrary (fun _ => none) now cond.name zone probeParams
        s.fadeSnapshots).2) := by
    have hlib : (probeEnv now).lib = probeLibrary := rfl
    have hargs : (probeFade zone).activeComputeArgs = probeArgs := rfl
    simp only [FadeEnv.fadeCall, fadeCompute, parseFadeArgs_augmentedArgs, hlib, hargs,
      parse_probeArgs, value_augmentedArgs_condition, value_augmentedArgs_zone]
    exact Prod.ext hcall rfl
  have hstep : s.stepTick (probeTick cond zone now) =
      (FadeWorld.computeAndApply (probeEnv now) cond.name (probeFade zone) s.restart).2 := by
    have hzones : (probeEnv now).env.cfg.reconcileZones = [] := rfl
    simp [FadeWorld.stepTick, FadeWorld.evaluate, probeTick, FadeWorld.evaluateCondition,
      FadeWorld.evaluateRemediation, FadeWorld.evaluateCompute, isReconcileManaged, hzones,
      probeFade, fadeName]
  rw [hstep, (probeEnv now).computeAndApply_fade (s := s.restart) rfl hfade]
  rfl

theorem computeWindow_probe {now : Time} (hmidnight : utcZone now 0 0 = now) (cond zone : String)
    (store : FadeSnapshotStore) :
    (computeWindow probeLibrary (fun _ => none) now cond zone probeParams store).1 =
      match store.lookup (cond, zone) with
      | some entry => .ok (interpolate probeParams entry now cond zone store).1
      | none => .ok {} := by
  have hhhmm : parseHHMM probeLibrary probeParams.startAt = .ok (0, 0) := by rfl
  have hinside : ¬ (now < now ∨ now + probeParams.duration < now) := by simp [probeParams]
  simp only [computeWindow, probeLibrary] at hhhmm ⊢
  simp only [hhhmm, hmidnight, hinside, if_false]
  cases store.lookup (cond, zone) with
  | some => rfl
  | none =>
    -- the fade begins at this instant
    simp [interpolate, fadeProgress, resolveFromValues, Time.sub, fadeAxes, probeParams]

/-- **What a gated activation does.**  A zone whose Remediations are gated is as it was,
whatever the RPC does elsewhere, exactly when it seeds no fade of the zone.  When all are gated,
the same commands are sent with and without the RPC, from every state and for all ticks, exactly
when it seeds no fade. -/
theorem gated_activation_inert_iff (r : ActivateRPC) (gated : String) (hzone : r.TimeGatedOn gated) :
    ((∀ s : FadeWorld, s.Elsewhere gated → (s.stepRPC r).viewOf gated = s.viewOf gated) ↔
      ¬ r.SeedsOn gated) ∧
    (r.TimeGated →
      ((∀ (s : FadeWorld) (ticks : List EvalTick) (zone : String),
        callsOn zone (run FadeWorld.stepTick (s.stepRPC r) ticks).log =
          callsOn zone (run FadeWorld.stepTick s ticks).log) ↔
        ¬ r.Seeds)) := by
  refine ⟨FadeWorld.stepRPC_viewOf_iff hzone, fun hgated => ⟨?_, ?_⟩⟩
  · rintro hsame ⟨_, cond, hget, henabled, rem, hrem, rfl, hseeds⟩
    have hlog := FadeWorld.stepRPC_log hgated hget henabled {}
    have hsome := FadeWorld.stepRPC_isSome (hgated rem.zone) hget henabled hrem rfl hseeds
      (FadeWorld.elsewhere_initial rem.zone)
    obtain ⟨entry, hentry⟩ := Option.isSome_iff_exists.mp hsome
    obtain ⟨now, hafter, hmidnight⟩ := exists_midnight entry.startedAt
    have hover : FadeOver probeParams entry.startedAt now :=
      le_max_of_le_right (le_min (by norm_num [probeParams]) (Int.sub_pos.mpr hafter))
    have hwith := @log_probeTick cond rem.zone now (({} : FadeWorld).stepRPC r)
      (finalValues probeParams) (by
        rw [computeWindow_probe hmidnight, hentry]
        exact congrArg (fun v => Except.ok v.1) (interpolate_of_over (by decide) hover))
    have hwithout := @log_probeTick cond rem.zone now {} {} (computeWindow_probe hmidnight _ _ _)
    have hcalls := hsame {} [probeTick cond rem.zone now] rem.zone
    simp only [run_cons, run_nil, hwith, hwithout, hlog] at hcalls
    simp [callsOn, Call.zone, finalValues, probeParams] at hcalls
  · intro hseeds s ticks zone
    have hrestart := FadeWorld.stepRPC_restart hgated hseeds s
    cases ticks with
    | nil =>
      have hlog : (s.stepRPC r).log = s.log := congrArg (fun t => t.log) hrestart
      rw [run_nil, run_nil, hlog]
    | cons t =>
      have hstep : (s.stepRPC r).stepTick t = s.stepTick t := by
        unfold FadeWorld.stepTick
        rw [hrestart]
      rw [run_cons, run_cons, hstep]

/-! ## A veranda light -/

def verandaLibrary : GoLibrary where
  parseDuration _ := .ok (10 * minute)
  formatDuration _ := "10m0s"
  loadLocation _ := .ok utcZone
  atoi s := .error s

/-- The day's inputs at `now`; every interval is open from 18:00 on. -/
def verandaEnv (now : Time) : FadeEnv where
  toEnv :=
    { Env.idle [] with
      clock := fun _ => now
      asPrometheus := fun _ => some fun t => 18 * 60 * minute ≤ t }
  lib := verandaLibrary
  zoneLevels _ _ _ := none

def eveningInterval : TimeIntervalSpec where
  times := [{ startTime := "18:00", endTime := "23:00" }]

def verandaCondition (rem : Remediation) : Condition where
  name := "veranda-evening"
  name_valid := by decide
  enabled := true
  remediations := [rem]

def verandaOn : Remediation where
  zone := "veranda"
  activeState := "on"
  timeIntervals := [eveningInterval]

def verandaFade : Remediation where
  zone := "veranda"
  timeIntervals := [eveningInterval]
  activeCompute := fadeName
  activeComputeArgs :=
    ((AList.singleton "anchor" "event").insert "duration" "10m").insert "brightness_to"
      "BRIGHTNESS_FULL"

def noonRPC (rem : Remediation) : ActivateRPC where
  fe := verandaEnv (12 * 60 * minute)
  name := "veranda-evening"
  get := .ok (verandaCondition rem)

def eveningTick (rem : Remediation) : EvalTick where
  fe := verandaEnv (18 * 60 * minute)
  list := .ok [verandaCondition rem]
  bindings := .ok []

theorem verandaOn_gated {rem : Remediation} (hintervals : rem.timeIntervals = [eveningInterval]) :
    Gated (verandaEnv (12 * 60 * minute)) rem := by
  refine ⟨by simp [hintervals], fun n => ?_⟩
  simp only [withinActiveWindow, hintervals]
  rfl

theorem noonRPC_timeGated {rem : Remediation} (hintervals : rem.timeIntervals = [eveningInterval]) :
    (noonRPC rem).TimeGated := by
  intro zone cond hget _ rem' hrem _
  cases hget
  obtain rfl := List.mem_singleton.mp hrem
  exact verandaOn_gated hintervals

theorem verandaOn_not_seeds : ¬ (noonRPC verandaOn).Seeds := by
  rintro ⟨_, cond, hget, _, rem, hrem, _, hfade, _⟩
  cases hget
  obtain rfl := List.mem_singleton.mp hrem
  exact absurd hfade (by decide)

def gardenOn : Remediation where
  zone := "garden"
  activeState := "on"

/-- The RPC at noon for a Condition that has a light without intervals as well. -/
def gardenRPC : ActivateRPC :=
  { noonRPC verandaOn with
    get := .ok { verandaCondition verandaOn with remediations := [verandaOn, gardenOn] } }

theorem gardenRPC_gated :
    gardenRPC.TimeGatedOn "veranda" ∧ ¬ gardenRPC.SeedsOn "veranda" := by
  constructor
  · intro cond hget _ rem hrem hzone
    cases hget
    rcases List.mem_pair.mp hrem with rfl | rfl
    · exact verandaOn_gated rfl
    · exact absurd hzone (by decide)
  · rintro ⟨cond, hget, _, rem, hrem, _, hfade, _⟩
    cases hget
    rcases List.mem_pair.mp hrem with rfl | rfl
    · exact absurd hfade (by decide)
    · exact absurd hfade (by decide)

/-- An RPC at noon for the plain light changes nothing; with a garden light in the Condition it
sends one command, to the garden. -/
theorem verandaOn_inert :
    ((noonRPC verandaOn).TimeGated ∧
      ∀ (s : FadeWorld) (ticks : List EvalTick) (zone : String),
        callsOn zone (run FadeWorld.stepTick (s.stepRPC (noonRPC verandaOn)) ticks).log =
          callsOn zone (run FadeWorld.stepTick s ticks).log) ∧
    gardenRPC.TimeGatedOn "veranda" ∧
      (({} : FadeWorld).stepRPC gardenRPC).log = [⟨.setState "garden" .on, .ok⟩] ∧
      (({} : FadeWorld).stepRPC gardenRPC).viewOf "veranda" = ({} : FadeWorld).viewOf "veranda" :=
  ⟨⟨noonRPC_timeGated rfl,
    ((gated_activation_inert_iff (noonRPC verandaOn) "veranda" (noonRPC_timeGated rfl _)).2
      (noonRPC_timeGated rfl)).mpr verandaOn_not_seeds⟩,
    gardenRPC_gated.1, by decide +kernel,
    (gated_activation_inert_iff gardenRPC "veranda" gardenRPC_gated.1).1.mpr gardenRPC_gated.2 {}
      (FadeWorld.elsewhere_initial _)⟩

/-- An RPC for the fade at noon meets its time gate, and at 18:00 the tick sends full brightness
instead of nothing. -/
theorem verandaFade_noon_seed :
    (noonRPC verandaFade).TimeGated ∧
      (({} : FadeWorld).stepTick (eveningTick verandaFade)).log =
        [⟨.applyValues "veranda" {}, .ok⟩] ∧
      ((({} : FadeWorld).stepRPC (noonRPC verandaFade)).stepTick (eveningTick verandaFade)).log =
        [⟨.applyValues "veranda" { brightness := .full, brightnessValue := .finite 1 }, .ok⟩] := by
  refine ⟨noonRPC_timeGated rfl, by decide +kernel, by decide +kernel⟩

end IotController.Conditioner
