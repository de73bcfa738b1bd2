/-
  What a bridge call leaves on the stacks.

  Both bridges push with the REFRESH policy, and a refresh keeps the Computer, the arguments
  and the priority of the entry it meets.  A call therefore leaves the value its Remediation
  declares on an axis exactly when, at the moment of the push, its own source has no entry
  there or one that already yields this value.
-/
import IotController.Conditioner.Remediate
import IotController.Foundation.Run

namespace IotController.Conditioner

open Foundation Api Proto Compute

/-! ## One refresh -/

namespace AxisStack

def DistinctIds (s : AxisStack) : Prop := (s.map RuntimeActivation.id).Nodup

/-- The entry that stands for the source of `ra` after a refresh. -/
def refreshed (s : AxisStack) (ra : RuntimeActivation) : RuntimeActivation :=
  match s.find ra.id with
  | some existing => { existing with pushedAt := ra.pushedAt, ttl := ra.ttl }
  | none => ra

theorem map_id_push (ra : RuntimeActivation) (s : AxisStack) :
    (push ra s).map RuntimeActivation.id =
      if ra.id ∈ s.map RuntimeActivation.id then s.map RuntimeActivation.id
      else s.map RuntimeActivation.id ++ [ra.id] := by
  induction s with
  | nil => rfl
  | cons existing rest ih =>
    unfold push
    by_cases hid : existing.id = ra.id
    · rw [if_pos hid]
      split
      · simp [hid]
      · simp [hid]
    · have hne : ra.id ≠ existing.id := fun h => hid h.symm
      rw [if_neg hid, List.map_cons, List.map_cons, ih]
      by_cases hmem : ra.id ∈ rest.map RuntimeActivation.id
      · rw [if_pos hmem, if_pos (List.mem_cons_of_mem _ hmem)]
      · rw [if_neg hmem, if_neg (fun h => (List.mem_cons.mp h).elim hne hmem), List.cons_append]

theorem DistinctIds.push {s : AxisStack} (h : DistinctIds s) (ra : RuntimeActivation) :
    DistinctIds (AxisStack.push ra s) := by
  unfold DistinctIds
  rw [map_id_push]
  split
  · exact h
  · rename_i hnew
    refine List.nodup_append.mpr ⟨h, List.nodup_singleton _, ?_⟩
    intro a ha b hb
    rw [List.mem_singleton.mp hb]
    rintro rfl
    exact hnew ha

theorem cleaned_sublist (axis : AxisKind) (now : Time) (s : AxisStack) :
    (s.cleaned axis now).Sublist s := by
  unfold AxisStack.cleaned
  split
  · exact List.filter_sublist
  · exact List.Sublist.refl s

theorem DistinctIds.sublist {s t : AxisStack} (h : DistinctIds t) (hst : s.Sublist t) :
    DistinctIds s :=
  List.Nodup.sublist (hst.map _) h

theorem DistinctIds.cleaned {s : AxisStack} (h : DistinctIds s) (axis : AxisKind) (now : Time) :
    DistinctIds (s.cleaned axis now) :=
  h.sublist (cleaned_sublist axis now s)

/-- The entry that stands for the source of `ra` after a push. -/
def pushedEntry (s : AxisStack) (ra : RuntimeActivation) : RuntimeActivation :=
  if ra.pushPolicy = .replace then ra else s.refreshed ra

/-- **A push.**  Other sources' entries stay; the source has the new one, or its old one with
new timing. -/
theorem mem_push {ra : RuntimeActivation} :
    ∀ {s : AxisStack}, DistinctIds s → ∀ e,
      e ∈ push ra s ↔ (e ∈ s ∧ e.id ≠ ra.id) ∨ e = s.pushedEntry ra := by
  intro s
  induction s with
  | nil => intro _ e; simp [push, pushedEntry, refreshed, find]
  | cons existing rest ih =>
    intro hdistinct e
    obtain ⟨hnew, hrest⟩ := List.nodup_cons.mp hdistinct
    unfold push
    by_cases hid : existing.id = ra.id
    · have hfind : find (existing :: rest) ra.id = some existing := by simp [find, hid]
      have hother : ∀ x ∈ rest, x.id ≠ ra.id := by
        intro x hx hx'
        exact hnew (List.mem_map.mpr ⟨x, hx, by rw [hx', hid]⟩)
      -- under either policy the head is replaced by the entry pushed
      have hhead : (if ra.pushPolicy = .replace then ra :: rest
          else { existing with pushedAt := ra.pushedAt, ttl := ra.ttl } :: rest) =
            pushedEntry (existing :: rest) ra :: rest := by
        simp only [pushedEntry, refreshed, hfind]
        split <;> rfl
      rw [if_pos hid, hhead, List.mem_cons, List.mem_cons]
      constructor
      · rintro (heq | hmem)
        · exact Or.inr heq
        · exact Or.inl ⟨Or.inr hmem, hother e hmem⟩
      · rintro (⟨rfl | hmem, hne⟩ | heq)
        · exact absurd hid hne
        · exact Or.inr hmem
        · exact Or.inl heq
    · have hfind : find (existing :: rest) ra.id = find rest ra.id := by simp [find, hid]
      have hsame : pushedEntry (existing :: rest) ra = pushedEntry rest ra := by
        simp only [pushedEntry, refreshed, hfind]
      rw [if_neg hid, List.mem_cons, ih hrest, hsame, List.mem_cons]
      constructor
      · rintro (rfl | ⟨hmem, hne⟩ | heq)
        · exact Or.inl ⟨Or.inl rfl, hid⟩
        · exact Or.inl ⟨Or.inr hmem, hne⟩
        · exact Or.inr heq
      · rintro (⟨rfl | hmem, hne⟩ | heq)
        · exact Or.inl rfl
        · exact Or.inr (Or.inl ⟨hmem, hne⟩)
        · exact Or.inr (Or.inr heq)

/-- **A refresh.**  Other sources' entries stay; the source has its old one with new timing, or
the new one. -/
theorem mem_push_refresh {ra : RuntimeActivation} (hpolicy : ra.pushPolicy ≠ .replace) :
    ∀ {s : AxisStack}, DistinctIds s → ∀ e,
      e ∈ push ra s ↔ (e ∈ s ∧ e.id ≠ ra.id) ∨ e = s.refreshed ra := by
  intro s hdistinct e
  have hentry : s.pushedEntry ra = s.refreshed ra := if_neg hpolicy
  rw [mem_push hdistinct, hentry]

theorem find_eq_some_iff {s : AxisStack} (h : DistinctIds s) {id : String}
    {e : RuntimeActivation} : s.find id = some e ↔ e ∈ s ∧ e.id = id :=
  find?_key_eq_some_iff h

theorem refreshed_timing (s : AxisStack) (ra : RuntimeActivation) :
    (s.refreshed ra).id = ra.id ∧ (s.refreshed ra).pushedAt = ra.pushedAt ∧
      (s.refreshed ra).ttl = ra.ttl := by
  unfold refreshed
  split
  · rename_i e hfind
    exact ⟨by simpa using List.find?_some hfind, rfl, rfl⟩
  · exact ⟨rfl, rfl, rfl⟩

end AxisStack

/-! ## The pushes of one call -/

/-- `build` makes one call's Activations: one source, one push time, REFRESH, one TTL if
static. -/
structure Builds (id : String) (now : Time) (ttl : Duration) (build : Claim → Activation) :
    Prop where
  computerName : ∀ c, (build c).computerName = c.computerName
  args : ∀ c, (build c).args = c.args
  id : ∀ c, activationID (build c).sourceKind (build c).sourceName = id
  pushedAt : ∀ c, (build c).pushedAt = some now
  ttl : ∀ c, c.computerName = staticName → (build c).ttl = some ttl
  pushPolicy : ∀ c, (build c).pushPolicy = .refresh

theorem pushClaims_append (env : Env) (zone : String) (build : Claim → Activation)
    (first second : List Claim) (s : World) :
    pushClaims env zone build (first ++ second) s =
      pushClaims env zone build second (pushClaims env zone build first s) :=
  List.foldl_append

theorem pushClaimsUntilError_of_none {env : Env} {zone : String} {build : Claim → Activation} :
    ∀ {claims : List Claim} {s : World},
      (pushClaimsUntilError env zone build claims s).1 = none →
      pushClaimsUntilError env zone build claims s = (none, pushClaims env zone build claims s) := by
  intro claims
  induction claims with
  | nil => intro s _; rfl
  | cons c _ ih =>
    intro s hnone
    simp only [pushClaimsUntilError, pushClaims, List.foldl_cons] at hnone ⊢
    generalize pushActivation env zone c.axis (some (build c)) s = result at hnone ⊢
    obtain ⟨_ | e, t⟩ := result
    · exact ih hnone
    · cases hnone

theorem pushClaims_frame (env : Env) (zone : String) (build : Claim → Activation)
    (claims : List Claim) (s : World) :
    ReconcilerFrame zone s (pushClaims env zone build claims s) := by
  have hrun : PushRun env zone (fun _ => True) s (pushClaims env zone build claims s) :=
    pushClaims_pushRun (fun _ => trivial) claims s
  exact hrun.frame

theorem pushClaimsUntilError_append (env : Env) (zone : String) (build : Claim → Activation)
    (second : List Claim) :
    ∀ (first : List Claim) (s : World),
      pushClaimsUntilError env zone build (first ++ second) s =
        match pushClaimsUntilError env zone build first s with
        | (some e, s) => (some e, s)
        | (none, s) => pushClaimsUntilError env zone build second s := by
  intro first
  induction first with
  | nil => intro s; rfl
  | cons c _ ih =>
    intro s
    simp only [List.cons_append, pushClaimsUntilError]
    generalize pushActivation env zone c.axis (some (build c)) s = result
    obtain ⟨_ | e, t⟩ := result
    · exact ih t
    · rfl

theorem pushClaims_of_notMem {env : Env} {zone : String} {build : Claim → Activation}
    {axis : AxisKind} :
    ∀ {claims : List Claim} {s : World}, axis ∉ claims.map Claim.axis →
      ((pushClaims env zone build claims s).stackAt zone axis).Sublist (s.stackAt zone axis) ∧
        ∀ t, (∀ n < (pushClaims env zone build claims s).tick, env.clock n ≤ t) →
          ((pushClaims env zone build claims s).stackAt zone axis).live t =
            (s.stackAt zone axis).live t := by
  intro claims
  induction claims with
  | nil => exact fun _ => ⟨List.Sublist.refl _, fun _ _ => rfl⟩
  | cons c rest ih =>
    intro s haxis
    simp only [List.map_cons, List.mem_cons, not_or] at haxis
    have hframe := pushClaims_frame env zone build rest
      (pushActivation env zone c.axis (some (build c)) s).2
    obtain ⟨hsub, hlive⟩ := @ih (pushActivation env zone c.axis (some (build c)) s).2 haxis.2
    rcases pushActivation_stackAt env zone c.axis (build c) s with
      ⟨-, hsame⟩ | ⟨comp, n, -, -, hn, hstack⟩
    · rw [hsame axis] at hsub hlive
      exact ⟨hsub, hlive⟩
    · rw [hstack axis, if_neg haxis.1] at hsub hlive
      refine ⟨hsub.trans (AxisStack.cleaned_sublist axis _ _), fun t ht => (hlive t ht).trans ?_⟩
      exact AxisStack.live_cleaned (ht n (lt_of_lt_of_le hn hframe.tick)) _

theorem pushClaims_live {env : Env} {zone id : String} {now t : Time} {ttl : Duration}
    {build : Claim → Activation} (hbuild : Builds id now ttl build) (hzone : zone ≠ "")
    {first second : List Claim} {c : Claim} {s : World} (haxis : c.axis ≠ .unspecified)
    (hstatic : c.computerName = staticName) (hlater : c.axis ∉ second.map Claim.axis)
    (ht : ∀ n < (pushClaims env zone build (first ++ c :: second) s).tick, env.clock n ≤ t) :
    ((pushClaims env zone build (first ++ c :: second) s).stackAt zone c.axis).live t =
      (AxisStack.push (ZonePolicy.resolve staticComputer (build c))
        ((pushClaims env zone build first s).stackAt zone c.axis)).live t := by
  rw [pushClaims_append] at ht ⊢
  generalize pushClaims env zone build first s = u at ht ⊢
  have hframe := pushClaims_frame env zone build second
    (pushActivation env zone c.axis (some (build c)) u).2
  have hsecond : ((pushClaims env zone build (c :: second) u).stackAt zone c.axis).live t =
      ((pushActivation env zone c.axis (some (build c)) u).2.stackAt zone c.axis).live t :=
    (pushClaims_of_notMem hlater).2 t ht
  rw [hsecond]
  have hname : (build c).computerName = staticName := (hbuild.computerName c).trans hstatic
  have hget : env.getComputer (build c).computerName = some staticComputer := by
    rw [hname, Env.getComputer, if_pos rfl]
  rcases pushActivation_stackAt env zone c.axis (build c) u with
    ⟨hmissing, -⟩ | ⟨comp, n, hcomp, -, hn, hstack⟩
  · rcases hmissing with h | h | h | h
    · exact absurd h hzone
    · exact absurd h haxis
    · rw [hname] at h
      exact absurd h (by decide)
    · rw [hget] at h
      cases h
  · rw [hget, Option.some.injEq] at hcomp
    rw [hstack c.axis, if_pos rfl, ← hcomp]
    exact AxisStack.live_cleaned (ht n (lt_of_lt_of_le hn hframe.tick)) _

def sceneRead (env : Env) (rem : Remediation) (build : Claim → Activation) (s : World) :
    Option Scene :=
  if rem.activeScene = "" then some {}
  else env.scene (pushClaims env rem.zone build (stateClaims rem) s).tick rem.activeScene

theorem bridgeReconciledRemediation_eq {env : Env} {condName : String} {rem : Remediation}
    {s : World} {scene : Scene} (hcompute : rem.activeCompute = "")
    (hwindow : withinActiveWindow env rem (env.clock s.tick) = true)
    (hscene : sceneRead env rem
      (timeWindowActivation env condName (env.clock s.tick) bridgeScenePriority) s.next =
        some scene) :
    bridgeReconciledRemediation env condName rem s =
      pushClaims env rem.zone
        (timeWindowActivation env condName (env.clock s.tick) bridgeScenePriority)
        (stateClaims rem ++ sceneClaims scene) s.next := by
  have hgate : ¬ (rem.timeIntervals ≠ [] ∧
      withinActiveWindow env rem (env.clock s.tick) = false) := by simp [hwindow]
  rw [pushClaims_append]
  simp only [bridgeReconciledRemediation]
  rw [if_neg hgate, if_neg (not_not.mpr hcompute)]
  unfold sceneRead at hscene
  by_cases hname : rem.activeScene = ""
  · rw [if_pos hname, Option.some.injEq] at hscene
    rw [if_neg (not_not.mpr hname), ← hscene]
    rfl
  · rw [if_neg hname] at hscene
    rw [if_pos hname, bridgeActiveScene, hscene]

theorem bridgeImperativeActivate_eq_loop {env : Env} {condName : String} {rem : Remediation}
    {src : SourceKind} {s : World} {scene : Scene} (hcompute : rem.activeCompute = "")
    (hscene : sceneRead env rem (imperativeActivation env condName (env.clock s.tick) src) s.next =
      some scene) :
    bridgeImperativeActivate env condName rem src s =
      pushClaimsUntilError env rem.zone (imperativeActivation env condName (env.clock s.tick) src)
        (stateClaims rem ++ sceneClaims scene) s.next := by
  simp only [bridgeImperativeActivate, pushClaimsUntilError_append]
  rw [if_neg (not_not.mpr hcompute)]
  have hstate := @pushClaimsUntilError_of_none env rem.zone
    (imperativeActivation env condName (env.clock s.tick) src) (stateClaims rem) s.next
  generalize pushClaimsUntilError env rem.zone
    (imperativeActivation env condName (env.clock s.tick) src) (stateClaims rem) s.next = result
    at hstate
  obtain ⟨_ | e, t⟩ := result
  · obtain rfl := (Prod.mk.inj (hstate rfl)).2
    unfold sceneRead at hscene
    by_cases hname : rem.activeScene = ""
    · rw [if_pos hname, Option.some.injEq] at hscene
      simp only [hname, ne_eq, not_true, if_false, ← hscene]
      rfl
    · rw [if_neg hname] at hscene
      simp only [ne_eq, hname, not_false_iff, if_true, hscene]
  · rfl

/-! ## Entries and the clock -/

/-- On every stack the ids are distinct, and every entry was pushed at a clock
reading made before. -/
structure PushedBefore (env : Env) (s : World) : Prop where
  distinct : ∀ zone axis, AxisStack.DistinctIds (s.stackAt zone axis)
  pushed : ∀ zone axis, ∀ ra ∈ s.stackAt zone axis, ∃ n < s.tick, ra.pushedAt = some (env.clock n)

namespace PushedBefore

variable {env : Env} {s t : World}

theorem initial (env : Env) : PushedBefore env World.initial where
  distinct := fun _ _ => List.nodup_nil
  pushed := fun _ _ _ hra => absurd hra List.not_mem_nil

theorem congr (h : PushedBefore env s) (hpolicies : t.policies = s.policies)
    (htick : s.tick ≤ t.tick) : PushedBefore env t := by
  have hstack : ∀ zone axis, t.stackAt zone axis = s.stackAt zone axis := fun zone axis =>
    World.stackAt_congr (by rw [hpolicies]) axis
  refine ⟨fun zone axis => ?_, fun zone axis ra hra => ?_⟩
  · rw [hstack]
    exact h.distinct zone axis
  · rw [hstack] at hra
    obtain ⟨n, hn, hpushed⟩ := h.pushed zone axis ra hra
    exact ⟨n, lt_of_lt_of_le hn htick, hpushed⟩

theorem pushActivation (h : PushedBefore env s) (zone : String) (axis : AxisKind)
    {act : Activation} {n : Nat} (hn : n < s.tick) (htime : act.pushedAt = some (env.clock n))
    (hpolicy : act.pushPolicy = .refresh) :
    PushedBefore env (Conditioner.pushActivation env zone axis (some act) s).2 := by
  have hframe := pushActivation_frame env zone axis (some act) s
  have hold : ∀ z a, ∀ ra ∈ s.stackAt z a,
      ∃ m < (Conditioner.pushActivation env zone axis (some act) s).2.tick,
        ra.pushedAt = some (env.clock m) := by
    intro z a ra hra
    obtain ⟨m, hm, hpushed⟩ := h.pushed z a ra hra
    exact ⟨m, lt_of_lt_of_le hm hframe.tick, hpushed⟩
  rcases pushActivation_stackAt env zone axis act s with ⟨-, hsame⟩ | ⟨comp, k, -, -, -, hstack⟩
  · refine ⟨hframe.forall_stackAt (P := fun _ _ stack => stack.DistinctIds) h.distinct fun a => ?_,
      hframe.forall_mem_stackAt hold fun a => ?_⟩
    · rw [hsame]
      exact h.distinct zone a
    · rw [hsame]
      exact hold zone a
  · have hrefresh : (ZonePolicy.resolve comp act).pushPolicy ≠ .replace := by
      show act.pushPolicy ≠ .replace
      rw [hpolicy]
      decide
    refine ⟨hframe.forall_stackAt (P := fun _ _ stack => stack.DistinctIds) h.distinct fun a => ?_,
      hframe.forall_mem_stackAt hold fun a ra hra => ?_⟩
    · rw [hstack]
      split
      · exact ((h.distinct zone a).push _).cleaned a _
      · exact (h.distinct zone a).cleaned a _
    · rw [hstack] at hra
      have hmem := AxisStack.mem_of_mem_cleaned hra
      split at hmem
      · rcases (AxisStack.mem_push_refresh hrefresh (h.distinct zone a) ra).mp hmem with
          ⟨hmem, -⟩ | rfl
        · exact hold zone a ra hmem
        · refine ⟨n, lt_of_lt_of_le hn hframe.tick, ?_⟩
          rw [(AxisStack.refreshed_timing _ _).2.1]
          exact htime
      · exact hold zone a ra hmem

theorem of_pushRun {zone : String} {admitted : Activation → Prop} (h : PushedBefore env s)
    (hadmitted : ∀ act, admitted act →
      act.pushedAt = some (env.clock s.tick) ∧ act.pushPolicy = .refresh)
    (hrun : PushRun env zone admitted s.next t) : PushedBefore env t := by
  have hnext : PushedBefore env s.next := h.congr rfl (Nat.le_succ _)
  -- the clock reading lies before every push
  let inv : World → Prop := fun u => s.tick < u.tick ∧ PushedBefore env u
  suffices hboth : inv t from hboth.2
  refine hrun.invariant ?_ ?_ ⟨Nat.lt_succ_self _, hnext⟩
  · rintro u ⟨hu, hinv⟩
    exact ⟨Nat.lt_succ_of_lt hu, hinv.congr rfl (Nat.le_succ _)⟩
  · rintro u axis act hact ⟨hu, hinv⟩
    obtain ⟨htime, hpolicy⟩ := hadmitted act hact
    exact ⟨lt_of_lt_of_le hu (pushActivation_frame env zone axis (some act) u).tick,
      hinv.pushActivation zone axis hu htime hpolicy⟩

end PushedBefore

/-! ## Claims of a state and a Scene -/

def declaredValues (rem : Remediation) (scene : Scene) : ApplyValues where
  state := zoneState rem.activeState
  brightness := (Brightness.value scene.brightness).getD .unspecified
  colorTemperature := (ColorTemperature.value scene.colorTemperature).getD .unspecified
  color := scene.color

theorem of_mem_stateSceneClaims {rem : Remediation} {scene : Scene} {c : Claim}
    (hc : c ∈ stateClaims rem ++ sceneClaims scene) :
    c.computerName = staticName ∧ c.axis ≠ .unspecified ∧
      ∀ n t loc, ∃ out, staticComputer.compute n t loc c.args = .ok out ∧
        out.only c.axis = (declaredValues rem scene).only c.axis := by
  simp only [List.mem_append, stateClaims, sceneClaims, List.mem_ite_nil_right,
    List.mem_singleton] at hc
  obtain ⟨-, rfl⟩ | (⟨-, rfl⟩ | ⟨-, rfl⟩) | ⟨-, rfl⟩ := hc
  · refine ⟨rfl, by simp [Claim.static], fun n t loc => ⟨_, rfl, ?_⟩⟩
    -- the name of the state leads back to the state
    let state := zoneState rem.activeState
    show ({ state := (ZoneState.value state.name).getD .unspecified } : ApplyValues) = _
    rw [ZoneState.value_name]
    rfl
  · exact ⟨rfl, by simp [Claim.static], fun n t loc => ⟨_, rfl, rfl⟩⟩
  · exact ⟨rfl, by simp [Claim.static], fun n t loc => ⟨_, rfl, rfl⟩⟩
  · exact ⟨rfl, by simp [Claim.static], fun n t loc => ⟨_, rfl, rfl⟩⟩

theorem stateSceneClaims_axes_nodup (rem : Remediation) (scene : Scene) :
    ((stateClaims rem ++ sceneClaims scene).map Claim.axis).Nodup := by
  have hone : ∀ (p : Prop) [Decidable p] (axis : AxisKind) (key value : String),
      ((if p then [Claim.static axis key value] else []).map Claim.axis).Sublist [axis] := by
    intro p _ axis key value
    split
    · exact List.Sublist.refl _
    · exact List.nil_sublist _
  have hsub : ((stateClaims rem ++ sceneClaims scene).map Claim.axis).Sublist
      ([.state] ++ ([.brightness] ++ [.colorTemperature] ++ [.color])) := by
    rw [List.map_append, sceneClaims, List.map_append, List.map_append]
    exact (hone _ _ _ _).append (((hone _ _ _ _).append (hone _ _ _ _)).append (hone _ _ _ _))
  exact hsub.nodup (by decide)

/-- A push leaves alive other sources' entries and one of its own, newer than all of them. -/
structure AxisStack.Leaves (met after : AxisStack) (t : Time) (id : String)
    (own : RuntimeActivation) : Prop where
  mem_iff : ∀ ra, ra ∈ after.live t ↔ (ra ∈ met.live t ∧ ra.id ≠ id) ∨ ra = own
  id_eq : own.id = id
  newest : ∀ ra ∈ met, ra.pushTime < own.pushTime

theorem AxisStack.Leaves.top_eq {met after : AxisStack} {t : Time} {id : String}
    {own : RuntimeActivation} (h : met.Leaves after t id own)
    (hpriority : ∀ other ∈ after.live t, other.priority ≤ own.priority) :
    after.top t = some own := by
  rw [AxisStack.top_eq_argmax]
  refine argmax_eq_of_outranks ((h.mem_iff own).mpr (Or.inr rfl)) fun other hother => ?_
  rcases (h.mem_iff other).mp hother with ⟨hlive, -⟩ | rfl
  · refine Or.inr ?_
    have hnewer := h.newest other (AxisStack.mem_live_iff.mp hlive).1
    rw [RuntimeActivation.rank, RuntimeActivation.rank, Prod.Lex.toLex_lt_toLex]
    exact (lt_or_eq_of_le (hpriority other hother)).imp_right fun heq => ⟨heq, hnewer⟩
  · exact Or.inl rfl

theorem pushClaims_leaves {env : Env} {zone id : String} {now t : Time} {ttl : Duration}
    {build : Claim → Activation} (hbuild : Builds id now ttl build) (hzone : zone ≠ "")
    {first second : List Claim} {c : Claim} {s : World} (haxis : c.axis ≠ .unspecified)
    (hstatic : c.computerName = staticName)
    (hnodup : ((first ++ c :: second).map Claim.axis).Nodup)
    (hdistinct : AxisStack.DistinctIds (s.stackAt zone c.axis))
    (hearlier : ∀ ra ∈ s.stackAt zone c.axis, ra.pushTime < now)
    (ht : ∀ n < (pushClaims env zone build (first ++ c :: second) s).tick, env.clock n ≤ t)
    (halive : t ≤ now + ttl) :
    let met := (pushClaims env zone build first s).stackAt zone c.axis
    AxisStack.DistinctIds met ∧
      met.Leaves ((pushClaims env zone build (first ++ c :: second) s).stackAt zone c.axis) t id
        (met.refreshed (ZonePolicy.resolve staticComputer (build c))) := by
  intro met
  rw [List.map_append, List.map_cons] at hnodup
  have hbefore : c.axis ∉ first.map Claim.axis := fun hmem =>
    (List.nodup_append.mp hnodup).2.2 _ hmem _ List.mem_cons_self rfl
  have hafter : c.axis ∉ second.map Claim.axis :=
    (List.nodup_cons.mp (List.nodup_append.mp hnodup).2.1).1
  -- the earlier pushes only dropped entries of this axis
  have hsub : met.Sublist (s.stackAt zone c.axis) := (pushClaims_of_notMem hbefore).1
  have hmet : AxisStack.DistinctIds met := hdistinct.sublist hsub
  let own := met.refreshed (ZonePolicy.resolve staticComputer (build c))
  obtain ⟨hid, hpushed, httl⟩ :=
    AxisStack.refreshed_timing met (ZonePolicy.resolve staticComputer (build c))
  have hownPushed : own.pushedAt = some now := hpushed.trans (hbuild.pushedAt c)
  have hownTTL : own.ttl = some ttl := httl.trans (hbuild.ttl c hstatic)
  have hownLive : own.expired t = false := by
    simp only [RuntimeActivation.expired, hownPushed, hownTTL, decide_eq_false_iff_not, not_and,
      not_lt]
    exact fun _ => halive
  refine ⟨hmet, fun ra => ?_, hid.trans (hbuild.id c), fun ra hra => ?_⟩
  · rw [pushClaims_live hbuild hzone haxis hstatic hafter ht, AxisStack.mem_live_iff,
      AxisStack.mem_push_refresh (by
        show (build c).pushPolicy ≠ .replace
        rw [hbuild.pushPolicy c]
        decide) hmet, AxisStack.mem_live_iff]
    have hnew : (ZonePolicy.resolve staticComputer (build c)).id = id := hbuild.id c
    rw [hnew]
    constructor
    · rintro ⟨⟨hmem, hne⟩ | rfl, hlive⟩
      · exact Or.inl ⟨⟨hmem, hlive⟩, hne⟩
      · exact Or.inr rfl
    · rintro (⟨⟨hmem, hlive⟩, hne⟩ | rfl)
      · exact ⟨Or.inl ⟨hmem, hne⟩, hlive⟩
      · exact ⟨Or.inr rfl, hownLive⟩
  · have hown : own.pushTime = now := by
      simp only [RuntimeActivation.pushTime, hownPushed, Option.getD_some]
    exact lt_of_lt_of_eq (hearlier ra (hsub.subset hra)) hown.symm

/-! ## Bridge calls -/

/-- How a Remediation reaches the stacks: a tick of the evaluator, or an activation from a
source. -/
inductive BridgeCall where
  | evaluate (condName : String) (rem : Remediation)
  | activate (condName : String) (rem : Remediation) (src : SourceKind)

theorem builds_imperativeActivation (env : Env) (condName : String) (now : Time)
    (src : SourceKind) :
    Builds (activationID src condName) now bridgeImperativeTTL
      (imperativeActivation env condName now src) := by
  refine ⟨fun _ => rfl, fun _ => rfl, fun _ => rfl, fun _ => rfl, ?_, fun _ => rfl⟩
  -- `static` gives no advice on its TTL
  intro c hstatic
  show some (ttlFor env c.computerName c.args) = some bridgeImperativeTTL
  rw [hstatic, ttlFor, Env.getComputer, if_pos rfl]
  rfl

namespace BridgeCall

def rem : BridgeCall → Remediation
  | evaluate _ rem => rem
  | activate _ rem _ => rem

def id : BridgeCall → String
  | evaluate condName _ => activationID .timeWindow condName
  | activate condName _ src => activationID src condName

def exec (env : Env) (s : World) : BridgeCall → Option Error × World
  | evaluate condName rem => (none, bridgeReconciledRemediation env condName rem s)
  | activate condName rem src => activateRemediationFromSource env condName rem src s

def step (env : Env) (s : World) (call : BridgeCall) : World := (call.exec env s).2

/-- Where the bridge starts: `activateRemediationFromSource` first reads the clock for its
gate. -/
def start (s : World) : BridgeCall → World
  | evaluate _ _ => s
  | activate _ rem _ => if rem.timeIntervals = [] then s else s.next

theorem start_stackAt (call : BridgeCall) (s : World) (zone : String) (axis : AxisKind) :
    (call.start s).next.stackAt zone axis = s.stackAt zone axis := by
  cases call with
  | evaluate => rfl
  | activate =>
    simp only [start]
    split <;> rfl

theorem start_tick_le (call : BridgeCall) (s : World) : s.tick ≤ (call.start s).tick := by
  cases call with
  | evaluate => exact le_refl _
  | activate =>
    simp only [start]
    split
    · exact le_refl _
    · exact Nat.le_succ _

def resolved (env : Env) (s : World) : BridgeCall → Remediation
  | evaluate _ rem => rem
  | activate condName rem src =>
    resolveToggle env rem ((activate condName rem src).start s)

def pushedAt (env : Env) (s : World) (call : BridgeCall) : Time := env.clock (call.start s).tick

def ttl (env : Env) : BridgeCall → Duration
  | evaluate _ _ => timeWindowTTL env
  | activate _ _ _ => bridgeImperativeTTL

def build (env : Env) (s : World) (call : BridgeCall) : Claim → Activation :=
  match call with
  | evaluate condName _ =>
    timeWindowActivation env condName (call.pushedAt env s) bridgeScenePriority
  | activate condName _ src => imperativeActivation env condName (call.pushedAt env s) src

def scene (env : Env) (s : World) (call : BridgeCall) : Option Scene :=
  sceneRead env (call.resolved env s) (call.build env s) (call.start s).next

/-- `ActiveCompute` replaces the state and the scene, and `ActiveBrightnessDelta` in an
activation. -/
def usesStateAndScene : BridgeCall → Bool
  | evaluate _ rem => rem.activeCompute = ""
  | activate _ rem _ => rem.activeBrightnessDelta = 0 ∧ rem.activeCompute = ""

def claims (env : Env) (s : World) (call : BridgeCall) : List Claim :=
  if call.usesStateAndScene then
    stateClaims (call.resolved env s) ++ sceneClaims ((call.scene env s).getD {})
  else []

def values (env : Env) (s : World) (call : BridgeCall) : ApplyValues :=
  let scene := (call.scene env s).getD {}
  { state := zoneState (call.resolved env s).activeState
    brightness := (Brightness.value scene.brightness).getD .unspecified
    colorTemperature := (ColorTemperature.value scene.colorTemperature).getD .unspecified
    color := scene.color }

/-- On a managed zone, inside the window, with the Scene found and no error reported. -/
structure Effective (env : Env) (s : World) (call : BridgeCall) : Prop where
  managed : isReconcileManaged env call.rem.zone = true
  named : call.rem.zone ≠ ""
  inWindow : withinActiveWindow env call.rem (env.clock s.tick) = true
  sceneFound : (call.scene env s).isSome = true
  succeeds : (call.exec env s).1 = none

theorem builds (env : Env) (s : World) (call : BridgeCall) :
    Builds call.id (call.pushedAt env s) (call.ttl env) (call.build env s) := by
  cases call with
  | evaluate =>
    exact ⟨fun _ => rfl, fun _ => rfl, fun _ => rfl, fun _ => rfl, fun _ _ => rfl, fun _ => rfl⟩
  | activate => exact builds_imperativeActivation env _ _ _

theorem step_eq {env : Env} {s : World} {call : BridgeCall} (h : call.Effective env s)
    (hfields : call.usesStateAndScene = true) :
    call.step env s = pushClaims env call.rem.zone (call.build env s) (call.claims env s)
      (call.start s).next := by
  obtain ⟨sc, hscene⟩ := Option.isSome_iff_exists.mp h.sceneFound
  have hwindow := h.inWindow
  rw [claims, if_pos hfields, hscene, Option.getD_some]
  cases call with
  | evaluate _ rem =>
    have hcompute : rem.activeCompute = "" := by simpa [usesStateAndScene] using hfields
    exact bridgeReconciledRemediation_eq hcompute hwindow hscene
  | activate condName rem src =>
    obtain ⟨hdelta, hcompute⟩ : rem.activeBrightnessDelta = 0 ∧ rem.activeCompute = "" := by
      simpa [usesStateAndScene] using hfields
    have hexec : (activate condName rem src).exec env s =
        bridgeImperativeActivate env condName ((activate condName rem src).resolved env s) src
          ((activate condName rem src).start s) := by
      have hin : (activate condName rem src).exec env s =
          activateInWindow env condName rem src ((activate condName rem src).start s) := by
        have hwindow' : withinActiveWindow env rem (env.clock s.tick) = true := hwindow
        simp only [exec, activateRemediationFromSource, start, hwindow', if_true]
        split <;> rfl
      have hmanaged : isReconcileManaged env rem.zone = true := h.managed
      rw [hin, activateInWindow, if_neg (not_not.mpr hdelta), if_pos hmanaged]
      rfl
    have hsucceeds := h.succeeds
    rw [hexec] at hsucceeds
    have hzone : ((activate condName rem src).resolved env s).zone = rem.zone :=
      resolveToggle_zone env rem _
    have hcompute' : ((activate condName rem src).resolved env s).activeCompute = "" := by
      rw [resolved, resolveToggle]
      split <;> exact hcompute
    rw [bridgeImperativeActivate_eq_loop hcompute' hscene] at hsucceeds
    rw [step, hexec, bridgeImperativeActivate_eq_loop hcompute' hscene,
      pushClaimsUntilError_of_none hsucceeds, hzone]
    rfl

theorem pushedBefore_step {env : Env} {s : World} (h : PushedBefore env s) (call : BridgeCall) :
    PushedBefore env (call.step env s) := by
  cases call with
  | evaluate condName rem =>
    refine h.of_pushRun ?_ (bridgeReconciledRemediation_pushRun env condName rem s)
    rintro act ⟨priority, c, rfl, -⟩
    exact ⟨rfl, rfl⟩
  | activate condName rem src =>
    have hwindow : ∀ t, PushedBefore env t →
        PushedBefore env (activateInWindow env condName rem src t).2 := by
      intro t ht
      unfold activateInWindow
      split
      · exact ht.congr rfl (Nat.le_succ _)
      · split
        · refine ht.of_pushRun ?_ (bridgeImperativeActivate_pushRun env condName _ src t)
          rintro act ⟨c, rfl⟩
          exact ⟨rfl, rfl⟩
        · refine ht.congr (applyDesired_policies env condName rem.zone _ t) ?_
          refine (applyDesired_frame env condName rem.zone _ (fun r hr => ?_) t).tick
          rw [Request.zone_of_build hr, resolveToggle_zone]
    have hnext : PushedBefore env s.next := h.congr rfl (Nat.le_succ _)
    simp only [step, exec, activateRemediationFromSource]
    split
    · exact hwindow s h
    · split
      · exact hwindow s.next hnext
      · exact hnext

theorem of_mem_claims {env : Env} {s : World} {call : BridgeCall} {c : Claim}
    (hc : c ∈ call.claims env s) :
    call.usesStateAndScene = true ∧ c.computerName = staticName ∧ c.axis ≠ .unspecified ∧
      ∀ n t loc, ∃ out, staticComputer.compute n t loc c.args = .ok out ∧
        out.only c.axis = (call.values env s).only c.axis := by
  rw [claims, List.mem_ite_nil_right] at hc
  exact ⟨hc.1, of_mem_stateSceneClaims hc.2⟩

theorem claims_axes_nodup (env : Env) (s : World) (call : BridgeCall) :
    ((call.claims env s).map Claim.axis).Nodup := by
  unfold claims
  split
  · exact stateSceneClaims_axes_nodup _ _
  · exact List.nodup_nil

end BridgeCall

/-! ## The value on the stack -/

/-- Its Computer yields `v` on the axis. -/
def Yields (env : Env) (axis : AxisKind) (v : ApplyValues) (t : Time) (ra : RuntimeActivation) :
    Prop :=
  ∀ n, ∃ out, ra.resolved.compute n t env.cfg.location ra.args = .ok out ∧
    out.only axis = v.only axis

theorem yields_refreshed_iff {env : Env} {axis : AxisKind} {v : ApplyValues} {t : Time}
    {stack : AxisStack} (hdistinct : stack.DistinctIds) {ra : RuntimeActivation}
    (hra : Yields env axis v t ra) :
    Yields env axis v t (stack.refreshed ra) ↔
      ∀ e ∈ stack, e.id = ra.id → Yields env axis v t e := by
  unfold AxisStack.refreshed
  cases hfind : stack.find ra.id with
  | none =>
    refine ⟨fun _ e he hid => ?_, fun _ => hra⟩
    have hnone := List.find?_eq_none.mp hfind e he
    simp [hid] at hnone
  | some existing =>
    obtain ⟨hmem, hid⟩ := (AxisStack.find_eq_some_iff hdistinct).mp hfind
    refine ⟨fun hy e he hid' => ?_, fun hall => hall existing hmem hid⟩
    have heq : e = existing := List.inj_on_of_nodup_map hdistinct he hmem (hid'.trans hid.symm)
    rw [heq]
    exact hy

theorem Yields.composeTarget_only {env : Env} {zone : String} {axis : AxisKind}
    {v target : ApplyValues} {t : Time} {s : World} {ra : RuntimeActivation}
    (h : Yields env axis v t ra) (htop : (s.stackAt zone axis).top t = some ra)
    (htarget : composeTarget env zone t s = .ok target) : target.only axis = v.only axis := by
  rcases Conditioner.composeTarget_only htarget axis with
    ⟨hnone, -⟩ | ⟨ra', n, out, hra, hcompute, heq⟩
  · rw [htop] at hnone
    cases hnone
  · rw [htop, Option.some.injEq] at hra
    subst hra
    obtain ⟨out', hcompute', heq'⟩ := h n
    rw [hcompute, Except.ok.injEq] at hcompute'
    rw [heq, hcompute', heq']

namespace BridgeCall

theorem yields_of_mem_claims {env : Env} {s : World} {call : BridgeCall} {c : Claim}
    (hc : c ∈ call.claims env s) (t : Time) :
    Yields env c.axis (call.values env s) t
      (ZonePolicy.resolve staticComputer (call.build env s c)) := by
  intro n
  obtain ⟨-, -, -, hvalue⟩ := of_mem_claims hc
  have hargs : (ZonePolicy.resolve staticComputer (call.build env s c)).args = c.args :=
    (call.builds env s).args c
  rw [hargs]
  exact hvalue n t env.cfg.location

/-- On the axis of a claim: the entries of other sources, and a live one of the call's own that
is newer. -/
structure Left (env : Env) (s : World) (call : BridgeCall) (t : Time) (axis : AxisKind)
    (stack : AxisStack) (own : RuntimeActivation) : Prop where
  mem_iff : ∀ ra, ra ∈ ((call.step env s).stackAt call.rem.zone axis).live t ↔
    (ra ∈ stack.live t ∧ ra.id ≠ call.id) ∨ ra = own
  id : own.id = call.id
  newest : ∀ ra ∈ stack, ra.pushTime < own.pushTime

theorem Left.top_eq {env : Env} {s : World} {call : BridgeCall} {t : Time} {axis : AxisKind}
    {stack : AxisStack} {own : RuntimeActivation} (h : call.Left env s t axis stack own)
    (hpriority : ∀ other ∈ ((call.step env s).stackAt call.rem.zone axis).live t,
      other.priority ≤ own.priority) :
    ((call.step env s).stackAt call.rem.zone axis).top t = some own := by
  have hleaves : stack.Leaves ((call.step env s).stackAt call.rem.zone axis) t call.id own :=
    ⟨h.mem_iff, h.id, h.newest⟩
  exact hleaves.top_eq hpriority

theorem left_of_claim {env : Env} (hclock : StrictMono env.clock) {s : World}
    (hinv : PushedBefore env s) {call : BridgeCall} (h : call.Effective env s) {t : Time}
    (hnow : ∀ n < (call.step env s).tick, env.clock n ≤ t)
    (halive : t ≤ call.pushedAt env s + call.ttl env) {first second : List Claim} {c : Claim}
    (hclaims : call.claims env s = first ++ c :: second) :
    let met := (pushClaims env call.rem.zone (call.build env s) first
      (call.start s).next).stackAt call.rem.zone c.axis
    let own := met.refreshed (ZonePolicy.resolve staticComputer (call.build env s c))
    AxisStack.DistinctIds met ∧ call.Left env s t c.axis met own := by
  intro met own
  have hc : c ∈ call.claims env s := by rw [hclaims]; simp
  obtain ⟨hfields, hstatic, haxis, -⟩ := of_mem_claims hc
  have hnodup := call.claims_axes_nodup env s
  rw [hclaims] at hnodup
  have hstart := call.start_stackAt s call.rem.zone c.axis
  have hearlier : ∀ ra ∈ s.stackAt call.rem.zone c.axis, ra.pushTime < call.pushedAt env s := by
    intro ra hra
    obtain ⟨n, hn, hpushedAt⟩ := hinv.pushed _ _ ra hra
    simp only [RuntimeActivation.pushTime, hpushedAt, Option.getD_some]
    exact hclock (lt_of_lt_of_le hn (call.start_tick_le s))
  have hstep := step_eq h hfields
  rw [hclaims] at hstep
  rw [hstep] at hnow
  obtain ⟨hdistinct, hleaves⟩ := pushClaims_leaves (call.builds env s) h.named haxis hstatic hnodup
    (by rw [hstart]; exact hinv.distinct _ _) (by rw [hstart]; exact hearlier) hnow halive
  refine ⟨hdistinct, fun ra => ?_, hleaves.id_eq, hleaves.newest⟩
  rw [hstep]
  exact hleaves.mem_iff ra

end BridgeCall

/-- **Bridge calls.**  After every run of evaluator ticks and activations, an effective call
leaves a live entry of its own that yields the declared value on the axis of each claim, and
that value in the target unless an entry of higher priority is alive, exactly when no push meets
an entry of the same source and Condition that yields another value. -/
theorem bridge_call_value_iff (env : Env) (hclock : StrictMono env.clock)
    (calls : List BridgeCall) (call : BridgeCall) (t : Time) :
    let s := run (BridgeCall.step env) World.initial calls
    let s' := call.step env s
    let zone := call.rem.zone
    let values := call.values env s
    call.Effective env s → (∀ n < s'.tick, env.clock n ≤ t) →
      t ≤ call.pushedAt env s + call.ttl env →
      ((∀ c ∈ call.claims env s, ∃ ra ∈ (s'.stackAt zone c.axis).live t, ra.id = call.id ∧
          Yields env c.axis values t ra ∧
          ((∀ other ∈ (s'.stackAt zone c.axis).live t, other.priority ≤ ra.priority) →
            ∀ target, composeTarget env zone t s' = .ok target →
              target.only c.axis = values.only c.axis)) ↔
        ∀ first c second, call.claims env s = first ++ c :: second →
          ∀ ra ∈ (pushClaims env zone (call.build env s) first
              (call.start s).next).stackAt zone c.axis,
            ra.id = call.id → Yields env c.axis values t ra) := by
  intro s s' zone values heffective hnow halive
  have hinv : PushedBefore env s :=
    @run_invariant _ _ (BridgeCall.step env) (PushedBefore env)
      (fun _ call h => BridgeCall.pushedBefore_step h call) _ (PushedBefore.initial env) calls
  -- the own entry of a claim yields the value exactly when the entry met does
  have hown : ∀ first c second, call.claims env s = first ++ c :: second →
      ∃ own, call.Left env s t c.axis ((pushClaims env zone (call.build env s) first
          (call.start s).next).stackAt zone c.axis) own ∧
        (Yields env c.axis values t own ↔ ∀ ra ∈ (pushClaims env zone (call.build env s) first
          (call.start s).next).stackAt zone c.axis, ra.id = call.id →
            Yields env c.axis values t ra) := by
    intro first c second hclaims
    obtain ⟨hdistinct, hleft⟩ := BridgeCall.left_of_claim hclock hinv heffective hnow halive hclaims
    have hc : c ∈ call.claims env s := by rw [hclaims]; simp
    have hfresh := BridgeCall.yields_of_mem_claims hc t
    refine ⟨_, hleft, (yields_refreshed_iff hdistinct hfresh).trans ?_⟩
    have hid : (ZonePolicy.resolve staticComputer (call.build env s c)).id = call.id :=
      (call.builds env s).id c
    rw [hid]
  constructor
  · intro hleft first c second hclaims
    obtain ⟨own, hown, hiff⟩ := hown first c second hclaims
    have hc : c ∈ call.claims env s := by rw [hclaims]; simp
    obtain ⟨ra, hra, hid, hyields, -⟩ := hleft c hc
    refine hiff.mp ?_
    rcases (hown.mem_iff ra).mp hra with ⟨-, hne⟩ | rfl
    · exact absurd hid hne
    · exact hyields
  · intro hmet c hc
    obtain ⟨first, second, hclaims⟩ := List.append_of_mem hc
    obtain ⟨own, hown, hiff⟩ := hown first c second hclaims
    have hyields := hiff.mpr (hmet first c second hclaims)
    have hmem := (hown.mem_iff own).mpr (Or.inr rfl)
    refine ⟨own, hmem, hown.id, hyields, fun hpriority target htarget => ?_⟩
    exact hyields.composeTarget_only (hown.top_eq hpriority) htarget

/-- A hall with a toggle switch.  The zone's status mirrors the last target. -/
def switchEnv : Env :=
  { Env.idle ["hall"] with
    zoneStatus := fun _ log zone =>
      log.findSome? fun e => (e.call.valuesOn zone).map fun v => v.state.name }

def press : BridgeCall := .activate "switch" { zone := "hall", activeState := "toggle" } .binding

theorem press_effective (s : World)
    (hsucceeds : (press.exec switchEnv s).1 = none) : press.Effective switchEnv s where
  managed := by decide
  named := by decide
  inWindow := rfl
  sceneFound := rfl
  succeeds := hsucceeds

def switchedOn (pushedAt : Time) : RuntimeActivation where
  computerName := staticName
  args := AList.singleton "state" ZoneState.on.name
  sourceKind := .binding
  sourceName := "switch"
  pushedAt := some pushedAt
  ttl := some bridgeImperativeTTL
  priority := bridgeImperativePriority
  pushPolicy := .refresh
  resolved := staticComputer
  id := press.id

theorem press_twice_target :
    composeTarget switchEnv "hall" 20
      (run (BridgeCall.step switchEnv) World.initial [press, press]) = .ok { state := .on } := rfl

/-- The second press resolves to off, but its push refreshes the first's entry: the target stays
on. -/
theorem press_twice_stays_on :
    let s := run (BridgeCall.step switchEnv) World.initial [press]
    let s' := press.step switchEnv s
    press.Effective switchEnv s ∧ (press.claims switchEnv s).map Claim.axis = [.state] ∧
      (press.values switchEnv s).state = .off ∧ s'.stackAt "hall" .state = [switchedOn 6] ∧
      (switchedOn 6).expired 20 = false ∧
      ¬ Yields switchEnv .state (press.values switchEnv s) 20 (switchedOn 6) ∧
      composeTarget switchEnv "hall" 20 s' = .ok { state := .on } := by
  intro s s'
  refine ⟨press_effective s rfl, rfl, rfl, rfl, by decide, fun hyields => ?_, press_twice_target⟩
  obtain ⟨out, hcompute, heq⟩ := hyields 0
  have hon : out.state = .on := by
    cases hcompute
    rfl
  have hoff : out.state = .off := congrArg ApplyValues.state heq
  rw [hon] at hoff
  cases hoff

/-- The first press meets no entry of the switch, and turns the hall on. -/
theorem press_once_turns_on :
    ∃ ra ∈ ((press.step switchEnv World.initial).stackAt "hall" .state).live 20,
      ra.id = press.id ∧ Yields switchEnv .state (press.values switchEnv World.initial) 20 ra := by
  have hnow : ∀ n < (press.step switchEnv World.initial).tick, switchEnv.clock n ≤ 20 := by
    have htick : (press.step switchEnv World.initial).tick = 6 := rfl
    intro n hn
    rw [htick] at hn
    show (n : Int) ≤ 20
    omega
  obtain ⟨ra, hra, hid, hyields, -⟩ :=
    (bridge_call_value_iff switchEnv (fun _ _ h => Int.ofNat_lt.mpr h) [] press 20
      (press_effective World.initial rfl) hnow (by decide)).mpr
      (fun first c second hclaims ra hra => by
        -- the only claim is the first one, and the hall has no policy yet
        have hfirst : first = [] := by
          have hlength : 1 = (first ++ c :: second).length := congrArg List.length hclaims
          rw [List.length_append, List.length_cons] at hlength
          exact List.length_eq_zero_iff.mp (by omega)
        subst hfirst
        exact absurd hra List.not_mem_nil) _ List.mem_cons_self
  exact ⟨ra, hra, hid, hyields⟩

end IotController.Conditioner
