/-
  One failing Computer and the other axes.

  `applyTopToValues` folds the tops of the axis stacks into one target and returns at the
  first Computer that fails; `ReconcileZone` then sends nothing.
-/
import IotController.Conditioner.ReconcilerFrame

namespace IotController.Conditioner

open Foundation Api Proto Compute

/-! ## When a target exists -/

/-- `out` is what the tops answer. -/
def Answers (env : Env) (zone : String) (now : Time) (s : World)
    (out : AxisKind → Except String ApplyValues) : Prop :=
  ∀ a ra, (s.stackAt zone a).top now = some ra →
    ∀ n, ra.resolved.compute n now env.cfg.location ra.args = out a

variable {env : Env} {now : Time} {out : AxisKind → Except String ApplyValues} {zone : String}

theorem exists_answers {s : World}
    (h : ∀ a ra, (s.stackAt zone a).top now = some ra → ∀ m n,
      ra.resolved.compute m now env.cfg.location ra.args =
        ra.resolved.compute n now env.cfg.location ra.args) :
    ∃ out, Answers env zone now s out := by
  refine ⟨fun a => ((s.stackAt zone a).top now).elim (.ok ApplyValues.empty)
    fun ra => ra.resolved.compute 0 now env.cfg.location ra.args, fun a ra htop n => ?_⟩
  simp only [htop, Option.elim_some]
  exact h a ra htop n 0

theorem ZonePolicy.foldTops_isOk_iff :
    ∀ {tops : List (AxisKind × RuntimeActivation)},
      (∀ top ∈ tops, ∀ n, top.2.resolved.compute n now env.cfg.location top.2.args = out top.1) →
      ∀ (init : ApplyValues) (s : World),
        (∃ target, (foldTops env now tops init s).1 = .ok target) ↔
          ∀ top ∈ tops, ∃ v, out top.1 = .ok v := by
  intro tops
  induction tops with
  | nil =>
    intro _ init s
    exact ⟨fun _ top htop => absurd htop List.not_mem_nil, fun _ => ⟨init, rfl⟩⟩
  | cons top _ ih =>
    intro hout init s
    obtain ⟨axis, ra⟩ := top
    obtain ⟨hhead, hrest⟩ := List.forall_mem_cons.mp hout
    rw [List.forall_mem_cons]
    simp only [foldTops]
    rw [hhead s.tick]
    cases hval : out axis with
    | error =>
      simp only [reduceCtorEq, exists_false, false_and]
    | ok val =>
      exact (ih hrest (init.setAxis axis val) s.next).trans (iff_and_self.mpr fun _ => ⟨val, rfl⟩)

/-- **Composition succeeds as a whole or not at all**, in whatever order the axes
are visited. -/
theorem composeTarget_isOk_iff {s : World} (hout : Answers env zone now s out) :
    (∃ target, composeTarget env zone now s = .ok target) ↔
      ∀ a ra, (s.stackAt zone a).top now = some ra → ∃ v, out a = .ok v := by
  cases hpolicy : s.policies.lookup zone with
  | none =>
    simp only [composeTarget, hpolicy]
    refine ⟨fun _ a ra htop => ?_, fun _ => ⟨_, rfl⟩⟩
    simp [World.stackAt, hpolicy, AxisStack.top] at htop
  | some policy =>
    have htops : ∀ a ra, ((a, ra) ∈ env.range.order s.tick
        ((policy.removeExpired now).activeContributorsByAxis now)) ↔
          (s.stackAt zone a).top now = some ra := by
      intro a ra
      rw [env.range.mem_order_iff, ZonePolicy.mem_activeContributorsByAxis_iff,
        ZonePolicy.stack_removeExpired, AxisStack.top_eq_argmax, AxisStack.top_eq_argmax]
      have hstack : s.stackAt zone a = policy.stack a := by simp only [World.stackAt, hpolicy]
      rw [hstack]
      exact Iff.of_eq (congrArg (fun l => l.argmax RuntimeActivation.rank = some ra)
        (AxisStack.live_cleaned (le_refl now) (policy.stack a)))
    have hanswers : ∀ top ∈ env.range.order s.tick
        ((policy.removeExpired now).activeContributorsByAxis now), ∀ n,
          top.2.resolved.compute n now env.cfg.location top.2.args = out top.1 :=
      fun top hmem => hout top.1 top.2 ((htops top.1 top.2).mp hmem)
    simp only [composeTarget, hpolicy, ZonePolicy.applyTopToValues]
    refine (ZonePolicy.foldTops_isOk_iff hanswers _ _).trans ?_
    exact ⟨fun h a ra htop => h (a, ra) ((htops a ra).mpr htop),
      fun h top hmem => h top.1 top.2 ((htops top.1 top.2).mp hmem)⟩

theorem composeTarget_of_answers {s t : World} (hs : Answers env zone now s out)
    (ht : Answers env zone now t out)
    (htops : ∀ a, (s.stackAt zone a).top now = none ↔ (t.stackAt zone a).top now = none)
    {target : ApplyValues} (htarget : composeTarget env zone now s = .ok target) :
    composeTarget env zone now t = .ok target := by
  have hall := (composeTarget_isOk_iff hs).mp ⟨target, htarget⟩
  obtain ⟨target', htarget'⟩ := (composeTarget_isOk_iff ht).mpr fun a ra htop => by
    cases htop' : (s.stackAt zone a).top now with
    | none =>
      rw [(htops a).mp htop'] at htop
      cases htop
    | some ra' => exact hall a ra' htop'
  rw [htarget']
  refine congrArg Except.ok (ApplyValues.eq_of_only fun a => ?_)
  rcases composeTarget_only htarget a with ⟨hnone, hempty⟩ | ⟨ra, n, val, htop, hcompute, hval⟩ <;>
    rcases composeTarget_only htarget' a with
      ⟨hnone', hempty'⟩ | ⟨ra', n', val', htop', hcompute', hval'⟩
  · rw [hempty, hempty']
  · rw [(htops a).mp hnone] at htop'
    cases htop'
  · rw [(htops a).mpr hnone'] at htop
    cases htop
  · rw [hs a ra htop n] at hcompute
    rw [ht a ra' htop' n', hcompute, Except.ok.injEq] at hcompute'
    rw [hval, hval', hcompute']

/-! ## Delivery -/

/-- The last target agrees with `v` on the axis. -/
def LastApplied (zone : String) (a : AxisKind) (v : ApplyValues) (s : World) : Prop :=
  ∃ target, s.lastApplied.lookup zone = some target ∧ target.only a = v.only a

/-- In `t` every axis of the zone whose top succeeded with a non-zero value has
that value as last applied. -/
def Delivers (zone : String) (now : Time) (s : World)
    (out : AxisKind → Except String ApplyValues) (t : World) : Prop :=
  ∀ a ra v, (s.stackAt zone a).top now = some ra → out a = .ok v → v.only a ≠ ApplyValues.empty →
    LastApplied zone a v t

theorem delivers_of_composeTarget {s : World} (hout : Answers env zone now s out)
    (hrpc : ∀ n target, env.rpc n (.applyValues zone target) = .ok) {target : ApplyValues}
    (htarget : composeTarget env zone now s = .ok target) :
    Delivers zone now s out (reconcileZone env zone now s).2 := by
  intro a ra v htop hv hne
  have hvalue : target.only a = v.only a := by
    rcases composeTarget_only htarget a with ⟨hnone, -⟩ | ⟨ra', n, val, htop', hcompute, heq⟩
    · rw [htop] at hnone
      cases hnone
    · rw [htop, Option.some.injEq] at htop'
      subst htop'
      rw [hout a ra htop n, hv, Except.ok.injEq] at hcompute
      rw [heq, hcompute]
  have hend := reconcileZone_reconciled env zone now s
  generalize reconcileZone env zone now s = result at hend
  cases hend with
  | unknown hpolicy => simp [World.stackAt, hpolicy, AxisStack.top] at htop
  | computeFailed _ _ _ _ _ herror =>
    rw [htarget] at herror
    cases herror
  | suppressed _ _ _ _ _ htarget' hsame =>
    rw [htarget, Except.ok.injEq] at htarget'
    subst htarget'
    rcases hsame with hlast | hempty
    · exact ⟨target, hlast, hvalue⟩
    · rw [(ApplyValues.isEmptyTarget_iff target).mp hempty, ApplyValues.only_empty] at hvalue
      exact absurd hvalue.symm hne
  | applied _ _ _ _ _ htarget' =>
    rw [htarget, Except.ok.injEq] at htarget'
    subst htarget'
    exact ⟨target, AList.lookup_insert _, hvalue⟩
  | applyFailed _ n target' _ _ _ _ _ _ _ ho herror =>
    rw [hrpc n target'] at ho
    rw [← ho] at herror
    simp [Outcome.error] at herror

theorem reconcileZone_lastApplied_of_error {s : World} {e : Error}
    (herror : composeTarget env zone now s = .error e) :
    (reconcileZone env zone now s).2.lastApplied = s.lastApplied := by
  have hend := reconcileZone_reconciled env zone now s
  generalize reconcileZone env zone now s = result at hend
  cases hend with
  | unknown | computeFailed => rfl
  | suppressed _ _ _ _ _ htarget | applied _ _ _ _ _ htarget | applyFailed _ _ _ _ _ _ _ htarget =>
    rw [herror] at htarget
    cases htarget

/-- **Fault isolation.**  For all stacks, failing axes and visit orders, a reconcile delivers
every axis whose top succeeds exactly when no top fails or all those axes had been delivered
before. -/
theorem reconcileZone_delivers_iff (env : Env) (zone : String) (now : Time) (s : World)
    (out : AxisKind → Except String ApplyValues) (hout : Answers env zone now s out)
    (hrpc : ∀ n target, env.rpc n (.applyValues zone target) = .ok) :
    Delivers zone now s out (reconcileZone env zone now s).2 ↔
      (∀ a ra, (s.stackAt zone a).top now = some ra → ∃ v, out a = .ok v) ∨
        Delivers zone now s out s := by
  cases htarget : composeTarget env zone now s with
  | ok target =>
    have hnone := (composeTarget_isOk_iff hout).mp ⟨target, htarget⟩
    exact ⟨fun _ => Or.inl hnone, fun _ => delivers_of_composeTarget hout hrpc htarget⟩
  | error =>
    have hsome : ¬ ∀ a ra, (s.stackAt zone a).top now = some ra → ∃ v, out a = .ok v := by
      intro hall
      obtain ⟨target, hok⟩ := (composeTarget_isOk_iff hout).mpr hall
      rw [htarget] at hok
      cases hok
    have hsame : Delivers zone now s out (reconcileZone env zone now s).2 ↔
        Delivers zone now s out s := by
      simp only [Delivers, LastApplied, reconcileZone_lastApplied_of_error htarget]
    rw [hsame]
    exact ⟨Or.inr, fun h => h.resolve_left hsome⟩

def atticEnv : Env :=
  { Env.idle ["attic"] with
    registry := fun name =>
      if name = "sensor" then some { compute := fun _ _ _ _ => .error "no reading" } else none }

def atticActivation (computerName : String) (args : Args) : Activation where
  computerName := computerName
  args := args
  sourceKind := .manual
  sourceName := computerName
  pushedAt := some 0
  ttl := none
  priority := 10
  pushPolicy := .refresh

def atticWorld (dimmed : Bool) : World :=
  (pushActivation atticEnv "attic" .state
    (some (atticActivation staticName (AList.singleton "state" ZoneState.on.name)))
    (if dimmed then (pushActivation atticEnv "attic" .brightness
      (some (atticActivation "sensor" ∅)) World.initial).2 else World.initial)).2

def atticAnswers : AxisKind → Except String ApplyValues
  | .brightness => .error "no reading"
  | _ => .ok { state := .on }

theorem atticWorld_stackAt (dimmed : Bool) (a : AxisKind) :
    (atticWorld dimmed).stackAt "attic" a =
      if a = .state then
        [ZonePolicy.resolve staticComputer
          (atticActivation staticName (AList.singleton "state" ZoneState.on.name))]
      else if a = .brightness ∧ dimmed = true then
        [ZonePolicy.resolve { compute := fun _ _ _ _ => .error "no reading" }
          (atticActivation "sensor" ∅)]
      else [] := by
  cases dimmed <;> cases a <;> rfl

theorem atticWorld_answers (dimmed : Bool) :
    Answers atticEnv "attic" 50 (atticWorld dimmed) atticAnswers := by
  intro a ra htop n
  rw [atticWorld_stackAt] at htop
  cases a with
  | state =>
    cases htop
    rfl
  | brightness =>
    cases dimmed with
    | false => cases htop
    | true =>
      cases htop
      rfl
  | _ => cases htop

/-- The lamp's Computer succeeds, and nothing is applied because the sensor's
fails. -/
theorem attic_lamp_not_delivered :
    Answers atticEnv "attic" 50 (atticWorld true) atticAnswers ∧
      (∀ n target, atticEnv.rpc n (.applyValues "attic" target) = .ok) ∧
      ¬ Delivers "attic" 50 (atticWorld true) atticAnswers
        (reconcileZone atticEnv "attic" 50 (atticWorld true)).2 := by
  refine ⟨atticWorld_answers true, fun _ _ => rfl, fun hdelivers => ?_⟩
  have htop := congrArg (fun stack => AxisStack.top stack 50) (atticWorld_stackAt true .state)
  obtain ⟨target, hlast, -⟩ := hdelivers .state _ { state := .on } htop rfl (by decide)
  have hnone : (reconcileZone atticEnv "attic" 50 (atticWorld true)).2.lastApplied.lookup "attic" =
      none := rfl
  rw [hnone] at hlast
  cases hlast

/-- Without the sensor the lamp is delivered. -/
theorem attic_lamp_delivered :
    Delivers "attic" 50 (atticWorld false) atticAnswers
      (reconcileZone atticEnv "attic" 50 (atticWorld false)).2 := by
  refine (reconcileZone_delivers_iff atticEnv "attic" 50 (atticWorld false) atticAnswers
    (atticWorld_answers false) (fun _ _ => rfl)).mpr (Or.inl fun a ra htop => ?_)
  rw [atticWorld_stackAt] at htop
  cases a with
  | brightness => cases htop
  | _ => exact ⟨_, rfl⟩

end IotController.Conditioner
