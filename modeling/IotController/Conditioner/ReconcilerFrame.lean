/-
  What the reconciler's entry points
  change.

  Two facts about each of `ReconcileZone`, `PushActivation` and
  `RemoveActivation`: everything outside the zone's policy, its last target and
  the log of ApplyValues calls is untouched (`ReconcilerFrame`), and each axis
  stack of the zone changes by the stack operations the source names.
-/
import IotController.Conditioner.Reconciler

namespace IotController.Conditioner

open Foundation Api Proto Compute

/-! ## Frames -/

theorem sent_trans {P : Sent → Prop} {a b c : List Sent}
    (hab : ∃ sent, b = sent ++ a ∧ ∀ e ∈ sent, P e)
    (hbc : ∃ sent, c = sent ++ b ∧ ∀ e ∈ sent, P e) :
    ∃ sent, c = sent ++ a ∧ ∀ e ∈ sent, P e := by
  obtain ⟨first, rfl, hfirst⟩ := hab
  obtain ⟨second, rfl, hsecond⟩ := hbc
  refine ⟨second ++ first, (List.append_assoc _ _ _).symm, fun e he => ?_⟩
  exact (List.mem_append.mp he).elim (hsecond e) (hfirst e)

/-- What an operation on `zone` leaves alone. -/
structure ReconcilerFrame (zone : String) (s t : World) : Prop where
  tick : s.tick ≤ t.tick
  log : ∃ sent, t.log = sent ++ s.log ∧ ∀ e ∈ sent, ∃ v, e.call = .applyValues zone v
  condState : t.condState = s.condState
  alertActive : t.alertActive = s.alertActive
  policies : ∀ z, z ≠ zone → t.policies.lookup z = s.policies.lookup z
  lastApplied : ∀ z, z ≠ zone → t.lastApplied.lookup z = s.lastApplied.lookup z

namespace ReconcilerFrame

variable {zone : String} {s t u : World}

theorem refl (zone : String) (s : World) : ReconcilerFrame zone s s where
  tick := le_refl _
  log := ⟨[], rfl, by simp⟩
  condState := rfl
  alertActive := rfl
  policies := fun _ _ => rfl
  lastApplied := fun _ _ => rfl

theorem trans (hst : ReconcilerFrame zone s t) (htu : ReconcilerFrame zone t u) :
    ReconcilerFrame zone s u where
  tick := le_trans hst.tick htu.tick
  log := sent_trans hst.log htu.log
  condState := htu.condState.trans hst.condState
  alertActive := htu.alertActive.trans hst.alertActive
  policies := fun z hz => (htu.policies z hz).trans (hst.policies z hz)
  lastApplied := fun z hz => (htu.lastApplied z hz).trans (hst.lastApplied z hz)

theorem next (zone : String) (s : World) : ReconcilerFrame zone s s.next :=
  { refl zone s with tick := Nat.le_succ _ }

theorem of_policy (s : World) (zone : String) (p : ZonePolicy) {n : Nat} (hn : s.tick ≤ n)
    (timers : GoMap String ReconcileTimer) :
    ReconcilerFrame zone s
      { s with tick := n, policies := s.policies.insert zone p, ttlTimers := timers } where
  tick := hn
  log := ⟨[], rfl, by simp⟩
  condState := rfl
  alertActive := rfl
  policies := fun _ hz => AList.lookup_insert_ne hz
  lastApplied := fun _ _ => rfl

end ReconcilerFrame

variable (env : Env)

theorem reconcileZone_frame (zone : String) (now : Time) (s : World) :
    ReconcilerFrame zone s (reconcileZone env zone now s).2 := by
  have h := reconcileZone_reconciled env zone now s
  generalize reconcileZone env zone now s = result at h
  have hclean : ∀ (policy : ZonePolicy) (n : Nat), s.tick ≤ n →
      ReconcilerFrame zone s (s.cleaned zone now policy n) := fun policy n hn =>
    ReconcilerFrame.of_policy s zone (policy.removeExpired now) hn s.ttlTimers
  cases h with
  | unknown => exact ReconcilerFrame.refl zone s
  | computeFailed policy n _ _ htick | suppressed policy n _ _ htick => exact hclean policy n htick
  | applied policy n _ _ htick =>
    exact
      { hclean policy (n + 1) (Nat.le_succ_of_le htick) with
        log := ⟨[_], rfl, by simp⟩
        lastApplied := fun z hz => AList.lookup_insert_ne hz }
  | applyFailed policy n _ _ _ _ htick =>
    exact
      { hclean policy (n + 1) (Nat.le_succ_of_le htick) with
        log := ⟨[_], rfl, by simp⟩ }

theorem reconcileNow_eq (zone : String) (wrap : Error → Error) (s : World) :
    reconcileNow env zone wrap s =
      ((reconcileZone env zone (env.clock s.tick) s.next).1.map wrap,
        (reconcileZone env zone (env.clock s.tick) s.next).2) := by
  simp only [reconcileNow]
  split <;> simp_all

theorem reconcileNow_frame (zone : String) (wrap : Error → Error) (s : World) :
    ReconcilerFrame zone s (reconcileNow env zone wrap s).2 := by
  rw [reconcileNow_eq]
  exact (ReconcilerFrame.next zone s).trans (reconcileZone_frame env zone _ _)

theorem armTimer_world (zone : String) (axis : AxisKind) (act : Activation) (s : World) :
    ∃ n timers, s.tick ≤ n ∧
      armTimer env zone axis act s = { s with tick := n, ttlTimers := timers } := by
  unfold armTimer
  split
  · split
    · exact ⟨s.tick + 1, _, Nat.le_succ _, rfl⟩
    · exact ⟨s.tick, s.ttlTimers, le_refl _, rfl⟩
  · exact ⟨s.tick, s.ttlTimers, le_refl _, rfl⟩

def World.policyPushed (s : World) (zone : String) (axis : AxisKind) (ra : RuntimeActivation) :
    ZonePolicy :=
  let policy := (s.policies.lookup zone).getD {}
  { axisStacks := policy.axisStacks.insert axis (AxisStack.push ra (policy.stack axis)) }

/-- How a push can end. -/
inductive Pushed (env : Env) (zone : String) (axis : AxisKind) (s : World) :
    Option Activation → Option Error × World → Prop where
  | rejected (act : Option Activation) (e : Error)
      (hmissing : zone = "" ∨ axis = .unspecified ∨ act = none) :
      Pushed env zone axis s act (some e, s)
  /-- the Computer is missing or unknown; the policy exists from now on -/
  | unresolved (act : Activation) (e : Error)
      (hcomputer : act.computerName = "" ∨ env.getComputer act.computerName = none) :
      Pushed env zone axis s (some act)
        (some e, { s with policies := s.policies.insert zone ((s.policies.lookup zone).getD {}) })
  | pushed (act : Activation) (comp : Computer) (n : Nat) (timers : GoMap String ReconcileTimer)
      (hcomputer : env.getComputer act.computerName = some comp) (htick : s.tick ≤ n) :
      Pushed env zone axis s (some act)
        (reconcileNow env zone .reconcileAfterPush
          { s with
            tick := n
            policies := s.policies.insert zone
              (s.policyPushed zone axis (ZonePolicy.resolve comp act))
            ttlTimers := timers })

theorem pushActivation_pushed (zone : String) (axis : AxisKind) (act : Option Activation)
    (s : World) :
    Pushed env zone axis s act (pushActivation env zone axis act s) := by
  unfold pushActivation
  split
  · rename_i hzone
    exact .rejected act _ (Or.inl hzone)
  · split
    · rename_i haxis
      exact .rejected act _ (Or.inr (Or.inl haxis))
    · cases act with
      | none => exact .rejected none _ (Or.inr (Or.inr rfl))
      | some act =>
        simp only [ZonePolicy.pushActivation]
        by_cases hname : act.computerName = ""
        · simp only [hname, if_true]
          exact .unresolved act _ (Or.inl hname)
        · simp only [hname, if_false]
          cases hcomputer : env.getComputer act.computerName with
          | none => exact .unresolved act _ (Or.inr hcomputer)
          | some comp =>
            let policy := s.policyPushed zone axis (ZonePolicy.resolve comp act)
            obtain ⟨n, timers, hn, harmed⟩ := armTimer_world env zone axis act
              { s with policies := s.policies.insert zone policy }
            have hpushed : Pushed env zone axis s (some act) _ :=
              .pushed act comp n timers hcomputer hn
            rw [← harmed] at hpushed
            exact hpushed

theorem pushActivation_frame (zone : String) (axis : AxisKind) (act : Option Activation) (s : World) :
    ReconcilerFrame zone s (pushActivation env zone axis act s).2 := by
  have h := pushActivation_pushed env zone axis act s
  generalize pushActivation env zone axis act s = result at h
  cases h with
  | rejected => exact ReconcilerFrame.refl zone s
  | unresolved =>
    exact ReconcilerFrame.of_policy s zone _ (le_refl _) s.ttlTimers
  | pushed _ _ _ timers _ htick =>
    exact (ReconcilerFrame.of_policy s zone _ htick timers).trans (reconcileNow_frame env zone _ _)

theorem removeActivation_frame (zone : String) (kind : SourceKind) (name : String) (s : World) :
    ReconcilerFrame zone s (removeActivation env zone kind name s).2 := by
  simp only [removeActivation]
  split
  · exact ReconcilerFrame.refl zone s
  · exact (ReconcilerFrame.of_policy s zone _ (le_refl _) s.ttlTimers).trans
      (reconcileNow_frame env zone _ _)

/-! ## Stacks -/

theorem World.stackAt_of_insert {s t : World} {zone : String} {p : ZonePolicy}
    (h : t.policies = s.policies.insert zone p) (z : String) (a : AxisKind) :
    t.stackAt z a = if z = zone then p.stack a else s.stackAt z a := by
  simp only [World.stackAt, h, GoMap.lookup_insert_eq]
  by_cases hz : z = zone
  · simp only [hz, if_true]
  · simp only [hz, if_false]

theorem World.stackAt_congr {s t : World} {zone : String}
    (h : t.policies.lookup zone = s.policies.lookup zone) (a : AxisKind) :
    t.stackAt zone a = s.stackAt zone a := by
  simp only [World.stackAt, h]

theorem World.stackAt_eq_getD (s : World) (zone : String) (a : AxisKind) :
    s.stackAt zone a = ((s.policies.lookup zone).getD {}).stack a := by
  simp only [World.stackAt]
  cases s.policies.lookup zone <;> rfl

theorem ReconcilerFrame.forall_stackAt {P : String → AxisKind → AxisStack → Prop} {zone : String}
    {s t : World} (hframe : ReconcilerFrame zone s t) (hbefore : ∀ z a, P z a (s.stackAt z a))
    (hzone : ∀ a, P zone a (t.stackAt zone a)) : ∀ z a, P z a (t.stackAt z a) := by
  intro z a
  by_cases hz : z = zone
  · subst hz
    exact hzone a
  · rw [World.stackAt_congr (hframe.policies z hz) a]
    exact hbefore z a

theorem ReconcilerFrame.forall_mem_stackAt {Q : RuntimeActivation → Prop} {zone : String}
    {s t : World} (hframe : ReconcilerFrame zone s t)
    (hbefore : ∀ z a, ∀ ra ∈ s.stackAt z a, Q ra) (hzone : ∀ a, ∀ ra ∈ t.stackAt zone a, Q ra) :
    ∀ z a, ∀ ra ∈ t.stackAt z a, Q ra :=
  hframe.forall_stackAt (P := fun _ _ stack => ∀ ra ∈ stack, Q ra) hbefore hzone

def AxisStack.cleaned (axis : AxisKind) (now : Time) (s : AxisStack) : AxisStack :=
  if axis ∈ reconcileAxes then s.removeExpired now else s

theorem AxisStack.mem_of_mem_cleaned {axis : AxisKind} {now : Time} {s : AxisStack}
    {ra : RuntimeActivation} (h : ra ∈ s.cleaned axis now) : ra ∈ s := by
  unfold AxisStack.cleaned at h
  split at h
  · exact List.mem_of_mem_filter h
  · exact h

theorem AxisStack.live_cleaned {axis : AxisKind} {now t : Time} (h : now ≤ t) (s : AxisStack) :
    (s.cleaned axis now).live t = s.live t := by
  unfold AxisStack.cleaned
  split
  · exact AxisStack.live_removeExpired h s
  · rfl

theorem composeTarget_only {env : Env} {zone : String} {now : Time} {s : World}
    {target : ApplyValues} (hok : composeTarget env zone now s = .ok target) (a : AxisKind) :
    ((s.stackAt zone a).top now = none ∧ target.only a = ApplyValues.empty) ∨
      ∃ ra n val, (s.stackAt zone a).top now = some ra ∧
        ra.resolved.compute n now env.cfg.location ra.args = .ok val ∧
        target.only a = val.only a := by
  cases hpolicy : s.policies.lookup zone with
  | none =>
    simp only [composeTarget, hpolicy, Except.ok.injEq] at hok
    refine Or.inl ⟨?_, by rw [← hok, ApplyValues.only_empty]⟩
    simp [World.stackAt, hpolicy, AxisStack.top]
  | some policy =>
    simp only [composeTarget, hpolicy] at hok
    have htop : ((policy.removeExpired now).stack a).top now = (s.stackAt zone a).top now := by
      have hstack : s.stackAt zone a = policy.stack a := by simp only [World.stackAt, hpolicy]
      rw [AxisStack.top_eq_argmax, AxisStack.top_eq_argmax, hstack, ZonePolicy.stack_removeExpired]
      exact congrArg _ (AxisStack.live_cleaned (le_refl now) (policy.stack a))
    rw [← htop]
    exact ZonePolicy.applyTopToValues_only hok a

theorem reconcileZone_stackAt (zone : String) (now : Time) (s : World) (a : AxisKind) :
    (reconcileZone env zone now s).2.stackAt zone a = (s.stackAt zone a).cleaned a now := by
  have h := reconcileZone_reconciled env zone now s
  generalize reconcileZone env zone now s = result at h
  have hclean : ∀ (policy : ZonePolicy) (t : World), s.policies.lookup zone = some policy →
      t.policies = s.policies.insert zone (policy.removeExpired now) →
      t.stackAt zone a = (s.stackAt zone a).cleaned a now := by
    intro policy t hpolicy ht
    rw [World.stackAt_of_insert ht, if_pos rfl, ZonePolicy.stack_removeExpired]
    simp only [World.stackAt, hpolicy, AxisStack.cleaned]
  cases h with
  | unknown hpolicy => simp [World.stackAt, hpolicy, AxisStack.cleaned, AxisStack.removeExpired]
  | computeFailed policy _ _ hpolicy | suppressed policy _ _ hpolicy
  | applied policy _ _ hpolicy | applyFailed policy _ _ _ _ hpolicy =>
    exact hclean policy _ hpolicy rfl

theorem reconcileNow_stackAt (zone : String) (wrap : Error → Error) (s : World) (a : AxisKind) :
    (reconcileNow env zone wrap s).2.stackAt zone a =
      (s.stackAt zone a).cleaned a (env.clock s.tick) := by
  rw [reconcileNow_eq, reconcileZone_stackAt]
  rfl

theorem reconcileNow_tick (zone : String) (wrap : Error → Error) {s : World} {n : Nat}
    (hn : s.tick = n) : n < (reconcileNow env zone wrap s).2.tick := by
  rw [reconcileNow_eq, ← hn]
  exact (reconcileZone_frame env zone (env.clock s.tick) s.next).tick

theorem pushActivation_stackAt (zone : String) (axis : AxisKind) (act : Activation) (s : World) :
    ((zone = "" ∨ axis = .unspecified ∨ act.computerName = "" ∨
        env.getComputer act.computerName = none) ∧
      ∀ a, (pushActivation env zone axis (some act) s).2.stackAt zone a = s.stackAt zone a) ∨
      ∃ comp n, env.getComputer act.computerName = some comp ∧ s.tick ≤ n ∧
        n < (pushActivation env zone axis (some act) s).2.tick ∧
        ∀ a, (pushActivation env zone axis (some act) s).2.stackAt zone a =
          (if a = axis then AxisStack.push (ZonePolicy.resolve comp act) (s.stackAt zone a)
            else s.stackAt zone a).cleaned a (env.clock n) := by
  have h := pushActivation_pushed env zone axis (some act) s
  generalize pushActivation env zone axis (some act) s = result at h
  cases h with
  | rejected _ _ hmissing =>
    refine Or.inl ⟨?_, fun a => rfl⟩
    rcases hmissing with hzone | haxis | hact
    · exact Or.inl hzone
    · exact Or.inr (Or.inl haxis)
    · exact absurd hact (by simp)
  | unresolved _ _ hcomputer =>
    refine Or.inl ⟨Or.inr (Or.inr hcomputer), fun a => ?_⟩
    rw [World.stackAt_of_insert rfl, if_pos rfl, World.stackAt_eq_getD]
  | pushed _ comp n _ hcomputer htick =>
    refine Or.inr ⟨comp, n, hcomputer, htick, reconcileNow_tick env zone _ rfl, fun a => ?_⟩
    rw [reconcileNow_stackAt, World.stackAt_of_insert (s := s) rfl, if_pos rfl,
      World.policyPushed, ZonePolicy.stack_insert, ← World.stackAt_eq_getD,
      ← World.stackAt_eq_getD]
    congr 1
    by_cases ha : a = axis
    · simp only [ha, if_true]
    · simp only [ha, if_false, World.stackAt_eq_getD]

theorem removeActivation_stackAt (zone : String) (kind : SourceKind) (name : String) (s : World) :
    (∀ a, (removeActivation env zone kind name s).2.stackAt zone a = s.stackAt zone a) ∨
      (s.tick < (removeActivation env zone kind name s).2.tick ∧
        ∀ a, (removeActivation env zone kind name s).2.stackAt zone a =
          ((s.stackAt zone a).removeByID (activationID kind name)).cleaned a
            (env.clock s.tick)) := by
  cases hpolicy : s.policies.lookup zone with
  | none => exact Or.inl fun a => by simp only [removeActivation, hpolicy]
  | some =>
    simp only [removeActivation, hpolicy]
    refine Or.inr ⟨reconcileNow_tick env zone _ rfl, fun a => ?_⟩
    rw [reconcileNow_stackAt, World.stackAt_of_insert (s := s) rfl, if_pos rfl,
      ZonePolicy.stack_removeByID]
    simp only [World.stackAt, hpolicy]

end IotController.Conditioner
