/-
  The writer of reconcile-managed zones
  (`modules/conditioner/reconciler.go`, and `pushActivation` and
  `applyTopToValues` of `stack.go`).

  `PushActivation` and `RemoveActivation` change the stacks of one zone and then
  reconcile it; `ReconcileZone` composes the tops of the axis stacks into a
  target and sends it when it differs from the last one that was accepted.

  `observeTopChanges`, `sampleStackDepths` and `reflectStatus` only feed
  metrics, logs and the Status resource and have no counterpart.
-/
import IotController.Conditioner.World

namespace IotController.Conditioner

open Foundation Api Proto Compute

/-! ## Policies -/

def reconcileAxes : List AxisKind := [.state, .brightness, .colorTemperature, .color]

variable (env : Env) (p : ZonePolicy) (now : Time) (a : AxisKind)

namespace ZonePolicy

def resolve (comp : Computer) (act : Activation) : RuntimeActivation :=
  { act with resolved := comp, id := activationID act.sourceKind act.sourceName }

def pushActivation (axis : AxisKind) (act : Activation) :
    Except Error ZonePolicy :=
  if act.computerName = "" then .error .computerNameRequired
  else match env.getComputer act.computerName with
    | none => .error (.unknownComputer act.computerName)
    | some comp =>
      .ok { axisStacks :=
              p.axisStacks.insert axis (AxisStack.push (resolve comp act) (p.stack axis)) }

def removeExpiredOn (now : Time) (p : ZonePolicy) (axis : AxisKind) : ZonePolicy :=
  match p.axisStacks.lookup axis with
  | some s => { axisStacks := p.axisStacks.insert axis (AxisStack.removeExpired s now) }
  | none => p

def removeExpired (now : Time) : ZonePolicy :=
  reconcileAxes.foldl (removeExpiredOn now) p

def removeByID (id : String) : ZonePolicy :=
  { axisStacks := GoMap.mapValues (fun s => AxisStack.removeByID s id) p.axisStacks }

/-- The loop of `applyTopToValues`: an output counts on its own axis, and the first error ends
the loop. -/
def foldTops {σ : Type} (h : Host σ) (now : Time) :
    List (AxisKind × RuntimeActivation) → ApplyValues → σ → Except Error ApplyValues × σ
  | [], target, s => (.ok target, s)
  | (axis, ra) :: rest, target, s =>
    match h.invoke ra.computerName ra.resolved now ra.args s with
    | (.error message, s) => (.error (.compute ra.computerName axis message), s)
    | (.ok val, s) => foldTops h now rest (target.setAxis axis val) s

def applyTopToValues {σ : Type} (h : Host σ) (p : ZonePolicy) (now : Time) (s : σ) :
    Except Error ApplyValues × σ :=
  foldTops h now (h.env.range.order (h.world s).tick (p.activeContributorsByAxis now))
    ApplyValues.empty (h.next s)

end ZonePolicy

/-! ## The three entry points -/

section

variable {σ : Type} (h : Host σ)

/-- The end of `ReconcileZone`: what differs from the last target is sent. -/
def applyTarget (zone : String) (target : ApplyValues) (s : World) :
    Option Error × World :=
  if s.lastApplied.lookup zone = some target then (none, s)
  else if target.isEmptyTarget then (none, s)
  else match s.send env (.applyValues zone target) with
    | (some e, s) => (some (.applyValues e), s)
    | (none, s) => (none, { s with lastApplied := s.lastApplied.insert zone target })

def reconcileZone (zone : String) (now : Time) (s : σ) : Option Error × σ :=
  let w := h.world s
  match w.policies.lookup zone with
  | none => (none, s)
  | some policy =>
    let policy := policy.removeExpired now
    let s := h.put { w with policies := w.policies.insert zone policy } s
    match policy.applyTopToValues h now s with
    | (.error e, s) => (some e, s)
    | (.ok target, s) => h.lift (applyTarget h.env zone target) s

def timerKey (zone : String) (axis : AxisKind) (id : String) : String :=
  zone ++ "/" ++ axis.name ++ "/" ++ id

/-- Arm the TTL wakeup of a push; a positive TTL replaces the timer of the same
source. -/
def armTimer (zone : String) (axis : AxisKind) (act : Activation) (s : World) :
    World :=
  match act.ttl with
  | some ttl =>
    if 0 < ttl then
      let armedAt := env.clock s.tick
      let s := s.next
      let key := timerKey zone axis (activationID act.sourceKind act.sourceName)
      { s with ttlTimers := s.ttlTimers.insert key { zone := zone, due := armedAt + ttl } }
    else s
  | none => s

def reconcileNow (zone : String) (wrap : Error → Error) (s : σ) : Option Error × σ :=
  let now := h.env.clock (h.world s).tick
  match reconcileZone h zone now (h.next s) with
  | (some e, s) => (some (wrap e), s)
  | (none, s) => (none, s)

/-- The zone's policy is created first.  No lock is held before the push, or between it and the
reconcile. -/
def pushActivation (zone : String) (axis : AxisKind) (act : Option Activation) (s : σ) :
    Option Error × σ :=
  let s := h.letIn s
  if zone = "" then (some .zoneRequired, s)
  else if axis = .unspecified then (some .axisRequired, s)
  else match act with
    | none => (some .activationRequired, s)
    | some act =>
      let w := h.world s
      let policy := (w.policies.lookup zone).getD {}
      match policy.pushActivation h.env axis act with
      | .error e => (some e, h.put { w with policies := w.policies.insert zone policy } s)
      | .ok policy =>
        let w := armTimer h.env zone axis act { w with policies := w.policies.insert zone policy }
        reconcileNow h zone .reconcileAfterPush (h.letIn (h.put w s))

def removeActivation (zone : String) (kind : SourceKind) (name : String) (s : σ) :
    Option Error × σ :=
  let s := h.letIn s
  let w := h.world s
  match w.policies.lookup zone with
  | none => (none, s)
  | some policy =>
    let policy := policy.removeByID (activationID kind name)
    let s := h.put { w with policies := w.policies.insert zone policy } s
    reconcileNow h zone .reconcileAfterRemove (h.letIn s)

end

/-! ## Stacks of a zone -/

def World.stackAt (s : World) (zone : String) (axis : AxisKind) : AxisStack :=
  match s.policies.lookup zone with
  | some p => p.stack axis
  | none => []

namespace ZonePolicy

theorem stack_insert (m : GoMap AxisKind AxisStack) (a b : AxisKind) (s : AxisStack) :
    (⟨m.insert a s⟩ : ZonePolicy).stack b = if b = a then s else (⟨m⟩ : ZonePolicy).stack b := by
  simp only [stack, GoMap.lookup_insert_eq]
  split <;> rfl

theorem stack_removeByID (id : String) (a : AxisKind) :
    (p.removeByID id).stack a = AxisStack.removeByID (p.stack a) id := by
  simp only [stack, removeByID, GoMap.lookup_mapValues]
  cases p.axisStacks.lookup a <;> rfl

theorem stack_removeExpiredOn (p : ZonePolicy) (a b : AxisKind) :
    (removeExpiredOn now p a).stack b =
      if b = a then AxisStack.removeExpired (p.stack b) now else p.stack b := by
  cases ha : p.axisStacks.lookup a with
  | none =>
    simp only [removeExpiredOn, ha]
    split
    · rename_i hb
      subst hb
      simp [stack, ha, AxisStack.removeExpired]
    · rfl
  | some =>
    simp only [removeExpiredOn, ha, stack_insert]
    split
    · rename_i hb
      subst hb
      simp [stack, ha]
    · rfl

theorem stack_removeExpired :
    (p.removeExpired now).stack a =
      if a ∈ reconcileAxes then AxisStack.removeExpired (p.stack a) now else p.stack a := by
  simp only [removeExpired, reconcileAxes, List.foldl_cons, List.foldl_nil,
    stack_removeExpiredOn, List.mem_cons, List.not_mem_nil, or_false]
  cases a <;> simp

theorem mem_activeContributorsByAxis_iff (ra : RuntimeActivation) :
    (a, ra) ∈ p.activeContributorsByAxis now ↔ (p.stack a).top now = some ra := by
  simp only [activeContributorsByAxis, List.mem_filterMap, Option.map_eq_some_iff, Prod.mk.injEq]
  constructor
  · rintro ⟨⟨b, s⟩, hmem, top, htop, rfl, rfl⟩
    have hlookup := (GoMap.lookup_eq_some_iff_mem p.axisStacks b s).mpr hmem
    simpa [stack, hlookup] using htop
  · intro htop
    cases hlookup : p.axisStacks.lookup a with
    | none => simp [stack, hlookup, AxisStack.top] at htop
    | some s =>
      refine ⟨⟨a, s⟩, (GoMap.lookup_eq_some_iff_mem p.axisStacks a s).mp hlookup, ra, ?_, rfl, rfl⟩
      simpa [stack, hlookup] using htop

theorem activeContributorsByAxis_nodup :
    ((p.activeContributorsByAxis now).map Prod.fst).Nodup := by
  have hsub : ((p.activeContributorsByAxis now).map Prod.fst).Sublist p.axisStacks.keys := by
    simp only [activeContributorsByAxis, AList.keys, List.keys]
    induction p.axisStacks.entries with
    | nil => simp
    | cons e _ ih =>
      cases htop : AxisStack.top e.2 now with
      | none => simpa [htop] using ih.cons e.1
      | some => simpa [htop] using ih.cons_cons e.1
  exact hsub.nodup p.axisStacks.keys_nodup

theorem foldTops_world :
    ∀ (tops : List (AxisKind × RuntimeActivation)) (target : ApplyValues) (s : World),
      ∃ n, s.tick ≤ n ∧ (foldTops env now tops target s).2 = { s with tick := n } := by
  intro tops
  induction tops with
  | nil => intro target s; exact ⟨s.tick, le_refl _, rfl⟩
  | cons top _ ih =>
    intro target s
    obtain ⟨axis, ra⟩ := top
    simp only [foldTops]
    cases ra.resolved.compute s.tick now env.cfg.location ra.args with
    | error => exact ⟨s.tick + 1, Nat.le_succ _, rfl⟩
    | ok val =>
      obtain ⟨n, hn, hworld⟩ := ih (target.setAxis axis val) s.next
      exact ⟨n, le_trans (Nat.le_succ _) hn, by rw [hworld]; rfl⟩

theorem applyTopToValues_world (s : World) :
    ∃ n, s.tick ≤ n ∧ (p.applyTopToValues env now s).2 = { s with tick := n } := by
  obtain ⟨n, hn, hworld⟩ := foldTops_world env now
    (env.range.order s.tick (p.activeContributorsByAxis now)) ApplyValues.empty s.next
  exact ⟨n, le_trans (Nat.le_succ _) hn, by rw [applyTopToValues, hworld]; rfl⟩

theorem foldTops_fst_congr :
    ∀ (tops : List (AxisKind × RuntimeActivation)) (target : ApplyValues) {s t : World},
      s.tick = t.tick → (foldTops env now tops target s).1 = (foldTops env now tops target t).1 := by
  intro tops
  induction tops with
  | nil => intro target s t _; rfl
  | cons top _ ih =>
    intro target s t htick
    obtain ⟨axis, ra⟩ := top
    simp only [foldTops, htick]
    cases ra.resolved.compute t.tick now env.cfg.location ra.args with
    | error => rfl
    | ok => exact ih _ (by simp [World.next, htick])

theorem applyTopToValues_fst_congr {s t : World} (htick : s.tick = t.tick) :
    (p.applyTopToValues env now s).1 = (p.applyTopToValues env now t).1 := by
  simp only [applyTopToValues, htick]
  exact foldTops_fst_congr env now _ _ (by simp [World.next, htick])

theorem foldTops_only {env : Env} {now : Time} :
    ∀ {tops : List (AxisKind × RuntimeActivation)} {init target : ApplyValues} {s : World},
      (tops.map Prod.fst).Nodup → (foldTops env now tops init s).1 = .ok target →
      ∀ a, (a ∉ tops.map Prod.fst ∧ target.only a = init.only a) ∨
        ∃ ra n val, (a, ra) ∈ tops ∧
          ra.resolved.compute n now env.cfg.location ra.args = .ok val ∧
          target.only a = val.only a := by
  intro tops
  induction tops with
  | nil =>
    intro init target s _ hok a
    simp only [foldTops, Except.ok.injEq] at hok
    exact Or.inl ⟨by simp, by rw [hok]⟩
  | cons top _ ih =>
    intro init target s hnodup hok a
    obtain ⟨axis, ra⟩ := top
    simp only [List.map_cons, List.nodup_cons] at hnodup
    simp only [foldTops] at hok
    cases hval : ra.resolved.compute s.tick now env.cfg.location ra.args with
    | error => simp [hval] at hok
    | ok val =>
      simp only [hval] at hok
      rcases ih hnodup.2 hok a with ⟨hnot, heq⟩ | ⟨ra', n, val', hmem, hcompute, heq⟩
      · by_cases ha : axis = a
        · subst ha
          refine Or.inr ⟨ra, s.tick, val, List.mem_cons_self, hval, ?_⟩
          rw [heq, ApplyValues.only_setAxis_self]
        · refine Or.inl ⟨?_, ?_⟩
          · simp only [List.map_cons, List.mem_cons, not_or]
            exact ⟨fun h => ha h.symm, hnot⟩
          · rw [heq, ApplyValues.only_setAxis_of_ne _ _ ha]
      · exact Or.inr ⟨ra', n, val', List.mem_cons_of_mem _ hmem, hcompute, heq⟩

/-- **Composition.**  The target has on each axis the output of the top's Computer, or zero
without a top. -/
theorem applyTopToValues_only {env : Env} {p : ZonePolicy} {now : Time} {s : World}
    {target : ApplyValues} (hok : (p.applyTopToValues env now s).1 = .ok target)
    (a : AxisKind) :
    ((p.stack a).top now = none ∧ target.only a = ApplyValues.empty) ∨
      ∃ ra n val, (p.stack a).top now = some ra ∧
        ra.resolved.compute n now env.cfg.location ra.args = .ok val ∧
        target.only a = val.only a := by
  have hperm := env.range.perm s.tick (p.activeContributorsByAxis now)
  have hnodup := (hperm.map Prod.fst).nodup_iff.mpr (p.activeContributorsByAxis_nodup now)
  rcases foldTops_only hnodup hok a with ⟨hnot, heq⟩ | ⟨ra, n, val, hmem, hcompute, heq⟩
  · refine Or.inl ⟨?_, by rw [heq, ApplyValues.only_empty]⟩
    cases htop : (p.stack a).top now with
    | none => rfl
    | some ra =>
      have hmem := (p.mem_activeContributorsByAxis_iff now a ra).mpr htop
      exact absurd (List.mem_map_of_mem (f := Prod.fst) (hperm.mem_iff.mpr hmem)) hnot
  · exact Or.inr ⟨ra, n, val,
      (p.mem_activeContributorsByAxis_iff now a ra).mp (hperm.mem_iff.mp hmem), hcompute, heq⟩

end ZonePolicy

def composeTarget (zone : String) (now : Time) (s : World) :
    Except Error ApplyValues :=
  match s.policies.lookup zone with
  | none => .ok ApplyValues.empty
  | some policy => ((policy.removeExpired now).applyTopToValues env now s).1

def World.cleaned (s : World) (zone : String) (now : Time) (policy : ZonePolicy) (n : Nat) :
    World :=
  { s with policies := s.policies.insert zone (policy.removeExpired now), tick := n }

/-- How `ReconcileZone` can end. -/
inductive Reconciled (env : Env) (zone : String) (now : Time) (s : World) :
    Option Error × World → Prop where
  | unknown (hpolicy : s.policies.lookup zone = none) : Reconciled env zone now s (none, s)
  | computeFailed (policy : ZonePolicy) (n : Nat) (e : Error)
      (hpolicy : s.policies.lookup zone = some policy) (htick : s.tick ≤ n)
      (htarget : composeTarget env zone now s = .error e) :
      Reconciled env zone now s (some e, s.cleaned zone now policy n)
  | suppressed (policy : ZonePolicy) (n : Nat) (target : ApplyValues)
      (hpolicy : s.policies.lookup zone = some policy) (htick : s.tick ≤ n)
      (htarget : composeTarget env zone now s = .ok target)
      (hsame : s.lastApplied.lookup zone = some target ∨ target.isEmptyTarget = true) :
      Reconciled env zone now s (none, s.cleaned zone now policy n)
  | applied (policy : ZonePolicy) (n : Nat) (target : ApplyValues)
      (hpolicy : s.policies.lookup zone = some policy) (htick : s.tick ≤ n)
      (htarget : composeTarget env zone now s = .ok target)
      (hdelta : s.lastApplied.lookup zone ≠ some target)
      (hnonempty : target.isEmptyTarget = false)
      (hrpc : env.rpc n (.applyValues zone target) = .ok) :
      Reconciled env zone now s (none,
        { s.cleaned zone now policy (n + 1) with
          log := ⟨.applyValues zone target, .ok⟩ :: s.log
          lastApplied := s.lastApplied.insert zone target })
  | applyFailed (policy : ZonePolicy) (n : Nat) (target : ApplyValues) (o : Outcome) (e : Error)
      (hpolicy : s.policies.lookup zone = some policy) (htick : s.tick ≤ n)
      (htarget : composeTarget env zone now s = .ok target)
      (hdelta : s.lastApplied.lookup zone ≠ some target)
      (hnonempty : target.isEmptyTarget = false)
      (hrpc : env.rpc n (.applyValues zone target) = o) (herror : o.error = some e) :
      Reconciled env zone now s (some (.applyValues e),
        { s.cleaned zone now policy (n + 1) with
          log := ⟨.applyValues zone target, o⟩ :: s.log })

theorem reconcileZone_reconciled (zone : String) (now : Time) (s : World) :
    Reconciled env zone now s (reconcileZone env zone now s) := by
  cases hpolicy : s.policies.lookup zone with
  | none =>
    simp only [reconcileZone, hpolicy]
    exact .unknown hpolicy
  | some policy =>
    simp only [reconcileZone, hpolicy]
    have htarget : composeTarget env zone now s =
        ((policy.removeExpired now).applyTopToValues env now
          { s with policies := s.policies.insert zone (policy.removeExpired now) }).1 := by
      simp only [composeTarget, hpolicy]
      exact ZonePolicy.applyTopToValues_fst_congr env _ now rfl
    obtain ⟨n, hn, hworld⟩ := (policy.removeExpired now).applyTopToValues_world env now
      { s with policies := s.policies.insert zone (policy.removeExpired now) }
    revert htarget hworld
    generalize (policy.removeExpired now).applyTopToValues env now
      { s with policies := s.policies.insert zone (policy.removeExpired now) } = composed
    obtain ⟨result, world⟩ := composed
    rintro htarget rfl
    cases result with
    | error e => exact .computeFailed policy n e hpolicy hn htarget
    | ok target =>
      simp only [World.lift_host, applyTarget]
      by_cases hlast : s.lastApplied.lookup zone = some target
      · simp only [hlast, if_true]
        exact .suppressed policy n target hpolicy hn htarget (Or.inl hlast)
      · simp only [hlast, if_false]
        cases hempty : target.isEmptyTarget with
        | true => exact .suppressed policy n target hpolicy hn htarget (Or.inr hempty)
        | false =>
          simp only [World.send, Bool.false_eq_true, if_false]
          cases hrpc : env.rpc n (.applyValues zone target) with
          | ok => exact .applied policy n target hpolicy hn htarget hlast hempty hrpc
          | failed | lost =>
            exact .applyFailed policy n target _ _ hpolicy hn htarget hlast hempty hrpc rfl

end IotController.Conditioner
