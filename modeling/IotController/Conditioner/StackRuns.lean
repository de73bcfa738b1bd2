/-
  The axis stacks over whole runs of the
  reconciler.

  What an event does to one stack is a push, a removal or nothing, followed at most by a
  clean-up of what has expired (`reconcilerStep_stackAt`).

  The TTL counts from `pushed_at`, which the caller supplies, and not from the moment at
  which the push is accepted.
-/
import IotController.Conditioner.BridgeValues
import IotController.Conditioner.PriorityLadder
import IotController.Conditioner.WriterContract

namespace IotController.Conditioner

open Foundation Api Proto Compute

/-! ## What an event does to one stack -/

/-- What an event does to one stack. -/
inductive StackEffect where
  | keep
  | push (ra : RuntimeActivation)
  | remove (id : String)

def StackEffect.apply : StackEffect → AxisStack → AxisStack
  | keep, stack => stack
  | push ra, stack => AxisStack.push ra stack
  | remove id, stack => stack.removeByID id

def acceptedEntry (env : Env) (zone : String) (axis : AxisKind) (act : Activation) :
    Option RuntimeActivation :=
  if zone = "" ∨ axis = .unspecified ∨ act.computerName = "" then none
  else (env.getComputer act.computerName).map fun comp => ZonePolicy.resolve comp act

namespace ReconcilerEvent

def effect (env : Env) (zone : String) (axis : AxisKind) : ReconcilerEvent → StackEffect
  | push z a (some act) =>
    if z = zone ∧ a = axis then
      match acceptedEntry env z a act with
      | some ra => .push ra
      | none => .keep
    else .keep
  | push _ _ none => .keep
  | remove z kind name => if z = zone then .remove (activationID kind name) else .keep
  | reconcile _ _ => .keep

/-- A time at which the event cleans up: a clock reading it makes, or the time a
reconcile is given. -/
def CleansAt (env : Env) (s : World) (e : ReconcilerEvent) (now : Time) : Prop :=
  (∃ n, s.tick ≤ n ∧ n < (reconcilerStep env s e).tick ∧ now = env.clock n) ∨
    ∃ zone, e = reconcile zone now

end ReconcilerEvent

variable {env : Env} {zone : String} {axis : AxisKind} {e : ReconcilerEvent}
  {ra : RuntimeActivation}

theorem ReconcilerEvent.effect_eq_push (h : e.effect env zone axis = .push ra) :
    ∃ act, e = .push zone axis (some act) ∧ acceptedEntry env zone axis act = some ra := by
  cases e with
  | push _ _ act =>
    cases act with
    | none => cases h
    | some act =>
      simp only [effect] at h
      split at h
      · rename_i hsame
        obtain ⟨rfl, rfl⟩ := hsame
        split at h
        · rename_i entry haccepted
          cases h
          exact ⟨act, rfl, haccepted⟩
        · cases h
      · cases h
  | remove =>
    simp only [effect] at h
    split at h <;> cases h
  | reconcile => cases h

theorem acceptedEntry_eq_some {act : Activation} (h : acceptedEntry env zone axis act = some ra) :
    ∃ comp, env.getComputer act.computerName = some comp ∧ ra = ZonePolicy.resolve comp act := by
  unfold acceptedEntry at h
  split at h
  · cases h
  · obtain ⟨comp, hcomp, hra⟩ := Option.map_eq_some_iff.mp h
    exact ⟨comp, hcomp, hra.symm⟩

theorem World.stackAt_of_created {s t : World}
    (ht : t.policies = s.policies.insert zone ((s.policies.lookup zone).getD {})) (a : AxisKind) :
    t.stackAt zone a = s.stackAt zone a := by
  rw [World.stackAt_of_insert ht, if_pos rfl, World.stackAt_eq_getD]

theorem pushActivation_stackAt_of_rejected {act : Activation}
    (h : acceptedEntry env zone axis act = none) (s : World) (a : AxisKind) :
    (pushActivation env zone axis (some act) s).2.stackAt zone a = s.stackAt zone a := by
  unfold acceptedEntry at h
  unfold pushActivation
  by_cases hzone : zone = ""
  · rw [if_pos hzone]
  · rw [if_neg hzone]
    by_cases haxis : axis = .unspecified
    · rw [if_pos haxis]
    · rw [if_neg haxis]
      by_cases hname : act.computerName = ""
      · simp only [ZonePolicy.pushActivation, hname, if_true]
        exact World.stackAt_of_created rfl a
      · have hnone : env.getComputer act.computerName = none := by
          simpa [hzone, haxis, hname] using h
        simp only [ZonePolicy.pushActivation, hname, if_false, hnone]
        exact World.stackAt_of_created rfl a

/-- **The effect of an event.**  A stack changes by the event's effect, followed at
most by a clean-up. -/
theorem reconcilerStep_stackAt (env : Env) (s : World) (e : ReconcilerEvent) (zone : String)
    (axis : AxisKind) :
    (reconcilerStep env s e).stackAt zone axis =
        (e.effect env zone axis).apply (s.stackAt zone axis) ∨
      ∃ now, e.CleansAt env s now ∧ (reconcilerStep env s e).stackAt zone axis =
        ((e.effect env zone axis).apply (s.stackAt zone axis)).cleaned axis now := by
  cases e with
  | push z a act =>
    cases act with
    | none =>
      refine Or.inl ?_
      simp only [reconcilerStep, pushActivation, ReconcilerEvent.effect, StackEffect.apply]
      split
      · rfl
      · split <;> rfl
    | some act =>
      by_cases hz : zone = z
      · subst hz
        cases haccepted : acceptedEntry env zone a act with
        | none =>
          refine Or.inl ?_
          simp only [reconcilerStep, ReconcilerEvent.effect, haccepted, ite_self, StackEffect.apply]
          exact pushActivation_stackAt_of_rejected haccepted s axis
        | some =>
          obtain ⟨comp, hcomp, rfl⟩ := acceptedEntry_eq_some haccepted
          rcases pushActivation_stackAt env zone a act s with
            ⟨hmissing, -⟩ | ⟨comp', n, hcomp', hn, hn', hstack⟩
          · exact absurd haccepted (by
              rcases hmissing with h | h | h | h <;> simp [acceptedEntry, h])
          · rw [hcomp, Option.some.injEq] at hcomp'
            subst hcomp'
            refine Or.inr ⟨env.clock n, Or.inl ⟨n, hn, hn', rfl⟩, ?_⟩
            simp only [reconcilerStep, hstack axis, ReconcilerEvent.effect, haccepted, true_and]
            by_cases ha : axis = a
            · subst ha
              simp only [if_true, StackEffect.apply]
            · rw [if_neg ha, if_neg (fun h => ha h.symm)]
              rfl
      · refine Or.inl ?_
        have hframe := pushActivation_frame env z a (some act) s
        simp only [reconcilerStep, ReconcilerEvent.effect]
        rw [if_neg (fun h => hz h.1.symm)]
        exact World.stackAt_congr (hframe.policies zone hz) axis
  | remove z kind name =>
    by_cases hz : zone = z
    · subst hz
      simp only [reconcilerStep, ReconcilerEvent.effect, if_true, StackEffect.apply]
      cases hpolicy : s.policies.lookup zone with
      | none =>
        refine Or.inl ?_
        have hempty : s.stackAt zone axis = [] := by simp only [World.stackAt, hpolicy]
        have hsame : (removeActivation env zone kind name s).2 = s := by
          simp only [removeActivation, hpolicy]
        rw [hsame, hempty]
        rfl
      | some =>
        refine Or.inr ⟨env.clock s.tick, Or.inl ⟨s.tick, le_refl _, ?_, rfl⟩, ?_⟩
        · simp only [reconcilerStep, removeActivation, hpolicy]
          exact reconcileNow_tick env zone _ rfl
        · simp only [removeActivation, hpolicy]
          rw [reconcileNow_stackAt, World.stackAt_of_insert (s := s) rfl, if_pos rfl,
            ZonePolicy.stack_removeByID]
          simp only [World.stackAt, hpolicy]
    · refine Or.inl ?_
      have hframe := removeActivation_frame env z kind name s
      simp only [reconcilerStep, ReconcilerEvent.effect]
      rw [if_neg (fun h => hz h.symm)]
      exact World.stackAt_congr (hframe.policies zone hz) axis
  | reconcile z now =>
    by_cases hz : zone = z
    · subst hz
      exact Or.inr ⟨now, Or.inr ⟨zone, rfl⟩, reconcileZone_stackAt env zone now s axis⟩
    · refine Or.inl ?_
      have hframe := reconcileZone_frame env z now s
      exact World.stackAt_congr (hframe.policies zone hz) axis

theorem reconcilerStep_sublist (env : Env) (s : World) (e : ReconcilerEvent) (zone : String)
    (axis : AxisKind) :
    ((reconcilerStep env s e).stackAt zone axis).Sublist
      ((e.effect env zone axis).apply (s.stackAt zone axis)) := by
  rcases reconcilerStep_stackAt env s e zone axis with heq | ⟨now, -, heq⟩
  · rw [heq]
  · rw [heq]
    exact AxisStack.cleaned_sublist axis now _

theorem removeActivation_sublist (env : Env) (zone : String) (kind : SourceKind) (name : String)
    (s : World) (z : String) (a : AxisKind) :
    ((removeActivation env zone kind name s).2.stackAt z a).Sublist (s.stackAt z a) := by
  refine (reconcilerStep_sublist env s (.remove zone kind name) z a).trans ?_
  simp only [ReconcilerEvent.effect]
  split
  · exact List.eraseP_sublist
  · exact List.Sublist.refl _

theorem reconcilerStep_live {s : World} {u : Time} (hu : ∀ now, e.CleansAt env s now → now ≤ u)
    (zone : String) (axis : AxisKind) :
    ((reconcilerStep env s e).stackAt zone axis).live u =
      ((e.effect env zone axis).apply (s.stackAt zone axis)).live u := by
  rcases reconcilerStep_stackAt env s e zone axis with heq | ⟨now, hnow, heq⟩
  · rw [heq]
  · rw [heq, AxisStack.live_cleaned (hu now hnow)]

/-! ## Well-formed stacks -/

/-- The id and the Computer are those of the Activation. -/
structure EntryValid (env : Env) (ra : RuntimeActivation) : Prop where
  id_eq : ra.id = activationID ra.sourceKind ra.sourceName
  resolved : env.getComputer ra.computerName = some ra.resolved

theorem entryValid_of_accepted {act : Activation} (h : acceptedEntry env zone axis act = some ra) :
    EntryValid env ra := by
  obtain ⟨comp, hcomp, rfl⟩ := acceptedEntry_eq_some h
  exact ⟨rfl, hcomp⟩

/-- Ids are distinct and entries valid. -/
structure StackValid (env : Env) (stack : AxisStack) : Prop where
  distinct : stack.DistinctIds
  entries : ∀ ra ∈ stack, EntryValid env ra

namespace StackValid

variable {env : Env} {stack : AxisStack}

theorem sublist {stack' : AxisStack} (h : StackValid env stack) (hsub : stack'.Sublist stack) :
    StackValid env stack' :=
  ⟨h.distinct.sublist hsub, fun ra hra => h.entries ra (hsub.subset hra)⟩

theorem push (h : StackValid env stack) {ra : RuntimeActivation} (hra : EntryValid env ra) :
    StackValid env (AxisStack.push ra stack) :=
  ⟨h.distinct.push ra,
    AxisStack.forall_mem_push (fun _ _ _ hvalid => ⟨hvalid.id_eq, hvalid.resolved⟩) hra h.entries⟩

theorem apply (h : StackValid env stack) {eff : StackEffect}
    (heff : ∀ ra, eff = .push ra → EntryValid env ra) : StackValid env (eff.apply stack) := by
  cases eff with
  | keep => exact h
  | push ra => exact h.push (heff ra rfl)
  | remove => exact h.sublist List.eraseP_sublist

theorem effect (h : StackValid env stack) (e : ReconcilerEvent) (zone : String)
    (axis : AxisKind) : StackValid env ((e.effect env zone axis).apply stack) := by
  refine h.apply fun ra hpush => ?_
  obtain ⟨act, -, haccepted⟩ := ReconcilerEvent.effect_eq_push hpush
  exact entryValid_of_accepted haccepted

end StackValid

/-- Every stack is valid. -/
def WellStacked (env : Env) (s : World) : Prop :=
  ∀ zone axis, StackValid env (s.stackAt zone axis)

theorem WellStacked.initial (env : Env) : WellStacked env World.initial := fun _ _ =>
  ⟨List.nodup_nil, fun _ hra => absurd hra List.not_mem_nil⟩

theorem WellStacked.step {s : World} (h : WellStacked env s) (e : ReconcilerEvent) :
    WellStacked env (reconcilerStep env s e) := fun zone axis =>
  ((h zone axis).effect e zone axis).sublist (reconcilerStep_sublist env s e zone axis)

theorem WellStacked.run {env : Env} {s : World} (h : WellStacked env s)
    (events : List ReconcilerEvent) : WellStacked env (run (reconcilerStep env) s events) :=
  @run_invariant _ _ (reconcilerStep env) (WellStacked env) (fun _ e hs => hs.step e) _ h events

/-! ## The TTL -/

def ReconcilerEvent.PushesFor (zone : String) (axis : AxisKind) (kind : SourceKind)
    (name : String) : ReconcilerEvent → Prop
  | push z a (some act) => z = zone ∧ a = axis ∧ act.sourceKind = kind ∧ act.sourceName = name
  | _ => False

def TimedBy (id : String) (pushedAt ttl : Int) (stack : AxisStack) : Prop :=
  ∀ ra ∈ stack, ra.id = id → ra.pushedAt = some pushedAt ∧ ra.ttl = some ttl

theorem TimedBy.sublist {id : String} {pushedAt ttl : Int} {stack stack' : AxisStack}
    (h : TimedBy id pushedAt ttl stack) (hsub : stack'.Sublist stack) :
    TimedBy id pushedAt ttl stack' := fun ra hra => h ra (hsub.subset hra)

theorem AxisStack.pushedEntry_timing (s : AxisStack) (ra : RuntimeActivation) :
    (s.pushedEntry ra).id = ra.id ∧ (s.pushedEntry ra).pushedAt = ra.pushedAt ∧
      (s.pushedEntry ra).ttl = ra.ttl := by
  unfold pushedEntry
  split
  · exact ⟨rfl, rfl, rfl⟩
  · exact refreshed_timing s ra

theorem timedBy_push {stack : AxisStack} (hdistinct : stack.DistinctIds) {pushedAt ttl : Int}
    (hpushed : ra.pushedAt = some pushedAt) (httl : ra.ttl = some ttl) :
    TimedBy ra.id pushedAt ttl (AxisStack.push ra stack) := by
  intro e he hid
  rcases (AxisStack.mem_push hdistinct e).mp he with ⟨-, hne⟩ | rfl
  · exact absurd hid hne
  · obtain ⟨-, hentry, hentry'⟩ := AxisStack.pushedEntry_timing stack ra
    exact ⟨hentry.trans hpushed, hentry'.trans httl⟩

theorem TimedBy.effect {kind : SourceKind} {name : String} {pushedAt ttl : Int} {stack : AxisStack}
    (hdistinct : stack.DistinctIds) (h : TimedBy (activationID kind name) pushedAt ttl stack)
    (hother : ¬ e.PushesFor zone axis kind name) :
    TimedBy (activationID kind name) pushedAt ttl ((e.effect env zone axis).apply stack) := by
  cases heff : e.effect env zone axis with
  | keep => exact h
  | push =>
    obtain ⟨act, rfl, haccepted⟩ := ReconcilerEvent.effect_eq_push heff
    obtain ⟨comp, -, rfl⟩ := acceptedEntry_eq_some haccepted
    intro e he hid
    rcases (AxisStack.mem_push hdistinct e).mp he with ⟨hmem, -⟩ | rfl
    · exact h e hmem hid
    · -- the id of the push is another one
      rw [(AxisStack.pushedEntry_timing stack _).1] at hid
      obtain ⟨hkind, hname⟩ := activationID_inj hid
      exact absurd ⟨rfl, rfl, hkind, hname⟩ hother
  | remove => exact h.sublist List.eraseP_sublist

/-- **The TTL law.**  An Activation accepted with a push time and a positive TTL is not the top
of its stack after both, whatever happens later, until its source is pushed again. -/
theorem activation_not_top_after_ttl (env : Env) (before later : List ReconcilerEvent)
    (zone : String) (axis : AxisKind) (act : Activation) (pushedAt ttl u : Int)
    (haccepted : (acceptedEntry env zone axis act).isSome = true)
    (hpushed : act.pushedAt = some pushedAt) (httl : act.ttl = some ttl) (hpos : 0 < ttl)
    (hagain : ∀ e ∈ later, ¬ e.PushesFor zone axis act.sourceKind act.sourceName)
    (hu : pushedAt + ttl < u) :
    let s := run (reconcilerStep env) World.initial (before ++ .push zone axis (some act) :: later)
    ∀ ra, (s.stackAt zone axis).top u = some ra →
      ¬ (ra.sourceKind = act.sourceKind ∧ ra.sourceName = act.sourceName) := by
  intro s ra htop
  obtain ⟨entry, hentry⟩ := Option.isSome_iff_exists.mp haccepted
  obtain ⟨comp, -, rfl⟩ := acceptedEntry_eq_some hentry
  let s₀ := run (reconcilerStep env) World.initial before
  have hvalid : WellStacked env s₀ := (WellStacked.initial env).run before
  -- after the push, and then after every later event, the push times the entry
  let inv : World → Prop := fun t => WellStacked env t ∧
    TimedBy (activationID act.sourceKind act.sourceName) pushedAt ttl (t.stackAt zone axis)
  have hpush : inv (reconcilerStep env s₀ (.push zone axis (some act))) := by
    refine ⟨hvalid.step _, ?_⟩
    refine TimedBy.sublist ?_ (reconcilerStep_sublist env s₀ _ zone axis)
    simp only [ReconcilerEvent.effect, and_self, if_true, hentry, StackEffect.apply]
    exact timedBy_push (hvalid zone axis).distinct hpushed httl
  have hinv : inv s := by
    have hrun : s = run (reconcilerStep env)
        (reconcilerStep env s₀ (.push zone axis (some act))) later := by
      show run _ _ _ = _
      rw [run_append, run_cons]
    rw [hrun]
    refine run_invariant_of_mem (fun t e he ht => ⟨ht.1.step e, ?_⟩) hpush
    exact (ht.2.effect (ht.1 zone axis).distinct (hagain e he)).sublist
      (reconcilerStep_sublist env t e zone axis)
  rintro ⟨hkind, hname⟩
  obtain ⟨hmem, hlive⟩ := AxisStack.live_of_top htop
  have hid : ra.id = activationID act.sourceKind act.sourceName := by
    rw [((hinv.1 zone axis).entries ra hmem).id_eq, hkind, hname]
  obtain ⟨hpushed', httl'⟩ := hinv.2 ra hmem hid
  simp only [RuntimeActivation.expired, hpushed', httl', decide_eq_false_iff_not, not_and,
    not_lt] at hlive
  exact absurd hu (not_lt.mpr (hlive hpos.ne'))

def porchLamp (pushedAt : Option Time) : Activation where
  computerName := staticName
  args := AList.singleton "state" ZoneState.on.name
  sourceKind := .manual
  sourceName := "operator"
  pushedAt := pushedAt
  ttl := some 10
  priority := 100
  pushPolicy := .refresh

def porchPushed (pushedAt : Option Time) : World :=
  run (reconcilerStep switchEnv) World.initial [.push "porch" .state (some (porchLamp pushedAt))]

/-- Pushed with a time ahead of the clock, or without one, the lamp is the top more than the TTL
after its acceptance at 5. -/
theorem porch_top_after_ttl :
    (porchPushed (some 100)).tick = 5 ∧ switchEnv.clock 5 + 10 < 50 ∧
      ((porchPushed (some 100)).stackAt "porch" .state).top 50 =
        some (ZonePolicy.resolve staticComputer (porchLamp (some 100))) ∧
      (porchPushed none).tick = 5 ∧
      ((porchPushed none).stackAt "porch" .state).top 1000 =
        some (ZonePolicy.resolve staticComputer (porchLamp none)) :=
  ⟨rfl, by decide, rfl, rfl, rfl⟩

/-- With the time of the push itself the lamp is gone, also after a reconcile. -/
theorem porch_not_top_after_ttl :
    (acceptedEntry switchEnv "porch" .state (porchLamp (some 0))).isSome = true ∧
    ∀ ra, ((run (reconcilerStep switchEnv) World.initial
        ([] ++ .push "porch" .state (some (porchLamp (some 0))) ::
          [.reconcile "porch" 5])).stackAt "porch" .state).top 50 = some ra →
      ¬ (ra.sourceKind = .manual ∧ ra.sourceName = "operator") :=
  ⟨rfl, activation_not_top_after_ttl switchEnv [] [.reconcile "porch" 5] "porch" .state
    (porchLamp (some 0)) 0 10 50 rfl rfl rfl (by decide)
    (fun e he => by rw [List.mem_singleton.mp he]; exact id) (by decide)⟩

end IotController.Conditioner
