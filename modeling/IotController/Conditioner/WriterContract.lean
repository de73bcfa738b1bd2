/-
  What `lastApplied` means.

  `ReconcileZone` suppresses a target that equals the last one it sent, so everything the
  reconciler knows about a zone is `lastApplied`.
-/
import IotController.Conditioner.ReconcilerFrame
import IotController.Foundation.Run

namespace IotController.Conditioner

open Foundation Api Proto Compute

/-! ## Runs of the reconciler -/

/-- An operation of the reconciler. -/
inductive ReconcilerEvent where
  | push (zone : String) (axis : AxisKind) (act : Option Activation)
  | remove (zone : String) (kind : SourceKind) (name : String)
  | reconcile (zone : String) (now : Time)

def reconcilerStep (env : Env) (s : World) : ReconcilerEvent → World
  | .push zone axis act => (pushActivation env zone axis act s).2
  | .remove zone kind name => (removeActivation env zone kind name s).2
  | .reconcile zone now => (reconcileZone env zone now s).2

/-- What one operation sends. -/
inductive Wrote (s t : World) : Prop where
  | nothing (hlog : t.log = s.log) (hlast : t.lastApplied = s.lastApplied)
  | accepted (zone : String) (target : ApplyValues)
      (hlog : t.log = ⟨.applyValues zone target, .ok⟩ :: s.log)
      (hlast : t.lastApplied = s.lastApplied.insert zone target)
      (hdelta : s.lastApplied.lookup zone ≠ some target)
      (hnonempty : target.isEmptyTarget = false)
  | refused (zone : String) (target : ApplyValues) (o : Outcome) (ho : o ≠ .ok)
      (hlog : t.log = ⟨.applyValues zone target, o⟩ :: s.log)
      (hlast : t.lastApplied = s.lastApplied) (hnonempty : target.isEmptyTarget = false)

theorem Wrote.congr {s s' t : World} (h : Wrote s' t) (hlog : s'.log = s.log)
    (hlast : s'.lastApplied = s.lastApplied) : Wrote s t := by
  cases h with
  | nothing hlog' hlast' => exact .nothing (hlog'.trans hlog) (hlast'.trans hlast)
  | accepted zone target hlog' hlast' hdelta hnonempty =>
    rw [hlog] at hlog'
    rw [hlast] at hlast' hdelta
    exact .accepted zone target hlog' hlast' hdelta hnonempty
  | refused zone target o ho hlog' hlast' hnonempty =>
    rw [hlog] at hlog'
    exact .refused zone target o ho hlog' (hlast'.trans hlast) hnonempty

theorem reconcileZone_wrote (env : Env) (zone : String) (now : Time) (s : World) :
    Wrote s (reconcileZone env zone now s).2 := by
  have hend := reconcileZone_reconciled env zone now s
  generalize reconcileZone env zone now s = result at hend
  cases hend with
  | unknown | computeFailed | suppressed => exact .nothing rfl rfl
  | applied _ _ target _ _ _ hdelta hnonempty =>
    exact .accepted zone target rfl rfl hdelta hnonempty
  | applyFailed _ _ target o _ _ _ _ _ hnonempty _ herror =>
    refine .refused zone target o ?_ rfl rfl hnonempty
    rintro rfl
    simp [Outcome.error] at herror

theorem reconcilerStep_wrote (env : Env) (s : World) (e : ReconcilerEvent) :
    Wrote s (reconcilerStep env s e) := by
  have hnow : ∀ zone wrap t, Wrote t (reconcileNow env zone wrap t).2 := by
    intro zone wrap t
    rw [reconcileNow_eq]
    exact (reconcileZone_wrote env zone _ t.next).congr rfl rfl
  cases e with
  | push zone axis act =>
    have hend := pushActivation_pushed env zone axis act s
    simp only [reconcilerStep]
    generalize pushActivation env zone axis act s = result at hend
    cases hend with
    | rejected | unresolved => exact .nothing rfl rfl
    | pushed => exact (hnow _ _ _).congr rfl rfl
  | remove =>
    simp only [reconcilerStep, removeActivation]
    split
    · exact .nothing rfl rfl
    · exact (hnow _ _ _).congr rfl rfl
  | reconcile zone now => exact reconcileZone_wrote env zone now s

def appliedTargets (zone : String) (log : List Sent) : List ApplyValues :=
  (succeeded log).filterMap fun e => e.call.valuesOn zone

/-! ## The invariant -/

/-- The contract of the reconciler as a writer. -/
structure WriterInv (s : World) : Prop where
  /-- `lastApplied` is the last target that succeeded -/
  last : ∀ zone, s.lastApplied.lookup zone = (appliedTargets zone s.log).head?
  /-- successive targets differ -/
  distinct : ∀ zone, (appliedTargets zone s.log).IsChain (· ≠ ·)
  /-- no empty target was sent -/
  nonempty : ∀ e ∈ s.log, ∀ zone target, e.call = .applyValues zone target →
    target.isEmptyTarget = false

theorem WriterInv.initial : WriterInv World.initial where
  last := fun _ => rfl
  distinct := fun _ => List.isChain_nil
  nonempty := by simp [World.initial]

theorem appliedTargets_of_error (zone : String) {e : Sent} (h : e.outcome ≠ .ok)
    (log : List Sent) : appliedTargets zone (e :: log) = appliedTargets zone log := by
  simp [appliedTargets, succeeded, h]

theorem appliedTargets_applied (zone z : String) (target : ApplyValues) (log : List Sent) :
    appliedTargets z (⟨.applyValues zone target, .ok⟩ :: log) =
      if zone = z then target :: appliedTargets z log else appliedTargets z log := by
  by_cases hz : zone = z
  · simp [appliedTargets, succeeded, Call.valuesOn, hz]
  · simp [appliedTargets, succeeded, Call.valuesOn, hz]

theorem WriterInv.of_wrote {s t : World} (h : WriterInv s) (hwrote : Wrote s t) :
    WriterInv t := by
  have hsent : ∀ {zone target o}, target.isEmptyTarget = false →
      ∀ e ∈ (⟨.applyValues zone target, o⟩ : Sent) :: s.log, ∀ z v, e.call = .applyValues z v →
        v.isEmptyTarget = false := by
    intro zone target o hnonempty e he z v hcall
    rcases List.mem_cons.mp he with rfl | he
    · cases hcall
      exact hnonempty
    · exact h.nonempty e he z v hcall
  cases hwrote with
  | nothing hlog hlast =>
    refine ⟨fun z => ?_, fun z => ?_, ?_⟩
    · rw [hlog, hlast]
      exact h.last z
    · rw [hlog]
      exact h.distinct z
    · rw [hlog]
      exact h.nonempty
  | accepted zone _ hlog hlast hdelta hnonempty =>
    refine ⟨fun z => ?_, fun z => ?_, ?_⟩
    · rw [hlog, hlast, appliedTargets_applied, GoMap.lookup_insert_eq]
      by_cases hz : zone = z
      · simp [hz]
      · rw [if_neg (fun heq => hz heq.symm), if_neg hz]
        exact h.last z
    · rw [hlog, appliedTargets_applied]
      split
      · rename_i hz
        subst hz
        rw [List.isChain_cons]
        refine ⟨fun previous hprevious heq => hdelta ?_, h.distinct zone⟩
        rw [h.last zone, heq]
        exact hprevious
      · exact h.distinct z
    · rw [hlog]
      exact hsent hnonempty
  | refused _ _ _ ho hlog hlast hnonempty =>
    refine ⟨fun z => ?_, fun z => ?_, ?_⟩
    · rw [hlog, hlast, appliedTargets_of_error z ho]
      exact h.last z
    · rw [hlog, appliedTargets_of_error z ho]
      exact h.distinct z
    · rw [hlog]
      exact hsent hnonempty

/-- **The writer contract.**  After every run of pushes, removals and reconciles, `lastApplied`
of a zone is the target of the last ApplyValues that succeeded; successive successful targets
differ; no empty target was sent.  A reconcile that returns nil on a non-empty target leaves it
in `lastApplied`, and one that fails leaves `lastApplied` as it was. -/
theorem reconciler_writer_contract (env : Env) (events : List ReconcilerEvent)
    (zone : String) :
    let s := run (reconcilerStep env) World.initial events
    s.lastApplied.lookup zone = (appliedTargets zone s.log).head? ∧
      (appliedTargets zone s.log).IsChain (· ≠ ·) ∧
      (∀ e ∈ s.log, ∀ target, e.call = .applyValues zone target → target.isEmptyTarget = false) ∧
      (∀ now target, (reconcileZone env zone now s).1 = none →
        composeTarget env zone now s = .ok target → target.isEmptyTarget = false →
          (reconcileZone env zone now s).2.lastApplied.lookup zone = some target) ∧
      ∀ now e, (reconcileZone env zone now s).1 = some e →
        (reconcileZone env zone now s).2.lastApplied = s.lastApplied := by
  intro s
  have hinv : WriterInv s :=
    run_invariant (fun t e ht => ht.of_wrote (reconcilerStep_wrote env t e)) WriterInv.initial events
  refine ⟨hinv.last zone, hinv.distinct zone, fun e he => hinv.nonempty e he zone, ?_, ?_⟩
  · intro now target hnil htarget hnonempty
    have hend := reconcileZone_reconciled env zone now s
    generalize reconcileZone env zone now s = result at hend hnil
    cases hend with
    | unknown hpolicy =>
      simp only [composeTarget, hpolicy, Except.ok.injEq] at htarget
      rw [← htarget] at hnonempty
      exact absurd hnonempty (by decide)
    | computeFailed | applyFailed => cases hnil
    | suppressed _ _ _ _ _ htarget' hsame =>
      rw [htarget, Except.ok.injEq] at htarget'
      subst htarget'
      rcases hsame with hlast | hempty
      · exact hlast
      · rw [hnonempty] at hempty
        cases hempty
    | applied _ _ _ _ _ htarget' =>
      rw [htarget, Except.ok.injEq] at htarget'
      subst htarget'
      exact AList.lookup_insert _
  · intro now e herror
    have hend := reconcileZone_reconciled env zone now s
    generalize reconcileZone env zone now s = result at hend herror
    cases hend with
    | unknown | suppressed | applied => cases herror
    | computeFailed | applyFailed => rfl

end IotController.Conditioner
