/-
  The periodic reconcile and drift.

  The evaluator reconciles every managed zone on each tick, as the safety net for
  state drift between push events.  `ReconcileZone` decides whether to write by
  comparing its target with the one it wrote last, so it repairs a drift exactly
  when those two differ.
-/
import IotController.Conditioner.Remediate
import IotController.Conditioner.WriterContract
import IotController.ZoneKeeper.Handlers

namespace IotController.Conditioner

open Foundation Api Proto Compute
open Iot ZoneKeeper

/-- An operation of any writer. -/
inductive WriterEvent where
  | reconciler (e : ReconcilerEvent)
  /-- `schedule.run` executes a scheduled request -/
  | cron (req : Request)
  | adjust (zone : String) (delta : Int)
  | other (call : Call) (outcome : Outcome)

namespace WriterEvent

def step (env : Env) (s : World) : WriterEvent → World
  | reconciler e => reconcilerStep env s e
  | cron req => (execRequest env req s).2
  | adjust zone delta => (adjustBrightness env zone delta s).2
  | other call outcome => { s with log := ⟨call, outcome⟩ :: s.log }

def isReconciler : WriterEvent → Bool
  | reconciler _ => true
  | _ => false

end WriterEvent

theorem WriterEvent.foreign_log (env : Env) (s : World) {e : WriterEvent}
    (h : e.isReconciler = false) :
    (e.step env s).lastApplied = s.lastApplied ∧ ∃ sent, (e.step env s).log = sent ++ s.log := by
  cases e with
  | reconciler => cases h
  | cron req =>
    have hexec := execRequest_executed env req s
    obtain ⟨n, log, hworld⟩ := hexec.world
    obtain ⟨sent, hlog, -⟩ := (hexec.frame "").log
    exact ⟨by rw [step, hworld], sent, hlog⟩
  | adjust | other => exact ⟨rfl, [_], rfl⟩

/-! ## Writes that do no harm -/

/-- The call keeps a zone in agreement. -/
def Harmless (scenes : Nat → String → Option Scene) (target : ApplyValues) (c : Call) : Prop :=
  ∀ n z, Agrees z target → Agrees (effect (scenes n) z c) target

/-- Every write past `lastApplied`, by others or by a call that reports an error, is harmless
for the last accepted target. -/
def Undisturbed (env : Env) (scenes : Nat → String → Option Scene) (zone : String) (s : World)
    (e : WriterEvent) : Prop :=
  ∀ sent, (e.step env s).log = sent ++ s.log → ∀ c ∈ sent, c.call.zone = zone →
    effective c.outcome = true → ¬ (e.isReconciler = true ∧ c.outcome = .ok) →
      ∀ target, s.lastApplied.lookup zone = some target → Harmless scenes target c.call

/-- The zone agrees with the last accepted target. -/
def Settled (scenes : Nat → String → Option Scene) (initial : Zone) (zone : String) (s : World) :
    Prop :=
  ∀ target, s.lastApplied.lookup zone = some target →
    Agrees (stored scenes initial zone s.log) target

section Settled

variable {env : Env} {scenes : Nat → String → Option Scene} {initial : Zone} {zone : String}
  {s : World}

theorem agrees_append {target : ApplyValues} {log : List Sent}
    (h : Agrees (stored scenes initial zone log) target) :
    ∀ {sent : List Sent}, (∀ c ∈ sent, c.call.zone = zone → effective c.outcome = true →
      Harmless scenes target c.call) →
      Agrees (stored scenes initial zone (sent ++ log)) target := by
  intro sent
  induction sent with
  | nil => intro _; exact h
  | cons c _ ih =>
    intro hsent
    have hrest := ih fun c' hc' => hsent c' (List.mem_cons_of_mem _ hc')
    rw [List.cons_append, stored]
    split
    · rename_i hc
      exact hsent c List.mem_cons_self hc.1 hc.2 _ _ hrest
    · exact hrest

/-- **An undisturbed step keeps the zone at the last accepted target.** -/
theorem Settled.step (h : Settled scenes initial zone s) {e : WriterEvent}
    (he : Undisturbed env scenes zone s e) : Settled scenes initial zone (e.step env s) := by
  intro target htarget
  cases hreconciler : e.isReconciler with
  | false =>
    obtain ⟨hlast, sent, hlog⟩ := WriterEvent.foreign_log env s hreconciler
    rw [hlast] at htarget
    rw [hlog]
    refine agrees_append (h target htarget) fun c hc hzone heffective => ?_
    exact he sent hlog c hc hzone heffective (by simp [hreconciler]) target htarget
  | true =>
    cases e with
    | cron | adjust | other => cases hreconciler
    | reconciler e =>
      cases reconcilerStep_wrote env s e with
      | nothing hlog hlast =>
        rw [WriterEvent.step, hlast] at htarget
        rw [WriterEvent.step, hlog]
        exact h target htarget
      | accepted z v hlog hlast =>
        rw [WriterEvent.step, hlast, GoMap.lookup_insert_eq] at htarget
        rw [WriterEvent.step, hlog]
        by_cases hz : zone = z
        · subst hz
          rw [if_pos rfl, Option.some.injEq] at htarget
          rw [stored_applied, ← htarget]
          exact applyValues_agrees v _
        · rw [if_neg hz] at htarget
          rw [stored_cons_of_not scenes initial (e := ⟨.applyValues z v, .ok⟩)
            fun hcall => hz hcall.1.symm]
          exact h target htarget
      | refused z v o ho hlog hlast =>
        rw [WriterEvent.step, hlast] at htarget
        -- the call may have taken effect
        have hsent : (WriterEvent.step env s (.reconciler e)).log =
            [⟨.applyValues z v, o⟩] ++ s.log := hlog
        rw [hsent]
        refine agrees_append (h target htarget) fun c hc hzone heffective => ?_
        refine he _ hsent c hc hzone heffective (fun hok => ho ?_) target htarget
        rw [← hok.2, List.mem_singleton.mp hc]

end Settled

/-! ## The safety net -/

/-- **The safety net.**  After every run of the reconciler, cron events, brightness steps and
other clients, with calls that may report an error after taking effect, a reconcile that returns
nil on a non-empty target leaves the zone in agreement with it exactly when it differs from the
last accepted one or the zone agreed already.  In an undisturbed run it always does. -/
theorem reconcile_restores_iff (env : Env) (scenes : Nat → String → Option Scene) (initial : Zone)
    (events : List WriterEvent) (zone : String) (now : Time) (target : ApplyValues) :
    let s := run (WriterEvent.step env) World.initial events
    let s' := (reconcileZone env zone now s).2
    (reconcileZone env zone now s).1 = none → composeTarget env zone now s = .ok target →
      target.isEmptyTarget = false →
      (Agrees (stored scenes initial zone s'.log) target ↔
        s.lastApplied.lookup zone ≠ some target ∨
          Agrees (stored scenes initial zone s.log) target) ∧
      (Along (WriterEvent.step env) (Undisturbed env scenes zone) World.initial events →
        Agrees (stored scenes initial zone s'.log) target) := by
  intro s s' hnil htarget hnonempty
  have hiff : Agrees (stored scenes initial zone s'.log) target ↔
      s.lastApplied.lookup zone ≠ some target ∨
        Agrees (stored scenes initial zone s.log) target := by
    have hend := reconcileZone_reconciled env zone now s
    simp only [s']
    generalize reconcileZone env zone now s = result at hend hnil
    cases hend with
    | unknown hpolicy =>
      simp only [composeTarget, hpolicy, Except.ok.injEq] at htarget
      rw [← htarget] at hnonempty
      exact absurd hnonempty (by decide)
    | computeFailed | applyFailed => cases hnil
    | suppressed _ _ _ _ _ htarget' hsame =>
      rw [htarget, Except.ok.injEq] at htarget'
      subst htarget'
      rcases hsame with hlast | hempty
      · exact ⟨Or.inr, fun h => h.resolve_left fun hne => hne hlast⟩
      · rw [hnonempty] at hempty
        cases hempty
    | applied _ _ _ _ _ htarget' hdelta =>
      rw [htarget, Except.ok.injEq] at htarget'
      subst htarget'
      refine ⟨fun _ => Or.inl hdelta, fun _ => ?_⟩
      rw [stored_applied]
      exact applyValues_agrees target _
  refine ⟨hiff, fun halong => hiff.mpr ?_⟩
  have hsettled : Settled scenes initial zone s :=
    @invariant_of_along _ _ _ _ (Settled scenes initial zone) (fun _ _ h he => h.step he) _ _
      (fun target h => by cases h) halong
  by_cases hlast : s.lastApplied.lookup zone = some target
  · exact Or.inr (hsettled target hlast)
  · exact Or.inl hlast

def loungeEnv (rpc : Nat → Call → Outcome) : Env := { Env.idle ["lounge"] with rpc := rpc }

def loungeState (kind : SourceKind) (priority : Int) (state : ZoneState) : WriterEvent :=
  .reconciler (.push "lounge" .state (some
    { computerName := staticName, args := AList.singleton "state" state.name, sourceKind := kind,
      sourceName := "lounge", pushedAt := some 0, ttl := none, priority := priority,
      pushPolicy := .refresh }))

def loungeEvening : WriterEvent := loungeState .timeWindow bridgeScenePriority .on

/-- Another client confirms what the evening set; the lounge stays on. -/
theorem lounge_stays_on :
    Agrees (stored (fun _ _ => none) {} "lounge"
      (reconcileZone (loungeEnv fun _ _ => .ok) "lounge" 20
        (run (WriterEvent.step (loungeEnv fun _ _ => .ok)) World.initial
          [loungeEvening, .other (.setState "lounge" .on) .ok])).2.log) { state := .on } := by
  refine (reconcile_restores_iff (loungeEnv fun _ _ => .ok) (fun _ _ => none) {}
    [loungeEvening, .other (.setState "lounge" .on) .ok] "lounge" 20 { state := .on }
    rfl rfl rfl).2 ⟨?_, ?_, trivial⟩
  · intro sent hlog c hc hzone heffective hother target htarget
    cases htarget
  · intro sent hlog c hc hzone heffective hother target htarget n z h
    have hsent : [⟨.setState "lounge" .on, .ok⟩] = sent := List.append_cancel_right hlog
    rw [← hsent, List.mem_singleton] at hc
    have hon : target = { state := .on } := (Option.some.inj htarget).symm
    subst hc hon
    exact { h with state := fun _ => rfl }

/-- Another client turns the lounge off; the next reconcile composes on, returns nil and leaves
it off. -/
theorem lounge_drift_stays :
    let env := loungeEnv fun _ _ => .ok
    let s := run (WriterEvent.step env) World.initial
      [loungeEvening, .other (.setState "lounge" .off) .ok]
    (reconcileZone env "lounge" 20 s).1 = none ∧
      composeTarget env "lounge" 20 s = .ok { state := .on } ∧
      (stored (fun _ _ => none) {} "lounge" (reconcileZone env "lounge" 20 s).2.log).state = .off :=
  ⟨rfl, rfl, rfl⟩

end IotController.Conditioner
