/-
  What the evaluator's operations leave alone.

  The reconciler, the evaluator's bridge and a Computer outside the reconciler are put
  together from a few steps: a call of a Computer, a changed policy, an ApplyValues request.
  A relation that these steps keep is kept by the operations (`FadeRule`), as long as the
  calls on the stacks and those of the Remediation are among the ones the relation admits.

  A fade's snapshot can be reached from elsewhere only through a stack entry whose arguments
  name its Condition and zone.  Where there is none (`Foreign`), an operation that is not
  the fade's own keeps the snapshot and pushes no such entry (`Apart`).
-/
import IotController.Conditioner.Evaluator

namespace IotController.Conditioner

open Foundation Api Proto Compute

/-! ## Entries and worlds -/

def snapshotKey (args : Args) : String × String :=
  (Args.value args "_condition", Args.value args "_zone")

@[simp] theorem snapshotKey_augmentedArgs (condName : String) (rem : Remediation) :
    snapshotKey (augmentedArgs condName rem) = (condName, rem.zone) := by
  simp [snapshotKey]

/-- An Activation of a Computer that leaves the snapshot alone. -/
def Activation.ForeignTo (key : String × String) (act : Activation) : Prop :=
  act.computerName = fadeName → snapshotKey act.args ≠ key

def FadeWorld.Foreign (key : String × String) (s : FadeWorld) : Prop :=
  ∀ zone policy, s.policies.lookup zone = some policy →
    ∀ axis, ∀ ra ∈ policy.stack axis, ra.toActivation.ForeignTo key

/-- `t` comes from `s` by operations that are not the fade's own. -/
structure Apart (key : String × String) (s t : FadeWorld) : Prop where
  foreign : t.Foreign key
  log : s.log <:+ t.log
  snapshot : t.fadeSnapshots.lookup key = s.fadeSnapshots.lookup key

namespace Apart

variable {key : String × String} {s t u : FadeWorld}

theorem refl (h : s.Foreign key) : Apart key s s := ⟨h, List.suffix_refl _, rfl⟩

theorem trans (hst : Apart key s t) (htu : Apart key t u) : Apart key s u :=
  ⟨htu.foreign, hst.log.trans htu.log, htu.snapshot.trans hst.snapshot⟩

theorem next (h : s.Foreign key) : Apart key s s.next := ⟨h, List.suffix_refl _, rfl⟩

theorem lift {α : Type} {f : World → α × World} (fe : FadeEnv) (h : s.Foreign key)
    (hpolicies : (f s.toWorld).2.policies = s.policies) (hlog : s.log <:+ (f s.toWorld).2.log) :
    Apart key s (fe.host.lift f s).2 := by
  refine ⟨?_, hlog, rfl⟩
  intro zone policy hpolicy
  exact h zone policy (hpolicies ▸ hpolicy)

end Apart

/-! ## The rule -/

def ZonePolicy.Admits (admits : String → Args → Prop) (p : ZonePolicy) : Prop :=
  ∀ axis, ∀ ra ∈ p.stack axis, admits ra.computerName ra.args

namespace ZonePolicy

variable {admits : String → Args → Prop} {p : ZonePolicy}

theorem admits_empty (admits : String → Args → Prop) : ({} : ZonePolicy).Admits admits := by
  intro axis ra hra
  simp [stack] at hra

theorem Admits.removeExpired (h : p.Admits admits) (now : Time) :
    (p.removeExpired now).Admits admits := by
  intro axis ra hra
  rw [stack_removeExpired] at hra
  split at hra
  · exact h axis ra (List.mem_filter.mp hra).1
  · exact h axis ra hra

theorem Admits.push (h : p.Admits admits) {env : Env} {axis : AxisKind} {act : Activation}
    {p' : ZonePolicy} (hact : admits act.computerName act.args)
    (hpush : p.pushActivation env axis act = .ok p') : p'.Admits admits := by
  unfold pushActivation at hpush
  split at hpush
  · cases hpush
  · split at hpush
    · cases hpush
    · cases hpush
      intro b ra hra
      rw [stack_insert] at hra
      split at hra
      · exact AxisStack.forall_mem_push (fun _ _ _ he => he) hact (h axis) ra hra
      · exact h b ra hra

theorem Admits.top (h : p.Admits admits) {now : Time} {top : AxisKind × RuntimeActivation}
    (htop : top ∈ p.activeContributorsByAxis now) : admits top.2.computerName top.2.args := by
  obtain ⟨axis, ra⟩ := top
  rw [mem_activeContributorsByAxis_iff] at htop
  exact h axis ra (AxisStack.live_of_top htop).1

end ZonePolicy

/-- What the steps of the operations on `zone` make of a good world stands in `R` to it;
`admits` tells the calls of Computers. -/
structure FadeRule (fe : FadeEnv) (zone : String) (admits : String → Args → Prop)
    (good : FadeWorld → Prop) (R : FadeWorld → FadeWorld → Prop) : Prop where
  refl : ∀ s, good s → R s s
  trans : ∀ {s t u}, R s t → R t u → R s u
  keeps : ∀ {s t}, R s t → good t
  entries : ∀ s, good s → ∀ policy, s.policies.lookup zone = some policy → policy.Admits admits
  call : ∀ s, good s → ∀ name args, admits name args → ∀ comp now,
    R s (fe.invoke name comp now args s).2
  policy : ∀ s, good s → ∀ n, s.tick ≤ n → ∀ policy, policy.Admits admits → ∀ timers,
    R s { s with tick := n, policies := s.policies.insert zone policy, ttlTimers := timers }
  next : ∀ s, good s → R s s.next
  send : ∀ s, good s → ∀ vals, R s (fe.host.lift (World.send fe.env (.applyValues zone vals)) s).2
  applied : ∀ s, good s → ∀ target,
    R s { s with lastApplied := s.lastApplied.insert zone target }

namespace FadeRule

variable {fe : FadeEnv} {zone : String} {admits : String → Args → Prop} {good : FadeWorld → Prop}
  {R : FadeWorld → FadeWorld → Prop} {s : FadeWorld}

section

variable (r : FadeRule fe zone admits good R)
include r

theorem andThen {t u : FadeWorld} (hst : R s t)
    (htu : good t → R t u) : R s u :=
  r.trans hst (htu (r.keeps hst))

theorem foldTops (now : Time)
    {tops : List (AxisKind × RuntimeActivation)}
    (htops : ∀ top ∈ tops, admits top.2.computerName top.2.args) (target : ApplyValues)
    (h : good s) : R s (ZonePolicy.foldTops fe now tops target s).2 := by
  induction tops generalizing target s with
  | nil => exact r.refl s h
  | cons top _ ih =>
    obtain ⟨axis, ra⟩ := top
    obtain ⟨hra, hrest⟩ := List.forall_mem_cons.mp htops
    have hcall := r.call s h _ _ hra ra.resolved now
    simp only [ZonePolicy.foldTops]
    generalize fe.invoke ra.computerName ra.resolved now ra.args s = result at hcall ⊢
    obtain ⟨message | val, t⟩ := result
    · exact hcall
    · exact r.andThen hcall (ih hrest _)

theorem applyTarget (h : good s) (target : ApplyValues) :
    R s (fe.host.lift (Conditioner.applyTarget fe.env zone target) s).2 := by
  have hsend := r.send s h target
  unfold Conditioner.applyTarget Host.lift
  dsimp only
  split
  · exact r.refl s h
  · split
    · exact r.refl s h
    · simp only [World.send, Host.lift] at hsend ⊢
      cases (fe.env.rpc s.tick (.applyValues zone target)).error with
      | some => exact hsend
      | none => exact r.andThen hsend fun h => r.applied _ h _

theorem reconcileZone (h : good s) (now : Time) :
    R s (Conditioner.reconcileZone fe zone now s).2 := by
  simp only [Conditioner.reconcileZone]
  cases hpolicy : s.policies.lookup zone with
  | none => exact r.refl s h
  | some policy =>
    have hadmits := (r.entries s h policy hpolicy).removeExpired now
    dsimp only
    -- the clean-up, the composition, and then the request
    refine r.andThen (r.policy s h s.tick (le_refl _) _ hadmits s.ttlTimers) fun h => ?_
    generalize ({ s with policies := s.policies.insert zone (policy.removeExpired now) } :
      FadeWorld) = t at h ⊢
    have htops :
        R t (ZonePolicy.applyTopToValues fe (policy.removeExpired now) now t).2 := by
      refine r.andThen (r.next t h) (r.foldTops now (fun top htop => ?_) _)
      exact hadmits.top ((fe.env.range.mem_order_iff _).mp htop)
    generalize ZonePolicy.applyTopToValues fe (policy.removeExpired now) now t = result
      at htops ⊢
    obtain ⟨e | target, u⟩ := result
    · exact htops
    · exact r.andThen htops fun h => r.applyTarget h target

theorem reconcileTick (h : good s) : R s (FadeWorld.reconcileTick fe s zone) :=
  r.andThen (r.next s h) fun h => r.reconcileZone h _

theorem reconcileNow (h : good s) (wrap : Error → Error) :
    R s (Conditioner.reconcileNow fe zone wrap s).2 := by
  have hreconcile := r.reconcileTick h
  unfold FadeWorld.reconcileTick at hreconcile
  simp only [Conditioner.reconcileNow]
  generalize Conditioner.reconcileZone fe zone (fe.env.clock s.tick) s.next = result
    at hreconcile ⊢
  obtain ⟨_ | e, t⟩ := result
  · exact hreconcile
  · exact hreconcile

theorem pushActivation (h : good s) {act : Activation}
    (hact : admits act.computerName act.args) (axis : AxisKind) :
    R s (Conditioner.pushActivation fe zone axis (some act) s).2 := by
  simp only [Conditioner.pushActivation]
  split
  · exact r.refl s h
  · split
    · exact r.refl s h
    · have hold : ((s.policies.lookup zone).getD {}).Admits admits := by
        cases hpolicy : s.policies.lookup zone with
        | none => exact ZonePolicy.admits_empty admits
        | some policy => exact r.entries s h policy hpolicy
      cases hpush : ((s.policies.lookup zone).getD {}).pushActivation fe.env axis act with
      | error => exact r.policy s h s.tick (le_refl _) _ hold s.ttlTimers
      | ok policy =>
        obtain ⟨n, timers, hn, harm⟩ := armTimer_world fe.env zone axis act
          { s.toWorld with policies := s.policies.insert zone policy }
        have hpolicy := r.policy s h n hn policy (hold.push hact hpush) timers
        dsimp only at harm ⊢
        rw [harm]
        exact r.andThen hpolicy fun h => r.reconcileNow h .reconcileAfterPush

/-! ## The bridges -/

variable {activation : Claim → Activation} {claims : List Claim}

theorem pushClaims (hclaims : ∀ c ∈ claims, admits (activation c).computerName (activation c).args)
    (h : good s) : R s (Conditioner.pushClaims fe zone activation claims s) := by
  induction claims generalizing s with
  | nil => exact r.refl s h
  | cons c _ ih =>
    obtain ⟨hc, hrest⟩ := List.forall_mem_cons.mp hclaims
    exact r.andThen (r.pushActivation h hc c.axis) (ih hrest)

theorem pushClaimsUntilError
    (hclaims : ∀ c ∈ claims, admits (activation c).computerName (activation c).args)
    (h : good s) : R s (Conditioner.pushClaimsUntilError fe zone activation claims s).2 := by
  induction claims generalizing s with
  | nil => exact r.refl s h
  | cons c _ ih =>
    obtain ⟨hc, hrest⟩ := List.forall_mem_cons.mp hclaims
    have hpush := r.pushActivation h hc c.axis
    simp only [Conditioner.pushClaimsUntilError]
    generalize Conditioner.pushActivation fe zone c.axis (some (activation c)) s = result
      at hpush ⊢
    obtain ⟨_ | e, t⟩ := result
    · exact r.andThen hpush (ih hrest)
    · exact hpush

end

end FadeRule

theorem stateClaims_static (rem : Remediation) :
    ∀ c ∈ stateClaims rem, c.computerName = staticName := by
  intro c hc
  unfold stateClaims at hc
  split at hc
  · rw [List.mem_singleton.mp hc]
    rfl
  · cases hc

theorem sceneClaims_static (scene : Scene) :
    ∀ c ∈ sceneClaims scene, c.computerName = staticName := by
  intro c hc
  have hgroup : ∀ (present : Prop) [Decidable present] (axis : AxisKind) (k v : String),
      c ∈ (if present then [Claim.static axis k v] else []) → c.computerName = staticName := by
    intro present _ axis k v hmem
    split at hmem
    · rw [List.mem_singleton.mp hmem]
      rfl
    · cases hmem
  simp only [sceneClaims, List.mem_append] at hc
  rcases hc with (hc | hc) | hc
  · exact hgroup _ _ _ _ hc
  · exact hgroup _ _ _ _ hc
  · exact hgroup _ _ _ _ hc

theorem admits_of_static {admits : String → Args → Prop} (hstatic : ∀ args, admits staticName args)
    {claims : List Claim} (hall : ∀ c ∈ claims, c.computerName = staticName) :
    ∀ c ∈ claims, admits c.computerName c.args := by
  intro c hc
  rw [hall c hc]
  exact hstatic _

theorem admits_computeClaims {admits : String → Args → Prop} {condName : String}
    {rem : Remediation} (hrem : admits rem.activeCompute (augmentedArgs condName rem))
    (out : ApplyValues) : ∀ c ∈ computeClaims condName rem out, admits c.computerName c.args := by
  intro c hc
  obtain ⟨axis, _, rfl⟩ := List.mem_map.mp hc
  exact hrem

namespace FadeRule

variable {fe : FadeEnv} {admits : String → Args → Prop} {good : FadeWorld → Prop}
  {R : FadeWorld → FadeWorld → Prop} {s : FadeWorld} {condName : String} {rem : Remediation}

section

variable (r : FadeRule fe rem.zone admits good R)
include r

section

variable (h : good s) (hrem : admits rem.activeCompute (augmentedArgs condName rem))
include h hrem

theorem bridgeReconciledRemediation (hstatic : ∀ args, admits staticName args) :
    R s (Conditioner.bridgeReconciledRemediation fe condName rem s) := by
  have hclaims := fun {claims} => @admits_of_static admits hstatic claims
  simp only [Conditioner.bridgeReconciledRemediation]
  refine r.andThen (r.next s h) fun h => ?_
  split
  · exact r.refl _ h
  · split
    · simp only [Conditioner.bridgeActiveCompute]
      split
      · exact r.refl _ h
      · rename_i comp _
        have hcall := r.call s.next h _ _ hrem comp (fe.env.clock s.tick)
        generalize fe.invoke rem.activeCompute comp (fe.env.clock s.tick)
          (augmentedArgs condName rem) s.next = result at hcall ⊢
        obtain ⟨message | out, t⟩ := result
        · exact hcall
        · exact r.andThen hcall (r.pushClaims (admits_computeClaims hrem out))
    · have hstate := @pushClaims _ _ _ _ _ _ r
        (timeWindowActivation fe.env condName (fe.env.clock s.tick) bridgeScenePriority) _
        (hclaims (stateClaims_static rem)) h
      split
      · refine r.andThen hstate fun h => ?_
        simp only [Conditioner.bridgeActiveScene]
        split
        · exact r.refl _ h
        · exact r.pushClaims (hclaims (sceneClaims_static _)) h
      · exact hstate

theorem bridgeImperativeActivate (hstatic : ∀ args, admits staticName args) (src : SourceKind) :
    R s (Conditioner.bridgeImperativeActivate fe condName rem src s).2 := by
  have hclaims := fun {claims} => @admits_of_static admits hstatic claims
  simp only [Conditioner.bridgeImperativeActivate]
  refine r.andThen (r.next s h) fun h => ?_
  split
  · split
    · exact r.refl _ h
    · rename_i comp _
      have hcall := r.call s.next h _ _ hrem comp (fe.env.clock s.tick)
      generalize fe.invoke rem.activeCompute comp (fe.env.clock s.tick)
        (augmentedArgs condName rem) s.next = result at hcall ⊢
      obtain ⟨message | out, t⟩ := result
      · exact hcall
      · exact r.andThen hcall (r.pushClaimsUntilError (admits_computeClaims hrem out))
  · have hstate := @pushClaimsUntilError _ _ _ _ _ _ r
      (imperativeActivation fe.env condName (fe.env.clock s.tick) src) _
      (hclaims (stateClaims_static rem)) h
    generalize Conditioner.pushClaimsUntilError fe rem.zone
      (imperativeActivation fe.env condName (fe.env.clock s.tick) src) (stateClaims rem) s.next =
      result at hstate ⊢
    obtain ⟨_ | e, t⟩ := result
    · refine r.andThen hstate fun h => ?_
      dsimp only
      split
      · split
        · exact r.refl _ h
        · exact r.pushClaimsUntilError (hclaims (sceneClaims_static _)) h
      · exact r.refl _ h
    · exact hstate

theorem computeAndApply : R s (FadeWorld.computeAndApply fe condName rem s).2 := by
  unfold FadeWorld.computeAndApply
  split
  · exact r.refl s h
  · rename_i comp _
    have hcall := r.andThen (r.next s h) fun h =>
      r.call s.next h _ _ hrem comp (fe.env.clock s.tick)
    generalize fe.invoke rem.activeCompute comp (fe.env.clock s.tick)
      (augmentedArgs condName rem) s.next = result at hcall ⊢
    obtain ⟨message | vals, t⟩ := result
    · exact hcall
    · exact r.andThen hcall fun h => r.send t h vals

theorem evaluateCompute : R s (FadeWorld.evaluateCompute fe condName rem s).2 := by
  unfold FadeWorld.evaluateCompute
  split
  · exact r.computeAndApply h hrem
  · split
    · exact r.andThen (r.next s h) fun h => r.computeAndApply h hrem
    · exact r.next s h

end

theorem evaluateRemediation (h : good s) {cond : Condition}
    (hstatic : ∀ args, admits staticName args)
    (hrem : admits rem.activeCompute (augmentedArgs cond.name rem))
    (hactivate : isReconcileManaged fe.env rem.zone = false → ∀ s, good s →
      R s (Conditioner.activateInWindow fe cond.name rem .binding s).2)
    (sensorBound : String → Bool) :
    R s (FadeWorld.evaluateRemediation fe sensorBound cond s rem) := by
  unfold FadeWorld.evaluateRemediation
  split
  · split
    · exact r.refl s h
    · split
      · exact r.bridgeReconciledRemediation h hrem hstatic
      · split
        · exact r.bridgeReconciledRemediation h hrem hstatic
        · exact r.refl s h
  · rename_i hzone
    have hwindow := hactivate (by simpa using hzone)
    split
    · exact r.evaluateCompute h hrem
    · split
      · simp only [Conditioner.activateRemediation, Conditioner.activateRemediationFromSource]
        split
        · exact hwindow s h
        · split
          · exact r.andThen (r.next s h) (hwindow s.next)
          · exact r.next s h
      · exact r.refl s h

end

end FadeRule

namespace FadeWorld

variable {key : String × String} {s : FadeWorld}

theorem fadeRule_apart (fe : FadeEnv) (zone : String) (key : String × String) :
    FadeRule fe zone (fun name args => name = fadeName → snapshotKey args ≠ key) (Foreign key)
      (Apart key) where
  refl _ h := Apart.refl h
  trans hst htu := hst.trans htu
  keeps h := h.foreign
  entries _ h := h zone
  call s h name args hargs comp now := by
    unfold FadeEnv.invoke
    split
    · rename_i hname
      exact ⟨h, List.suffix_refl _, lookup_fadeCompute_of_ne (hargs hname).symm _ _ _ _⟩
    · exact Apart.next h
  policy s h _ _ policy hpolicy _ := by
    refine ⟨fun z q hq => ?_, List.suffix_refl _, rfl⟩
    replace hq : (s.policies.insert zone policy).lookup z = some q := hq
    rw [GoMap.lookup_insert_eq] at hq
    split at hq
    · cases hq
      exact hpolicy
    · exact h z q hq
  next _ h := Apart.next h
  send _ h _ := ⟨h, List.suffix_cons _ _, rfl⟩
  applied _ h _ := ⟨h, List.suffix_refl _, rfl⟩

variable (fe : FadeEnv) {rem : Remediation}

theorem activateInWindow_of_not_managed (hzone : isReconcileManaged fe.env rem.zone = false)
    (condName : String) (src : SourceKind) (s : FadeWorld) :
    activateInWindow fe condName rem src s =
      fe.host.lift (activateInWindow fe.env condName rem src) s := by
  simp only [activateInWindow, hzone, Host.lift]
  split
  · rfl
  · rfl

theorem activateInWindow_policies {env : Env} (hzone : isReconcileManaged env rem.zone = false)
    (condName : String) (src : SourceKind) (w : World) :
    (Conditioner.activateInWindow env condName rem src w).2.policies = w.policies := by
  simp only [Conditioner.activateInWindow, hzone]
  split
  · rfl
  · exact applyDesired_policies env condName rem.zone _ w

theorem evaluateRemediation_apart (h : s.Foreign key) {cond : Condition}
    (hrem : rem.activeCompute = fadeName → (cond.name, rem.zone) ≠ key)
    (sensorBound : String → Bool) :
    Apart key s (evaluateRemediation fe sensorBound cond s rem) := by
  refine (fadeRule_apart fe _ key).evaluateRemediation h (fun _ hname => absurd hname (by decide))
    (by rwa [snapshotKey_augmentedArgs]) (fun hzone t ht => ?_) sensorBound
  rw [activateInWindow_of_not_managed fe hzone]
  obtain ⟨sent, hlog, -⟩ := (activateInWindow_frame fe.env cond.name rem .binding t.toWorld).1.log
  exact Apart.lift fe ht (activateInWindow_policies hzone cond.name .binding t.toWorld)
    ⟨sent, hlog.symm⟩

end FadeWorld

end IotController.Conditioner
