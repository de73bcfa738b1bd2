/-
  The imperative bridge and the removal
  among other callers.

  `bridgeImperativeActivate` and `RemoveActivation` hold no lock from one step to
  the next, so other callers push, remove and reconcile in between.  `Amid` is a
  world together with what those callers still do; as a host it lets them in at
  every point where `Bridge.lean` and `Reconciler.lean` hold no lock.
-/
import IotController.Conditioner.Commutation

namespace IotController.Conditioner

open Foundation Api Proto Compute

/-! ## The model -/

/-- A world, and the operations of other callers for each point at which they are let in. -/
structure Amid where
  world : World
  gaps : List (List ReconcilerEvent)

namespace Amid

def letIn (env : Env) (m : Amid) : Amid :=
  match m.gaps with
  | [] => m
  | ops :: rest => { world := run (reconcilerStep env) m.world ops, gaps := rest }

def next (m : Amid) : Amid := { m with world := m.world.next }

def finish (env : Env) (m : Amid) : World := run (reconcilerStep env) m.world m.gaps.flatten

abbrev host (env : Env) : Host Amid where
  env := env
  world m := m.world
  put s m := { m with world := s }
  next m := m.next
  invoke _ comp now args m := (comp.compute m.world.tick now env.cfg.location args, m.next)
  letIn m := m.letIn env

end Amid

def activateThenRemove (env : Env) (condName : String) (rem : Remediation) (src : SourceKind)
    (gaps : List (List ReconcilerEvent)) (s : World) : World :=
  let m := (bridgeImperativeActivate (Amid.host env) condName rem src ⟨s, gaps⟩).2
  (removeActivation (Amid.host env) rem.zone src condName m).2.finish env

/-! ## A reconcile is one step

Others come before it or after it. -/

section OneStep

variable (env : Env)

theorem Amid.foldTops_host (now : Time) (tops : List (AxisKind × RuntimeActivation))
    (target : ApplyValues) (m : Amid) :
    ZonePolicy.foldTops (Amid.host env) now tops target m =
      (Amid.host env).lift (ZonePolicy.foldTops env now tops target) m := by
  induction tops generalizing target m with
  | nil => rfl
  | cons top _ ih =>
    obtain ⟨axis, ra⟩ := top
    cases hout : ra.resolved.compute m.world.tick now env.cfg.location ra.args with
    | error => simp only [ZonePolicy.foldTops, Host.lift, hout, Amid.next]
    | ok =>
      simp only [ZonePolicy.foldTops, Host.lift, hout, ih]
      rfl

theorem Amid.reconcileZone_host (zone : String) (now : Time) (m : Amid) :
    reconcileZone (Amid.host env) zone now m =
      (Amid.host env).lift (reconcileZone env zone now) m := by
  cases hpolicy : m.world.policies.lookup zone with
  | none => simp only [reconcileZone, Host.lift, hpolicy]
  | some policy =>
    simp only [reconcileZone, ZonePolicy.applyTopToValues, Amid.foldTops_host, Amid.next,
      Host.lift, hpolicy]
    generalize ZonePolicy.foldTops (World.host env) now _ _ _ = result
    obtain ⟨target | target, t⟩ := result <;> rfl

theorem Amid.reconcileNow_host (zone : String) (wrap : Error → Error) (m : Amid) :
    reconcileNow (Amid.host env) zone wrap m =
      (Amid.host env).lift (reconcileNow env zone wrap) m := by
  simp only [reconcileNow, Amid.reconcileZone_host, Host.lift, Amid.next]
  generalize reconcileZone env zone (env.clock m.world.tick) m.world.next = result
  obtain ⟨e | e, t⟩ := result <;> rfl

end OneStep

/-! ## The run of the others alone -/

/-- The others have done part of `ops`; `P` relates the world to the one they alone would have
left. -/
def Tracks (env : Env) (u : Time) (ops : List ReconcilerEvent) (P : World → World → Prop)
    (s : World) (m : Amid) : Prop :=
  ∃ done, ops = done ++ m.gaps.flatten ∧
    (SettledAt env u m.world → SettledAt env u (run (reconcilerStep env) s done) →
      P m.world (run (reconcilerStep env) s done))

theorem reconcilerStep_tick (env : Env) (s : World) (e : ReconcilerEvent) :
    s.tick ≤ (reconcilerStep env s e).tick := by
  cases e with
  | push zone axis act => exact (pushActivation_frame env zone axis act s).tick
  | remove zone kind name => exact (removeActivation_frame env zone kind name s).tick
  | reconcile zone now => exact (reconcileZone_frame env zone now s).tick

variable {env : Env} {u : Time} {zone : String} {w : World}

section Related

variable {ops : List ReconcilerEvent} {P Q : World → World → Prop} {s t : World} {m : Amid}

theorem Tracks.own (h : Tracks env u ops P s m) (htick : m.world.tick ≤ t.tick)
    (hown : ∀ b, P m.world b → SettledAt env u t → Q t b) :
    Tracks env u ops Q s { m with world := t } := by
  obtain ⟨done, hdone, hP⟩ := h
  exact ⟨done, hdone, fun ht hb => hown _ (hP (ht.mono htick) hb) ht⟩

variable (hstep : ∀ a b e, e ∈ ops → P a b → SettledAt env u (reconcilerStep env a e) →
  SettledAt env u (reconcilerStep env b e) → P (reconcilerStep env a e) (reconcilerStep env b e))

include hstep

theorem run_related :
    ∀ (events : List ReconcilerEvent) (a b : World), (∀ e ∈ events, e ∈ ops) →
      (SettledAt env u a → SettledAt env u b → P a b) →
      SettledAt env u (run (reconcilerStep env) a events) →
      SettledAt env u (run (reconcilerStep env) b events) →
      P (run (reconcilerStep env) a events) (run (reconcilerStep env) b events) := by
  intro events
  induction events with
  | nil => intro a b _ hP ha hb; exact hP ha hb
  | cons e _ ih =>
    intro a b hmem hP ha hb
    refine ih _ _ (fun e' he' => hmem e' (List.mem_cons_of_mem _ he')) (fun ha' hb' => ?_) ha hb
    exact hstep a b e (hmem e List.mem_cons_self)
      (hP (ha'.mono (reconcilerStep_tick env a e)) (hb'.mono (reconcilerStep_tick env b e)))
      ha' hb'

theorem Tracks.letIn (h : Tracks env u ops P s m) : Tracks env u ops P s (m.letIn env) := by
  obtain ⟨done, hdone, hP⟩ := h
  unfold Amid.letIn
  split
  · exact ⟨done, hdone, hP⟩
  · rename_i events rest hgaps
    rw [hgaps, List.flatten_cons, ← List.append_assoc] at hdone
    refine ⟨done ++ events, hdone, ?_⟩
    rw [run_append]
    refine run_related hstep events _ _ (fun e he => ?_) hP
    rw [hdone]
    exact List.mem_append_left _ (List.mem_append_right _ he)

theorem Tracks.finish (h : Tracks env u ops P s m) (hu : SettledAt env u (m.finish env))
    (hu' : SettledAt env u (run (reconcilerStep env) s ops)) :
    P (m.finish env) (run (reconcilerStep env) s ops) := by
  obtain ⟨done, hdone, hP⟩ := h
  have hrun : run (reconcilerStep env) s ops =
      run (reconcilerStep env) (run (reconcilerStep env) s done) m.gaps.flatten := by
    rw [← run_append, ← hdone]
  rw [hrun] at hu' ⊢
  refine run_related hstep _ _ _ (fun e he => ?_) hP hu hu'
  rw [hdone]
  exact List.mem_append_right _ he

end Related

/-! ## The steps of the caller -/

theorem ZonePolicy.pushActivation_eq_ok {p p' : ZonePolicy} {axis : AxisKind} {act : Activation}
    (h : p.pushActivation env axis act = .ok p') :
    ∃ comp, env.getComputer act.computerName = some comp ∧
      p' = ⟨p.axisStacks.insert axis
        (AxisStack.push (ZonePolicy.resolve comp act) (p.stack axis))⟩ := by
  unfold ZonePolicy.pushActivation at h
  split at h
  · cases h
  · split at h
    · cases h
    · rename_i comp hcomp
      cases h
      exact ⟨comp, hcomp, rfl⟩

theorem armTimer_tick (env : Env) (zone : String) (axis : AxisKind) (act : Activation)
    (w : World) : w.tick ≤ (armTimer env zone axis act w).tick := by
  obtain ⟨n, timers, hn, harmed⟩ := armTimer_world env zone axis act w
  rw [harmed]
  exact hn

theorem Affected.of_stackAt {effs : AxisKind → StackEffect} {t : World}
    (h : ∀ a, t.stackAt zone a = (effs a).apply (w.stackAt zone a)) :
    Affected env u zone effs w t :=
  ⟨fun a => by rw [h a], fun a => by rw [h a]⟩

theorem affected_push {axis : AxisKind} {act : Activation} {p' : ZonePolicy} {comp : Computer}
    (hp' : p' = ⟨((w.policies.lookup zone).getD {}).axisStacks.insert axis
      (AxisStack.push (ZonePolicy.resolve comp act)
        (((w.policies.lookup zone).getD {}).stack axis))⟩) :
    Affected env u zone
      (fun a => if a = axis then .push (ZonePolicy.resolve comp act) else .keep) w
      (armTimer env zone axis act { w with policies := w.policies.insert zone p' }) := by
  refine Affected.of_stackAt fun a => ?_
  obtain ⟨n, timers, -, harmed⟩ := armTimer_world env zone axis act
    { w with policies := w.policies.insert zone p' }
  rw [harmed, World.stackAt_of_insert (s := w) rfl, if_pos rfl, hp', ZonePolicy.stack_insert,
    World.stackAt_eq_getD]
  by_cases ha : a = axis
  · subst ha
    simp only [if_true, StackEffect.apply]
  · simp only [ha, if_false, StackEffect.apply]

theorem affected_reconcileNow (zone : String) (wrap : Error → Error)
    (hu : SettledAt env u (reconcileNow env zone wrap w).2) :
    Affected env u zone (fun _ => .keep) w (reconcileNow env zone wrap w).2 := by
  have hnow : env.clock w.tick ≤ u := hu w.tick (reconcileNow_tick env zone wrap rfl)
  refine ⟨fun a => ?_, fun a => ?_⟩
  · rw [reconcileNow_stackAt]
    exact AxisStack.cleaned_sublist a _ _
  · rw [reconcileNow_stackAt, AxisStack.live_cleaned hnow]
    rfl

theorem affected_remove (id : String) {policy : ZonePolicy}
    (hpolicy : w.policies.lookup zone = some policy) :
    Affected env u zone (fun _ => .remove id) w
      { w with policies := w.policies.insert zone (policy.removeByID id) } := by
  refine Affected.of_stackAt fun a => ?_
  rw [World.stackAt_of_insert (s := w) rfl, if_pos rfl, ZonePolicy.stack_removeByID]
  simp only [World.stackAt, hpolicy, StackEffect.apply]

/-- No stack of the zone has an entry of the source. -/
def FreeOf (zone id : String) (w : World) : Prop :=
  ∀ axis, id ∉ (w.stackAt zone axis).map RuntimeActivation.id

theorem FreeOf.affected {id : String} {effs : AxisKind → StackEffect} {t : World}
    (h : FreeOf zone id w) (haffected : Affected env u zone effs w t)
    (hspares : ∀ axis, (effs axis).Spares id) : FreeOf zone id t := by
  intro axis hmem
  have hmem' := ((haffected.sublist axis).map RuntimeActivation.id).subset hmem
  have haxis := hspares axis
  cases heff : effs axis with
  | keep =>
    rw [heff] at hmem'
    exact h axis hmem'
  | push =>
    rw [heff] at hmem' haxis
    rw [StackEffect.apply, AxisStack.map_id_push] at hmem'
    split at hmem'
    · exact h axis hmem'
    · rcases List.mem_append.mp hmem' with hold | hnew
      · exact h axis hold
      · exact haxis (List.mem_singleton.mp hnew).symm
  | remove =>
    rw [heff] at hmem'
    exact h axis ((List.eraseP_sublist.map RuntimeActivation.id).subset hmem')

section Caller

variable {env : Env} {u : Time} {zone condName : String} {src : SourceKind}
  {ops : List ReconcilerEvent} {s : World} {m : Amid}

theorem fitsIn_own (hspares : ∀ e ∈ ops, e.SparesSource zone src condName u)
    {ra : RuntimeActivation} (hid : ra.id = activationID src condName) (axis : AxisKind) :
    FitsIn ops zone axis ra := by
  intro act hact hsame
  obtain ⟨hkind, hname⟩ := activationID_inj (hid.symm.trans hsame)
  exact absurd ⟨hkind.symm, hname.symm⟩ (hspares _ hact rfl)

theorem Erased.keep {full full' rest : World} {id : String}
    (h : Erased env u zone id ops full rest)
    (haffected : Affected env u zone (fun _ => .keep) full full') :
    Erased env u zone id ops full' rest :=
  h.own haffected (fun _ => trivial) (fun _ _ heff => by cases heff) (fun _ _ heff => by cases heff)

/-- The caller is ahead of the others alone by entries of its own. -/
abbrev OwnTracks (env : Env) (u : Time) (zone : String) (src : SourceKind) (condName : String)
    (ops : List ReconcilerEvent) : World → Amid → Prop :=
  Tracks env u ops (Erased env u zone (activationID src condName) ops)

variable (hpushes : PushesAgree ops zone)
  (hspares : ∀ e ∈ ops, e.SparesSource zone src condName u)

include hpushes hspares

theorem erased_other (a b : World) (e : ReconcilerEvent) (he : e ∈ ops)
    (h : Erased env u zone (activationID src condName) ops a b)
    (hu : SettledAt env u (reconcilerStep env a e))
    (hu' : SettledAt env u (reconcilerStep env b e)) :
    Erased env u zone (activationID src condName) ops (reconcilerStep env a e)
      (reconcilerStep env b e) :=
  h.other hpushes he (hspares e he) hu hu'

theorem Tracks.pushActivation {act : Activation} (hkind : act.sourceKind = src)
    (hname : act.sourceName = condName) (axis : AxisKind)
    (h : OwnTracks env u zone src condName ops s m) :
    OwnTracks env u zone src condName ops s
      (pushActivation (Amid.host env) zone axis (some act) m).2 := by
  have hin := h.letIn (erased_other hpushes hspares)
  simp only [Conditioner.pushActivation, Amid.reconcileNow_host]
  generalize m.letIn env = m' at hin
  split
  · exact hin
  · split
    · exact hin
    · split
      · -- the push is refused, the policy exists from now on
        refine hin.own (le_refl _) fun b hb _ => hb.keep (Affected.of_stackAt fun a => ?_)
        exact World.stackAt_of_created rfl a
      · rename_i policy hpolicy
        obtain ⟨comp, hcomp, hp'⟩ := ZonePolicy.pushActivation_eq_ok hpolicy
        have hid : (ZonePolicy.resolve comp act).id = activationID src condName := by
          rw [← hkind, ← hname]
          rfl
        let w : World := { m'.world with policies := m'.world.policies.insert zone policy }
        have htick : m'.world.tick ≤ (armTimer env zone axis act w).tick :=
          armTimer_tick env zone axis act w
        have hpushed : OwnTracks env u zone src condName ops s
            { m' with world := armTimer env zone axis act w } := by
          refine hin.own htick fun b hb _ => hb.own (affected_push hp') (fun a => ?_)
            (fun a ra heff => ?_) (fun a ra heff => ?_)
          · by_cases ha : a = axis
            · rw [if_pos ha]
              exact hid
            · rw [if_neg ha]
              trivial
          · split at heff
            · cases heff
              exact ⟨rfl, hcomp⟩
            · cases heff
          · split at heff
            · cases heff
              exact fitsIn_own hspares hid a
            · cases heff
        have hwoken := hpushed.letIn (erased_other hpushes hspares)
        refine hwoken.own (reconcileNow_frame env zone _ _).tick fun b hb hu => ?_
        exact hb.keep (affected_reconcileNow zone _ hu)

theorem Tracks.pushClaimsUntilError {now : Time} (claims : List Claim)
    (h : OwnTracks env u zone src condName ops s m) :
    OwnTracks env u zone src condName ops s
      (pushClaimsUntilError (Amid.host env) zone (imperativeActivation env condName now src) claims
        m).2 := by
  induction claims generalizing m with
  | nil => exact h
  | cons c _ ih =>
    have hkind : (imperativeActivation env condName now src c).sourceKind = src := rfl
    have hpush := h.pushActivation hpushes hspares hkind rfl c.axis
    simp only [Conditioner.pushClaimsUntilError]
    revert hpush
    generalize Conditioner.pushActivation (Amid.host env) zone c.axis
      (some (imperativeActivation env condName now src c)) m = result
    obtain ⟨_ | e, m'⟩ := result
    · intro hpush; exact ih hpush
    · intro hpush; exact hpush

theorem Tracks.bridgeImperativeActivate {rem : Remediation} (hzone : rem.zone = zone)
    (h : OwnTracks env u zone src condName ops s m) :
    OwnTracks env u zone src condName ops s
      (bridgeImperativeActivate (Amid.host env) condName rem src m).2 := by
  subst hzone
  have hother := @erased_other env u _ _ _ _ hpushes hspares
  have hnext : ∀ m', OwnTracks env u rem.zone src condName ops s m' →
      OwnTracks env u rem.zone src condName ops s m'.next :=
    fun m' hm' => hm'.own (Nat.le_succ _) fun b hb _ =>
      hb.keep (Affected.of_stackAt fun _ => rfl)
  have hstart := (hnext _ (h.letIn hother)).letIn hother
  simp only [Conditioner.bridgeImperativeActivate]
  generalize env.clock (m.letIn env).world.tick = now
  generalize (m.letIn env).next.letIn env = m' at hstart
  split
  · split
    · exact hstart
    · split <;> rename_i heq <;> obtain ⟨-, rfl⟩ := Prod.mk.inj heq
      · exact hnext _ hstart
      · exact (hnext _ hstart).pushClaimsUntilError hpushes hspares _
  · have hstate : OwnTracks env u rem.zone src condName ops s
        (Conditioner.pushClaimsUntilError (Amid.host env) rem.zone
          (imperativeActivation env condName now src) (stateClaims rem) m').2 :=
      hstart.pushClaimsUntilError hpushes hspares _
    revert hstate
    generalize Conditioner.pushClaimsUntilError (Amid.host env) rem.zone
      (imperativeActivation env condName now src) (stateClaims rem) m' = result
    obtain ⟨_ | e, m''⟩ := result
    · intro hstate
      have hscene := hstate.letIn hother
      simp only
      split
      · split
        · exact hscene
        · exact hscene.pushClaimsUntilError hpushes hspares _
      · exact hscene
    · intro hstate; exact hstate

theorem Tracks.removeActivation
    (h : OwnTracks env u zone src condName ops s m) :
    Tracks env u ops (fun a b => Erased env u zone (activationID src condName) ops a b ∧
      FreeOf zone (activationID src condName) a) s
      (removeActivation (Amid.host env) zone src condName m).2 := by
  have hin := h.letIn (erased_other hpushes hspares)
  simp only [Conditioner.removeActivation, Amid.reconcileNow_host]
  generalize m.letIn env = m' at hin
  split
  · rename_i hpolicy
    refine hin.own (le_refl _) fun b hb _ => ⟨hb, fun axis => ?_⟩
    simp [World.stackAt, hpolicy]
  · rename_i policy hpolicy
    let w : World :=
      { m'.world with
        policies := m'.world.policies.insert zone
          (policy.removeByID (activationID src condName)) }
    have haffected : Affected env u zone (fun _ => .remove (activationID src condName))
        m'.world w := affected_remove _ hpolicy
    have hremoved : Tracks env u ops (fun a b =>
        Erased env u zone (activationID src condName) ops a b ∧
          FreeOf zone (activationID src condName) a) s { m' with world := w } := by
      refine hin.own (le_refl _) fun b hb _ => ⟨hb.own haffected (fun _ => rfl)
        (fun _ _ heff => by cases heff) (fun _ _ heff => by cases heff), fun axis hmem => ?_⟩
      obtain ⟨e, he, hid⟩ := List.mem_map.mp hmem
      exact ((mem_eraseP_key_iff (hb.valid axis).distinct).mp
        ((haffected.sublist axis).subset he)).2 hid
    have hother : ∀ a b e, e ∈ ops →
        (Erased env u zone (activationID src condName) ops a b ∧
          FreeOf zone (activationID src condName) a) →
        SettledAt env u (reconcilerStep env a e) → SettledAt env u (reconcilerStep env b e) →
        Erased env u zone (activationID src condName) ops (reconcilerStep env a e)
            (reconcilerStep env b e) ∧
          FreeOf zone (activationID src condName) (reconcilerStep env a e) := by
      rintro a b e he ⟨hab, hfree⟩ hu hu'
      exact ⟨erased_other hpushes hspares a b e he hab hu hu',
        hfree.affected (Affected.of_event (hspares e he) hu) fun _ =>
          ReconcilerEvent.effect_spares (hspares e he)⟩
    refine (hremoved.letIn hother).own (reconcileNow_frame env zone _ _).tick fun b hb hu => ?_
    have hclean := affected_reconcileNow zone .reconcileAfterRemove hu
    exact ⟨hb.1.keep hclean, hb.2.affected hclean fun _ => trivial⟩

end Caller

/-! ## The law -/

/-- Computers answer by time, place and arguments alone. -/
def PureComputers (env : Env) : Prop :=
  ∀ name comp, env.getComputer name = some comp → ∀ n m now loc args,
    comp.compute n now loc args = comp.compute m now loc args

/-- Live entries differ in priority or push time. -/
def NoTies (u : Time) (stack : AxisStack) : Prop :=
  ∀ x ∈ stack.live u, ∀ y ∈ stack.live u, x.priority = y.priority → x.pushTime = y.pushTime → x = y

theorem AxisStack.top_of_views_eq {a b : AxisStack} (hviews : a.views u = b.views u)
    (hties : Conditioner.NoTies u b) {ra : RuntimeActivation} (htop : a.top u = some ra) :
    ∃ rb, b.top u = some rb ∧ rb.view = ra.view := by
  rw [top_eq_argmax] at htop
  have hmem : ra.view ∈ b.views u := hviews ▸ ⟨ra, List.argmax_mem htop, rfl⟩
  obtain ⟨rb, hrb, hview⟩ := hmem
  refine ⟨rb, ?_, hview⟩
  rw [top_eq_argmax]
  refine argmax_eq_of_outranks hrb fun x hx => ?_
  have hx' : x.view ∈ a.views u := hviews ▸ ⟨x, hx, rfl⟩
  obtain ⟨y, hy, hyview⟩ := hx'
  have hle : x.rank ≤ rb.rank := by
    rw [← rank_eq_of_view hyview, rank_eq_of_view hview]
    exact List.le_of_mem_argmax hy htop
  rcases lt_or_eq_of_le hle with hlt | heq
  · exact Or.inr hlt
  · have hpair := Prod.mk.inj (toLex.injective heq)
    exact Or.inl (hties x hx rb hrb hpair.1 hpair.2)

theorem composeTarget_of_views_eq (hpure : PureComputers env) {s t : World}
    (hs : ∀ axis, StackValid env (s.stackAt zone axis))
    (ht : ∀ axis, StackValid env (t.stackAt zone axis))
    (hviews : ∀ axis, (s.stackAt zone axis).views u = (t.stackAt zone axis).views u)
    (hties : ∀ axis, NoTies u (t.stackAt zone axis)) (target : ApplyValues) :
    composeTarget env zone u s = .ok target ↔ composeTarget env zone u t = .ok target := by
  have hnone : ∀ a, (s.stackAt zone a).top u = none ↔ (t.stackAt zone a).top u = none := by
    intro a
    constructor
    · intro htop
      cases htop' : (t.stackAt zone a).top u with
      | none => rfl
      | some rb =>
        rw [AxisStack.top_eq_argmax] at htop htop'
        have hview : rb.view ∈ (s.stackAt zone a).views u :=
          hviews a ▸ ⟨rb, List.argmax_mem htop', rfl⟩
        obtain ⟨ra, hra, -⟩ := hview
        rw [List.argmax_eq_none.mp htop] at hra
        exact absurd hra List.not_mem_nil
    · intro htop
      cases htop' : (s.stackAt zone a).top u with
      | none => rfl
      | some =>
        obtain ⟨rb, hrb, -⟩ := AxisStack.top_of_views_eq (hviews a) (hties a) htop'
        rw [htop] at hrb
        cases hrb
  obtain ⟨out, hanswers⟩ := exists_answers fun a ra htop m n =>
    hpure _ _ ((hs a).entries ra (AxisStack.live_of_top htop).1).resolved m n u
      env.cfg.location ra.args
  have hanswers' : Answers env zone u t out := by
    intro a rb htop n
    cases htop' : (s.stackAt zone a).top u with
    | none =>
      rw [(hnone a).mp htop'] at htop
      cases htop
    | some ra =>
      -- the tops look alike, so they have the same Computer and arguments
      obtain ⟨rb', hrb', hview⟩ := AxisStack.top_of_views_eq (hviews a) (hties a) htop'
      rw [htop, Option.some.injEq] at hrb'
      subst hrb'
      have hname : rb.computerName = ra.computerName := congrArg EntryView.computerName hview
      have hargs : rb.args = ra.args := congrArg EntryView.args hview
      have hresolved : rb.resolved = ra.resolved := by
        have hra := ((hs a).entries ra (AxisStack.live_of_top htop').1).resolved
        have hrb := ((ht a).entries rb (AxisStack.live_of_top htop).1).resolved
        rw [hname, hra, Option.some.injEq] at hrb
        exact hrb.symm
      rw [hresolved, hargs]
      exact hanswers a ra htop' n
  exact ⟨composeTarget_of_answers hanswers hanswers' hnone,
    composeTarget_of_answers hanswers' hanswers fun a => (hnone a).symm⟩

/-- **Activate, then deactivate.**  On valid stacks without an entry of the source, whatever
others do to other sources in between, the live entries are those the others alone would have
left, and without ties so is the target. -/
theorem activateThenRemove_erases (env : Env) (s : World) (hs : WellStacked env s)
    (condName : String) (rem : Remediation) (src : SourceKind)
    (gaps : List (List ReconcilerEvent)) (u : Time)
    (hnew : ∀ axis, ∀ ra ∈ s.stackAt rem.zone axis,
      ¬ (ra.sourceKind = src ∧ ra.sourceName = condName))
    (hspares : ∀ e ∈ gaps.flatten, e.SparesSource rem.zone src condName u)
    (hpushes : PushesAgree gaps.flatten rem.zone)
    (hagrees : ∀ axis, AgreesWith gaps.flatten rem.zone axis u (s.stackAt rem.zone axis)) :
    let full := activateThenRemove env condName rem src gaps s
    let rest := run (reconcilerStep env) s gaps.flatten
    SettledAt env u full → SettledAt env u rest →
      (∀ axis, (full.stackAt rem.zone axis).views u = (rest.stackAt rem.zone axis).views u) ∧
        (PureComputers env → (∀ axis, NoTies u (rest.stackAt rem.zone axis)) →
          ∀ target, composeTarget env rem.zone u full = .ok target ↔
            composeTarget env rem.zone u rest = .ok target) := by
  intro full rest hu hu'
  have hid : ∀ axis, ∀ ra ∈ s.stackAt rem.zone axis, ra.id ≠ activationID src condName := by
    intro axis ra hra heq
    rw [((hs rem.zone axis).entries ra hra).id_eq] at heq
    exact hnew axis ra hra (activationID_inj heq)
  have hstart : Tracks env u gaps.flatten
      (Erased env u rem.zone (activationID src condName) gaps.flatten) s ⟨s, gaps⟩ := by
    refine ⟨[], rfl, fun _ _ => ⟨hs rem.zone, hs rem.zone, hagrees, hagrees, fun axis => ?_⟩⟩
    ext v
    refine ⟨fun h => h.1, fun h => ⟨h, ?_⟩⟩
    obtain ⟨ra, hra, rfl⟩ := h
    exact hid axis ra (AxisStack.mem_live_iff.mp hra).1
  have hbridge := hstart.bridgeImperativeActivate hpushes hspares rfl
  obtain ⟨herased, hfree⟩ := (hbridge.removeActivation hpushes hspares).finish
    (fun a b e he hab ha hb => ⟨erased_other hpushes hspares a b e he hab.1 ha hb,
      hab.2.affected (Affected.of_event (hspares e he) ha) fun _ =>
        ReconcilerEvent.effect_spares (hspares e he)⟩) hu hu'
  have hviews : ∀ axis,
      (full.stackAt rem.zone axis).views u = (rest.stackAt rem.zone axis).views u := by
    intro axis
    rw [← herased.views axis]
    ext v
    refine ⟨fun h => ⟨h, ?_⟩, fun h => h.1⟩
    obtain ⟨ra, hra, rfl⟩ := h
    exact fun heq => hfree axis (List.mem_map.mpr ⟨ra, (AxisStack.mem_live_iff.mp hra).1, heq⟩)
  exact ⟨hviews, fun hpure hties target =>
    composeTarget_of_views_eq hpure herased.valid herased.valid' hviews hties target⟩

def dimmer (policy : PushPolicy) (state : ZoneState) (pushedAt ttl : Int) : ReconcilerEvent :=
  .push "hall" .state (some
    { computerName := staticName
      args := AList.singleton "state" state.name
      sourceKind := .manual
      sourceName := "dimmer"
      pushedAt := some pushedAt
      ttl := some ttl
      priority := 10
      pushPolicy := policy })

def switchOff : Remediation := { zone := "hall", activeState := "off" }

def dimmedHall : World := run (reconcilerStep switchEnv) World.initial [dimmer .refresh .on 0 2]

def dimmedAgain : List (List ReconcilerEvent) := [[], [], [], [], [], [dimmer .refresh .off 5 1000]]

theorem dimmedAgain_targets :
    composeTarget switchEnv "hall" 50
        (activateThenRemove switchEnv "switch" switchOff .binding dimmedAgain dimmedHall) =
          .ok { state := .off } ∧
      composeTarget switchEnv "hall" 50
        (run (reconcilerStep switchEnv) dimmedHall dimmedAgain.flatten) = .ok { state := .on } :=
  ⟨rfl, rfl⟩

theorem dimmedHall_other : ∀ axis, ∀ ra ∈ dimmedHall.stackAt "hall" axis,
    ¬ (ra.sourceKind = .binding ∧ ra.sourceName = "switch") := by
  intro axis ra hra
  cases axis with
  | state =>
    rw [List.mem_singleton.mp hra]
    rintro ⟨hkind, -⟩
    cases hkind
  | _ => exact absurd hra List.not_mem_nil

theorem switchEnv_pure : PureComputers switchEnv := by
  intro name comp hcomp n m now loc args
  unfold Env.getComputer at hcomp
  split at hcomp
  · cases hcomp
    rfl
  · cases hcomp

/-- The activation cleans up the dimmer's expired entry, so its next push brings new arguments;
alone that push would have kept the old ones. -/
theorem dimmer_arguments_differ :
    WellStacked switchEnv dimmedHall ∧ PureComputers switchEnv ∧
      (∀ e ∈ dimmedAgain.flatten, e.SparesSource "hall" .binding "switch" 50) ∧
      PushesAgree dimmedAgain.flatten "hall" ∧
      (∀ axis, ∀ ra ∈ dimmedHall.stackAt "hall" axis,
        ¬ (ra.sourceKind = .binding ∧ ra.sourceName = "switch")) ∧
      (∃ target, composeTarget switchEnv "hall" 50
          (activateThenRemove switchEnv "switch" switchOff .binding dimmedAgain dimmedHall) =
            .ok target ∧
        composeTarget switchEnv "hall" 50
          (run (reconcilerStep switchEnv) dimmedHall dimmedAgain.flatten) ≠ .ok target) ∧
      ((activateThenRemove switchEnv "switch" switchOff .binding dimmedAgain
          dimmedHall).stackAt "hall" .state).map (fun ra => ra.args.value "state") =
        [ZoneState.off.name] ∧
      ((run (reconcilerStep switchEnv) dimmedHall dimmedAgain.flatten).stackAt "hall"
          .state).map (fun ra => ra.args.value "state") = [ZoneState.on.name] := by
  have hflat : dimmedAgain.flatten = [dimmer .refresh .off 5 1000] := rfl
  refine ⟨(WellStacked.initial switchEnv).run _, switchEnv_pure, ?_, ?_, dimmedHall_other, ?_, rfl, rfl⟩
  · intro e he
    rw [hflat] at he
    rw [List.mem_singleton.mp he]
    rintro - ⟨hkind, -⟩
    cases hkind
  · intro axis act act' hact hact' _ _
    rw [hflat] at hact hact'
    cases List.mem_singleton.mp hact
    cases List.mem_singleton.mp hact'
    exact ⟨rfl, rfl, rfl⟩
  · refine ⟨_, dimmedAgain_targets.1, ?_⟩
    rw [dimmedAgain_targets.2]
    decide

/-- The switch leaves no trace next to a push that replaces the dimmer's expired entry. -/
theorem switch_erased_from_hall :
    ((activateThenRemove switchEnv "switch" switchOff .binding
        [[], [], [dimmer .replace .off 5 1000]] dimmedHall).stackAt "hall" .state).views 50 =
      ((run (reconcilerStep switchEnv) dimmedHall
        [[], [], [dimmer .replace .off 5 1000]].flatten).stackAt "hall" .state).views 50 := by
  have hclock : ∀ n : Nat, n < 20 → switchEnv.clock n ≤ 50 := by
    intro n hn
    show (n : Int) ≤ 50
    omega
  have hflat : [[], [], [dimmer .replace .off 5 1000]].flatten =
    [dimmer .replace .off 5 1000] := rfl
  refine (activateThenRemove_erases switchEnv dimmedHall ((WellStacked.initial switchEnv).run _)
    "switch" switchOff .binding [[], [], [dimmer .replace .off 5 1000]] 50 dimmedHall_other
    ?_ ?_ ?_ ?_ ?_).1 .state
  · intro e he
    rw [hflat] at he
    rw [List.mem_singleton.mp he]
    rintro - ⟨hkind, -⟩
    cases hkind
  · intro axis act act' hact hact' _ _
    rw [hflat] at hact hact'
    cases List.mem_singleton.mp hact
    cases List.mem_singleton.mp hact'
    exact ⟨rfl, rfl, rfl⟩
  · intro axis act hact hpolicy
    rw [hflat] at hact
    cases List.mem_singleton.mp hact
    exact absurd rfl hpolicy
  · intro n hn
    have htick : (activateThenRemove switchEnv "switch" switchOff .binding
        [[], [], [dimmer .replace .off 5 1000]] dimmedHall).tick ≤ 20 := by decide
    exact hclock n (lt_of_lt_of_le hn htick)
  · intro n hn
    have htick : (run (reconcilerStep switchEnv) dimmedHall
        [[], [], [dimmer .replace .off 5 1000]].flatten).tick ≤ 20 := by decide
    exact hclock n (lt_of_lt_of_le hn htick)

end IotController.Conditioner
