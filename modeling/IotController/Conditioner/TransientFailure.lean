/-
  An imperative activation and failing
  ApplyValues calls.

  The imperative bridge pushes one claim after another and stops at the first push that
  returns an error, and a push returns the error of the ApplyValues call of its own
  reconcile.  So the claims after the first failed call are never pushed, and no later
  reconcile can make up for them.
-/
import IotController.Conditioner.FaultIsolation
import IotController.Conditioner.StackRuns

namespace IotController.Conditioner

open Foundation Api Proto Compute

/-! ## Entries that always answer -/

def Answering (env : Env) (ra : RuntimeActivation) : Prop :=
  ∃ out : Time → ApplyValues, ∀ n t, ra.resolved.compute n t env.cfg.location ra.args = .ok (out t)

def AnsweringZone (env : Env) (zone : String) (s : World) : Prop :=
  ∀ axis, ∀ ra ∈ s.stackAt zone axis, Answering env ra

variable {env : Env} {zone : String} {s : World} {build : Claim → Activation} {second : List Claim}

theorem AnsweringZone.composeTarget (h : AnsweringZone env zone s) (now : Time) :
    ∃ target, composeTarget env zone now s = .ok target := by
  have hmem : ∀ a ra, (s.stackAt zone a).top now = some ra → Answering env ra :=
    fun a ra htop => h a ra (AxisStack.live_of_top htop).1
  obtain ⟨out, hanswers⟩ := exists_answers fun a ra htop m n => by
    obtain ⟨value, hvalue⟩ := hmem a ra htop
    rw [hvalue, hvalue]
  refine (composeTarget_isOk_iff hanswers).mpr fun a ra htop => ?_
  obtain ⟨value, hvalue⟩ := hmem a ra htop
  exact ⟨value now, by rw [← hanswers a ra htop 0, hvalue]⟩

theorem answering_static (env : Env) (act : Activation) :
    Answering env (ZonePolicy.resolve staticComputer act) :=
  ⟨fun _ => _, fun _ _ => rfl⟩

theorem AnsweringZone.push (h : AnsweringZone env zone s) (axis : AxisKind) {act : Activation}
    (hstatic : act.computerName = staticName) :
    AnsweringZone env zone (pushActivation env zone axis (some act) s).2 := by
  intro a ra hra
  rcases pushActivation_stackAt env zone axis act s with ⟨-, hsame⟩ | ⟨comp, n, hcomp, -, -, hstack⟩
  · rw [hsame a] at hra
    exact h a ra hra
  · rw [hstatic, Env.getComputer, if_pos rfl, Option.some.injEq] at hcomp
    rw [hstack a, ← hcomp] at hra
    have hmem := AxisStack.mem_of_mem_cleaned hra
    split at hmem
    · exact AxisStack.forall_mem_push (fun _ _ _ hanswer => hanswer) (answering_static env act)
        (h a) ra hmem
    · exact h a ra hmem

/-! ## One push -/

/-- Every call from `s` to `t` is accepted. -/
def AllAccepted (s t : World) : Prop :=
  ∃ sent, t.log = sent ++ s.log ∧ ∀ e ∈ sent, e.outcome = .ok

theorem AllAccepted.refl (s : World) : AllAccepted s s := ⟨[], rfl, by simp⟩

theorem allAccepted_iff {t : World} {sent : List Sent} (hlog : t.log = sent ++ s.log) :
    AllAccepted s t ↔ ∀ e ∈ sent, e.outcome = .ok := by
  refine ⟨?_, fun hall => ⟨sent, hlog, hall⟩⟩
  rintro ⟨sent', hsent', hall⟩
  rwa [List.append_cancel_right (hsent'.symm.trans hlog)] at hall

theorem allAccepted_iff_and {t u : World} (hst : ReconcilerFrame zone s t)
    (htu : ReconcilerFrame zone t u) : AllAccepted s u ↔ AllAccepted s t ∧ AllAccepted t u := by
  obtain ⟨first, hfirst, -⟩ := hst.log
  obtain ⟨second, hsecond, -⟩ := htu.log
  have hboth : u.log = (second ++ first) ++ s.log := by rw [hsecond, hfirst, List.append_assoc]
  rw [allAccepted_iff hboth, allAccepted_iff hfirst, allAccepted_iff hsecond,
    List.forall_mem_append, and_comm]

theorem reconcileZone_accepted_iff {now : Time} {target : ApplyValues}
    (htarget : composeTarget env zone now s = .ok target) :
    (reconcileZone env zone now s).1 = none ↔ AllAccepted s (reconcileZone env zone now s).2 := by
  have hend := reconcileZone_reconciled env zone now s
  generalize reconcileZone env zone now s = result at hend
  cases hend with
  | unknown => exact iff_of_true rfl (AllAccepted.refl s)
  | computeFailed _ _ _ _ _ herror =>
    rw [htarget] at herror
    cases herror
  | suppressed => exact iff_of_true rfl ⟨[], rfl, by simp⟩
  | applied => exact iff_of_true rfl ⟨[_], rfl, by simp⟩
  | applyFailed _ _ target' o _ _ _ _ _ _ _ herror =>
    refine iff_of_false (by simp) ?_
    rw [@allAccepted_iff s _ [⟨.applyValues zone target', o⟩] rfl]
    rintro hall
    rw [show o = .ok from hall _ List.mem_cons_self] at herror
    simp [Outcome.error] at herror

theorem pushActivation_accepted_iff {axis : AxisKind} {act : Activation} (hzone : zone ≠ "")
    (haxis : axis ≠ .unspecified) (hstatic : act.computerName = staticName)
    (h : AnsweringZone env zone s) :
    (pushActivation env zone axis (some act) s).1 = none ↔
      AllAccepted s (pushActivation env zone axis (some act) s).2 := by
  have hget : env.getComputer act.computerName = some staticComputer := by
    rw [hstatic, Env.getComputer, if_pos rfl]
  have hend := pushActivation_pushed env zone axis (some act) s
  generalize pushActivation env zone axis (some act) s = result at hend
  cases hend with
  | rejected _ _ hmissing =>
    rcases hmissing with hmissing | hmissing | hmissing
    · exact absurd hmissing hzone
    · exact absurd hmissing haxis
    · cases hmissing
  | unresolved _ _ hcomputer =>
    rcases hcomputer with hname | hnone
    · rw [hstatic] at hname
      exact absurd hname (by decide)
    · rw [hget] at hnone
      cases hnone
  | pushed act _ n timers hcomputer =>
    rw [hget, Option.some.injEq] at hcomputer
    subst hcomputer
    let w : World :=
      { s with
        tick := n
        policies := s.policies.insert zone
          (s.policyPushed zone axis (ZonePolicy.resolve staticComputer act))
        ttlTimers := timers }
    -- the reconcile meets entries that all answer
    have hanswering : AnsweringZone env zone w.next := by
      intro a ra hra
      have hstack : w.next.stackAt zone a =
          (s.policyPushed zone axis (ZonePolicy.resolve staticComputer act)).stack a := by
        rw [World.stackAt_of_insert (s := s) rfl, if_pos rfl]
      rw [hstack, World.policyPushed, ZonePolicy.stack_insert] at hra
      split at hra
      · refine AxisStack.forall_mem_push (fun _ _ _ hanswer => hanswer)
          (answering_static env act) (fun e he => h axis e ?_) ra hra
        rw [World.stackAt_eq_getD]
        exact he
      · refine h a ra ?_
        rw [World.stackAt_eq_getD]
        exact hra
    obtain ⟨target, htarget⟩ := hanswering.composeTarget (env.clock w.tick)
    have hiff := reconcileZone_accepted_iff htarget
    show (reconcileNow env zone .reconcileAfterPush w).1 = none ↔
      AllAccepted w.next (reconcileNow env zone .reconcileAfterPush w).2
    rw [reconcileNow_eq, Option.map_eq_none_iff]
    exact hiff

/-- **The imperative loop.**  A claim is pushed exactly when every call sent by the pushes
before it is accepted. -/
theorem pushClaimsUntilError_pushes (hzone : zone ≠ "")
    (hname : ∀ c, (build c).computerName = c.computerName) :
    ∀ {claims : List Claim} {s : World},
      (∀ c ∈ claims, c.axis ≠ .unspecified ∧ c.computerName = staticName) →
      AnsweringZone env zone s →
      ∃ done, done <+: claims ∧
        (pushClaimsUntilError env zone build claims s).2 = pushClaims env zone build done s ∧
        ∀ first c second, claims = first ++ c :: second →
          (AllAccepted s (pushClaims env zone build first s) ↔ first.length < done.length) := by
  intro claims
  induction claims with
  | nil =>
    intro s _ _
    refine ⟨[], List.prefix_refl _, rfl, fun first c second hsplit => ?_⟩
    exact absurd hsplit.symm (by simp)
  | cons c rest ih =>
    intro s hclaims hanswering
    obtain ⟨⟨haxis, hstatic⟩, hrest⟩ := List.forall_mem_cons.mp hclaims
    have hbuild : (build c).computerName = staticName := (hname c).trans hstatic
    have hiff := pushActivation_accepted_iff hzone haxis hbuild hanswering
    have hnext := hanswering.push c.axis hbuild
    have hframe := pushActivation_frame env zone c.axis (some (build c)) s
    -- what the first push did decides about all later claims
    have hlater : ∀ first, ReconcilerFrame zone
        (pushActivation env zone c.axis (some (build c)) s).2
        (pushClaims env zone build (c :: first) s) := fun first =>
      pushClaims_frame env zone build first _
    simp only [pushClaimsUntilError]
    cases hpush : pushActivation env zone c.axis (some (build c)) s with
    | mk error t =>
      rw [hpush] at hiff hnext hframe
      simp only [hpush] at hlater
      cases error with
      | some =>
        refine ⟨[c], ⟨rest, rfl⟩, ?_, fun first c' second hsplit => ?_⟩
        · simp only [pushClaims, List.foldl_cons, List.foldl_nil, hpush]
        · cases first with
          | nil => exact iff_of_true (AllAccepted.refl s) (by simp)
          | cons _ tail =>
            obtain ⟨rfl, -⟩ := List.cons.inj hsplit
            refine iff_of_false (fun hall => ?_) (by simp)
            cases hiff.mpr ((allAccepted_iff_and hframe (hlater tail)).mp hall).1
      | none =>
        have hfirst : AllAccepted s t := hiff.mp rfl
        obtain ⟨done, hprefix, hrun, hpushed⟩ := ih hrest hnext
        refine ⟨c :: done, List.cons_prefix_cons.mpr ⟨rfl, hprefix⟩, ?_,
          fun first c' second hsplit => ?_⟩
        · rw [hrun]
          simp only [pushClaims, List.foldl_cons, hpush]
        · cases first with
          | nil => exact iff_of_true (AllAccepted.refl s) (by simp)
          | cons _ tail =>
            obtain ⟨rfl, hsplit'⟩ := List.cons.inj hsplit
            rw [allAccepted_iff_and hframe (hlater tail), and_iff_right hfirst]
            have hcount := hpushed tail c' second hsplit'
            simp only [pushClaims, List.foldl_cons, hpush, List.length_cons] at hcount ⊢
            rw [hcount]
            omega

/-- The Remediation's Scene, or none. -/
def NamesScene (env : Env) (rem : Remediation) (scene : Scene) : Prop :=
  if rem.activeScene = "" then scene = {} else ∀ n, env.scene n rem.activeScene = some scene

theorem NamesScene.sceneRead {rem : Remediation} {scene : Scene} (h : NamesScene env rem scene)
    (build : Claim → Activation) (s : World) : sceneRead env rem build s = some scene := by
  unfold NamesScene at h
  unfold Conditioner.sceneRead
  split at h
  · rename_i hname
    rw [if_pos hname, h]
  · rename_i hname
    rw [if_neg hname, h]

/-! ## What a later reconcile composes -/

/-- The target has `v` on the axis. -/
def Composes (env : Env) (zone : String) (t : Time) (axis : AxisKind) (v : ApplyValues)
    (s : World) : Prop :=
  ∃ target, composeTarget env zone t s = .ok target ∧ target.only axis = v.only axis

def TopYields (env : Env) (axis : AxisKind) (v : ApplyValues) (t : Time) (stack : AxisStack) :
    Prop :=
  match stack.top t with
  | some ra => Yields env axis v t ra
  | none => v.only axis = ApplyValues.empty

/-- No live entry has a higher priority. -/
def NotOutranked (t : Time) (priority : Int) (stack : AxisStack) : Prop :=
  ∀ ra ∈ stack.live t, ra.priority ≤ priority

theorem notOutranked_congr {t : Time} {a b : AxisStack} (h : a.live t = b.live t)
    (priority : Int) : NotOutranked t priority a ↔ NotOutranked t priority b := by
  rw [NotOutranked, NotOutranked, h]

theorem topYields_congr {t : Time} {a b : AxisStack} (h : a.live t = b.live t) (env : Env)
    (axis : AxisKind) (v : ApplyValues) :
    TopYields env axis v t a ↔ TopYields env axis v t b := by
  rw [TopYields, TopYields, AxisStack.top_eq_argmax, AxisStack.top_eq_argmax, h]

theorem composes_iff_topYields {t : Time} {axis : AxisKind} {v : ApplyValues}
    (hanswering : AnsweringZone env zone s) :
    Composes env zone t axis v s ↔ TopYields env axis v t (s.stackAt zone axis) := by
  unfold TopYields
  constructor
  · rintro ⟨target, htarget, hvalue⟩
    rcases composeTarget_only htarget axis with ⟨hnone, hempty⟩ | ⟨ra, n, val, htop, hval, heq⟩
    · rw [hnone]
      exact hvalue.symm.trans hempty
    · rw [htop]
      intro m
      obtain ⟨out, hout⟩ := hanswering axis ra (AxisStack.live_of_top htop).1
      have hsame : val = out t := by
        rw [hout n t, Except.ok.injEq] at hval
        exact hval.symm
      exact ⟨out t, hout m t, by rw [← hvalue, heq, hsame]⟩
  · intro hyields
    obtain ⟨target, htarget⟩ := hanswering.composeTarget t
    refine ⟨target, htarget, ?_⟩
    cases htop : (s.stackAt zone axis).top t with
    | some =>
      rw [htop] at hyields
      exact Yields.composeTarget_only hyields htop htarget
    | none =>
      rw [htop] at hyields
      rcases composeTarget_only htarget axis with ⟨-, hempty⟩ | ⟨ra, n, val, htop', -, -⟩
      · exact hempty.trans hyields.symm
      · rw [htop] at htop'
        cases htop'

/-- Ids are distinct, entries older, those of the call's source have its priority, and Computers
answer. -/
structure BeforeCall (env : Env) (zone id : String) (now : Time) (priority : Int) (s : World) :
    Prop where
  distinct : ∀ axis, AxisStack.DistinctIds (s.stackAt zone axis)
  earlier : ∀ axis, ∀ ra ∈ s.stackAt zone axis, ra.pushTime < now
  ownPriority : ∀ axis, ∀ ra ∈ s.stackAt zone axis, ra.id = id → ra.priority = priority
  answering : AnsweringZone env zone s

def retried (env : Env) (zone : String) (times : List Time) (s : World) : World :=
  times.foldl (fun s now => (reconcileZone env zone now s).2) s

theorem retried_live {t : Time} {axis : AxisKind} :
    ∀ {times : List Time} {s : World}, (∀ now ∈ times, now ≤ t) →
      ((retried env zone times s).stackAt zone axis).live t = (s.stackAt zone axis).live t := by
  intro times
  induction times with
  | nil => intro s _; rfl
  | cons now rest ih =>
    intro s htimes
    obtain ⟨hnow, hrest⟩ := List.forall_mem_cons.mp htimes
    have hlater : ((retried env zone (now :: rest) s).stackAt zone axis).live t =
        ((reconcileZone env zone now s).2.stackAt zone axis).live t := ih hrest
    rw [hlater, reconcileZone_stackAt, AxisStack.live_cleaned hnow]

theorem AnsweringZone.retried :
    ∀ {times : List Time} {s : World}, AnsweringZone env zone s →
      AnsweringZone env zone (retried env zone times s) := by
  intro times
  induction times with
  | nil => intro s h; exact h
  | cons _ _ ih =>
    intro s h
    refine ih fun axis ra hra => h axis ra ?_
    rw [reconcileZone_stackAt] at hra
    exact AxisStack.mem_of_mem_cleaned hra

theorem AnsweringZone.pushClaims (hname : ∀ c, (build c).computerName = c.computerName) :
    ∀ {claims : List Claim} {s : World}, (∀ c ∈ claims, c.computerName = staticName) →
      AnsweringZone env zone s → AnsweringZone env zone (pushClaims env zone build claims s) := by
  intro claims
  induction claims with
  | nil => intro s _ h; exact h
  | cons c _ ih =>
    intro s hclaims h
    obtain ⟨hstatic, hrest⟩ := List.forall_mem_cons.mp hclaims
    exact ih hrest (h.push c.axis ((hname c).trans hstatic))

/-! ## The states the bridges reach -/

theorem WellStacked.of_pushRun {admitted : Activation → Prop} {t : World} (h : WellStacked env s)
    (hrun : PushRun env zone admitted s t) : WellStacked env t := by
  refine hrun.invariant ?_ ?_ h
  · intro u hu
    exact hu
  · intro u axis act _ hu
    exact hu.step (.push zone axis (some act))

theorem WellStacked.bridgeStep (h : WellStacked env s) (e : BridgeEvent) :
    WellStacked env (e.step env s) := by
  have hnext : WellStacked env s.next := h
  cases e with
  | evaluate condName rem =>
    exact hnext.of_pushRun (bridgeReconciledRemediation_pushRun env condName rem s)
  | activate condName rem src =>
    exact hnext.of_pushRun (bridgeImperativeActivate_pushRun env condName rem src s)
  | remove zone kind name => exact h.step (.remove zone kind name)
  | reconcile zone now => exact h.step (.reconcile zone now)

theorem PushedBefore.of_sublist {t : World} (h : PushedBefore env s)
    (hsub : ∀ zone axis, (t.stackAt zone axis).Sublist (s.stackAt zone axis))
    (htick : s.tick ≤ t.tick) : PushedBefore env t where
  distinct zone axis := (h.distinct zone axis).sublist (hsub zone axis)
  pushed zone axis ra hra := by
    obtain ⟨n, hn, hpushed⟩ := h.pushed zone axis ra ((hsub zone axis).subset hra)
    exact ⟨n, lt_of_lt_of_le hn htick, hpushed⟩

theorem PushedBefore.bridgeStep (h : PushedBefore env s) (e : BridgeEvent) :
    PushedBefore env (e.step env s) := by
  cases e with
  | evaluate condName rem =>
    refine h.of_pushRun ?_ (bridgeReconciledRemediation_pushRun env condName rem s)
    rintro act ⟨priority, c, rfl, -⟩
    exact ⟨rfl, rfl⟩
  | activate condName rem src =>
    refine h.of_pushRun ?_ (bridgeImperativeActivate_pushRun env condName rem src s)
    rintro act ⟨c, rfl⟩
    exact ⟨rfl, rfl⟩
  | remove zone kind name =>
    exact h.of_sublist (removeActivation_sublist env zone kind name s)
      (removeActivation_frame env zone kind name s).tick
  | reconcile zone now =>
    exact h.of_sublist (reconcilerStep_sublist env s (.reconcile zone now))
      (reconcileZone_frame env zone now s).tick

/-- **Before a call.**  If every Computer answers, every run leaves a zone ready for an
activation. -/
theorem beforeCall_of_run {env : Env} (hclock : StrictMono env.clock)
    (hcomputers : ∀ name comp, env.getComputer name = some comp → ∀ args,
      ∃ out : Time → ApplyValues, ∀ n t, comp.compute n t env.cfg.location args = .ok (out t))
    {events : List BridgeEvent} (hadmitted : ∀ e ∈ events, e.Admitted) (zone condName : String)
    {src : SourceKind} (hsrc : src = .alert ∨ src = .binding) :
    let s := run (BridgeEvent.step env) World.initial events
    BeforeCall env zone (activationID src condName) (env.clock s.tick) (imperativePriority src)
      s := by
  intro s
  have hpushed : PushedBefore env s :=
    @run_invariant _ _ (BridgeEvent.step env) (PushedBefore env) (fun _ e h => h.bridgeStep e) _
      (PushedBefore.initial env) events
  have hvalid : WellStacked env s :=
    @run_invariant _ _ (BridgeEvent.step env) (WellStacked env) (fun _ e h => h.bridgeStep e) _
      (WellStacked.initial env) events
  have hladder : LadderInv s :=
    @run_invariant_of_mem _ _ (BridgeEvent.step env) LadderInv events
      (fun _ e he h => (h.step (hadmitted e he)).1) _
      (fun _ _ _ hra => absurd hra List.not_mem_nil)
  refine ⟨hpushed.distinct zone, fun axis ra hra => ?_, fun axis ra hra hid => ?_,
    fun axis ra hra => ?_⟩
  · obtain ⟨n, hn, hpushedAt⟩ := hpushed.pushed zone axis ra hra
    simp only [RuntimeActivation.pushTime, hpushedAt, Option.getD_some]
    exact hclock hn
  · obtain ⟨hentry, hpriority⟩ := hladder zone axis ra hra
    obtain ⟨hkind, -⟩ := activationID_inj (hentry.symm.trans hid)
    rw [hkind] at hpriority
    rcases hsrc with rfl | rfl
    · simpa [imperativePriority] using hpriority
    · simpa [imperativePriority] using hpriority
  · exact hcomputers _ _ ((hvalid zone axis).entries ra hra).resolved ra.args

/-- **A pushed claim.**  Only entries from before can outrank it; if none does, the top yields
its value exactly when no entry of its source yields another. -/
theorem pushed_claim_iff {id : String} {now t : Time} {ttl : Duration} {priority : Int}
    (hbuild : Builds id now ttl build) (hpriority : ∀ c, (build c).priority = priority)
    (hzone : zone ≠ "") (hbefore : BeforeCall env zone id now priority s) {first : List Claim}
    {c : Claim} (haxis : c.axis ≠ .unspecified) (hstatic : c.computerName = staticName)
    (hnodup : ((first ++ c :: second).map Claim.axis).Nodup) {v : ApplyValues}
    (hfresh : Yields env c.axis v t (ZonePolicy.resolve staticComputer (build c)))
    (ht : ∀ n < (pushClaims env zone build (first ++ c :: second) s).tick, env.clock n ≤ t)
    (halive : t ≤ now + ttl) :
    let met := (pushClaims env zone build first s).stackAt zone c.axis
    let after := (pushClaims env zone build (first ++ c :: second) s).stackAt zone c.axis
    (NotOutranked t priority after ↔ NotOutranked t priority (s.stackAt zone c.axis)) ∧
      (NotOutranked t priority (s.stackAt zone c.axis) →
        (TopYields env c.axis v t after ↔
          ∀ ra ∈ met, ra.id = id → Yields env c.axis v t ra)) := by
  intro met after
  obtain ⟨hmet, hleaves⟩ := pushClaims_leaves hbuild hzone haxis hstatic hnodup
    (hbefore.distinct c.axis) (hbefore.earlier c.axis) ht halive
  have hfirst : c.axis ∉ first.map Claim.axis := by
    rw [List.map_append, List.map_cons] at hnodup
    exact fun hmem => (List.nodup_append.mp hnodup).2.2 _ hmem _ List.mem_cons_self rfl
  have hframe : ReconcilerFrame zone (pushClaims env zone build first s)
      (pushClaims env zone build (first ++ c :: second) s) := by
    rw [pushClaims_append]
    exact pushClaims_frame env zone build _ _
  have hlive : met.live t = (s.stackAt zone c.axis).live t :=
    (pushClaims_of_notMem hfirst).2 t fun n hn => ht n (lt_of_lt_of_le hn hframe.tick)
  have hsub : met.Sublist (s.stackAt zone c.axis) := (pushClaims_of_notMem hfirst).1
  -- the own entry has the priority of the source
  have hown : (met.refreshed (ZonePolicy.resolve staticComputer (build c))).priority = priority := by
    unfold AxisStack.refreshed
    split
    · rename_i existing hfind
      obtain ⟨hmem, hid⟩ := (AxisStack.find_eq_some_iff hmet).mp hfind
      exact hbefore.ownPriority c.axis existing (hsub.subset hmem) (hid.trans (hbuild.id c))
    · exact hpriority c
  have houtranked : NotOutranked t priority after ↔
      NotOutranked t priority (s.stackAt zone c.axis) := by
    constructor
    · intro hnot ra hra
      by_cases hid : ra.id = id
      · exact le_of_eq (hbefore.ownPriority c.axis ra (AxisStack.mem_live_iff.mp hra).1 hid)
      · exact hnot ra ((hleaves.mem_iff ra).mpr (Or.inl ⟨hlive.symm ▸ hra, hid⟩))
    · intro hnot ra hra
      rcases (hleaves.mem_iff ra).mp hra with ⟨hmem, -⟩ | rfl
      · exact hnot ra (hlive ▸ hmem)
      · exact le_of_eq hown
  refine ⟨houtranked, fun hnot => ?_⟩
  have htop : after.top t =
      some (met.refreshed (ZonePolicy.resolve staticComputer (build c))) :=
    hleaves.top_eq fun other hother => le_of_le_of_eq (houtranked.mpr hnot other hother) hown.symm
  have hid : (ZonePolicy.resolve staticComputer (build c)).id = id := hbuild.id c
  unfold TopYields
  rw [htop, ← hid]
  exact yields_refreshed_iff hmet hfresh

theorem forall_mem_iff_forall_split {α : Type} {l : List α} {p : α → Prop} :
    (∀ c ∈ l, p c) ↔ ∀ first c second, l = first ++ c :: second → p c := by
  constructor
  · rintro hall first c second rfl
    exact hall c (by simp)
  · intro hall c hc
    obtain ⟨first, second, hsplit⟩ := List.append_of_mem hc
    exact hall first c second hsplit

/-- **Transient failures.**  Whatever ApplyValues calls fail during an imperative activation and
after it, a later reconcile within the TTL composes the declared value on every claimed axis
without a live entry of higher priority exactly when for each such axis: if the calls of the
pushes before its own are accepted, its push meets no entry of its source with another value;
otherwise the top yields the value already. -/
theorem imperative_claims_composed_iff (env : Env) (condName : String) (rem : Remediation)
    (src : SourceKind) (scene : Scene) (s : World) (t : Time) (retries : List Time)
    (hzone : rem.zone ≠ "") (hcompute : rem.activeCompute = "")
    (hscene : NamesScene env rem scene)
    (hbefore : BeforeCall env rem.zone (activationID src condName) (env.clock s.tick)
      (imperativePriority src) s) :
    let s' := (bridgeImperativeActivate env condName rem src s).2
    let claims := stateClaims rem ++ sceneClaims scene
    let values := declaredValues rem scene
    let build := imperativeActivation env condName (env.clock s.tick) src
    (∀ n < s'.tick, env.clock n ≤ t) → (∀ now ∈ retries, now ≤ t) →
      t ≤ env.clock s.tick + bridgeImperativeTTL →
      ((∀ c ∈ claims,
          NotOutranked t (imperativePriority src)
            ((retried env rem.zone retries s').stackAt rem.zone c.axis) →
          Composes env rem.zone t c.axis values (retried env rem.zone retries s')) ↔
        ∀ first c second, claims = first ++ c :: second →
          NotOutranked t (imperativePriority src) (s.stackAt rem.zone c.axis) →
          (AllAccepted s (pushClaims env rem.zone build first s.next) →
            ∀ ra ∈ (pushClaims env rem.zone build first s.next).stackAt rem.zone c.axis,
              ra.id = activationID src condName → Yields env c.axis values t ra) ∧
          (¬ AllAccepted s (pushClaims env rem.zone build first s.next) →
            TopYields env c.axis values t (s.stackAt rem.zone c.axis))) := by
  intro s' claims values build hnow hretries halive
  have hbuild : Builds (activationID src condName) (env.clock s.tick) bridgeImperativeTTL build :=
    builds_imperativeActivation env condName (env.clock s.tick) src
  have hstatic : ∀ c ∈ claims, c.axis ≠ .unspecified ∧ c.computerName = staticName :=
    fun c hc => ⟨(of_mem_stateSceneClaims hc).2.1, (of_mem_stateSceneClaims hc).1⟩
  have hnext : BeforeCall env rem.zone (activationID src condName) (env.clock s.tick)
      (imperativePriority src) s.next :=
    ⟨hbefore.distinct, hbefore.earlier, hbefore.ownPriority, hbefore.answering⟩
  obtain ⟨done, ⟨skipped, hdone⟩, hrun, hpushed⟩ :=
    pushClaimsUntilError_pushes hzone hbuild.computerName hstatic hnext.answering
  have hs' : s' = pushClaims env rem.zone build done s.next := by
    show (bridgeImperativeActivate env condName rem src s).2 = _
    rw [bridgeImperativeActivate_eq_loop hcompute (hscene.sceneRead _ _), hrun]
  have hnodup : ((done ++ skipped).map Claim.axis).Nodup := by
    rw [hdone]
    exact stateSceneClaims_axes_nodup rem scene
  have hanswering : AnsweringZone env rem.zone (retried env rem.zone retries s') := by
    refine AnsweringZone.retried ?_
    rw [hs']
    refine AnsweringZone.pushClaims hbuild.computerName (fun c hc => (hstatic c ?_).2)
      hnext.answering
    rw [← hdone]
    exact List.mem_append_left _ hc
  -- the retries change nothing that is alive at `t`
  have hlive : ∀ axis, ((retried env rem.zone retries s').stackAt rem.zone axis).live t =
      ((pushClaims env rem.zone build done s.next).stackAt rem.zone axis).live t := by
    intro axis
    rw [retried_live hretries, hs']
  rw [hs'] at hnow
  rw [forall_mem_iff_forall_split]
  refine forall_congr' fun first => forall_congr' fun c => forall_congr' fun second =>
    imp_congr_right fun hsplit => ?_
  have hc : c ∈ claims := by rw [hsplit]; simp
  obtain ⟨hname, haxis, hvalue⟩ := of_mem_stateSceneClaims hc
  have haccepted : AllAccepted s (pushClaims env rem.zone build first s.next) ↔
      first.length < done.length := hpushed first c second hsplit
  rw [composes_iff_topYields hanswering, notOutranked_congr (hlive c.axis),
    topYields_congr (hlive c.axis), haccepted]
  by_cases hlt : first.length < done.length
  · obtain ⟨rest, hrest⟩ : first ++ [c] <+: done :=
      List.prefix_of_prefix_length_le ⟨second, by simpa using hsplit.symm⟩ ⟨skipped, hdone⟩
        (by simpa using hlt)
    rw [List.append_assoc, List.singleton_append] at hrest
    rw [← hrest] at hnow hnodup ⊢
    have hfresh : Yields env c.axis values t (ZonePolicy.resolve staticComputer (build c)) :=
      fun n => hvalue n t env.cfg.location
    have hnodup' : ((first ++ c :: rest).map Claim.axis).Nodup :=
      (List.nodup_append.mp (by rw [List.map_append] at hnodup; exact hnodup)).1
    have hpriority : ∀ c, (build c).priority = imperativePriority src := fun _ => rfl
    obtain ⟨houtranked, hyields⟩ := pushed_claim_iff hbuild hpriority hzone hnext haxis hname
      hnodup' hfresh hnow halive
    rw [houtranked]
    refine imp_congr_right fun hnot => (hyields hnot).trans ?_
    rw [← hrest] at hlt
    exact ⟨fun h => ⟨fun _ => h, fun hnot => absurd hlt hnot⟩, fun h => h.1 hlt⟩
  · have hskipped : c.axis ∉ done.map Claim.axis := by
      obtain ⟨more, rfl⟩ : done <+: first :=
        List.prefix_of_prefix_length_le ⟨skipped, hdone⟩ ⟨_, hsplit.symm⟩ (not_lt.mp hlt)
      have hmem : c ∈ skipped := by
        rw [hsplit, List.append_assoc, List.append_cancel_left_eq] at hdone
        simp [hdone]
      rw [List.map_append] at hnodup
      exact fun hin => (List.nodup_append.mp hnodup).2.2 _ hin _ (List.mem_map_of_mem hmem) rfl
    have hsame : ((pushClaims env rem.zone build done s.next).stackAt rem.zone c.axis).live t =
        (s.stackAt rem.zone c.axis).live t := (pushClaims_of_notMem hskipped).2 t hnow
    rw [notOutranked_congr hsame, topYields_congr hsame]
    refine imp_congr_right fun _ => ?_
    exact ⟨fun h => ⟨fun hin => absurd hin hlt, fun _ => h⟩, fun h => h.2 hlt⟩

def lobbyEnv (away : Nat) : Env :=
  { Env.idle ["lobby"] with
    rpc := fun n _ => if n < away then .failed "unavailable" else .ok
    scene := fun _ name =>
      if name = "evening" then some { brightness := "BRIGHTNESS_DIM" } else none }

def lobbyEvening : Remediation := { zone := "lobby", activeState := "on", activeScene := "evening" }

theorem lobby_beforeCall (away : Nat) :
    BeforeCall (lobbyEnv away) "lobby" (activationID .binding "motion") 0
      (imperativePriority .binding) World.initial := by
  refine @beforeCall_of_run (lobbyEnv away) (fun _ _ h => Int.ofNat_lt.mpr h) ?_ []
    (fun _ he => absurd he List.not_mem_nil) "lobby" "motion" .binding (Or.inr rfl)
  intro name comp hcomp args
  unfold Env.getComputer at hcomp
  split at hcomp
  · cases hcomp
    exact ⟨fun _ => _, fun _ _ => rfl⟩
  · cases hcomp

/-- The first ApplyValues call fails and the Scene's brightness is never pushed: a later
reconcile composes the state alone. -/
theorem lobby_brightness_lost :
    let s' := (bridgeImperativeActivate (lobbyEnv 10) "motion" lobbyEvening .binding World.initial).2
    BeforeCall (lobbyEnv 10) "lobby" (activationID .binding "motion") 0
        (imperativePriority .binding) World.initial ∧
      NamesScene (lobbyEnv 10) lobbyEvening { brightness := "BRIGHTNESS_DIM" } ∧
      (∀ n target, 10 ≤ n → (lobbyEnv 10).rpc n (.applyValues "lobby" target) = .ok) ∧
      s'.stackAt "lobby" .brightness = [] ∧
      (declaredValues lobbyEvening { brightness := "BRIGHTNESS_DIM" }).brightness = .dim ∧
      composeTarget (lobbyEnv 10) "lobby" 50 s' = .ok { state := .on } := by
  intro s'
  refine ⟨lobby_beforeCall 10, fun _ => rfl, fun n target hn => ?_, rfl, rfl, rfl⟩
  show (if n < 10 then _ else _) = _
  rw [if_neg (not_lt.mpr hn)]

/-- With the ZoneKeeper there both values are composed. -/
theorem lobby_evening_composed :
    NamesScene (lobbyEnv 0) lobbyEvening { brightness := "BRIGHTNESS_DIM" } ∧
    ∀ c ∈ stateClaims lobbyEvening ++ sceneClaims { brightness := "BRIGHTNESS_DIM" },
      NotOutranked 50 (imperativePriority .binding)
        ((retried (lobbyEnv 0) "lobby" [] (bridgeImperativeActivate (lobbyEnv 0) "motion"
          lobbyEvening .binding World.initial).2).stackAt "lobby" c.axis) →
      Composes (lobbyEnv 0) "lobby" 50 c.axis
        (declaredValues lobbyEvening { brightness := "BRIGHTNESS_DIM" })
        (retried (lobbyEnv 0) "lobby" [] (bridgeImperativeActivate (lobbyEnv 0) "motion"
          lobbyEvening .binding World.initial).2) := by
  refine ⟨fun _ => rfl, ?_⟩
  refine (imperative_claims_composed_iff (lobbyEnv 0) "motion" lobbyEvening .binding
    { brightness := "BRIGHTNESS_DIM" } World.initial 50 [] (by decide) rfl (fun _ => rfl)
    (lobby_beforeCall 0) ?_ (fun _ h => absurd h List.not_mem_nil) (by decide)).mpr ?_
  · intro n hn
    have htick : (bridgeImperativeActivate (lobbyEnv 0) "motion" lobbyEvening .binding
        World.initial).2.tick ≤ 20 := by decide
    have hle : n ≤ 50 := by omega
    exact Int.ofNat_le.mpr hle
  · intro first c second hsplit _
    -- the brightness comes after the state, whose call is accepted
    have haccepted : AllAccepted World.initial (pushClaims (lobbyEnv 0) "lobby"
        (imperativeActivation (lobbyEnv 0) "motion" 0 .binding) first World.initial.next) := by
      cases first with
      | nil => exact AllAccepted.refl _
      | cons _ tail =>
        obtain ⟨rfl, htail⟩ := List.cons.inj hsplit
        cases tail with
        | nil => exact ⟨_, (List.append_nil _).symm, by decide⟩
        | cons =>
          obtain ⟨-, htail'⟩ := List.cons.inj htail
          exact absurd htail'.symm (by simp)
    refine ⟨fun _ ra hra => ?_, fun hnot => absurd haccepted hnot⟩
    -- the lobby has no entry of the source before either push
    have hnodup := stateSceneClaims_axes_nodup lobbyEvening { brightness := "BRIGHTNESS_DIM" }
    rw [hsplit, List.map_append, List.map_cons] at hnodup
    have hfirst : c.axis ∉ first.map Claim.axis := fun hmem =>
      (List.nodup_append.mp hnodup).2.2 _ hmem _ List.mem_cons_self rfl
    have hempty := (pushClaims_of_notMem hfirst).1.subset hra
    exact absurd hempty List.not_mem_nil

end IotController.Conditioner
